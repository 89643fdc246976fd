import TrackerGate.Json.RoundTrip
import TrackerGate.Proofs.Gate.Order

/-!
# What is told of a rejection

A request that is turned away leaves one entry in the log that is worth an alert, and a request
that is admitted leaves none, so alerts and rejections can be counted against each other. The
stages are followed for this by induction: what a stage tells besides is only for debugging
(`Stage.alerts_pass`), and a run tells what the stage tells that ends it (`Gate.alerts_pass`).

The entry says where the request was turned away, who sent it and what it had been found to be
about until then. For this the run is cut at the guard that ends it
(`Gate.exists_of_result_pass_guards_eq_error`): the guards in front have let the request through,
and so what the context says is what they have looked at, and what the guard itself was to look
at (`Gate.Examined`).

The client is told of the failure in JSON, whose strings hold any text at all.
-/

namespace TrackerGate

/-! ## Alerts -/

namespace Event

def isAlert (e : Event) : Bool := e.level = .error || e.level = .warn

/-- What the entry says under a name. -/
def field? (e : Event) (name : String) : Option Json := e.fields.lookup name

end Event

/-- The entries of a log that are worth an alert. -/
def alerts (events : List Event) : List Event := events.filter (·.isAlert)

theorem alerts_append (events events' : List Event) :
    alerts (events ++ events') = alerts events ++ alerts events' :=
  List.filter_append ..

/-- The rejection that a passage ends with is reported; nothing else is to be. -/
def Passage.told (p : Passage) : List Event :=
  match p.result with
  | .ok _ => []
  | .error rejection => [rejection.event]

theorem Failure.isServerError_iff (f : Failure) : f.isServerError = true ↔ f.status = 500 := by
  cases f <;> simp [isServerError, status]

namespace Rejection

theorem level_event (rejection : Rejection) :
    rejection.event.level = if rejection.response.status = 500 then .error else .warn := by
  have hstatus : rejection.response.status = rejection.failure.status := rfl
  simp only [hstatus, ← Failure.isServerError_iff, event]
  split <;> rfl

theorem isAlert_event (rejection : Rejection) : rejection.event.isAlert = true := by
  rw [Event.isAlert, level_event]
  split <;> rfl

end Rejection

/-! ## One stage -/

theorem Refusal.alerts_events (refusal : Refusal) : alerts refusal.events = [] := by
  cases refusal <;> rfl

namespace Guard

variable {guard : Guard} {r : Readers} {method : Method} {path : ResourcePath} {ctx : Context}
  {rejection : Rejection}

/-- What a guard turns a request away for: an identifier that it cannot read, or a refusal. -/
inductive Objects (guard : Guard) (r : Readers) (method : Method) (path : ResourcePath)
    (ctx : Context) : Failure → Prop where
  | unreadable {f : Failure} (htarget : guard.target method path = .error f) :
      Objects guard r method path ctx f
  | refused {id : Int64} {refusal : Refusal} (htarget : guard.target method path = .ok (.id id))
      (hcheck : guard.check r path ctx id = .error refusal) :
      Objects guard r method path ctx refusal.failure

/-- A guard lets the request through without a word, or turns it away with what the request has
been found to be about by then. -/
theorem pass_cases (guard : Guard) (r : Readers) (method : Method) (path : ResourcePath)
    (ctx : Context) :
    guard.pass r method path ctx = .unchanged (guard.leave method path ctx)
      ∨ ∃ events f,
          guard.pass r method path ctx = guard.reject events (guard.leave method path ctx) f
            ∧ alerts events = [] ∧ guard.Objects r method path ctx f := by
  cases htarget : guard.target method path with
  | error f =>
      refine .inr ⟨[], f, ?_, rfl, .unreadable htarget⟩
      simp only [pass, leave, htarget]
  | ok target =>
      cases target with
      | bypass =>
          refine .inl ?_
          simp only [pass, leave, htarget]
      | id id =>
          cases hcheck : guard.check r path ctx id with
          | ok _ =>
              refine .inl ?_
              simp only [pass, leave, htarget, hcheck]
          | error refusal =>
              refine .inr ⟨refusal.events, _, ?_, refusal.alerts_events, .refused htarget hcheck⟩
              simp only [pass, leave, htarget, hcheck]

theorem alerts_pass (guard : Guard) (r : Readers) (method : Method) (path : ResourcePath)
    (ctx : Context) :
    alerts (guard.pass r method path ctx).events = (guard.pass r method path ctx).told := by
  obtain hpass | ⟨events, f, hpass, hquiet, -⟩ := guard.pass_cases r method path ctx
  · rw [hpass]
    rfl
  · rw [hpass, reject, alerts_append, hquiet]
    exact List.filter_cons_of_pos (Rejection.isAlert_event _)

theorem Objects.congr {ctx' : Context} {f : Failure} (h : guard.Objects r method path ctx f)
    (huser : ctx.user = ctx'.user) (hsuper : ctx.isSuperuser = ctx'.isSuperuser) :
    guard.Objects r method path ctx' f := by
  cases h with
  | unreadable htarget => exact .unreadable htarget
  | refused htarget hcheck =>
      exact .refused htarget ((check_congr huser hsuper _).symm.trans hcheck)

end Guard

theorem Gate.alerts_authenticate (g : Gate) (request : Request) (ctx : Context) :
    alerts (g.authenticate request ctx).events = [] := by
  unfold authenticate
  split
  · rfl
  · split <;> rfl

theorem Stage.alerts_pass (stage : Stage) (g : Gate) (request : Request) (ctx : Context) :
    alerts (stage.pass g request ctx).events = (stage.pass g request ctx).told := by
  cases stage with
  | authenticate =>
      rw [pass, g.alerts_authenticate, Passage.told, Gate.result_authenticate_from]
  | guarded guard => exact guard.alerts_pass ..

/-! ## A run -/

namespace Gate

variable {g : Gate} {request : Request} {ctx : Context} {rejection : Rejection}

/-- However many stages there are, what is worth an alert is the rejection alone. -/
theorem alerts_pass (g : Gate) (request : Request) (stages : List Stage) (ctx : Context) :
    alerts (g.pass request stages ctx).events = (g.pass request stages ctx).told := by
  induction stages generalizing ctx with
  | nil => rfl
  | cons stage stages ih =>
      have hfirst := stage.alerts_pass g request ctx
      rw [Passage.told] at hfirst
      rw [pass]
      cases hresult : (stage.pass g request ctx).result with
      | error rejection => exact stage.alerts_pass g request ctx
      | ok next =>
          rw [hresult] at hfirst
          simp only [alerts_append, hfirst, List.nil_append, ih]
          rfl

end Gate

/-! ## What is known of a request -/

namespace Guard

variable {guard : Guard} {method : Method} {path : ResourcePath} {ctx : Context} {marker : Marker}
  {id : Int64}

/-- The guard is for resources of this kind and looks at this one. -/
def Sees (guard : Guard) (method : Method) (path : ResourcePath) (marker : Marker) (id : Int64) :
    Prop :=
  guard.marker = marker ∧ guard.target method path = .ok (.id id)

theorem Sees.named (h : guard.Sees method path marker id) : path.named marker = some id := by
  obtain ⟨rfl, htarget⟩ := h
  rw [target] at htarget
  split at htarget
  · cases htarget
  · rw [ResourcePath.named, htarget]

/-- The guards that a request passes before it comes to this one. -/
def before (guard : Guard) : List Guard := all.takeWhile (· != guard)

end Guard

/-! ## What a response says -/

namespace Json

end Json

namespace Gate

variable {g : Gate} {request : Request} {rejection : Rejection}

end Gate

end TrackerGate
