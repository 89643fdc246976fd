import TrackerGate.Proofs.Gate.FailClosed

/-!
# The order of the stages

What becomes of a request is settled by the first of four checks that has an objection
(`Guard.objection`), in an order that depends on the method and on the path alone
(`Guard.due`). `Gate.verdict` says so without any stages, and `verdict_run` is the proof that
a run through the stages comes to this verdict, by induction over the guards. Lookups that
are not made on the way have no part in it (`result_run_congr`).

The contexts along a run are told by one invariant: a context knows nothing but what is so of
the request, who it comes from and what its path names (`Context.Kept`). A stage keeps what
the context knows and stays within these bounds, whether it lets the request through or turns
it away, and so does any number of stages (`kept_context_pass`). All of this together is what
it means for a service to be orderly (`Service.Orderly`).
-/

namespace TrackerGate

/-! ## The verdict -/

namespace Guard

/-- The checks that a request has to pass, in their order. One that only reads is not asked
for management, and the statistics of a project are only read. -/
def due (method : Method) (path : ResourcePath) : List Guard :=
  if method = .get ∨ method = .head then [.projectAccess, .issueAccess]
  else if path.after .projects 2 = some "stats" then
    [.projectAccess, .issueAccess, .issueManagement]
  else [.projectAccess, .projectManagement, .issueAccess, .issueManagement]

/-- What there is against a request that is about `target`: that the identifier cannot be read,
or that a check refuses. -/
def objectionTo (target : Except Failure Target) (check : Int64 → Check Unit) :
    Option Failure :=
  match target with
  | .error f => some f
  | .ok .bypass => none
  | .ok (.id id) =>
      match check id with
      | .ok () => none
      | .error refusal => some refusal.failure

/-- What the guard has against the request of `ctx`, if it is due. Of the four checks only the
one on the management of a project looks at more of the path than the identifier. -/
def objection (guard : Guard) (r : Readers) (path : ResourcePath) (ctx : Context) :
    Option Failure :=
  match guard with
  | .projectAccess => objectionTo (path.target .projects) (Access.readProject r ctx)
  | .projectManagement =>
      objectionTo (path.target .projects)
        fun id => Access.manageProject r ctx id path.isIssueManagement
  | .issueAccess => objectionTo (path.target .issues) (Access.readIssue r ctx)
  | .issueManagement => objectionTo (path.target .issues) (Access.manageIssue r ctx)

/-- What a guard has against a request is what its check has. -/
theorem objection_eq (guard : Guard) (r : Readers) (path : ResourcePath) (ctx : Context) :
    guard.objection r path ctx
      = objectionTo (path.target guard.marker) (guard.check r path ctx) := by
  cases guard <;> rfl

end Guard

/-- Who turned the request away, and why; nothing if it goes on. -/
def Passage.verdict (p : Passage) : Option (Guard × Failure) :=
  match p.result with
  | .error rejection => some (rejection.guard, rejection.failure)
  | .ok _ => none

/-- The first objection to a request, and whose it is. -/
def Gate.verdict (g : Gate) (request : Request) : Option (Guard × Failure) :=
  (Guard.due request.method (.ofText request.path)).findSome? fun guard =>
    (guard.objection g.readers (.ofText request.path) (.ofCaller (g.caller request))).map
      (guard, ·)

namespace Guard

variable {guard : Guard} {r : Readers} {method : Method} {path : ResourcePath} {ctx ctx' : Context}

theorem objection_congr (huser : ctx.user = ctx'.user)
    (hsuper : ctx.isSuperuser = ctx'.isSuperuser) :
    guard.objection r path ctx = guard.objection r path ctx' := by
  rw [objection_eq, objection_eq, funext (check_congr huser hsuper)]

theorem pass_of_isWaived (hwaived : guard.isWaived method path = true) :
    guard.pass r method path ctx = .unchanged ctx := by
  rw [pass, target, if_pos hwaived]

theorem verdict_pass (hdue : guard.isWaived method path = false) :
    (guard.pass r method path ctx).verdict = (guard.objection r path ctx).map (guard, ·) := by
  rw [objection_eq, pass, target, hdue, if_neg Bool.false_ne_true]
  unfold objectionTo
  cases path.target guard.marker with
  | error f => rfl
  | ok target =>
      cases target with
      | bypass => rfl
      | id id => cases hcheck : guard.check r path ctx id <;> simp [hcheck] <;> rfl

/-- The guards that are not waived are those that are due. -/
theorem filter_all (hmethod : method ≠ .options) :
    all.filter (fun guard => !guard.isWaived method path) = due method path := by
  have hproject : projectManagement.isWaived method path = true
      ↔ method = .get ∨ method = .head ∨ path.after .projects 2 = some "stats" :=
    isWaived_projectManagement_iff hmethod
  have hissue : issueManagement.isWaived method path = true ↔ method = .get ∨ method = .head :=
    isWaived_issueManagement_iff hmethod
  have haccess : projectAccess.isWaived method path = false := rfl
  have haccess' : issueAccess.isWaived method path = false := rfl
  unfold all due
  by_cases hread : method = .get ∨ method = .head
  · rw [if_pos hread]
    have hproject := hproject.mpr (hread.imp_right .inl)
    have hissue := hissue.mpr hread
    simp [haccess, haccess', hproject, hissue]
  · rw [if_neg hread]
    rw [← hissue, Bool.not_eq_true] at hread
    by_cases hstats : path.after .projects 2 = some "stats"
    · have hproject := hproject.mpr (.inr (.inr hstats))
      simp [haccess, haccess', hproject, hread, hstats]
    · have hproject : projectManagement.isWaived method path = false := by
        rw [← Bool.not_eq_true, hproject, ← or_assoc, ← hissue, hread]
        simp [hstats]
      simp [haccess, haccess', hproject, hread, hstats]

/-- In front of the first check of a kind of resource there are those of the other kind, if
any. -/
theorem exists_due_eq_append (method : Method) (path : ResourcePath) (marker : Marker) :
    ∃ before access after, due method path = before ++ access :: after
      ∧ access.marker = marker ∧ access.isManagement = false
      ∧ ∀ guard ∈ before, guard.marker = .projects ∧ marker = .issues := by
  cases marker with
  | projects =>
      unfold due
      split
      · exact ⟨[], .projectAccess, _, rfl, rfl, rfl, nofun⟩
      · split
        · exact ⟨[], .projectAccess, _, rfl, rfl, rfl, nofun⟩
        · exact ⟨[], .projectAccess, _, rfl, rfl, rfl, nofun⟩
  | issues =>
      unfold due
      split
      · exact ⟨[.projectAccess], .issueAccess, _, rfl, rfl, rfl, by decide⟩
      · split
        · exact ⟨[.projectAccess], .issueAccess, _, rfl, rfl, rfl, by decide⟩
        · exact ⟨[.projectAccess, .projectManagement], .issueAccess, _, rfl, rfl, rfl, by decide⟩

end Guard

namespace Gate

variable {g g' : Gate} {request : Request} {ctx ctx' : Context}

theorem verdict_pass_cons {stage : Stage} {stages : List Stage} :
    (g.pass request (stage :: stages) ctx).verdict
      = match (stage.pass g request ctx).result with
        | .error rejection => some (rejection.guard, rejection.failure)
        | .ok ctx => (g.pass request stages ctx).verdict := by
  rw [pass]
  cases hresult : (stage.pass g request ctx).result <;> simp [Passage.verdict, hresult]

/-- The verdict on a run through guards is the first objection of one that is not waived. -/
theorem verdict_pass_guards {guards : List Guard} :
    (g.pass request (guards.map .guarded) ctx).verdict
      = (guards.filter fun guard => !guard.isWaived request.method (.ofText request.path)).findSome?
          fun guard =>
            (guard.objection g.readers (.ofText request.path) ctx).map (guard, ·) := by
  induction guards generalizing ctx with
  | nil => rfl
  | cons guard guards ih =>
      rw [List.map_cons, verdict_pass_cons]
      cases hwaived : guard.isWaived request.method (.ofText request.path) with
      | true =>
          rw [List.filter_cons_of_neg (by simp [hwaived]), ← ih]
          simp only [Stage.pass, Guard.pass_of_isWaived hwaived, Passage.unchanged]
      | false =>
          rw [List.filter_cons_of_pos (by simp [hwaived]), List.findSome?_cons,
            ← Guard.verdict_pass hwaived]
          simp only [Stage.pass]
          cases hresult : (guard.pass g.readers request.method (.ofText request.path) ctx).result with
          | error rejection => simp only [Passage.verdict, hresult]
          | ok next =>
              -- The others object to what this guard has added as much as to what it was given.
              obtain ⟨-, rfl⟩ := Guard.result_pass_eq_ok_iff.mp hresult
              simp only [Passage.verdict, hresult]
              rw [← Passage.verdict, ih]
              simp only [Guard.objection_congr Guard.user_leave Guard.isSuperuser_leave]

/-- A run through all stages comes to the verdict on the request. -/
theorem verdict_run (g : Gate) (hmethod : request.method ≠ .options) :
    (g.run request).verdict = g.verdict request := by
  rw [Passage.verdict, result_run, ← Passage.verdict, verdict, ← Guard.filter_all hmethod]
  exact verdict_pass_guards

/-- An identifier that cannot be read is objected to by the first check of its kind. -/
theorem verdict_of_target_eq_error (g : Gate) {marker : Marker} {f : Failure}
    (htarget : (ResourcePath.ofText request.path).target marker = .error f) :
    ∃ guard failure, g.verdict request = some (guard, failure)
      ∧ (marker = .projects ∨ guard.marker = marker →
          guard.isManagement = false ∧ failure = f) := by
  obtain ⟨before, access, after, hdue, hmarker, haccess, hbefore⟩ :=
    Guard.exists_due_eq_append request.method (.ofText request.path) marker
  have hobjection : access.objection g.readers (.ofText request.path)
      (.ofCaller (g.caller request)) = some f := by
    rw [Guard.objection_eq, hmarker, htarget]
    rfl
  rw [verdict, hdue, List.findSome?_append]
  cases hearlier : before.findSome? fun guard =>
      (guard.objection g.readers (.ofText request.path) (.ofCaller (g.caller request))).map
        (guard, ·) with
  | none =>
      rw [List.findSome?_cons, hobjection]
      exact ⟨access, f, rfl, fun _ => ⟨haccess, rfl⟩⟩
  | some earlier =>
      obtain ⟨guard, hmem, hguard⟩ := List.exists_of_findSome?_eq_some hearlier
      obtain ⟨failure, -, rfl⟩ := Option.map_eq_some_iff.mp hguard
      obtain ⟨hproject, rfl⟩ := hbefore guard hmem
      refine ⟨guard, failure, rfl, fun h => ?_⟩
      rw [hproject] at h
      cases h with
      | inl h => cases h
      | inr h => cases h

end Gate

/-! ## Lookups on the way -/

namespace Guard

/-- The guard makes the lookup: whatever its failure is, the request is turned away for it. -/
def Consults (guard : Guard) (r : Readers) (method : Method) (path : ResourcePath)
    (ctx : Context) (lookup : Lookup) : Prop :=
  ∀ failure, ∃ ctx',
    (guard.pass (r.failing (lookup.only failure)) method path ctx).result
      = .error ⟨guard, ctx', failure⟩

variable {guard : Guard} {r r' : Readers} {method : Method} {path : ResourcePath} {ctx : Context}

/-- What a guard does depends on the lookups that it makes and on no others. -/
theorem pass_congr
    (h : ∀ lookup, guard.Consults r method path ctx lookup → r.AgreeOn r' lookup) :
    guard.pass r method path ctx = guard.pass r' method path ctx := by
  cases htarget : guard.target method path with
  | error f => simp only [pass, htarget]
  | ok target =>
      cases target with
      | bypass => simp only [pass, htarget]
      | id id =>
          have hcheck : guard.check r path ctx id = guard.check r' path ctx id := by
            refine (isInquiry_check guard path ctx id).congr r r' fun lookup hmade => ?_
            refine h lookup fun failure => ⟨guard.mark ctx id, ?_⟩
            simp only [pass, htarget, hmade failure]
            rfl
          simp only [pass, htarget, hcheck]

/-- A path that cannot be read is an objection by itself. -/
theorem not_consults_of_target_eq_error {f : Failure} (htarget : path.target guard.marker = .error f)
    (lookup : Lookup) : ¬ guard.Consults r method path ctx lookup := by
  intro hmade
  by_cases hwaived : guard.isWaived method path = true
  · obtain ⟨_, hresult⟩ := hmade f
    rw [pass_of_isWaived hwaived] at hresult
    cases hresult
  · -- The failure is the same for all faults, but not every fault is that failure.
    have hsame : ∀ failure : Failure, f = failure := by
      intro failure
      obtain ⟨_, hresult⟩ := hmade failure
      rw [pass, target, if_neg hwaived, htarget] at hresult
      exact congrArg Rejection.failure (Except.error.inj hresult)
    cases (hsame .database).symm.trans (hsame (.internal ""))

end Guard

namespace Gate

variable {g g' : Gate} {request : Request} {ctx ctx' : Context}

/-- The run depends on nothing but what the stages do that the request arrives at. -/
theorem result_pass_congr {stages : List Stage}
    (h : ∀ before stage after ctx', stages = before ++ stage :: after →
      (g.pass request before ctx).result = .ok ctx' →
        (stage.pass g request ctx').result = (stage.pass g' request ctx').result) :
    (g.pass request stages ctx).result = (g'.pass request stages ctx).result := by
  induction stages generalizing ctx with
  | nil => rfl
  | cons stage stages ih =>
      have hfirst := h [] stage stages ctx rfl rfl
      rw [result_pass_cons, result_pass_cons, ← hfirst]
      cases hresult : (stage.pass g request ctx).result with
      | error rejection => rfl
      | ok next =>
          refine ih fun before other after ctx' hsplit hbefore => ?_
          refine h (stage :: before) other after ctx' (by rw [hsplit]; rfl) ?_
          rw [result_pass_cons, hresult]
          exact hbefore

/-- The request gets as far as the guard, with this context. -/
def Arrives (g : Gate) (request : Request) (guard : Guard) (ctx : Context) : Prop :=
  ∃ before after, Stage.all = before ++ .guarded guard :: after
    ∧ (g.pass request before .anonymous).result = .ok ctx

/-- What becomes of a request is not the business of lookups that would be made later. -/
theorem result_run_congr (hcaller : g.caller request = g'.caller request)
    (h : ∀ guard ctx, g.Arrives request guard ctx → ∀ lookup,
      guard.Consults g.readers request.method (.ofText request.path) ctx lookup →
        g.readers.AgreeOn g'.readers lookup) :
    (g.run request).result = (g'.run request).result := by
  refine result_pass_congr fun before stage after ctx' hsplit hbefore => ?_
  cases stage with
  | authenticate =>
      simp only [Stage.pass, result_authenticate_from, hcaller]
  | guarded guard =>
      exact congrArg Passage.result (Guard.pass_congr (h guard ctx' ⟨before, after, hsplit, hbefore⟩))

end Gate

/-! ## Contexts along a run -/

namespace Context

/-- What `ctx` knows is so in `ctx'`. -/
structure Kept (ctx ctx' : Context) : Prop where
  user : ∀ user, ctx.user = some user →
    ctx'.user = some user ∧ ctx'.isSuperuser = ctx.isSuperuser
  project : ∀ id, ctx.project = some id → ctx'.project = some id
  issue : ∀ id, ctx.issue = some id → ctx'.issue = some id

variable {ctx ctx' ctx'' : Context}

theorem Kept.refl (ctx : Context) : ctx.Kept ctx where
  user _ h := ⟨h, rfl⟩
  project _ h := h
  issue _ h := h

theorem Kept.trans (h : ctx.Kept ctx') (h' : ctx'.Kept ctx'') : ctx.Kept ctx'' where
  user user huser := by
    obtain ⟨huser', hsuper⟩ := h.user user huser
    obtain ⟨huser'', hsuper'⟩ := h'.user user huser'
    exact ⟨huser'', hsuper'.trans hsuper⟩
  project id hid := h'.project id (h.project id hid)
  issue id hid := h'.issue id (h.issue id hid)

theorem anonymous_kept (ctx : Context) : Context.Kept .anonymous ctx where
  user _ h := nomatch h
  project _ h := nomatch h
  issue _ h := nomatch h

end Context

/-- The context that a request goes on with, or is turned away with. -/
def Passage.context (p : Passage) : Context :=
  match p.result with
  | .error rejection => rejection.ctx
  | .ok ctx => ctx

/-- All that is so of a request: whose it is, and what its path names. -/
def Gate.known (g : Gate) (request : Request) : Context :=
  (Context.ofCaller (g.caller request)).about (.ofText request.path)

/-- What `ctx` knows is kept, and what is `known` is not gone beyond. -/
structure Passage.Keeps (p : Passage) (ctx known : Context) : Prop where
  kept : ctx.Kept p.context
  within : p.context.Kept known

namespace Guard

variable {guard : Guard} {r : Readers} {method : Method} {path : ResourcePath}
  {ctx known : Context}

/-- A guard leaves the context as it is, or marks it with what the path names. -/
theorem context_pass (guard : Guard) (r : Readers) (method : Method) (path : ResourcePath)
    (ctx : Context) :
    (guard.pass r method path ctx).context = ctx
      ∨ ∃ id, path.named guard.marker = some id
          ∧ (guard.pass r method path ctx).context = guard.mark ctx id := by
  by_cases hwaived : guard.isWaived method path = true
  · exact .inl (by rw [pass_of_isWaived hwaived]; rfl)
  · unfold pass
    rw [target, if_neg hwaived]
    cases htarget : path.target guard.marker with
    | error f => exact .inl rfl
    | ok target =>
        cases target with
        | bypass => exact .inl rfl
        | id id =>
            refine .inr ⟨id, by rw [ResourcePath.named, htarget], ?_⟩
            cases hcheck : guard.check r path ctx id <;> simp only [hcheck] <;> rfl

theorem keeps_pass (hproject : known.project = path.named .projects)
    (hissue : known.issue = path.named .issues) (hctx : ctx.Kept known) :
    (guard.pass r method path ctx).Keeps ctx known := by
  rcases context_pass guard r method path ctx with hsame | ⟨id, hid, hmark⟩
  · exact ⟨by rw [hsame]; exact .refl ctx, by rw [hsame]; exact hctx⟩
  · -- A field that was set already was set to this identifier.
    unfold mark at hmark
    cases hmarker : guard.marker with
    | projects =>
        rw [hmarker] at hid hmark
        have hknown := hproject.trans hid
        refine ⟨hmark ▸ ⟨fun _ h => ⟨h, rfl⟩, fun id' h => ?_, fun _ h => h⟩,
          hmark ▸ ⟨hctx.user, fun id' h => hknown.trans h, hctx.issue⟩⟩
        exact hknown.symm.trans (hctx.project id' h)
    | issues =>
        rw [hmarker] at hid hmark
        have hknown := hissue.trans hid
        refine ⟨hmark ▸ ⟨fun _ h => ⟨h, rfl⟩, fun _ h => h, fun id' h => ?_⟩,
          hmark ▸ ⟨hctx.user, hctx.project, fun id' h => hknown.trans h⟩⟩
        exact hknown.symm.trans (hctx.issue id' h)

end Guard

namespace Gate

variable {g : Gate} {request : Request} {ctx ctx' : Context}

theorem keeps_authenticate (hctx : ctx.Kept (g.known request)) :
    (g.authenticate request ctx).Keeps ctx (g.known request) := by
  have hcontext : (g.authenticate request ctx).context
      = (g.caller request).elim ctx fun user => ctx.withPrincipal user.id user.isSuperuser := by
    rw [Passage.context, result_authenticate_from]
  cases hcaller : g.caller request with
  | none =>
      rw [hcaller] at hcontext
      exact ⟨hcontext ▸ .refl ctx, hcontext ▸ hctx⟩
  | some user =>
      rw [hcaller] at hcontext
      have hknown : g.known request
          = (Context.ofCaller (some user)).about (.ofText request.path) := by rw [known, hcaller]
      refine ⟨hcontext ▸ ⟨fun id h => ?_, fun _ h => h, fun _ h => h⟩,
        hcontext ▸ ⟨fun id h => ?_, hctx.project, hctx.issue⟩⟩
      · -- Whoever was known to ask is the caller.
        obtain ⟨huser, hsuper⟩ := hctx.user id h
        rw [hknown] at huser hsuper
        exact ⟨huser, hsuper⟩
      · rw [hknown]
        exact ⟨h, rfl⟩

theorem keeps_stage (stage : Stage) (hctx : ctx.Kept (g.known request)) :
    (stage.pass g request ctx).Keeps ctx (g.known request) := by
  cases stage with
  | authenticate => exact keeps_authenticate hctx
  | guarded guard => exact Guard.keeps_pass rfl rfl hctx

theorem keeps_pass (stages : List Stage) (hctx : ctx.Kept (g.known request)) :
    (g.pass request stages ctx).Keeps ctx (g.known request) := by
  induction stages generalizing ctx with
  | nil => exact ⟨.refl ctx, hctx⟩
  | cons stage stages ih =>
      obtain ⟨hkept, hwithin⟩ := keeps_stage stage hctx
      unfold Passage.context at hkept hwithin
      cases hresult : (stage.pass g request ctx).result with
      | error rejection =>
          have hcontext : (g.pass request (stage :: stages) ctx).context = rejection.ctx := by
            rw [Passage.context, result_pass_cons, hresult]
            rfl
          simp only [hresult] at hkept hwithin
          exact ⟨hcontext ▸ hkept, hcontext ▸ hwithin⟩
      | ok next =>
          have hcontext : (g.pass request (stage :: stages) ctx).context
              = (g.pass request stages next).context := by
            rw [Passage.context, result_pass_cons, hresult]
            rfl
          simp only [hresult] at hkept hwithin
          obtain ⟨hkept', hwithin'⟩ := ih hwithin
          exact ⟨hcontext ▸ hkept.trans hkept', hcontext ▸ hwithin'⟩

/-- Wherever a request has got to, what its context says is not changed by any further
stages. -/
theorem kept_context_pass (before after : List Stage)
    (h : (g.pass request before .anonymous).result = .ok ctx) :
    ctx.Kept (g.pass request after ctx).context := by
  have hcontext : (g.pass request before .anonymous).context = ctx := by
    rw [Passage.context, h]
  have hwithin := (keeps_pass before (Context.anonymous_kept (g.known request))).within
  rw [hcontext] at hwithin
  exact (keeps_pass after hwithin).kept

end Gate

/-! ## Orderly services -/

theorem ResourcePath.status_of_target_eq_error {path : ResourcePath} {marker : Marker}
    {f : Failure} (h : path.target marker = .error f) : f.status = 400 := by
  unfold target at h
  cases hsegment : path.after marker 1 with
  | none =>
      rw [hsegment] at h
      cases h
  | some segment =>
      rw [hsegment] at h
      simp only [classify] at h
      split at h
      · cases h
      · split at h
        · cases h
        · obtain rfl := Except.error.inj h
          rfl

theorem Passage.result_eq_error_of_verdict {p : Passage} {guard : Guard} {f : Failure}
    (h : p.verdict = some (guard, f)) : ∃ ctx, p.result = .error ⟨guard, ctx, f⟩ := by
  unfold verdict at h
  cases hresult : p.result with
  | error rejection =>
      rw [hresult] at h
      obtain ⟨rfl, rfl⟩ := Prod.mk.inj (Option.some.inj h)
      exact ⟨rejection.ctx, rfl⟩
  | ok ctx =>
      rw [hresult] at h
      cases h

theorem Passage.result_eq_ok_of_verdict {p : Passage} (h : p.verdict = none) :
    ∃ ctx, p.result = .ok ctx := by
  unfold verdict at h
  cases hresult : p.result with
  | error rejection =>
      rw [hresult] at h
      cases h
  | ok ctx => exact ⟨ctx, rfl⟩

namespace Service

/-- How a service deals with a request. -/
structure Orderly (s : Service) (request : Request) : Prop where
  /-- The first check with an objection turns the request away and gives the response. -/
  rejected : ∀ guard f, s.gate.verdict request = some (guard, f) →
    (∃ ctx, (s.gate.run request).result = .error ⟨guard, ctx, f⟩)
      ∧ (s.answer request).response = crossOrigin (Response.ofFailure f).withLength
  /-- Without an objection the handler gets the request, and is told what is so of it. -/
  admitted : s.gate.verdict request = none → ∃ ctx,
    (s.gate.run request).result = .ok ctx
      ∧ (s.answer request).response = crossOrigin (s.handle request ctx).response
      ∧ ctx.user = (s.gate.caller request).map (·.id)
      ∧ ctx.isSuperuser = (s.gate.caller request).any (·.isSuperuser)
      ∧ (∀ id, ctx.project = some id
          ↔ (ResourcePath.ofText request.path).target .projects = .ok (.id id))
      ∧ ∀ id, ctx.issue = some id
          ↔ (ResourcePath.ofText request.path).target .issues = .ok (.id id)
  /-- Lookups that would have been made later make no difference. -/
  unread : ∀ s' : Service, s.gate.caller request = s'.gate.caller request →
    (∀ guard ctx, s.gate.Arrives request guard ctx → ∀ lookup,
      guard.Consults s.gate.readers request.method (.ofText request.path) ctx lookup →
        s.gate.readers.AgreeOn s'.gate.readers lookup) →
      (s'.gate.run request).result = (s.gate.run request).result
        ∧ ∀ guard f, s.gate.verdict request = some (guard, f) →
            (s'.answer request).response = (s.answer request).response
  /-- An identifier that cannot be read is told by the first check of its kind, unless the
  other kind comes first and has an objection, and nothing is looked up for it. -/
  unreadable : ∀ marker f, (ResourcePath.ofText request.path).target marker = .error f →
    (∃ rejection, (s.gate.run request).result = .error rejection
        ∧ (marker = .projects ∨ rejection.guard.marker = marker →
            rejection.guard.isManagement = false ∧ rejection.failure = f
              ∧ (s.answer request).response.status = 400))
      ∧ ∀ (guard : Guard) (ctx : Context) (lookup : Lookup), guard.marker = marker →
          ¬ guard.Consults s.gate.readers request.method (.ofText request.path) ctx lookup
  /-- Whatever the stages, what the context says on the way is kept. -/
  kept : ∀ before after ctx, (s.gate.pass request before .anonymous).result = .ok ctx →
    ctx.Kept (s.gate.pass request after ctx).context

/-- Any service deals with any request in this way, whatever its lookups answer. -/
theorem orderly_of_method_ne_options (s : Service) {request : Request}
    (hmethod : request.method ≠ .options) : s.Orderly request where
  rejected guard f hverdict := by
    rw [← Gate.verdict_run s.gate hmethod] at hverdict
    obtain ⟨ctx, hrun⟩ := Passage.result_eq_error_of_verdict hverdict
    exact ⟨⟨ctx, hrun⟩, response_of_run_error hmethod hrun⟩
  admitted hverdict := by
    rw [← Gate.verdict_run s.gate hmethod] at hverdict
    obtain ⟨ctx, hrun⟩ := Passage.result_eq_ok_of_verdict hverdict
    refine ⟨ctx, hrun, response_of_run_ok hmethod hrun, ?_⟩
    obtain ⟨-, rfl⟩ := Gate.result_run_eq_ok_iff.mp hrun
    have hnamed (marker : Marker) (id : Int64) :
        (ResourcePath.ofText request.path).named marker = some id
          ↔ (ResourcePath.ofText request.path).target marker = .ok (.id id) := by
      rw [ResourcePath.named_eq_some_iff, ResourcePath.target_eq_id_iff]
    refine ⟨?_, ?_, hnamed .projects, hnamed .issues⟩
    · cases s.gate.caller request <;> rfl
    · cases s.gate.caller request <;> rfl
  unread s' hcaller hagree := by
    have hresult := Gate.result_run_congr hcaller hagree
    refine ⟨hresult.symm, fun guard f hverdict => ?_⟩
    rw [← Gate.verdict_run s.gate hmethod] at hverdict
    obtain ⟨ctx, hrun⟩ := Passage.result_eq_error_of_verdict hverdict
    rw [response_of_run_error hmethod hrun, response_of_run_error hmethod (hresult ▸ hrun)]
  unreadable marker f htarget := by
    obtain ⟨guard, failure, hverdict, hfirst⟩ := s.gate.verdict_of_target_eq_error htarget
    rw [← Gate.verdict_run s.gate hmethod] at hverdict
    obtain ⟨ctx, hrun⟩ := Passage.result_eq_error_of_verdict hverdict
    refine ⟨⟨_, hrun, fun hmarker => ?_⟩, ?_⟩
    · obtain ⟨haccess, rfl⟩ := hfirst hmarker
      have hstatus := ResourcePath.status_of_target_eq_error htarget
      rw [response_of_run_error hmethod hrun]
      exact ⟨haccess, rfl, hstatus⟩
    · rintro guard ctx lookup rfl
      exact Guard.not_consults_of_target_eq_error htarget lookup
  kept before after _ := Gate.kept_context_pass before after

/-- The member of the first team asks for an issue that no number names, and then for one
that is there. -/
theorem twoTeams_orderly :
    let s : Service := { gate := Gate.twoTeams, databaseFault := none, handler := some echo }
    (Gate.changeAt "/api/projects/1/issues/abc").method ≠ .options
      ∧ (s.answer (Gate.changeAt "/api/projects/1/issues/abc")).response.status = 400
      ∧ ∃ ctx, (s.gate.run (Gate.changeAt "/api/projects/1/issues/10/status")).result = .ok ctx
          ∧ ctx.user = some 5 ∧ ctx.issue = some 10 := by
  intro s
  have hmethod (path : String) : (Gate.changeAt path).method ≠ .options := by
    show (⟨"PUT"⟩ : Method) ≠ .options
    decide
  refine ⟨hmethod _, ?_, ?_⟩
  · have hverdict : s.gate.verdict (Gate.changeAt "/api/projects/1/issues/abc")
        = some (.issueAccess, .badRequest "invalid issue id: abc") := by
      rw [Gate.verdict, Gate.caller_changeAt]
      rfl
    rw [((orderly_of_method_ne_options s (hmethod _)).rejected _ _ hverdict).2]
    rfl
  · have hverdict : s.gate.verdict (Gate.changeAt "/api/projects/1/issues/10/status") = none := by
      rw [Gate.verdict, Gate.caller_changeAt]
      rfl
    obtain ⟨ctx, hrun, -, huser, -, -, hissue⟩ :=
      (orderly_of_method_ne_options s (hmethod _)).admitted hverdict
    rw [Gate.caller_changeAt] at huser
    exact ⟨ctx, hrun, huser, (hissue 10).mpr rfl⟩

end Service

end TrackerGate
