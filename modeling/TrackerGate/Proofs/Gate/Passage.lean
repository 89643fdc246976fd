import TrackerGate.Proofs.Access.Standing
import TrackerGate.Service.Basic

/-!
# The way through the gate

When a request comes out behind the last stage, and with what context, for all readers.

Authentication never stops a request; it turns the context that knows nothing into that
of the caller (`result_authenticate`). A guard lets a request through if it clears it
(`Guard.Clears`): the path is well-formed as far as the guard looks at it, and the check
of what is named there succeeds. What a guard adds to a context is of no interest to any
check, so the guards do not depend on each other, and a run through them is a matter of
each guard and the caller alone (`result_pass_guards_eq_ok_iff`). Of the context, the
guards of one kind of resource fill in the same field with the same identifier. Both
facts together are `result_run_eq_ok_iff`, on which what is said about admitted requests
rests. What comes out is what the service hands on (`response_of_run_ok`), and what does
not is answered by its rejection.
-/

namespace TrackerGate

/-! ## What a path names -/

namespace ResourcePath

variable {p : ResourcePath} {marker : Marker} {id : Int64}

/-- The segment behind the first `marker` is the identifier `id`. -/
def Names (p : ResourcePath) (marker : Marker) (id : Int64) : Prop :=
  ∃ segment, p.after marker 1 = some segment ∧ segment ∉ marker.placeholders
    ∧ id? segment = some id

/-- The segment behind the first `marker`, if there is one, is a placeholder or an
identifier. -/
def IsReadable (p : ResourcePath) (marker : Marker) : Prop :=
  ∀ segment, p.after marker 1 = some segment →
    segment ∈ marker.placeholders ∨ ∃ id, id? segment = some id

theorem target_eq_id_iff : p.target marker = .ok (.id id) ↔ p.Names marker id := by
  unfold target Names
  cases p.after marker 1 with
  | none => simp [classify]
  | some segment =>
      by_cases hplace : segment ∈ marker.placeholders
      · simp [classify, hplace]
      · cases hid : id? segment <;> simp [classify, hplace, hid]

theorem exists_target_eq_ok_iff :
    (∃ target, p.target marker = .ok target) ↔ p.IsReadable marker := by
  unfold target IsReadable
  cases p.after marker 1 with
  | none => simp [classify]
  | some segment =>
      by_cases hplace : segment ∈ marker.placeholders
      · simp [classify, hplace]
      · cases hid : id? segment <;> simp [classify, hplace, hid]

/-- The identifier that the path names behind `marker`. -/
def named (p : ResourcePath) (marker : Marker) : Option Int64 :=
  match p.target marker with
  | .ok (.id id) => some id
  | _ => none

theorem named_eq_some_iff : p.named marker = some id ↔ p.Names marker id := by
  rw [← target_eq_id_iff, named]
  split
  · next id' h => simp [h]
  · next h => exact ⟨nofun, fun hid => (h id hid).elim⟩

end ResourcePath

/-! ## Callers -/

/-- What a request is known to be about from its path. -/
def Context.about (ctx : Context) (path : ResourcePath) : Context :=
  { ctx with project := path.named .projects, issue := path.named .issues }

/-- The context of a user, or of nobody. -/
def Context.ofCaller : Option User → Context
  | none => .anonymous
  | some user => .forUser user.id user.isSuperuser

namespace Gate

variable {g : Gate} {request : Request}

/-- The user whom the token of a request stands for; nobody if there is no token, or one
that is no good. -/
def caller (g : Gate) (request : Request) : Option User :=
  (Bearer.token? request.headers).bind fun token => (g.principal token).toOption

/-- Authentication adds the caller, if there is one, to any context. -/
theorem result_authenticate_from (g : Gate) (request : Request) (ctx : Context) :
    (g.authenticate request ctx).result
      = .ok ((g.caller request).elim ctx fun user => ctx.withPrincipal user.id user.isSuperuser) := by
  unfold authenticate caller
  cases Bearer.token? request.headers with
  | none => rfl
  | some token => cases hprincipal : g.principal token <;> simp [hprincipal] <;> rfl

theorem result_authenticate (g : Gate) (request : Request) :
    (g.authenticate request .anonymous).result = .ok (.ofCaller (g.caller request)) := by
  rw [result_authenticate_from]
  cases g.caller request <;> rfl

theorem principal_eq_ok_iff {token : Token} {user : User} :
    g.principal token = .ok user
      ↔ ∃ claims, Token.verify g.settings g.now .access token = .ok claims
          ∧ g.readers.user claims.subject = .ok user := by
  unfold principal
  cases Token.verify g.settings g.now .access token <;> simp

theorem caller_eq_some_iff {user : User} :
    g.caller request = some user
      ↔ ∃ token claims, Bearer.token? request.headers = some token
          ∧ Token.verify g.settings g.now .access token = .ok claims
          ∧ g.readers.user claims.subject = .ok user := by
  have hsome {token : Token} :
      (g.principal token).toOption = some user ↔ g.principal token = .ok user := by
    cases g.principal token <;> simp [Except.toOption]
  simp only [caller, Option.bind_eq_some_iff, hsome, principal_eq_ok_iff, exists_and_left]

end Gate

/-! ## Guards -/

namespace Guard

variable {guard : Guard} {r : Readers} {method : Method} {path : ResourcePath} {ctx ctx' : Context}

/-- The guard finds nothing wrong with the request. -/
def Clears (guard : Guard) (r : Readers) (method : Method) (path : ResourcePath) (ctx : Context) :
    Prop :=
  ∃ target, guard.target method path = .ok target
    ∧ ∀ id, target = .id id → guard.check r path ctx id = .ok ()

/-- The context that a request leaves the guard with. -/
def leave (guard : Guard) (method : Method) (path : ResourcePath) (ctx : Context) : Context :=
  match guard.target method path with
  | .ok (.id id) => guard.mark ctx id
  | _ => ctx

theorem result_pass_eq_ok_iff :
    (guard.pass r method path ctx).result = .ok ctx'
      ↔ guard.Clears r method path ctx ∧ guard.leave method path ctx = ctx' := by
  unfold pass Clears leave
  cases htarget : guard.target method path with
  | error f => simp [reject]
  | ok target =>
      cases target with
      | bypass => simp [Passage.unchanged]
      | id id =>
          cases hcheck : guard.check r path ctx id <;> simp [Passage.unchanged, reject, hcheck]

/-- Only who is asking counts for a check. -/
theorem check_congr (huser : ctx.user = ctx'.user) (hsuper : ctx.isSuperuser = ctx'.isSuperuser)
    (id : Int64) : guard.check r path ctx id = guard.check r path ctx' id := by
  obtain ⟨user, isSuperuser, project, issue⟩ := ctx
  obtain ⟨user', isSuperuser', project', issue'⟩ := ctx'
  obtain rfl : user = user' := huser
  obtain rfl : isSuperuser = isSuperuser' := hsuper
  cases guard <;> rfl

theorem clears_congr (huser : ctx.user = ctx'.user) (hsuper : ctx.isSuperuser = ctx'.isSuperuser) :
    guard.Clears r method path ctx ↔ guard.Clears r method path ctx' := by
  simp only [Clears, check_congr huser hsuper]

@[simp] theorem user_leave : (guard.leave method path ctx).user = ctx.user := by
  unfold leave mark
  split
  · cases guard.marker <;> rfl
  · rfl

@[simp] theorem isSuperuser_leave :
    (guard.leave method path ctx).isSuperuser = ctx.isSuperuser := by
  unfold leave mark
  split
  · cases guard.marker <;> rfl
  · rfl

theorem exists_id_clears_iff {target : Except Failure Target} {passes : Int64 → Prop} :
    (∃ t, target = .ok t ∧ ∀ id, t = .id id → passes id)
      ↔ (∃ t, target = .ok t) ∧ ∀ id, target = .ok (.id id) → passes id := by
  cases target <;> simp

/-- A guard is cleared if it is waived, or if the path is readable for it and what is
named passes the check. -/
theorem clears_iff :
    guard.Clears r method path ctx
      ↔ guard.isWaived method path = true
        ∨ (path.IsReadable guard.marker
          ∧ ∀ id, path.Names guard.marker id → guard.check r path ctx id = .ok ()) := by
  rw [Clears, exists_id_clears_iff, target]
  by_cases hwaived : guard.isWaived method path = true
  · simp [hwaived]
  · simp only [hwaived, if_false, false_or, Bool.false_eq_true,
      ResourcePath.exists_target_eq_ok_iff, ResourcePath.target_eq_id_iff]

/-- A guard for access is never waived. -/
theorem clears_access_iff (haccess : guard.isManagement = false) :
    guard.Clears r method path ctx
      ↔ path.IsReadable guard.marker
        ∧ ∀ id, path.Names guard.marker id → guard.check r path ctx id = .ok () := by
  rw [clears_iff, isWaived, haccess]
  simp only [Bool.false_and, Bool.false_eq_true, false_or]

theorem target_of_access (haccess : guard.isManagement = false) :
    guard.target method path = path.target guard.marker := by
  rw [target, isWaived, haccess]
  rfl

/-- A management guard finds the context as the access guard left it. -/
theorem leave_leave (guard other : Guard) (hmarker : guard.marker = other.marker)
    (haccess : other.isManagement = false) :
    guard.leave method path (other.leave method path ctx) = other.leave method path ctx := by
  unfold leave
  rw [target_of_access haccess, ← hmarker]
  by_cases hwaived : guard.isWaived method path = true
  · rw [target, if_pos hwaived]
  · rw [target, if_neg hwaived]
    cases path.target guard.marker with
    | error f => rfl
    | ok target =>
        cases target with
        | bypass => rfl
        | id id =>
            simp only [mark, ← hmarker]
            cases guard.marker <;> rfl

def all : List Guard := [.projectAccess, .projectManagement, .issueAccess, .issueManagement]

theorem mem_all (guard : Guard) : guard ∈ all := by
  cases guard <;> decide

/-- What all guards together have found out is what the path names. -/
theorem foldl_leave (user : Option User) :
    all.foldl (fun ctx guard => guard.leave method path ctx) (.ofCaller user)
      = (Context.ofCaller user).about path := by
  simp only [all, List.foldl_cons, List.foldl_nil]
  rw [leave_leave projectManagement projectAccess rfl rfl,
    leave_leave issueManagement issueAccess rfl rfl]
  rw [leave, leave, target_of_access rfl, target_of_access rfl,
    Context.about, ResourcePath.named, ResourcePath.named]
  cases user <;> simp only [marker] <;> split <;> split <;> rfl

end Guard

/-! ## Runs -/

namespace Gate

variable {g : Gate} {request : Request} {ctx ctx' : Context}

theorem result_pass_cons {stage : Stage} {stages : List Stage} :
    (g.pass request (stage :: stages) ctx).result
      = (stage.pass g request ctx).result.bind fun ctx => (g.pass request stages ctx).result := by
  rw [pass]
  cases hresult : (stage.pass g request ctx).result <;> simp [hresult, Except.bind]

/-- A request comes through guards if each of them clears it for the caller. -/
theorem result_pass_guards_eq_ok_iff {guards : List Guard} :
    (g.pass request (guards.map .guarded) ctx).result = .ok ctx'
      ↔ (∀ guard ∈ guards,
            guard.Clears g.readers request.method (.ofText request.path) ctx)
        ∧ guards.foldl (fun ctx guard => guard.leave request.method (.ofText request.path) ctx) ctx
            = ctx' := by
  induction guards generalizing ctx with
  | nil => simp [pass, Passage.unchanged]
  | cons guard guards ih =>
      -- What the first guard adds to the context makes no difference to the others.
      have hlater (other : Guard) :
          other.Clears g.readers request.method (.ofText request.path)
              (guard.leave request.method (.ofText request.path) ctx)
            ↔ other.Clears g.readers request.method (.ofText request.path) ctx :=
        Guard.clears_congr Guard.user_leave Guard.isSuperuser_leave
      rw [List.map_cons, result_pass_cons]
      constructor
      · intro h
        obtain ⟨next, hfirst, hrest⟩ := bind_eq_ok_iff.mp h
        obtain ⟨hclears, rfl⟩ := Guard.result_pass_eq_ok_iff.mp hfirst
        obtain ⟨hguards, hleave⟩ := ih.mp hrest
        refine ⟨fun other hother => ?_, hleave⟩
        rcases List.mem_cons.mp hother with rfl | hmem
        · exact hclears
        · exact (hlater other).mp (hguards other hmem)
      · rintro ⟨hguards, hleave⟩
        have hclears := hguards guard List.mem_cons_self
        refine bind_eq_ok_iff.mpr ⟨_, Guard.result_pass_eq_ok_iff.mpr ⟨hclears, rfl⟩, ?_⟩
        refine ih.mpr ⟨fun other hmem => ?_, hleave⟩
        exact (hlater other).mpr (hguards other (List.mem_cons_of_mem guard hmem))

/-- Behind authentication a run is one through the guards, from the context of the caller. -/
theorem result_run (g : Gate) (request : Request) :
    (g.run request).result
      = (g.pass request (Guard.all.map .guarded) (.ofCaller (g.caller request))).result := by
  have hstages : Stage.all = .authenticate :: Guard.all.map .guarded := rfl
  have hfirst : (Stage.pass .authenticate g request .anonymous).result
      = .ok (.ofCaller (g.caller request)) := result_authenticate g request
  rw [run, hstages, result_pass_cons, hfirst]
  rfl

/-- A request is admitted if every guard clears it for its caller, and what it is admitted
with is the caller and what the path names. -/
theorem result_run_eq_ok_iff :
    (g.run request).result = .ok ctx
      ↔ (∀ guard : Guard, guard.Clears g.readers request.method (.ofText request.path)
            (.ofCaller (g.caller request)))
        ∧ (Context.ofCaller (g.caller request)).about (.ofText request.path) = ctx := by
  rw [result_run]
  refine result_pass_guards_eq_ok_iff.trans (and_congr ?_ ?_)
  · exact ⟨fun h guard => h guard guard.mem_all, fun h guard _ => h guard⟩
  · rw [Guard.foldl_leave]

end Gate

/-! ## Behind the gate -/

namespace Service

variable {s : Service} {request : Request} {ctx : Context} {rejection : Rejection}

theorem answer_of_run_ok (hmethod : request.method ≠ .options)
    (hrun : (s.gate.run request).result = .ok ctx) :
    s.answer request
      = ⟨crossOrigin (s.handle request ctx).response,
          (s.gate.run request).events ++ (s.handle request ctx).events⟩ := by
  have hpass : (s.gate.pass request Stage.all .anonymous).result = .ok ctx := hrun
  rw [answer, if_neg hmethod]
  simp only [Gate.answer, Gate.run, hpass]

theorem answer_of_run_error (hmethod : request.method ≠ .options)
    (hrun : (s.gate.run request).result = .error rejection) :
    s.answer request
      = ⟨crossOrigin rejection.response.withLength, (s.gate.run request).events⟩ := by
  have hpass : (s.gate.pass request Stage.all .anonymous).result = .error rejection := hrun
  rw [answer, if_neg hmethod]
  simp only [Gate.answer, Gate.run, hpass]

theorem response_of_run_ok (hmethod : request.method ≠ .options)
    (hrun : (s.gate.run request).result = .ok ctx) :
    (s.answer request).response = crossOrigin (s.handle request ctx).response := by
  rw [answer_of_run_ok hmethod hrun]

theorem response_of_run_error (hmethod : request.method ≠ .options)
    (hrun : (s.gate.run request).result = .error rejection) :
    (s.answer request).response = crossOrigin rejection.response.withLength := by
  rw [answer_of_run_error hmethod hrun]

end Service

end TrackerGate
