import Mathlib.Logic.Relation
import TrackerGate.Proofs.Access.Privilege
import TrackerGate.Proofs.Database.Upkeep
import TrackerGate.Proofs.Gate.IssueWork

/-!
# More privilege never loses a request

A request that is served to somebody is still served after any change that gives more: to
sign in, to join a team, to be given a higher role, to be made a superuser, and any
sequence of these (`serves_of_promotions`).

Signing in is a matter of the checks alone. For the changes of the tables
(`Database.Promotes`) it is said once what they all do (`Rows.Raises`): rows that were there
stay, and nobody's role or rank gets lower. That carries over to the standings, and from
there to the conditions that admit a request.
-/

namespace TrackerGate

/-! ## Served requests -/

namespace Gate

/-- The request gets to its handler, and the handler is told that it comes from `user`. -/
def Serves (g : Gate) (request : Request) (user : Option UserId) : Prop :=
  ∃ ctx, (g.run request).result = .ok ctx ∧ ctx.user = user

variable {g : Gate} {request request' : Request} {user : Option UserId}

theorem serves_iff :
    g.Serves request user
      ↔ (∀ guard : Guard, guard.Clears g.readers request.method (.ofText request.path)
            (.ofCaller (g.caller request)))
        ∧ (g.caller request).map (·.id) = user := by
  have huser (caller : Option User) :
      ((Context.ofCaller caller).about (.ofText request.path)).user = caller.map (·.id) := by
    cases caller <;> rfl
  constructor
  · rintro ⟨ctx, hrun, rfl⟩
    obtain ⟨hclears, rfl⟩ := result_run_eq_ok_iff.mp hrun
    exact ⟨hclears, (huser _).symm⟩
  · rintro ⟨hclears, rfl⟩
    exact ⟨_, result_run_eq_ok_iff.mpr ⟨hclears, rfl⟩, huser _⟩

end Gate

namespace Guard

variable {guard : Guard} {r : Readers} {method : Method} {path : ResourcePath}

theorem check_of_anonymous {id : Int64} (h : guard.check r path .anonymous id = .ok ())
    (ctx : Context) : guard.check r path ctx id = .ok () := by
  cases guard with
  | projectAccess => exact Access.readProject_of_anonymous h ctx
  | projectManagement => exact absurd h Access.manageProject_anonymous_ne_ok
  | issueAccess => exact Access.readIssue_of_anonymous h ctx
  | issueManagement => exact absurd h Access.manageIssue_anonymous_ne_ok

theorem clears_of_anonymous (h : guard.Clears r method path .anonymous) (ctx : Context) :
    guard.Clears r method path ctx := by
  obtain ⟨target, htarget, hcheck⟩ := h
  exact ⟨target, htarget, fun id hid => check_of_anonymous (hcheck id hid) ctx⟩

end Guard

/-- What is served to nobody in particular is served to whoever asks. -/
theorem Gate.serves_of_anonymous {g : Gate} {request request' : Request} {user : User}
    (hmethod : request'.method = request.method) (hpath : request'.path = request.path)
    (hcaller : g.caller request' = some user) (h : g.Serves request none) :
    g.Serves request' (some user.id) := by
  obtain ⟨hclears, hnobody⟩ := serves_iff.mp h
  rw [Option.map_eq_none_iff] at hnobody
  rw [hnobody] at hclears
  refine serves_iff.mpr ⟨fun guard => ?_, by rw [hcaller]; rfl⟩
  rw [hmethod, hpath]
  exact Guard.clears_of_anonymous (hclears guard) _

/-! ## Raised rows -/

namespace Rows

/-- From `r` to `r'` nobody goes away, and nobody's rank or role gets lower; projects and
issues stay as they are. -/
structure Raises (r r' : Rows) : Prop where
  projects : r'.projects = r.projects
  issues : r'.issues = r.issues
  users : ∀ u ∈ r.users, ∃ u' ∈ r'.users,
    u'.id = u.id ∧ (u.isSuperuser = true → u'.isSuperuser = true)
  roles : ∀ user role team, r.Holds user role team →
    ∃ role', r'.Holds user role' team ∧ role ≤ role'

variable {r r' : Rows}

theorem raises_insertMembership (r : Rows) (m : MembershipRow) : r.Raises (r.insertMembership m) where
  projects := rfl
  issues := rfl
  users u hu := ⟨u, hu, rfl, id⟩
  roles _ role _ hholds := ⟨role, mem_insertMembership_iff.mpr (.inr hholds), Nat.le_refl _⟩

theorem raises_updateRole (hr : r.Valid) {team : TeamId} {user : UserId} {role role' : Role}
    (hholds : r.Holds user role team) (hle : role ≤ role') :
    r.Raises
      { r with
        memberships := updateWhere (fun m => m.team == team && m.user == user)
          (fun m => { m with role := role'.name }) r.memberships } where
  projects := rfl
  issues := rfl
  users u hu := ⟨u, hu, rfl, id⟩
  roles other otherRole otherTeam hother := by
    by_cases hsame : otherTeam = team ∧ other = user
    · -- The row that is changed: the role it had is the one that is raised.
      obtain ⟨rfl, rfl⟩ := hsame
      obtain rfl := hother.unique hr hholds
      exact ⟨role', mem_updateWhere_iff.mpr ⟨_, hother, by simp [Membership.row]⟩, hle⟩
    · refine ⟨otherRole, mem_updateWhere_iff.mpr ⟨_, hother, if_neg ?_⟩, Nat.le_refl _⟩
      simpa [Membership.row] using hsame

theorem raises_updateSuperuser (r : Rows) (p : User → Bool) :
    r.Raises { r with users := updateWhere p (fun u => { u with isSuperuser := true }) r.users } where
  projects := rfl
  issues := rfl
  users u hu := by
    refine ⟨_, mem_updateWhere_iff.mpr ⟨u, hu, rfl⟩, ?_⟩
    split
    · exact ⟨rfl, fun _ => rfl⟩
    · exact ⟨rfl, id⟩
  roles _ role _ hholds := ⟨role, hholds, Nat.le_refl _⟩

/-- The principal of a request is still there in raised rows. -/
theorem Raises.principal? (h : r.Raises r') (hr : r.Valid) (hr' : r'.Valid)
    {settings : TokenSettings} {now : Nat} {request : Request} {u : User}
    (hprincipal : r.principal? settings now request = some u) :
    ∃ u', r'.principal? settings now request = some u' ∧ u'.id = u.id
      ∧ (u.isSuperuser = true → u'.isSuperuser = true) := by
  unfold Rows.principal? at hprincipal ⊢
  cases htoken : Bearer.token? request.headers with
  | none => simp [htoken] at hprincipal
  | some token =>
      cases hverify : Token.verify settings now .access token with
      | error fault => simp [htoken, hverify] at hprincipal
      | ok claims =>
          simp only [htoken, hverify, find?_key_eq_some_iff hr.users_unique] at hprincipal
          obtain ⟨hu, hid⟩ := hprincipal
          obtain ⟨u', hu', hid', hsuper⟩ := h.users u hu
          refine ⟨u', ?_, hid', hsuper⟩
          simp only [hverify, find?_key_eq_some_iff hr'.users_unique]
          exact ⟨hu', hid'.trans hid⟩

theorem Raises.covers (h : r.Raises r') {u u' : User} (hid : u'.id = u.id)
    (hsuper : u.isSuperuser = true → u'.isSuperuser = true) :
    r.Covers (.ofCaller (some u)) r' (.ofCaller (some u')) where
  projects _ hp := h.projects ▸ hp
  issues _ hi := h.issues ▸ hi
  user _ huser := huser ▸ congrArg some hid
  superuser := hsuper
  role user _ := h.roles user

/-- What admits a request goes on to admit it. -/
theorem Covers.admits {ctx ctx' : Context} (h : r.Covers ctx r' ctx') {method : Method}
    {path : ResourcePath} (hadmits : r.Admits ctx method path) : r'.Admits ctx' method path where
  readable := hadmits.readable
  project id hid := h.mayRead (hadmits.project id hid)
  projectChange id hid hget hhead hstats := by
    rcases hadmits.projectChange id hid hget hhead hstats with hmanage | ⟨hwork, hmay⟩
    · exact .inl (h.mayManage hmanage)
    · exact .inr ⟨hwork, h.mayWorkOn hmay⟩
  issue id hid := h.mayReadIssue (hadmits.issue id hid)
  issueChange id hid hget hhead := h.mayWorkOnIssue (hadmits.issueChange id hid hget hhead)

end Rows

/-! ## Promotions -/

namespace Database

/-- A statement that gives a user more: a place in a team, with any role; a role that is not
lower than the one they have; the rank of a superuser. -/
inductive Promotes : Database → Database → Prop where
  | join {db db' : Database} (team : TeamId) (user : UserId) (role : Role)
      (h : db.execute (.insertMembership (some team) (some user) (some role.name)) = .ok db') :
      Promotes db db'
  | raise {db db' : Database} (team : TeamId) (user : UserId) (role role' : Role)
      (hholds : db.rows.Holds user role team) (hle : role ≤ role')
      (h : db.execute (.setRole (some team) (some user) (some role'.name)) = .ok db') :
      Promotes db db'
  | crown {db db' : Database} (user : UserId)
      (h : db.execute (.setSuperuser (some user) (some true)) = .ok db') :
      Promotes db db'

theorem Promotes.sound_raises {db db' : Database} (h : db.Promotes db') (hdb : db.Sound) :
    db'.Sound ∧ db.rows.Raises db'.rows := by
  have hname (role : Role) : (Role.ofName? role.name).isSome = true := by
    rw [Role.ofName?_name]
    rfl
  cases h with
  | join team user role h =>
      obtain ⟨-, rows, hexecute, rfl⟩ := execute_eq_ok_iff.mp h
      obtain ⟨-, hnew, hteam, huser, rfl⟩ := Rows.addMembership_eq_ok_iff.mp hexecute
      exact ⟨hdb.withRows (hdb.valid.insertMembership (hname role) hnew hteam huser),
        Rows.raises_insertMembership _ _⟩
  | raise team user role role' hholds hle h =>
      obtain ⟨-, rows, hexecute, rfl⟩ := execute_eq_ok_iff.mp h
      obtain ⟨-, rfl⟩ := Rows.setRole_eq_ok_iff.mp hexecute
      exact ⟨hdb.withRows (hdb.valid.updateRole _ (hname role')),
        Rows.raises_updateRole hdb.valid hholds hle⟩
  | crown user h =>
      obtain ⟨-, rows, hexecute, rfl⟩ := execute_eq_ok_iff.mp h
      obtain rfl := Rows.setSuperuser_eq_ok_iff.mp hexecute
      exact ⟨hdb.withRows (hdb.valid.updateSuperuser _ true), Rows.raises_updateSuperuser _ _⟩

variable {db db' : Database} {settings : TokenSettings} {now : Nat} {request : Request}

theorem serves_gate_iff (hdb : db.Sound) (hmethod : request.method ≠ .options)
    {user : Option UserId} :
    (db.gate settings now).Serves request user
      ↔ db.rows.Admits (.ofCaller (db.rows.principal? settings now request)) request.method
          (.ofText request.path)
        ∧ (db.rows.principal? settings now request).map (·.id) = user := by
  have hreaders : (db.gate settings now).readers = db.rows.readers := hdb.readers_eq
  rw [Gate.serves_iff, Gate.caller_gate hdb, hreaders,
    Rows.clears_iff_admits hdb.valid hmethod]

/-- One promotion, of whomever, loses nobody a request. -/
theorem Promotes.serves (h : db.Promotes db') (hdb : db.Sound)
    (hmethod : request.method ≠ .options) {user : UserId}
    (hserves : (db.gate settings now).Serves request (some user)) :
    (db'.gate settings now).Serves request (some user) := by
  obtain ⟨hdb', hraises⟩ := h.sound_raises hdb
  obtain ⟨hadmits, huser⟩ := (serves_gate_iff hdb hmethod).mp hserves
  obtain ⟨u, hu, rfl⟩ := Option.map_eq_some_iff.mp huser
  obtain ⟨u', hu', hid, hsuper⟩ := hraises.principal? hdb.valid hdb'.valid hu
  rw [hu] at hadmits
  refine (serves_gate_iff hdb' hmethod).mpr ⟨?_, by rw [hu', Option.map_some, hid]⟩
  rw [hu']
  exact (hraises.covers hid hsuper).admits hadmits

/-- What is served to nobody in particular is served to every user; and what is served to a
user is still served to this user after any sequence of promotions. -/
theorem serves_of_promotions (hdb : db.Sound) (settings : TokenSettings) (now : Nat)
    (hmethod : request.method ≠ .options) :
    ((db.gate settings now).Serves request none →
        ∀ (request' : Request) (user : User), request'.method = request.method →
          request'.path = request.path → db.rows.principal? settings now request' = some user →
            (db.gate settings now).Serves request' (some user.id))
      ∧ ∀ (user : UserId) (db' : Database), (db.gate settings now).Serves request (some user) →
          Relation.ReflTransGen Promotes db db' →
            (db'.gate settings now).Serves request (some user) := by
  constructor
  · intro hnobody request' user hsame hpath hprincipal
    refine Gate.serves_of_anonymous hsame hpath ?_ hnobody
    rw [Gate.caller_gate hdb, hprincipal]
  · intro user db' hserves hpromotions
    have hrun : db'.Sound ∧ (db'.gate settings now).Serves request (some user) := by
      induction hpromotions with
      | refl => exact ⟨hdb, hserves⟩
      | tail _ hstep ih =>
          obtain ⟨hsound, hserved⟩ := ih
          exact ⟨(hstep.sound_raises hsound).1, hstep.serves hsound hmethod hserved⟩
    exact hrun.2

/-- The two teams after the member of the first one has become its owner and a superuser. -/
def twoTeamsRaised : Database :=
  { twoTeams with
    rows :=
      { twoTeams.rows with
        users := [⟨5, "eve", true⟩]
        memberships := [⟨7, 5, "owner"⟩] } }

/-- The page of the project without a team, for anybody and for the member; the status of an
issue for the member, before and after the promotions. -/
theorem twoTeams_serves_after_promotions :
    (Gate.twoTeams.Serves ⟨.get, "/api/projects/3", [], []⟩ none
        ∧ Gate.twoTeams.Serves { Gate.changeAt "/api/projects/3" with method := .get } (some 5))
      ∧ Gate.twoTeams.Serves (Gate.changeAt "/api/projects/1/issues/10/status") (some 5)
      ∧ (twoTeamsRaised.gate (.withSecret (.ofText "k")) 1000).Serves
          (Gate.changeAt "/api/projects/1/issues/10/status") (some 5) := by
  have hwiki : Gate.twoTeams.Serves ⟨.get, "/api/projects/3", [], []⟩ none := by
    refine Gate.serves_iff.mpr ⟨fun guard => ?_, rfl⟩
    cases guard with
    | projectAccess => exact ⟨.id 3, rfl, fun id hid => by cases hid; rfl⟩
    | projectManagement | issueAccess | issueManagement => exact ⟨.bypass, rfl, nofun⟩
  have hstatus : Gate.twoTeams.Serves (Gate.changeAt "/api/projects/1/issues/10/status")
      (some 5) := by
    refine Gate.serves_iff.mpr ⟨fun guard => ?_, by rw [Gate.caller_changeAt]; rfl⟩
    rw [Gate.caller_changeAt]
    cases guard with
    | projectAccess | projectManagement => exact ⟨.id 1, rfl, fun id hid => by cases hid; rfl⟩
    | issueAccess | issueManagement => exact ⟨.id 10, rfl, fun id hid => by cases hid; rfl⟩
  have hpromotions : Relation.ReflTransGen Promotes twoTeams twoTeamsRaised := by
    refine .tail (.single (.raise 7 5 .member .owner List.mem_cons_self (by decide) rfl)) ?_
    exact .crown 5 rfl
  have hprincipal : twoTeams.rows.principal? (.withSecret (.ofText "k")) 1000
      { Gate.changeAt "/api/projects/3" with method := .get } = some ⟨5, "eve", false⟩ :=
    (Gate.caller_gate sound_twoTeams _ _ _).symm.trans (Gate.caller_changeAt "/api/projects/3")
  refine ⟨⟨hwiki, ?_⟩, hstatus, ?_⟩
  · exact (serves_of_promotions sound_twoTeams _ _ (by decide)).1 hwiki
      { Gate.changeAt "/api/projects/3" with method := .get } ⟨5, "eve", false⟩ rfl rfl hprincipal
  · exact (serves_of_promotions sound_twoTeams _ _ (by decide)).2 5 _ hstatus hpromotions

end Database

end TrackerGate
