import TrackerGate.Proofs.Gate.Order
import TrackerGate.Proofs.Service.Subject

/-!
# What cannot influence a request

The readers fetch whole lists: all teams of a user, all members of a team. Of these and of
everything else that is stored, the way of a request through the gate depends on a few rows
only (`Rows.LooksSame`): the row of the user whom its token names, the project and the issue
that its path names, the project of that issue, and the one membership row that the user may
have in the team of each of the two projects. `run_of_looksSame` compares two databases that
agree on these.

Two runs are compared stage by stage. What has to be kept along the way is that nobody but
the subject of the token has become known as the one who asks; this is what makes a check
ask for no other memberships than those that are the same on both sides.
-/

namespace TrackerGate

/-! ## Rows that are the same -/

/-- Nobody but `subject` is known to ask. -/
def Context.KnowsOnly (ctx : Context) (subject : UserId) : Prop :=
  ∀ asker, ctx.user = some asker → asker = subject

namespace Rows

/-- Both have the same row for the project, or both have none, and in the team that it
belongs to the user has the same role. -/
structure SameProject (r r' : Rows) (subject : UserId) (id : ProjectId) : Prop where
  project : ∀ p, p.id = id → (p ∈ r.projects ↔ p ∈ r'.projects)
  role : ∀ p ∈ r.projects, p.id = id → ∀ team, p.team = some team →
    ∀ role, r.Holds subject role team ↔ r'.Holds subject role team

/-- Both have the same rows as far as the user and what the path names are concerned. -/
structure LooksSame (r r' : Rows) (subject : UserId) (path : ResourcePath) : Prop where
  user : ∀ u, u.id = subject → (u ∈ r.users ↔ u ∈ r'.users)
  project : ∀ id, path.Names .projects id → r.SameProject r' subject id
  issue : ∀ id, path.Names .issues id → ∀ i, i.id = id → (i ∈ r.issues ↔ i ∈ r'.issues)
  issueProject : ∀ id, path.Names .issues id → ∀ i ∈ r.issues, i.id = id →
    r.SameProject r' subject i.project

variable {r r' : Rows} {subject : UserId} {ctx : Context}

theorem SameProject.lookup {id : ProjectId} (h : r.SameProject r' subject id) (hr : r.Valid)
    (hr' : r'.Valid) : r'.readers.project id = r.readers.project id :=
  congrArg (Readers.found "project")
    (find?_key_congr hr.projects_unique hr'.projects_unique h.project).symm

/-! ## Checks -/

/-- The check finds the user among the teams in both cases, or in neither. -/
theorem SameProject.readProject {id : ProjectId} (h : r.SameProject r' subject id) (hr : r.Valid)
    (hr' : r'.Valid) (hasks : ctx.KnowsOnly subject) :
    Access.readProject r'.readers ctx id = Access.readProject r.readers ctx id := by
  unfold Access.readProject
  rw [h.lookup hr hr']
  cases hproject : r.readers.project id with
  | error f => rfl
  | ok p =>
      obtain ⟨hp, hid⟩ := (project_eq_ok_iff hr).mp hproject
      simp only [Access.look, Except.mapError, bind, Except.bind]
      cases hteam : p.team with
      | none => rfl
      | some team =>
          cases hasker : ctx.user with
          | none => simp only [Access.principal, hasker]
          | some asker =>
              obtain rfl := hasks asker hasker
              have hmember : ((r'.teamsOf asker).map (·.id)).contains team
                  = ((r.teamsOf asker).map (·.id)).contains team := by
                rw [Bool.eq_iff_iff, List.contains_iff_mem, List.contains_iff_mem,
                  mem_teamsOf_iff hr, mem_teamsOf_iff hr']
                exact exists_congr fun role => (h.role p hp hid team hteam role).symm
              have hteams : Access.principalTeams r.readers asker
                  = .ok ((r.teamsOf asker).map (·.id)) := rfl
              have hteams' : Access.principalTeams r'.readers asker
                  = .ok ((r'.teamsOf asker).map (·.id)) := rfl
              simp only [Access.principal, hasker, hteams, hteams', hmember]

/-- The check finds the user with the same role among the members in both cases, or in
neither. -/
theorem SameProject.manageProject {id : ProjectId} (h : r.SameProject r' subject id) (hr : r.Valid)
    (hr' : r'.Valid) (hasks : ctx.KnowsOnly subject) (issueWork : Bool) :
    Access.manageProject r'.readers ctx id issueWork
      = Access.manageProject r.readers ctx id issueWork := by
  unfold Access.manageProject
  rw [h.lookup hr hr']
  cases hproject : r.readers.project id with
  | error f => rfl
  | ok p =>
      obtain ⟨hp, hid⟩ := (project_eq_ok_iff hr).mp hproject
      simp only [Access.look, Except.mapError, bind, Except.bind]
      cases hteam : p.team with
      | none => rfl
      | some team =>
          cases hasker : ctx.user with
          | none => simp only [Access.principal, hasker]
          | some asker =>
              obtain rfl := hasks asker hasker
              obtain ⟨members, hmembers, hrole⟩ := members_spec hr team
              obtain ⟨members', hmembers', hrole'⟩ := members_spec hr' team
              have hsame : Membership.roleOf members' asker = Membership.roleOf members asker := by
                refine Option.ext fun role => ?_
                rw [hrole, hrole']
                exact (h.role p hp hid team hteam role).symm
              simp only [Access.principal, hasker, hmembers, hmembers', hsame]

namespace LooksSame

variable {path : ResourcePath} (h : r.LooksSame r' subject path) (hr : r.Valid) (hr' : r'.Valid)

include h hr hr'

theorem lookup_user : r'.readers.user subject = r.readers.user subject :=
  congrArg (Readers.found "user")
    (find?_key_congr hr.users_unique hr'.users_unique h.user).symm

theorem lookup_issue {id : IssueId} (hid : path.Names .issues id) :
    r'.readers.issue id = r.readers.issue id :=
  congrArg (Readers.found "issue")
    (find?_key_congr hr.issues_unique hr'.issues_unique (h.issue id hid)).symm

/-- A guard that is about what the path names comes to the same result. -/
theorem check (hasks : ctx.KnowsOnly subject) {guard : Guard} {id : Int64}
    (hid : path.Names guard.marker id) :
    guard.check r'.readers path ctx id = guard.check r.readers path ctx id := by
  have hissue {i : Issue} (hid : path.Names .issues id) (hi : r.readers.issue id = .ok i) :
      r.SameProject r' subject i.project := by
    obtain ⟨hi, hkey⟩ := (issue_eq_ok_iff hr).mp hi
    exact h.issueProject id hid i hi hkey
  cases guard with
  | projectAccess => exact (h.project id hid).readProject hr hr' hasks
  | projectManagement => exact (h.project id hid).manageProject hr hr' hasks _
  | issueAccess =>
      show Access.readIssue r'.readers ctx id = Access.readIssue r.readers ctx id
      unfold Access.readIssue
      rw [h.lookup_issue hr hr' hid]
      cases hi : r.readers.issue id with
      | error f => rfl
      | ok i =>
          simp only [Access.look, Except.mapError, bind, Except.bind,
            (hissue hid hi).readProject hr hr' hasks]
  | issueManagement =>
      show Access.manageIssue r'.readers ctx id = Access.manageIssue r.readers ctx id
      unfold Access.manageIssue
      rw [h.lookup_issue hr hr' hid]
      cases hi : r.readers.issue id with
      | error f => rfl
      | ok i =>
          simp only [Access.look, Except.mapError, bind, Except.bind,
            (hissue hid hi).manageProject hr hr' hasks true]

theorem pass (hasks : ctx.KnowsOnly subject) (guard : Guard)
    (method : Method) :
    guard.pass r'.readers method path ctx = guard.pass r.readers method path ctx := by
  by_cases hwaived : guard.isWaived method path = true
  · rw [Guard.pass_of_isWaived hwaived, Guard.pass_of_isWaived hwaived]
  · unfold Guard.pass
    rw [Guard.target, if_neg hwaived]
    cases htarget : path.target guard.marker with
    | error f => rfl
    | ok target =>
        cases target with
        | bypass => rfl
        | id id =>
            have hid : path.Names guard.marker id := ResourcePath.target_eq_id_iff.mp htarget
            simp only [h.check hr hr' hasks hid]

end LooksSame

end Rows

/-! ## Runs -/

namespace Gate

variable {g g' : Gate} {request : Request}

/-- Two gates do the same if their stages do the same from contexts of some kind, and no stage
leaves with a context of another kind. -/
theorem pass_eq_of_invariant (kind : Context → Prop)
    (hsame : ∀ (stage : Stage) (ctx : Context), kind ctx →
      stage.pass g' request ctx = stage.pass g request ctx)
    (hkind : ∀ (stage : Stage) (ctx ctx' : Context), kind ctx →
      (stage.pass g request ctx).result = .ok ctx' → kind ctx')
    (stages : List Stage) {ctx : Context} (hctx : kind ctx) :
    g'.pass request stages ctx = g.pass request stages ctx := by
  induction stages generalizing ctx with
  | nil => rfl
  | cons stage stages ih =>
      rw [pass, pass, hsame stage ctx hctx]
      cases hresult : (stage.pass g request ctx).result with
      | error rejection => simp only
      | ok next =>
          have hnext := hkind stage ctx next hctx hresult
          simp only [ih hnext]

/-- With a token that is good nobody but its subject becomes known as the one who asks. -/
theorem asks_of_presents {claims : Claims} (hpresents : g.Presents request claims)
    (hreaders : ∀ u, g.readers.user claims.subject = .ok u → u.id = claims.subject)
    (stage : Stage) (ctx ctx' : Context) (hasks : ctx.KnowsOnly claims.subject)
    (hresult : (stage.pass g request ctx).result = .ok ctx') : ctx'.KnowsOnly claims.subject := by
  cases stage with
  | authenticate =>
      have hpass : (g.authenticate request ctx).result = .ok ctx' := hresult
      rw [authenticate_of_presents hpresents] at hpass
      cases huser : g.readers.user claims.subject with
      | error f =>
          rw [huser] at hpass
          obtain rfl := Except.ok.inj hpass
          exact hasks
      | ok u =>
          rw [huser] at hpass
          obtain rfl := Except.ok.inj hpass
          intro asker hasker
          obtain rfl := Option.some.inj hasker
          exact hreaders u huser
  | guarded guard =>
      obtain ⟨-, rfl⟩ := Guard.result_pass_eq_ok_iff.mp hresult
      intro asker hasker
      rw [Guard.user_leave] at hasker
      exact hasks asker hasker

end Gate

namespace Database

variable {db db' : Database} {settings : TokenSettings} {now : Nat} {request : Request}
  {claims : Claims}

/-- A stage does the same in front of both. -/
theorem pass_of_looksSame (hdb : db.Sound) (hdb' : db'.Sound)
    (hpresents : (db.gate settings now).Presents request claims)
    (hsame : db.rows.LooksSame db'.rows claims.subject (.ofText request.path)) (stage : Stage)
    {ctx : Context} (hasks : ctx.KnowsOnly claims.subject) :
    stage.pass (db'.gate settings now) request ctx
      = stage.pass (db.gate settings now) request ctx := by
  cases stage with
  | authenticate =>
      have huser : (db'.gate settings now).readers.user claims.subject
          = (db.gate settings now).readers.user claims.subject := by
        simp only [gate, hdb.readers_eq, hdb'.readers_eq,
          hsame.lookup_user hdb.valid hdb'.valid]
      show (db'.gate settings now).authenticate request ctx
        = (db.gate settings now).authenticate request ctx
      rw [Gate.authenticate_of_presents (g := db'.gate settings now) hpresents,
        Gate.authenticate_of_presents hpresents, huser]
  | guarded guard =>
      show guard.pass db'.readers request.method (.ofText request.path) ctx
        = guard.pass db.readers request.method (.ofText request.path) ctx
      rw [hdb.readers_eq, hdb'.readers_eq]
      exact hsame.pass hdb.valid hdb'.valid hasks guard request.method

/-- A request with a good token fares the same in front of two databases that have the same
rows for its subject and for what its path names, down to the context that its handler is
given, or to the guard that turns it away and the reason. If it is turned away, the answer is
the same, whatever service is behind the gate. -/
theorem run_of_looksSame (hdb : db.Sound) (hdb' : db'.Sound)
    (hpresents : (db.gate settings now).Presents request claims)
    (hsame : db.rows.LooksSame db'.rows claims.subject (.ofText request.path)) :
    (db'.gate settings now).run request = (db.gate settings now).run request
      ∧ ∀ s s' : Service, s.gate = db.gate settings now → s'.gate = db'.gate settings now →
          ∀ rejection, (s.gate.run request).result = .error rejection →
            s'.answer request = s.answer request := by
  have hrun : (db'.gate settings now).run request = (db.gate settings now).run request := by
    refine Gate.pass_eq_of_invariant (·.KnowsOnly claims.subject) ?_
      (Gate.asks_of_presents hpresents fun u => id_of_readers_user) Stage.all nofun
    intro stage ctx hasks
    exact pass_of_looksSame hdb hdb' hpresents hsame stage hasks
  refine ⟨hrun, ?_⟩
  intro s s' hgate hgate' rejection hrejected
  by_cases hmethod : request.method = .options
  · rw [Service.answer, Service.answer, if_pos hmethod, if_pos hmethod]
  · have hrun' : s'.gate.run request = s.gate.run request := by rw [hgate, hgate', hrun]
    have hrejected' := (congrArg Passage.result hrun').trans hrejected
    rw [Service.answer_of_run_error hmethod hrejected,
      Service.answer_of_run_error hmethod hrejected', hrun']

/-- The first team with its project, the issue and the member of the two teams, among others:
an owner beside the member, a team that the member owns, and its own issue. -/
def otherNeighbours : Database where
  rows :=
    { users := [⟨5, "eve", false⟩, ⟨6, "mallory", true⟩]
      teams := [⟨7, "web"⟩, ⟨9, "lab"⟩]
      memberships := [⟨7, 5, "member"⟩, ⟨7, 6, "owner"⟩, ⟨9, 5, "owner"⟩]
      projects := [⟨1, "site", some 7⟩, ⟨4, "bench", some 9⟩]
      issues := [⟨10, 1, "typo"⟩, ⟨40, 4, "spill"⟩] }
  dropped := []
  checksRoles := true
  isClosed := false

theorem sound_otherNeighbours : otherNeighbours.Sound where
  valid := by
    have howner : ∀ p ∈ otherNeighbours.rows.projects,
        p.team.all otherNeighbours.rows.hasTeam = true := by decide
    constructor
    case project_team => exact fun p hp t ht => (Option.all_eq_true ..).mp (howner p hp) t ht
    all_goals decide
  complete := rfl
  isOpen := rfl

/-- The neighbours make no difference to the work on an issue of the first team. -/
theorem otherNeighbours_run :
    (twoTeams.gate (.withSecret (.ofText "k")) 1000).Presents
        (Gate.changeAt "/api/projects/1/issues/10/status") Gate.memberClaims
      ∧ twoTeams.rows.LooksSame otherNeighbours.rows Gate.memberClaims.subject
          (.ofText "/api/projects/1/issues/10/status")
      ∧ (otherNeighbours.gate (.withSecret (.ofText "k")) 1000).run
          (Gate.changeAt "/api/projects/1/issues/10/status")
        = (twoTeams.gate (.withSecret (.ofText "k")) 1000).run
          (Gate.changeAt "/api/projects/1/issues/10/status") := by
  have hpresents : (twoTeams.gate (.withSecret (.ofText "k")) 1000).Presents
      (Gate.changeAt "/api/projects/1/issues/10/status") Gate.memberClaims :=
    ⟨_, Token.token?_encode _ _ _, Token.verify_encode (by decide) .access⟩
  have hprojects : (∀ p ∈ twoTeams.rows.projects, p.id = 1 → p ∈ otherNeighbours.rows.projects)
      ∧ ∀ p ∈ otherNeighbours.rows.projects, p.id = 1 → p ∈ twoTeams.rows.projects := by decide
  have howner : ∀ p ∈ twoTeams.rows.projects, p.id = 1 → p.team = some 7 := by decide
  have hroles (role : Role) :
      twoTeams.rows.Holds 5 role 7 ↔ otherNeighbours.rows.Holds 5 role 7 := by
    unfold Rows.Holds
    cases role <;> decide
  have hproject : twoTeams.rows.SameProject otherNeighbours.rows 5 1 := by
    refine ⟨fun p hid => ⟨(hprojects.1 p · hid), (hprojects.2 p · hid)⟩, ?_⟩
    intro p hp hid team hteam role
    obtain rfl : 7 = team := Option.some.inj ((howner p hp hid).symm.trans hteam)
    exact hroles role
  have hsame : twoTeams.rows.LooksSame otherNeighbours.rows Gate.memberClaims.subject
      (.ofText "/api/projects/1/issues/10/status") := by
    have husers : (∀ u ∈ twoTeams.rows.users, u.id = 5 → u ∈ otherNeighbours.rows.users)
        ∧ ∀ u ∈ otherNeighbours.rows.users, u.id = 5 → u ∈ twoTeams.rows.users := by decide
    have hissues : (∀ i ∈ twoTeams.rows.issues, i.id = 10 → i ∈ otherNeighbours.rows.issues)
        ∧ ∀ i ∈ otherNeighbours.rows.issues, i.id = 10 → i ∈ twoTeams.rows.issues := by decide
    have hbelow : ∀ i ∈ twoTeams.rows.issues, i.id = 10 → i.project = 1 := by decide
    refine ⟨fun u hid => ⟨(husers.1 u · hid), (husers.2 u · hid)⟩, ?_, ?_, ?_⟩
    · intro id hid
      obtain rfl : 1 = id := Option.some.inj (ResourcePath.named_eq_some_iff.mpr hid)
      exact hproject
    · intro id hid i hi
      obtain rfl : 10 = id := Option.some.inj (ResourcePath.named_eq_some_iff.mpr hid)
      exact ⟨(hissues.1 i · hi), (hissues.2 i · hi)⟩
    · intro id hid i hi hkey
      obtain rfl : 10 = id := Option.some.inj (ResourcePath.named_eq_some_iff.mpr hid)
      rw [hbelow i hi hkey]
      exact hproject
  exact ⟨hpresents, hsame,
    (run_of_looksSame sound_twoTeams sound_otherNeighbours hpresents hsame).1⟩

end Database

end TrackerGate
