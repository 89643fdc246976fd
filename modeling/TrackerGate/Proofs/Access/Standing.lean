import TrackerGate.Access
import TrackerGate.Proofs.Database.Lookup

/-!
# Who passes a check

The access checks run through lookups in an order that matters when one of them fails.
Whether a check is passed is a matter of what the lookups find, and the inversion lemmas
of the first part (`readProject_eq_ok_iff` and its siblings) say what that is, for all
readers. Nothing of a context counts but who is asking.

Behind valid rows no lookup fails, and the answer is a matter of rows alone. The second
part names the standings that rows give somebody (`MayRead`, `MayManage`, `MayWorkOn` for
projects, `MayReadIssue` and `MayWorkOnIssue` for issues) and shows each check to be
passed by exactly those who have the standing it asks for. Reading asks for the teams of
a user and managing for the members of a team; here both become one membership row.
-/

namespace TrackerGate

/-! ## What a check finds -/

namespace Access

variable {r : Readers} {ctx ctx' : Context}

theorem look_eq_ok_iff {α : Type} {answer : Except Failure α} {a : α} :
    look answer = .ok a ↔ answer = .ok a := mapError_eq_ok_iff

theorem principal_eq_ok_iff {user : UserId} : principal ctx = .ok user ↔ ctx.user = some user := by
  unfold principal
  cases ctx.user <;> simp

theorem principalTeams_eq_ok_iff {user : UserId} {ids : List TeamId} :
    principalTeams r user = .ok ids
      ↔ ∃ teams, r.teamsOf user = .ok teams ∧ teams.map (·.id) = ids := by
  simp only [principalTeams, bind_eq_ok_iff, look_eq_ok_iff, pure_eq_ok_iff]

theorem readProject_eq_ok_iff {id : ProjectId} :
    readProject r ctx id = .ok ()
      ↔ ∃ p, r.project id = .ok p
          ∧ (ctx.isSuperuser = true
            ∨ p.team = none
            ∨ ∃ team, p.team = some team ∧ ∃ user, ctx.user = some user
                ∧ ∃ teams, r.teamsOf user = .ok teams ∧ team ∈ teams.map (·.id)) := by
  unfold readProject
  rw [bind_eq_ok_iff]
  refine exists_congr fun p => and_congr look_eq_ok_iff ?_
  cases hsuper : ctx.isSuperuser with
  | true => simp [pure_eq_ok_iff]
  | false =>
      cases hteam : p.team with
      | none => simp [pure_eq_ok_iff]
      | some team =>
          simp only [Bool.false_eq_true, if_false, false_or, ite_throw_eq_ok_iff,
            bind_eq_ok_iff, principal_eq_ok_iff, principalTeams_eq_ok_iff, pure_eq_ok_iff]
          simp

theorem manageProject_eq_ok_iff {id : ProjectId} {issueWork : Bool} :
    manageProject r ctx id issueWork = .ok ()
      ↔ ∃ p, r.project id = .ok p
          ∧ (ctx.isSuperuser = true
            ∨ (p.team = none ∧ issueWork = true ∧ ∃ user, ctx.user = some user)
            ∨ ∃ team, p.team = some team ∧ ∃ user, ctx.user = some user
                ∧ ∃ members, r.members team = .ok members
                  ∧ ∃ role, Membership.roleOf members user = some role
                    ∧ (role.canManage = true ∨ issueWork = true)) := by
  unfold manageProject
  rw [bind_eq_ok_iff]
  refine exists_congr fun p => and_congr look_eq_ok_iff ?_
  cases hsuper : ctx.isSuperuser with
  | true => simp [pure_eq_ok_iff]
  | false =>
      cases hteam : p.team with
      | none =>
          simp only [Bool.false_eq_true, if_false, false_or, ite_throw_eq_ok_iff,
            bind_eq_ok_iff, principal_eq_ok_iff, pure_eq_ok_iff]
          simp
      | some team =>
          simp only [Bool.false_eq_true, if_false, false_or, ite_throw_eq_ok_iff,
            bind_eq_ok_iff, principal_eq_ok_iff, look_eq_ok_iff, pure_eq_ok_iff]
          simp [Option.any_eq_true]

theorem readIssue_eq_ok_iff {id : IssueId} :
    readIssue r ctx id = .ok ()
      ↔ ctx.isSuperuser = true
        ∨ ∃ i, r.issue id = .ok i ∧ readProject r ctx i.project = .ok () := by
  unfold readIssue
  cases hsuper : ctx.isSuperuser with
  | true => simp [pure, Except.pure]
  | false => simp [bind_eq_ok_iff, look_eq_ok_iff]

theorem manageIssue_eq_ok_iff {id : IssueId} :
    manageIssue r ctx id = .ok ()
      ↔ ctx.isSuperuser = true
        ∨ ∃ i, r.issue id = .ok i ∧ manageProject r ctx i.project true = .ok () := by
  unfold manageIssue
  cases hsuper : ctx.isSuperuser with
  | true => simp [pure, Except.pure]
  | false => simp [bind_eq_ok_iff, look_eq_ok_iff]

end Access

/-! ## Standings -/

namespace Rows

/-- Whoever asks has a membership row in `team`. -/
def IsMember (r : Rows) (ctx : Context) (team : TeamId) : Prop :=
  ∃ user, ctx.user = some user ∧ ∃ role, r.Holds user role team

/-- Whoever asks is an owner or an admin of `team`. -/
def Leads (r : Rows) (ctx : Context) (team : TeamId) : Prop :=
  ∃ user, ctx.user = some user ∧ (r.Holds user .owner team ∨ r.Holds user .admin team)

def MayRead (r : Rows) (ctx : Context) (id : ProjectId) : Prop :=
  ∃ p ∈ r.projects, p.id = id
    ∧ (ctx.isSuperuser = true ∨ p.team = none ∨ ∃ team ∈ p.team, r.IsMember ctx team)

def MayManage (r : Rows) (ctx : Context) (id : ProjectId) : Prop :=
  ∃ p ∈ r.projects, p.id = id
    ∧ (ctx.isSuperuser = true ∨ ∃ team ∈ p.team, r.Leads ctx team)

/-- What it takes to work on the issues of a project. -/
def MayWorkOn (r : Rows) (ctx : Context) (id : ProjectId) : Prop :=
  ∃ p ∈ r.projects, p.id = id
    ∧ (ctx.isSuperuser = true ∨ (p.team = none ∧ ∃ user, ctx.user = some user)
      ∨ ∃ team ∈ p.team, r.IsMember ctx team)

/-- Nobody asks whether an issue exists that a superuser asks for. -/
def MayReadIssue (r : Rows) (ctx : Context) (id : IssueId) : Prop :=
  ctx.isSuperuser = true ∨ ∃ i ∈ r.issues, i.id = id ∧ r.MayRead ctx i.project

def MayWorkOnIssue (r : Rows) (ctx : Context) (id : IssueId) : Prop :=
  ctx.isSuperuser = true ∨ ∃ i ∈ r.issues, i.id = id ∧ r.MayWorkOn ctx i.project

variable {r : Rows} {ctx : Context}

/-! ## Checks behind valid rows -/

theorem exists_mem_teamsOf_iff (hr : r.Valid) {team : TeamId} :
    (∃ user, ctx.user = some user
        ∧ ∃ teams, r.readers.teamsOf user = .ok teams ∧ team ∈ teams.map (·.id))
      ↔ r.IsMember ctx team := by
  refine exists_congr fun user => and_congr_right fun _ => ?_
  rw [← mem_teamsOf_iff hr]
  constructor
  · rintro ⟨teams, hteams, hmem⟩
    exact Except.ok.inj hteams ▸ hmem
  · intro hmem
    exact ⟨_, rfl, hmem⟩

/-- The roles that manage are those of owners and admins. -/
theorem exists_canManage_iff {team : TeamId} {user : UserId} :
    (∃ role, r.Holds user role team ∧ role.canManage = true)
      ↔ r.Holds user .owner team ∨ r.Holds user .admin team := by
  constructor
  · rintro ⟨role, hholds, hmanages⟩
    cases role with
    | member => cases hmanages
    | admin => exact .inr hholds
    | owner => exact .inl hholds
  · rintro (howner | hadmin)
    · exact ⟨.owner, howner, rfl⟩
    · exact ⟨.admin, hadmin, rfl⟩

/-- To be found with some role among the members of a team is to have its row. -/
theorem exists_roleOf_iff (hr : r.Valid) {team : TeamId} {user : UserId} {enough : Role → Prop} :
    (∃ members, r.readers.members team = .ok members
        ∧ ∃ role, Membership.roleOf members user = some role ∧ enough role)
      ↔ ∃ role, r.Holds user role team ∧ enough role := by
  obtain ⟨members, hmembers, hrole⟩ := members_spec hr team
  constructor
  · rintro ⟨members', hmembers', role, hof, henough⟩
    obtain rfl := Except.ok.inj (hmembers.symm.trans hmembers')
    exact ⟨role, (hrole user role).mp hof, henough⟩
  · rintro ⟨role, hholds, henough⟩
    exact ⟨members, hmembers, role, (hrole user role).mpr hholds, henough⟩

theorem readProject_eq_ok_iff_mayRead (hr : r.Valid) {id : ProjectId} :
    Access.readProject r.readers ctx id = .ok () ↔ r.MayRead ctx id := by
  simp only [Access.readProject_eq_ok_iff, project_eq_ok_iff hr, exists_mem_teamsOf_iff hr,
    MayRead, Option.mem_def, and_assoc]

/-- Without the relaxation a project's manager is asked for, and with it anybody who may
work on the project's issues does as well. -/
theorem manageProject_eq_ok_iff_standing (hr : r.Valid) {id : ProjectId} {issueWork : Bool} :
    Access.manageProject r.readers ctx id issueWork = .ok ()
      ↔ r.MayManage ctx id ∨ (issueWork = true ∧ r.MayWorkOn ctx id) := by
  simp only [Access.manageProject_eq_ok_iff, project_eq_ok_iff hr, exists_roleOf_iff hr]
  constructor
  · rintro ⟨p, ⟨hp, hid⟩, hstanding⟩
    rcases hstanding with hsuper | ⟨hteam, hwork, huser⟩ | ⟨team, hteam, user, huser, role, h, hrole⟩
    · exact .inl ⟨p, hp, hid, .inl hsuper⟩
    · exact .inr ⟨hwork, p, hp, hid, .inr (.inl ⟨hteam, huser⟩)⟩
    · rcases hrole with hmanages | hwork
      · have hleads := exists_canManage_iff.mp ⟨role, h, hmanages⟩
        exact .inl ⟨p, hp, hid, .inr ⟨team, hteam, user, huser, hleads⟩⟩
      · exact .inr ⟨hwork, p, hp, hid, .inr (.inr ⟨team, hteam, user, huser, role, h⟩)⟩
  · rintro (⟨p, hp, hid, hstanding⟩ | ⟨hwork, p, hp, hid, hstanding⟩)
    · refine ⟨p, ⟨hp, hid⟩, ?_⟩
      rcases hstanding with hsuper | ⟨team, hteam, user, huser, hleads⟩
      · exact .inl hsuper
      · obtain ⟨role, h, hmanages⟩ := exists_canManage_iff.mpr hleads
        exact .inr (.inr ⟨team, hteam, user, huser, role, h, .inl hmanages⟩)
    · refine ⟨p, ⟨hp, hid⟩, ?_⟩
      rcases hstanding with hsuper | ⟨hteam, huser⟩ | ⟨team, hteam, user, huser, role, h⟩
      · exact .inl hsuper
      · exact .inr (.inl ⟨hteam, hwork, huser⟩)
      · exact .inr (.inr ⟨team, hteam, user, huser, role, h, .inr hwork⟩)

/-- Who manages a project may work on its issues. -/
theorem MayManage.mayWorkOn {id : ProjectId} (h : r.MayManage ctx id) : r.MayWorkOn ctx id := by
  obtain ⟨p, hp, hid, hsuper | ⟨team, hteam, user, huser, hleads⟩⟩ := h
  · exact ⟨p, hp, hid, .inl hsuper⟩
  · obtain ⟨role, hholds, -⟩ := exists_canManage_iff.mpr hleads
    exact ⟨p, hp, hid, .inr (.inr ⟨team, hteam, user, huser, role, hholds⟩)⟩

theorem readIssue_eq_ok_iff_mayReadIssue (hr : r.Valid) {id : IssueId} :
    Access.readIssue r.readers ctx id = .ok () ↔ r.MayReadIssue ctx id := by
  simp only [Access.readIssue_eq_ok_iff, issue_eq_ok_iff hr, MayReadIssue,
    readProject_eq_ok_iff_mayRead hr, and_assoc]

theorem manageIssue_eq_ok_iff_mayWorkOnIssue (hr : r.Valid) {id : IssueId} :
    Access.manageIssue r.readers ctx id = .ok () ↔ r.MayWorkOnIssue ctx id := by
  have hwork {project : ProjectId} :
      Access.manageProject r.readers ctx project true = .ok () ↔ r.MayWorkOn ctx project := by
    rw [manageProject_eq_ok_iff_standing hr, eq_self, true_and,
      or_iff_right_of_imp MayManage.mayWorkOn]
  simp only [Access.manageIssue_eq_ok_iff, issue_eq_ok_iff hr, MayWorkOnIssue, hwork, and_assoc]

end Rows

end TrackerGate
