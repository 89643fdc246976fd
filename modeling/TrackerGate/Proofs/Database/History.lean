import TrackerGate.Proofs.Access.Standing
import TrackerGate.Proofs.Database.Integrity

/-!
# The tables through their history

What holds of the database after any run of changes (`coherent_run`), whichever of them it
refuses. A change that is carried out keeps the promise of the tables and a refused one
keeps the tables, so the promise holds all along; and all that `Coherent` says, of what is
stored and of what the readers make of it, follows from the promise alone.
-/

namespace TrackerGate

/-! ## The invariant -/

namespace Database

/-- Sound, and as strict about roles as when the tables were made. -/
structure Intact (db : Database) : Prop extends db.Sound where
  checksRoles : db.checksRoles = true

variable {db db' : Database}

theorem intact_fresh : fresh.Intact where
  valid := Rows.valid_empty
  complete := rfl
  isOpen := rfl
  checksRoles := rfl

theorem Intact.withRows (hdb : db.Intact) {rows : Rows} (hrows : rows.Valid) :
    Intact { db with rows } :=
  { hdb.toSound.withRows hrows with checksRoles := hdb.checksRoles }

theorem Intact.execute (hdb : db.Intact) {s : Statement} (h : db.execute s = .ok db') :
    db'.Intact := by
  obtain ⟨-, rows, hrows, rfl⟩ := execute_eq_ok_iff.mp h
  rw [hdb.checksRoles] at hrows
  exact hdb.withRows (hdb.valid.execute hrows)

theorem Intact.revise (hdb : db.Intact) {v : Revision} (h : db.revise v = .ok db') :
    db'.Intact := by
  unfold Database.revise at h
  split at h
  · obtain ⟨rows, hrows, rfl⟩ := map_eq_ok_iff.mp h
    rw [hdb.checksRoles] at hrows
    exact hdb.withRows (hdb.valid.revise hrows)
  · cases h

theorem Intact.change (hdb : db.Intact) {c : Change} (h : db.change c = .ok db') :
    db'.Intact := by
  cases c with
  | statement s => exact hdb.execute h
  | revision v => exact hdb.revise h

theorem after_of_refused {c : Change} {v : Violation} (h : db.change c = .error v) :
    db.after c = db := by
  simp only [after, h]

theorem Intact.after (hdb : db.Intact) (c : Change) : (db.after c).Intact := by
  cases h : db.change c with
  | error v =>
      rw [after_of_refused h]
      exact hdb
  | ok next =>
      have hnext : db.after c = next := by simp only [Database.after, h]
      exact hnext ▸ hdb.change h

/-- By induction over the changes, from any intact database on. -/
theorem Intact.run (hdb : db.Intact) (changes : List Change) : (db.run changes).Intact := by
  induction changes generalizing db with
  | nil => exact hdb
  | cons c changes ih =>
      have hnext := hdb.after c
      exact ih hnext

end Database

/-! ## Checks whose lookups succeed -/

namespace Access

/-- The check may turn somebody away, but no lookup of it fails. -/
def Finds {α : Type} (check : Check α) : Prop := ∀ failure, check ≠ .error (.lookup failure)

section

variable {α β : Type} {check : Check α} {k : α → Check β}

theorem finds_ok (a : α) : Finds (.ok a : Check α) := fun _ => nofun

theorem finds_look {answer : Except Failure α} {a : α} (h : answer = .ok a) :
    Finds (look answer) := by
  rw [look_eq_ok_iff.mpr h]
  exact finds_ok a

theorem Finds.bind (hcheck : Finds check) (hk : ∀ a, check = .ok a → Finds (k a)) :
    Finds (check >>= k) := by
  intro failure hfailed
  cases hresult : check with
  | error refusal =>
      rw [hresult] at hfailed
      exact hcheck failure (hresult.trans (Except.error.inj hfailed ▸ rfl))
  | ok a =>
      rw [hresult] at hfailed
      exact hk a hresult failure hfailed

theorem finds_ite {p : Prop} [Decidable p] {granted refused : Check α} (hgranted : Finds granted)
    (hrefused : Finds refused) : Finds (if p then granted else refused) := by
  split
  · exact hgranted
  · exact hrefused

theorem Finds.not_notFound (h : Finds check) {refusal : Refusal}
    (hrefused : check = .error refusal) : refusal.failure.isNotFound = false := by
  cases refusal with
  | lookup failure => exact absurd hrefused (h failure)
  | noPrincipal | notMember | ownerless | notManager => rfl

end

theorem finds_principal (ctx : Context) : Finds (principal ctx) := by
  unfold principal
  cases ctx.user with
  | none => exact fun _ => nofun
  | some user => exact finds_ok user

variable {r : Readers} {ctx : Context}

theorem finds_readProject {id : ProjectId} (hproject : ∃ p, r.project id = .ok p)
    (hteams : ∀ user, ∃ teams, r.teamsOf user = .ok teams) : Finds (readProject r ctx id) := by
  obtain ⟨p, hp⟩ := hproject
  refine .bind (finds_look hp) fun project _ => finds_ite (finds_ok ()) ?_
  cases project.team with
  | none => exact finds_ok ()
  | some team =>
      refine .bind (finds_principal ctx) fun user _ => ?_
      obtain ⟨teams, hteams⟩ := hteams user
      refine .bind (.bind (finds_look hteams) fun teams _ => finds_ok _) fun ids _ => ?_
      exact finds_ite (finds_ok ()) fun _ => nofun

theorem finds_manageProject {id : ProjectId} {issueWork : Bool}
    (hproject : ∃ p, r.project id = .ok p)
    (hmembers : ∀ team, ∃ members, r.members team = .ok members) :
    Finds (manageProject r ctx id issueWork) := by
  obtain ⟨p, hp⟩ := hproject
  refine .bind (finds_look hp) fun project _ => finds_ite (finds_ok ()) ?_
  cases project.team with
  | none =>
      refine finds_ite ?_ fun _ => nofun
      exact .bind (finds_principal ctx) fun _ _ => finds_ok ()
  | some team =>
      refine .bind (finds_principal ctx) fun user _ => ?_
      obtain ⟨members, hmembers⟩ := hmembers team
      refine .bind (finds_look hmembers) fun members _ => ?_
      exact finds_ite (finds_ok ()) fun _ => nofun

end Access

/-! ## What follows of the rows -/

namespace Rows

variable {r : Rows} {ctx : Context}

theorem nodup_teamsOf (hr : r.Valid) (user : UserId) : ((r.teamsOf user).map (·.id)).Nodup := by
  rw [teamsOf_eq_filter hr]
  exact hr.teams_unique.sublist (List.filter_sublist.map _)

theorem exists_project (hr : r.Valid) {i : Issue} (hi : i ∈ r.issues) :
    ∃ p, r.readers.project i.project = .ok p := by
  obtain ⟨p, hp, hid⟩ := List.mem_map.mp (hasProject_iff.mp (hr.issue_project i hi))
  exact ⟨p, (project_eq_ok_iff hr).mpr ⟨hp, hid⟩⟩

/-- Whoever asks for an issue that is there finds it, and goes on with it. -/
theorem finds_issue (hr : r.Valid) {i : Issue} (hi : i ∈ r.issues) {k : Issue → Check Unit}
    (hk : Access.Finds (k i)) : Access.Finds (Access.look (r.readers.issue i.id) >>= k) := by
  have hissue : r.readers.issue i.id = .ok i := (issue_eq_ok_iff hr).mpr ⟨hi, rfl⟩
  refine .bind (Access.finds_look hissue) fun issue hfound => ?_
  obtain rfl := Except.ok.inj (hissue.symm.trans (Access.look_eq_ok_iff.mp hfound))
  exact hk

theorem finds_readIssue (hr : r.Valid) {i : Issue} (hi : i ∈ r.issues) :
    Access.Finds (Access.readIssue r.readers ctx i.id) := by
  refine Access.finds_ite (Access.finds_ok ()) (finds_issue hr hi ?_)
  exact Access.finds_readProject (exists_project hr hi) fun user => ⟨_, rfl⟩

theorem finds_manageIssue (hr : r.Valid) {i : Issue} (hi : i ∈ r.issues) :
    Access.Finds (Access.manageIssue r.readers ctx i.id) := by
  refine Access.finds_ite (Access.finds_ok ()) (finds_issue hr hi ?_)
  refine Access.finds_manageProject (exists_project hr hi) fun team => ?_
  obtain ⟨members, hmembers, -⟩ := members_spec hr team
  exact ⟨members, hmembers⟩

end Rows

/-! ## All that is said of a database -/

namespace Database

/-- What is stored fits together, and the readers find what is stored and nothing else. -/
structure Coherent (db : Database) : Prop where
  refused : ∀ c v, db.change c = .error v → db.after c = db
  memberships_once : (db.rows.memberships.map fun m => (m.team, m.user)).Nodup
  membership_team : ∀ m ∈ db.rows.memberships, ∃ t ∈ db.rows.teams, t.id = m.team
  membership_user : ∀ m ∈ db.rows.memberships, ∃ u ∈ db.rows.users, u.id = m.user
  membership_role : ∀ m ∈ db.rows.memberships, ∃ role, Role.parse m.role = .ok role
  project_team : ∀ p ∈ db.rows.projects, p.team = none ∨ ∃ t ∈ db.rows.teams, p.team = some t.id
  issue_project : ∀ i ∈ db.rows.issues, ∃ p ∈ db.rows.projects, p.id = i.project
  user_found : ∀ id u, db.readers.user id = .ok u ↔ u ∈ db.rows.users ∧ u.id = id
  project_found : ∀ id p, db.readers.project id = .ok p ↔ p ∈ db.rows.projects ∧ p.id = id
  issue_found : ∀ id i, db.readers.issue id = .ok i ↔ i ∈ db.rows.issues ∧ i.id = id
  all_listed : db.readers.projects = .ok db.rows.projects ∧ db.readers.teams = .ok db.rows.teams
  /-- The teams of a user and the members of a team tell the same, and the role of a member
  is the one that its single row names. -/
  readers_agree : ∀ team user, ∃ members teams,
    db.readers.members team = .ok members
      ∧ db.readers.teamsOf user = .ok teams
      ∧ (teams.map (·.id)).Nodup
      ∧ (team ∈ teams.map (·.id) ↔ (Membership.roleOf members user).isSome = true)
      ∧ ∀ role, Membership.roleOf members user = some role
          ↔ ∃ row, db.rows.memberships.filter (fun m => m.team == team && m.user == user) = [row]
              ∧ Role.parse row.role = .ok role
  /-- A membership that is stored is told in both ways. -/
  membership_found : ∀ m ∈ db.rows.memberships, ∃ members teams role,
    db.readers.members m.team = .ok members
      ∧ db.readers.teamsOf m.user = .ok teams
      ∧ m.team ∈ teams.map (·.id)
      ∧ Role.parse m.role = .ok role
      ∧ Membership.roleOf members m.user = some role
  readIssue_found : ∀ i ∈ db.rows.issues, ∀ ctx refusal,
    Access.readIssue db.readers ctx i.id = .error refusal → refusal.failure.isNotFound = false
  manageIssue_found : ∀ i ∈ db.rows.issues, ∀ ctx refusal,
    Access.manageIssue db.readers ctx i.id = .error refusal → refusal.failure.isNotFound = false

theorem Sound.coherent {db : Database} (hdb : db.Sound) : db.Coherent where
  refused _ _ h := after_of_refused h
  memberships_once := hdb.valid.memberships_unique
  membership_team m hm := by simpa [Rows.hasTeam] using hdb.valid.membership_team m hm
  membership_user m hm := by simpa [Rows.hasUser] using hdb.valid.membership_user m hm
  membership_role m hm := by
    obtain ⟨role, hparse, -⟩ := MembershipRow.exists_eq_row (hdb.valid.membership_role m hm)
    exact ⟨role, hparse⟩
  project_team p hp := by
    cases hteam : p.team with
    | none => exact .inl rfl
    | some team =>
        obtain ⟨t, ht, hid⟩ := List.any_eq_true.mp (hdb.valid.project_team p hp team hteam)
        exact .inr ⟨t, ht, congrArg some (beq_iff_eq.mp hid).symm⟩
  issue_project i hi := by simpa [Rows.hasProject] using hdb.valid.issue_project i hi
  user_found _ _ := hdb.readers_eq ▸ Rows.user_eq_ok_iff hdb.valid
  project_found _ _ := hdb.readers_eq ▸ Rows.project_eq_ok_iff hdb.valid
  issue_found _ _ := hdb.readers_eq ▸ Rows.issue_eq_ok_iff hdb.valid
  all_listed := by
    rw [hdb.readers_eq]
    exact ⟨rfl, rfl⟩
  readers_agree team user := by
    obtain ⟨members, hmembers, hrole⟩ := Rows.members_spec hdb.valid team
    rw [hdb.readers_eq]
    refine ⟨members, db.rows.teamsOf user, hmembers, rfl, Rows.nodup_teamsOf hdb.valid user, ?_, ?_⟩
    · rw [Rows.mem_teamsOf_iff hdb.valid, Option.isSome_iff_exists]
      exact exists_congr fun role => (hrole user role).symm
    · intro role
      rw [hrole user role]
      exact Rows.holds_iff_single hdb.valid
  membership_found m hm := by
    obtain ⟨role, hparse, hrow⟩ := MembershipRow.exists_eq_row (hdb.valid.membership_role m hm)
    have hholds : db.rows.Holds m.user role m.team := by
      rw [Rows.Holds, ← hrow]
      exact hm
    obtain ⟨members, hmembers, hrole⟩ := Rows.members_spec hdb.valid m.team
    rw [hdb.readers_eq]
    exact ⟨members, db.rows.teamsOf m.user, role, hmembers, rfl,
      (Rows.mem_teamsOf_iff hdb.valid).mpr ⟨role, hholds⟩, hparse,
      (hrole m.user role).mpr hholds⟩
  readIssue_found i hi ctx refusal hrefused :=
    (Rows.finds_readIssue hdb.valid hi).not_notFound (hdb.readers_eq ▸ hrefused)
  manageIssue_found i hi ctx refusal hrefused :=
    (Rows.finds_manageIssue hdb.valid hi).not_notFound (hdb.readers_eq ▸ hrefused)

/-- Whatever is asked of a database that was fresh, and whatever of it was refused: what is
stored fits together, and the readers find what is stored and nothing else. -/
theorem coherent_run (changes : List Change) : (fresh.run changes).Coherent :=
  (intact_fresh.run changes).toSound.coherent

/-- What is carried out, and what is refused after it: a second membership of a user in a team, a
membership of a user who is not there, a role that nobody can have, and a new key for a team
that somebody is a member of. Asked for along with the others, these leave no trace. -/
example :
    let carriedOut : List Change :=
      [.statement (.insertUser none (some "eve") (some false)),
        .statement (.insertTeam (some 7) (some "web")),
        .statement (.insertMembership (some 7) (some 1) (some "member")),
        .statement (.insertProject none (some "site") (some 7)),
        .statement (.setRole (some 7) (some 1) (some "admin"))]
    let refused : List (Change × Violation) :=
      [(.statement (.insertMembership (some 7) (some 1) (some "owner")), .unique),
        (.statement (.insertMembership (some 7) (some 2) (some "owner")), .foreignKey),
        (.statement (.setRole (some 7) (some 1) (some "chief")), .check),
        (.revision (.teams [(7, some ⟨8, "web"⟩)]), .foreignKey)]
    (fresh.run carriedOut).rows
        = { users := [⟨1, "eve", false⟩]
            teams := [⟨7, "web"⟩]
            memberships := [⟨7, 1, "admin"⟩]
            projects := [⟨1, "site", some 7⟩]
            issues := [] }
      ∧ (∀ e ∈ refused, (fresh.run carriedOut).change e.1 = .error e.2)
      ∧ fresh.run (carriedOut ++ refused.map (·.1)) = fresh.run carriedOut := by
  decide

end Database

end TrackerGate
