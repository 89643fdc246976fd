import TrackerGate.Database.Statement
import TrackerGate.Proofs.Database.Lookup

/-!
# Statements keep the promise of the tables

A statement that is carried out on a sound database leaves it sound. Shown here for the
statements that give a user more: a new membership, another role, and the word that makes
a superuser. What such a statement does to the rows is read off its execution once
(`addMembership_eq_ok_iff` and its siblings), and that the rows stay valid is a matter of
rows alone (`Valid.insertMembership` and its siblings).
-/

namespace TrackerGate

namespace Rows

/-! ## Lists of rows -/

section

variable {α β : Type} {p : α → Bool} {f : α → α} {l : List α}

theorem insertBefore_perm (isBefore : α → α → Bool) (a : α) (l : List α) :
    (insertBefore isBefore a l).Perm (a :: l) := by
  induction l with
  | nil => exact .refl _
  | cons b l ih =>
      rw [insertBefore]
      split
      · exact .refl _
      · exact (ih.cons b).trans (.swap a b l)

theorem mem_updateWhere_iff {a : α} :
    a ∈ updateWhere p f l ↔ ∃ b ∈ l, (if p b = true then f b else b) = a := List.mem_map

/-- What an update does not touch is as it was, row by row. -/
theorem map_updateWhere {g : α → β} (h : ∀ a, g (f a) = g a) :
    (updateWhere p f l).map g = l.map g := by
  rw [updateWhere, List.map_map]
  refine List.map_congr_left fun a _ => ?_
  rw [Function.comp_apply]
  split
  · exact h a
  · rfl

theorem nodup_map_updateWhere {g : α → β} (h : ∀ a, g (f a) = g a) (hl : (l.map g).Nodup) :
    ((updateWhere p f l).map g).Nodup := by
  rwa [map_updateWhere h]

/-- An update of nothing. -/
theorem updateWhere_eq_self (h : l.any p = false) : updateWhere p f l = l := by
  refine (List.map_congr_left fun a ha => ?_).trans (List.map_id l)
  have hp : p a = false := by simpa using List.any_eq_false.mp h a ha
  simp [hp]

end

/-! ## What a statement does -/

variable {r r' : Rows} {checksRoles : Bool}

theorem given_eq_ok_iff {α : Type} {bound : Option α} {a : α} :
    given bound = .ok a ↔ bound = some a := by
  cases bound <;> simp [given]

theorem ensure_eq_ok_iff {v : Violation} {holds : Bool} {u : Unit} :
    ensure v holds = .ok u ↔ holds = true := by
  cases holds <;> simp [ensure]

theorem addMembership_eq_ok_iff {team : TeamId} {user : UserId} {role : String} :
    addMembership checksRoles r (some team) (some user) (some role) = .ok r'
      ↔ isRole checksRoles role = true ∧ r.hasMembership team user = false
        ∧ r.hasTeam team = true ∧ r.hasUser user = true
        ∧ r.insertMembership { team, user, role } = r' := by
  simp only [addMembership, bind_eq_ok_iff, given_eq_ok_iff, ensure_eq_ok_iff, pure_eq_ok_iff,
    Bool.and_eq_true, Bool.not_eq_true', Option.some.injEq, exists_const, exists_eq_left',
    and_assoc]

/-- Where there is no such membership, nothing changes and any text will do for a role. -/
theorem setRole_eq_ok_iff {team : TeamId} {user : UserId} {role : String} :
    setRole checksRoles r (some team) (some user) (some role) = .ok r'
      ↔ (r.hasMembership team user = true → isRole checksRoles role = true)
        ∧ { r with
            memberships := updateWhere (fun m => m.team == team && m.user == user)
              (fun m => { m with role }) r.memberships } = r' := by
  have hmatched : (fun m : MembershipRow => some m.team == some team && some m.user == some user)
      = fun m => m.team == team && m.user == user := rfl
  simp only [setRole, hmatched, hasMembership]
  by_cases hany : r.memberships.any (fun m => m.team == team && m.user == user) = true
  · simp only [hany, if_true, bind_eq_ok_iff, given_eq_ok_iff, ensure_eq_ok_iff, pure_eq_ok_iff,
      Option.some.injEq, exists_const, exists_eq_left', true_imp_iff]
  · rw [Bool.not_eq_true] at hany
    simp only [hany, updateWhere_eq_self hany, pure_eq_ok_iff, Bool.false_eq_true, if_false,
      false_imp_iff, true_and]

theorem setSuperuser_eq_ok_iff {user : UserId} {isSuperuser : Bool} :
    r.setSuperuser (some user) (some isSuperuser) = .ok r'
      ↔ { r with
          users := updateWhere (fun u => u.id == user) (fun u => { u with isSuperuser }) r.users }
        = r' := by
  have hmatched : (fun u : User => some u.id == some user) = fun u => u.id == user := rfl
  simp only [setSuperuser, hmatched]
  by_cases hany : r.users.any (fun u => u.id == user) = true
  · simp only [hany, if_true, bind_eq_ok_iff, given_eq_ok_iff, pure_eq_ok_iff,
      Option.some.injEq, exists_eq_left']
  · rw [Bool.not_eq_true] at hany
    simp only [hany, updateWhere_eq_self hany, pure_eq_ok_iff, Bool.false_eq_true, if_false]

/-! ## Valid rows stay valid -/

theorem hasUser_iff {id : UserId} : r.hasUser id = true ↔ id ∈ r.users.map (·.id) := by
  simp [hasUser]

theorem mem_insertMembership_iff {m m' : MembershipRow} :
    m' ∈ (r.insertMembership m).memberships ↔ m' = m ∨ m' ∈ r.memberships :=
  (insertBefore_perm _ _ _).mem_iff.trans List.mem_cons

theorem Valid.insertMembership (hr : r.Valid) {m : MembershipRow}
    (hrole : (Role.ofName? m.role).isSome = true) (hnew : r.hasMembership m.team m.user = false)
    (hteam : r.hasTeam m.team = true) (huser : r.hasUser m.user = true) :
    (r.insertMembership m).Valid where
  users_unique := hr.users_unique
  usernames_unique := hr.usernames_unique
  teams_unique := hr.teams_unique
  memberships_unique := by
    refine ((insertBefore_perm _ _ _).map _).nodup_iff.mpr
      (List.nodup_cons.mpr ⟨fun hmem => ?_, hr.memberships_unique⟩)
    obtain ⟨m', hm', hkey⟩ := List.mem_map.mp hmem
    have htaken : r.hasMembership m.team m.user = true :=
      List.any_eq_true.mpr ⟨m', hm', by simpa using Prod.mk.inj hkey⟩
    rw [hnew] at htaken
    cases htaken
  projects_unique := hr.projects_unique
  issues_unique := hr.issues_unique
  membership_user m' hm' := by
    rcases mem_insertMembership_iff.mp hm' with rfl | hold
    · exact huser
    · exact hr.membership_user m' hold
  membership_team m' hm' := by
    rcases mem_insertMembership_iff.mp hm' with rfl | hold
    · exact hteam
    · exact hr.membership_team m' hold
  membership_role m' hm' := by
    rcases mem_insertMembership_iff.mp hm' with rfl | hold
    · exact hrole
    · exact hr.membership_role m' hold
  project_team := hr.project_team
  issue_project := hr.issue_project

theorem Valid.updateRole (hr : r.Valid) (p : MembershipRow → Bool) {role : String}
    (hrole : (Role.ofName? role).isSome = true) :
    Valid { r with memberships := updateWhere p (fun m => { m with role }) r.memberships } where
  users_unique := hr.users_unique
  usernames_unique := hr.usernames_unique
  teams_unique := hr.teams_unique
  memberships_unique := nodup_map_updateWhere (fun _ => rfl) hr.memberships_unique
  projects_unique := hr.projects_unique
  issues_unique := hr.issues_unique
  membership_user m' hm' := by
    obtain ⟨m, hm, rfl⟩ := mem_updateWhere_iff.mp hm'
    have huser := hr.membership_user m hm
    split <;> exact huser
  membership_team m' hm' := by
    obtain ⟨m, hm, rfl⟩ := mem_updateWhere_iff.mp hm'
    have hteam := hr.membership_team m hm
    split <;> exact hteam
  membership_role m' hm' := by
    obtain ⟨m, hm, rfl⟩ := mem_updateWhere_iff.mp hm'
    split
    · exact hrole
    · exact hr.membership_role m hm
  project_team := hr.project_team
  issue_project := hr.issue_project

theorem Valid.updateSuperuser (hr : r.Valid) (p : User → Bool) (isSuperuser : Bool) :
    Valid { r with users := updateWhere p (fun u => { u with isSuperuser }) r.users } where
  users_unique := nodup_map_updateWhere (fun _ => rfl) hr.users_unique
  usernames_unique := nodup_map_updateWhere (fun _ => rfl) hr.usernames_unique
  teams_unique := hr.teams_unique
  memberships_unique := hr.memberships_unique
  projects_unique := hr.projects_unique
  issues_unique := hr.issues_unique
  membership_user m hm := by
    have hids : (updateWhere p (fun u => { u with isSuperuser }) r.users).map (·.id)
        = r.users.map (·.id) := map_updateWhere fun _ => rfl
    exact hasUser_iff.mpr (hids ▸ hasUser_iff.mp (hr.membership_user m hm))
  membership_team := hr.membership_team
  membership_role := hr.membership_role
  project_team := hr.project_team
  issue_project := hr.issue_project

end Rows

/-! ## Sound databases stay sound -/

namespace Database

variable {db db' : Database}

theorem execute_eq_ok_iff {s : Statement} :
    db.execute s = .ok db'
      ↔ db.allows s = true
        ∧ ∃ rows, db.rows.execute db.checksRoles s = .ok rows ∧ { db with rows } = db' := by
  unfold execute
  by_cases hallows : db.allows s = true
  · simp only [hallows, if_true, map_eq_ok_iff, true_and]
  · simp only [hallows, if_false, false_and, iff_false, Bool.false_eq_true]
    exact nofun

theorem Sound.withRows (hdb : db.Sound) {rows : Rows} (hrows : rows.Valid) :
    Sound { db with rows } where
  valid := hrows
  complete := hdb.complete
  isOpen := hdb.isOpen

end Database

end TrackerGate
