import TrackerGate.Database.Revision
import TrackerGate.Proofs.Database.Upkeep

/-!
# Every change keeps the promise of the tables

Valid rows stay valid under every statement (`Valid.execute`) and under every revision
(`Valid.revise`).

The promise has two halves. Keys and names are unique and roles can be read, which is a
matter of one table at a time (`Keyed`); and whatever a row refers to is there
(`keepsReferences`). A revision may break the second half on the way, so its induction
carries the first half alone and the second is what is checked at the end. A statement
never breaks either: what is put in is checked before, what is taken out takes along
whatever refers to it.
-/

namespace TrackerGate

namespace Rows

/-! ## Keys and references -/

/-- The half of the promise that rows keep table by table. -/
structure Keyed (r : Rows) : Prop where
  users_unique : (r.users.map (·.id)).Nodup
  usernames_unique : (r.users.map (·.username)).Nodup
  teams_unique : (r.teams.map (·.id)).Nodup
  memberships_unique : (r.memberships.map fun m => (m.team, m.user)).Nodup
  projects_unique : (r.projects.map (·.id)).Nodup
  issues_unique : (r.issues.map (·.id)).Nodup
  membership_role : ∀ m ∈ r.memberships, (Role.ofName? m.role).isSome = true

variable {r r' : Rows}

theorem Valid.keyed (hr : r.Valid) : r.Keyed := { hr with }

theorem keepsReferences_iff :
    r.keepsReferences = true
      ↔ (∀ m ∈ r.memberships, r.hasTeam m.team = true ∧ r.hasUser m.user = true)
        ∧ (∀ p ∈ r.projects, r.isOwner p.team = true)
        ∧ ∀ i ∈ r.issues, r.hasProject i.project = true := by
  simp only [keepsReferences, Bool.and_eq_true, List.all_eq_true, and_assoc]

theorem isOwner_iff {owner : Option TeamId} :
    r.isOwner owner = true ↔ ∀ team ∈ owner, r.hasTeam team = true := by
  cases owner <;> simp [isOwner]

theorem hasProject_iff {id : ProjectId} :
    r.hasProject id = true ↔ id ∈ r.projects.map (·.id) := by
  simp [hasProject]

theorem Keyed.valid (hr : r.Keyed) (hrefs : r.keepsReferences = true) : r.Valid := by
  obtain ⟨hmemberships, hprojects, hissues⟩ := keepsReferences_iff.mp hrefs
  exact
    { hr with
      membership_user := fun m hm => (hmemberships m hm).2
      membership_team := fun m hm => (hmemberships m hm).1
      project_team := fun p hp => isOwner_iff.mp (hprojects p hp)
      issue_project := hissues }

/-! ## Rows that are put in -/

section

variable {α κ : Type} [BEq κ] [LawfulBEq κ] {key : α → κ} {l : List α} {a : α}

theorem key_ne_of_any_eq_false {k : κ} (h : l.any (key · == k) = false) : ∀ b ∈ l, key b ≠ k := by
  intro b hb hkey
  have hnot := List.any_eq_false.mp h b hb
  exact hnot (by simpa using hkey)

theorem mem_insertBefore_iff {isBefore : α → α → Bool} {b : α} :
    b ∈ insertBefore isBefore a l ↔ b = a ∨ b ∈ l :=
  (insertBefore_perm isBefore a l).mem_iff.trans List.mem_cons

theorem nodup_map_insertBefore {β : Type} {g : α → β} {isBefore : α → α → Bool}
    (hnew : ∀ b ∈ l, g b ≠ g a) (hl : (l.map g).Nodup) :
    ((insertBefore isBefore a l).map g).Nodup := by
  refine ((insertBefore_perm isBefore a l).map g).nodup_iff.mpr ?_
  rw [List.map_cons, List.nodup_cons]
  refine ⟨?_, hl⟩
  intro hmem
  obtain ⟨b, hb, hsame⟩ := List.mem_map.mp hmem
  exact hnew b hb hsame

/-- What is there stays there when a row is put in. -/
theorem any_insertBefore {p : α → Bool} {isBefore : α → α → Bool} (h : l.any p = true) :
    (insertBefore isBefore a l).any p = true := by
  obtain ⟨b, hb, hp⟩ := List.any_eq_true.mp h
  exact List.any_eq_true.mpr ⟨b, mem_insertBefore_iff.mpr (.inr hb), hp⟩

end

theorem Keyed.insertUser (hr : r.Keyed) {u : User} (hid : r.hasUser u.id = false)
    (hname : r.users.any (·.username == u.username) = false) : (r.insertUser u).Keyed :=
  { hr with
    users_unique := nodup_map_insertBefore (key_ne_of_any_eq_false hid) hr.users_unique
    usernames_unique := nodup_map_insertBefore (key_ne_of_any_eq_false hname) hr.usernames_unique }

theorem Keyed.insertTeam (hr : r.Keyed) {t : Team} (hid : r.hasTeam t.id = false) :
    (r.insertTeam t).Keyed :=
  { hr with
    teams_unique := nodup_map_insertBefore (key_ne_of_any_eq_false hid) hr.teams_unique }

theorem Keyed.insertMembership (hr : r.Keyed) {m : MembershipRow}
    (hrole : (Role.ofName? m.role).isSome = true)
    (hnew : r.hasMembership m.team m.user = false) : (r.insertMembership m).Keyed := by
  have hkey : ∀ m' ∈ r.memberships, (m'.team, m'.user) ≠ (m.team, m.user) := by
    intro m' hm' hsame
    have hnot := List.any_eq_false.mp hnew m' hm'
    exact hnot (by simpa using Prod.mk.inj hsame)
  refine
    { hr with
      memberships_unique := nodup_map_insertBefore hkey hr.memberships_unique
      membership_role := ?_ }
  intro m' hm'
  rcases mem_insertMembership_iff.mp hm' with rfl | hold
  · exact hrole
  · exact hr.membership_role m' hold

theorem Keyed.insertProject (hr : r.Keyed) {p : Project} (hid : r.hasProject p.id = false) :
    (r.insertProject p).Keyed :=
  { hr with
    projects_unique := nodup_map_insertBefore (key_ne_of_any_eq_false hid) hr.projects_unique }

theorem Keyed.insertIssue (hr : r.Keyed) {i : Issue} (hid : r.hasIssue i.id = false) :
    (r.insertIssue i).Keyed :=
  { hr with
    issues_unique := nodup_map_insertBefore (key_ne_of_any_eq_false hid) hr.issues_unique }

/-! ## Rows that are taken out -/

theorem Keyed.sublist (hr : r.Keyed) (husers : r'.users.Sublist r.users)
    (hteams : r'.teams.Sublist r.teams) (hmemberships : r'.memberships.Sublist r.memberships)
    (hprojects : r'.projects.Sublist r.projects) (hissues : r'.issues.Sublist r.issues) :
    r'.Keyed where
  users_unique := hr.users_unique.sublist (husers.map _)
  usernames_unique := hr.usernames_unique.sublist (husers.map _)
  teams_unique := hr.teams_unique.sublist (hteams.map _)
  memberships_unique := hr.memberships_unique.sublist (hmemberships.map _)
  projects_unique := hr.projects_unique.sublist (hprojects.map _)
  issues_unique := hr.issues_unique.sublist (hissues.map _)
  membership_role m hm := hr.membership_role m (hmemberships.mem hm)

/-! ## Revisions -/

namespace Editing

variable {κ α : Type} {table : Editing κ α}

/-- Taking a row out and putting in what is admitted leaves keys and names unique. -/
structure KeepsKeys (table : Editing κ α) : Prop where
  without : ∀ r key, r.Keyed → (table.without r key).Keyed
  insert : ∀ r a, r.Keyed → table.accepts r a = .ok () → (table.insert r a).Keyed

theorem keepsKeys_users : users.KeepsKeys where
  without _ _ hr := hr.sublist List.filter_sublist (.refl _) (.refl _) (.refl _) (.refl _)
  insert r u hr h := by
    have hfree := ensure_eq_ok_iff.mp h
    simp only [Bool.and_eq_true, Bool.not_eq_true'] at hfree
    exact hr.insertUser hfree.1 hfree.2

theorem keepsKeys_teams : teams.KeepsKeys where
  without _ _ hr := hr.sublist (.refl _) List.filter_sublist (.refl _) (.refl _) (.refl _)
  insert r t hr h := by
    have hfree := ensure_eq_ok_iff.mp h
    rw [Bool.not_eq_true'] at hfree
    exact hr.insertTeam hfree

theorem keepsKeys_memberships : (memberships true).KeepsKeys where
  without _ _ hr := hr.sublist (.refl _) (.refl _) List.filter_sublist (.refl _) (.refl _)
  insert r m hr h := by
    obtain ⟨_, hrole, hfree⟩ := bind_eq_ok_iff.mp h
    rw [ensure_eq_ok_iff] at hrole hfree
    rw [Bool.not_eq_true'] at hfree
    exact hr.insertMembership hrole hfree

theorem keepsKeys_projects : projects.KeepsKeys where
  without _ _ hr := hr.sublist (.refl _) (.refl _) (.refl _) List.filter_sublist (.refl _)
  insert r p hr h := by
    have hfree := ensure_eq_ok_iff.mp h
    rw [Bool.not_eq_true'] at hfree
    exact hr.insertProject hfree

theorem keepsKeys_issues : issues.KeepsKeys where
  without _ _ hr := hr.sublist (.refl _) (.refl _) (.refl _) (.refl _) List.filter_sublist
  insert r i hr h := by
    have hfree := ensure_eq_ok_iff.mp h
    rw [Bool.not_eq_true'] at hfree
    exact hr.insertIssue hfree

theorem keyed_reviseRow (htable : table.KeepsKeys) (hr : r.Keyed) {change : κ × Option α}
    (h : table.reviseRow r change = .ok r') : r'.Keyed := by
  unfold reviseRow at h
  by_cases hthere : table.has r change.1 = true
  · rw [if_pos hthere] at h
    obtain ⟨contents, -, h⟩ := bind_eq_ok_iff.mp h
    obtain ⟨_, hadmit, h⟩ := bind_eq_ok_iff.mp h
    obtain rfl := pure_eq_ok_iff.mp h
    have hothers := htable.without r change.1 hr
    exact htable.insert _ contents hothers hadmit
  · rw [if_neg hthere] at h
    obtain rfl := pure_eq_ok_iff.mp h
    exact hr

/-- By induction over the rows, however many of them are revised. -/
theorem keyed_reviseRows (htable : table.KeepsKeys) (hr : r.Keyed)
    {changes : List (κ × Option α)} (h : table.reviseRows r changes = .ok r') : r'.Keyed := by
  unfold reviseRows at h
  induction changes generalizing r with
  | nil => exact pure_eq_ok_iff.mp h ▸ hr
  | cons change changes ih =>
      rw [List.foldlM_cons] at h
      obtain ⟨next, hfirst, hrest⟩ := bind_eq_ok_iff.mp h
      have hnext := keyed_reviseRow htable hr hfirst
      exact ih hnext hrest

end Editing

theorem Keyed.reviseTable (hr : r.Keyed) {v : Revision} (h : reviseTable true r v = .ok r') :
    r'.Keyed := by
  cases v with
  | users changes => exact Editing.keyed_reviseRows Editing.keepsKeys_users hr h
  | teams changes => exact Editing.keyed_reviseRows Editing.keepsKeys_teams hr h
  | memberships changes => exact Editing.keyed_reviseRows Editing.keepsKeys_memberships hr h
  | projects changes => exact Editing.keyed_reviseRows Editing.keepsKeys_projects hr h
  | issues changes => exact Editing.keyed_reviseRows Editing.keepsKeys_issues hr h

theorem Valid.revise (hr : r.Valid) {v : Revision} (h : revise true r v = .ok r') : r'.Valid := by
  obtain ⟨revised, hrows, h⟩ := bind_eq_ok_iff.mp h
  obtain ⟨_, hrefs, h⟩ := bind_eq_ok_iff.mp h
  obtain rfl := pure_eq_ok_iff.mp h
  exact (hr.keyed.reviseTable hrows).valid (ensure_eq_ok_iff.mp hrefs)

/-! ## Statements that put in a row -/

theorem Valid.addUser (hr : r.Valid) {id : Option UserId} {username : Option String}
    {isSuperuser : Option Bool} (h : r.addUser id username isSuperuser = .ok r') : r'.Valid := by
  simp only [Rows.addUser, bind_eq_ok_iff, ensure_eq_ok_iff, pure_eq_ok_iff, Bool.and_eq_true,
    Bool.not_eq_true'] at h
  obtain ⟨name, -, isSuper, -, _, ⟨hid, hname⟩, rfl⟩ := h
  exact
    { hr.keyed.insertUser hid hname, hr with
      membership_user := fun m hm => any_insertBefore (hr.membership_user m hm) }

theorem Valid.addTeam (hr : r.Valid) {id : Option TeamId} {name : Option String}
    (h : r.addTeam id name = .ok r') : r'.Valid := by
  simp only [Rows.addTeam, bind_eq_ok_iff, ensure_eq_ok_iff, pure_eq_ok_iff,
    Bool.not_eq_true'] at h
  obtain ⟨name, -, _, hid, rfl⟩ := h
  exact
    { hr.keyed.insertTeam hid, hr with
      membership_team := fun m hm => any_insertBefore (hr.membership_team m hm)
      project_team := fun p hp t ht => any_insertBefore (hr.project_team p hp t ht) }

theorem Valid.addMembership (hr : r.Valid) {team : Option TeamId} {user : Option UserId}
    {role : Option String} (h : addMembership true r team user role = .ok r') : r'.Valid := by
  simp only [Rows.addMembership, bind_eq_ok_iff, ensure_eq_ok_iff, pure_eq_ok_iff,
    Bool.and_eq_true, Bool.not_eq_true'] at h
  obtain ⟨team, -, user, -, role, -, _, hrole, _, hnew, _, ⟨hteam, huser⟩, rfl⟩ := h
  exact hr.insertMembership hrole hnew hteam huser

theorem Valid.addProject (hr : r.Valid) {id : Option ProjectId} {name : Option String}
    {team : Option TeamId} (h : r.addProject id name team = .ok r') : r'.Valid := by
  simp only [Rows.addProject, bind_eq_ok_iff, ensure_eq_ok_iff, pure_eq_ok_iff,
    Bool.not_eq_true'] at h
  obtain ⟨name, -, _, hid, _, howner, rfl⟩ := h
  refine
    { hr.keyed.insertProject hid, hr with
      project_team := ?_
      issue_project := fun i hi => any_insertBefore (hr.issue_project i hi) }
  intro p hp
  rcases mem_insertBefore_iff.mp hp with rfl | hold
  · exact isOwner_iff.mp howner
  · exact hr.project_team p hold

theorem Valid.addIssue (hr : r.Valid) {id : Option IssueId} {project : Option ProjectId}
    {title : Option String} (h : r.addIssue id project title = .ok r') : r'.Valid := by
  simp only [Rows.addIssue, bind_eq_ok_iff, ensure_eq_ok_iff, pure_eq_ok_iff,
    Bool.not_eq_true'] at h
  obtain ⟨project, -, title, -, _, hid, _, hproject, rfl⟩ := h
  refine
    { hr.keyed.insertIssue hid, hr with
      issue_project := ?_ }
  intro i hi
  rcases mem_insertBefore_iff.mp hi with rfl | hold
  · exact hproject
  · exact hr.issue_project i hold

/-! ## Statements that change a row -/

/-- A name that nobody else has stays the name of one user only. -/
theorem nodup_usernames_updateWhere (hr : r.Valid) {id : Option UserId} {username : String}
    (hfree : (r.users.any fun u => !(some u.id == id) && u.username == username) = false) :
    ((updateWhere (fun u => some u.id == id) (fun u => { u with username }) r.users).map
      (·.username)).Nodup := by
  have hother : ∀ u ∈ r.users, some u.id ≠ id → u.username ≠ username := by
    intro u hu hne hname
    have hnot := List.any_eq_false.mp hfree u hu
    exact hnot (by simp [hne, hname])
  rw [updateWhere, List.map_map]
  refine (List.Nodup.of_map _ hr.users_unique).map_on ?_
  intro u hu v hv hsame
  simp only [Function.comp_apply, beq_iff_eq] at hsame
  by_cases hu' : some u.id = id <;> by_cases hv' : some v.id = id
  · exact List.inj_on_of_nodup_map hr.users_unique hu hv (Option.some.inj (hu'.trans hv'.symm))
  · simp only [hu', hv', if_true, if_false] at hsame
    exact absurd hsame.symm (hother v hv hv')
  · simp only [hu', hv', if_true, if_false] at hsame
    exact absurd hsame (hother u hu hu')
  · simp only [hu', hv', if_false] at hsame
    exact List.inj_on_of_nodup_map hr.usernames_unique hu hv hsame

theorem Valid.setUsername (hr : r.Valid) {id : Option UserId} {username : Option String}
    (h : r.setUsername id username = .ok r') : r'.Valid := by
  simp only [Rows.setUsername] at h
  split at h
  · simp only [bind_eq_ok_iff, ensure_eq_ok_iff, pure_eq_ok_iff, Bool.not_eq_true'] at h
    obtain ⟨name, -, _, hfree, rfl⟩ := h
    refine
      { hr with
        users_unique := nodup_map_updateWhere (fun _ => rfl) hr.users_unique
        usernames_unique := nodup_usernames_updateWhere hr hfree
        membership_user := ?_ }
    intro m hm
    have hids : (updateWhere (fun u => some u.id == id) (fun u => { u with username := name })
        r.users).map (·.id) = r.users.map (·.id) := map_updateWhere fun _ => rfl
    exact hasUser_iff.mpr (hids ▸ hasUser_iff.mp (hr.membership_user m hm))
  · exact pure_eq_ok_iff.mp h ▸ hr

theorem Valid.setSuperuser (hr : r.Valid) {id : Option UserId} {isSuperuser : Option Bool}
    (h : r.setSuperuser id isSuperuser = .ok r') : r'.Valid := by
  simp only [Rows.setSuperuser] at h
  split at h
  · simp only [bind_eq_ok_iff, pure_eq_ok_iff] at h
    obtain ⟨isSuper, -, rfl⟩ := h
    exact hr.updateSuperuser _ isSuper
  · exact pure_eq_ok_iff.mp h ▸ hr

theorem Valid.setRole (hr : r.Valid) {team : Option TeamId} {user : Option UserId}
    {role : Option String} (h : setRole true r team user role = .ok r') : r'.Valid := by
  simp only [Rows.setRole] at h
  split at h
  · simp only [bind_eq_ok_iff, ensure_eq_ok_iff, pure_eq_ok_iff] at h
    obtain ⟨role, -, _, hrole, rfl⟩ := h
    exact hr.updateRole _ hrole
  · exact pure_eq_ok_iff.mp h ▸ hr

theorem Valid.setTeam (hr : r.Valid) {project : Option ProjectId} {team : Option TeamId}
    (h : r.setTeam project team = .ok r') : r'.Valid := by
  simp only [Rows.setTeam] at h
  split at h
  · simp only [bind_eq_ok_iff, ensure_eq_ok_iff, pure_eq_ok_iff] at h
    obtain ⟨_, howner, rfl⟩ := h
    have hids : (updateWhere (fun p => some p.id == project) (fun p => { p with team })
        r.projects).map (·.id) = r.projects.map (·.id) := map_updateWhere fun _ => rfl
    refine
      { hr with
        projects_unique := nodup_map_updateWhere (fun _ => rfl) hr.projects_unique
        project_team := ?_
        issue_project := ?_ }
    · intro p' hp'
      obtain ⟨p, hp, rfl⟩ := mem_updateWhere_iff.mp hp'
      split
      · exact isOwner_iff.mp howner
      · exact hr.project_team p hp
    · intro i hi
      exact hasProject_iff.mpr (hids ▸ hasProject_iff.mp (hr.issue_project i hi))
  · exact pure_eq_ok_iff.mp h ▸ hr

theorem Valid.moveIssue (hr : r.Valid) {issue : Option IssueId} {project : Option ProjectId}
    (h : r.moveIssue issue project = .ok r') : r'.Valid := by
  simp only [Rows.moveIssue] at h
  split at h
  · simp only [bind_eq_ok_iff, ensure_eq_ok_iff, pure_eq_ok_iff] at h
    obtain ⟨project, -, _, hproject, rfl⟩ := h
    refine
      { hr with
        issues_unique := nodup_map_updateWhere (fun _ => rfl) hr.issues_unique
        issue_project := ?_ }
    intro i' hi'
    obtain ⟨i, hi, rfl⟩ := mem_updateWhere_iff.mp hi'
    split
    · exact hproject
    · exact hr.issue_project i hi
  · exact pure_eq_ok_iff.mp h ▸ hr

/-! ## Statements that take out a row -/

theorem any_filter_key {α κ : Type} [BEq κ] [LawfulBEq κ] {key : α → κ} {l : List α} {k gone : κ}
    (h : l.any (key · == k) = true) (hne : k ≠ gone) :
    (l.filter (key · != gone)).any (key · == k) = true := by
  obtain ⟨a, ha, hkey⟩ := List.any_eq_true.mp h
  refine List.any_eq_true.mpr ⟨a, List.mem_filter.mpr ⟨ha, ?_⟩, hkey⟩
  rw [beq_iff_eq] at hkey
  simpa [hkey] using hne

theorem Valid.deleteUser (hr : r.Valid) (id : UserId) : (r.deleteUser id).Valid := by
  have hkeyed : (r.deleteUser id).Keyed :=
    hr.keyed.sublist List.filter_sublist (.refl _) List.filter_sublist (.refl _) (.refl _)
  refine
    { hkeyed, hr with
      membership_user := ?_
      membership_team := fun m hm => hr.membership_team m (List.mem_of_mem_filter hm) }
  intro m hm
  obtain ⟨hm, hne⟩ := List.mem_filter.mp hm
  exact any_filter_key (hr.membership_user m hm) (by simpa using hne)

theorem Valid.deleteTeam (hr : r.Valid) (id : TeamId) : (r.deleteTeam id).Valid := by
  have hids : (r.projects.map (disowned id)).map (·.id) = r.projects.map (·.id) := by
    rw [List.map_map]
    refine List.map_congr_left ?_
    intro p _
    rw [Function.comp_apply, disowned]
    split <;> rfl
  have hkeyed : Keyed { r.deleteTeam id with projects := r.projects } :=
    hr.keyed.sublist (.refl _) List.filter_sublist List.filter_sublist (.refl _) (.refl _)
  refine
    { hkeyed, hr with
      projects_unique := hids ▸ hr.projects_unique
      membership_user := fun m hm => hr.membership_user m (List.mem_of_mem_filter hm)
      membership_team := ?_
      project_team := ?_
      issue_project := ?_ }
  · intro m hm
    obtain ⟨hm, hne⟩ := List.mem_filter.mp hm
    exact any_filter_key (hr.membership_team m hm) (by simpa using hne)
  · intro p' hp' team hteam
    obtain ⟨p, hp, rfl⟩ := List.mem_map.mp hp'
    unfold disowned at hteam
    split at hteam
    · cases hteam
    · next hother =>
        have hne : team ≠ id := by
          rintro rfl
          exact hother hteam
        exact any_filter_key (hr.project_team p hp team hteam) hne
  · intro i hi
    exact hasProject_iff.mpr (hids ▸ hasProject_iff.mp (hr.issue_project i hi))

theorem Valid.deleteMembership (hr : r.Valid) (team : TeamId) (user : UserId) :
    (r.deleteMembership team user).Valid := by
  have hkeyed : (r.deleteMembership team user).Keyed :=
    hr.keyed.sublist (.refl _) (.refl _) List.filter_sublist (.refl _) (.refl _)
  exact
    { hkeyed, hr with
      membership_user := fun m hm => hr.membership_user m (List.mem_of_mem_filter hm)
      membership_team := fun m hm => hr.membership_team m (List.mem_of_mem_filter hm) }

theorem Valid.deleteProject (hr : r.Valid) (id : ProjectId) : (r.deleteProject id).Valid := by
  have hkeyed : (r.deleteProject id).Keyed :=
    hr.keyed.sublist (.refl _) (.refl _) (.refl _) List.filter_sublist List.filter_sublist
  refine
    { hkeyed, hr with
      project_team := fun p hp => hr.project_team p (List.mem_of_mem_filter hp)
      issue_project := ?_ }
  intro i hi
  obtain ⟨hi, hne⟩ := List.mem_filter.mp hi
  exact any_filter_key (hr.issue_project i hi) (by simpa using hne)

theorem Valid.deleteIssue (hr : r.Valid) (id : IssueId) : (r.deleteIssue id).Valid := by
  have hkeyed : (r.deleteIssue id).Keyed :=
    hr.keyed.sublist (.refl _) (.refl _) (.refl _) (.refl _) List.filter_sublist
  exact
    { hkeyed, hr with
      issue_project := fun i hi => hr.issue_project i (List.mem_of_mem_filter hi) }

theorem Valid.deleting {κ : Type} {delete : Rows → κ → Rows} (hr : r.Valid)
    (hdelete : ∀ key, (delete r key).Valid) (key : Option κ) : (deleting delete r key).Valid := by
  cases key with
  | none => exact hr
  | some key => exact hdelete key

/-! ## All statements -/

theorem Valid.execute (hr : r.Valid) {s : Statement} (h : r.execute true s = .ok r') :
    r'.Valid := by
  cases s with
  | insertUser id username isSuperuser => exact hr.addUser h
  | insertTeam id name => exact hr.addTeam h
  | insertMembership team user role => exact hr.addMembership h
  | insertProject id name team => exact hr.addProject h
  | insertIssue id project title => exact hr.addIssue h
  | setUsername id username => exact hr.setUsername h
  | setSuperuser id isSuperuser => exact hr.setSuperuser h
  | setRole team user role => exact hr.setRole h
  | setTeam project team => exact hr.setTeam h
  | moveIssue issue project => exact hr.moveIssue h
  | deleteUser id => exact Except.ok.inj h ▸ hr.deleting hr.deleteUser id
  | deleteTeam id => exact Except.ok.inj h ▸ hr.deleting hr.deleteTeam id
  | deleteMembership team user =>
      exact Except.ok.inj h ▸ hr.deleting (fun key => hr.deleteMembership key.1 key.2) _
  | deleteProject id => exact Except.ok.inj h ▸ hr.deleting hr.deleteProject id
  | deleteIssue id => exact Except.ok.inj h ▸ hr.deleting hr.deleteIssue id

end Rows

end TrackerGate
