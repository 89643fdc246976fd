import Mathlib.Data.List.Sort
import TrackerGate.Proofs.Permission.Shortfall

/-!
# The order of rows

A store gives its rows in any order, and a snapshot must not show in which. Two stores are
compared whose answers have the same rows in another order (`Readers.Reordered`), and then the
snapshots are the same, not only alike.

The proof does not follow the loops of a capture. A map is what can be found in it
(`IdMap.ext_find?`), and what is found in a snapshot has been told already by the views of it:
the role that a team's members give, the project that an identifier stands for, whether any
team is led. None of these asks for an order, as long as a row is told apart from the others
by its key. Where all values are one value, as in the snapshot of a superuser, not even that is
needed.
-/

namespace TrackerGate

open Capture

/-! ## Maps as what is found in them -/

namespace IdMap

variable {α β : Type}

theorem find?_eq_some_iff_mem {m : IdMap α} {k : Int64} {v : α} :
    m.find? k = some v ↔ (k, v) ∈ m.entries := by
  have hkeys : (m.entries.map (·.1)).Nodup := by
    refine List.pairwise_map.mpr (m.ascending.imp fun {a b} hlt heq => ?_)
    exact Int64.lt_irrefl (heq ▸ hlt)
  rw [← find?_ofList_eq_some_iff, ofList_entries]
  intro k v w hv hw
  exact congrArg Prod.snd (List.inj_on_of_nodup_map hkeys hv hw rfl)

/-- Maps in which the same is found are one map. -/
theorem ext_find? {m n : IdMap α} (h : ∀ k, m.find? k = n.find? k) : m = n := by
  have : Std.Antisymm fun a b : Int64 × α => a.1 < b.1 :=
    ⟨fun _ _ hab hba => absurd hba (Int64.lt_asymm hab)⟩
  have : Std.Irrefl fun a b : Int64 × α => a.1 < b.1 := ⟨fun _ => Int64.lt_irrefl⟩
  refine ext (m.ascending.eq_of_mem_iff n.ascending fun e => ?_)
  rw [← find?_eq_some_iff_mem, ← find?_eq_some_iff_mem, h]

/-- If all keys have one value, the map depends on which keys there are. -/
theorem ofList_map_const {rows rows' : List β} (key : β → Int64) (v : α)
    (h : ∀ row, row ∈ rows ↔ row ∈ rows') :
    ofList (rows.map fun row => (key row, v)) = ofList (rows'.map fun row => (key row, v)) := by
  refine ext_find? fun k => Option.ext fun w => ?_
  have hfind (rows : List β) : (ofList (rows.map fun row => (key row, v))).find? k = some w
      ↔ ∃ row ∈ rows, key row = k ∧ v = w :=
    find?_ofList_map_iff_of_congr fun _ _ _ _ _ => rfl
  rw [hfind, hfind]
  simp only [h]

end IdMap

theorem PermissionSnapshot.ext_find? {s t : PermissionSnapshot}
    (hprojects : ∀ id, s.projects.find? id = t.projects.find? id)
    (hroles : ∀ team, s.teamRoles.find? team = t.teamRoles.find? team)
    (hproject : s.canCreateProjects = true ↔ t.canCreateProjects = true)
    (hteam : s.canCreateTeams = true ↔ t.canCreateTeams = true)
    (husers : s.canManageUsers = t.canManageUsers) : s = t := by
  obtain ⟨projects, roles, mayProject, mayTeam, mayUsers⟩ := s
  obtain rfl := IdMap.ext_find? hprojects
  obtain rfl := IdMap.ext_find? hroles
  obtain rfl := Bool.eq_iff_iff.mpr hproject
  obtain rfl := Bool.eq_iff_iff.mpr hteam
  obtain rfl := husers
  rfl

/-! ## Stores that differ in their order -/

/-- Rows that are told apart by a key, and the same rows in another order. -/
def Shuffled {α : Type} (key : α → Int64) (rows rows' : List α) : Prop :=
  rows.Perm rows' ∧ (rows.map key).Nodup

theorem Shuffled.find?_key {α : Type} {key : α → Int64} {rows rows' : List α}
    (h : Shuffled key rows rows') (k : Int64) :
    rows.find? (key · == k) = rows'.find? (key · == k) :=
  find?_key_congr h.2 ((h.1.map key).nodup_iff.mp h.2) fun _ _ => h.1.mem_iff

namespace Readers

/-- Two answers with related results, or two failures. -/
inductive Alike {α : Type} (Related : α → α → Prop) :
    Except Failure α → Except Failure α → Prop where
  | failed (f f' : Failure) : Alike Related (.error f) (.error f')
  | answered {a a' : α} (h : Related a a') : Alike Related (.ok a) (.ok a')

/-- Both answer the questions of a capture for `user` with the same rows. The order is free,
and a team of the user may be named any number of times; a project is listed once, and in a
team nobody is a member twice. -/
structure Reordered (r r' : Readers) (user : UserId) : Prop where
  projects : Alike (Shuffled Project.id) r.projects r'.projects
  teams : Alike List.Perm r.teams r'.teams
  teamsOf : Alike (fun teams teams' => ∀ team, team ∈ teams ↔ team ∈ teams') (r.teamsOf user)
    (r'.teamsOf user)
  members : ∀ team, Alike (Shuffled Membership.user) (r.members team) (r'.members team)

variable {α : Type} {Related : α → α → Prop} {answer answer' : Except Failure α}

theorem Alike.cases (h : Alike Related answer answer') :
    (∃ f f', answer = .error f ∧ answer' = .error f')
      ∨ ∃ a a', answer = .ok a ∧ answer' = .ok a' ∧ Related a a' := by
  cases h with
  | failed f f' => exact .inl ⟨f, f', rfl, rfl⟩
  | answered h => exact .inr ⟨_, _, rfl, rfl, h⟩

theorem Alike.orFail (h : Alike Related answer answer') (fault : Option Failure) :
    Alike Related (Readers.orFail fault answer) (Readers.orFail fault answer') := by
  cases fault with
  | none => exact h
  | some f => exact .failed f f

theorem Reordered.failing {r r' : Readers} {user : UserId} (h : r.Reordered r' user)
    (fault : Lookup → Option Failure) : (r.failing fault).Reordered (r'.failing fault) user where
  projects := h.projects.orFail _
  teams := h.teams.orFail _
  teamsOf := h.teamsOf.orFail _
  members team := (h.members team).orFail _

end Readers

/-! ## Captures -/

namespace Capture

variable {r r' : Readers} {user : User} {teams teams' : List Team}

theorem roleIn?_of_reordered {user : UserId} (h : r.Reordered r' user) (team : TeamId) :
    roleIn? r user team = roleIn? r' user team := by
  unfold roleIn?
  obtain ⟨f, f', hanswer, hanswer'⟩ | ⟨members, members', hanswer, hanswer', hshuffled⟩ :=
    (h.members team).cases
  · rw [hanswer, hanswer']
  · rw [hanswer, hanswer']
    exact congrArg (Option.map Membership.role) (hshuffled.find?_key user)

theorem leads_iff_exists_roleIn? {user : UserId} :
    Leads r user teams
      ↔ ∃ team ∈ teams, roleIn? r user team.id = some .owner ∨ roleIn? r user team.id = some .admin
    := by
  simp only [Leads, roleIn?_eq_some_iff, and_or_left, exists_or]

theorem visible_congr {teams teams' : List TeamId} (h : ∀ team, team ∈ teams ↔ team ∈ teams')
    (projects : List Project) :
    Project.visible teams projects = Project.visible teams' projects := by
  refine List.filter_congr fun p _ => ?_
  unfold Project.isVisibleTo
  cases p.team with
  | none => rfl
  | some team => rw [Bool.eq_iff_iff, List.contains_iff_mem, List.contains_iff_mem, h]

/-- A project that stands for an identifier stands for it in every order, since it is the only
one with that identifier. -/
theorem listed?_of_reordered {user : UserId} (h : r.Reordered r' user)
    (hteams : ∀ team, team ∈ teams ↔ team ∈ teams') (id : ProjectId) :
    listed? r teams id = listed? r' teams' id := by
  have hids (team : TeamId) : team ∈ teams.map (·.id) ↔ team ∈ teams'.map (·.id) := by
    simp only [List.mem_map, hteams]
  unfold listed?
  obtain ⟨f, f', hanswer, hanswer'⟩ | ⟨projects, projects', hanswer, hanswer', hperm, hunique⟩ :=
    h.projects.cases
  · rw [hanswer, hanswer']
  · simp only [hanswer, hanswer', visible_congr hids]
    have hrows : (Project.visible (teams'.map (·.id)) projects).reverse.Perm
        (Project.visible (teams'.map (·.id)) projects').reverse :=
      (List.reverse_perm _).trans ((hperm.filter _).trans (List.reverse_perm _).symm)
    have hkeys : ((Project.visible (teams'.map (·.id)) projects).reverse.map Project.id).Nodup := by
      rw [List.map_reverse, List.nodup_reverse]
      exact hunique.sublist (List.filter_sublist.map _)
    exact Shuffled.find?_key ⟨hrows, hkeys⟩ id

theorem ofMember_of_reordered (h : r.Reordered r' user.id) :
    (ofMember r user).permissions = (ofMember r' user).permissions := by
  obtain ⟨f, f', hanswer, hanswer'⟩ | ⟨teams, teams', hanswer, hanswer', hteams⟩ :=
    h.teamsOf.cases
  · rw [permissions_ofMember_of_error hanswer, permissions_ofMember_of_error hanswer']
  · have hroles (team : TeamId) :
        (ofMember r user).permissions.teamRoles.find? team
          = (ofMember r' user).permissions.teamRoles.find? team := by
      rw [find?_teamRoles_ofMember hanswer, find?_teamRoles_ofMember hanswer',
        roleIn?_of_reordered h]
      simp only [List.mem_map, hteams]
    have hleads : Leads r user.id teams ↔ Leads r' user.id teams' := by
      simp only [leads_iff_exists_roleIn?, hteams, roleIn?_of_reordered h]
    obtain ⟨hproject, hteam, husers⟩ := leads_ofMember hanswer
    obtain ⟨hproject', hteam', husers'⟩ := leads_ofMember hanswer'
    apply PermissionSnapshot.ext_find?
    · intro id
      rw [find?_projects_ofMember hanswer, find?_projects_ofMember hanswer',
        listed?_of_reordered h hteams, IdMap.ext_find? hroles]
    · exact hroles
    · rw [hproject, hproject', hleads]
    · rw [hteam, hteam', hleads]
    · rw [husers, husers']

/-- A superuser is an owner everywhere, so only what is listed counts. -/
theorem ofSuperuser_of_reordered {asker : UserId} (h : r.Reordered r' asker) (user : User) :
    (ofSuperuser r user).permissions = (ofSuperuser r' user).permissions := by
  unfold ofSuperuser
  obtain ⟨f, f', hanswer, hanswer'⟩ | ⟨projects, projects', hanswer, hanswer', hprojects⟩ :=
    h.projects.cases
  · rw [hanswer, hanswer']
  · have hentries := IdMap.ofList_map_const Project.id (Capabilities.full .owner)
      fun _ => hprojects.1.mem_iff
    obtain ⟨f, f', hanswer₂, hanswer₂'⟩ | ⟨teams, teams', hanswer₂, hanswer₂', hteams⟩ :=
      h.teams.cases
    · simp only [hanswer, hanswer', hanswer₂, hanswer₂', hentries]
    · have hroles := IdMap.ofList_map_const Team.id Role.owner
        fun _ => hteams.mem_iff
      simp only [hanswer, hanswer', hanswer₂, hanswer₂', hentries, hroles]

end Capture

namespace Readers

/-- Whatever fails, stores that differ in the order of their rows lead to one snapshot. -/
theorem capture_of_reordered {r r' : Readers} {user : User} (h : r.Reordered r' user.id)
    (fault : Lookup → Option Failure) :
    ((r.failing fault).capture user).permissions
      = ((r'.failing fault).capture user).permissions := by
  unfold capture
  split
  · exact ofSuperuser_of_reordered (h.failing fault) user
  · exact ofMember_of_reordered (h.failing fault)

/-- Two teams, a project of each and one of nobody. -/
def pairOfTeams : Readers :=
  { Directory.empty with
    teams := [⟨7, "web"⟩, ⟨8, "ops"⟩]
    members := [⟨7, 5, .owner⟩, ⟨7, 6, .member⟩, ⟨8, 5, .member⟩]
    projects := [⟨1, "site", some 7⟩, ⟨2, "vault", some 8⟩, ⟨3, "wiki", none⟩] : Directory }.answers

/-- The same rows from the last to the first, and one of the teams is named twice. -/
def pairOfTeamsTurned : Readers where
  __ := { Directory.empty with
    teams := [⟨8, "ops"⟩, ⟨7, "web"⟩]
    members := [⟨8, 5, .member⟩, ⟨7, 6, .member⟩, ⟨7, 5, .owner⟩]
    projects := [⟨3, "wiki", none⟩, ⟨2, "vault", some 8⟩, ⟨1, "site", some 7⟩] : Directory }.answers
  teamsOf _ := .ok [⟨8, "ops"⟩, ⟨7, "web"⟩, ⟨8, "ops"⟩]

/-- While the members of one team cannot be read, its projects are read-only in both, and an
owner of the other team may create teams in both. -/
theorem pairOfTeams_capture_of_reordered :
    ∃ s, ((pairOfTeams.failing (Lookup.only (.members 8) .database)).capture
          ⟨5, "eve", false⟩).permissions = s
      ∧ ((pairOfTeamsTurned.failing (Lookup.only (.members 8) .database)).capture
          ⟨5, "eve", false⟩).permissions = s
      ∧ s.teamRoles.find? 7 = some .owner ∧ s.teamRoles.find? 8 = none
      ∧ s.projects.find? 2 = some (.readOnly none) ∧ s.canCreateTeams = true := by
  have hreordered : pairOfTeams.Reordered pairOfTeamsTurned 5 := by
    refine ⟨.answered ⟨by decide, by decide⟩, .answered (by decide), .answered fun team => ?_,
      fun team => .answered ⟨.filter _ (by decide), ?_⟩⟩
    · have hof : team ∈ [⟨7, "web"⟩, ⟨8, "ops"⟩]
          ↔ team ∈ [⟨8, "ops"⟩, ⟨7, "web"⟩, (⟨8, "ops"⟩ : Team)] := by
        simp only [List.mem_cons, List.not_mem_nil, or_false]
        tauto
      exact hof
    · by_cases hweb : 7 = team
      · subst hweb
        decide
      · by_cases hops : 8 = team
        · subst hops
          decide
        · simp [hweb, hops]
  refine ⟨_, rfl, (capture_of_reordered hreordered _).symm, ?_, ?_, ?_, ?_⟩
  all_goals rfl

end Readers

end TrackerGate
