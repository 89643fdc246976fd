import TrackerGate.Directory
import TrackerGate.Proofs.Access.Inquiry
import TrackerGate.Proofs.Permission.Agreement

/-!
# Snapshots fall short, never over

A capture goes on without what it cannot read, so failing lookups change what is in a
snapshot. They change it in one direction. A snapshot is `Below` another if whatever it grants
the other grants as well, and the more lookups fail the lower a snapshot comes to stand
(`Readers.capture_below`), wherever the failures break the capture off.

For somebody who is no superuser the snapshot is a view of the answers: of each team's role
(`find?_teamRoles_ofMember`), of the project that an identifier stands for in the list
(`find?_projects_ofMember`), and of whether any team is led (`leads_ofMember`). From the view it
can be read off what the members of a single team are good for: the role in the team, the
capabilities on its projects, and nothing else (`OmitsTeam`).
-/

namespace TrackerGate

open Capture

/-! ## An order on snapshots -/

/-- What `c` grants `d` grants, and if `c` names a role `d` names the same. -/
structure Capabilities.Below (c d : Capabilities) : Prop where
  canRead : c.canRead = true → d.canRead = true
  canWrite : c.canWrite = true → d.canWrite = true
  canDelete : c.canDelete = true → d.canDelete = true
  canManage : c.canManage = true → d.canManage = true
  teamRole : c.teamRole = none ∨ c.teamRole = d.teamRole

/-- What the snapshot `s` grants the snapshot `t` grants: no right, no role and no project is in
`s` alone. -/
structure PermissionSnapshot.Below (s t : PermissionSnapshot) : Prop where
  canCreateProjects : s.canCreateProjects = true → t.canCreateProjects = true
  canCreateTeams : s.canCreateTeams = true → t.canCreateTeams = true
  canManageUsers : s.canManageUsers = true → t.canManageUsers = true
  teamRoles : ∀ team role, s.teamRoles.find? team = some role → t.teamRoles.find? team = some role
  projects : ∀ id c, s.projects.find? id = some c →
    ∃ d, t.projects.find? id = some d ∧ c.Below d

theorem Capabilities.Below.refl (c : Capabilities) : c.Below c :=
  ⟨id, id, id, id, .inr rfl⟩

theorem PermissionSnapshot.Below.refl (s : PermissionSnapshot) : s.Below s :=
  ⟨id, id, id, fun _ _ h => h, fun _ c h => ⟨c, h, .refl c⟩⟩

theorem PermissionSnapshot.empty_below (s : PermissionSnapshot) : empty.Below s :=
  ⟨nofun, nofun, nofun, nofun, nofun⟩

/-! ## Answers and failures -/

namespace Readers

theorem orFail_eq_ok_iff {α : Type} {fault : Option Failure} {answer : Except Failure α} {a : α} :
    orFail fault answer = .ok a ↔ fault = none ∧ answer = .ok a := by
  cases fault <;> simp [orFail]

/-- What `r'` answers to the questions of a capture, `r` answers too. -/
structure Within (r' r : Readers) : Prop where
  projects : ∀ {projects}, r'.projects = .ok projects → r.projects = .ok projects
  teams : ∀ {teams}, r'.teams = .ok teams → r.teams = .ok teams
  teamsOf : ∀ {user teams}, r'.teamsOf user = .ok teams → r.teamsOf user = .ok teams
  members : ∀ {team members}, r'.members team = .ok members → r.members team = .ok members

/-- `r'` answers what `r` answers, except that it does not know the members of `team`. -/
structure Misses (r' r : Readers) (team : TeamId) : Prop where
  projects : ∀ projects, r'.projects = .ok projects ↔ r.projects = .ok projects
  teamsOf : ∀ user teams, r'.teamsOf user = .ok teams ↔ r.teamsOf user = .ok teams
  members : ∀ other members,
    r'.members other = .ok members ↔ other ≠ team ∧ r.members other = .ok members

variable {r : Readers} {fault fault' : Lookup → Option Failure}

theorem failing_within
    (h : ∀ lookup, (fault lookup).isSome = true → (fault' lookup).isSome = true) :
    (r.failing fault').Within (r.failing fault) := by
  have hkeeps {α : Type} {lookup : Lookup} {answer : Except Failure α} {a : α}
      (hanswer : orFail (fault' lookup) answer = .ok a) : orFail (fault lookup) answer = .ok a := by
    obtain ⟨hfault', hanswer⟩ := orFail_eq_ok_iff.mp hanswer
    rcases Option.eq_none_or_eq_some (fault lookup) with hfault | ⟨f, hfault⟩
    · exact orFail_eq_ok_iff.mpr ⟨hfault, hanswer⟩
    · have hsome := h lookup (Option.isSome_of_eq_some hfault)
      rw [hfault'] at hsome
      cases hsome
  exact ⟨hkeeps, hkeeps, hkeeps, hkeeps⟩

theorem failing_misses {team : TeamId}
    (h : ∀ lookup, (fault' lookup).isSome = true
      ↔ (fault lookup).isSome = true ∨ lookup = .members team) :
    (r.failing fault').Misses (r.failing fault) team := by
  have hnone (lookup : Lookup) :
      fault' lookup = none ↔ fault lookup = none ∧ lookup ≠ .members team := by
    rw [← Option.not_isSome_iff_eq_none, h, not_or, Option.not_isSome_iff_eq_none]
  constructor
  · intro projects
    simp [failing, orFail_eq_ok_iff, hnone]
  · intro user teams
    simp [failing, orFail_eq_ok_iff, hnone]
  · intro other members
    simp only [failing, orFail_eq_ok_iff, hnone, ne_eq, Lookup.members.injEq]
    tauto

end Readers

/-! ## Views of a snapshot -/

theorem IdMap.find?_ofList_map {α β : Type} (rows : List α) (key : α → Int64) (value : α → β)
    (k : Int64) :
    (IdMap.ofList (rows.map fun a => (key a, value a))).find? k
      = (rows.reverse.find? (key · == k)).map value := by
  rw [IdMap.find?_ofList, ← List.map_reverse, List.find?_map, Option.map_map]
  rfl

namespace Capture

variable {r r' : Readers} {user : User} {teams : List Team}

theorem roleIn?_eq_some_iff {user : UserId} {team : TeamId} {role : Role} :
    roleIn? r user team = some role
      ↔ ∃ members, r.members team = .ok members ∧ Membership.roleOf members user = some role := by
  unfold roleIn?
  cases r.members team <;> simp

/-- In a team of `teams` whose members `r` tells, `user` is an owner or an admin. -/
def Leads (r : Readers) (user : UserId) (teams : List Team) : Prop :=
  ∃ team ∈ teams, ∃ members, r.members team.id = .ok members
    ∧ (Membership.roleOf members user = some .owner ∨ Membership.roleOf members user = some .admin)

/-- The project that `id` stands for: the last of the projects with that identifier which a
member of `teams` may read. -/
def listed? (r : Readers) (teams : List Team) (id : ProjectId) : Option Project :=
  match r.projects with
  | .ok projects => (Project.visible (teams.map (·.id)) projects).reverse.find? (·.id == id)
  | .error _ => none

theorem listed?_eq_some_iff {id : ProjectId} {p : Project} :
    listed? r teams id = some p
      ↔ ∃ projects, r.projects = .ok projects
        ∧ (Project.visible (teams.map (·.id)) projects).reverse.find? (·.id == id) = some p := by
  unfold listed?
  cases r.projects <;> simp

/-- Where identifiers are not repeated, a project's own stands for it or for nothing. -/
theorem eq_of_listed? {projects : List Project} (hprojects : r.projects = .ok projects)
    (hunique : (projects.map (·.id)).Nodup) {p q : Project} (hp : p ∈ projects)
    (h : listed? r teams p.id = some q) : q = p := by
  obtain ⟨_, hprojects', hfind⟩ := listed?_eq_some_iff.mp h
  obtain rfl := Except.ok.inj (hprojects.symm.trans hprojects')
  have hid : q.id = p.id := by simpa using List.find?_some hfind
  have hq : q ∈ projects :=
    List.mem_of_mem_filter (List.mem_reverse.mp (List.mem_of_find?_eq_some hfind))
  exact List.inj_on_of_nodup_map hunique hq hp hid

theorem permissions_ofMember_of_error {f : Failure} (h : r.teamsOf user.id = .error f) :
    (ofMember r user).permissions = .empty := by
  rw [ofMember, h]

theorem teamRoles_ofMember (h : r.teamsOf user.id = .ok teams) :
    (ofMember r user).permissions.teamRoles
      = .ofList (knownRoles r user.id (teams.map (·.id))) := by
  simp only [ofMember, h]
  cases r.projects <;> rfl

theorem find?_teamRoles_ofMember (h : r.teamsOf user.id = .ok teams) (team : TeamId) :
    (ofMember r user).permissions.teamRoles.find? team
      = if team ∈ teams.map (·.id) then roleIn? r user.id team else none := by
  have hmem {team : TeamId} {role : Role} :
      (team, role) ∈ knownRoles r user.id (teams.map (·.id))
        ↔ team ∈ teams.map (·.id) ∧ roleIn? r user.id team = some role := by
    simp only [knownRoles, List.mem_filterMap, Option.map_eq_some_iff, Prod.mk.injEq]
    constructor
    · rintro ⟨_, hteam, _, hrole, rfl, rfl⟩
      exact ⟨hteam, hrole⟩
    · rintro ⟨hteam, hrole⟩
      exact ⟨team, hteam, role, hrole, rfl, rfl⟩
  ext role
  rw [teamRoles_ofMember h, IdMap.find?_ofList_eq_some_iff, hmem, Option.ite_none_right_eq_some]
  intro team role role' hrole hrole'
  exact Option.some.inj ((hmem.mp hrole).2.symm.trans (hmem.mp hrole').2)

theorem find?_projects_ofMember (h : r.teamsOf user.id = .ok teams) (id : ProjectId) :
    (ofMember r user).permissions.projects.find? id
      = (listed? r teams id).map (capabilities (ofMember r user).permissions.teamRoles) := by
  rw [teamRoles_ofMember h]
  simp only [ofMember, h, listed?]
  cases r.projects with
  | error f => rfl
  | ok projects => exact IdMap.find?_ofList_map _ Project.id _ id

theorem any_canManage_iff {user : UserId} :
    (knownRoles r user (teams.map (·.id))).any (·.2.canManage) = true ↔ Leads r user teams := by
  have hmanages (role : Role) : role.canManage = true ↔ role = .owner ∨ role = .admin := by
    cases role <;> simp [Role.canManage]
  simp only [knownRoles, List.any_eq_true, List.mem_filterMap, List.mem_map,
    Option.map_eq_some_iff, roleIn?_eq_some_iff, hmanages, Leads]
  constructor
  · rintro ⟨_, ⟨_, ⟨team, hteam, rfl⟩, role, ⟨members, hmembers, hrole⟩, rfl⟩, rfl | rfl⟩
    · exact ⟨team, hteam, members, hmembers, .inl hrole⟩
    · exact ⟨team, hteam, members, hmembers, .inr hrole⟩
  · rintro ⟨team, hteam, members, hmembers, hrole | hrole⟩
    · exact ⟨_, ⟨_, ⟨team, hteam, rfl⟩, _, ⟨members, hmembers, hrole⟩, rfl⟩, .inl rfl⟩
    · exact ⟨_, ⟨_, ⟨team, hteam, rfl⟩, _, ⟨members, hmembers, hrole⟩, rfl⟩, .inr rfl⟩

/-- The rights that belong to no project go with leading a team, and one is for superusers. -/
theorem leads_ofMember (h : r.teamsOf user.id = .ok teams) :
    ((ofMember r user).permissions.canCreateProjects = true ↔ Leads r user.id teams)
      ∧ ((ofMember r user).permissions.canCreateTeams = true ↔ Leads r user.id teams)
      ∧ (ofMember r user).permissions.canManageUsers = false := by
  rw [← any_canManage_iff]
  simp only [ofMember, h]
  cases r.projects <;> exact ⟨.rfl, .rfl, rfl⟩

theorem rights_ofSuperuser (r : Readers) (user : User) :
    (ofSuperuser r user).permissions.canCreateProjects = true
      ∧ (ofSuperuser r user).permissions.canCreateTeams = true
      ∧ (ofSuperuser r user).permissions.canManageUsers = true := by
  unfold ofSuperuser
  cases r.projects with
  | error f => exact ⟨rfl, rfl, rfl⟩
  | ok projects => cases r.teams <;> exact ⟨rfl, rfl, rfl⟩

/-! ## Fewer answers -/

theorem Leads.mono (h : r'.Within r) {user : UserId} (hleads : Leads r' user teams) :
    Leads r user teams := by
  obtain ⟨team, hteam, members, hmembers, hrole⟩ := hleads
  exact ⟨team, hteam, members, h.members hmembers, hrole⟩

theorem capabilities_below {roles' roles : IdMap Role}
    (h : ∀ team role, roles'.find? team = some role → roles.find? team = some role) (p : Project) :
    (capabilities roles' p).Below (capabilities roles p) := by
  cases hrole : p.team.bind roles'.find? with
  | none =>
      -- Reading is what every entry grants, and without a role there is nothing else.
      have hcapabilities : capabilities roles' p = .readOnly none := by rw [capabilities, hrole]
      obtain ⟨hread, -⟩ := Rows.capabilities_spec roles p
      rw [hcapabilities]
      exact ⟨fun _ => hread, nofun, nofun, nofun, .inl rfl⟩
  | some role =>
      obtain ⟨team, hteam, hfind⟩ := Option.bind_eq_some_iff.mp hrole
      have hrole' : p.team.bind roles.find? = some role :=
        Option.bind_eq_some_iff.mpr ⟨team, hteam, h team role hfind⟩
      have hsame : capabilities roles' p = capabilities roles p := by
        rw [capabilities, capabilities, hrole, hrole']
      rw [hsame]
      exact .refl _

theorem ofMember_below (h : r'.Within r) (user : User) :
    (ofMember r' user).permissions.Below (ofMember r user).permissions := by
  cases hteams' : r'.teamsOf user.id with
  | error f =>
      rw [permissions_ofMember_of_error hteams']
      exact PermissionSnapshot.empty_below _
  | ok teams =>
      have hteams := h.teamsOf hteams'
      obtain ⟨hprojects', hcreate', husers'⟩ := leads_ofMember hteams'
      obtain ⟨hprojects, hcreate, -⟩ := leads_ofMember hteams
      have hroles (team : TeamId) (role : Role)
          (hrole : (ofMember r' user).permissions.teamRoles.find? team = some role) :
          (ofMember r user).permissions.teamRoles.find? team = some role := by
        rw [find?_teamRoles_ofMember hteams', Option.ite_none_right_eq_some,
          roleIn?_eq_some_iff] at hrole
        obtain ⟨hteam, members, hmembers, hrole⟩ := hrole
        rw [find?_teamRoles_ofMember hteams, if_pos hteam, roleIn?_eq_some_iff]
        exact ⟨members, h.members hmembers, hrole⟩
      refine ⟨?_, ?_, ?_, hroles, ?_⟩
      · intro hmay
        exact hprojects.mpr ((hprojects'.mp hmay).mono h)
      · intro hmay
        exact hcreate.mpr ((hcreate'.mp hmay).mono h)
      · intro hmay
        rw [husers'] at hmay
        cases hmay
      · intro id c hc
        rw [find?_projects_ofMember hteams', Option.map_eq_some_iff] at hc
        obtain ⟨p, hlisted', rfl⟩ := hc
        obtain ⟨projects, hall, hfind⟩ := listed?_eq_some_iff.mp hlisted'
        have hlisted : listed? r teams id = some p :=
          listed?_eq_some_iff.mpr ⟨projects, h.projects hall, hfind⟩
        rw [find?_projects_ofMember hteams, hlisted]
        exact ⟨_, rfl, capabilities_below hroles p⟩

theorem ofSuperuser_below (h : r'.Within r) (user : User) :
    (ofSuperuser r' user).permissions.Below (ofSuperuser r user).permissions := by
  obtain ⟨hprojects, hteams, husers⟩ := rights_ofSuperuser r user
  cases hall' : r'.projects with
  | error f =>
      rw [ofSuperuser, hall']
      exact ⟨fun _ => hprojects, fun _ => hteams, fun _ => husers, nofun, nofun⟩
  | ok projects =>
      have hall := h.projects hall'
      cases hteams' : r'.teams with
      | error f =>
          -- The projects are entered before the teams are asked for, so they are all there.
          refine ⟨fun _ => hprojects, fun _ => hteams, fun _ => husers, ?_, ?_⟩
          · simp only [ofSuperuser, hall', hteams']
            exact nofun
          · intro id c hc
            refine ⟨c, ?_, .refl c⟩
            simp only [ofSuperuser, hall', hteams'] at hc
            simp only [ofSuperuser, hall]
            cases r.teams <;> exact hc
      | ok teams =>
          have hsame : (ofSuperuser r' user).permissions = (ofSuperuser r user).permissions := by
            simp only [ofSuperuser, hall', hteams', hall, h.teams hteams']
          rw [hsame]
          exact .refl _

end Capture

/-- Of two stores, the one that answers less leads to the lower snapshot. -/
theorem Readers.capture_below {r r' : Readers} (h : r'.Within r) (user : User) :
    (r'.capture user).permissions.Below (r.capture user).permissions := by
  unfold Readers.capture
  split
  · exact ofSuperuser_below h user
  · exact ofMember_below h user

/-! ## One team less -/

/-- `s'` is `s` without what the members of `team` tell: the role in the team is gone, what was
to be read of the projects of the team is read-only without a role, and every other role and
every other entry is as it was. `projects` are the projects there are, if they can be listed. -/
structure PermissionSnapshot.OmitsTeam (s' s : PermissionSnapshot) (team : TeamId)
    (projects : Except Failure (List Project)) : Prop where
  teamRole : s'.teamRoles.find? team = none
  otherRoles : ∀ other, other ≠ team → s'.teamRoles.find? other = s.teamRoles.find? other
  listed : ∀ id, (s'.projects.find? id).isSome = (s.projects.find? id).isSome
  owned : ∀ all, projects = .ok all → ∀ p ∈ all, p.team = some team →
    s'.projects.find? p.id = (s.projects.find? p.id).map fun _ => .readOnly none
  others : ∀ all, projects = .ok all → ∀ p ∈ all, p.team ≠ some team →
    s'.projects.find? p.id = s.projects.find? p.id

namespace Capture

variable {r r' : Readers} {team : TeamId} {user : User} {teams : List Team}

theorem roleIn?_of_misses (h : r'.Misses r team) (user : UserId) (other : TeamId) :
    roleIn? r' user other = if other = team then none else roleIn? r user other := by
  ext role
  rw [roleIn?_eq_some_iff, Option.ite_none_left_eq_some, roleIn?_eq_some_iff]
  simp only [h.members, and_assoc, exists_and_left, ne_eq]

theorem listed?_of_misses (h : r'.Misses r team) (teams : List Team) (id : ProjectId) :
    listed? r' teams id = listed? r teams id := by
  ext p
  simp only [listed?_eq_some_iff, h.projects]

theorem capabilities_congr {roles roles' : IdMap Role} {p : Project}
    (h : p.team.bind roles'.find? = p.team.bind roles.find?) :
    capabilities roles' p = capabilities roles p := by
  rw [capabilities, capabilities, h]

theorem ofMember_omitsTeam (h : r'.Misses r team) (hteams : r.teamsOf user.id = .ok teams)
    (hunique : ∀ all, r.projects = .ok all → (all.map (·.id)).Nodup) :
    (ofMember r' user).permissions.OmitsTeam (ofMember r user).permissions team r.projects := by
  have hteams' := (h.teamsOf _ _).mpr hteams
  have hroles (other : TeamId) :
      (ofMember r' user).permissions.teamRoles.find? other
        = if other = team then none else (ofMember r user).permissions.teamRoles.find? other := by
    rw [find?_teamRoles_ofMember hteams', find?_teamRoles_ofMember hteams, roleIn?_of_misses h]
    split_ifs <;> rfl
  have hentry (id : ProjectId) :
      (ofMember r' user).permissions.projects.find? id
        = (listed? r teams id).map (capabilities (ofMember r' user).permissions.teamRoles) := by
    rw [find?_projects_ofMember hteams', listed?_of_misses h]
  refine ⟨?_, ?_, ?_, ?_, ?_⟩
  · rw [hroles, if_pos rfl]
  · intro other hother
    rw [hroles, if_neg hother]
  · intro id
    rw [hentry, find?_projects_ofMember hteams, Option.isSome_map, Option.isSome_map]
  · intro all hall p hp hteam
    rw [hentry, find?_projects_ofMember hteams, Option.map_map]
    refine Option.map_congr fun q hq => ?_
    obtain rfl := eq_of_listed? hall (hunique all hall) hp hq
    rw [capabilities, hteam, Option.bind_some, hroles, if_pos rfl]
    rfl
  · intro all hall p hp hteam
    rw [hentry, find?_projects_ofMember hteams]
    refine Option.map_congr fun q hq => ?_
    obtain rfl := eq_of_listed? hall (hunique all hall) hp hq
    refine capabilities_congr (Option.bind_congr fun other hother => ?_)
    have hne : other ≠ team := by
      rintro rfl
      exact hteam hother
    rw [hroles, if_neg hne]

end Capture

namespace Readers

/-- The more lookups fail, the lower is the snapshot. If to those that fail the lookup of the
members of one team is added, the snapshot of somebody who is no superuser, whose teams are
known, omits that team and nothing else, and whoever leads another team whose members are known
may still create projects and teams. -/
theorem capture_falls_short (r : Readers) (user : User) (fault fault' : Lookup → Option Failure)
    (hmore : ∀ lookup, (fault lookup).isSome = true → (fault' lookup).isSome = true) :
    ((r.failing fault').capture user).permissions.Below
        ((r.failing fault).capture user).permissions
      ∧ ∀ team teams, user.isSuperuser = false → (r.failing fault).teamsOf user.id = .ok teams →
          (∀ all, (r.failing fault).projects = .ok all → (all.map (·.id)).Nodup) →
          (∀ lookup, (fault' lookup).isSome = true
            ↔ (fault lookup).isSome = true ∨ lookup = .members team) →
          ((r.failing fault').capture user).permissions.OmitsTeam
              ((r.failing fault).capture user).permissions team (r.failing fault).projects
          ∧ (((r.failing fault').capture user).permissions.canCreateProjects = true
              ↔ Leads (r.failing fault') user.id teams)
          ∧ (((r.failing fault').capture user).permissions.canCreateTeams = true
              ↔ Leads (r.failing fault') user.id teams) := by
  refine ⟨capture_below (failing_within hmore) user, ?_⟩
  intro team teams hsuper hteams hunique hadded
  have hmisses : (r.failing fault').Misses (r.failing fault) team := failing_misses hadded
  have hcapture (r : Readers) : r.capture user = ofMember r user := by
    rw [Readers.capture, hsuper]
    rfl
  rw [hcapture, hcapture]
  obtain ⟨hprojects, hcreate, -⟩ := leads_ofMember ((hmisses.teamsOf _ _).mpr hteams)
  exact ⟨ofMember_omitsTeam hmisses hteams hunique, hprojects, hcreate⟩

/-- An owner of one team who is a member of another, a project of each and one of nobody. -/
def ownerAndMember : Readers :=
  { Directory.empty with
    teams := [⟨7, "web"⟩, ⟨8, "ops"⟩]
    members := [⟨7, 5, .owner⟩, ⟨8, 5, .member⟩]
    projects := [⟨1, "site", some 7⟩, ⟨2, "vault", some 8⟩, ⟨3, "wiki", none⟩] : Directory }.answers

/-- While the members of the first team cannot be read, its owner is told of the second team
alone and leads none. -/
theorem ownerAndMember_capture_falls_short :
    ∃ s s', (ownerAndMember.capture ⟨5, "eve", false⟩).permissions = s
      ∧ ((ownerAndMember.failing (Lookup.only (.members 7) .database)).capture
          ⟨5, "eve", false⟩).permissions = s'
      ∧ s.teamRoles.find? 7 = some .owner ∧ s.canCreateTeams = true
      ∧ s'.Below s
      ∧ s'.teamRoles.find? 7 = none ∧ s'.teamRoles.find? 8 = some .member
      ∧ s'.projects.find? 1 = some (.readOnly none)
      ∧ s'.projects.find? 2 = some (.readOnly (some .member))
      ∧ s'.canCreateTeams ≠ true := by
  obtain ⟨hbelow, hteam⟩ := capture_falls_short ownerAndMember ⟨5, "eve", false⟩ (fun _ => none)
    (Lookup.only (.members 7) .database) nofun
  have hadded (lookup : Lookup) : (Lookup.only (.members 7) .database lookup).isSome = true
      ↔ (none : Option Failure).isSome = true ∨ lookup = .members 7 := by
    by_cases h : lookup = .members 7 <;> simp [Lookup.only, h]
  have hunique : ∀ all, ownerAndMember.projects = .ok all → (all.map (·.id)).Nodup := by
    rintro _ ⟨⟩
    decide
  obtain ⟨homits, -, hcreate⟩ := hteam 7 _ rfl rfl hunique hadded
  refine ⟨_, _, rfl, rfl, rfl, rfl, hbelow, homits.teamRole, ?_, ?_, ?_, ?_⟩
  · exact homits.otherRoles 8 (by decide)
  · exact homits.owned _ rfl _ List.mem_cons_self rfl
  · exact homits.others _ rfl ⟨2, "vault", some 8⟩ (by decide) (by decide)
  · intro hmay
    obtain ⟨team, hteam, members, hmembers, hrole⟩ := hcreate.mp hmay
    rcases List.mem_cons.mp hteam with rfl | hteam
    · cases hmembers
    · obtain rfl := List.mem_singleton.mp hteam
      cases hmembers
      exact absurd hrole (by decide)

end Readers

end TrackerGate
