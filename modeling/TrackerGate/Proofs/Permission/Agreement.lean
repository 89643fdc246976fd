import TrackerGate.Permission.Capture
import TrackerGate.Proofs.Access.Standing

/-!
# Snapshots agree with the checks

A snapshot answers beforehand what the checks answer later, and it finds the answer in
another way: from the list of the user's teams by way of their members to a filtered list
of all projects, where a check loads one project and asks about its team.
`Database.capture_agrees` shows that in front of a sound database both come to the same.

The rows stand between the two. What a capture enters for a team is a membership row
(`mem_knownRoles_iff`), and what it enters for a project depends on the membership row of
its team alone (`capabilities_spec`). Lists become maps without a loss, since keys are
unique in valid rows (`find?_ofList_map_iff`).
-/

namespace TrackerGate

open Capture

/-! ## Maps of rows -/

/-- If rows with one key have one value, the map of the rows has their values and no others. -/
theorem IdMap.find?_ofList_map_iff_of_congr {α β : Type} {rows : List α} {key : α → Int64}
    {value : α → β} (h : ∀ a ∈ rows, ∀ b ∈ rows, key a = key b → value a = value b) {k : Int64}
    {v : β} :
    (IdMap.ofList (rows.map fun a => (key a, value a))).find? k = some v
      ↔ ∃ a ∈ rows, key a = k ∧ value a = v := by
  rw [IdMap.find?_ofList_eq_some_iff]
  · simp
  · intro k v w hv hw
    obtain ⟨a, ha, hav⟩ := List.mem_map.mp hv
    obtain ⟨b, hb, hbw⟩ := List.mem_map.mp hw
    obtain ⟨rfl, rfl⟩ := Prod.mk.inj hav
    obtain ⟨hkey, rfl⟩ := Prod.mk.inj hbw
    exact h a ha b hb hkey.symm

/-- The map of rows that are told apart by their keys has their values and no others. -/
theorem IdMap.find?_ofList_map_iff {α β : Type} {rows : List α} {key : α → Int64} {value : α → β}
    (h : (rows.map key).Nodup) {k : Int64} {v : β} :
    (IdMap.ofList (rows.map fun a => (key a, value a))).find? k = some v
      ↔ ∃ a ∈ rows, key a = k ∧ value a = v :=
  find?_ofList_map_iff_of_congr fun _ ha _ hb hkey =>
    congrArg value (List.inj_on_of_nodup_map h ha hb hkey)

/-! ## What a snapshot says -/

namespace PermissionSnapshot

/-- The entries of the snapshot are the projects that may be read, and each says of its
project what the checks say. -/
structure AgreesWith (s : PermissionSnapshot) (r : Readers) (ctx : Context) : Prop where
  readable : ∀ id, (s.projects.find? id).isSome = true ↔ Access.readProject r ctx id = .ok ()
  canRead : ∀ id c, s.projects.find? id = some c → c.canRead = true
  canWrite : ∀ id c, s.projects.find? id = some c →
    (c.canWrite = true ↔ Access.manageProject r ctx id false = .ok ())
  canDelete : ∀ id c, s.projects.find? id = some c →
    (c.canDelete = true ↔ Access.manageProject r ctx id false = .ok ())
  canManage : ∀ id c, s.projects.find? id = some c →
    (c.canManage = true ↔ Access.manageProject r ctx id false = .ok ())

/-- The snapshot tells the memberships of `user`, and nothing that they do not give. -/
structure TellsMemberships (s : PermissionSnapshot) (r : Rows) (user : UserId) : Prop where
  teamRoles : ∀ team role, s.teamRoles.find? team = some role ↔ r.Holds user role team
  teamRole : ∀ p ∈ r.projects, ∀ c, s.projects.find? p.id = some c →
    ∀ role, c.teamRole = some role ↔ ∃ team, p.team = some team ∧ r.Holds user role team
  canCreateProjects : s.canCreateProjects = true
    ↔ ∃ team, r.Holds user .owner team ∨ r.Holds user .admin team
  canCreateTeams : s.canCreateTeams = true
    ↔ ∃ team, r.Holds user .owner team ∨ r.Holds user .admin team
  canManageUsers : s.canManageUsers = false

/-- The snapshot makes its user an owner of everything. -/
structure TellsOwnership (s : PermissionSnapshot) (r : Rows) : Prop where
  teamRoles : ∀ team role,
    s.teamRoles.find? team = some role ↔ role = .owner ∧ r.hasTeam team = true
  teamRole : ∀ id c, s.projects.find? id = some c → c.teamRole = some .owner
  canCreateProjects : s.canCreateProjects = true
  canCreateTeams : s.canCreateTeams = true
  canManageUsers : s.canManageUsers = true

end PermissionSnapshot

namespace Rows

variable {r : Rows} {user : User}

/-! ## Superusers -/

theorem permissions_ofSuperuser (r : Rows) (user : User) :
    (ofSuperuser r.readers user).permissions
      = { projects := .ofList (r.projects.map fun p => (p.id, Capabilities.full .owner))
          teamRoles := .ofList (r.teams.map fun t => (t.id, Role.owner))
          canCreateProjects := true
          canCreateTeams := true
          canManageUsers := true } := rfl

theorem ofSuperuser_agreesWith (hr : r.Valid) (user : User) {ctx : Context}
    (hsuper : ctx.isSuperuser = true) :
    (ofSuperuser r.readers user).permissions.AgreesWith r.readers ctx := by
  have hentry {id : ProjectId} {c : Capabilities} :
      (ofSuperuser r.readers user).permissions.projects.find? id = some c
        ↔ ∃ p ∈ r.projects, p.id = id ∧ Capabilities.full .owner = c :=
    IdMap.find?_ofList_map_iff hr.projects_unique
  have hmanage {id : ProjectId} {c : Capabilities}
      (h : (ofSuperuser r.readers user).permissions.projects.find? id = some c) :
      Access.manageProject r.readers ctx id false = .ok () := by
    obtain ⟨p, hp, hid, -⟩ := hentry.mp h
    exact (manageProject_eq_ok_iff_standing hr).mpr (.inl ⟨p, hp, hid, .inl hsuper⟩)
  refine ⟨fun id => ?_, fun id c h => ?_, fun id c h => ?_, fun id c h => ?_, fun id c h => ?_⟩
  · rw [readProject_eq_ok_iff_mayRead hr, Option.isSome_iff_exists]
    constructor
    · rintro ⟨c, hc⟩
      obtain ⟨p, hp, hid, -⟩ := hentry.mp hc
      exact ⟨p, hp, hid, .inl hsuper⟩
    · rintro ⟨p, hp, hid, -⟩
      exact ⟨_, hentry.mpr ⟨p, hp, hid, rfl⟩⟩
  all_goals obtain ⟨-, -, -, rfl⟩ := hentry.mp h
  · rfl
  all_goals exact ⟨fun _ => hmanage h, fun _ => rfl⟩

theorem ofSuperuser_tellsOwnership (hr : r.Valid) (user : User) :
    (ofSuperuser r.readers user).permissions.TellsOwnership r := by
  refine ⟨fun team role => ?_, fun id c h => ?_, rfl, rfl, rfl⟩
  · rw [permissions_ofSuperuser, IdMap.find?_ofList_map_iff hr.teams_unique]
    simp only [hasTeam, List.any_eq_true, beq_iff_eq]
    constructor
    · rintro ⟨t, ht, hid, rfl⟩
      exact ⟨rfl, t, ht, hid⟩
    · rintro ⟨rfl, t, ht, hid⟩
      exact ⟨t, ht, hid, rfl⟩
  · obtain ⟨-, -, -, rfl⟩ := (IdMap.find?_ofList_map_iff hr.projects_unique).mp h
    rfl

/-! ## Everybody else -/

theorem roleIn?_eq_some_iff (hr : r.Valid) {user : UserId} {team : TeamId} {role : Role} :
    roleIn? r.readers user team = some role ↔ r.Holds user role team := by
  obtain ⟨members, hmembers, hrole⟩ := members_spec hr team
  rw [roleIn?, hmembers]
  exact hrole user role

/-- The roles found by way of the user's teams are those of the user's rows. -/
theorem mem_knownRoles_iff (hr : r.Valid) {user : UserId} {team : TeamId} {role : Role} :
    (team, role) ∈ knownRoles r.readers user ((r.teamsOf user).map (·.id))
      ↔ r.Holds user role team := by
  rw [knownRoles, List.mem_filterMap]
  constructor
  · rintro ⟨team', -, h⟩
    obtain ⟨role', hrole, hpair⟩ := Option.map_eq_some_iff.mp h
    obtain ⟨rfl, rfl⟩ := Prod.mk.inj hpair
    exact (roleIn?_eq_some_iff hr).mp hrole
  · intro h
    refine ⟨team, (mem_teamsOf_iff hr).mpr ⟨role, h⟩, ?_⟩
    rw [(roleIn?_eq_some_iff hr).mpr h]
    rfl

/-- The roles that a snapshot of the user holds. -/
def rolesOf (r : Rows) (user : UserId) : IdMap Role :=
  .ofList (knownRoles r.readers user ((r.teamsOf user).map (·.id)))

theorem find?_rolesOf_eq_some_iff (hr : r.Valid) {user : UserId} {team : TeamId} {role : Role} :
    (r.rolesOf user).find? team = some role ↔ r.Holds user role team := by
  rw [rolesOf, IdMap.find?_ofList_eq_some_iff, mem_knownRoles_iff hr]
  intro team role role' h h'
  exact ((mem_knownRoles_iff hr).mp h).unique hr ((mem_knownRoles_iff hr).mp h')

theorem isVisibleTo_teamsOf_iff (hr : r.Valid) {user : UserId} {p : Project} :
    p.isVisibleTo ((r.teamsOf user).map (·.id)) = true
      ↔ p.team = none ∨ ∃ team, p.team = some team ∧ ∃ role, r.Holds user role team := by
  unfold Project.isVisibleTo
  cases hteam : p.team with
  | none => simp
  | some team => simp [← mem_teamsOf_iff hr]

/-- The role in the owning team decides the capabilities, and they carry it. -/
theorem capabilities_spec (roles : IdMap Role) (p : Project) :
    (capabilities roles p).canRead = true
      ∧ (capabilities roles p).canWrite = (p.team.bind roles.find?).any Role.canManage
      ∧ (capabilities roles p).canDelete = (p.team.bind roles.find?).any Role.canManage
      ∧ (capabilities roles p).canManage = (p.team.bind roles.find?).any Role.canManage
      ∧ (capabilities roles p).teamRole = p.team.bind roles.find? := by
  unfold capabilities
  cases p.team.bind roles.find? with
  | none => exact ⟨rfl, rfl, rfl, rfl, rfl⟩
  | some role => cases role <;> exact ⟨rfl, rfl, rfl, rfl, rfl⟩

theorem bind_find?_rolesOf_eq_some_iff (hr : r.Valid) {user : UserId} {p : Project} {role : Role} :
    p.team.bind (r.rolesOf user).find? = some role
      ↔ ∃ team, p.team = some team ∧ r.Holds user role team := by
  simp only [Option.bind_eq_some_iff, find?_rolesOf_eq_some_iff hr]

theorem permissions_ofMember (r : Rows) (user : User) :
    (ofMember r.readers user).permissions
      = { projects := .ofList ((Project.visible ((r.teamsOf user.id).map (·.id)) r.projects).map
            fun p => (p.id, capabilities (r.rolesOf user.id) p))
          teamRoles := r.rolesOf user.id
          canCreateProjects := (knownRoles r.readers user.id
            ((r.teamsOf user.id).map (·.id))).any (·.2.canManage)
          canCreateTeams := (knownRoles r.readers user.id
            ((r.teamsOf user.id).map (·.id))).any (·.2.canManage)
          canManageUsers := false } := rfl

theorem find?_ofMember_eq_some_iff (hr : r.Valid) {id : ProjectId} {c : Capabilities} :
    (ofMember r.readers user).permissions.projects.find? id = some c
      ↔ ∃ p ∈ r.projects, p.id = id
          ∧ (p.team = none ∨ ∃ team, p.team = some team ∧ ∃ role, r.Holds user.id role team)
          ∧ capabilities (r.rolesOf user.id) p = c := by
  have hkeys : ((Project.visible ((r.teamsOf user.id).map (·.id)) r.projects).map (·.id)).Nodup :=
    hr.projects_unique.sublist (List.filter_sublist.map _)
  rw [permissions_ofMember, IdMap.find?_ofList_map_iff hkeys]
  simp only [Project.visible, List.mem_filter, isVisibleTo_teamsOf_iff hr]
  constructor
  · rintro ⟨p, ⟨hp, hvisible⟩, hid, hc⟩
    exact ⟨p, hp, hid, hvisible, hc⟩
  · rintro ⟨p, hp, hid, hvisible, hc⟩
    exact ⟨p, ⟨hp, hvisible⟩, hid, hc⟩

/-- A role that manages, in the team of a project, is what its management takes. -/
theorem manages_iff_manageProject (hr : r.Valid) {user : UserId} {ctx : Context}
    (huser : ctx.user = some user) (hsuper : ctx.isSuperuser = false) {p : Project}
    (hp : p ∈ r.projects) :
    (p.team.bind (r.rolesOf user).find?).any Role.canManage = true
      ↔ Access.manageProject r.readers ctx p.id false = .ok () := by
  rw [manageProject_eq_ok_iff_standing hr, Option.any_eq_true]
  simp only [bind_find?_rolesOf_eq_some_iff hr, Bool.false_eq_true, false_and, or_false]
  constructor
  · rintro ⟨role, ⟨team, hteam, hholds⟩, hmanages⟩
    have hleads := exists_canManage_iff.mp ⟨role, hholds, hmanages⟩
    exact ⟨p, hp, rfl, .inr ⟨team, hteam, user, huser, hleads⟩⟩
  · rintro ⟨p', hp', hid, hyes | ⟨team, hteam, user', huser', hleads⟩⟩
    · rw [hsuper] at hyes
      cases hyes
    · obtain rfl := List.inj_on_of_nodup_map hr.projects_unique hp' hp hid
      obtain rfl := Option.some.inj (huser.symm.trans huser')
      obtain ⟨role, hholds, hmanages⟩ := exists_canManage_iff.mpr hleads
      exact ⟨role, ⟨team, hteam, hholds⟩, hmanages⟩

theorem ofMember_agreesWith (hr : r.Valid) {ctx : Context} (huser : ctx.user = some user.id)
    (hsuper : ctx.isSuperuser = false) :
    (ofMember r.readers user).permissions.AgreesWith r.readers ctx := by
  refine ⟨fun id => ?_, fun id c h => ?_, fun id c h => ?_, fun id c h => ?_, fun id c h => ?_⟩
  · rw [readProject_eq_ok_iff_mayRead hr, Option.isSome_iff_exists]
    constructor
    · rintro ⟨c, hc⟩
      obtain ⟨p, hp, hid, hvisible, -⟩ := (find?_ofMember_eq_some_iff hr).mp hc
      rcases hvisible with hteam | ⟨team, hteam, role, hholds⟩
      · exact ⟨p, hp, hid, .inr (.inl hteam)⟩
      · exact ⟨p, hp, hid, .inr (.inr ⟨team, hteam, user.id, huser, role, hholds⟩)⟩
    · rintro ⟨p, hp, hid, hyes | hteam | ⟨team, hteam, user', huser', role, hholds⟩⟩
      · rw [hsuper] at hyes
        cases hyes
      · exact ⟨_, (find?_ofMember_eq_some_iff hr).mpr ⟨p, hp, hid, .inl hteam, rfl⟩⟩
      · obtain rfl := Option.some.inj (huser.symm.trans huser')
        exact ⟨_, (find?_ofMember_eq_some_iff hr).mpr
          ⟨p, hp, hid, .inr ⟨team, hteam, role, hholds⟩, rfl⟩⟩
  all_goals
    obtain ⟨p, hp, rfl, -, rfl⟩ := (find?_ofMember_eq_some_iff hr).mp h
    obtain ⟨hread, hwrite, hdelete, hmanage, -⟩ := capabilities_spec (r.rolesOf user.id) p
    have hiff := manages_iff_manageProject hr huser hsuper hp
  · exact hread
  · rw [hwrite, hiff]
  · rw [hdelete, hiff]
  · rw [hmanage, hiff]

theorem any_knownRoles_iff (hr : r.Valid) {user : UserId} :
    (knownRoles r.readers user ((r.teamsOf user).map (·.id))).any (·.2.canManage) = true
      ↔ ∃ team, r.Holds user .owner team ∨ r.Holds user .admin team := by
  rw [List.any_eq_true]
  constructor
  · rintro ⟨⟨team, role⟩, hmem, hmanages⟩
    exact ⟨team, exists_canManage_iff.mp ⟨role, (mem_knownRoles_iff hr).mp hmem, hmanages⟩⟩
  · rintro ⟨team, hleads⟩
    obtain ⟨role, hholds, hmanages⟩ := exists_canManage_iff.mpr hleads
    exact ⟨(team, role), (mem_knownRoles_iff hr).mpr hholds, hmanages⟩

theorem ofMember_tellsMemberships (hr : r.Valid) (user : User) :
    (ofMember r.readers user).permissions.TellsMemberships r user.id := by
  refine ⟨fun team role => find?_rolesOf_eq_some_iff hr, fun p hp c h role => ?_,
    any_knownRoles_iff hr, any_knownRoles_iff hr, rfl⟩
  obtain ⟨p', hp', hid, -, rfl⟩ := (find?_ofMember_eq_some_iff hr).mp h
  obtain rfl := List.inj_on_of_nodup_map hr.projects_unique hp' hp hid
  obtain ⟨-, -, -, -, hrole⟩ := capabilities_spec (r.rolesOf user.id) p'
  rw [hrole, bind_find?_rolesOf_eq_some_iff hr]

end Rows

namespace Database

/-- The snapshot of any user agrees with the checks for that user on every project. Of
somebody who is no superuser it tells the membership rows, and of a superuser that
everything is theirs. -/
theorem capture_agrees {db : Database} (hdb : db.Sound) (user : User) :
    (db.readers.capture user).permissions.AgreesWith db.readers
        (.forUser user.id user.isSuperuser)
      ∧ (user.isSuperuser = false →
          (db.readers.capture user).permissions.TellsMemberships db.rows user.id)
      ∧ (user.isSuperuser = true →
          (db.readers.capture user).permissions.TellsOwnership db.rows) := by
  rw [hdb.readers_eq, Readers.capture]
  cases hsuper : user.isSuperuser with
  | true =>
      refine ⟨Rows.ofSuperuser_agreesWith hdb.valid user rfl, nofun, fun _ => ?_⟩
      exact Rows.ofSuperuser_tellsOwnership hdb.valid user
  | false =>
      refine ⟨Rows.ofMember_agreesWith hdb.valid rfl rfl, fun _ => ?_, nofun⟩
      exact Rows.ofMember_tellsMemberships hdb.valid user

/-- What a member of one of two teams is told, and what the check for that team's project
answers. -/
theorem twoTeams_capture_agrees :
    twoTeams.Sound
      ∧ (twoTeams.readers.capture ⟨5, "eve", false⟩).permissions.teamRoles.find? 7 = some .member
      ∧ (twoTeams.readers.capture ⟨5, "eve", false⟩).permissions.canCreateTeams = false
      ∧ Access.readProject twoTeams.readers (.forUser 5 false) 1 = .ok ()
      ∧ Access.readProject twoTeams.readers (.forUser 5 false) 2 ≠ .ok () := by
  obtain ⟨hagrees, hmember, -⟩ := capture_agrees sound_twoTeams ⟨5, "eve", false⟩
  refine ⟨sound_twoTeams, ?_, rfl, ?_, fun hread => ?_⟩
  · exact ((hmember rfl).teamRoles 7 .member).mpr List.mem_cons_self
  · exact (hagrees.readable 1).mp rfl
  · cases (hagrees.readable 2).mpr hread

end Database

end TrackerGate
