import Mathlib.Data.List.Nodup
import TrackerGate.Database.Basic

/-!
# What a sound database answers

In a database that keeps its promises and has all of its tables every lookup is
answered, and the answer is about single rows: a row of a given key is found exactly if
it is there (`project_eq_ok_iff` and its siblings), the teams of a user are those with a
membership row of the user (`mem_teamsOf_iff`), each of them once (`teamsOf_eq_filter`), and
among the members of a team a user has the role that the one row of the two names
(`members_spec`). The two ways to ask about a membership therefore agree.
-/

namespace TrackerGate

/-! ## Rows by their keys -/

theorem find?_key_eq_some_iff {α κ : Type} [BEq κ] [LawfulBEq κ] {key : α → κ} {rows : List α}
    (h : (rows.map key).Nodup) {k : κ} {a : α} :
    rows.find? (key · == k) = some a ↔ a ∈ rows ∧ key a = k := by
  constructor
  · intro ha
    exact ⟨List.mem_of_find?_eq_some ha, by simpa using List.find?_some ha⟩
  · rintro ⟨hmem, hkey⟩
    have hsome : (rows.find? (key · == k)).isSome := List.find?_isSome.mpr ⟨a, hmem, by simpa⟩
    obtain ⟨b, hb⟩ := Option.isSome_iff_exists.mp hsome
    have hbkey : key b = k := by simpa using List.find?_some hb
    rw [hb, List.inj_on_of_nodup_map h (List.mem_of_find?_eq_some hb) hmem (hbkey.trans hkey.symm)]

theorem find?_key_congr {α κ : Type} [BEq κ] [LawfulBEq κ] {key : α → κ} {rows rows' : List α}
    (hrows : (rows.map key).Nodup) (hrows' : (rows'.map key).Nodup) {k : κ}
    (h : ∀ a, key a = k → (a ∈ rows ↔ a ∈ rows')) :
    rows.find? (key · == k) = rows'.find? (key · == k) := by
  refine Option.ext fun a => ?_
  rw [find?_key_eq_some_iff hrows, find?_key_eq_some_iff hrows']
  exact and_congr_left fun hkey => h a hkey

/-! ## Sound databases -/

/-- All tables are there, the database is open, and the rows keep the promise of the
tables. -/
structure Database.Sound (db : Database) : Prop where
  valid : db.rows.Valid
  complete : db.dropped = []
  isOpen : db.isClosed = false

theorem Database.Sound.readers_eq {db : Database} (h : db.Sound) :
    db.readers = db.rows.readers := by
  have hfault : (fun lookup => if (tablesOf lookup).all db.has then none else some Failure.database)
      = fun _ => none := by
    funext lookup
    have hall : (tablesOf lookup).all db.has = true :=
      List.all_eq_true.mpr fun t _ => by simp [has, h.complete, h.isOpen]
    exact if_pos hall
  rw [readers, hfault, Readers.failing_none]

/-- Whichever tables are there, a user who is found is the one who was asked for. -/
theorem Database.id_of_readers_user {db : Database} {id : UserId} {u : User}
    (h : db.readers.user id = .ok u) : u.id = id := by
  simp only [readers, Readers.failing, Readers.orFail] at h
  split at h
  · cases h
  · have hfound := Readers.found_eq_ok_iff.mp h
    simpa using List.find?_some hfound

/-! ## Memberships -/

/-- The row that a membership is stored as. -/
def Membership.row (m : Membership) : MembershipRow where
  team := m.team
  user := m.user
  role := m.role.name

theorem Membership.read_row (m : Membership) : m.row.read = .ok m := by
  simp [row, MembershipRow.read, Role.parse_name, Except.map]

theorem Membership.row_injective : Function.Injective Membership.row := fun m m' h =>
  Except.ok.inj ((read_row m).symm.trans (h ▸ read_row m'))

/-- A row whose role has a name that is known is the row of a membership. -/
theorem MembershipRow.exists_eq_row {m : MembershipRow}
    (h : (Role.ofName? m.role).isSome = true) :
    ∃ role, Role.parse m.role = .ok role
      ∧ m = Membership.row { team := m.team, user := m.user, role } := by
  obtain ⟨role, hrole⟩ := Option.isSome_iff_exists.mp h
  have hname : m.role = role.name := Role.ofName?_eq_some_iff.mp hrole
  refine ⟨role, ?_, ?_⟩
  · rw [hname, Role.parse_name]
  · rw [Membership.row, ← hname]

theorem Membership.mapM_read_row (members : List Membership) :
    (members.map row).mapM MembershipRow.read = .ok members := by
  induction members with
  | nil => rfl
  | cons m members ih =>
      simp [List.mapM_cons, read_row, ih, bind, Except.bind, pure, Except.pure]

namespace Rows

/-- There is a membership row that gives `user` the role `role` in `team`. -/
def Holds (r : Rows) (user : UserId) (role : Role) (team : TeamId) : Prop :=
  Membership.row { team, user, role } ∈ r.memberships

variable {r : Rows}

/-- Every stored membership is the row of some membership. -/
theorem exists_eq_map_row {rows : List MembershipRow}
    (h : ∀ m ∈ rows, (Role.ofName? m.role).isSome = true) :
    ∃ members : List Membership, rows = members.map Membership.row := by
  induction rows with
  | nil => exact ⟨[], rfl⟩
  | cons m rows ih =>
      obtain ⟨role, -, hm⟩ := MembershipRow.exists_eq_row (h m List.mem_cons_self)
      obtain ⟨members, rfl⟩ := ih fun x hx => h x (List.mem_cons_of_mem m hx)
      exact ⟨_ :: members, congrArg (· :: _) hm⟩

theorem hasMembership_iff (hr : r.Valid) {team : TeamId} {user : UserId} :
    r.hasMembership team user = true ↔ ∃ role, r.Holds user role team := by
  simp only [hasMembership, List.any_eq_true, Bool.and_eq_true, beq_iff_eq]
  constructor
  · rintro ⟨m, hm, rfl, rfl⟩
    obtain ⟨role, -, hrow⟩ := MembershipRow.exists_eq_row (hr.membership_role m hm)
    refine ⟨role, ?_⟩
    rw [Holds, ← hrow]
    exact hm
  · rintro ⟨role, hrole⟩
    exact ⟨_, hrole, rfl, rfl⟩

/-- A user has at most one role in a team. -/
theorem Holds.unique (hr : r.Valid) {user : UserId} {role role' : Role} {team : TeamId}
    (h : r.Holds user role team) (h' : r.Holds user role' team) : role = role' := by
  have hrow := List.inj_on_of_nodup_map hr.memberships_unique h h' rfl
  have hname : role.name = role'.name := congrArg MembershipRow.role hrow
  exact Option.some.inj (Role.ofName?_name role ▸ hname ▸ Role.ofName?_name role')

/-! ## Lookups -/

theorem user_eq_ok_iff (hr : r.Valid) {id : UserId} {u : User} :
    r.readers.user id = .ok u ↔ u ∈ r.users ∧ u.id = id := by
  rw [readers, Readers.found_eq_ok_iff, find?_key_eq_some_iff hr.users_unique]

theorem project_eq_ok_iff (hr : r.Valid) {id : ProjectId} {p : Project} :
    r.readers.project id = .ok p ↔ p ∈ r.projects ∧ p.id = id := by
  rw [readers, Readers.found_eq_ok_iff, find?_key_eq_some_iff hr.projects_unique]

theorem issue_eq_ok_iff (hr : r.Valid) {id : IssueId} {i : Issue} :
    r.readers.issue id = .ok i ↔ i ∈ r.issues ∧ i.id = id := by
  rw [readers, Readers.found_eq_ok_iff, find?_key_eq_some_iff hr.issues_unique]

/-- A user has a single membership row in a team. -/
theorem Holds.single (hr : r.Valid) {user : UserId} {role : Role} {team : TeamId}
    (h : r.Holds user role team) :
    r.memberships.filter (fun m => m.team == team && m.user == user)
      = [Membership.row { team, user, role }] := by
  have hnodup : (r.memberships.filter fun m => m.team == team && m.user == user).Nodup :=
    hr.memberships_unique.of_map.filter _
  refine List.perm_singleton.mp
    ((List.perm_ext_iff_of_nodup hnodup (List.nodup_singleton _)).mpr ?_)
  intro m
  rw [List.mem_singleton, List.mem_filter, Bool.and_eq_true, beq_iff_eq, beq_iff_eq]
  constructor
  · rintro ⟨hm, hteam, huser⟩
    exact List.inj_on_of_nodup_map hr.memberships_unique hm h (Prod.ext hteam huser)
  · rintro rfl
    exact ⟨h, rfl, rfl⟩

/-- The role that somebody has is the one that can be read in their single row. -/
theorem holds_iff_single (hr : r.Valid) {user : UserId} {role : Role} {team : TeamId} :
    r.Holds user role team
      ↔ ∃ row, r.memberships.filter (fun m => m.team == team && m.user == user) = [row]
          ∧ Role.parse row.role = .ok role := by
  constructor
  · intro h
    exact ⟨_, h.single hr, Role.parse_name role⟩
  · rintro ⟨row, hrows, hparse⟩
    have hmem : row ∈ r.memberships.filter fun m => m.team == team && m.user == user :=
      hrows ▸ List.mem_singleton_self row
    rw [List.mem_filter, Bool.and_eq_true, beq_iff_eq, beq_iff_eq] at hmem
    obtain ⟨hrow, rfl, rfl⟩ := hmem
    obtain ⟨role', hparse', heq⟩ := MembershipRow.exists_eq_row (hr.membership_role row hrow)
    obtain rfl := Except.ok.inj (hparse.symm.trans hparse')
    rw [Holds, ← heq]
    exact hrow

/-- Since a user has no second membership in a team, the join with the memberships repeats no
team: it only picks some. -/
theorem teamsOf_eq_filter (hr : r.Valid) (user : UserId) :
    r.teamsOf user = r.teams.filter fun t => r.hasMembership t.id user := by
  rw [teamsOf, ← List.filterMap_eq_filter, List.filterMap_eq_flatMap_toList]
  refine congrArg r.teams.flatMap (funext fun t => ?_)
  by_cases hmember : r.hasMembership t.id user = true
  · obtain ⟨role, hrole⟩ := (hasMembership_iff hr).mp hmember
    rw [hrole.single hr, Option.guard, if_pos hmember]
    rfl
  · have hnone : r.memberships.filter (fun m => m.team == t.id && m.user == user) = [] := by
      rw [List.filter_eq_nil_iff]
      exact fun m hm hsame => hmember (List.any_eq_true.mpr ⟨m, hm, hsame⟩)
    rw [hnone, Option.guard, if_neg hmember]
    rfl

theorem mem_teamsOf_iff (hr : r.Valid) {user : UserId} {team : TeamId} :
    team ∈ (r.teamsOf user).map (·.id) ↔ ∃ role, r.Holds user role team := by
  simp only [teamsOf_eq_filter hr, List.mem_map, List.mem_filter]
  constructor
  · rintro ⟨t, ⟨-, ht⟩, rfl⟩
    exact (hasMembership_iff hr).mp ht
  · rintro ⟨role, hrole⟩
    have hteam : r.hasTeam team = true := hr.membership_team _ hrole
    obtain ⟨t, ht, hid⟩ := List.any_eq_true.mp hteam
    obtain rfl : t.id = team := by simpa using hid
    exact ⟨t, ⟨ht, (hasMembership_iff hr).mpr ⟨role, hrole⟩⟩, rfl⟩

/-- The members of a team can always be read, and a user has the role among them that
the membership row names. -/
theorem members_spec (hr : r.Valid) (team : TeamId) :
    ∃ members, r.readers.members team = .ok members
      ∧ ∀ user role, Membership.roleOf members user = some role ↔ r.Holds user role team := by
  obtain ⟨members, hmembers⟩ := exists_eq_map_row hr.membership_role
  have hkeys : (members.map fun m => (m.team, m.user)).Nodup := by
    have h := hr.memberships_unique
    rw [hmembers, List.map_map] at h
    exact h
  have husers : ((members.filter (·.team == team)).map (·.user)).Nodup := by
    refine (hkeys.of_map.filter _).map_on fun m hm m' hm' huser => ?_
    obtain ⟨hm, hteam⟩ := List.mem_filter.mp hm
    obtain ⟨hm', hteam'⟩ := List.mem_filter.mp hm'
    have hteams : m.team = m'.team := (beq_iff_eq.mp hteam).trans (beq_iff_eq.mp hteam').symm
    exact List.inj_on_of_nodup_map hkeys hm hm' (Prod.ext hteams huser)
  refine ⟨members.filter (·.team == team), ?_, fun user role => ?_⟩
  · have hrows : r.membersOf team = (members.filter (·.team == team)).map Membership.row := by
      rw [membersOf, hmembers, List.filter_map]
      rfl
    show (r.membersOf team).mapM MembershipRow.read = _
    rw [hrows, Membership.mapM_read_row]
  · rw [Membership.roleOf, Option.map_eq_some_iff, Holds, hmembers,
      List.mem_map_of_injective Membership.row_injective]
    simp only [find?_key_eq_some_iff husers, List.mem_filter, beq_iff_eq]
    constructor
    · rintro ⟨m, ⟨⟨hm, rfl⟩, rfl⟩, rfl⟩
      exact hm
    · intro hm
      exact ⟨_, ⟨⟨hm, rfl⟩, rfl⟩, rfl⟩

end Rows

/-! ## A sound database -/

namespace Database

/-- Two teams with a project and an issue each, a member of the first, and a project that
belongs to nobody. -/
def twoTeams : Database where
  rows :=
    { users := [⟨5, "eve", false⟩]
      teams := [⟨7, "web"⟩, ⟨8, "ops"⟩]
      memberships := [⟨7, 5, "member"⟩]
      projects := [⟨1, "site", some 7⟩, ⟨2, "vault", some 8⟩, ⟨3, "wiki", none⟩]
      issues := [⟨10, 1, "typo"⟩, ⟨20, 2, "leak"⟩] }
  dropped := []
  checksRoles := true
  isClosed := false

theorem sound_twoTeams : twoTeams.Sound where
  valid := by
    -- To decide this for all teams there are would take their whole type.
    have howner : ∀ p ∈ twoTeams.rows.projects, p.team.all twoTeams.rows.hasTeam = true := by
      decide
    constructor
    case project_team => exact fun p hp t ht => (Option.all_eq_true ..).mp (howner p hp) t ht
    all_goals decide
  complete := rfl
  isOpen := rfl

end Database

end TrackerGate
