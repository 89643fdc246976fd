import TrackerGate.Entity

/-!
# Rows

The contents of the five tables, each in the order of its key. Deleting a row takes
along what belongs to it: the memberships of a user or a team, the issues of a
project. The projects of a deleted team stay and become ownerless.

Columns hold values of the types that they are declared with. The tables do not insist on
that, since none of them is declared as strict; it is taken for granted of whatever is
written to them.

`Rows.Valid` says what the tables promise of their contents: keys and user names are
unique, a membership names a user and a team that exist and a role that can be read,
an owned project names an existing team, and an issue an existing project.
-/

namespace TrackerGate

structure Rows where
  users : List User
  teams : List Team
  memberships : List MembershipRow
  projects : List Project
  issues : List Issue
  deriving DecidableEq, Repr

namespace Rows

def empty : Rows := ⟨[], [], [], [], []⟩

instance : Inhabited Rows := ⟨empty⟩

/-! ## What exists -/

def hasUser (r : Rows) (id : UserId) : Bool := r.users.any (·.id == id)

def hasTeam (r : Rows) (id : TeamId) : Bool := r.teams.any (·.id == id)

def hasProject (r : Rows) (id : ProjectId) : Bool := r.projects.any (·.id == id)

def hasIssue (r : Rows) (id : IssueId) : Bool := r.issues.any (·.id == id)

def hasMembership (r : Rows) (team : TeamId) (user : UserId) : Bool :=
  r.memberships.any fun m => m.team == team && m.user == user

/-! ## The promise of the tables -/

structure Valid (r : Rows) : Prop where
  users_unique : (r.users.map (·.id)).Nodup
  usernames_unique : (r.users.map (·.username)).Nodup
  teams_unique : (r.teams.map (·.id)).Nodup
  memberships_unique : (r.memberships.map fun m => (m.team, m.user)).Nodup
  projects_unique : (r.projects.map (·.id)).Nodup
  issues_unique : (r.issues.map (·.id)).Nodup
  membership_user : ∀ m ∈ r.memberships, r.hasUser m.user = true
  membership_team : ∀ m ∈ r.memberships, r.hasTeam m.team = true
  membership_role : ∀ m ∈ r.memberships, (Role.ofName? m.role).isSome = true
  project_team : ∀ p ∈ r.projects, ∀ t ∈ p.team, r.hasTeam t = true
  issue_project : ∀ i ∈ r.issues, r.hasProject i.project = true

theorem valid_empty : empty.Valid := by
  constructor <;> simp [empty]

/-! ## Insertion -/

/-- `l` with `a` in front of the first item that comes after it. -/
def insertBefore {α : Type} (isBefore : α → α → Bool) (a : α) : List α → List α
  | [] => [a]
  | b :: l => if isBefore a b then a :: b :: l else b :: insertBefore isBefore a l

def insertUser (r : Rows) (u : User) : Rows :=
  { r with users := insertBefore (fun a b => a.id < b.id) u r.users }

def insertTeam (r : Rows) (t : Team) : Rows :=
  { r with teams := insertBefore (fun a b => a.id < b.id) t r.teams }

def insertMembership (r : Rows) (m : MembershipRow) : Rows :=
  let isBefore (a b : MembershipRow) : Bool :=
    a.team < b.team || (a.team == b.team && a.user < b.user)
  { r with memberships := insertBefore isBefore m r.memberships }

def insertProject (r : Rows) (p : Project) : Rows :=
  { r with projects := insertBefore (fun a b => a.id < b.id) p r.projects }

def insertIssue (r : Rows) (i : Issue) : Rows :=
  { r with issues := insertBefore (fun a b => a.id < b.id) i r.issues }

/-! ## Deletion -/

def deleteUser (r : Rows) (id : UserId) : Rows :=
  { r with
    users := r.users.filter (·.id != id)
    memberships := r.memberships.filter (·.user != id) }

/-- The project without its team, if that is `team`. -/
def disowned (team : TeamId) (p : Project) : Project :=
  if p.team = some team then { p with team := none } else p

def deleteTeam (r : Rows) (id : TeamId) : Rows :=
  { r with
    teams := r.teams.filter (·.id != id)
    memberships := r.memberships.filter (·.team != id)
    projects := r.projects.map (disowned id) }

def deleteMembership (r : Rows) (team : TeamId) (user : UserId) : Rows :=
  { r with memberships := r.memberships.filter fun m => !(m.team == team && m.user == user) }

def deleteProject (r : Rows) (id : ProjectId) : Rows :=
  { r with
    projects := r.projects.filter (·.id != id)
    issues := r.issues.filter (·.project != id) }

def deleteIssue (r : Rows) (id : IssueId) : Rows :=
  { r with issues := r.issues.filter (·.id != id) }

end Rows

end TrackerGate
