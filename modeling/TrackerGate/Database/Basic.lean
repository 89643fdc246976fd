import TrackerGate.Database.Statement
import TrackerGate.Readers

/-!
# The database

Rows, and what may have become of the tables that hold them: a table can be dropped,
the membership table can be made anew without the rule on its roles, and the whole
database can be closed. A statement needs its table and every table that its
references have to be compared with, so it fails when one of them is gone. A reader
needs the tables that it reads.
-/

namespace TrackerGate

inductive Table where
  | users
  | teams
  | memberships
  | projects
  | issues
  deriving DecidableEq, Repr

namespace Table

def name : Table → String
  | .users => "users"
  | .teams => "teams"
  | .memberships => "team_members"
  | .projects => "projects"
  | .issues => "issues"

/-- The tables in the order of their names. -/
def all : List Table := [.issues, .projects, .memberships, .teams, .users]

/-- The table of a name, in which case does not count. -/
def ofName? (s : String) : Option Table := all.find? (·.name == Text.lowerAscii s)

/-- The tables that rows of a table refer to. -/
def parents : Table → List Table
  | .users => []
  | .teams => []
  | .memberships => [.teams, .users]
  | .projects => [.teams]
  | .issues => [.projects]

/-- The tables whose rows refer to rows of a table. -/
def children : Table → List Table
  | .users => [.memberships]
  | .teams => [.memberships, .projects]
  | .memberships => []
  | .projects => [.issues]
  | .issues => []

end Table

structure Database where
  rows : Rows
  dropped : List Table
  checksRoles : Bool
  isClosed : Bool
  deriving DecidableEq, Repr

namespace Database

/-- All tables are there, and there is nothing in them. -/
def fresh : Database where
  rows := .empty
  dropped := []
  checksRoles := true
  isClosed := false

instance : Inhabited Database := ⟨fresh⟩

def has (db : Database) (t : Table) : Bool := !db.isClosed && !db.dropped.contains t

/-! ## Statements -/

/-- What changes the rows of `t` in a column that refers to another table needs. -/
def canReplace (db : Database) (t : Table) : Bool := db.has t && t.parents.all db.has

/-- The rows that refer to a row of `t` can be deleted or changed along with it. -/
def canCascade (db : Database) (t : Table) : Bool :=
  t.children.all fun u => db.dropped.contains u || u.parents.all db.has

def canDelete (db : Database) (t : Table) : Bool := db.canReplace t && db.canCascade t

def allows (db : Database) : Statement → Bool
  | .insertUser .. => db.canReplace .users
  | .insertTeam .. => db.canReplace .teams
  | .insertMembership .. => db.canReplace .memberships
  | .insertProject .. => db.canReplace .projects
  | .insertIssue .. => db.canReplace .issues
  | .setUsername .. => db.has .users
  | .setSuperuser .. => db.has .users
  | .setRole .. => db.has .memberships
  | .setTeam .. => db.canReplace .projects
  | .moveIssue .. => db.canReplace .issues
  | .deleteUser .. => db.canDelete .users
  | .deleteTeam .. => db.canDelete .teams
  | .deleteMembership .. => db.canDelete .memberships
  | .deleteProject .. => db.canDelete .projects
  | .deleteIssue .. => db.canDelete .issues

def execute (db : Database) (s : Statement) : Except Violation Database :=
  if db.allows s then (db.rows.execute db.checksRoles s).map fun rows => { db with rows }
  else .error .other

/-- The statement that deletes a row by its number; memberships have none. -/
def deletion? (t : Table) (id : Option Int64) : Option Statement :=
  match t with
  | .users => some (.deleteUser id)
  | .teams => some (.deleteTeam id)
  | .memberships => none
  | .projects => some (.deleteProject id)
  | .issues => some (.deleteIssue id)

def deleteFrom (db : Database) (name : String) (id : Option Int64) : Except Violation Database :=
  match (Table.ofName? name).bind (deletion? · id) with
  | some s => db.execute s
  | none => .error .other

/-! ## Tables -/

/-- The rows without those of `t` and what belongs to them. -/
def cleared (r : Rows) : Table → Rows
  | .users => { r with users := [], memberships := [] }
  | .teams =>
      { r with
        teams := [], memberships := []
        projects := r.projects.map fun p => { p with team := none } }
  | .memberships => { r with memberships := [] }
  | .projects => { r with projects := [], issues := [] }
  | .issues => { r with issues := [] }

/-- Deletes all rows of a table and then the table. -/
def drop (db : Database) (name : String) : Except Violation Database :=
  match Table.ofName? name with
  | none => .error .other
  | some t =>
      if db.has t && db.canCascade t then
        .ok { db with rows := cleared db.rows t, dropped := t :: db.dropped }
      else .error .other

/-- Makes the membership table anew: empty, and open to any role. -/
def freeRoles (db : Database) : Except Violation Database :=
  if db.has .memberships then
    .ok { db with rows := cleared db.rows .memberships, checksRoles := false }
  else .error .other

def close (db : Database) : Database := { db with isClosed := true }

/-- What is wrong with the connection, if anything is. -/
def fault? (db : Database) : Option String :=
  if db.isClosed then some "attempted to acquire a connection on a closed pool" else none

end Database

/-! ## Reading -/

namespace Rows

/-- The teams joined with their memberships, of which those of one user are kept: a team
comes once for each membership of the user in it, and the teams keep their order. -/
def teamsOf (r : Rows) (user : UserId) : List Team :=
  r.teams.flatMap fun t =>
    (r.memberships.filter fun m => m.team == t.id && m.user == user).map fun _ => t

def membersOf (r : Rows) (team : TeamId) : List MembershipRow :=
  r.memberships.filter (·.team == team)

def readers (r : Rows) : Readers where
  user id := Readers.found "user" (r.users.find? (·.id == id))
  project id := Readers.found "project" (r.projects.find? (·.id == id))
  projects := .ok r.projects
  issue id := Readers.found "issue" (r.issues.find? (·.id == id))
  teamsOf user := .ok (r.teamsOf user)
  members team := (r.membersOf team).mapM MembershipRow.read
  teams := .ok r.teams

end Rows

namespace Database

def tablesOf : Lookup → List Table
  | .user _ => [.users]
  | .project _ => [.projects]
  | .projects => [.projects]
  | .issue _ => [.issues]
  | .teamsOf _ => [.teams, .memberships]
  | .members _ => [.memberships]
  | .teams => [.teams]

/-- What the database answers: its rows, as far as the tables are there. -/
def readers (db : Database) : Readers :=
  db.rows.readers.failing fun lookup =>
    if (tablesOf lookup).all db.has then none else some .database

end Database

end TrackerGate
