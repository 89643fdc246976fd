import TrackerGate.Database.Basic

/-!
# Revisions and runs

A statement changes a row in one of a few ways. A revision gives new contents to any
rows of one table in one go, their keys included. The rows are revised one after the
other, and a key or a name must be free at the moment it is given. References are looked
at when all rows are done, so on the way a row may refer to nothing; if one is left
without what it refers to, the revision is refused as a whole.

Whatever becomes of the rows of a database is a run of changes, each of them a statement
or a revision. A change that is refused leaves the database as it is.
-/

namespace TrackerGate

/-- New contents for rows of one table, each given by the key that it has until then, in
the order in which they are revised. Contents in which a value is missing are `none`. -/
inductive Revision where
  | users (rows : List (UserId × Option User))
  | teams (rows : List (TeamId × Option Team))
  | memberships (rows : List ((TeamId × UserId) × Option MembershipRow))
  | projects (rows : List (ProjectId × Option Project))
  | issues (rows : List (IssueId × Option Issue))
  deriving DecidableEq, Repr

def Revision.table : Revision → Table
  | .users _ => .users
  | .teams _ => .teams
  | .memberships _ => .memberships
  | .projects _ => .projects
  | .issues _ => .issues

namespace Rows

/-! ## Rows of one table -/

/-- How a row of a table is found and taken out by its key, what the others ask of new
contents, and how these are put in. -/
structure Editing (κ α : Type) where
  has : Rows → κ → Bool
  without : Rows → κ → Rows
  accepts : Rows → α → Except Violation Unit
  insert : Rows → α → Rows

namespace Editing

def users : Editing UserId User where
  has := hasUser
  without r id := { r with users := r.users.filter (·.id != id) }
  accepts r u := ensure .unique (!r.hasUser u.id && !r.users.any (·.username == u.username))
  insert := insertUser

def teams : Editing TeamId Team where
  has := hasTeam
  without r id := { r with teams := r.teams.filter (·.id != id) }
  accepts r t := ensure .unique (!r.hasTeam t.id)
  insert := insertTeam

def memberships (checksRoles : Bool) : Editing (TeamId × UserId) MembershipRow where
  has r key := r.hasMembership key.1 key.2
  without r key := deleteMembership r key.1 key.2
  accepts r m := do
    ensure .check (isRole checksRoles m.role)
    ensure .unique (!r.hasMembership m.team m.user)
  insert := insertMembership

def projects : Editing ProjectId Project where
  has := hasProject
  without r id := { r with projects := r.projects.filter (·.id != id) }
  accepts r p := ensure .unique (!r.hasProject p.id)
  insert := insertProject

def issues : Editing IssueId Issue where
  has := hasIssue
  without r id := { r with issues := r.issues.filter (·.id != id) }
  accepts r i := ensure .unique (!r.hasIssue i.id)
  insert := insertIssue

/-- The row of a key with new contents, if there is such a row. -/
def reviseRow {κ α : Type} (table : Editing κ α) (r : Rows) (change : κ × Option α) :
    Except Violation Rows :=
  if table.has r change.1 then do
    let contents ← given change.2
    let others := table.without r change.1
    table.accepts others contents
    return table.insert others contents
  else return r

def reviseRows {κ α : Type} (table : Editing κ α) (r : Rows) (changes : List (κ × Option α)) :
    Except Violation Rows :=
  changes.foldlM table.reviseRow r

end Editing

/-! ## Revisions -/

/-- Whatever a row refers to is there. -/
def keepsReferences (r : Rows) : Bool :=
  r.memberships.all (fun m => r.hasTeam m.team && r.hasUser m.user)
    && r.projects.all (fun p => r.isOwner p.team) && r.issues.all fun i => r.hasProject i.project

/-- The rows with their new contents, before anybody looks at references. -/
def reviseTable (checksRoles : Bool) (r : Rows) : Revision → Except Violation Rows
  | .users changes => Editing.users.reviseRows r changes
  | .teams changes => Editing.teams.reviseRows r changes
  | .memberships changes => (Editing.memberships checksRoles).reviseRows r changes
  | .projects changes => Editing.projects.reviseRows r changes
  | .issues changes => Editing.issues.reviseRows r changes

def revise (checksRoles : Bool) (r : Rows) (v : Revision) : Except Violation Rows := do
  let r ← reviseTable checksRoles r v
  ensure .foreignKey r.keepsReferences
  return r

end Rows

/-! ## Runs -/

inductive Change where
  | statement (s : Statement)
  | revision (v : Revision)
  deriving DecidableEq, Repr

namespace Database

/-- A revision may touch any column, and so it needs what a change of references does. -/
def revise (db : Database) (v : Revision) : Except Violation Database :=
  if db.canReplace v.table then
    (db.rows.revise db.checksRoles v).map fun rows => { db with rows }
  else .error .other

def change (db : Database) : Change → Except Violation Database
  | .statement s => db.execute s
  | .revision v => db.revise v

/-- The database after a change was asked of it. -/
def after (db : Database) (c : Change) : Database :=
  match db.change c with
  | .ok next => next
  | .error _ => db

def run (db : Database) (changes : List Change) : Database := changes.foldl after db

end Database

end TrackerGate
