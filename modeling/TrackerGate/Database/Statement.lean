import TrackerGate.Database.Rows

/-!
# Statements

The changes that can be asked of the tables, with their values bound as they are: a
value may be missing (`none`), and then it matches no row. A change that would break
a promise of the tables is refused as a whole. Of several violations the first
counts: a missing value, an unknown role, a key or name that is taken, a reference to
nothing. A change of a row that does not exist is no violation and changes nothing.
-/

namespace TrackerGate

inductive Violation where
  | notNull
  | check
  | unique
  | foreignKey
  /-- The tables cannot be reached, or one that is needed is gone. -/
  | other
  deriving DecidableEq, Repr

namespace Violation

def name : Violation → String
  | .notNull => "not_null"
  | .check => "check"
  | .unique => "unique"
  | .foreignKey => "foreign_key"
  | .other => "other"

end Violation

inductive Statement where
  | insertUser (id : Option UserId) (username : Option String) (isSuperuser : Option Bool)
  | insertTeam (id : Option TeamId) (name : Option String)
  | insertMembership (team : Option TeamId) (user : Option UserId) (role : Option String)
  | insertProject (id : Option ProjectId) (name : Option String) (team : Option TeamId)
  | insertIssue (id : Option IssueId) (project : Option ProjectId) (title : Option String)
  | setUsername (id : Option UserId) (username : Option String)
  | setSuperuser (id : Option UserId) (isSuperuser : Option Bool)
  | setRole (team : Option TeamId) (user : Option UserId) (role : Option String)
  | setTeam (project : Option ProjectId) (team : Option TeamId)
  | moveIssue (issue : Option IssueId) (project : Option ProjectId)
  | deleteUser (id : Option UserId)
  | deleteTeam (id : Option TeamId)
  | deleteMembership (team : Option TeamId) (user : Option UserId)
  | deleteProject (id : Option ProjectId)
  | deleteIssue (id : Option IssueId)
  deriving DecidableEq, Repr

namespace Rows

/-! ## Conditions -/

def given {α : Type} : Option α → Except Violation α
  | some a => .ok a
  | none => .error .notNull

def ensure (v : Violation) (holds : Bool) : Except Violation Unit :=
  if holds then .ok () else .error v

/-- The least positive key that is not in use; if there is none, the greatest key, under
which an insertion is refused. -/
def leastFree (keys : List Int64) : Int64 :=
  let candidates := (List.range (keys.length + 1)).map fun n => Int64.ofNat (n + 1)
  (candidates.find? fun id => 0 < id && !keys.contains id).getD Int64.maxValue

/-- A key that is bound, or the one after the greatest in use. Nothing comes after the
greatest word there is: then it is a positive key that is not in use. The database may
pick any of them, and here it is the least. -/
def keyFor (bound : Option Int64) (keys : List Int64) : Int64 :=
  match bound with
  | some id => id
  | none =>
      match keys with
      | [] => 1
      | k :: ks =>
          let greatest := ks.foldl (fun a b => if a < b then b else a) k
          if greatest = Int64.maxValue then leastFree keys else greatest + 1

/-- A role that may be stored. -/
def isRole (checksRoles : Bool) (role : String) : Bool :=
  !checksRoles || (Role.ofName? role).isSome

/-- A team that a project may name. -/
def isOwner (r : Rows) : Option TeamId → Bool
  | some team => r.hasTeam team
  | none => true

/-! ## Insertions -/

def addUser (r : Rows) (id : Option UserId) (username : Option String)
    (isSuperuser : Option Bool) : Except Violation Rows := do
  let username ← given username
  let isSuperuser ← given isSuperuser
  let id := keyFor id (r.users.map (·.id))
  ensure .unique (!r.hasUser id && !r.users.any (·.username == username))
  return r.insertUser { id, username, isSuperuser }

def addTeam (r : Rows) (id : Option TeamId) (name : Option String) : Except Violation Rows := do
  let name ← given name
  let id := keyFor id (r.teams.map (·.id))
  ensure .unique (!r.hasTeam id)
  return r.insertTeam { id, name }

def addMembership (checksRoles : Bool) (r : Rows) (team : Option TeamId) (user : Option UserId)
    (role : Option String) : Except Violation Rows := do
  let team ← given team
  let user ← given user
  let role ← given role
  ensure .check (isRole checksRoles role)
  ensure .unique (!r.hasMembership team user)
  ensure .foreignKey (r.hasTeam team && r.hasUser user)
  return r.insertMembership { team, user, role }

def addProject (r : Rows) (id : Option ProjectId) (name : Option String)
    (team : Option TeamId) : Except Violation Rows := do
  let name ← given name
  let id := keyFor id (r.projects.map (·.id))
  ensure .unique (!r.hasProject id)
  ensure .foreignKey (r.isOwner team)
  return r.insertProject { id, name, team }

def addIssue (r : Rows) (id : Option IssueId) (project : Option ProjectId)
    (title : Option String) : Except Violation Rows := do
  let project ← given project
  let title ← given title
  let id := keyFor id (r.issues.map (·.id))
  ensure .unique (!r.hasIssue id)
  ensure .foreignKey (r.hasProject project)
  return r.insertIssue { id, project, title }

/-! ## Updates -/

/-- `l` with `f` applied to the items that satisfy `p`. -/
def updateWhere {α : Type} (p : α → Bool) (f : α → α) (l : List α) : List α :=
  l.map fun a => if p a then f a else a

def setUsername (r : Rows) (id : Option UserId) (username : Option String) :
    Except Violation Rows :=
  let matched (u : User) : Bool := some u.id == id
  if r.users.any matched then do
    let username ← given username
    ensure .unique (!r.users.any fun u => !matched u && u.username == username)
    return { r with users := updateWhere matched (fun u => { u with username }) r.users }
  else return r

def setSuperuser (r : Rows) (id : Option UserId) (isSuperuser : Option Bool) :
    Except Violation Rows :=
  let matched (u : User) : Bool := some u.id == id
  if r.users.any matched then do
    let isSuperuser ← given isSuperuser
    return { r with users := updateWhere matched (fun u => { u with isSuperuser }) r.users }
  else return r

def setRole (checksRoles : Bool) (r : Rows) (team : Option TeamId) (user : Option UserId)
    (role : Option String) : Except Violation Rows :=
  let matched (m : MembershipRow) : Bool := some m.team == team && some m.user == user
  if r.memberships.any matched then do
    let role ← given role
    ensure .check (isRole checksRoles role)
    return { r with memberships := updateWhere matched (fun m => { m with role }) r.memberships }
  else return r

def setTeam (r : Rows) (project : Option ProjectId) (team : Option TeamId) :
    Except Violation Rows :=
  let matched (p : Project) : Bool := some p.id == project
  if r.projects.any matched then do
    ensure .foreignKey (r.isOwner team)
    return { r with projects := updateWhere matched (fun p => { p with team }) r.projects }
  else return r

def moveIssue (r : Rows) (issue : Option IssueId) (project : Option ProjectId) :
    Except Violation Rows :=
  let matched (i : Issue) : Bool := some i.id == issue
  if r.issues.any matched then do
    let project ← given project
    ensure .foreignKey (r.hasProject project)
    return { r with issues := updateWhere matched (fun i => { i with project }) r.issues }
  else return r

/-! ## All statements -/

/-- `r` after the deletion of a row; a key that is missing names none. -/
def deleting {κ : Type} (delete : Rows → κ → Rows) (r : Rows) : Option κ → Rows
  | some key => delete r key
  | none => r

/-- The rows after a statement. Whether unknown roles are refused is up to the
table. -/
def execute (checksRoles : Bool) (r : Rows) : Statement → Except Violation Rows
  | .insertUser id username isSuperuser => r.addUser id username isSuperuser
  | .insertTeam id name => r.addTeam id name
  | .insertMembership team user role => addMembership checksRoles r team user role
  | .insertProject id name team => r.addProject id name team
  | .insertIssue id project title => r.addIssue id project title
  | .setUsername id username => r.setUsername id username
  | .setSuperuser id isSuperuser => r.setSuperuser id isSuperuser
  | .setRole team user role => setRole checksRoles r team user role
  | .setTeam project team => r.setTeam project team
  | .moveIssue issue project => r.moveIssue issue project
  | .deleteUser id => .ok (deleting deleteUser r id)
  | .deleteTeam id => .ok (deleting deleteTeam r id)
  | .deleteMembership team user =>
      .ok (deleting (fun r key => deleteMembership r key.1 key.2) r
        (team.bind fun t => user.map (t, ·)))
  | .deleteProject id => .ok (deleting deleteProject r id)
  | .deleteIssue id => .ok (deleting deleteIssue r id)

end Rows

end TrackerGate
