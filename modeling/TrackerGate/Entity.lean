import TrackerGate.Json.Record
import TrackerGate.Role

/-!
# The tracker's records

Users work in teams, a team owns projects, a project has issues. A project
without a team is *ownerless*: everybody may read it, and it is never managed
except for work on its issues. Identifiers are signed 64-bit numbers.
-/

namespace TrackerGate

abbrev UserId := Int64
abbrev TeamId := Int64
abbrev ProjectId := Int64
abbrev IssueId := Int64

structure User where
  id : UserId
  username : String
  isSuperuser : Bool
  deriving DecidableEq, Repr

structure Team where
  id : TeamId
  name : String
  deriving DecidableEq, Repr

structure Membership where
  team : TeamId
  user : UserId
  role : Role
  deriving DecidableEq, Repr

structure Project where
  id : ProjectId
  name : String
  team : Option TeamId
  deriving DecidableEq, Repr

structure Issue where
  id : IssueId
  project : ProjectId
  title : String
  deriving DecidableEq, Repr

/-! ## Users -/

namespace User

def toJson (u : User) : Json :=
  .record [("id", .ofInt64 u.id), ("username", .ofText u.username),
    ("is_superuser", .bool u.isSuperuser)]

def ofJson? (j : Json) : Option User := do
  let slot ← j.record? ["id", "username", "is_superuser"]
  let id ← (slot "id").required Json.int64?
  let username ← (slot "username").required Json.text?
  let isSuperuser ← (slot "is_superuser").required Json.bool?
  return { id, username, isSuperuser }

end User

/-! ## Teams -/

namespace Team

def toJson (t : Team) : Json :=
  .record [("id", .ofInt64 t.id), ("name", .ofText t.name)]

def ofJson? (j : Json) : Option Team := do
  let slot ← j.record? ["id", "name"]
  let id ← (slot "id").required Json.int64?
  let name ← (slot "name").required Json.text?
  return { id, name }

end Team

namespace Membership

/-- The role that the first membership of `user` names, if any does. -/
def roleOf (members : List Membership) (user : UserId) : Option Role :=
  (members.find? (·.user == user)).map (·.role)

def toJson (m : Membership) : Json :=
  .record [("team_id", .ofInt64 m.team), ("user_id", .ofInt64 m.user), ("role", m.role.toJson)]

def ofJson? (j : Json) : Option Membership := do
  let slot ← j.record? ["team_id", "user_id", "role"]
  let team ← (slot "team_id").required Json.int64?
  let user ← (slot "user_id").required Json.int64?
  let role ← (slot "role").required Role.ofJson?
  return { team, user, role }

end Membership

/-- A membership as it is stored, its role still a text. -/
structure MembershipRow where
  team : TeamId
  user : UserId
  role : String
  deriving DecidableEq, Repr

/-- The membership that a stored row stands for. -/
def MembershipRow.read (row : MembershipRow) : Except Failure Membership :=
  (Role.parse row.role).map fun role => { team := row.team, user := row.user, role }

/-! ## Projects and issues -/

namespace Project

/-- Whether a member of the teams `teams` may read the project. -/
def isVisibleTo (teams : List TeamId) (p : Project) : Bool :=
  match p.team with
  | none => true
  | some team => teams.contains team

/-- The projects that a member of `teams` may read, in their order. -/
def visible (teams : List TeamId) (projects : List Project) : List Project :=
  projects.filter (isVisibleTo teams)

def toJson (p : Project) : Json :=
  .record [("id", .ofInt64 p.id), ("name", .ofText p.name),
    ("team_id", .ofOption .ofInt64 p.team)]

def ofJson? (j : Json) : Option Project := do
  let slot ← j.record? ["id", "name", "team_id"]
  let id ← (slot "id").required Json.int64?
  let name ← (slot "name").required Json.text?
  let team ← (slot "team_id").nullable Json.int64?
  return { id, name, team }

end Project

namespace Issue

def toJson (i : Issue) : Json :=
  .record [("id", .ofInt64 i.id), ("project_id", .ofInt64 i.project), ("title", .ofText i.title)]

def ofJson? (j : Json) : Option Issue := do
  let slot ← j.record? ["id", "project_id", "title"]
  let id ← (slot "id").required Json.int64?
  let project ← (slot "project_id").required Json.int64?
  let title ← (slot "title").required Json.text?
  return { id, project, title }

end Issue

end TrackerGate
