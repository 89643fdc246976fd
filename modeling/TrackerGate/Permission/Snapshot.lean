import TrackerGate.Entity
import TrackerGate.IdMap
import TrackerGate.Json.Reader

/-!
# Permission snapshots

What a user was allowed to do at the moment an access token was issued: the
capabilities on each readable project, the role in each team, and three rights
that belong to no project. A snapshot is never brought up to date; it lives as
long as the token that carries it.

What a user may do with one project comes in only two shapes: everything
(`Capabilities.full`), for a role that manages, and reading alone
(`Capabilities.readOnly`), for a role that does not or for no role at all.

In JSON the identifiers are member names. Such a name is read only as a plain
whole number: no escapes, no leading zeros, no plus sign. Of two members with one
identifier the later counts. Every field may be missing and is then empty or
false, so that leaving a field out never grants anything.
-/

namespace TrackerGate

/-! ## Capabilities on a project -/

structure Capabilities where
  canRead : Bool
  canWrite : Bool
  canDelete : Bool
  canManage : Bool
  teamRole : Option Role
  deriving DecidableEq, Repr

namespace Capabilities

def full (role : Role) : Capabilities where
  canRead := true
  canWrite := true
  canDelete := true
  canManage := true
  teamRole := some role

def readOnly (role : Option Role) : Capabilities where
  canRead := true
  canWrite := false
  canDelete := false
  canManage := false
  teamRole := role

def forRole (role : Role) : Capabilities :=
  if role.canManage then full role else readOnly (some role)

/-! In JSON the role is left out when there is none, and may be missing when read. -/

def fields : List String := ["can_read", "can_write", "can_delete", "can_manage", "team_role"]

def toJson (c : Capabilities) : Json :=
  .record ([("can_read", .bool c.canRead), ("can_write", .bool c.canWrite),
    ("can_delete", .bool c.canDelete), ("can_manage", .bool c.canManage)]
    ++ (c.teamRole.map fun role => ("team_role", role.toJson)).toList)

def ofJson? (j : Json) : Option Capabilities := do
  let slot ← j.record? fields
  let canRead ← (slot "can_read").required Json.bool?
  let canWrite ← (slot "can_write").required Json.bool?
  let canDelete ← (slot "can_delete").required Json.bool?
  let canManage ← (slot "can_manage").required Json.bool?
  let teamRole ← (slot "team_role").optional Role.ofJson?
  return { canRead, canWrite, canDelete, canManage, teamRole }

end Capabilities

/-! ## Snapshots -/

structure PermissionSnapshot where
  projects : IdMap Capabilities
  teamRoles : IdMap Role
  canCreateProjects : Bool
  canCreateTeams : Bool
  canManageUsers : Bool
  deriving DecidableEq, Repr

namespace PermissionSnapshot

def empty : PermissionSnapshot where
  projects := .empty
  teamRoles := .empty
  canCreateProjects := false
  canCreateTeams := false
  canManageUsers := false

instance : Inhabited PermissionSnapshot := ⟨empty⟩

/-! ## Maps in JSON -/

def keyLiteral (k : Int64) : Json.Literal := (Json.printInt k.toInt).map .plain

def key? (name : Json.Literal) : Option Int64 := do
  let octets ← name.verbatim?
  match Json.number octets with
  | some (n, []) => n.int64?
  | _ => none

def mapToJson {α : Type} (write : α → Json) (m : IdMap α) : Json :=
  .obj (m.entries.map fun e => (keyLiteral e.1, write e.2))

def mapOfJson? {α : Type} (read : Json → Option α) : Json → Option (IdMap α)
  | .obj members =>
      (members.mapM fun (name, value) => do
        let k ← key? name
        let v ← read value
        return (k, v)).map IdMap.ofList
  | _ => none

/-! ## Snapshots in JSON -/

def fields : List String :=
  ["project_permissions", "team_roles", "can_create_projects", "can_create_teams",
    "can_manage_users"]

def toJson (s : PermissionSnapshot) : Json :=
  .record [("project_permissions", mapToJson Capabilities.toJson s.projects),
    ("team_roles", mapToJson Role.toJson s.teamRoles),
    ("can_create_projects", .bool s.canCreateProjects),
    ("can_create_teams", .bool s.canCreateTeams),
    ("can_manage_users", .bool s.canManageUsers)]

def ofJson? (j : Json) : Option PermissionSnapshot := do
  let slot ← j.record? fields
  let projects ← (slot "project_permissions").defaulted .empty (mapOfJson? Capabilities.ofJson?)
  let teamRoles ← (slot "team_roles").defaulted .empty (mapOfJson? Role.ofJson?)
  let canCreateProjects ← (slot "can_create_projects").defaulted false Json.bool?
  let canCreateTeams ← (slot "can_create_teams").defaulted false Json.bool?
  let canManageUsers ← (slot "can_manage_users").defaulted false Json.bool?
  return { projects, teamRoles, canCreateProjects, canCreateTeams, canManageUsers }

end PermissionSnapshot

end TrackerGate
