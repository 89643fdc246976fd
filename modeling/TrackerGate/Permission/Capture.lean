import TrackerGate.Event
import TrackerGate.Permission.Snapshot
import TrackerGate.Readers

/-!
# Capturing a permission snapshot

A snapshot is taken once, when an access token is issued, and it is taken as far
as the store allows: a team whose members cannot be read is skipped, and a failing
list of the user's teams, of all teams or of all projects ends the capture with
what has been gathered until then. So a capture always yields a snapshot, together
with the events that tell what is missing from it.
-/

namespace TrackerGate

/-- A snapshot and what was reported while it was taken. -/
structure Capture where
  permissions : PermissionSnapshot
  events : List Event

namespace Capture

/-! ## Superusers -/

/-- A superuser may do everything, as an owner of every team. -/
def ofSuperuser (r : Readers) (user : User) : Capture :=
  let rights : PermissionSnapshot :=
    { PermissionSnapshot.empty with
      canCreateProjects := true, canCreateTeams := true, canManageUsers := true }
  match r.projects with
  | .error f => { permissions := rights, events := [.snapshotAborted user.id f] }
  | .ok projects =>
      let rights :=
        { rights with projects := .ofList (projects.map fun p => (p.id, Capabilities.full .owner)) }
      match r.teams with
      | .error f => { permissions := rights, events := [.snapshotAborted user.id f] }
      | .ok teams =>
          { permissions :=
              { rights with teamRoles := .ofList (teams.map fun t => (t.id, Role.owner)) }
            events := [] }

/-! ## Everybody else -/

/-- The role of `user` in `team`, if the members of the team can be read and the
user is among them. -/
def roleIn? (r : Readers) (user : UserId) (team : TeamId) : Option Role :=
  match r.members team with
  | .ok members => Membership.roleOf members user
  | .error _ => none

/-- The teams of `teams` in which `user` has a known role, with that role. -/
def knownRoles (r : Readers) (user : UserId) (teams : List TeamId) : List (TeamId × Role) :=
  teams.filterMap fun team => (roleIn? r user team).map (team, ·)

/-- A report for each team whose members cannot be read. -/
def skipped (r : Readers) (user : UserId) (teams : List TeamId) : List Event :=
  teams.filterMap fun team =>
    match r.members team with
    | .ok _ => none
    | .error f => some (.teamSkipped user team f)

/-- What a role in the owning team, known or not, lets its holder do with a
project that is readable. -/
def capabilities (roles : IdMap Role) (p : Project) : Capabilities :=
  match p.team.bind roles.find? with
  | some role => .forRole role
  | none => .readOnly none

def ofMember (r : Readers) (user : User) : Capture :=
  match r.teamsOf user.id with
  | .error f => { permissions := .empty, events := [.snapshotAborted user.id f] }
  | .ok teams =>
      let teams := teams.map (·.id)
      let known := knownRoles r user.id teams
      let manages := known.any (·.2.canManage)
      let roles := IdMap.ofList known
      let rights : PermissionSnapshot :=
        { PermissionSnapshot.empty with
          teamRoles := roles, canCreateProjects := manages, canCreateTeams := manages }
      let reports := skipped r user.id teams
      match r.projects with
      | .error f => { permissions := rights, events := reports ++ [.snapshotAborted user.id f] }
      | .ok projects =>
          let entries := (Project.visible teams projects).map fun p => (p.id, capabilities roles p)
          { permissions := { rights with projects := .ofList entries }, events := reports }

end Capture

def Readers.capture (r : Readers) (user : User) : Capture :=
  if user.isSuperuser then Capture.ofSuperuser r user else Capture.ofMember r user

end TrackerGate
