import TrackerGate.Event
import TrackerGate.Readers

/-!
# Access checks

Who may read and who may manage. A project is loaded before anything else is
asked, so one that does not exist is missing for everybody; after that a
superuser passes every check. Reading a team's project takes membership, managing
it takes a role that manages, and work on its issues takes any role. An ownerless
project is read by everybody and managed by nobody, except that any principal may
work on its issues. An issue is checked through its project; for a superuser it is
not even loaded.

A check that turns somebody away says why (`Refusal`). The reason determines both
the failure that is answered and what the log is told.
-/

namespace TrackerGate

/-- Why a check turns the principal away. -/
inductive Refusal where
  /-- A lookup failed, or what was looked up does not exist. -/
  | lookup (failure : Failure)
  | noPrincipal
  | notMember (user : UserId) (project : ProjectId) (team : TeamId)
  | ownerless (project : ProjectId)
  | notManager (user : UserId) (project : ProjectId) (team : TeamId)
      (role : Option Role) (issueWork : Bool)
  deriving DecidableEq, Repr

namespace Refusal

def failure : Refusal → Failure
  | .lookup f => f
  | .noPrincipal => .userNotFound
  | .notMember .. => .permissionDenied
  | .ownerless .. => .permissionDenied
  | .notManager .. => .permissionDenied

def events : Refusal → List Event
  | .notMember user project team => [.notMember user project team]
  | .notManager user project team role issueWork =>
      [.managementDenied user project team role issueWork]
  | _ => []

end Refusal

abbrev Check := Except Refusal

namespace Access

/-- What a lookup answers, as a step of a check. -/
def look {α : Type} (answer : Except Failure α) : Check α := answer.mapError .lookup

/-- The principal, who must be known from here on. -/
def principal (ctx : Context) : Check UserId :=
  match ctx.user with
  | some user => .ok user
  | none => .error .noPrincipal

def principalTeams (r : Readers) (user : UserId) : Check (List TeamId) := do
  let teams ← look (r.teamsOf user)
  return teams.map (·.id)

/-! ## Reading -/

def readProject (r : Readers) (ctx : Context) (id : ProjectId) : Check Unit := do
  let project ← look (r.project id)
  if ctx.isSuperuser then return ()
  else
    match project.team with
    | none => return ()
    | some team =>
        let user ← principal ctx
        let teams ← principalTeams r user
        if teams.contains team then return () else throw (.notMember user id team)

def readIssue (r : Readers) (ctx : Context) (id : IssueId) : Check Unit := do
  if ctx.isSuperuser then return ()
  else
    let issue ← look (r.issue id)
    readProject r ctx issue.project

/-! ## Managing -/

/-- Management of a project. With `issueWork` the rule is relaxed to what work on
the project's issues takes. -/
def manageProject (r : Readers) (ctx : Context) (id : ProjectId) (issueWork : Bool) :
    Check Unit := do
  let project ← look (r.project id)
  if ctx.isSuperuser then return ()
  else
    match project.team with
    | none =>
        if issueWork then
          let _ ← principal ctx
          return ()
        else throw (.ownerless id)
    | some team =>
        let user ← principal ctx
        let members ← look (r.members team)
        let role := Membership.roleOf members user
        if role.any fun role => role.canManage || issueWork then return ()
        else throw (.notManager user id team role issueWork)

def manageIssue (r : Readers) (ctx : Context) (id : IssueId) : Check Unit := do
  if ctx.isSuperuser then return ()
  else
    let issue ← look (r.issue id)
    manageProject r ctx issue.project true

/-! ## Lists -/

/-- Those of `projects` that the principal may read, in their order. -/
def visibleProjects (r : Readers) (ctx : Context) (projects : List Project) :
    Check (List Project) := do
  if ctx.isSuperuser then return projects
  else
    let user ← principal ctx
    let teams ← principalTeams r user
    return Project.visible teams projects

end Access

end TrackerGate
