import TrackerGate.Entity

/-!
# Request contexts and events

A context says who is asking, and which project and issue the request has been found to be
about. It starts out anonymous and is only ever added to. An event is what the tracker
reports to its log. Identifiers that belong to the event are shown as numbers; those of a
request's context may be missing and are shown as `Some(7)` or `None`.
-/

namespace TrackerGate

/-! ## Contexts -/

structure Context where
  user : Option UserId
  isSuperuser : Bool
  project : Option ProjectId
  issue : Option IssueId
  deriving DecidableEq, Repr

namespace Context

def anonymous : Context where
  user := none
  isSuperuser := false
  project := none
  issue := none

instance : Inhabited Context := ⟨anonymous⟩

def withPrincipal (ctx : Context) (user : UserId) (isSuperuser : Bool) : Context :=
  { ctx with user := some user, isSuperuser }

def withProject (ctx : Context) (project : ProjectId) : Context :=
  { ctx with project := some project }

def withIssue (ctx : Context) (issue : IssueId) : Context :=
  { ctx with issue := some issue }

/-- The context of a principal before anything is known about the request. -/
def forUser (user : UserId) (isSuperuser : Bool) : Context :=
  anonymous.withPrincipal user isSuperuser

def isAuthenticated (ctx : Context) : Bool := ctx.user.isSome

def toJson (ctx : Context) : Json :=
  .record [("user_id", .ofOption .ofInt64 ctx.user), ("is_superuser", .bool ctx.isSuperuser),
    ("project_id", .ofOption .ofInt64 ctx.project), ("issue_id", .ofOption .ofInt64 ctx.issue)]

end Context

/-! ## Events -/

/-- A stage of the gate that may turn a request away. -/
inductive Guard where
  | projectAccess
  | projectManagement
  | issueAccess
  | issueManagement
  deriving DecidableEq, Repr

def Guard.name : Guard → String
  | .projectAccess => "project_access"
  | .projectManagement => "project_management"
  | .issueAccess => "issue_access"
  | .issueManagement => "issue_management"

inductive Level where
  | error
  | warn
  | info
  | debug
  deriving DecidableEq, Repr

def Level.name : Level → String
  | .error => "ERROR"
  | .warn => "WARN"
  | .info => "INFO"
  | .debug => "DEBUG"

inductive Event where
  | authenticated (user : UserId) (isSuperuser : Bool)
  | authenticationFailed (failure : Failure)
  | notMember (user : UserId) (project : ProjectId) (team : TeamId)
  | managementDenied (user : UserId) (project : ProjectId) (team : TeamId)
      (role : Option Role) (issueWork : Bool)
  | rejected (guard : Guard) (ctx : Context) (failure : Failure)
  /-- The server failed in a guard's check. -/
  | checkFailed (guard : Guard) (ctx : Context) (failure : Failure)
  | tokensRefreshed (user : UserId)
  | teamSkipped (user : UserId) (team : TeamId) (failure : Failure)
  | snapshotAborted (user : UserId) (failure : Failure)
  deriving DecidableEq, Repr

namespace Event

def level : Event → Level
  | .authenticated .. => .debug
  | .authenticationFailed .. => .debug
  | .notMember .. => .debug
  | .managementDenied .. => .debug
  | .rejected .. => .warn
  | .checkFailed .. => .error
  | .tokensRefreshed .. => .info
  | .teamSkipped .. => .warn
  | .snapshotAborted .. => .error

def message : Event → String
  | .authenticated .. => "request authenticated"
  | .authenticationFailed .. => "authentication failed, continuing anonymously"
  | .notMember .. => "not a member of the project team"
  | .managementDenied .. => "management denied"
  | .rejected .. => "request rejected"
  | .checkFailed .. => "authorization check failed"
  | .tokensRefreshed .. => "tokens refreshed"
  | .teamSkipped .. => "skipping team in permission snapshot"
  | .snapshotAborted .. =>
      "permission snapshot aborted, issuing token with partial permissions"

/-! ## Fields -/

def shownOption {α : Type} (f : α → String) : Option α → String
  | none => "None"
  | some a => "Some(" ++ f a ++ ")"

def shownId (id : Option Int64) : Json :=
  .ofText (shownOption (fun n => Decimal.ofInt n.toInt) id)

def roleWord : Role → String
  | .member => "Member"
  | .admin => "Admin"
  | .owner => "Owner"

/-- Where a request was turned away, and what was known about it. -/
def whereabouts (guard : Guard) (ctx : Context) : List (String × Json) :=
  [("stage", .ofText guard.name), ("user_id", shownId ctx.user),
    ("project_id", shownId ctx.project), ("issue_id", shownId ctx.issue)]

/-- The fields of an entry. The entry of a failed check has an `error` field besides, which
shows the failure in its form for debugging; what that looks like is up to the parts that
failed, and the field is left out here. -/
def fields : Event → List (String × Json)
  | .authenticated user isSuperuser =>
      [("user_id", .ofInt64 user), ("is_superuser", .bool isSuperuser)]
  | .authenticationFailed failure => [("error", .ofText failure.message)]
  | .notMember user project team =>
      [("user_id", .ofInt64 user), ("project_id", .ofInt64 project), ("team_id", .ofInt64 team)]
  | .managementDenied user project team role issueWork =>
      [("user_id", .ofInt64 user), ("project_id", .ofInt64 project), ("team_id", .ofInt64 team),
        ("role", .ofText (shownOption roleWord role)), ("issue_management", .bool issueWork)]
  | .rejected guard ctx failure =>
      whereabouts guard ctx ++ [("error", .ofText failure.message)]
  | .checkFailed guard ctx _ => whereabouts guard ctx
  | .tokensRefreshed user => [("user_id", .ofInt64 user)]
  | .teamSkipped user team failure =>
      [("user_id", .ofInt64 user), ("team_id", .ofInt64 team), ("error", .ofText failure.message)]
  | .snapshotAborted user failure =>
      [("user_id", .ofInt64 user), ("error", .ofText failure.message)]

def toJson (e : Event) : Json :=
  .record ([("level", .ofText e.level.name), ("message", .ofText e.message)] ++ e.fields)

end Event

end TrackerGate
