import TrackerGate.Access
import TrackerGate.Http.Message
import TrackerGate.ResourcePath
import TrackerGate.Token.Verification

/-!
# Stages of the gate

Before a request reaches its handler it passes stages, each of which may add to the
request's context. The first finds out who is asking; it never turns anybody away,
and a token that is no good leaves the request anonymous. The others are guards: for
the project and for the issue that the path names there is one that asks for access
and one that asks for management. A guard that has nothing to check lets the request
pass; one that refuses ends it, with a report to the log.
-/

namespace TrackerGate

/-- What the stages depend on besides the request. -/
structure Gate where
  settings : TokenSettings
  readers : Readers
  /-- Seconds since the epoch. -/
  now : Nat

/-- A request that was turned away: by which guard, with what context, and why. -/
structure Rejection where
  guard : Guard
  ctx : Context
  failure : Failure
  deriving DecidableEq, Repr

namespace Rejection

/-- The report of a rejection. The server's own failures are errors. -/
def event (r : Rejection) : Event :=
  if r.failure.isServerError then .checkFailed r.guard r.ctx r.failure
  else .rejected r.guard r.ctx r.failure

def response (r : Rejection) : Response := .ofFailure r.failure

end Rejection

/-- How a request fares at one or more stages: what was reported, and the context
that it goes on with. -/
structure Passage where
  events : List Event
  result : Except Rejection Context

namespace Passage

def unchanged (ctx : Context) : Passage := ⟨[], .ok ctx⟩

end Passage

/-! ## Authentication

A request carries its token in the first `authorization` header: the word `bearer` in
any case, a space, and the token, with blanks around each of them if need be. Any
other value of that header, and one that is not visible text, is as good as none. -/

namespace Bearer

/-- What stands before and behind the first space. -/
def cutAtSpace (cs : List Char) : Option (List Char × List Char) :=
  match cs.dropWhile (· != ' ') with
  | [] => none
  | _ :: rest => some (cs.takeWhile (· != ' '), rest)

def ofChars? (cs : List Char) : Option Token :=
  match cutAtSpace (Text.trimChars cs) with
  | none => none
  | some (scheme, rest) =>
      let token := Text.trimChars rest
      if scheme.map Char.toLower = "bearer".toList && !token.isEmpty then
        some (Octets.ofText (String.ofList token))
      else none

def token? (headers : List Header) : Option Token :=
  (Header.text? headers "authorization").bind ofChars?

end Bearer

namespace Gate

/-- The user whom a token stands for, as the store has that user now. -/
def principal (g : Gate) (token : Token) : Except Failure User :=
  match Token.verify g.settings g.now .access token with
  | .ok claims => g.readers.user claims.subject
  | .error fault => .error fault.failure

def authenticate (g : Gate) (request : Request) (ctx : Context) : Passage :=
  match Bearer.token? request.headers with
  | none => .unchanged ctx
  | some token =>
      match g.principal token with
      | .ok user =>
          ⟨[.authenticated user.id user.isSuperuser],
            .ok (ctx.withPrincipal user.id user.isSuperuser)⟩
      | .error f => ⟨[.authenticationFailed f], .ok ctx⟩

end Gate

/-! ## Guards -/

namespace Guard

/-- The kind of resource that is guarded. -/
def marker : Guard → Marker
  | .projectAccess | .projectManagement => .projects
  | .issueAccess | .issueManagement => .issues

def isManagement : Guard → Bool
  | .projectAccess | .issueAccess => false
  | .projectManagement | .issueManagement => true

/-- Whether the guard has no interest in the request. Management is not asked for by
a request that only reads, and not on a project's statistics. -/
def isWaived (guard : Guard) (method : Method) (path : ResourcePath) : Bool :=
  guard.isManagement && (method.isReadOnly || (guard = .projectManagement && path.isProjectStats))

def target (guard : Guard) (method : Method) (path : ResourcePath) : Except Failure Target :=
  if guard.isWaived method path then .ok .bypass else path.target guard.marker

/-- The context of a request that is about the resource `id`. -/
def mark (guard : Guard) (ctx : Context) (id : Int64) : Context :=
  match guard.marker with
  | .projects => ctx.withProject id
  | .issues => ctx.withIssue id

def check (guard : Guard) (r : Readers) (path : ResourcePath) (ctx : Context) (id : Int64) :
    Check Unit :=
  match guard with
  | .projectAccess => Access.readProject r ctx id
  | .projectManagement => Access.manageProject r ctx id path.isIssueManagement
  | .issueAccess => Access.readIssue r ctx id
  | .issueManagement => Access.manageIssue r ctx id

/-- The request is turned away, after the reports `events`. -/
def reject (guard : Guard) (events : List Event) (ctx : Context) (failure : Failure) : Passage :=
  let rejection : Rejection := { guard, ctx, failure }
  ⟨events ++ [rejection.event], .error rejection⟩

def pass (guard : Guard) (r : Readers) (method : Method) (path : ResourcePath) (ctx : Context) :
    Passage :=
  match guard.target method path with
  | .error f => guard.reject [] ctx f
  | .ok .bypass => .unchanged ctx
  | .ok (.id id) =>
      match guard.check r path ctx id with
      | .ok () => .unchanged (guard.mark ctx id)
      | .error refusal => guard.reject refusal.events (guard.mark ctx id) refusal.failure

end Guard

/-! ## Stages -/

inductive Stage where
  | authenticate
  | guarded (guard : Guard)
  deriving DecidableEq, Repr

namespace Stage

def name : Stage → String
  | .authenticate => "authenticate"
  | .guarded guard => guard.name

/-- All stages, in the order in which a request passes them. -/
def all : List Stage :=
  [.authenticate, .guarded .projectAccess, .guarded .projectManagement, .guarded .issueAccess,
    .guarded .issueManagement]

def ofName? (s : String) : Option Stage := all.find? (·.name == s)

def pass (stage : Stage) (g : Gate) (request : Request) (ctx : Context) : Passage :=
  match stage with
  | .authenticate => g.authenticate request ctx
  | .guarded guard =>
      guard.pass g.readers request.method (ResourcePath.ofText request.path) ctx

end Stage

namespace Gate

/-- A request passes stages one after the other, until one turns it away. -/
def pass (g : Gate) (request : Request) : List Stage → Context → Passage
  | [], ctx => .unchanged ctx
  | stage :: stages, ctx =>
      let first := stage.pass g request ctx
      match first.result with
      | .error _ => first
      | .ok ctx =>
          let rest := g.pass request stages ctx
          ⟨first.events ++ rest.events, rest.result⟩

/-- The way through all stages, from a context that knows nothing. -/
def run (g : Gate) (request : Request) : Passage := g.pass request Stage.all .anonymous

end Gate

end TrackerGate
