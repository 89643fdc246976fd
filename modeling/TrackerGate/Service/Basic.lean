import TrackerGate.Gate.Stage
import TrackerGate.Service.RefreshBody

/-!
# The service

Three routes are built in: the health of the database, the session of the principal,
and the exchange of a refresh token for a new pair of tokens. Every other path
belongs to the handler that the service is given, if it is given one. Routes and
handler stand behind the gate, and only a request that passes all of its stages gets
to them; a request with `OPTIONS` is answered in front of the gate.
-/

namespace TrackerGate

/-- A response, and what was reported until it was made. -/
structure Answer where
  response : Response
  events : List Event

structure Service where
  gate : Gate
  /-- What is wrong with the database, if anything is. -/
  databaseFault : Option String
  /-- What answers the requests that no route is there for. -/
  handler : Option (Context → Response)

/-- The answer to a request that first has to pass some stages. -/
def Gate.answer (g : Gate) (stages : List Stage) (serve : Context → Answer) (request : Request) :
    Answer :=
  let passage := g.pass request stages .anonymous
  match passage.result with
  | .error rejection => ⟨rejection.response.withLength, passage.events⟩
  | .ok ctx =>
      let answer := serve ctx
      { answer with events := passage.events ++ answer.events }

/-! ## Routes -/

inductive Route where
  | health
  | session
  | refresh
  deriving DecidableEq, Repr

namespace Route

def all : List Route := [.health, .session, .refresh]

def path : Route → String
  | .health => "/api/health"
  | .session => "/api/auth/session"
  | .refresh => "/api/auth/refresh"

/-- The route with exactly this path. -/
def ofPath? (path : String) : Option Route := all.find? (·.path == path)

/-- The methods of the route, as a refused request is told them. -/
def allow : Route → String
  | .health => "GET,HEAD"
  | .session => "GET,HEAD"
  | .refresh => "POST"

def admits : Route → Method → Bool
  | .health, m => m = .get || m = .head
  | .session, m => m = .get || m = .head
  | .refresh, m => m = .post

end Route

namespace Service

def respond (result : Except Failure Json) : Response :=
  match result with
  | .ok j => .json 200 j
  | .error f => .ofFailure f

def health (s : Service) : Json :=
  .record [("status", .ofText "ok"), ("db_ok", .bool s.databaseFault.isNone),
    ("db_error", .ofOption .ofText s.databaseFault)]

/-- The context and the principal as the store has that user now. -/
def session (s : Service) (ctx : Context) : Except Failure Json := do
  match ctx.user with
  | none => throw .userNotFound
  | some id =>
      let user ← s.gate.readers.user id
      return .record [("context", ctx.toJson), ("user", user.toJson)]

/-! ## Refreshing -/

/-- The user whom a refresh token was issued to, as the store has that user now. -/
def refresher (s : Service) (token : Token) : Except Failure User :=
  match Token.verify s.gate.settings s.gate.now .refresh token with
  | .error fault => .error fault.failure
  | .ok claims =>
      match s.gate.readers.user claims.subject with
      | .ok user => .ok user
      | .error f => .error (if f.isNotFound then .unauthorized "user no longer exists" else f)

def newPair (s : Service) (user : User) : Except Failure (Token × Token) × List Event :=
  let access := Issuance.issue s.gate.settings s.gate.readers s.gate.now user .access
  let refresh := Issuance.issue s.gate.settings s.gate.readers s.gate.now user .refresh
  match access.token, refresh.token with
  | .error f, _ => (.error f, access.events)
  | .ok _, .error f => (.error f, access.events)
  | .ok a, .ok r => (.ok (a, r), access.events ++ [.tokensRefreshed user.id])

/-- A pair of tokens, the access token first. -/
def pairJson (pair : Token × Token) : Json :=
  .record [("access_token", .ofText pair.1.shown), ("refresh_token", .ofText pair.2.shown)]

def refresh (s : Service) (token : Token) : Answer :=
  match s.refresher token with
  | .error f => ⟨.ofFailure f, []⟩
  | .ok user =>
      let (pair, events) := s.newPair user
      ⟨respond (pair.map pairJson), events⟩

def refreshRequest (s : Service) (request : Request) : Answer :=
  match RefreshBody.ofRequest request with
  | .error f => ⟨f.response, []⟩
  | .ok token => s.refresh (Octets.ofText token)

/-! ## Behind the gate -/

/-- What a route answers to a method that it admits. -/
def routeAnswer (s : Service) (request : Request) (ctx : Context) : Route → Answer
  | .health => ⟨.json 200 s.health, []⟩
  | .session => ⟨respond (s.session ctx), []⟩
  | .refresh => s.refreshRequest request

/-- The response as it is sent. To `HEAD` a route tells the length of a body that it
leaves out. -/
def sent (method : Method) (r : Response) : Response :=
  if method = .head then r.withLength.withoutBody else r.withLength

def handle (s : Service) (request : Request) (ctx : Context) : Answer :=
  match Route.ofPath? request.path with
  | some route =>
      if route.admits request.method then
        let answer := s.routeAnswer request ctx route
        { answer with response := sent request.method answer.response }
      else ⟨((Response.empty 405).withHeader "allow" route.allow).withLength, []⟩
  | none =>
      match s.handler with
      | some handler => ⟨(handler ctx).withLength, []⟩
      | none => ⟨(Response.empty 404).withLength, []⟩

/-! ## Cross-origin requests -/

/-- Any site may ask, and answers depend on what it says about itself. -/
def crossOrigin (r : Response) : Response :=
  (r.withHeader "access-control-allow-origin" "*").withHeader "vary"
    "origin, access-control-request-method, access-control-request-headers"

def preflight (path : String) : Response :=
  let r := (Response.empty 200).withLength
  let r := (crossOrigin r).withHeader "access-control-allow-headers" "*"
  let r := r.withHeader "access-control-allow-methods" "GET,POST,PUT,PATCH,DELETE,OPTIONS"
  match Route.ofPath? path with
  | some route => r.withHeader "allow" route.allow
  | none => r

/-! ## The whole service -/

def answer (s : Service) (request : Request) : Answer :=
  if request.method = .options then ⟨preflight request.path, []⟩
  else
    let answer := s.gate.answer Stage.all (s.handle request) request
    { answer with response := crossOrigin answer.response }

/-- A handler that answers with the context it is given. -/
def echo (ctx : Context) : Response := .json 200 ctx.toJson

/-- The answer of a handler that stands behind some stages and nothing else. -/
def bare (g : Gate) (stages : List Stage) (handler : Context → Response) (request : Request) :
    Answer :=
  g.answer stages (fun ctx => ⟨(handler ctx).withLength, []⟩) request

end Service

end TrackerGate
