import TrackerGate.Http.MediaType
import TrackerGate.Http.Message
import TrackerGate.Json.Reach
import TrackerGate.Json.Reader

/-!
# The body of a refresh request

The body is the JSON of a record with one field, `refresh_token`, in either form of a
record. It is read from left to right, and the first fault that is met is the one
that is answered: text that is no JSON is told apart from JSON that is no such record.
So a wrong value in front hides a missing brace behind it. A wrong array or object is
met at its first octet, any other wrong value at its last. Members with other names
are skipped, and what follows the record is not looked at. A body that is too long is
not read at all.
-/

namespace TrackerGate

inductive BodyFault where
  /-- The request does not say that its body is JSON. -/
  | mediaType
  /-- The body is longer than bodies may be. -/
  | tooLarge
  /-- The body is no JSON. -/
  | malformed
  /-- The body is no record with a refresh token. -/
  | misshapen
  deriving DecidableEq, Repr

namespace BodyFault

def status : BodyFault → Nat
  | .mediaType => 415
  | .tooLarge => 413
  | .malformed => 400
  | .misshapen => 422

def message : BodyFault → String
  | .mediaType => "Expected request with `Content-Type: application/json`"
  | .tooLarge => "Failed to buffer the request body: length limit exceeded"
  | .malformed => "Failed to parse the request body as JSON"
  | .misshapen => "Failed to deserialize the JSON body into the target type"

def response (f : BodyFault) : Response := .text f.status f.message

end BodyFault

namespace RefreshBody

open Json (Literal skipSpace)
open Json.Mark

def field : String := "refresh_token"

/-! ## Values -/

/-- The fault of a value of the wrong kind in front of the input. -/
def wrongValue (input : Octets) : BodyFault :=
  match input with
  | [] => .malformed
  | b :: _ =>
      if b = openBracket ∨ b = openBrace then .misshapen
      else
        match Json.value? input with
        | some (j, _) => if j.reach 0 = .whole then .misshapen else .malformed
        | none => .malformed

/-- A text behind its opening quote, and what follows it. -/
def quoted (input : Octets) : Except BodyFault (String × Octets) :=
  match Literal.scan input with
  | none => .error .malformed
  | some (literal, rest) =>
      match literal.text? with
      | some s => .ok (s, rest)
      | none => .error .malformed

def text (input : Octets) : Except BodyFault (String × Octets) :=
  match skipSpace input with
  | [] => .error .malformed
  | b :: rest => if b = quote then quoted rest else .error (wrongValue (b :: rest))

/-! ## Records -/

def behindColon (input : Octets) : Except BodyFault Octets :=
  match skipSpace input with
  | [] => .error .malformed
  | b :: rest => if b = colon then .ok rest else .error .malformed

/-- A member behind the opening quote of its name, and what follows it. `found` is the
token, if it has been met. -/
def member (found : Option String) (input : Octets) :
    Except BodyFault (Option String × Octets) := do
  let (name, rest) ← quoted input
  if name = field then
    if found.isSome then throw .misshapen
    else
      let rest ← behindColon rest
      let (s, rest) ← text rest
      return (some s, rest)
  else
    let rest ← behindColon rest
    match Json.value? rest with
    | some (_, rest) => return (found, rest)
    | none => throw .malformed

/-- The members from one's opening quote to the closing brace. -/
def members (fuel : Nat) (found : Option String) (input : Octets) : Except BodyFault String :=
  match fuel with
  | 0 => .error .malformed
  | fuel + 1 => do
      let (found, rest) ← member found input
      match skipSpace rest with
      | [] => throw .malformed
      | b :: rest =>
          if b = closeBrace then
            match found with
            | some s => return s
            | none => throw .misshapen
          else if b = comma then
            match skipSpace rest with
            | [] => throw .malformed
            | q :: rest => if q = quote then members fuel found rest else throw .malformed
          else throw .malformed

def object (input : Octets) : Except BodyFault String :=
  match skipSpace input with
  | [] => .error .malformed
  | b :: rest =>
      if b = closeBrace then .error .misshapen
      else if b = quote then members input.length none rest
      else .error .malformed

def list (input : Octets) : Except BodyFault String :=
  match skipSpace input with
  | [] => .error .malformed
  | b :: rest =>
      if b = closeBracket then .error .misshapen
      else do
        let (s, rest) ← text (b :: rest)
        match skipSpace rest with
        | [] => throw .malformed
        | c :: _ => if c = closeBracket then return s else throw .malformed

def parse (body : Octets) : Except BodyFault String :=
  match skipSpace body with
  | [] => .error .malformed
  | b :: rest =>
      if b = openBrace then object rest
      else if b = openBracket then list rest
      else if b = quote then
        match quoted rest with
        | .ok _ => .error .misshapen
        | .error f => .error f
      else .error (wrongValue (b :: rest))

/-! ## Requests -/

def isJson (headers : List Header) : Bool :=
  ((Header.text? headers "content-type").bind MediaType.ofChars?).any (·.isJson)

def longest : Nat := 0x200000

def ofRequest (request : Request) : Except BodyFault String :=
  if !isJson request.headers then .error .mediaType
  else if longest < request.body.length then .error .tooLarge
  else parse request.body

end RefreshBody

end TrackerGate
