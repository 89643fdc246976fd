import TrackerGate.Json.Reach
import TrackerGate.Json.Reader
import TrackerGate.Json.Record
import TrackerGate.Token.Signing

/-!
# Verifying tokens

A token is good if its header names the algorithm of this library, its signature is
the one that this library would write, its claims can be read, it has not expired
for more than a minute, and it names no audience. The first of these that fails is
the fault that is reported (`TokenFault`). The parts are told apart by the last two
dots, so further dots belong to the header, where they are no base64url.

Five claims have a meaning for every kind of token: `exp`, `nbf`, `sub`, `iss` and
`aud`. A payload is read a second time for them alone (`Registered`). They may not be
repeated, and a payload in the form of a list must not be longer than the five. A claim
that makes no sense counts as missing, provided the reader gets past it. Only two of them
are used here. A token must say when it expires. Tokens of this library have no audience,
so one that names an audience is meant for somebody else.
-/

namespace TrackerGate

/-! ## Registered claims -/

structure Registered where
  expiry : Option UInt64
  namesAudience : Bool
  deriving DecidableEq, Repr

namespace Registered

def names : List String := ["exp", "nbf", "sub", "iss", "aud"]

/-- How many arrays and objects a reader can open below the payload. -/
def room : Nat := 126

/-- Whether a reader who wants a number gets past the value: it does not look into
arrays and objects. -/
def isPassedAsNumber : Json → Bool
  | .arr items => items.isEmpty
  | .obj members => members.isEmpty
  | j => j.reach room != .stuck

/-- Whether a reader who takes any value gets past it. -/
def isPassed (j : Json) : Bool := j.reach room != .stuck

/-- An audience is a text or a list of texts; the list may be empty. -/
def isAudience : Json → Bool
  | .str literal => literal.text?.isSome
  | .arr items => items.all fun item => item.text?.isSome
  | _ => false

/-- A condition on the value of a claim that is given. -/
def onGiven (p : Json → Bool) (default : Bool) : Json.Slot → Bool
  | .given j => p j
  | _ => default

/-- The registered claims of a payload, if the reader gets past all of them. -/
def ofJson? (payload : Json) : Option Registered := do
  let slot ← payload.record? names
  if onGiven isPassedAsNumber true (slot "nbf") && onGiven isPassed true (slot "iss")
      && onGiven isPassed true (slot "aud") then
    return { expiry := (slot "exp").required Json.uint64?
             namesAudience := onGiven isAudience false (slot "aud") }
  else none

end Registered

/-! ## Faults -/

inductive TokenFault where
  | malformed
  | encoding
  | json
  | algorithm
  | signature
  | noExpiry
  | expired
  | audience
  | unexpected (expected actual : TokenKind)
  deriving DecidableEq, Repr

namespace TokenFault

def detail : TokenFault → String
  | .malformed => "InvalidToken"
  | .encoding => "Base64 error"
  | .json => "JSON error"
  | .algorithm => "InvalidAlgorithm"
  | .signature => "InvalidSignature"
  | .noExpiry => "Missing required claim: exp"
  | .expired => "ExpiredSignature"
  | .audience => "InvalidAudience"
  | .unexpected expected actual =>
      "expected " ++ expected.word ++ " token, got " ++ actual.word

def failure (f : TokenFault) : Failure := .token f.detail

end TokenFault

namespace Token

/-! ## Parts -/

/-- What stands before and after the last `sep`. -/
def cutAtLast (sep : UInt8) : Octets → Option (Octets × Octets)
  | [] => none
  | b :: o =>
      match cutAtLast sep o with
      | some (front, back) => some (b :: front, back)
      | none => if b = sep then some ([], o) else none

/-- `value`, or the fault if there is none. -/
def orFault {α : Type} (fault : TokenFault) (value : Option α) : Except TokenFault α :=
  match value with
  | some a => .ok a
  | none => .error fault

/-- The JSON value of a part that is not signed by itself. -/
def part (segment : Octets) : Except TokenFault Json := do
  let octets ← orFault .encoding (Base64Url.decode? segment)
  orFault .json (Json.parse? octets)

/-! ## Checks -/

/-- Nothing, or the fault if a condition does not hold. -/
def demand (fault : TokenFault) (holds : Bool) : Except TokenFault Unit :=
  if holds then .ok () else .error fault

/-- For how many seconds an expired token is still taken. -/
def leeway : Nat := 60

/-- Whether a token with this expiry is still taken. Readings of the clock below the leeway,
in the first minute of 1970, are outside of the documented behaviour of the check. -/
def isCurrent (now : Nat) (expiry : UInt64) : Bool := now ≤ expiry.toNat + leeway

def decode (s : TokenSettings) (now : Nat) (token : Token) : Except TokenFault Claims := do
  let (message, signature) ← orFault .malformed (cutAtLast dot token)
  let (header, payload) ← orFault .malformed (cutAtLast dot message)
  let header ← part header
  let algorithm ← orFault .json (TokenHeader.algorithm? header)
  demand .algorithm (algorithm == TokenHeader.signing)
  demand .signature (signature == Token.signature s message)
  let payload ← part payload
  let claims ← orFault .json (Claims.ofJson? payload)
  let registered ← orFault .json (Registered.ofJson? payload)
  let expiry ← orFault .noExpiry registered.expiry
  demand .expired (isCurrent now expiry)
  demand .audience (!registered.namesAudience)
  return claims

def verify (s : TokenSettings) (now : Nat) (expected : TokenKind) (token : Token) :
    Except TokenFault Claims := do
  let claims ← decode s now token
  demand (.unexpected expected claims.kind) (claims.kind == expected)
  return claims

end Token

end TrackerGate
