import TrackerGate.Crypto.Base64Url
import TrackerGate.Crypto.Sha256
import TrackerGate.Permission.Capture
import TrackerGate.Token.Header
import TrackerGate.Token.Settings

/-!
# Issuing tokens

A token is three base64url texts with dots between them: the header, the claims,
and the HMAC of the two texts before it. The claims say of which kind it is, whom it was
issued to, when, and until when it is good. It is issued to a user as the store has
that user now; an access token takes along a snapshot of what the user may do.
Issuing fails only if the expiry has no date.
-/

namespace TrackerGate

/-! ## Claims -/

/-- What a token says. Both moments are seconds since the epoch. -/
structure Claims where
  kind : TokenKind
  subject : UserId
  username : String
  isSuperuser : Bool
  /-- What the subject was allowed to do when the token was issued. -/
  permissions : Option PermissionSnapshot
  expiry : UInt64
  issuedAt : UInt64
  deriving DecidableEq, Repr

namespace Claims

/-- The seconds between issue and expiry, modulo the word size. -/
def lifetime (c : Claims) : Int64 := (c.expiry - c.issuedAt).toInt64

/-! In JSON permissions are left out when there are none, and may be missing when read. -/

def fields : List String :=
  ["token_type", "sub", "username", "is_superuser", "permissions", "exp", "iat"]

/-- The members that do not depend on a moment. -/
def lastingMembers (c : Claims) : List (String × Json) :=
  [("token_type", c.kind.toJson), ("sub", .ofInt64 c.subject), ("username", .ofText c.username),
    ("is_superuser", .bool c.isSuperuser)]
    ++ (c.permissions.map fun p => ("permissions", p.toJson)).toList

def toJson (c : Claims) : Json :=
  .record (c.lastingMembers ++ [("exp", .ofUInt64 c.expiry), ("iat", .ofUInt64 c.issuedAt)])

def ofJson? (j : Json) : Option Claims := do
  let slot ← j.record? fields
  let kind ← (slot "token_type").required TokenKind.ofJson?
  let subject ← (slot "sub").required Json.int64?
  let username ← (slot "username").required Json.text?
  let isSuperuser ← (slot "is_superuser").required Json.bool?
  let permissions ← (slot "permissions").optional PermissionSnapshot.ofJson?
  let expiry ← (slot "exp").required Json.uint64?
  let issuedAt ← (slot "iat").required Json.uint64?
  return { kind, subject, username, isSuperuser, permissions, expiry, issuedAt }

end Claims

/-! ## The calendar

A moment is given in seconds since the start of 1970. Dates exist from the first
day of the year -262143 to the last of 262142; a moment outside of them is none. -/

namespace Calendar

/-- The first second of the year -262143. -/
def first : Int := -8334601228800

/-- The last second of the year 262142. -/
def last : Int := 8210266876799

/-- The moment `seconds` after `now`, if it has a date. -/
def after? (now : Nat) (seconds : Int) : Option Int :=
  let moment := now + seconds
  if first ≤ moment ∧ moment ≤ last then some moment else none

theorem after?_eq_some_iff {now : Nat} {seconds moment : Int} :
    after? now seconds = some moment
      ↔ moment = now + seconds ∧ first ≤ moment ∧ moment ≤ last := by
  simp only [after?, Option.ite_none_right_eq_some, Option.some.injEq]
  constructor
  · rintro ⟨h, rfl⟩
    exact ⟨rfl, h⟩
  · rintro ⟨rfl, h⟩
    exact ⟨h, rfl⟩

end Calendar

/-! ## Signed tokens -/

abbrev Token := Octets

namespace Token

/-- The octet between the parts of a token. -/
abbrev dot : UInt8 := 0x2E

/-- The signature of a message, as it stands in a token. -/
def signature (s : TokenSettings) (message : Octets) : Octets :=
  Base64Url.encode (Hmac.sign s.secret message)

/-- Header and claims with the dot between them: what is signed. -/
def message (c : Claims) : Octets :=
  Base64Url.encode TokenHeader.own.print ++ dot :: Base64Url.encode c.toJson.print

def encode (s : TokenSettings) (c : Claims) : Token :=
  message c ++ dot :: signature s (message c)

/-- The claims of a token that is issued at `now`. An expiry before 1970 wraps
around the word. -/
def claims? (s : TokenSettings) (now : Nat) (user : User) (kind : TokenKind)
    (permissions : Option PermissionSnapshot) : Option Claims :=
  (Calendar.after? now (s.ttl kind)).map fun expiry =>
    { kind, subject := user.id, username := user.username, isSuperuser := user.isSuperuser
      permissions, expiry := UInt64.ofInt expiry, issuedAt := UInt64.ofNat now }

def sign (s : TokenSettings) (now : Nat) (user : User) (kind : TokenKind)
    (permissions : Option PermissionSnapshot) : Except Failure Token :=
  match claims? s now user kind permissions with
  | some c => .ok (encode s c)
  | none => .error (.configuration (kind.word ++ " token ttl is out of range"))

end Token

/-- A token, if it could be issued, and what was reported on the way. -/
structure Issuance where
  token : Except Failure Token
  events : List Event

namespace Issuance

/-- A token of any kind for `user`. The snapshot of an access token is taken before
anything else. -/
def issue (s : TokenSettings) (r : Readers) (now : Nat) (user : User) (kind : TokenKind) :
    Issuance :=
  if kind = .access then
    let capture := r.capture user
    { token := Token.sign s now user kind (some capture.permissions), events := capture.events }
  else { token := Token.sign s now user kind none, events := [] }

end Issuance

end TrackerGate
