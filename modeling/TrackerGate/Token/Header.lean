import TrackerGate.Json.Reach
import TrackerGate.Json.Record

/-!
# Token headers

The first part of a token names the algorithm of its signature and may describe the
key. All of it has to be well formed, though nothing but the algorithm is used: a
token whose header describes its key in an unknown way is refused.
-/

namespace TrackerGate

def Json.texts? (j : Json) : Option (List String) := j.items?.bind (·.mapM Json.text?)

/-- A constant out of a list of names. -/
def Json.oneOf? (names : List String) (j : Json) : Option String :=
  j.constant?.bind fun name => if names.contains name then some name else none

namespace TokenHeader

/-! ## Algorithms -/

def signing : String := "HS256"

def algorithms : List String :=
  [signing, "HS384", "HS512", "ES256", "ES384", "RS256", "RS384", "RS512", "PS256", "PS384",
    "PS512", "EdDSA"]

/-! ## Descriptions of keys -/

namespace Key

/-- The algorithms that a key may be meant for. -/
def algorithms : List String :=
  TokenHeader.algorithms ++ ["RSA1_5", "RSA-OAEP", "RSA-OAEP-256"]

/-- In the description of a key a constant may also stand over an empty object. -/
def algorithm? : Json → Option String
  | .obj [(name, .obj [])] => Json.oneOf? algorithms (.str name)
  | j => Json.oneOf? algorithms j

/-- What every kind of key may have. -/
def hasCommonFields (j : Json) : Bool :=
  let fields := ["use", "key_ops", "alg", "kid", "x5u", "x5c", "x5t", "x5t#S256"]
  match j.record? fields with
  | none => false
  | some slot =>
      ["use", "kid", "x5u", "x5t", "x5t#S256"].all
          (fun name => ((slot name).nullable Json.text?).isSome)
        && ["key_ops", "x5c"].all (fun name => ((slot name).nullable Json.texts?).isSome)
        && ((slot "alg").nullable algorithm?).isSome

/-- The fields of one kind of key: constants and texts, all of them required. -/
def hasFields (constants : List (String × List String)) (texts : List String) (j : Json) : Bool :=
  match j.record? (constants.map (·.1) ++ texts) with
  | none => false
  | some slot =>
      constants.all (fun (name, values) => ((slot name).required (Json.oneOf? values)).isSome)
        && texts.all (fun name => ((slot name).required Json.text?).isSome)

def curves : List String := ["P-256", "P-384", "P-521", "Ed25519"]

/-- An elliptic curve key, an RSA key, a secret, or a key pair on a curve. -/
def isOfSomeKind (j : Json) : Bool :=
  hasFields [("kty", ["EC"]), ("crv", curves)] ["x", "y"] j
    || hasFields [("kty", ["RSA"])] ["n", "e"] j
    || hasFields [("kty", ["oct"])] ["k"] j
    || hasFields [("kty", ["OKP"]), ("crv", curves)] ["x"] j

/-- A description is an object that can be held in memory, at most 126 deep. -/
def isDescription : Json → Bool
  | .obj members =>
      let j := Json.obj members
      j.reach 126 == .whole && hasCommonFields j && isOfSomeKind j
  | _ => false

end Key

/-! ## The header -/

def fields : List String :=
  ["typ", "alg", "cty", "jku", "jwk", "kid", "x5u", "x5c", "x5t", "x5t#S256"]

/-- The algorithm that a well-formed header names. -/
def algorithm? (j : Json) : Option String := do
  let slot ← j.record? fields
  let algorithm ← (slot "alg").required (Json.oneOf? algorithms)
  let texts := ["typ", "cty", "jku", "kid", "x5u", "x5t", "x5t#S256"]
  let _ ← texts.mapM fun name => (slot name).nullable Json.text?
  let _ ← (slot "x5c").nullable Json.texts?
  let _ ← (slot "jwk").nullable fun key => if Key.isDescription key then some key else none
  return algorithm

/-- The header of the tokens that are issued here. -/
def own : Json := .record [("typ", .ofText "JWT"), ("alg", .ofText signing)]

end TokenHeader

end TrackerGate
