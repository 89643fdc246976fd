import TrackerGate.Http.Message

/-!
# Media types

A media type is a type and a subtype with a slash between them, and parameters after
semicolons. The last plus sign of a subtype starts its suffix, unless it is the
first character. JSON is sent as `application/json`, or as any subtype of
`application` that has the suffix `json`.
-/

namespace TrackerGate

structure MediaType where
  general : List Char
  subtype : List Char
  suffix : Option (List Char)
  deriving DecidableEq, Repr

open Http (isTokenChar)

namespace MediaType

def isQuotedChar (c : Char) : Bool := 0x20 ≤ c.toNat && c.toNat != 0x7F

/-! ## Parameters -/

/-- Where a reader of parameters stands. -/
inductive ParameterState where
  | start
  | name
  | valueStart
  | value
  | quoteStart
  | quoted
  | afterQuote
  deriving DecidableEq, Repr

namespace ParameterState

/-- A parameter is a name and a value, which is a token or quoted. Blanks may stand
in front of the name and after a quoted value. -/
def step : ParameterState → Char → Option ParameterState
  | .start, c => if c = ' ' then some .start else if isTokenChar c then some .name else none
  | .name, c => if c = '=' then some .valueStart else if isTokenChar c then some .name else none
  | .valueStart, c =>
      if c = '"' then some .quoteStart else if isTokenChar c then some .value else none
  | .value, c => if c = ';' then some .start else if isTokenChar c then some .value else none
  | .quoteStart, c => if isQuotedChar c then some .quoted else none
  | .quoted, c =>
      if c = '"' then some .afterQuote else if isQuotedChar c then some .quoted else none
  | .afterQuote, c => if c = ';' then some .start else if c = ' ' then some .afterQuote else none

def isFinal : ParameterState → Bool
  | .start | .valueStart | .value | .afterQuote => true
  | .name | .quoteStart | .quoted => false

end ParameterState

def areParameters (cs : List Char) : Bool :=
  (cs.foldlM ParameterState.step .start).any (·.isFinal)

/-! ## Subtypes -/

def cutAtLastPlus : List Char → Option (List Char × List Char)
  | [] => none
  | c :: cs =>
      match cutAtLastPlus cs with
      | some (front, back) => some (c :: front, back)
      | none => if c = '+' then some ([], cs) else none

def subtypeOf (cs : List Char) : List Char × Option (List Char) :=
  match cutAtLastPlus cs with
  | some ([], _) => (cs, none)
  | some (front, back) => (front, some back)
  | none => (cs, none)

/-! ## Media types -/

/-- The media type behind its general part. Only one with a subtype has parameters. -/
def withSubtype? (general : List Char) (cs : List Char) : Option MediaType :=
  let whole := cs.takeWhile isTokenChar
  let (subtype, suffix) := subtypeOf whole
  let result : MediaType := { general, subtype, suffix }
  match cs.dropWhile isTokenChar with
  | [] => some result
  | ';' :: rest => if !whole.isEmpty && areParameters rest then some result else none
  | _ => none

/-- A media type in any case; its letters are made small. -/
def ofChars? (cs : List Char) : Option MediaType :=
  let cs := cs.map Char.toLower
  let general := cs.takeWhile isTokenChar
  match cs.dropWhile isTokenChar with
  | '/' :: rest => if general.isEmpty then none else withSubtype? general rest
  | _ => none

def isJson (m : MediaType) : Bool :=
  let json := "json".toList
  m.general == "application".toList && (m.subtype == json || m.suffix == some json)

end MediaType

end TrackerGate
