import TrackerGate.Json.Numeral

/-!
# How far a reader gets

A value that is looked at only in passing is read into memory and dropped again if
it is of no use. That works as long as the reader comes to the value's end. Some
values it cannot hold - a surrogate without its partner, a number beyond the range
of a double, nesting that is too deep - and then it matters where it noticed: a
fault seen only at the very end of a value costs nothing but the value (`faulty`),
one seen before the end leaves the reader inside it (`stuck`). A fault at the end
of the last item of an array is a fault at the end of the array.
-/

namespace TrackerGate

namespace Json

inductive Reach where
  | whole
  | faulty
  | stuck
  deriving DecidableEq, Repr

namespace Reach

/-! ## Strings -/

/-- Whether the code units pair up. A high surrogate that the closing quote
follows is noticed only with that quote. -/
def ofUnits : Literal → Reach
  | [] => .whole
  | .plain _ :: us => ofUnits us
  | .short _ :: us => ofUnits us
  | .code u :: us =>
      if Literal.isHigh u then
        match us with
        | [] => .faulty
        | .code v :: us => if Literal.isLow v then ofUnits us else .stuck
        | _ :: _ => .stuck
      else if Literal.isLow u then .stuck
      else ofUnits us

/-- The encoding of a string is checked at its end. -/
def ofLiteral (l : Literal) : Reach :=
  match ofUnits l with
  | .whole => if l.text?.isSome then .whole else .faulty
  | r => r

/-! ## Numbers -/

/-- An exponent that is too large is noticed at the first digit that makes it so; it
does no harm to a zero, or when it has a minus sign. Anything else about a number is
noticed at its end. -/
def ofNumeral (n : Numeral) : Reach :=
  let (word, shift) := n.wordAndShift
  let e := Decimal.ofDigits n.exponent
  if e < Numeral.exponentLimit then
    if Numeral.fits word (if n.isScaledDown then shift - e else shift + e) then .whole else .faulty
  else if word = 0 || n.isScaledDown then .whole
  else if Decimal.ofDigits n.exponent.dropLast < Numeral.exponentLimit then .faulty
  else .stuck

/-! ## Values -/

/-- How far a reader gets in an array or object after one of its parts. -/
def andThen (first : Reach) (isLast : Bool) (rest : Reach) : Reach :=
  match first with
  | .whole => rest
  | .faulty => if isLast then .faulty else .stuck
  | .stuck => .stuck

end Reach

mutual

/-- How far a reader gets that can open `room` more arrays and objects. -/
def reach (room : Nat) : Json → Reach
  | .str literal => .ofLiteral literal
  | .int n => .ofNumeral (.ofNat n.natAbs)
  | .real lexeme => .ofNumeral (.ofLexeme lexeme)
  | .arr items =>
      match room with
      | 0 => .stuck
      | room + 1 => reachItems room items
  | .obj members =>
      match room with
      | 0 => .stuck
      | room + 1 => reachMembers room members
  | .null => .whole
  | .bool _ => .whole

def reachItems (room : Nat) : List Json → Reach
  | [] => .whole
  | item :: items => (reach room item).andThen items.isEmpty (reachItems room items)

def reachMembers (room : Nat) : List (Literal × Json) → Reach
  | [] => .whole
  | (name, value) :: members =>
      if name.text?.isSome then
        (reach room value).andThen members.isEmpty (reachMembers room members)
      else .stuck

end

end Json

end TrackerGate
