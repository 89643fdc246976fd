import TrackerGate.Decimal
import TrackerGate.Json.Basic

/-!
# Reading JSON

`parse?` takes a whole text: one value, with blanks around it and between its
parts. The functions below it read a value off the front of the input and hand
back what is left; they recurse on a number of steps that the input's length
bounds, since any two steps take at least one octet. Nesting may be of any depth
and numerals of any size.
-/

namespace TrackerGate

namespace Json

/-! ## Blanks and words -/

def isSpace (b : UInt8) : Bool := b == 0x20 || b == 0x09 || b == 0x0A || b == 0x0D

def skipSpace (input : Octets) : Octets := input.dropWhile isSpace

/-- `value` and the rest, when the input starts with `word`. -/
def word (word : Octets) (value : Json) (input : Octets) : Option (Json × Octets) :=
  (word.isPrefixOf? input).map fun rest => (value, rest)

/-! ## Numerals -/

def isDigit (b : UInt8) : Bool := 0x30 ≤ b && b ≤ 0x39

def digitsValue (ds : Octets) : Nat := Decimal.ofDigits (ds.map fun b => b.toNat - 0x30)

/-- The digits of a whole part: at least one, and no zero in front of another. -/
def wholePart (input : Octets) : Option (Octets × Octets) :=
  let ds := input.takeWhile isDigit
  if ds.isEmpty || (ds.head? == some Mark.zero && 1 < ds.length) then none
  else some (ds, input.dropWhile isDigit)

/-- At least one digit; gives what follows them. -/
def someDigits (input : Octets) : Option Octets :=
  if (input.takeWhile isDigit).isEmpty then none else some (input.dropWhile isDigit)

/-- A fraction, if there is one: whether it is there, and what follows. -/
def fraction (input : Octets) : Option (Bool × Octets) :=
  match input with
  | b :: rest => if b = Mark.point then (someDigits rest).map (true, ·) else some (false, input)
  | [] => some (false, input)

/-- An exponent, if there is one: whether it is there, and what follows. -/
def exponent (input : Octets) : Option (Bool × Octets) :=
  match input with
  | b :: rest =>
      if b = 0x65 ∨ b = 0x45 then
        match rest with
        | s :: digits =>
            if s = Mark.plus ∨ s = Mark.minus then (someDigits digits).map (true, ·)
            else (someDigits rest).map (true, ·)
        | [] => none
      else some (false, input)
  | [] => some (false, input)

def magnitude (negative : Bool) (input : Octets) : Option (Json × Octets) := do
  let (whole, rest) ← wholePart input
  let (hasFraction, rest) ← fraction rest
  let (hasExponent, rest) ← exponent rest
  let n := digitsValue whole
  if hasFraction || hasExponent || (negative && n == 0) then
    let lexeme := input.take (input.length - rest.length)
    return (.real (if negative then Mark.minus :: lexeme else lexeme), rest)
  else
    return (.int (if negative then -(n : Int) else n), rest)

def number (input : Octets) : Option (Json × Octets) :=
  match input with
  | b :: rest => if b = Mark.minus then magnitude true rest else magnitude false input
  | [] => none

/-! ## Values -/

mutual

def value (fuel : Nat) (input : Octets) : Option (Json × Octets) :=
  match fuel with
  | 0 => none
  | fuel + 1 =>
      match skipSpace input with
      | [] => none
      | b :: rest =>
          if b = Mark.quote then
            (Literal.scan rest).map fun (literal, rest) => (.str literal, rest)
          else if b = Mark.openBracket then
            match skipSpace rest with
            | [] => none
            | c :: after =>
                if c = Mark.closeBracket then some (.arr [], after)
                else (items fuel (c :: after)).map fun (js, rest) => (.arr js, rest)
          else if b = Mark.openBrace then
            match skipSpace rest with
            | [] => none
            | c :: after =>
                if c = Mark.closeBrace then some (.obj [], after)
                else (members fuel (c :: after)).map fun (ms, rest) => (.obj ms, rest)
          else if b = 0x6E then word [0x6E, 0x75, 0x6C, 0x6C] .null (b :: rest)
          else if b = 0x74 then word [0x74, 0x72, 0x75, 0x65] (.bool true) (b :: rest)
          else if b = 0x66 then word [0x66, 0x61, 0x6C, 0x73, 0x65] (.bool false) (b :: rest)
          else number (b :: rest)

/-- The items of an array that is not empty, up to its closing bracket. -/
def items (fuel : Nat) (input : Octets) : Option (List Json × Octets) :=
  match fuel with
  | 0 => none
  | fuel + 1 =>
      match value fuel input with
      | none => none
      | some (j, rest) =>
          match skipSpace rest with
          | [] => none
          | c :: after =>
              if c = Mark.comma then (items fuel after).map fun (js, rest) => (j :: js, rest)
              else if c = Mark.closeBracket then some ([j], after)
              else none

/-- The members of an object that is not empty, up to its closing brace. -/
def members (fuel : Nat) (input : Octets) : Option (List (Literal × Json) × Octets) :=
  match fuel with
  | 0 => none
  | fuel + 1 =>
      match skipSpace input with
      | [] => none
      | q :: rest =>
          if q = Mark.quote then
            match Literal.scan rest with
            | none => none
            | some (name, rest) =>
                match skipSpace rest with
                | [] => none
                | c :: rest =>
                    if c = Mark.colon then
                      match value fuel rest with
                      | none => none
                      | some (j, rest) =>
                          match skipSpace rest with
                          | [] => none
                          | d :: after =>
                              if d = Mark.comma then
                                (members fuel after).map fun (ms, rest) => ((name, j) :: ms, rest)
                              else if d = Mark.closeBrace then some ([(name, j)], after)
                              else none
                    else none
          else none

end

/-- A value off the front of the input, and what follows it. -/
def value? (input : Octets) : Option (Json × Octets) := value (2 * input.length + 1) input

def parse? (input : Octets) : Option Json :=
  match value? input with
  | some (j, rest) => if (skipSpace rest).isEmpty then some j else none
  | none => none

end Json

end TrackerGate
