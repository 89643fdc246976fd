import TrackerGate.Decimal
import TrackerGate.Json.Literal

/-!
# JSON values

A value as it is written, with its literals unread. Numbers are told apart by
what their readers accept: `int` holds every numeral without a fraction and
without an exponent, except `-0`; `real` holds the rest, which no reader here
takes for a number. Members of an object keep their order and may repeat a name.
-/

namespace TrackerGate

inductive Json where
  | null
  | bool (b : Bool)
  | int (n : Int)
  | real (lexeme : Octets)
  | str (literal : Json.Literal)
  | arr (items : List Json)
  | obj (members : List (Json.Literal × Json))

namespace Json

instance : Inhabited Json := ⟨.null⟩

/-! ## Values of the library's own types -/

def ofText (s : String) : Json := .str (Literal.ofText s)

def ofInt64 (n : Int64) : Json := .int n.toInt

def ofUInt64 (n : UInt64) : Json := .int n.toNat

def ofNat (n : Nat) : Json := .int n

def ofOption {α : Type} (f : α → Json) : Option α → Json
  | none => .null
  | some a => f a

def record (members : List (String × Json)) : Json :=
  .obj (members.map fun (name, value) => (Literal.ofText name, value))

mutual

/-- How deep arrays and objects are nested in a value. -/
def depth : Json → Nat
  | .arr items => 1 + depthItems items
  | .obj members => 1 + depthMembers members
  | _ => 0

def depthItems : List Json → Nat
  | [] => 0
  | item :: items => max (depth item) (depthItems items)

def depthMembers : List (Json.Literal × Json) → Nat
  | [] => 0
  | (_, value) :: members => max (depth value) (depthMembers members)

end

/-! ## Reading scalars -/

def bool? : Json → Option Bool
  | .bool b => some b
  | _ => none

/-- A whole number that a signed 64-bit word holds. -/
def int64? : Json → Option Int64
  | .int n => if -0x8000000000000000 ≤ n ∧ n < 0x8000000000000000 then some (Int64.ofInt n) else none
  | _ => none

/-- A whole number that an unsigned 64-bit word holds. -/
def uint64? : Json → Option UInt64
  | .int n => if 0 ≤ n ∧ n < 0x10000000000000000 then some (UInt64.ofNat n.toNat) else none
  | _ => none

def text? : Json → Option String
  | .str literal => literal.text?
  | _ => none

def items? : Json → Option (List Json)
  | .arr items => some items
  | _ => none

/-- The name of a constant: a string, or an object whose only member has that
name and the value `null`. -/
def constant? : Json → Option String
  | .str literal => literal.text?
  | .obj [(name, .null)] => name.text?
  | _ => none

/-! ## Reading what was made -/

@[simp] theorem int64?_ofInt64 (n : Int64) : (ofInt64 n).int64? = some n := by
  have hlt := n.toInt_lt
  have hle := n.le_toInt
  rw [ofInt64, int64?, if_pos (by omega), Int64.ofInt_toInt]

@[simp] theorem uint64?_ofUInt64 (n : UInt64) : (ofUInt64 n).uint64? = some n := by
  have hlt := n.toNat_lt
  rw [ofUInt64, uint64?, if_pos (by omega), Int.toNat_natCast, UInt64.ofNat_toNat]

@[simp] theorem text?_ofText (s : String) : (ofText s).text? = some s :=
  Literal.text?_ofText s

@[simp] theorem constant?_ofText (s : String) : (ofText s).constant? = some s :=
  Literal.text?_ofText s

/-! ## Printing

A value is written without any blanks, its members in the order they are held in. -/

def digitOctet (d : Nat) : UInt8 := UInt8.ofNat (0x30 + d)

def printNat (n : Nat) : Octets := (Decimal.digits n).map digitOctet

def printInt : Int → Octets
  | .ofNat n => printNat n
  | .negSucc n => Mark.minus :: printNat (n + 1)

mutual

def print : Json → Octets
  | .null => [0x6E, 0x75, 0x6C, 0x6C]
  | .bool true => [0x74, 0x72, 0x75, 0x65]
  | .bool false => [0x66, 0x61, 0x6C, 0x73, 0x65]
  | .int n => printInt n
  | .real lexeme => lexeme
  | .str literal => literal.print
  | .arr items => Mark.openBracket :: printItems items ++ [Mark.closeBracket]
  | .obj members => Mark.openBrace :: printMembers members ++ [Mark.closeBrace]

def printItems : List Json → Octets
  | [] => []
  | [item] => print item
  | item :: items => print item ++ Mark.comma :: printItems items

def printMembers : List (Literal × Json) → Octets
  | [] => []
  | [(name, value)] => name.print ++ Mark.colon :: print value
  | (name, value) :: members =>
      name.print ++ Mark.colon :: print value ++ Mark.comma :: printMembers members

end

end Json

end TrackerGate
