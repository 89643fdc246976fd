import TrackerGate.Text.Blank

/-!
# Octets

Everything that is signed, hashed or sent is a list of octets. Text becomes
octets by its UTF-8 encoding (`ofText`), and octets are a text exactly when they
are such an encoding (`toText?`). A URI holds octets with escapes (`Percent.decode`).
-/

namespace TrackerGate

abbrev Octets := List UInt8

namespace Octets

/-- The UTF-8 encoding of `s`. -/
def ofText (s : String) : Octets := s.toUTF8.data.toList

/-- The text whose UTF-8 encoding is `o`, if there is one. -/
def toText? (o : Octets) : Option String := String.fromUTF8? ⟨o.toArray⟩

theorem toText?_ofText (s : String) : toText? (ofText s) = some s := by
  have h : (⟨(ofText s).toArray⟩ : ByteArray) = s.toUTF8 := by simp [ofText]
  rw [toText?, h]
  simp [String.fromUTF8?, String.fromUTF8, s.isValidUTF8]

/-- `o` as text, with nothing in place of octets that are no text. -/
def shown (o : Octets) : String := (toText? o).getD ""

/-- The number that `o` spells in base 256, most significant first. -/
def toNat (o : Octets) : Nat := o.foldl (fun acc b => 256 * acc + b.toNat) 0

/-- The last `width` base-256 digits of `n`, most significant first. -/
def ofNat : (width : Nat) → (n : Nat) → Octets
  | 0, _ => []
  | width + 1, n => ofNat width (n / 256) ++ [UInt8.ofNat n]

end Octets

/-! ## Percent escapes

In a URI a percent sign and two hexadecimal digits stand for an octet. A percent sign
without them stands for itself. A query is a list of fields in the form `name=value`. -/

namespace Percent

def sign : UInt8 := 0x25

def hexValue? (b : UInt8) : Option UInt8 :=
  if 0x30 ≤ b && b ≤ 0x39 then some (b - 0x30)
  else if 0x41 ≤ b && b ≤ 0x46 then some (b - 0x37)
  else if 0x61 ≤ b && b ≤ 0x66 then some (b - 0x57)
  else none

/-- The octet that two hexadecimal digits spell. -/
def octet? (high low : UInt8) : Option UInt8 := do
  let high ← hexValue? high
  let low ← hexValue? low
  return 16 * high + low

def decode : Octets → Octets
  | b :: high :: low :: rest =>
      if b = sign then
        match octet? high low with
        | some octet => octet :: decode rest
        | none => b :: decode (high :: low :: rest)
      else b :: decode (high :: low :: rest)
  | o => o

/-- What stands in front of the first `mark`, and what stands behind it. -/
def cutAt (mark : UInt8) (o : Octets) : Octets × Octets :=
  (o.takeWhile (· != mark), (o.dropWhile (· != mark)).drop 1)

/-- Names and values of the fields of a query, with their escapes. Ampersands separate
the fields, and nothing between two of them is no field. -/
def fields (query : Octets) : List (Octets × Octets) :=
  ((Text.pieces 0x26 query).filter (!·.isEmpty)).map (cutAt 0x3D)

end Percent

end TrackerGate
