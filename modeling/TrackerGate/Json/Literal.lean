import TrackerGate.Octets

/-!
# String literals

A string literal is kept as it is written: a list of units, each of which is an
octet that stands for itself, a two-character escape, or a `\u` escape with its
UTF-16 code unit. Scanning (`scan`) and printing (`print`) work on this written
form; what the literal *says* is a separate question (`text?`), which has no
answer for a surrogate without its partner or for octets that are no UTF-8. A
reader that skips a value therefore never asks it.

`ofText` writes a text: quotes, backslashes and the control characters are
escaped - the five with short escapes by those - and every other octet of the
UTF-8 encoding stands for itself. What is written so is scanned back
(`scan_ofOctets`) and says what it was written for (`text?_ofText`).
-/

namespace TrackerGate

namespace Json

/-! ## Octets with a meaning in the grammar -/

namespace Mark

abbrev quote : UInt8 := 0x22
abbrev backslash : UInt8 := 0x5C
abbrev comma : UInt8 := 0x2C
abbrev colon : UInt8 := 0x3A
abbrev openBracket : UInt8 := 0x5B
abbrev closeBracket : UInt8 := 0x5D
abbrev openBrace : UInt8 := 0x7B
abbrev closeBrace : UInt8 := 0x7D
abbrev minus : UInt8 := 0x2D
abbrev plus : UInt8 := 0x2B
abbrev point : UInt8 := 0x2E
abbrev zero : UInt8 := 0x30
abbrev letterU : UInt8 := 0x75

end Mark

/-! ## The written form -/

inductive StringUnit where
  | plain (octet : UInt8)
  | short (octet : UInt8)
  | code (unit : UInt16)
  deriving DecidableEq, Repr

abbrev Literal := List StringUnit

/-- The octet behind a two-character escape, by the letter that follows the
backslash. -/
def shortOctet? (letter : UInt8) : Option UInt8 :=
  if letter = 0x22 then some 0x22        -- quote
  else if letter = 0x5C then some 0x5C   -- backslash
  else if letter = 0x2F then some 0x2F   -- slash
  else if letter = 0x62 then some 0x08   -- b
  else if letter = 0x66 then some 0x0C   -- f
  else if letter = 0x6E then some 0x0A   -- n
  else if letter = 0x72 then some 0x0D   -- r
  else if letter = 0x74 then some 0x09   -- t
  else none

/-- The letter of an octet's two-character escape. -/
def shortLetter (octet : UInt8) : UInt8 :=
  if octet = 0x08 then 0x62
  else if octet = 0x0C then 0x66
  else if octet = 0x0A then 0x6E
  else if octet = 0x0D then 0x72
  else if octet = 0x09 then 0x74
  else octet

def hexValue? (b : UInt8) : Option UInt16 :=
  if 0x30 ≤ b ∧ b ≤ 0x39 then some (b - 0x30).toUInt16
  else if 0x41 ≤ b ∧ b ≤ 0x46 then some (b - 0x41 + 10).toUInt16
  else if 0x61 ≤ b ∧ b ≤ 0x66 then some (b - 0x61 + 10).toUInt16
  else none

def hexOctet (v : UInt16) : UInt8 :=
  if v < 10 then 0x30 + v.toUInt8 else 0x61 + (v - 10).toUInt8

def codeUnit? (a b c d : UInt8) : Option UInt16 := do
  let a ← hexValue? a
  let b ← hexValue? b
  let c ← hexValue? c
  let d ← hexValue? d
  return ((a * 16 + b) * 16 + c) * 16 + d

namespace Literal

def push (u : StringUnit) (scanned : Literal × Octets) : Literal × Octets :=
  (u :: scanned.1, scanned.2)

/-- The units up to the closing quote, and the octets behind it. A raw control
character, an unknown escape and an open end have no scan. -/
def scan : Octets → Option (Literal × Octets)
  | [] => none
  | b :: rest =>
      if b = Mark.quote then some ([], rest)
      else if b = Mark.backslash then
        match rest with
        | [] => none
        | e :: rest =>
            if e = Mark.letterU then
              match rest with
              | a :: b :: c :: d :: rest =>
                  match codeUnit? a b c d with
                  | some u => (scan rest).map (push (.code u))
                  | none => none
              | _ => none
            else
              match shortOctet? e with
              | some o => (scan rest).map (push (.short o))
              | none => none
      else if b < 0x20 then none
      else (scan rest).map (push (.plain b))

def printUnit : StringUnit → Octets
  | .plain b => [b]
  | .short b => [Mark.backslash, shortLetter b]
  | .code u =>
      [Mark.backslash, Mark.letterU, hexOctet (u >>> 12), hexOctet ((u >>> 8) &&& 15),
        hexOctet ((u >>> 4) &&& 15), hexOctet (u &&& 15)]

def print (l : Literal) : Octets := Mark.quote :: l.flatMap printUnit ++ [Mark.quote]

/-! ## What a literal says -/

/-- A code unit that opens a surrogate pair. -/
def isHigh (u : UInt16) : Bool := 0xD800 ≤ u && u ≤ 0xDBFF

/-- A code unit that closes a surrogate pair. -/
def isLow (u : UInt16) : Bool := 0xDC00 ≤ u && u ≤ 0xDFFF

def pairChar (high low : UInt16) : Char :=
  Char.ofNat (0x10000 + (high.toNat - 0xD800) * 0x400 + (low.toNat - 0xDC00))

/-- The octets that the units stand for; none when a surrogate is alone. -/
def octets? : Literal → Option Octets
  | [] => some []
  | .plain b :: us => (octets? us).map (b :: ·)
  | .short b :: us => (octets? us).map (b :: ·)
  | .code u :: us =>
      if isHigh u then
        match us with
        | .code v :: us =>
            if isLow v then (octets? us).map (String.utf8EncodeChar (pairChar u v) ++ ·) else none
        | _ => none
      else if isLow u then none
      else (octets? us).map (String.utf8EncodeChar (Char.ofNat u.toNat) ++ ·)

def text? (l : Literal) : Option String := (octets? l).bind Octets.toText?

/-- The octets of a literal that is written without any escape. -/
def verbatim? : Literal → Option Octets
  | [] => some []
  | .plain b :: us => (verbatim? us).map (b :: ·)
  | _ :: _ => none

/-! ## Writing a text -/

/-- The octets that are written with a short escape. -/
def shortOctets : List UInt8 := [0x22, 0x5C, 0x08, 0x0C, 0x0A, 0x0D, 0x09]

/-- The unit that a text's octet is written as. -/
def unitOf (b : UInt8) : StringUnit :=
  if b ∈ shortOctets then .short b
  else if b < 0x20 then .code b.toUInt16
  else .plain b

def ofOctets (o : Octets) : Literal := o.map unitOf

def ofText (s : String) : Literal := ofOctets (Octets.ofText s)

end Literal

/-! ## Reading what was written -/

theorem codeUnit?_hexOctet {b : UInt8} (h : b < 0x20) :
    codeUnit? (hexOctet (b.toUInt16 >>> 12)) (hexOctet ((b.toUInt16 >>> 8) &&& 15))
      (hexOctet ((b.toUInt16 >>> 4) &&& 15)) (hexOctet (b.toUInt16 &&& 15)) = some b.toUInt16 := by
  have all : ∀ n < 32, let u := (UInt8.ofNat n).toUInt16
      codeUnit? (hexOctet (u >>> 12)) (hexOctet ((u >>> 8) &&& 15)) (hexOctet ((u >>> 4) &&& 15))
        (hexOctet (u &&& 15)) = some u := by decide
  have := all b.toNat (UInt8.lt_iff_toNat_lt.mp h)
  rwa [UInt8.ofNat_toNat] at this

namespace Literal

theorem scan_quote (input : Octets) : scan (Mark.quote :: input) = some ([], input) := by
  rw [scan.eq_def]
  simp

theorem scan_short {b : UInt8} (h : b ∈ shortOctets) (input : Octets) :
    scan (Mark.backslash :: shortLetter b :: input) = (scan input).map (push (.short b)) := by
  have hb : shortLetter b ≠ Mark.letterU ∧ shortOctet? (shortLetter b) = some b := by
    simp only [shortOctets, List.mem_cons, List.not_mem_nil, or_false] at h
    rcases h with rfl | rfl | rfl | rfl | rfl | rfl | rfl <;> decide
  rw [scan.eq_def]
  simp [hb, show Mark.backslash ≠ Mark.quote by decide]

theorem scan_code {b : UInt8} (h : b < 0x20) (input : Octets) :
    scan (printUnit (.code b.toUInt16) ++ input)
      = (scan input).map (push (.code b.toUInt16)) := by
  rw [scan.eq_def]
  simp [printUnit, codeUnit?_hexOctet h, show Mark.backslash ≠ Mark.quote by decide]

theorem scan_plain {b : UInt8} (h : b ∉ shortOctets) (hb : ¬b < 0x20) (input : Octets) :
    scan (b :: input) = (scan input).map (push (.plain b)) := by
  simp only [shortOctets, List.mem_cons, not_or] at h
  rw [scan.eq_def]
  simp [h, hb]

theorem scan_unitOf (b : UInt8) (input : Octets) :
    scan (printUnit (unitOf b) ++ input) = (scan input).map (push (unitOf b)) := by
  unfold unitOf
  split
  · next h => exact scan_short h input
  · next h =>
      split
      · next hb => exact scan_code hb input
      · next hb => exact scan_plain h hb input

/-- A literal that was written is scanned up to its closing quote, whatever
follows. -/
theorem scan_ofOctets (o rest : Octets) :
    scan ((ofOctets o).flatMap printUnit ++ Mark.quote :: rest) = some (ofOctets o, rest) := by
  induction o with
  | nil => exact scan_quote rest
  | cons b o ih =>
      simp only [ofOctets, List.map_cons, List.flatMap_cons, List.append_assoc, scan_unitOf] at ih ⊢
      simp [ih, push]

/-- A control character is no surrogate, and its encoding is a single octet. -/
theorem utf8EncodeChar_control {b : UInt8} (h : b < 0x20) :
    isHigh b.toUInt16 = false ∧ isLow b.toUInt16 = false
      ∧ String.utf8EncodeChar (Char.ofNat b.toNat) = [b] := by
  have all : ∀ n < 32, isHigh (UInt8.ofNat n).toUInt16 = false
      ∧ isLow (UInt8.ofNat n).toUInt16 = false
      ∧ String.utf8EncodeChar (Char.ofNat (UInt8.ofNat n).toNat) = [UInt8.ofNat n] := by decide
  have := all b.toNat (UInt8.lt_iff_toNat_lt.mp h)
  rwa [UInt8.ofNat_toNat] at this

theorem octets?_unitOf (b : UInt8) (us : Literal) :
    octets? (unitOf b :: us) = (octets? us).map (b :: ·) := by
  unfold unitOf
  split
  · rfl
  · split
    · next hb =>
        obtain ⟨hh, hl, hc⟩ := utf8EncodeChar_control hb
        rw [octets?.eq_def]
        simp [hh, hl, hc]
    · rfl

theorem octets?_ofOctets (o : Octets) : octets? (ofOctets o) = some o := by
  induction o with
  | nil => rfl
  | cons b o ih => simp_all [ofOctets, octets?_unitOf]

/-- The literal of a text says that text. -/
@[simp] theorem text?_ofText (s : String) : text? (ofText s) = some s := by
  simp [text?, ofText, octets?_ofOctets, Octets.toText?_ofText]

end Literal

end Json

end TrackerGate
