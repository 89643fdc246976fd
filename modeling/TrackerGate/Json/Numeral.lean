import TrackerGate.Json.Reader

/-!
# Numerals as doubles

A double has 53 significant bits, so from 2 to the 53 on not every whole number is
one. The nearest double of a number is the nearest multiple of its spacing.

A numeral is turned into a double by way of a 64-bit word. The word takes the digits
of the whole part and then those of the fraction, as long as they fit; what it leaves
of the whole part makes the number larger by a power of ten, what it leaves of the
fraction is dropped. The word and the power of ten are rounded to doubles before they
are multiplied. So the largest numerals that are accepted are not exactly the ones
that lie nearest to a double.
-/

namespace TrackerGate

/-! ## Whole numbers as doubles -/

namespace Double

/-- The distance of the whole numbers near `n` that 53 significant bits can hold. -/
def spacing (n : Nat) : Nat := Nat.pow 2 (n.log2 - 52)

/-- The multiple of its spacing that is nearest to `n`; of two that are equally near
the even one. -/
def nearest (n : Nat) : Nat :=
  let step := spacing n
  let below := n / step
  let rest := n % step
  if 2 * rest < step || (2 * rest == step && below % 2 == 0) then below * step
  else (below + 1) * step

/-- The least whole number that is too large for a double. -/
def limit : Nat := Nat.pow 2 1024

/-- Whether the doubles of `a` and `b` have a product that is one, too. -/
def productFits (a b : Nat) : Bool := nearest (nearest a * nearest b) < limit

end Double

/-! ## Numerals -/

namespace Json

/-- A numeral without its sign, taken apart. -/
structure Numeral where
  whole : Nat
  fraction : List Nat
  /-- The exponent has a minus sign. -/
  isScaledDown : Bool
  exponent : List Nat
  deriving DecidableEq, Repr

namespace Numeral

def ofNat (n : Nat) : Numeral := ⟨n, [], false, []⟩

def digitValues (o : Octets) : List Nat := (o.filter isDigit).map fun b => b.toNat - 0x30

def ofLexeme (lexeme : Octets) : Numeral :=
  let isMark (b : UInt8) : Bool := b == 0x65 || b == 0x45
  let front := lexeme.takeWhile (!isMark ·)
  let back := (lexeme.dropWhile (!isMark ·)).drop 1
  { whole := Decimal.ofDigits (digitValues (front.takeWhile (· != Mark.point)))
    fraction := digitValues (front.dropWhile (· != Mark.point))
    isScaledDown := back.head? == some Mark.minus
    exponent := digitValues back }

/-! ## The word -/

/-- The least number that no word holds. -/
def wordLimit : Nat := 0x10000000000000000

/-- `n` without the last digits that keep it out of a word, and their number. -/
def cutToWord (n : Nat) : Nat × Nat :=
  if n < wordLimit then (n, 0)
  else
    let (word, cut) := cutToWord (n / 10)
    (word, cut + 1)
termination_by n
decreasing_by
  simp only [wordLimit, Nat.not_lt] at *
  omega

/-- A word with as many digits behind it as fit, and their number. -/
def extendWord (word : Nat) : List Nat → Nat × Nat
  | [] => (word, 0)
  | d :: ds =>
      if 10 * word + d < wordLimit then
        let (word, taken) := extendWord (10 * word + d) ds
        (word, taken + 1)
      else (word, 0)

/-- The word of a numeral, and the power of ten to multiply it with when the numeral
has no exponent. -/
def wordAndShift (n : Numeral) : Nat × Int :=
  let (word, cut) := cutToWord n.whole
  let (word, taken) := extendWord word n.fraction
  (word, cut - taken)

/-! ## The range of doubles -/

/-- Whether a double holds `word` times ten to the `shift`. A word fits itself, and
so does what is less. -/
def fits (word : Nat) (shift : Int) : Bool :=
  if word = 0 || shift < 0 then true
  else shift ≤ 308 && Double.productFits word (Nat.pow 10 shift.toNat)

/-- The least number that is too large for an exponent. -/
def exponentLimit : Nat := 0x80000000

end Numeral

end Json

end TrackerGate
