/-!
# Decimal numerals

Numbers are written in decimal everywhere in this library: in identifiers, in
settings, in messages and in JSON. The digits themselves are handled once, as
lists of digit values (`ofDigits`, `digits`), and the readers differ only in the
signs they allow. Leading zeros are always allowed here; the formats that forbid
them say so themselves.
-/

namespace TrackerGate

namespace Decimal

/-! ## Digit values -/

/-- The number that digit values spell, most significant first. -/
def ofDigits (ds : List Nat) : Nat := ds.foldl (fun acc d => 10 * acc + d) 0

/-- The digit values of `n`, most significant first and without leading zeros. -/
def digits (n : Nat) : List Nat :=
  if n < 10 then [n] else digits (n / 10) ++ [n % 10]

theorem ofDigits_append_singleton (ds : List Nat) (d : Nat) :
    ofDigits (ds ++ [d]) = 10 * ofDigits ds + d := by
  simp [ofDigits]

theorem ofDigits_digits (n : Nat) : ofDigits (digits n) = n := by
  fun_induction digits n with
  | case1 n h => simp [ofDigits]
  | case2 n h ih => rw [ofDigits_append_singleton, ih]; omega

theorem digits_ne_nil (n : Nat) : digits n ≠ [] := by
  rw [digits]
  split <;> simp

/-- A numeral has no zero in front. -/
theorem head?_digits_of_pos {n : Nat} (h : 0 < n) : (digits n).head? ≠ some 0 := by
  fun_induction digits n with
  | case1 n hn => simp; omega
  | case2 n hn ih =>
      rw [List.head?_append, Option.or_of_isSome]
      · exact ih (by omega)
      · simp [digits_ne_nil]

theorem lt_ten_of_mem_digits {n d : Nat} (h : d ∈ digits n) : d < 10 := by
  fun_induction digits n with
  | case1 n hn => simp at h; omega
  | case2 n hn ih =>
      rcases List.mem_append.mp h with h | h
      · exact ih h
      · simp at h; omega

/-! ## Text -/

def digit? (c : Char) : Option Nat :=
  if '0' ≤ c ∧ c ≤ '9' then some (c.toNat - '0'.toNat) else none

def digitChar (d : Nat) : Char := Char.ofNat ('0'.toNat + d)

/-- One or more ASCII digits and nothing else. -/
def nat? (cs : List Char) : Option Nat :=
  if cs.isEmpty then none else (cs.mapM digit?).map ofDigits

/-- Digits after at most one plus sign. -/
def unsigned? : List Char → Option Nat
  | '+' :: cs => nat? cs
  | cs => nat? cs

/-- Digits after at most one sign of either kind. -/
def signed? : List Char → Option Int
  | '-' :: cs => (nat? cs).map fun n => -(n : Int)
  | '+' :: cs => (nat? cs).map Int.ofNat
  | cs => (nat? cs).map Int.ofNat

def ofNat (n : Nat) : String := String.ofList ((digits n).map digitChar)

/-- The numeral of an integer: a minus sign stands in front of a negative one. -/
def ofInt : Int → String
  | .ofNat n => ofNat n
  | .negSucc n => "-" ++ ofNat (n + 1)

end Decimal

end TrackerGate
