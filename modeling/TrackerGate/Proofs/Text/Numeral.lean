import Mathlib.Data.Nat.Digits.Defs
import TrackerGate.Decimal

/-!
# What numerals spell

A numeral is some ASCII digits, at least one, behind one sign at most. What it spells is a
number of any size (`Decimal.value`): the relations here know no largest number, and whoever
reads numerals into a word has to put the limit beside them. `Decimal.Spells` allows a sign of
either kind, `Decimal.SpellsNat` a plus sign only, and the readers accept what they describe
and nothing else (`signed?_eq_some_iff`, `unsigned?_eq_some_iff`).
-/

namespace TrackerGate

namespace Decimal

/-- The number that ASCII digits spell. -/
def value (ds : List Char) : Nat := Nat.ofDigits 10 (ds.reverse.map fun c => c.toNat - '0'.toNat)

/-- At most one sign and then at least one digit, and nothing else. -/
inductive Spells : List Char → Int → Prop where
  | plain {ds : List Char} (hne : ds ≠ []) (hdigits : ∀ c ∈ ds, c.isDigit = true) :
      Spells ds (value ds)
  | plus {ds : List Char} (hne : ds ≠ []) (hdigits : ∀ c ∈ ds, c.isDigit = true) :
      Spells ('+' :: ds) (value ds)
  | minus {ds : List Char} (hne : ds ≠ []) (hdigits : ∀ c ∈ ds, c.isDigit = true) :
      Spells ('-' :: ds) (-(value ds : Int))

/-- At least one digit behind one plus sign at most, and nothing else. -/
def SpellsNat (cs : List Char) (n : Nat) : Prop :=
  ∃ ds, (cs = ds ∨ cs = '+' :: ds) ∧ ds ≠ [] ∧ (∀ c ∈ ds, c.isDigit = true) ∧ value ds = n

theorem ofDigits_eq (ds : List Nat) : ofDigits ds = Nat.ofDigits 10 ds.reverse := by
  rw [ofDigits, List.foldl_eq_foldr_reverse, Nat.ofDigits_eq_foldr]
  congr 1
  funext d n
  exact Nat.add_comm _ _

theorem digit?_eq_some_iff {c : Char} {d : Nat} :
    digit? c = some d ↔ c.isDigit = true ∧ c.toNat - '0'.toNat = d := by
  have hdigit : ('0' ≤ c ∧ c ≤ '9') ↔ c.isDigit = true := by
    simp only [Char.isDigit, Bool.and_eq_true, decide_eq_true_eq, ge_iff_le, Char.le_def]
  simp only [digit?, Option.ite_none_right_eq_some, Option.some.injEq, hdigit]

theorem mapM_digit?_eq_some_iff {cs : List Char} {ds : List Nat} :
    cs.mapM digit? = some ds
      ↔ (∀ c ∈ cs, c.isDigit = true) ∧ cs.map (fun c => c.toNat - '0'.toNat) = ds := by
  induction cs generalizing ds with
  | nil => simp
  | cons c cs ih =>
      simp only [List.mapM_cons, Option.bind_eq_bind, Option.bind_eq_some_iff, Option.pure_def,
        Option.some.injEq, digit?_eq_some_iff, ih, List.forall_mem_cons, List.map_cons]
      constructor
      · rintro ⟨_, ⟨hc, rfl⟩, _, ⟨hcs, rfl⟩, rfl⟩
        exact ⟨⟨hc, hcs⟩, rfl⟩
      · rintro ⟨⟨hc, hcs⟩, rfl⟩
        exact ⟨_, ⟨hc, rfl⟩, _, ⟨hcs, rfl⟩, rfl⟩

theorem nat?_eq_some_iff {cs : List Char} {n : Nat} :
    nat? cs = some n ↔ cs ≠ [] ∧ (∀ c ∈ cs, c.isDigit = true) ∧ value cs = n := by
  cases cs with
  | nil => simp [nat?]
  | cons c cs =>
      have hvalue : value (c :: cs)
          = ofDigits ((c :: cs).map fun c => c.toNat - '0'.toNat) := by
        rw [ofDigits_eq, value, List.map_reverse]
      simp only [nat?, List.isEmpty_cons, Bool.false_eq_true, if_false, Option.map_eq_some_iff,
        mapM_digit?_eq_some_iff, hvalue]
      constructor
      · rintro ⟨_, ⟨hdigits, rfl⟩, rfl⟩
        exact ⟨List.cons_ne_nil c cs, hdigits, rfl⟩
      · rintro ⟨-, hdigits, rfl⟩
        exact ⟨_, ⟨hdigits, rfl⟩, rfl⟩

theorem signed?_eq_some_iff {cs : List Char} {n : Int} : signed? cs = some n ↔ Spells cs n := by
  have hplain (ds : List Char) : (nat? ds).map Int.ofNat = some n
      ↔ ds ≠ [] ∧ (∀ c ∈ ds, c.isDigit = true) ∧ (value ds : Int) = n := by
    simp only [Option.map_eq_some_iff, nat?_eq_some_iff]
    constructor
    · rintro ⟨_, ⟨hne, hdigits, rfl⟩, rfl⟩
      exact ⟨hne, hdigits, rfl⟩
    · rintro ⟨hne, hdigits, rfl⟩
      exact ⟨_, ⟨hne, hdigits, rfl⟩, rfl⟩
  constructor
  · intro h
    unfold signed? at h
    split at h
    · next ds =>
        obtain ⟨_, hmagnitude, rfl⟩ := Option.map_eq_some_iff.mp h
        obtain ⟨_, hnat, hm⟩ := Option.bind_eq_some_iff.mp hmagnitude
        obtain rfl := Option.some.inj hm
        obtain ⟨hne, hdigits, rfl⟩ := nat?_eq_some_iff.mp hnat
        exact .minus hne hdigits
    · obtain ⟨hne, hdigits, rfl⟩ := (hplain _).mp h
      exact .plus hne hdigits
    · obtain ⟨hne, hdigits, rfl⟩ := (hplain _).mp h
      exact .plain hne hdigits
  · intro h
    cases h with
    | minus hne hdigits =>
        rw [signed?, nat?_eq_some_iff.mpr ⟨hne, hdigits, rfl⟩]
        rfl
    | plus hne hdigits => exact (hplain _).mpr ⟨hne, hdigits, rfl⟩
    | plain hne hdigits =>
        -- A digit is no sign, so the numeral is read from its first character.
        unfold signed?
        split
        · cases hdigits '-' List.mem_cons_self
        · cases hdigits '+' List.mem_cons_self
        · exact (hplain _).mpr ⟨hne, hdigits, rfl⟩

theorem unsigned?_eq_some_iff {cs : List Char} {n : Nat} :
    unsigned? cs = some n ↔ SpellsNat cs n := by
  unfold SpellsNat unsigned?
  split
  · next ds =>
      rw [nat?_eq_some_iff]
      constructor
      · rintro ⟨hne, hdigits, hvalue⟩
        exact ⟨ds, .inr rfl, hne, hdigits, hvalue⟩
      · rintro ⟨ds', hds | hds, hne, hdigits, hvalue⟩
        · -- The sign would have to be a digit.
          cases hdigits '+' (hds ▸ List.mem_cons_self)
        · obtain rfl := (List.cons.inj hds).2
          exact ⟨hne, hdigits, hvalue⟩
  · next hsign =>
      rw [nat?_eq_some_iff]
      constructor
      · rintro ⟨hne, hdigits, hvalue⟩
        exact ⟨cs, .inl rfl, hne, hdigits, hvalue⟩
      · rintro ⟨ds, rfl | hds, hne, hdigits, hvalue⟩
        · exact ⟨hne, hdigits, hvalue⟩
        · exact absurd hds (hsign ds)

theorem SpellsNat.unique {cs : List Char} {m n : Nat} (h : SpellsNat cs m) (h' : SpellsNat cs n) :
    m = n :=
  Option.some.inj ((unsigned?_eq_some_iff.mpr h).symm.trans (unsigned?_eq_some_iff.mpr h'))

end Decimal

end TrackerGate
