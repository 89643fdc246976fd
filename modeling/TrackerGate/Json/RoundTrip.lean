import TrackerGate.Json.Reader

/-!
# What is printed is read back

The main statements are `value?_print` and `parse?_print`: a canonical value is read
back from its printed form, whatever follows it, unless what follows prolongs a
numeral (`EndsNumeral`). The readers of values, items and members call each other with
one step less, so the induction is on the number of steps; each of its three steps is
a lemma of its own, and the number that is needed is bounded by the length of what was
printed.
-/

namespace TrackerGate

namespace Json

/-! ## Canonical values

A value can be held in more than one way: a literal may use an escape where none is
needed, and a numeral with a fraction is kept as it was met. `Canonical` values are
those that are held as they are written here: every literal is the written form of
some octets, and no numeral is kept as a lexeme. Whatever is built from the library's
own types is canonical. -/

def Literal.Canonical (l : Literal) : Prop := ∃ o, l = Literal.ofOctets o

mutual

def Canonical : Json → Prop
  | .real _ => False
  | .str literal => literal.Canonical
  | .arr items => CanonicalItems items
  | .obj members => CanonicalMembers members
  | .null | .bool _ | .int _ => True

def CanonicalItems : List Json → Prop
  | [] => True
  | item :: items => Canonical item ∧ CanonicalItems items

def CanonicalMembers : List (Literal × Json) → Prop
  | [] => True
  | (name, value) :: members => name.Canonical ∧ Canonical value ∧ CanonicalMembers members

end

theorem canonicalItems_iff {items : List Json} :
    CanonicalItems items ↔ ∀ item ∈ items, item.Canonical := by
  induction items with
  | nil => simp [CanonicalItems]
  | cons item items ih => simp [CanonicalItems, ih]

theorem canonicalMembers_iff {members : List (Literal × Json)} :
    CanonicalMembers members ↔ ∀ m ∈ members, m.1.Canonical ∧ m.2.Canonical := by
  induction members with
  | nil => simp [CanonicalMembers]
  | cons m members ih => simp [CanonicalMembers, ih, and_assoc]

theorem Literal.canonical_ofText (s : String) : (Literal.ofText s).Canonical := ⟨_, rfl⟩

theorem canonical_ofText (s : String) : (ofText s).Canonical := Literal.canonical_ofText s

theorem canonical_record {members : List (String × Json)} (h : ∀ m ∈ members, m.2.Canonical) :
    (record members).Canonical := by
  refine canonicalMembers_iff.mpr fun m hm => ?_
  obtain ⟨e, he, rfl⟩ := List.mem_map.mp hm
  exact ⟨Literal.canonical_ofText e.1, h e he⟩

/-! ## Numerals -/

/-- What may stand behind a numeral without becoming a part of it. -/
def EndsNumeral (rest : Octets) : Prop :=
  ∀ b ∈ rest.head?, isDigit b = false ∧ b ≠ Mark.point ∧ b ≠ 0x65 ∧ b ≠ 0x45

theorem endsNumeral_nil : EndsNumeral [] := by simp [EndsNumeral]

theorem isDigit_digitOctet {d : Nat} (h : d < 10) : isDigit (digitOctet d) = true := by
  have all : ∀ d < 10, isDigit (digitOctet d) = true := by decide
  exact all d h

theorem toNat_digitOctet {d : Nat} (h : d < 10) : (digitOctet d).toNat - 0x30 = d := by
  have all : ∀ d < 10, (digitOctet d).toNat - 0x30 = d := by decide
  exact all d h

theorem isDigit_of_mem_printNat {n : Nat} {b : UInt8} (h : b ∈ printNat n) : isDigit b = true := by
  obtain ⟨d, hd, rfl⟩ := List.mem_map.mp h
  exact isDigit_digitOctet (Decimal.lt_ten_of_mem_digits hd)

theorem printNat_ne_nil (n : Nat) : printNat n ≠ [] := by
  simp [printNat, Decimal.digits_ne_nil]

theorem digitsValue_printNat (n : Nat) : digitsValue (printNat n) = n := by
  have h : (printNat n).map (fun b => b.toNat - 0x30) = Decimal.digits n := by
    rw [printNat, List.map_map]
    conv => rhs; rw [← List.map_id (Decimal.digits n)]
    exact List.map_congr_left fun d hd => toNat_digitOctet (Decimal.lt_ten_of_mem_digits hd)
  rw [digitsValue, h, Decimal.ofDigits_digits]

theorem takeWhile_printNat (n : Nat) {rest : Octets} (h : EndsNumeral rest) :
    (printNat n ++ rest).takeWhile isDigit = printNat n := by
  rw [List.takeWhile_append_of_pos fun b hb => isDigit_of_mem_printNat hb]
  cases rest with
  | nil => simp
  | cons b rest => simp [(h b rfl).1]

theorem dropWhile_printNat (n : Nat) {rest : Octets} (h : EndsNumeral rest) :
    (printNat n ++ rest).dropWhile isDigit = rest := by
  rw [List.dropWhile_append_of_pos fun b hb => isDigit_of_mem_printNat hb]
  cases rest with
  | nil => simp
  | cons b rest => simp [(h b rfl).1]

theorem head?_printNat_of_pos {n : Nat} (h : 0 < n) : (printNat n).head? ≠ some Mark.zero := by
  intro hz
  rw [printNat, List.head?_map, Option.map_eq_some_iff] at hz
  obtain ⟨d, hd, hz⟩ := hz
  have hlt : d < 10 := Decimal.lt_ten_of_mem_digits (List.mem_of_mem_head? hd)
  have hd0 : d = 0 := by rw [← toNat_digitOctet hlt, hz]; rfl
  exact Decimal.head?_digits_of_pos h (hd0 ▸ hd)

theorem wholePart_printNat (n : Nat) {rest : Octets} (h : EndsNumeral rest) :
    wholePart (printNat n ++ rest) = some (printNat n, rest) := by
  simp only [wholePart, takeWhile_printNat n h, dropWhile_printNat n h]
  rw [if_neg]
  rcases Nat.eq_zero_or_pos n with rfl | hn
  · simp [printNat, Decimal.digits]
  · simp [printNat_ne_nil, head?_printNat_of_pos hn]

theorem fraction_of_endsNumeral {rest : Octets} (h : EndsNumeral rest) :
    fraction rest = some (false, rest) := by
  cases rest with
  | nil => rfl
  | cons b rest => simp [fraction, (h b rfl).2.1]

theorem exponent_of_endsNumeral {rest : Octets} (h : EndsNumeral rest) :
    exponent rest = some (false, rest) := by
  cases rest with
  | nil => rfl
  | cons b rest => simp [exponent, (h b rfl).2.2]

theorem magnitude_printNat (negative : Bool) {n : Nat} {rest : Octets}
    (hn : negative = true → n ≠ 0) (h : EndsNumeral rest) :
    magnitude negative (printNat n ++ rest)
      = some (.int (if negative then -(n : Int) else n), rest) := by
  simp only [magnitude, wholePart_printNat n h, fraction_of_endsNumeral h,
    exponent_of_endsNumeral h, digitsValue_printNat, Option.bind_eq_bind, Option.bind_some]
  rw [if_neg]
  · rfl
  · cases negative <;> simp_all

theorem number_printInt (n : Int) {rest : Octets} (h : EndsNumeral rest) :
    number (printInt n ++ rest) = some (.int n, rest) := by
  cases n with
  | ofNat n =>
      obtain ⟨b, o, ho⟩ := List.exists_cons_of_ne_nil (printNat_ne_nil n)
      have hb : b ≠ Mark.minus := by
        rintro rfl
        have := isDigit_of_mem_printNat (n := n) (ho ▸ List.mem_cons_self)
        exact absurd this (by decide)
      have hm := magnitude_printNat false (n := n) nofun h
      simp only [printInt, ho, List.cons_append, number, if_neg hb] at hm ⊢
      simpa using hm
  | negSucc n =>
      have hm := magnitude_printNat true (n := n + 1) (fun _ => n.succ_ne_zero) h
      simp only [printInt, List.cons_append, number, if_pos, hm]
      simp [Int.negSucc_eq]

/-! ## Values -/

theorem skipSpace_cons {b : UInt8} (h : isSpace b = false) (rest : Octets) :
    skipSpace (b :: rest) = b :: rest := by
  simp [skipSpace, h]

/-- Whether a numeral can start with an octet. -/
def startsNumeral (b : UInt8) : Bool := isDigit b || b == Mark.minus

theorem isSpace_of_startsNumeral {b : UInt8} (h : startsNumeral b = true) : isSpace b = false := by
  refine Bool.eq_false_iff.mpr fun hs => ?_
  simp only [isSpace, Bool.or_eq_true, beq_iff_eq] at hs
  rcases hs with ((rfl | rfl) | rfl) | rfl <;> exact absurd h (by decide)

theorem value_of_startsNumeral {b : UInt8} (h : startsNumeral b = true) (fuel : Nat)
    (rest : Octets) : value (fuel + 1) (b :: rest) = number (b :: rest) := by
  have hne {m : UInt8} (hm : startsNumeral m = false) : b ≠ m := by
    rintro rfl
    simp [h] at hm
  rw [value]
  simp [skipSpace_cons (isSpace_of_startsNumeral h), hne (m := Mark.quote) rfl,
    hne (m := Mark.openBracket) rfl, hne (m := Mark.openBrace) rfl, hne (m := 0x6E) rfl,
    hne (m := 0x74) rfl, hne (m := 0x66) rfl]

theorem exists_startsNumeral (n : Int) : ∃ b o, printInt n = b :: o ∧ startsNumeral b = true := by
  cases n with
  | ofNat n =>
      obtain ⟨b, o, ho⟩ := List.exists_cons_of_ne_nil (printNat_ne_nil n)
      have hb := isDigit_of_mem_printNat (n := n) (ho ▸ List.mem_cons_self)
      exact ⟨b, o, ho, by simp [startsNumeral, hb]⟩
  | negSucc n => exact ⟨_, _, rfl, rfl⟩

theorem value_printInt (n : Int) (fuel : Nat) {rest : Octets} (h : EndsNumeral rest) :
    value (fuel + 1) (printInt n ++ rest) = some (.int n, rest) := by
  obtain ⟨b, o, ho, hb⟩ := exists_startsNumeral n
  rw [← number_printInt n h, ho, List.cons_append, value_of_startsNumeral hb]

theorem value_literal (o : Octets) (fuel : Nat) (rest : Octets) :
    value (fuel + 1) (Literal.print (.ofOctets o) ++ rest) = some (.str (.ofOctets o), rest) := by
  rw [value, Literal.print, List.append_assoc, List.cons_append, skipSpace_cons (by decide)]
  simp [Literal.scan_ofOctets]

/-- A canonical value starts with an octet that is no blank and closes nothing. -/
theorem exists_head_print {j : Json} (h : j.Canonical) :
    ∃ b o, print j = b :: o ∧ isSpace b = false ∧ b ≠ Mark.closeBracket := by
  cases j with
  | null => exact ⟨_, _, rfl, by decide, by decide⟩
  | bool b => cases b <;> exact ⟨_, _, rfl, by decide, by decide⟩
  | int n =>
      obtain ⟨b, o, ho, hb⟩ := exists_startsNumeral n
      refine ⟨b, o, by rw [print, ho], isSpace_of_startsNumeral hb, ?_⟩
      rintro rfl
      exact absurd hb (by decide)
  | real _ => simp [Canonical] at h
  | str _ => exact ⟨_, _, by rw [print, Literal.print, List.cons_append], by decide, by decide⟩
  | arr _ => exact ⟨_, _, by rw [print, List.cons_append], by decide, by decide⟩
  | obj _ => exact ⟨_, _, by rw [print, List.cons_append], by decide, by decide⟩

theorem printItems_cons (item : Json) (items : List Json) :
    printItems (item :: items)
      = print item ++ if items.isEmpty then [] else Mark.comma :: printItems items := by
  cases items <;> simp [printItems]

theorem printMembers_cons (name : Literal) (j : Json) (members : List (Literal × Json)) :
    printMembers ((name, j) :: members)
      = name.print ++ Mark.colon :: print j
        ++ if members.isEmpty then [] else Mark.comma :: printMembers members := by
  cases members <;> simp [printMembers]

theorem endsNumeral_cons {b : UInt8}
    (h : b = Mark.comma ∨ b = Mark.closeBracket ∨ b = Mark.closeBrace) (rest : Octets) :
    EndsNumeral (b :: rest) := by
  rintro c hc
  cases hc
  rcases h with rfl | rfl | rfl <;> decide

/-- In front of an item that is there, an opening bracket starts an array. -/
theorem value_openBracket {b : UInt8} (hs : isSpace b = false) (hc : b ≠ Mark.closeBracket)
    (fuel : Nat) (input : Octets) :
    value (fuel + 1) (Mark.openBracket :: b :: input)
      = (items fuel (b :: input)).map fun (js, rest) => (.arr js, rest) := by
  rw [value, skipSpace_cons (by decide)]
  simp [skipSpace_cons hs, hc, show Mark.openBracket ≠ Mark.quote by decide]

theorem value_openBrace (fuel : Nat) (input : Octets) :
    value (fuel + 1) (Mark.openBrace :: Mark.quote :: input)
      = (members fuel (Mark.quote :: input)).map fun (ms, rest) => (.obj ms, rest) := rfl

theorem members_literal (o : Octets) (fuel : Nat) (input : Octets) :
    members (fuel + 1) (Literal.print (.ofOctets o) ++ Mark.colon :: input)
      = match value fuel input with
        | none => none
        | some (j, rest) =>
            match skipSpace rest with
            | [] => none
            | d :: after =>
                if d = Mark.comma then
                  (members fuel after).map fun (ms, rest) => ((.ofOctets o, j) :: ms, rest)
                else if d = Mark.closeBrace then some ([(.ofOctets o, j)], after)
                else none := by
  rw [members, Literal.print, List.append_assoc, List.cons_append, skipSpace_cons (by decide)]
  simp only [if_pos, List.singleton_append, Literal.scan_ofOctets]
  rw [skipSpace_cons (by decide)]
  rfl

/-! ## Steps

`ReadsValues fuel`, `ReadsItems fuel` and `ReadsMembers fuel` say that `fuel` steps are
enough for everything whose printed form is short enough. Each reader gets from `fuel`
steps to one more on the strength of the readers that it calls. -/

def ReadsValues (fuel : Nat) : Prop :=
  ∀ j rest, Canonical j → 2 * (print j).length ≤ fuel + 1 → EndsNumeral rest →
    value fuel (print j ++ rest) = some (j, rest)

def ReadsItems (fuel : Nat) : Prop :=
  ∀ js rest, js ≠ [] → CanonicalItems js → 2 * (printItems js).length ≤ fuel →
    items fuel (printItems js ++ Mark.closeBracket :: rest) = some (js, rest)

def ReadsMembers (fuel : Nat) : Prop :=
  ∀ ms rest, ms ≠ [] → CanonicalMembers ms → 2 * (printMembers ms).length ≤ fuel →
    members fuel (printMembers ms ++ Mark.closeBrace :: rest) = some (ms, rest)

theorem readsValues_succ {fuel : Nat} (hi : ReadsItems fuel) (hm : ReadsMembers fuel) :
    ReadsValues (fuel + 1) := by
  intro j rest hj hfuel hrest
  match j with
  | .null => rfl
  | .bool true => rfl
  | .bool false => rfl
  | .int n =>
      rw [print]
      exact value_printInt n fuel hrest
  | .real _ => simp [Canonical] at hj
  | .str l =>
      obtain ⟨o, rfl⟩ := hj
      rw [print]
      exact value_literal o fuel rest
  | .arr [] => rfl
  | .arr (item :: items) =>
      have hi := hi (item :: items) rest nofun hj (by simp [print] at hfuel; omega)
      obtain ⟨b, o, hb, hs, hc⟩ := exists_head_print hj.1
      rw [printItems_cons, hb] at hi
      rw [print, printItems_cons, hb]
      simp only [List.cons_append, List.append_assoc, List.nil_append] at hi ⊢
      rw [value_openBracket hs hc, hi]
      rfl
  | .obj [] => rfl
  | .obj ((name, j) :: members) =>
      have hm := hm ((name, j) :: members) rest nofun hj (by simp [print] at hfuel; omega)
      rw [printMembers_cons, Literal.print] at hm
      rw [print, printMembers_cons, Literal.print]
      simp only [List.cons_append, List.append_assoc, List.nil_append] at hm ⊢
      rw [value_openBrace, hm]
      rfl

theorem readsItems_succ {fuel : Nat} (hv : ReadsValues fuel) (hi : ReadsItems fuel) :
    ReadsItems (fuel + 1) := by
  intro js rest hne hjs hfuel
  match js with
  | [] => contradiction
  | [item] =>
      rw [printItems] at hfuel ⊢
      rw [items, hv _ _ hjs.1 (by omega) (endsNumeral_cons (by simp) rest)]
      rfl
  | item :: next :: more =>
      have hp : printItems (item :: next :: more)
          = print item ++ Mark.comma :: printItems (next :: more) := rfl
      rw [hp] at hfuel ⊢
      simp only [List.length_append, List.length_cons] at hfuel
      rw [List.append_assoc, List.cons_append, items,
        hv _ _ hjs.1 (by omega) (endsNumeral_cons (by simp) _)]
      simp [skipSpace_cons, show isSpace Mark.comma = false by decide,
        hi _ rest (List.cons_ne_nil next more) hjs.2 (by omega)]

theorem readsMembers_succ {fuel : Nat} (hv : ReadsValues fuel) (hm : ReadsMembers fuel) :
    ReadsMembers (fuel + 1) := by
  intro ms rest hne hms hfuel
  match ms with
  | [] => contradiction
  | [(name, j)] =>
      obtain ⟨⟨o, rfl⟩, hj, -⟩ := hms
      rw [printMembers] at hfuel ⊢
      simp only [List.length_append, List.length_cons] at hfuel
      rw [List.append_assoc, List.cons_append, members_literal,
        hv _ _ hj (by omega) (endsNumeral_cons (by simp) rest)]
      rfl
  | (name, j) :: next :: more =>
      obtain ⟨⟨o, rfl⟩, hj, hmore⟩ := hms
      have hp : printMembers ((.ofOctets o, j) :: next :: more)
          = Literal.print (.ofOctets o) ++ Mark.colon :: print j
            ++ Mark.comma :: printMembers (next :: more) := rfl
      rw [hp] at hfuel ⊢
      simp only [List.length_append, List.length_cons] at hfuel
      simp only [List.append_assoc, List.cons_append]
      rw [members_literal, hv _ _ hj (by omega) (endsNumeral_cons (by simp) _)]
      simp [skipSpace_cons, show isSpace Mark.comma = false by decide,
        hm _ rest (List.cons_ne_nil next more) hmore (by omega)]

theorem reads (fuel : Nat) : ReadsValues fuel ∧ ReadsItems fuel ∧ ReadsMembers fuel := by
  induction fuel with
  | zero =>
      refine ⟨fun j rest hj h => ?_, fun js rest hne hjs h => ?_, fun ms rest hne hms h => ?_⟩
      · obtain ⟨b, o, hb, -, -⟩ := exists_head_print hj
        simp [hb] at h
        omega
      · obtain ⟨j, js, rfl⟩ := List.exists_cons_of_ne_nil hne
        obtain ⟨b, o, hb, -, -⟩ := exists_head_print hjs.1
        simp [printItems_cons, hb] at h
      · obtain ⟨⟨name, j⟩, ms, rfl⟩ := List.exists_cons_of_ne_nil hne
        simp [printMembers_cons, Literal.print] at h
  | succ fuel ih =>
      obtain ⟨hv, hi, hm⟩ := ih
      exact ⟨readsValues_succ hi hm, readsItems_succ hv hi, readsMembers_succ hv hm⟩

/-! ## What is printed is read back -/

/-- A value is taken off the front of the input, whatever follows it. -/
theorem value?_print {j : Json} (h : j.Canonical) {rest : Octets} (hrest : EndsNumeral rest) :
    value? (print j ++ rest) = some (j, rest) :=
  (reads _).1 j rest h (by simp; omega) hrest

theorem parse?_print {j : Json} (h : j.Canonical) : parse? (print j) = some j := by
  have hv := value?_print h endsNumeral_nil
  rw [List.append_nil] at hv
  simp [parse?, hv, skipSpace]

end Json

end TrackerGate
