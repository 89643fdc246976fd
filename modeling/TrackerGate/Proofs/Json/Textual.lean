import TrackerGate.Json.Record
import TrackerGate.Json.RoundTrip
import TrackerGate.Proofs.Text.Encoding

/-!
# What is written is text

Values are printed to octets, literal by literal and octet by octet, and nothing in the printer
looks after characters. All the same a `Textual` value, one whose strings and member names were
written for texts, is printed to a text (`Textual.isText_print`). For a literal this is an
induction along the characters: those that are escaped are ASCII, and so are their escapes, and
all octets of any other character stand for themselves.

Whatever the library's own types are written as is textual, so it can be handed on as a text and
is read back from it (`decode?_print`). If it also holds of a type that reading undoes
writing, then the texts of the type are as good as its values (`Inverts`).
-/

namespace TrackerGate

/-! ## Octets that are a text -/

namespace Octets

/-- The octets are the encoding of a text. -/
def IsText (o : Octets) : Prop := ∃ s, ofText s = o

theorem isText_nil : IsText [] := ⟨"", rfl⟩

theorem IsText.append {o o' : Octets} (h : IsText o) (h' : IsText o') : IsText (o ++ o') := by
  obtain ⟨s, rfl⟩ := h
  obtain ⟨s', rfl⟩ := h'
  exact ⟨s ++ s', ofText_append s s'⟩

theorem isText_ascii {o : Octets} (h : ∀ b ∈ o, b < 0x80) : IsText o :=
  ⟨_, ofText_ofList_ascii h⟩

theorem isText_singleton {b : UInt8} (h : b < 0x80) : IsText [b] :=
  isText_ascii fun _ hx => List.mem_singleton.mp hx ▸ h

theorem isText_flatMap {α : Type} {l : List α} {f : α → Octets} (h : ∀ a ∈ l, IsText (f a)) :
    IsText (l.flatMap f) := by
  induction l with
  | nil => exact isText_nil
  | cons a l ih =>
      rw [List.flatMap_cons]
      exact (h a List.mem_cons_self).append (ih fun b hb => h b (List.mem_cons_of_mem a hb))

theorem IsText.ofText_shown {o : Octets} (h : IsText o) : ofText o.shown = o := by
  obtain ⟨s, rfl⟩ := h
  rw [shown, toText?_ofText]
  rfl

end Octets

namespace Json

open Octets (IsText isText_ascii isText_singleton)

/-! ## Literals -/

namespace Literal

/-- An ASCII character is written in ASCII, whether it is escaped or not. -/
theorem lt_of_mem_printUnit {b : UInt8} (h : b < 0x80) {x : UInt8}
    (hx : x ∈ printUnit (unitOf b)) : x < 0x80 := by
  have all : ∀ n < 128, (printUnit (unitOf (UInt8.ofNat n))).all (· < 0x80) = true := by
    decide +kernel
  have hall := all b.toNat (UInt8.lt_iff_toNat_lt.mp h)
  rw [UInt8.ofNat_toNat] at hall
  exact of_decide_eq_true (List.all_eq_true.mp hall x hx)

/-- No other octet is escaped. -/
theorem printUnit_unitOf_of_le {b : UInt8} (h : 0x80 ≤ b) : printUnit (unitOf b) = [b] := by
  have hshort : b ∉ shortOctets := by
    intro hmem
    simp only [shortOctets, List.mem_cons, List.not_mem_nil, or_false] at hmem
    rcases hmem with rfl | rfl | rfl | rfl | rfl | rfl | rfl <;> exact absurd h (by decide)
  have hcontrol : ¬ b < 0x20 := fun hlt => absurd (UInt8.lt_of_le_of_lt h hlt) (by decide)
  rw [unitOf, if_neg hshort, if_neg hcontrol, printUnit]

theorem flatMap_printUnit_of_le {o : Octets} (h : ∀ b ∈ o, 0x80 ≤ b) :
    o.flatMap (fun b => printUnit (unitOf b)) = o := by
  induction o with
  | nil => rfl
  | cons b o ih =>
      rw [List.flatMap_cons, printUnit_unitOf_of_le (h b List.mem_cons_self),
        ih fun x hx => h x (List.mem_cons_of_mem b hx)]
      rfl

theorem isText_print_char (c : Char) :
    IsText ((String.utf8EncodeChar c).flatMap fun b => printUnit (unitOf b)) := by
  by_cases hc : c.toNat < 128
  · -- The only octet of the character is its code.
    have hoctet : (UInt8.ofNat c.toNat).toNat = c.toNat := by
      rw [UInt8.toNat_ofNat']
      omega
    have hlt : UInt8.ofNat c.toNat < 0x80 := by
      rw [UInt8.lt_iff_toNat_lt, hoctet]
      exact hc
    have hencode := Octets.utf8EncodeChar_octet hlt
    rw [hoctet, Char.ofNat_toNat] at hencode
    rw [hencode, List.flatMap_cons, List.flatMap_nil, List.append_nil]
    exact isText_ascii fun x hx => lt_of_mem_printUnit hlt hx
  · rw [flatMap_printUnit_of_le fun b =>
      Octets.le_of_mem_utf8EncodeChar (Nat.le_of_not_lt hc)]
    exact ⟨String.ofList [c], by rw [Octets.ofText_ofList]; simp⟩

theorem isText_print_ofText (s : String) : IsText (print (ofText s)) := by
  have hbody : (ofText s).flatMap printUnit
      = s.toList.flatMap fun c =>
          (String.utf8EncodeChar c).flatMap fun b => printUnit (unitOf b) := by
    rw [ofText, ofOctets, List.flatMap_map]
    conv => lhs; rw [← String.ofList_toList (s := s), Octets.ofText_ofList, List.flatMap_assoc]
  have hquote : IsText [Mark.quote] := isText_singleton (by decide)
  rw [print, hbody]
  exact (hquote.append (Octets.isText_flatMap fun c _ => isText_print_char c)).append hquote

end Literal

/-! ## Values -/

/-- The strings and the member names of the value were written for texts, and no numeral is kept
as it was met. -/
inductive Textual : Json → Prop where
  | null : Textual .null
  | bool (b : Bool) : Textual (.bool b)
  | int (n : Int) : Textual (.int n)
  | text (s : String) : Textual (ofText s)
  | arr {items : List Json} (hitems : ∀ item ∈ items, Textual item) : Textual (.arr items)
  | obj {members : List (Literal × Json)} (hnames : ∀ m ∈ members, ∃ s, m.1 = Literal.ofText s)
      (hvalues : ∀ m ∈ members, Textual m.2) : Textual (.obj members)

theorem Textual.canonical {j : Json} (h : j.Textual) : j.Canonical := by
  induction h with
  | null => trivial
  | bool b => trivial
  | int n => trivial
  | text s => exact canonical_ofText s
  | arr hitems ih => exact canonicalItems_iff.mpr ih
  | obj hnames hvalues ih =>
      refine canonicalMembers_iff.mpr fun m hm => ?_
      obtain ⟨s, hs⟩ := hnames m hm
      exact ⟨hs ▸ Literal.canonical_ofText s, ih m hm⟩

theorem textual_ofOption {α : Type} {f : α → Json} (hf : ∀ a, (f a).Textual) (o : Option α) :
    (ofOption f o).Textual := by
  cases o with
  | none => exact .null
  | some a => exact hf a

theorem textual_record {members : List (String × Json)} (h : ∀ m ∈ members, m.2.Textual) :
    (record members).Textual := by
  refine .obj (fun m hm => ?_) fun m hm => ?_
  · obtain ⟨e, -, rfl⟩ := List.mem_map.mp hm
    exact ⟨e.1, rfl⟩
  · obtain ⟨e, he, rfl⟩ := List.mem_map.mp hm
    exact h e he

/-! ## Printing -/

theorem lt_of_mem_printInt {n : Int} {b : UInt8} (h : b ∈ printInt n) : b < 0x80 := by
  have hdigit {m : Nat} {b : UInt8} (h : b ∈ printNat m) : b < 0x80 := by
    have hb := isDigit_of_mem_printNat h
    simp only [isDigit, Bool.and_eq_true, decide_eq_true_eq] at hb
    exact UInt8.lt_of_le_of_lt hb.2 (by decide)
  cases n with
  | ofNat n => exact hdigit h
  | negSucc n =>
      rcases List.mem_cons.mp h with rfl | h
      · decide
      · exact hdigit h

theorem isText_printItems {items : List Json} (h : ∀ item ∈ items, IsText item.print) :
    IsText (printItems items) := by
  induction items with
  | nil => exact Octets.isText_nil
  | cons item items ih =>
      obtain ⟨hfirst, hrest⟩ := List.forall_mem_cons.mp h
      have hcomma : IsText [Mark.comma] := isText_singleton (by decide)
      rw [printItems_cons]
      split
      · exact hfirst.append Octets.isText_nil
      · exact hfirst.append (hcomma.append (ih hrest))

theorem isText_printMembers {members : List (Literal × Json)}
    (hnames : ∀ m ∈ members, IsText m.1.print) (hvalues : ∀ m ∈ members, IsText m.2.print) :
    IsText (printMembers members) := by
  induction members with
  | nil => exact Octets.isText_nil
  | cons m members ih =>
      obtain ⟨hname, hnames⟩ := List.forall_mem_cons.mp hnames
      obtain ⟨hvalue, hvalues⟩ := List.forall_mem_cons.mp hvalues
      have hcolon : IsText [Mark.colon] := isText_singleton (by decide)
      have hcomma : IsText [Mark.comma] := isText_singleton (by decide)
      have hmember := hname.append (hcolon.append hvalue)
      rw [printMembers_cons]
      split
      · exact hmember.append Octets.isText_nil
      · exact hmember.append (hcomma.append (ih hnames hvalues))

theorem Textual.isText_print {j : Json} (h : j.Textual) : IsText j.print := by
  induction h with
  | null =>
      rw [print]
      exact isText_ascii (by simp)
  | bool b =>
      cases b with
      | false =>
          rw [print]
          exact isText_ascii (by simp)
      | true =>
          rw [print]
          exact isText_ascii (by simp)
  | int n =>
      rw [print]
      exact isText_ascii fun b hb => lt_of_mem_printInt hb
  | text s =>
      rw [ofText, print]
      exact Literal.isText_print_ofText s
  | arr hitems ih =>
      have hopen : IsText [Mark.openBracket] := isText_singleton (by decide)
      have hclose : IsText [Mark.closeBracket] := isText_singleton (by decide)
      rw [print]
      exact (hopen.append (isText_printItems ih)).append hclose
  | obj hnames hvalues ih =>
      have hopen : IsText [Mark.openBrace] := isText_singleton (by decide)
      have hclose : IsText [Mark.closeBrace] := isText_singleton (by decide)
      rw [print]
      refine (hopen.append (isText_printMembers (fun m hm => ?_) ih)).append hclose
      obtain ⟨s, hs⟩ := hnames m hm
      exact hs ▸ Literal.isText_print_ofText s

/-! ## Texts of a type -/

variable {α : Type} {write : α → Json} {read : Json → Option α}

/-- The compact text of `a`. -/
def encode (write : α → Json) (a : α) : String := (write a).print.shown

def decode? (read : Json → Option α) (text : String) : Option α :=
  (parse? (Octets.ofText text)).bind read

theorem decode?_print {j : Json} (h : j.Textual) (read : Json → Option α) :
    decode? read j.print.shown = read j := by
  rw [decode?, h.isText_print.ofText_shown, parse?_print h.canonical, Option.bind_some]

/-- The values of a type go through texts and back. -/
structure Inverts (write : α → Json) (read : Json → Option α) : Prop where
  /-- The text is all that was printed. -/
  printed : ∀ a, Octets.ofText (encode write a) = (write a).print
  /-- The text of a value is decoded to the value. -/
  decode_encode : ∀ a, decode? read (encode write a) = some a
  /-- All texts that are decoded to a value, and no others, are written again as its own text. -/
  rewrite : ∀ text a, (decode? read text).map (encode write) = some (encode write a)
    ↔ decode? read text = some a

theorem inverts_of_textual (textual : ∀ a, (write a).Textual)
    (hread : ∀ a, read (write a) = some a) : Inverts write read := by
  have hdecode (a : α) : decode? read (encode write a) = some a :=
    (decode?_print (textual a) read).trans (hread a)
  refine ⟨fun a => (textual a).isText_print.ofText_shown, hdecode, fun text a => ⟨fun h => ?_, ?_⟩⟩
  · obtain ⟨b, hb, hsame⟩ := Option.map_eq_some_iff.mp h
    -- Values with one text are one value, as it can be decoded.
    have hvalue := (hdecode b).symm.trans (hsame ▸ hdecode a)
    rw [hb, hvalue]
  · intro h
    rw [h, Option.map_some]

/-! ## Leaving members out -/

/-- The object without the members that have one of the names. -/
def without (names : List String) : Json → Json
  | .obj members => .obj (members.filter fun m => !(m.1.text?.any names.contains))
  | j => j

theorem Textual.without {j : Json} (h : j.Textual) (names : List String) :
    (j.without names).Textual := by
  cases h with
  | obj hnames hvalues =>
      exact .obj (fun m hm => hnames m (List.mem_filter.mp hm).1)
        fun m hm => hvalues m (List.mem_filter.mp hm).1
  | null => exact .null
  | bool b => exact .bool b
  | int n => exact .int n
  | text s => exact .text s
  | arr hitems => exact .arr hitems

theorem without_record (names : List String) (members : List (String × Json)) :
    (record members).without names
      = record (members.filter fun m => !names.contains m.1) := by
  rw [record, Json.without, record, List.filter_map]
  congr 3
  funext m
  simp

theorem memberSlot_filter (names : List String) (members : List (String × Json)) (name : String) :
    memberSlot (members.filter fun m => !names.contains m.1) name
      = if name ∈ names then .absent else memberSlot members name := by
  induction members with
  | nil => simp [memberSlot_nil]
  | cons m members ih =>
      rw [List.filter_cons, memberSlot_cons]
      by_cases hdropped : m.1 ∈ names
      · rw [if_neg (by simpa using hdropped), ih]
        by_cases hname : m.1 = name
        · rw [if_pos (hname ▸ hdropped), if_pos (hname ▸ hdropped)]
        · rw [if_neg hname]
      · rw [if_pos (by simpa using hdropped), memberSlot_cons, ih]
        by_cases hname : m.1 = name
        · rw [if_pos hname, if_pos hname, if_neg (hname ▸ hdropped)]
        · rw [if_neg hname, if_neg hname]

/-- A record that names nothing twice may do without some of its members. -/
theorem record?_without {fields : List String} {members : List (String × Json)}
    (h : isSingular fields members = true) (names : List String) :
    ((record members).without names).record? fields
      = some fun name => if name ∈ names then .absent else memberSlot members name := by
  have hsingular : isSingular fields (members.filter fun m => !names.contains m.1) = true := by
    refine List.all_eq_true.mpr fun name hname => decide_eq_true ?_
    have hcount : members.countP (·.1 == name) ≤ 1 :=
      of_decide_eq_true (List.all_eq_true.mp h name hname)
    exact Nat.le_trans (List.Sublist.countP_le List.filter_sublist) hcount
  rw [without_record, record?_record hsingular]
  congr 1
  funext name
  exact memberSlot_filter names members name

theorem Slot.defaulted_unless {default a : α} {j : Json} (h : read j = some a) (p : Prop)
    [Decidable p] :
    Slot.defaulted default read (if p then .absent else .given j)
      = some (if p then default else a) := by
  by_cases hp : p
  · simp only [if_pos hp, Slot.defaulted]
  · simp only [if_neg hp, Slot.defaulted, h]

end Json

end TrackerGate
