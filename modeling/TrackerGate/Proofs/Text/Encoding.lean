import TrackerGate.Octets

/-!
# Characters as octets

The UTF-8 encoding of a text, character by character. An ASCII character is a single octet
below 0x80, its own code, and every octet of any other character is at least 0x80. So whoever
looks at octets one by one, and only asks for ASCII characters, does not mistake a part of
another character for one of them.
-/

namespace TrackerGate

namespace Octets

/-! ## Lists of characters -/

theorem ofText_ofList (cs : List Char) :
    ofText (String.ofList cs) = cs.flatMap String.utf8EncodeChar := by
  rw [ofText, String.toUTF8, String.toByteArray_ofList, List.utf8Encode]
  simp

theorem ofText_append (s t : String) : ofText (s ++ t) = ofText s ++ ofText t := by
  rw [ofText, String.toUTF8, String.toByteArray_append]
  simp [ofText, String.toUTF8]

/-! ## ASCII -/

/-- Of octets everything can be found out by going through all of them. -/
theorem forall_of_lt {P : UInt8 → Prop} (h : ∀ n < 256, P (UInt8.ofNat n)) (b : UInt8) : P b := by
  have hb := h b.toNat b.toNat_lt
  rwa [UInt8.ofNat_toNat] at hb

theorem toNat_ofNat_octet (b : UInt8) : (Char.ofNat b.toNat).toNat = b.toNat := by
  have hlt : b.toNat < 256 := b.toNat_lt
  have hvalid : b.toNat.isValidChar := .inl (by omega)
  unfold Char.ofNat
  rw [dif_pos hvalid]
  rfl

theorem utf8EncodeChar_octet {b : UInt8} (h : b < 0x80) :
    String.utf8EncodeChar (Char.ofNat b.toNat) = [b] := by
  have hlt : b.toNat < 128 := UInt8.lt_iff_toNat_lt.mp h
  have hval : (Char.ofNat b.toNat).val.toNat = b.toNat := toNat_ofNat_octet b
  simp only [String.utf8EncodeChar, hval]
  rw [if_pos (by omega), UInt8.ofNat_toNat]

/-- ASCII octets become characters and octets again one by one. -/
theorem ofText_ofList_ascii {o : Octets} (h : ∀ b ∈ o, b < 0x80) :
    ofText (String.ofList (o.map fun b => Char.ofNat b.toNat)) = o := by
  rw [ofText_ofList]
  induction o with
  | nil => rfl
  | cons b o ih =>
      rw [List.map_cons, List.flatMap_cons, utf8EncodeChar_octet (h b List.mem_cons_self),
        ih fun x hx => h x (List.mem_cons_of_mem b hx)]
      rfl

/-- No octet of a character beyond ASCII is that of an ASCII character. -/
theorem le_of_mem_utf8EncodeChar {c : Char} (h : 0x80 ≤ c.toNat) {b : UInt8}
    (hb : b ∈ String.utf8EncodeChar c) : 0x80 ≤ b := by
  have hval : c.val.toNat = c.toNat := rfl
  have hoctet {n : Nat} (hlow : 128 ≤ n) (hhigh : n < 256) : (0x80 : UInt8) ≤ UInt8.ofNat n := by
    rw [UInt8.le_iff_toNat_le, UInt8.toNat_ofNat', Nat.mod_eq_of_lt hhigh]
    exact hlow
  simp only [String.utf8EncodeChar, hval] at hb
  rw [if_neg (by omega)] at hb
  split at hb
  · simp only [List.mem_cons, List.not_mem_nil, or_false] at hb
    rcases hb with rfl | rfl
    all_goals exact hoctet (by omega) (by omega)
  · split at hb
    · simp only [List.mem_cons, List.not_mem_nil, or_false] at hb
      rcases hb with rfl | rfl | rfl
      all_goals exact hoctet (by omega) (by omega)
    · simp only [List.mem_cons, List.not_mem_nil, or_false] at hb
      rcases hb with rfl | rfl | rfl | rfl
      all_goals exact hoctet (by omega) (by omega)

end Octets

end TrackerGate
