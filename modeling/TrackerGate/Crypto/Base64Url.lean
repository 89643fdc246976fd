import TrackerGate.Octets

/-!
# Base64url

The unpadded URL-safe alphabet of RFC 4648. Reading is strict: no padding, no
foreign characters, no single leftover letter, and the bits of a last letter that
belong to no octet must be zero. So every list of octets has one written form, and
reading accepts nothing else (`decode?_eq_some_iff`).
-/

namespace TrackerGate

namespace Base64Url

/-- The letter of a value below 64. -/
def letter (v : Nat) : UInt8 :=
  if v < 26 then UInt8.ofNat (0x41 + v)
  else if v < 52 then UInt8.ofNat (0x61 + (v - 26))
  else if v < 62 then UInt8.ofNat (0x30 + (v - 52))
  else if v = 62 then 0x2D
  else 0x5F

def value? (b : UInt8) : Option Nat :=
  if 0x41 ≤ b ∧ b ≤ 0x5A then some (b.toNat - 0x41)
  else if 0x61 ≤ b ∧ b ≤ 0x7A then some (b.toNat - 0x61 + 26)
  else if 0x30 ≤ b ∧ b ≤ 0x39 then some (b.toNat - 0x30 + 52)
  else if b = 0x2D then some 62
  else if b = 0x5F then some 63
  else none

def encode : Octets → Octets
  | [] => []
  | [a] => [letter (a.toNat / 4), letter (a.toNat % 4 * 16)]
  | [a, b] =>
      [letter (a.toNat / 4), letter (a.toNat % 4 * 16 + b.toNat / 16), letter (b.toNat % 16 * 4)]
  | a :: b :: c :: rest =>
      letter (a.toNat / 4) :: letter (a.toNat % 4 * 16 + b.toNat / 16)
        :: letter (b.toNat % 16 * 4 + c.toNat / 64) :: letter (c.toNat % 64) :: encode rest

def decode? : Octets → Option Octets
  | [] => some []
  | [_] => none
  | [w, x] => do
      let w ← value? w
      let x ← value? x
      if x % 16 = 0 then some [UInt8.ofNat (w * 4 + x / 16)] else none
  | [w, x, y] => do
      let w ← value? w
      let x ← value? x
      let y ← value? y
      if y % 4 = 0 then some [UInt8.ofNat (w * 4 + x / 16), UInt8.ofNat (x % 16 * 16 + y / 4)]
      else none
  | w :: x :: y :: z :: rest => do
      let w ← value? w
      let x ← value? x
      let y ← value? y
      let z ← value? z
      let o ← decode? rest
      some (UInt8.ofNat (w * 4 + x / 16) :: UInt8.ofNat (x % 16 * 16 + y / 4)
        :: UInt8.ofNat (y % 4 * 64 + z) :: o)

/-! ## The written form -/

theorem value?_letter {v : Nat} (h : v < 64) : value? (letter v) = some v := by
  have all : ∀ v < 64, value? (letter v) = some v := by decide
  exact all v h

theorem ofNat_eq_of_toNat {n : Nat} {a : UInt8} (h : n = a.toNat) : UInt8.ofNat n = a := by
  rw [h, UInt8.ofNat_toNat]

/-- What is written is read back. -/
theorem decode?_encode (o : Octets) : decode? (encode o) = some o := by
  fun_induction encode o with
  | case1 => rfl
  | case2 a =>
      have := a.toNat_lt
      simp only [decode?, value?_letter (by omega : a.toNat / 4 < 64),
        value?_letter (by omega : a.toNat % 4 * 16 < 64), Option.bind_eq_bind, Option.bind_some]
      rw [if_pos (by omega), ofNat_eq_of_toNat (a := a) (by omega)]
  | case3 a b =>
      have := a.toNat_lt
      have := b.toNat_lt
      simp only [decode?, value?_letter (by omega : a.toNat / 4 < 64),
        value?_letter (by omega : a.toNat % 4 * 16 + b.toNat / 16 < 64),
        value?_letter (by omega : b.toNat % 16 * 4 < 64), Option.bind_eq_bind, Option.bind_some]
      rw [if_pos (by omega), ofNat_eq_of_toNat (a := a) (by omega),
        ofNat_eq_of_toNat (a := b) (by omega)]
  | case4 a b c rest ih =>
      have := a.toNat_lt
      have := b.toNat_lt
      have := c.toNat_lt
      simp only [decode?, value?_letter (by omega : a.toNat / 4 < 64),
        value?_letter (by omega : a.toNat % 4 * 16 + b.toNat / 16 < 64),
        value?_letter (by omega : b.toNat % 16 * 4 + c.toNat / 64 < 64),
        value?_letter (by omega : c.toNat % 64 < 64), ih, Option.bind_eq_bind, Option.bind_some]
      rw [ofNat_eq_of_toNat (a := a) (by omega), ofNat_eq_of_toNat (a := b) (by omega),
        ofNat_eq_of_toNat (a := c) (by omega)]

theorem lt_of_value? {b : UInt8} {v : Nat} (h : value? b = some v) : v < 64 := by
  simp only [value?, UInt8.le_iff_toNat_le] at h
  grind

set_option maxRecDepth 2000 in
theorem letter_of_value? {b : UInt8} {v : Nat} (h : value? b = some v) : letter v = b := by
  have all : ∀ n < 256, ∀ v ∈ value? (UInt8.ofNat n), letter v = UInt8.ofNat n := by decide
  have := all b.toNat b.toNat_lt v
  rw [UInt8.ofNat_toNat] at this
  exact this h

theorem toNat_ofNat {n : Nat} (h : n < 256) : (UInt8.ofNat n).toNat = n := by
  rw [UInt8.toNat_ofNat']; omega

/-- What is read is how it is written. -/
theorem encode_of_decode? {t o : Octets} (h : decode? t = some o) : encode o = t := by
  fun_induction decode? t generalizing o with
  | case1 => simp_all [encode]
  | case2 => simp at h
  | case3 w x =>
      simp only [Option.bind_eq_bind, Option.bind_eq_some_iff, Option.ite_none_right_eq_some,
        Option.some.injEq] at h
      obtain ⟨p, hp, q, hq, hz, rfl⟩ := h
      have := lt_of_value? hp
      have := lt_of_value? hq
      rw [encode, toNat_ofNat (by omega), ← letter_of_value? hp, ← letter_of_value? hq]
      congr <;> omega
  | case4 w x y =>
      simp only [Option.bind_eq_bind, Option.bind_eq_some_iff, Option.ite_none_right_eq_some,
        Option.some.injEq] at h
      obtain ⟨p, hp, q, hq, r, hr, hz, rfl⟩ := h
      have := lt_of_value? hp
      have := lt_of_value? hq
      have := lt_of_value? hr
      rw [encode, toNat_ofNat (by omega), toNat_ofNat (by omega), ← letter_of_value? hp,
        ← letter_of_value? hq, ← letter_of_value? hr]
      congr <;> omega
  | case5 w x y z rest ih =>
      simp only [Option.bind_eq_bind, Option.bind_eq_some_iff, Option.some.injEq] at h
      obtain ⟨p, hp, q, hq, r, hr, s, hs, o, ho, rfl⟩ := h
      have := lt_of_value? hp
      have := lt_of_value? hq
      have := lt_of_value? hr
      have := lt_of_value? hs
      rw [encode, toNat_ofNat (by omega), toNat_ofNat (by omega), toNat_ofNat (by omega), ih ho,
        ← letter_of_value? hp, ← letter_of_value? hq, ← letter_of_value? hr, ← letter_of_value? hs]
      congr <;> omega

theorem decode?_eq_some_iff {t o : Octets} : decode? t = some o ↔ t = encode o :=
  ⟨fun h => (encode_of_decode? h).symm, fun h => h ▸ decode?_encode o⟩

end Base64Url

end TrackerGate
