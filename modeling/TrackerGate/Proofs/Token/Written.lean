import TrackerGate.Proofs.Permission.Written
import TrackerGate.Token.Verification

/-!
# Tokens as they are written

A token that says some claims is read back to these claims: `decode_encode`. Each layer
undoes the one below it. The three parts are told apart because base64url has no dot
(`ne_dot_of_mem_encode`), a part is read back to its JSON (`part_encode`), the JSON to
the claims (`Claims.ofJson?_toJson`), and the second reading for the registered claims
agrees with the first on the expiry (`Registered.ofJson?_toJson`). Nothing here looks
into the hash: both sides of the comparison are the same signature.
-/

namespace TrackerGate

open Json

/-! ## Claims -/

namespace Claims

/-- The members of written claims, in their order. -/
def members (c : Claims) : List (String × Json) :=
  c.lastingMembers ++ [("exp", .ofUInt64 c.expiry), ("iat", .ofUInt64 c.issuedAt)]

/-- Neither of the two readers finds one of its fields twice. -/
theorem isSingular_members (c : Claims) :
    isSingular fields c.members = true ∧ isSingular Registered.names c.members = true := by
  obtain ⟨_, _, _, _, permissions, _, _⟩ := c
  cases permissions <;> exact ⟨rfl, rfl⟩

theorem ofJson?_toJson (c : Claims) : ofJson? c.toJson = some c := by
  have hslots : c.toJson.record? fields = some (memberSlot c.members) :=
    record?_record c.isSingular_members.1
  obtain ⟨kind, subject, username, isSuperuser, permissions, expiry, issuedAt⟩ := c
  cases permissions with
  | none =>
      simp [ofJson?, hslots, members, lastingMembers, memberSlot_cons, memberSlot_nil,
        Slot.required, Slot.optional, bool?, kind.ofJson?_toJson]
  | some s =>
      have hs : s.toJson ≠ .null := fun h => by cases h
      simp [ofJson?, hslots, members, lastingMembers, memberSlot_cons, Slot.required,
        Slot.optional_given hs, bool?, kind.ofJson?_toJson, s.ofJson?_toJson]

theorem textual_toJson (c : Claims) : c.toJson.Textual := by
  refine textual_record fun member hmember => ?_
  simp only [lastingMembers, List.mem_append, List.mem_cons, List.not_mem_nil, or_false] at hmember
  rcases hmember with ((rfl | rfl | rfl | rfl) | h) | rfl | rfl
  · exact .text _
  · exact .int _
  · exact .text _
  · exact .bool _
  · obtain ⟨s, -, rfl⟩ : ∃ s, c.permissions = some s ∧ ("permissions", s.toJson) = member := by
      simpa using h
    exact s.textual_toJson
  all_goals exact .int _

end Claims

/-- Read for the registered claims alone, written claims have their expiry and name no
audience. -/
theorem Registered.ofJson?_toJson (c : Claims) :
    ofJson? c.toJson = some { expiry := some c.expiry, namesAudience := false } := by
  have hslots : c.toJson.record? names = some (memberSlot c.members) :=
    record?_record c.isSingular_members.2
  cases h : c.permissions <;>
    simp [ofJson?, hslots, Claims.members, Claims.lastingMembers, h, memberSlot_cons,
      memberSlot_nil, Slot.required, onGiven]

/-! ## The header -/

namespace TokenHeader

theorem canonical_own : own.Canonical := by
  refine canonical_record fun member hmember => ?_
  simp only [List.mem_cons, List.not_mem_nil, or_false] at hmember
  rcases hmember with rfl | rfl <;> exact canonical_ofText _

theorem algorithm?_own : algorithm? own = some signing := by
  have hslots : own.record? fields
      = some (memberSlot [("typ", .ofText "JWT"), ("alg", .ofText signing)]) := record?_record rfl
  have halgorithm : Json.oneOf? algorithms (.ofText signing) = some signing := by
    rw [oneOf?, constant?_ofText]
    rfl
  have htype : ofText "JWT" ≠ .null := nofun
  simp [algorithm?, hslots, memberSlot_cons, memberSlot_nil, Slot.required, halgorithm,
    Slot.nullable_given htype]
  rfl

end TokenHeader

/-! ## Parts -/

namespace Base64Url

theorem exists_letter_of_mem_encode {o : Octets} {b : UInt8} (h : b ∈ encode o) :
    ∃ v < 64, letter v = b := by
  fun_induction encode o with
  | case1 => cases h
  | case2 a =>
      have := a.toNat_lt
      simp only [List.mem_cons, List.not_mem_nil, or_false] at h
      rcases h with rfl | rfl
      · exact ⟨_, by omega, rfl⟩
      · exact ⟨_, by omega, rfl⟩
  | case3 a b' =>
      have := a.toNat_lt
      have := b'.toNat_lt
      simp only [List.mem_cons, List.not_mem_nil, or_false] at h
      rcases h with rfl | rfl | rfl
      · exact ⟨_, by omega, rfl⟩
      · exact ⟨_, by omega, rfl⟩
      · exact ⟨_, by omega, rfl⟩
  | case4 a b' c rest ih =>
      have := a.toNat_lt
      have := b'.toNat_lt
      have := c.toNat_lt
      simp only [List.mem_cons] at h
      rcases h with rfl | rfl | rfl | rfl | h
      · exact ⟨_, by omega, rfl⟩
      · exact ⟨_, by omega, rfl⟩
      · exact ⟨_, by omega, rfl⟩
      · exact ⟨_, by omega, rfl⟩
      · exact ih h

end Base64Url

namespace Token

theorem ne_dot_of_mem_encode {o : Octets} {b : UInt8} (h : b ∈ Base64Url.encode o) : b ≠ dot := by
  obtain ⟨v, hv, rfl⟩ := Base64Url.exists_letter_of_mem_encode h
  have all : ∀ v < 64, Base64Url.letter v ≠ dot := by decide
  exact all v hv

theorem cutAtLast_eq_none {sep : UInt8} {o : Octets} (h : ∀ b ∈ o, b ≠ sep) :
    cutAtLast sep o = none := by
  induction o with
  | nil => rfl
  | cons b o ih =>
      rw [cutAtLast, ih fun x hx => h x (List.mem_cons_of_mem b hx)]
      exact if_neg (h b List.mem_cons_self)

theorem cutAtLast_append {sep : UInt8} (front : Octets) {back : Octets}
    (h : ∀ b ∈ back, b ≠ sep) : cutAtLast sep (front ++ sep :: back) = some (front, back) := by
  induction front with
  | nil => simp [cutAtLast, cutAtLast_eq_none h]
  | cons b front ih => rw [List.cons_append, cutAtLast, ih]

theorem part_encode {j : Json} (h : j.Canonical) : part (Base64Url.encode j.print) = .ok j := by
  simp [part, Base64Url.decode?_encode, parse?_print h, orFault, bind, Except.bind]

/-- A token that says `c` is read back to `c` as long as `c` has not expired. -/
theorem decode_encode (s : TokenSettings) (now : Nat) (c : Claims) :
    decode s now (encode s c) = if isCurrent now c.expiry then .ok c else .error .expired := by
  have houter : cutAtLast dot (encode s c) = some (message c, signature s (message c)) :=
    cutAtLast_append _ fun _ => ne_dot_of_mem_encode
  have hinner : cutAtLast dot (message c)
      = some (Base64Url.encode TokenHeader.own.print, Base64Url.encode c.toJson.print) :=
    cutAtLast_append _ fun _ => ne_dot_of_mem_encode
  simp only [decode, houter, hinner, orFault, part_encode TokenHeader.canonical_own,
    part_encode c.textual_toJson.canonical, TokenHeader.algorithm?_own, c.ofJson?_toJson,
    Registered.ofJson?_toJson, demand, beq_self_eq_true, bind, Except.bind, pure, Except.pure]
  cases isCurrent now c.expiry <;> rfl

end Token

end TrackerGate
