import TrackerGate.Gate.Stage
import TrackerGate.Proofs.Text.Encoding
import TrackerGate.Proofs.Text.Trimmed
import TrackerGate.Proofs.Token.Written

/-!
# Tokens as they are presented

A token that is sent behind the word `Bearer` is the token that is read from the header:
`Bearer.token?_presented`. What a token is written with is graphic ASCII throughout
(`Token.isGraphic_of_mem_encode`), so the header is visible, no blank is taken off the
token, and its octets become characters and octets again one by one.
-/

namespace TrackerGate

/-! ## Graphic octets -/

namespace Octets

/-- A printed ASCII character other than the space. -/
def isGraphic (b : UInt8) : Bool := 0x21 ≤ b && b < 0x7F

/-- The character of a graphic octet. -/
def charOf (b : UInt8) : Char := Char.ofNat b.toNat

theorem charOf_graphic {b : UInt8} (h : isGraphic b = true) :
    Header.isVisible b = true ∧ Text.isBlank (charOf b) = false ∧ b < 0x80 := by
  revert h
  exact forall_of_lt (P := fun b => isGraphic b = true →
    Header.isVisible b = true ∧ Text.isBlank (charOf b) = false ∧ b < 0x80) (by decide +kernel) b

theorem ofText_map_charOf {o : Octets} (h : ∀ b ∈ o, isGraphic b = true) :
    ofText (String.ofList (o.map charOf)) = o :=
  ofText_ofList_ascii fun b hb => (charOf_graphic (h b hb)).2.2

end Octets

/-! ## Blanks -/

theorem Text.trimChars_eq_self {cs : List Char} (hfirst : ∀ c ∈ cs.head?, isBlank c = false)
    (hlast : ∀ c ∈ cs.getLast?, isBlank c = false) : trimChars cs = cs :=
  trimChars_eq_iff.mpr ⟨⟨[], [], by simp, nofun, nofun⟩, hfirst, hlast⟩

/-! ## Headers -/

namespace Bearer

/-- The header that a token is sent in. -/
def header (token : Token) : Header where
  name := "authorization"
  value := .ofText "Bearer " ++ token

theorem ofChars?_bearer {cs : List Char} (hne : cs ≠ [])
    (h : ∀ c ∈ cs, Text.isBlank c = false) :
    ofChars? ("Bearer ".toList ++ cs) = some (Octets.ofText (String.ofList cs)) := by
  have hrest : Text.trimChars cs = cs :=
    Text.trimChars_eq_self (fun c hc => h c (List.mem_of_mem_head? hc))
      fun c hc => h c (List.mem_of_getLast? hc)
  have hwhole : Text.trimChars ("Bearer ".toList ++ cs) = "Bearer ".toList ++ cs := by
    refine Text.trimChars_eq_self (fun c hc => ?_) fun c hc => ?_
    · obtain rfl : 'B' = c := Option.some.inj hc
      rfl
    · have hlast := List.getLast?_eq_some_getLast hne
      rw [List.getLast?_append, hlast, Option.some_or] at hc
      exact h c (List.mem_of_getLast? (hlast.trans hc))
  have hcut : cutAtSpace ("Bearer ".toList ++ cs) = some ("Bearer".toList, cs) := rfl
  have hscheme : "Bearer".toList.map Char.toLower = "bearer".toList := rfl
  rw [ofChars?, hwhole, hcut]
  simp only [hrest, hscheme]
  rw [if_pos (by simp [hne])]

/-- What is sent as a token is what is read as the token. -/
theorem token?_presented {token : Token} (hne : token ≠ [])
    (h : ∀ b ∈ token, Octets.isGraphic b = true) (headers : List Header) :
    token? (header token :: headers) = some token := by
  have hfind : Header.find? (header token :: headers) "authorization" = some (header token).value :=
    rfl
  have hvisible : (header token).value.all Header.isVisible = true := by
    have htoken : token.all Header.isVisible = true :=
      List.all_eq_true.mpr fun b hb => (Octets.charOf_graphic (h b hb)).1
    rw [header, List.all_append, htoken]
    rfl
  have hchars : (header token).value.map Octets.charOf
      = "Bearer ".toList ++ token.map Octets.charOf := List.map_append
  have hblank : ∀ c ∈ token.map Octets.charOf, Text.isBlank c = false := by
    intro c hc
    obtain ⟨b, hb, rfl⟩ := List.mem_map.mp hc
    exact (Octets.charOf_graphic (h b hb)).2.1
  rw [token?, Header.text?, hfind, Option.bind_some, Header.visible?, if_pos hvisible,
    Option.bind_some]
  refine (congrArg ofChars? hchars).trans ?_
  rw [ofChars?_bearer (by simpa using hne) hblank, Octets.ofText_map_charOf h]

end Bearer

/-! ## What tokens are written with -/

namespace Token

theorem isGraphic_of_mem_base64 {o : Octets} {b : UInt8} (h : b ∈ Base64Url.encode o) :
    Octets.isGraphic b = true := by
  obtain ⟨v, hv, rfl⟩ := Base64Url.exists_letter_of_mem_encode h
  have all : ∀ v < 64, Octets.isGraphic (Base64Url.letter v) = true := by decide
  exact all v hv

theorem isGraphic_of_mem_encode {s : TokenSettings} {c : Claims} {b : UInt8}
    (h : b ∈ encode s c) : Octets.isGraphic b = true := by
  simp only [encode, message, List.mem_append, List.mem_cons] at h
  rcases h with (h | rfl | h) | rfl | h
  · exact isGraphic_of_mem_base64 h
  · rfl
  · exact isGraphic_of_mem_base64 h
  · rfl
  · exact isGraphic_of_mem_base64 h

/-- A token that is presented is read back, whatever it says. -/
theorem token?_encode (s : TokenSettings) (c : Claims) (headers : List Header) :
    Bearer.token? (Bearer.header (encode s c) :: headers) = some (encode s c) := by
  have hne : encode s c ≠ [] := by
    rw [encode]
    exact List.append_ne_nil_of_right_ne_nil _ (List.cons_ne_nil _ _)
  exact Bearer.token?_presented hne (fun _ => isGraphic_of_mem_encode) headers

end Token

end TrackerGate
