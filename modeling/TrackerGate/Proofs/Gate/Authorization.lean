import TrackerGate.Proofs.Gate.Passage
import TrackerGate.Proofs.Gate.Presented
import TrackerGate.Proofs.Text.Encoding
import TrackerGate.Proofs.Text.Trimmed
import TrackerGate.Proofs.Token.Accepted

/-!
# What an authorization header is worth

A header either identifies a user or comes to nothing, and both can be said of its octets.
It identifies a user if it is the word `bearer`, a space and a token, with blanks around them,
and the token is a good access token of somebody whom the store has (`Gate.Identifies`). It
comes to nothing in one of several ways that have little in common (`Gate.ComesToNothing`):
some are about octets, some about words, some about the token and some about the store. The
two are the two outcomes of `Gate.caller` (`caller_eq_some_iff_identifies`,
`comesToNothing_iff`), so there is no third.

The header is read as characters and the token goes back to octets. For visible octets this
changes nothing (`Bearer.ofChars?_map_eq_some_iff`). A token that is good is graphic
throughout, so it does not matter how many blanks stand around it (`Bearer.Spells.carries`).
-/

namespace TrackerGate

/-! ## Visible octets -/

namespace Octets

/-- A space or a tab. No other visible octet is blank. -/
def isBlank (b : UInt8) : Bool := b == 0x20 || b == 0x09

theorem charOf_visible {b : UInt8} (h : Header.isVisible b = true) :
    Text.isBlank (charOf b) = isBlank b ∧ (charOf b = ' ' ↔ b = 0x20) ∧ b < 0x80 := by
  revert h
  exact forall_of_lt (P := fun b => Header.isVisible b = true →
    Text.isBlank (charOf b) = isBlank b ∧ (charOf b = ' ' ↔ b = 0x20) ∧ b < 0x80)
    (by decide +kernel) b

theorem isVisible_of_isBlank {b : UInt8} (h : isBlank b = true) : Header.isVisible b = true := by
  simp only [isBlank, Bool.or_eq_true, beq_iff_eq] at h
  rcases h with rfl | rfl <;> rfl

theorem isBlank_of_isGraphic {b : UInt8} (h : isGraphic b = true) : isBlank b = false := by
  cases hblank : isBlank b with
  | false => rfl
  | true =>
      simp only [isBlank, Bool.or_eq_true, beq_iff_eq] at hblank
      rcases hblank with rfl | rfl <;> cases h

/-- Blanks are taken off as far as the first and the last graphic octet. -/
theorem strips_of_isGraphic {before core behind : Octets}
    (hbefore : ∀ b ∈ before, isBlank b = true) (hbehind : ∀ b ∈ behind, isBlank b = true)
    (hfirst : ∀ b ∈ core.head?, isGraphic b = true)
    (hlast : ∀ b ∈ core.getLast?, isGraphic b = true) :
    Text.Strips isBlank (before ++ core ++ behind) core where
  around := ⟨before, behind, rfl, hbefore, hbehind⟩
  first b hb := isBlank_of_isGraphic (hfirst b hb)
  last b hb := isBlank_of_isGraphic (hlast b hb)

end Octets

open Text (Strips)

/-! ## Bearer headers -/

namespace Bearer

theorem cutAtSpace_eq_some_iff {cs scheme rest : List Char} :
    cutAtSpace cs = some (scheme, rest) ↔ cs = scheme ++ ' ' :: rest ∧ ' ' ∉ scheme := by
  constructor
  · intro h
    have hwhole := List.takeWhile_append_dropWhile (p := (· != ' ')) (l := cs)
    unfold cutAtSpace at h
    split at h
    · cases h
    · next c _ hdrop =>
        obtain ⟨rfl, rfl⟩ := Prod.mk.inj (Option.some.inj h)
        have hhead : c ∈ (cs.dropWhile (· != ' ')).head? := by rw [hdrop]; rfl
        have hspace := Text.head?_dropWhile_of_mem hhead
        obtain rfl : c = ' ' := by simpa using hspace
        refine ⟨by rw [← hdrop, hwhole], fun hmem => ?_⟩
        have hno := List.mem_takeWhile_imp hmem
        simp at hno
  · rintro ⟨rfl, hnot⟩
    have hfront : ∀ c ∈ scheme, (c != ' ') = true := by
      intro c hc
      simpa using fun heq : c = ' ' => hnot (heq ▸ hc)
    rw [cutAtSpace, List.dropWhile_append_of_pos hfront, List.takeWhile_append_of_pos hfront]
    simp

/-- The word `bearer`, in any case. -/
def IsScheme (o : Octets) : Prop := o.map (fun b => (Octets.charOf b).toLower) = "bearer".toList

theorem IsScheme.ne_nil {o : Octets} (h : IsScheme o) : o ≠ [] := by
  rintro rfl
  cases h

theorem IsScheme.isGraphic {o : Octets} (h : IsScheme o) {b : UInt8} (hb : b ∈ o) :
    Octets.isGraphic b = true := by
  have hletter : (Octets.charOf b).toLower ∈ "bearer".toList := h ▸ List.mem_map_of_mem hb
  revert hletter
  exact Octets.forall_of_lt (P := fun b => (Octets.charOf b).toLower ∈ "bearer".toList →
    Octets.isGraphic b = true) (by decide +kernel) b

theorem IsScheme.space_not_mem {o : Octets} (h : IsScheme o) : 0x20 ∉ o :=
  fun hmem => nomatch h.isGraphic hmem

/-- The value without the blanks around it is the word, a space, and the token with blanks
around it. -/
structure Carries (value : Octets) (token : Token) : Prop where
  visible : ∀ b ∈ value, Header.isVisible b = true
  reads : ∃ scheme rest, Strips Octets.isBlank value (scheme ++ 0x20 :: rest) ∧ IsScheme scheme
    ∧ Strips Octets.isBlank rest token

/-- What follows the space of a trimmed value is not blank, so a token is never empty: a value
with nothing behind the word has lost its space before the word is looked at. -/
theorem ne_nil_of_strips {cs scheme rest core : List Char}
    (hvalue : Strips Text.isBlank cs (scheme ++ ' ' :: rest))
    (hrest : Strips Text.isBlank rest core) : core ≠ [] := by
  rintro rfl
  obtain ⟨before, behind, rfl, hbefore, hbehind⟩ := hrest.around
  have hblank : ∀ c ∈ ' ' :: (before ++ [] ++ behind), Text.isBlank c = true := by
    intro c hc
    simp only [List.append_nil, List.mem_cons, List.mem_append] at hc
    rcases hc with rfl | hc | hc
    · rfl
    · exact hbefore c hc
    · exact hbehind c hc
  have hlast := hvalue.last
  rw [List.getLast?_append, List.getLast?_eq_some_getLast (List.cons_ne_nil _ _),
    Option.some_or] at hlast
  have hend := hlast _ rfl
  rw [hblank _ (List.getLast_mem _)] at hend
  cases hend

theorem ofChars?_eq_some_iff {cs : List Char} {token : Token} :
    ofChars? cs = some token
      ↔ ∃ scheme rest core, Strips Text.isBlank cs (scheme ++ ' ' :: rest)
          ∧ scheme.map Char.toLower = "bearer".toList ∧ Strips Text.isBlank rest core
          ∧ Octets.ofText (String.ofList core) = token := by
  constructor
  · intro h
    unfold ofChars? at h
    split at h
    · cases h
    · next scheme rest hcut =>
        simp only [Option.ite_none_right_eq_some, Bool.and_eq_true, decide_eq_true_eq,
          Option.some.injEq] at h
        obtain ⟨⟨hscheme, -⟩, htoken⟩ := h
        obtain ⟨htrim, -⟩ := cutAtSpace_eq_some_iff.mp hcut
        exact ⟨scheme, rest, _, Text.trimChars_eq_iff.mp htrim, hscheme,
          Text.trimChars_eq_iff.mp rfl, htoken⟩
  · rintro ⟨scheme, rest, core, hvalue, hscheme, hrest, rfl⟩
    have hspace : ' ' ∉ scheme := by
      intro hmem
      have hlower : ' '.toLower ∈ "bearer".toList := hscheme ▸ List.mem_map_of_mem hmem
      revert hlower
      decide
    have hcore := ne_nil_of_strips hvalue hrest
    rw [ofChars?, Text.trimChars_eq_iff.mpr hvalue, cutAtSpace_eq_some_iff.mpr ⟨rfl, hspace⟩]
    simp only [Text.trimChars_eq_iff.mpr hrest]
    exact if_pos (by simp [hscheme, hcore])

/-- Visible octets are read as characters, and the token of them is a token of the octets. -/
theorem ofChars?_map_eq_some_iff {value : Octets} {token : Token}
    (hvisible : ∀ b ∈ value, Header.isVisible b = true) :
    ofChars? (value.map Octets.charOf) = some token ↔ Carries value token := by
  have hblank : ∀ b ∈ value, Text.isBlank (Octets.charOf b) = Octets.isBlank b :=
    fun b hb => (Octets.charOf_visible (hvisible b hb)).1
  have hoctets {o : Octets} (h : ∀ b ∈ o, b ∈ value) :
      Octets.ofText (String.ofList (o.map Octets.charOf)) = o :=
    Octets.ofText_ofList_ascii fun b hb => (Octets.charOf_visible (hvisible b (h b hb))).2.2
  rw [ofChars?_eq_some_iff]
  constructor
  · rintro ⟨scheme, rest, core, hvalue, hscheme, hrest, rfl⟩
    obtain ⟨word, hword⟩ := Text.exists_strips Octets.isBlank value
    obtain ⟨scheme, behind, rfl, rfl, hbehind⟩ :=
      List.map_eq_append_iff.mp ((hword.map hblank).unique hvalue)
    obtain ⟨b, rest, rfl, hb, rfl⟩ := List.map_eq_cons_iff.mp hbehind
    have hsub : ∀ x ∈ scheme ++ b :: rest, x ∈ value := fun x hx => hword.subset hx
    simp only [List.mem_append, List.mem_cons] at hsub
    obtain rfl := (Octets.charOf_visible (hvisible b (hsub b (.inr (.inl rfl))))).2.1.mp hb
    obtain ⟨token, htoken⟩ := Text.exists_strips Octets.isBlank rest
    have hmap := htoken.map fun x hx => hblank x (hsub x (.inr (.inr hx)))
    rw [← hmap.unique hrest, hoctets fun x hx => hsub x (.inr (.inr (htoken.subset hx)))]
    exact ⟨hvisible, scheme, rest, hword, by rwa [List.map_map] at hscheme, htoken⟩
  · rintro ⟨-, scheme, rest, hvalue, hscheme, hrest⟩
    have hsub : ∀ x ∈ scheme ++ 0x20 :: rest, x ∈ value := fun x hx => hvalue.subset hx
    simp only [List.mem_append, List.mem_cons] at hsub
    refine ⟨scheme.map Octets.charOf, rest.map Octets.charOf, token.map Octets.charOf, ?_, ?_,
      hrest.map fun x hx => hblank x (hsub x (.inr (.inr hx))),
      hoctets fun x hx => hsub x (.inr (.inr (hrest.subset hx)))⟩
    · have hmap := hvalue.map hblank
      rwa [List.map_append] at hmap
    · rw [List.map_map]
      exact hscheme

theorem token?_eq_some_iff {headers : List Header} {token : Token} :
    token? headers = some token
      ↔ ∃ value, Header.find? headers "authorization" = some value ∧ Carries value token := by
  unfold token? Header.text? Header.visible?
  cases hfind : Header.find? headers "authorization" with
  | none => simp
  | some value =>
      simp only [Option.bind_some, Option.some.injEq, exists_eq_left']
      by_cases hvisible : ∀ b ∈ value, Header.isVisible b = true
      · rw [if_pos (List.all_eq_true.mpr hvisible), Option.bind_some]
        exact ofChars?_map_eq_some_iff hvisible
      · rw [if_neg fun hall => hvisible (List.all_eq_true.mp hall)]
        exact ⟨nofun, fun hcarries => absurd hcarries.visible hvisible⟩

theorem Carries.unique {value : Octets} {token token' : Token} (h : Carries value token)
    (h' : Carries value token') : token = token' :=
  Option.some.inj (((ofChars?_map_eq_some_iff h.visible).mpr h).symm.trans
    ((ofChars?_map_eq_some_iff h'.visible).mpr h'))

/-- The value is spelled with the word, a space and the token: blanks may stand in front of the
word, between the space and the token, and behind the token. -/
def Spells (value : Octets) (token : Token) : Prop :=
  ∃ before scheme gap behind : Octets,
    value = before ++ (scheme ++ 0x20 :: (gap ++ token)) ++ behind ∧ IsScheme scheme
      ∧ (∀ b ∈ before, Octets.isBlank b = true) ∧ (∀ b ∈ gap, Octets.isBlank b = true)
      ∧ ∀ b ∈ behind, Octets.isBlank b = true

theorem Carries.spells {value : Octets} {token : Token} (h : Carries value token) :
    Spells value token := by
  obtain ⟨scheme, rest, hvalue, hscheme, hrest⟩ := h.reads
  obtain ⟨before, behind, rfl, hbefore, hbehind⟩ := hvalue.around
  obtain ⟨gap, behind', rfl, hgap, hbehind'⟩ := hrest.around
  refine ⟨before, scheme, gap, behind' ++ behind, by simp, hscheme, hbefore, hgap, ?_⟩
  intro b hb
  rcases List.mem_append.mp hb with hb | hb
  · exact hbehind' b hb
  · exact hbehind b hb

/-- Blanks around a graphic token are not taken for a part of it. -/
theorem Spells.carries {value : Octets} {token : Token} (h : Spells value token) (hne : token ≠ [])
    (hgraphic : ∀ b ∈ token, Octets.isGraphic b = true) : Carries value token := by
  obtain ⟨before, scheme, gap, behind, rfl, hscheme, hbefore, hgap, hbehind⟩ := h
  have hfirst : ∀ b ∈ (scheme ++ 0x20 :: (gap ++ token)).head?, Octets.isGraphic b = true := by
    intro b hb
    rw [List.head?_append_of_ne_nil _ hscheme.ne_nil] at hb
    exact hscheme.isGraphic (List.mem_of_mem_head? hb)
  have hlast : ∀ b ∈ (scheme ++ 0x20 :: (gap ++ token)).getLast?, Octets.isGraphic b = true := by
    intro b hb
    rw [← List.cons_append, ← List.append_assoc, List.getLast?_append_of_ne_nil _ hne] at hb
    exact hgraphic b (List.mem_of_getLast? hb)
  have hrest : Strips Octets.isBlank (gap ++ token ++ []) token :=
    Octets.strips_of_isGraphic hgap nofun (fun b hb => hgraphic b (List.mem_of_mem_head? hb))
      fun b hb => hgraphic b (List.mem_of_getLast? hb)
  rw [List.append_nil] at hrest
  refine ⟨fun b hb => ?_, scheme, gap ++ token,
    Octets.strips_of_isGraphic hbefore hbehind hfirst hlast, hscheme, hrest⟩
  simp only [List.mem_append, List.mem_cons] at hb
  rcases hb with (hb | hb | rfl | hb | hb) | hb
  · exact Octets.isVisible_of_isBlank (hbefore b hb)
  · exact (Octets.charOf_graphic (hscheme.isGraphic hb)).1
  · rfl
  · exact Octets.isVisible_of_isBlank (hgap b hb)
  · exact (Octets.charOf_graphic (hgraphic b hb)).1
  · exact Octets.isVisible_of_isBlank (hbehind b hb)

end Bearer

/-- A token that is good for anything is written in graphic octets. -/
theorem Token.isGraphic_of_verify {s : TokenSettings} {now : Nat} {kind : TokenKind}
    {token : Token} {c : Claims} (h : verify s now kind token = .ok c) :
    token ≠ [] ∧ ∀ b ∈ token, Octets.isGraphic b = true := by
  obtain ⟨hseal, -⟩ := isSealed_of_decode (verify_eq_ok_iff.mp h).1
  have hcount := hseal.count_dot
  obtain ⟨_, _, hpieces, ⟨header, -, rfl, -, -⟩, payload, -, rfl, -, -, -⟩ := hseal
  refine ⟨?_, fun b hb => ?_⟩
  · rintro rfl
    cases hcount
  · rw [← Text.intercalate_pieces dot token, hpieces] at hb
    simp only [List.intercalate, List.intersperse, List.flatten_cons, List.flatten_nil,
      List.append_nil, List.mem_append, List.mem_singleton] at hb
    rcases hb with hb | rfl | hb | rfl | hb
    · exact isGraphic_of_mem_base64 hb
    · rfl
    · exact isGraphic_of_mem_base64 hb
    · rfl
    · exact isGraphic_of_mem_base64 hb

/-! ## Users that are identified -/

namespace Gate

variable {g : Gate} {request : Request} {headers : List Header} {user : User}

/-- The first authorization header is the word `bearer`, a space and a token that is a good
access token of `user`, who is in the store. -/
def Identifies (g : Gate) (headers : List Header) (user : User) : Prop :=
  ∃ value token claims, Header.find? headers "authorization" = some value
    ∧ Bearer.Spells value token ∧ Token.verify g.settings g.now .access token = .ok claims
    ∧ g.readers.user claims.subject = .ok user

theorem caller_eq_some_iff_identifies :
    g.caller request = some user ↔ g.Identifies request.headers user := by
  rw [caller_eq_some_iff]
  constructor
  · rintro ⟨token, claims, htoken, hverify, huser⟩
    obtain ⟨value, hvalue, hcarries⟩ := Bearer.token?_eq_some_iff.mp htoken
    exact ⟨value, token, claims, hvalue, hcarries.spells, hverify, huser⟩
  · rintro ⟨value, token, claims, hvalue, hspells, hverify, huser⟩
    obtain ⟨hne, hgraphic⟩ := Token.isGraphic_of_verify hverify
    have htoken := Bearer.token?_eq_some_iff.mpr ⟨value, hvalue, hspells.carries hne hgraphic⟩
    exact ⟨token, claims, htoken, hverify, huser⟩

/-! ## Headers that come to nothing -/

/-- The ways in which no user comes of the first authorization header. Nothing behind the word
is a case of a single word (`ComesToNothing.wordAlone`). A token is refused for its form, its
algorithm, its signature, its expiry, its audience or its kind; a user is unknown because the
store has no such row or because the lookup fails. -/
inductive ComesToNothing (g : Gate) (headers : List Header) : Prop where
  | absent (hvalue : Header.find? headers "authorization" = none)
  | unseen {value : Octets} {b : UInt8}
      (hvalue : Header.find? headers "authorization" = some value) (hmem : b ∈ value)
      (hunseen : Header.isVisible b = false)
  | oneWord {value word : Octets}
      (hvalue : Header.find? headers "authorization" = some value)
      (hword : Strips Octets.isBlank value word) (hspace : 0x20 ∉ word)
  | otherScheme {value scheme rest : Octets}
      (hvalue : Header.find? headers "authorization" = some value)
      (hword : Strips Octets.isBlank value (scheme ++ 0x20 :: rest)) (hspace : 0x20 ∉ scheme)
      (hscheme : ¬ Bearer.IsScheme scheme)
  | refused {value : Octets} {token : Token} {fault : TokenFault}
      (hvalue : Header.find? headers "authorization" = some value)
      (hcarries : Bearer.Carries value token)
      (hverify : Token.verify g.settings g.now .access token = .error fault)
  | unknown {value : Octets} {token : Token} {claims : Claims} {failure : Failure}
      (hvalue : Header.find? headers "authorization" = some value)
      (hcarries : Bearer.Carries value token)
      (hverify : Token.verify g.settings g.now .access token = .ok claims)
      (huser : g.readers.user claims.subject = .error failure)

/-- The word with nothing but blanks around it carries no token. -/
theorem ComesToNothing.wordAlone {before scheme behind : Octets}
    (hvalue : Header.find? headers "authorization" = some (before ++ scheme ++ behind))
    (hscheme : Bearer.IsScheme scheme) (hbefore : ∀ b ∈ before, Octets.isBlank b = true)
    (hbehind : ∀ b ∈ behind, Octets.isBlank b = true) : g.ComesToNothing headers := by
  refine .oneWord hvalue ?_ hscheme.space_not_mem
  exact Octets.strips_of_isGraphic hbefore hbehind
    (fun b hb => hscheme.isGraphic (List.mem_of_mem_head? hb))
    fun b hb => hscheme.isGraphic (List.mem_of_getLast? hb)

theorem token?_eq_none_of_forall (h : ∀ value token,
      Header.find? headers "authorization" = some value → ¬ Bearer.Carries value token) :
    Bearer.token? headers = none := by
  refine Option.eq_none_iff_forall_ne_some.mpr fun token htoken => ?_
  obtain ⟨value, hvalue, hcarries⟩ := Bearer.token?_eq_some_iff.mp htoken
  exact h value token hvalue hcarries

theorem ComesToNothing.caller_eq_none (h : g.ComesToNothing request.headers) :
    g.caller request = none := by
  have hnone : Bearer.token? request.headers = none → g.caller request = none := by
    intro htoken
    rw [caller, htoken, Option.bind_none]
  have hcarried {value : Octets} {token : Token}
      (hvalue : Header.find? request.headers "authorization" = some value)
      (hcarries : Bearer.Carries value token) :
      g.caller request = (g.principal token).toOption := by
    rw [caller, Bearer.token?_eq_some_iff.mpr ⟨value, hvalue, hcarries⟩, Option.bind_some]
  cases h with
  | absent hvalue =>
      refine hnone (token?_eq_none_of_forall fun value token hvalue' hcarries => ?_)
      cases hvalue.symm.trans hvalue'
  | unseen hvalue hmem hunseen =>
      refine hnone (token?_eq_none_of_forall fun value token hvalue' hcarries => ?_)
      obtain rfl := Option.some.inj (hvalue.symm.trans hvalue')
      cases hunseen.symm.trans (hcarries.visible _ hmem)
  | oneWord hvalue hword hspace =>
      refine hnone (token?_eq_none_of_forall fun value token hvalue' hcarries => ?_)
      obtain rfl := Option.some.inj (hvalue.symm.trans hvalue')
      obtain ⟨scheme, rest, hreads, -, -⟩ := hcarries.reads
      obtain rfl := hword.unique hreads
      exact hspace (List.mem_append_right scheme List.mem_cons_self)
  | otherScheme hvalue hword hspace hscheme =>
      refine hnone (token?_eq_none_of_forall fun value token hvalue' hcarries => ?_)
      obtain rfl := Option.some.inj (hvalue.symm.trans hvalue')
      obtain ⟨scheme', rest', hreads, hscheme', -⟩ := hcarries.reads
      have hpieces := congrArg (Text.pieces 0x20) (hword.unique hreads)
      rw [Text.pieces_append_cons hspace, Text.pieces_append_cons hscheme'.space_not_mem] at hpieces
      obtain rfl := (List.cons.inj hpieces).1
      exact hscheme hscheme'
  | refused hvalue hcarries hverify =>
      rw [hcarried hvalue hcarries, principal, hverify]
      rfl
  | unknown hvalue hcarries hverify huser =>
      rw [hcarried hvalue hcarries, principal, hverify]
      simp only [huser]
      rfl

/-- There are no other ways. -/
theorem comesToNothing_iff : g.ComesToNothing request.headers ↔ g.caller request = none := by
  refine ⟨fun h => h.caller_eq_none, fun h => ?_⟩
  cases hvalue : Header.find? request.headers "authorization" with
  | none => exact .absent hvalue
  | some value =>
      by_cases hvisible : ∀ b ∈ value, Header.isVisible b = true
      · obtain ⟨word, hword⟩ := Text.exists_strips Octets.isBlank value
        by_cases hspace : 0x20 ∈ word
        · obtain ⟨scheme, rest, rfl, hfirst⟩ := List.eq_append_cons_of_mem hspace
          by_cases hscheme : Bearer.IsScheme scheme
          · obtain ⟨token, htoken⟩ := Text.exists_strips Octets.isBlank rest
            have hcarries : Bearer.Carries value token :=
              ⟨hvisible, scheme, rest, hword, hscheme, htoken⟩
            cases hverify : Token.verify g.settings g.now .access token with
            | error fault => exact .refused hvalue hcarries hverify
            | ok claims =>
                cases huser : g.readers.user claims.subject with
                | error failure => exact .unknown hvalue hcarries hverify huser
                | ok user =>
                    have hcaller : g.caller request = some user := caller_eq_some_iff.mpr
                      ⟨token, claims, Bearer.token?_eq_some_iff.mpr ⟨value, hvalue, hcarries⟩,
                        hverify, huser⟩
                    cases h.symm.trans hcaller
          · exact .otherScheme hvalue hword hfirst hscheme
        · exact .oneWord hvalue hword hspace
      · simp only [not_forall, Bool.not_eq_true] at hvisible
        obtain ⟨b, hb, hunseen⟩ := hvisible
        exact .unseen hvalue hb hunseen

end Gate

end TrackerGate
