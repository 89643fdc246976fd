import Mathlib.Data.List.Basic
import TrackerGate.Proofs.Token.Issued
import TrackerGate.Proofs.Token.Shown

/-!
# What is accepted as a token

Whoever presents a token chooses every octet of it. `Token.verify_accepts_only_sealed` says
what an accepted one nevertheless is: three parts, of which the last is what this library would
have written under the two before it, so that an accepted token cannot be changed into another
one with the same first two parts.

The payload is read twice, for the claims and for the registered claims, and each reading
allows what the other does not. Between them a payload in the form of a list is either too
short or too long (`exists_members_of_read`), so it is an object, and there both readings find
the same expiry (`expiry_of_read`). A name that is written twice is taken by neither.
-/

namespace TrackerGate

open Json

/-! ## Records that are read -/

namespace Json

/-- A list gives a field only if it reaches as far. -/
theorem idxOf_lt_of_itemSlot {names : List String} {items : List Json} {name : String} {j : Json}
    (h : itemSlot names items name = .given j) : names.idxOf name < items.length := by
  induction names generalizing items with
  | nil => cases h
  | cons declared names ih =>
      cases items with
      | nil => cases h
      | cons item items =>
          by_cases hname : name = declared
          · subst hname
            simp
          · rw [itemSlot, if_neg hname] at h
            rw [List.idxOf_cons_ne _ (Ne.symm hname), List.length_cons]
            exact Nat.succ_lt_succ (ih h)

theorem exists_given_of_required {α : Type} {read : Json → Option α} {slot : Slot} {a : α}
    (h : slot.required read = some a) : ∃ j, slot = .given j ∧ read j = some a := by
  cases slot with
  | given j => exact ⟨j, rfl, h⟩
  | absent => cases h
  | cutOff => cases h

/-- An object that is read as a record has texts for names and says nothing twice. -/
theorem record?_obj {names : List String} {members : List (Literal × Json)} {slot : String → Slot}
    (h : (Json.obj members).record? names = some slot) :
    ∃ named, named? members = some named ∧ isSingular names named = true
      ∧ slot = memberSlot named := by
  rw [record?] at h
  cases hnamed : named? members with
  | none => simp [hnamed] at h
  | some named =>
      simp only [hnamed, Option.ite_none_right_eq_some, Option.some.injEq] at h
      exact ⟨named, rfl, h.1, h.2.symm⟩

theorem mem_of_named? {members : List (Literal × Json)} {named : List (String × Json)}
    (h : named? members = some named) {m : Literal × Json} (hm : m ∈ members) {name : String}
    (hname : m.1.text? = some name) : (name, m.2) ∈ named := by
  induction members generalizing named with
  | nil => cases hm
  | cons first members ih =>
      simp only [named?, List.mapM_cons, Option.bind_eq_bind, Option.bind_eq_some_iff,
        Option.map_eq_some_iff, Option.pure_def, Option.some.injEq] at h
      obtain ⟨_, ⟨text, htext, rfl⟩, rest, hrest, rfl⟩ := h
      rcases List.mem_cons.mp hm with rfl | hm
      · obtain rfl := Option.some.inj (htext.symm.trans hname)
        exact List.mem_cons_self
      · exact List.mem_cons_of_mem _ (ih hrest hm)

/-- A declared name that is not given twice stands for its only value. -/
theorem memberSlot_of_mem {names : List String} {named : List (String × Json)}
    (hsingular : isSingular names named = true) {name : String} (hname : name ∈ names) {j : Json}
    (hmem : (name, j) ∈ named) : memberSlot named name = .given j := by
  have hcount : named.countP (·.1 == name) ≤ 1 :=
    of_decide_eq_true (List.all_eq_true.mp hsingular name hname)
  clear hsingular
  induction named with
  | nil => cases hmem
  | cons m named ih =>
      rw [memberSlot_cons]
      by_cases hfirst : m.1 = name
      · rw [if_pos hfirst]
        rcases List.mem_cons.mp hmem with heq | hmem
        · rw [← heq]
        · have hrest : 0 < named.countP (·.1 == name) :=
            List.countP_pos_iff.mpr ⟨_, hmem, beq_self_eq_true name⟩
          have hboth := List.countP_cons_of_pos (p := (·.1 == name)) (l := named)
            (beq_iff_eq.mpr hfirst)
          omega
      · rw [if_neg hfirst]
        have hrest := List.countP_cons_of_neg (p := (·.1 == name)) (l := named)
          (by simpa using hfirst)
        rcases List.mem_cons.mp hmem with heq | hmem
        · exact absurd (congrArg Prod.fst heq).symm hfirst
        · exact ih hmem (hrest ▸ hcount)

end Json

/-! ## Two readings of one payload -/

/-- Every slot that the claims need is given, and `exp` is among them. -/
theorem Claims.slots_of_ofJson? {payload : Json} {c : Claims} (h : ofJson? payload = some c) :
    ∃ slot, payload.record? fields = some slot
      ∧ (slot "exp").required uint64? = some c.expiry
      ∧ (slot "iat").required uint64? = some c.issuedAt := by
  simp only [ofJson?, Option.bind_eq_bind, Option.bind_eq_some_iff, Option.pure_def,
    Option.some.injEq] at h
  obtain ⟨slot, hslot, -, -, -, -, -, -, -, -, -, -, expiry, hexpiry, issuedAt, hissued, rfl⟩ := h
  exact ⟨slot, hslot, hexpiry, hissued⟩

namespace Registered

theorem slots_of_ofJson? {payload : Json} {r : Registered} (h : ofJson? payload = some r) :
    ∃ slot, payload.record? names = some slot
      ∧ r.expiry = (slot "exp").required uint64?
      ∧ r.namesAudience = onGiven isAudience false (slot "aud") := by
  simp only [ofJson?, Option.bind_eq_bind, Option.bind_eq_some_iff, Option.ite_none_right_eq_some,
    Option.pure_def, Option.some.injEq] at h
  obtain ⟨slot, hslot, -, rfl⟩ := h
  exact ⟨slot, hslot, rfl, rfl⟩

variable {payload : Json} {c : Claims} {r : Registered}

/-- A list that is long enough for the claims is too long for the registered ones. -/
theorem exists_members_of_read (hclaims : Claims.ofJson? payload = some c)
    (hregistered : ofJson? payload = some r) : ∃ members, payload = .obj members := by
  obtain ⟨slot, hslot, -, hissued⟩ := Claims.slots_of_ofJson? hclaims
  obtain ⟨slot', hslot', -, -⟩ := slots_of_ofJson? hregistered
  cases payload with
  | obj members => exact ⟨members, rfl⟩
  | arr items =>
      obtain ⟨j, hgiven, -⟩ := exists_given_of_required hissued
      simp only [record?, Option.ite_none_right_eq_some, Option.some.injEq] at hslot hslot'
      obtain ⟨-, rfl⟩ := hslot
      have hlong : Claims.fields.idxOf "iat" < items.length := idxOf_lt_of_itemSlot hgiven
      have hshort : items.length ≤ names.length := hslot'.1
      have hfields : Claims.fields.idxOf "iat" = 6 := by decide
      have hnames : names.length = 5 := rfl
      omega
  | null => cases hslot
  | bool b => cases hslot
  | int n => cases hslot
  | real lexeme => cases hslot
  | str literal => cases hslot

/-- The expiry that is checked is the one that is claimed. -/
theorem expiry_of_read (hclaims : Claims.ofJson? payload = some c)
    (hregistered : ofJson? payload = some r) : r.expiry = some c.expiry := by
  obtain ⟨members, rfl⟩ := exists_members_of_read hclaims hregistered
  obtain ⟨slot, hslot, hexpiry, -⟩ := Claims.slots_of_ofJson? hclaims
  obtain ⟨slot', hslot', hexpiry', -⟩ := slots_of_ofJson? hregistered
  obtain ⟨named, hnamed, -, rfl⟩ := record?_obj hslot
  obtain ⟨named', hnamed', -, rfl⟩ := record?_obj hslot'
  obtain rfl := Option.some.inj (hnamed.symm.trans hnamed')
  rw [hexpiry', hexpiry]

theorem isAudience_of_text? {j : Json} {s : String} (h : j.text? = some s) :
    isAudience j = true := by
  cases j with
  | str literal => exact Option.isSome_of_eq_some h
  | null | bool | int | real | arr | obj => cases h

theorem isAudience_of_texts? {j : Json} {texts : List String} (h : j.texts? = some texts) :
    isAudience j = true := by
  cases j with
  | arr items =>
      simp only [texts?, items?, Option.bind_some] at h
      rw [isAudience]
      induction items generalizing texts with
      | nil => rfl
      | cons item items ih =>
          simp only [List.mapM_cons, Option.bind_eq_bind, Option.bind_eq_some_iff] at h
          obtain ⟨text, htext, rest, hrest, -⟩ := h
          rw [List.all_cons, htext, ih hrest]
          rfl
  | null | bool | int | real | str | obj => cases h

/-- Where no audience is found none is named. -/
theorem names_no_audience {members : List (Literal × Json)}
    (hregistered : ofJson? (.obj members) = some r) (hnone : r.namesAudience = false)
    {m : Literal × Json} (hm : m ∈ members) (hname : m.1.text? = some "aud") :
    m.2.text? = none ∧ m.2.texts? = none := by
  obtain ⟨slot, hslot, -, haudience⟩ := slots_of_ofJson? hregistered
  obtain ⟨named, hnamed, hsingular, rfl⟩ := record?_obj hslot
  have hgiven : memberSlot named "aud" = .given m.2 :=
    memberSlot_of_mem hsingular (by decide) (mem_of_named? hnamed hm hname)
  rw [hgiven, hnone] at haudience
  have hno : isAudience m.2 = false := haudience.symm
  constructor
  · refine Option.eq_none_iff_forall_ne_some.mpr fun s hs => ?_
    rw [isAudience_of_text? hs] at hno
    cases hno
  · refine Option.eq_none_iff_forall_ne_some.mpr fun texts htexts => ?_
    rw [isAudience_of_texts? htexts] at hno
    cases hno

end Registered

/-! ## Headers -/

/-- A header may do without everything but the name of an algorithm that is known. -/
theorem TokenHeader.algorithm?_record (name : String) :
    algorithm? (.record [("alg", .ofText name)])
      = if algorithms.contains name then some name else none := by
  have hslots : (Json.record [("alg", .ofText name)]).record? fields
      = some (memberSlot [("alg", .ofText name)]) := record?_record rfl
  simp only [algorithm?, hslots, Option.bind_eq_bind, Option.bind_some, memberSlot_cons,
    memberSlot_nil, if_pos, Slot.required, Json.oneOf?, constant?_ofText]
  split
  · rfl
  · rfl

/-! ## Parts -/

namespace Token

theorem orFault_eq_ok_iff {α : Type} {fault : TokenFault} {value : Option α} {a : α} :
    orFault fault value = .ok a ↔ value = some a := by
  cases value <;> simp [orFault]

theorem demand_eq_ok_iff {fault : TokenFault} {holds : Bool} {u : Unit} :
    demand fault holds = .ok u ↔ holds = true := by
  cases holds <;> simp [demand]

theorem not_mem_of_cutAtLast {sep : UInt8} {o : Octets} (h : cutAtLast sep o = none) :
    sep ∉ o := by
  induction o with
  | nil => exact List.not_mem_nil
  | cons b o ih =>
      rw [cutAtLast] at h
      cases hcut : cutAtLast sep o with
      | some parts => simp [hcut] at h
      | none =>
          have hb : b ≠ sep := by simpa [hcut] using h
          rw [List.mem_cons, not_or]
          exact ⟨hb.symm, ih hcut⟩

/-- What is cut off is what stands behind the last separator. -/
theorem eq_append_of_cutAtLast {sep : UInt8} {o front back : Octets}
    (h : cutAtLast sep o = some (front, back)) : o = front ++ sep :: back ∧ sep ∉ back := by
  induction o generalizing front with
  | nil => cases h
  | cons b o ih =>
      rw [cutAtLast] at h
      cases hcut : cutAtLast sep o with
      | some parts =>
          obtain ⟨front', back'⟩ := parts
          simp only [hcut, Option.some.injEq, Prod.mk.injEq] at h
          obtain ⟨rfl, rfl⟩ := h
          obtain ⟨heq, hback⟩ := ih hcut
          exact ⟨by rw [List.cons_append, ← heq], hback⟩
      | none =>
          simp only [hcut, Option.ite_none_right_eq_some, Option.some.injEq, Prod.mk.injEq] at h
          obtain ⟨rfl, rfl, rfl⟩ := h
          exact ⟨rfl, not_mem_of_cutAtLast hcut⟩

theorem part_eq_ok_iff {segment : Octets} {j : Json} :
    part segment = .ok j
      ↔ ∃ octets, segment = Base64Url.encode octets ∧ Json.parse? octets = some j := by
  simp only [part, bind_eq_ok_iff, orFault_eq_ok_iff, Base64Url.decode?_eq_some_iff]

/-! ## Accepted tokens -/

/-- The segment is a header, and the algorithm it names is the one of this library. -/
def IsHeader (segment : Octets) : Prop :=
  ∃ octets j, segment = Base64Url.encode octets ∧ Json.parse? octets = some j
    ∧ TokenHeader.algorithm? j = some "HS256"

/-- The segment is an object that is read as the claims `c`, and no audience is named in it:
neither a text nor a list of texts. A literal in which a surrogate has no partner is no text. -/
def IsPayload (segment : Octets) (c : Claims) : Prop :=
  ∃ octets members, segment = Base64Url.encode octets
    ∧ Json.parse? octets = some (.obj members) ∧ Claims.ofJson? (.obj members) = some c
    ∧ ∀ m ∈ members, m.1.text? = some "aud" → m.2.text? = none ∧ m.2.texts? = none

/-- The token is a header, a payload that says `c`, and what the secret makes of the two. -/
def IsSealed (s : TokenSettings) (token : Token) (c : Claims) : Prop :=
  ∃ header payload,
    Text.pieces dot token
        = [header, payload, Base64Url.encode (Hmac.sign s.secret (header ++ dot :: payload))]
      ∧ IsHeader header ∧ IsPayload payload c

theorem dot_not_mem_encode (o : Octets) : dot ∉ Base64Url.encode o :=
  fun h => ne_dot_of_mem_encode h rfl

theorem pieces_of_parts {header payload signature : Octets} (hheader : dot ∉ header)
    (hpayload : dot ∉ payload) (hsignature : dot ∉ signature) :
    Text.pieces dot (header ++ dot :: payload ++ dot :: signature)
      = [header, payload, signature] := by
  rw [List.append_assoc, List.cons_append, Text.pieces_append_cons hheader,
    Text.pieces_append_cons hpayload, Text.pieces_of_not_mem hsignature]

/-- What is found to be said by a token is sealed in it, and has not expired. -/
theorem isSealed_of_decode {s : TokenSettings} {now : Nat} {token : Token} {c : Claims}
    (h : decode s now token = .ok c) : IsSealed s token c ∧ now ≤ c.expiry.toNat + 60 := by
  simp only [decode, bind_eq_ok_iff, pure_eq_ok_iff, orFault_eq_ok_iff, demand_eq_ok_iff,
    part_eq_ok_iff, beq_iff_eq, Prod.exists] at h
  obtain ⟨message, _, houter, header, payload, hinner, json, hheader, algorithm, halgorithm, -,
    rfl, -, rfl, json', hpayload, claims, hclaims, registered, hregistered, expiry, hexpiry, -,
    hcurrent, -, haudience, rfl⟩ := h
  obtain ⟨rfl, -⟩ := eq_append_of_cutAtLast houter
  obtain ⟨rfl, -⟩ := eq_append_of_cutAtLast hinner
  obtain ⟨octets, rfl, hjson⟩ := hheader
  obtain ⟨octets', rfl, hjson'⟩ := hpayload
  obtain ⟨members, rfl⟩ := Registered.exists_members_of_read hclaims hregistered
  obtain rfl := Option.some.inj
    (hexpiry.symm.trans (Registered.expiry_of_read hclaims hregistered))
  refine ⟨⟨_, _, pieces_of_parts (dot_not_mem_encode _) (dot_not_mem_encode _)
    (dot_not_mem_encode _), ⟨octets, json, rfl, hjson, halgorithm⟩,
    ⟨octets', members, rfl, hjson', hclaims, ?_⟩⟩, of_decide_eq_true hcurrent⟩
  intro m hm hname
  exact Registered.names_no_audience hregistered (by simpa using haudience) hm hname

theorem eq_of_pieces_eq {token token' : Token}
    (h : Text.pieces dot token = Text.pieces dot token') : token = token' := by
  rw [← Text.intercalate_pieces dot token, h, Text.intercalate_pieces]

theorem IsSealed.count_dot {s : TokenSettings} {token : Token} {c : Claims}
    (h : IsSealed s token c) : token.count dot = 2 := by
  obtain ⟨header, payload, hpieces, -, -⟩ := h
  have hlength := Text.length_pieces dot token
  rw [hpieces] at hlength
  exact (Nat.succ.inj hlength).symm

/-- The first two parts of a sealed token leave no choice for the third. -/
theorem IsSealed.eq_of_take {s : TokenSettings} {token token' : Token} {c c' : Claims}
    (h : IsSealed s token c) (h' : IsSealed s token' c')
    (htake : (Text.pieces dot token).take 2 = (Text.pieces dot token').take 2) :
    token = token' := by
  obtain ⟨header, payload, hpieces, -, -⟩ := h
  obtain ⟨header', payload', hpieces', -, -⟩ := h'
  rw [hpieces, hpieces'] at htake
  obtain ⟨rfl, htail⟩ := List.cons.inj htake
  obtain ⟨rfl, -⟩ := List.cons.inj htail
  exact eq_of_pieces_eq (hpieces.trans hpieces'.symm)

/-- The header of a sealed token names the one algorithm. -/
theorem IsSealed.algorithm? {s : TokenSettings} {token : Token} {c : Claims}
    (h : IsSealed s token c) {header : Octets} (hhead : (Text.pieces dot token).head? = some header)
    {j : Json} (hj : part header = .ok j) : TokenHeader.algorithm? j = some "HS256" := by
  obtain ⟨_, payload, hpieces, ⟨octets, json, rfl, hjson, halgorithm⟩, -⟩ := h
  rw [hpieces] at hhead
  obtain rfl := Option.some.inj hhead
  obtain ⟨octets', hencode, hjson'⟩ := part_eq_ok_iff.mp hj
  have hsame : octets = octets' := by
    have hdecode := Base64Url.decode?_encode octets
    rw [hencode, Base64Url.decode?_encode] at hdecode
    exact (Option.some.inj hdecode).symm
  subst hsame
  obtain rfl := Option.some.inj (hjson.symm.trans hjson')
  exact halgorithm

/-- An accepted token has three parts: a header that names HS256, a payload that is read as
the claims it is accepted for, and the signature of the two. It is of the kind it was expected
to be, and has expired at most a minute ago. So no accepted token has the first two parts of
another one, nothing is accepted behind a header that names another algorithm, and claims that
have expired are never returned. -/
theorem verify_accepts_only_sealed (s : TokenSettings) :
    (∀ now expected token c, verify s now expected token = .ok c →
        token.count dot = 2 ∧ IsSealed s token c ∧ c.kind = expected ∧ now - 60 ≤ c.expiry.toNat)
      ∧ (∀ now expected token c now' expected' token' c',
          verify s now expected token = .ok c → verify s now' expected' token' = .ok c' →
          (Text.pieces dot token).take 2 = (Text.pieces dot token').take 2 → token = token')
      ∧ (∀ token header j, (Text.pieces dot token).head? = some header → part header = .ok j →
          TokenHeader.algorithm? j ≠ some "HS256" →
          ∀ now expected c, verify s now expected token ≠ .ok c)
      ∧ (∀ now expected token c, c.expiry.toNat + 60 < now →
          verify s now expected token ≠ .ok c) := by
  have hsealed {now : Nat} {expected : TokenKind} {token : Token} {c : Claims}
      (h : verify s now expected token = .ok c) :
      IsSealed s token c ∧ now ≤ c.expiry.toNat + 60 :=
    isSealed_of_decode (verify_eq_ok_iff.mp h).1
  refine ⟨?_, ?_, ?_, ?_⟩
  · intro now expected token c h
    obtain ⟨hseal, hcurrent⟩ := hsealed h
    exact ⟨hseal.count_dot, hseal, (verify_eq_ok_iff.mp h).2, by omega⟩
  · intro now expected token c now' expected' token' c' h h' htake
    exact (hsealed h).1.eq_of_take (hsealed h').1 htake
  · intro token header j hhead hj halgorithm now expected c h
    exact halgorithm ((hsealed h).1.algorithm? hhead hj)
  · intro now expected token c hexpired h
    have hcurrent := (hsealed h).2
    omega

/-- A refresh token in the last second in which it is taken, and whatever anybody writes behind
a header that names another algorithm. -/
theorem verify_accepts_only_sealed_in_last_second :
    ∃ s token c,
      verify s 1360 .refresh token = .ok c
        ∧ token.count dot = 2 ∧ IsSealed s token c ∧ c.kind = .refresh ∧ 1300 ≤ c.expiry.toNat
        ∧ verify s 1361 .refresh token ≠ .ok c
        ∧ ∀ rest, verify s 1360 .refresh
            (Base64Url.encode (Json.record [("alg", .ofText "HS512")]).print ++ dot :: rest)
              ≠ .ok c := by
  obtain ⟨s, c, hkind, hexpiry⟩ :
      ∃ (_ : TokenSettings) (c : Claims), c.kind = .refresh ∧ c.expiry = 1300 :=
    ⟨.withSecret (.ofText "k"), ⟨.refresh, 5, "eve", false, none, 1300, 1000⟩, rfl, rfl⟩
  have hverify : verify s 1360 .refresh (encode s c) = .ok c := by
    rw [verify_encode (by rw [hexpiry]; decide), if_pos hkind]
  have hlate : c.expiry.toNat + 60 < 1361 := by rw [hexpiry]; decide
  obtain ⟨haccepted, -, hother, hexpired⟩ := verify_accepts_only_sealed s
  obtain ⟨hdots, hsealed, -, hcurrent⟩ := haccepted _ _ _ _ hverify
  refine ⟨s, encode s c, c, hverify, hdots, hsealed, hkind, hcurrent,
    hexpired _ _ _ _ hlate, ?_⟩
  intro rest
  have hcanonical : (Json.record [("alg", .ofText "HS512")]).Canonical := by
    refine canonical_record fun m hm => ?_
    obtain rfl := List.mem_singleton.mp hm
    exact canonical_ofText _
  refine hother _ _ _ ?_ (part_encode hcanonical) ?_ _ _ _
  · rw [Text.pieces_append_cons (dot_not_mem_encode _)]
    rfl
  · rw [TokenHeader.algorithm?_record]
    decide

end Token

end TrackerGate
