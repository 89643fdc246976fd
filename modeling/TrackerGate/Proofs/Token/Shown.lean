import TrackerGate.Proofs.Gate.Presented
import TrackerGate.Proofs.Token.Issued

/-!
# Tokens as they are handed out

A token is handed out as a text. Two things are said of such a text. What it says is there to
be read before anything is checked (`Token.said`), and it is what every check that succeeds
comes to, so that a text which is a token of somebody is never a token of anybody else
(`Token.IsFor`). And a text that was issued is taken for what it is until a minute after its
expiry, and from then on for nothing (`Token.IsIssued`). How soon that is depends on the life
that is set; a life may also be over before it begins.
-/

namespace TrackerGate

/-! ## Tokens as texts -/

namespace Token

/-- The text that a token is shown as is the token, octet by octet. -/
theorem ofText_shown_encode (s : TokenSettings) (c : Claims) :
    Octets.ofText (Octets.shown (encode s c)) = encode s c := by
  have htext : Octets.ofText (String.ofList ((encode s c).map Octets.charOf)) = encode s c :=
    Octets.ofText_map_charOf fun _ => isGraphic_of_mem_encode
  have hshown : Octets.shown (encode s c) = String.ofList ((encode s c).map Octets.charOf) := by
    rw [Octets.shown, ← htext, Octets.toText?_ofText, htext]
    rfl
  rw [hshown, htext]

/-- What a token says, good or not. -/
def said (token : Token) : Except TokenFault Claims := do
  let (message, _) ← orFault .malformed (cutAtLast dot token)
  let (_, payload) ← orFault .malformed (cutAtLast dot message)
  let payload ← part payload
  orFault .json (Claims.ofJson? payload)

/-- What is taken from a good token is what it says, whenever it is looked at. -/
theorem said_of_decode {s : TokenSettings} {clock : Nat} {token : Token} {c : Claims}
    (h : decode s clock token = .ok c) : said token = .ok c := by
  simp only [decode, bind_eq_ok_iff, pure_eq_ok_iff] at h
  obtain ⟨outer, houter, inner, hinner, -, -, -, -, -, -, -, -, payload, hpayload, claims, hclaims,
    -, -, -, -, -, -, -, -, rfl⟩ := h
  simp only [said, bind_eq_ok_iff]
  exact ⟨outer, houter, inner, hinner, payload, hpayload, hclaims⟩

theorem verify_eq_ok_iff {s : TokenSettings} {clock : Nat} {expected : TokenKind} {token : Token}
    {c : Claims} :
    verify s clock expected token = .ok c ↔ decode s clock token = .ok c ∧ c.kind = expected := by
  have hdemand {kind : TokenKind} {u : Unit} :
      demand (.unexpected expected kind) (kind == expected) = .ok u ↔ kind = expected := by
    by_cases h : kind = expected <;> simp [demand, h]
  simp only [verify, bind_eq_ok_iff, pure_eq_ok_iff, hdemand]
  constructor
  · rintro ⟨claims, hdecode, -, hkind, rfl⟩
    exact ⟨hdecode, hkind⟩
  · rintro ⟨hdecode, hkind⟩
    exact ⟨c, hdecode, (), hkind, rfl⟩

/-- A token of one kind is refused as any other, and the refusal names both. -/
theorem verify_of_other {s : TokenSettings} {clock : Nat} {kind other : TokenKind} {token : Token}
    {c : Claims} (h : verify s clock kind token = .ok c) (hother : other ≠ kind) :
    verify s clock other token = .error (.unexpected other kind) := by
  obtain ⟨hdecode, rfl⟩ := verify_eq_ok_iff.mp h
  have hne : (c.kind == other) = false := beq_eq_false_iff_ne.mpr hother.symm
  simp only [verify, hdecode, demand, hne, bind, Except.bind, Bool.false_eq_true, if_false]

theorem said_encode (s : TokenSettings) (c : Claims) : said (encode s c) = .ok c := by
  have hcurrent : isCurrent 0 c.expiry = true := by simp [isCurrent]
  have hdecode : decode s 0 (encode s c) = .ok c := by rw [decode_encode, if_pos hcurrent]
  exact said_of_decode hdecode

/-- Whenever the text is taken for a token of whatever kind, it is one of `subject`. -/
def IsFor (s : TokenSettings) (subject : UserId) (text : String) : Prop :=
  ∀ clock kind c, verify s clock kind (.ofText text) = .ok c → c.subject = subject

theorem isFor_of_said {s : TokenSettings} {text : String} {c : Claims}
    (h : said (.ofText text) = .ok c) : IsFor s c.subject text := by
  intro clock kind c' hverify
  obtain ⟨hdecode, -⟩ := verify_eq_ok_iff.mp hverify
  have hsame := (said_of_decode hdecode).symm.trans h
  exact congrArg Claims.subject (Except.ok.inj hsame)

/-! ## Issued tokens -/

/-- The text is a token that was issued to the user at `now`. It is taken for what it is until
a minute after its expiry, and for nothing else; from then on it is taken for nothing at all. -/
structure IsIssued (s : TokenSettings) (now : Nat) (user : User) (kind : TokenKind)
    (permissions : Option PermissionSnapshot) (text : String) (c : Claims) : Prop where
  expiry : 0 ≤ now + s.ttl kind → (c.expiry.toNat : Int) = now + s.ttl kind
  verified : ∀ clock ≤ c.expiry.toNat + leeway, verify s clock kind (.ofText text) = .ok c
  unexpected : ∀ clock ≤ c.expiry.toNat + leeway, ∀ other, other ≠ kind →
    verify s clock other (.ofText text) = .error (.unexpected other kind)
  expired : ∀ clock > c.expiry.toNat + leeway, ∀ other,
    verify s clock other (.ofText text) = .error .expired
  /-- Unless its life ended more than a minute before it began, it is good at once. -/
  atOnce : -60 ≤ s.ttl kind → verify s now kind (.ofText text) = .ok c
  subject : c.subject = user.id
  username : c.username = user.username
  isSuperuser : c.isSuperuser = user.isSuperuser
  kind : c.kind = kind
  permissions : c.permissions = permissions

theorem verify_encode_of_expired {s : TokenSettings} {clock : Nat} {c : Claims}
    (hclock : c.expiry.toNat + leeway < clock) (expected : TokenKind) :
    verify s clock expected (encode s c) = .error .expired := by
  have hpast : isCurrent clock c.expiry = false := decide_eq_false (by omega)
  have hdecode : decode s clock (encode s c) = .error .expired := by
    rw [decode_encode, hpast]
    rfl
  rw [verify, hdecode]
  rfl

/-- A life that ended a minute ago at most leads to an expiry that is current. -/
theorem le_expiry_add_leeway {now : Nat} {ttl : Int} (hfirst : Calendar.first ≤ now + ttl)
    (hlast : now + ttl ≤ Calendar.last) (httl : -60 ≤ ttl) :
    now ≤ (UInt64.ofInt (now + ttl)).toNat + leeway := by
  simp only [Calendar.first, Calendar.last] at hfirst hlast
  simp only [UInt64.ofInt, UInt64.toNat_ofNat', leeway]
  omega

theorem isIssued_of_claims? {s : TokenSettings} {now : Nat} {user : User} {kind : TokenKind}
    {permissions : Option PermissionSnapshot} {c : Claims}
    (h : claims? s now user kind permissions = some c) :
    IsIssued s now user kind permissions (Octets.shown (encode s c)) c := by
  obtain ⟨moment, hmoment, rfl⟩ := Option.map_eq_some_iff.mp h
  obtain ⟨rfl, hfirst, hlast⟩ := Calendar.after?_eq_some_iff.mp hmoment
  refine ⟨?_, ?_, ?_, ?_, ?_, rfl, rfl, rfl, rfl, rfl⟩
  · intro hnonneg
    rw [Calendar.last] at hlast
    exact toNat_uint64_ofInt hnonneg (by omega)
  · intro clock hclock
    rw [ofText_shown_encode, verify_encode hclock, if_pos rfl]
  · intro clock hclock other hother
    rw [ofText_shown_encode, verify_encode hclock, if_neg hother.symm]
  · intro clock hclock other
    rw [ofText_shown_encode, verify_encode_of_expired hclock]
  · intro httl
    have hclock := le_expiry_add_leeway hfirst hlast httl
    rw [ofText_shown_encode, verify_encode hclock, if_pos rfl]

theorem isFor_of_claims? {s : TokenSettings} {now : Nat} {user : User} {kind : TokenKind}
    {permissions : Option PermissionSnapshot} {c : Claims}
    (h : claims? s now user kind permissions = some c) :
    IsFor s user.id (Octets.shown (encode s c)) := by
  have hsaid : said (.ofText (Octets.shown (encode s c))) = .ok c := by
    rw [ofText_shown_encode, said_encode]
  obtain ⟨moment, -, rfl⟩ := Option.map_eq_some_iff.mp h
  exact isFor_of_said hsaid

end Token

end TrackerGate
