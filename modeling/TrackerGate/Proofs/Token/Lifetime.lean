import TrackerGate.Proofs.Token.Shown

/-!
# How long tokens live

A token should live as long as the settings say, and a minute more. What a token carries is
the moment of its expiry as a word of 64 bits, and that word is all that is compared with the
clock. So an issued token lives until the moment that the word stands for
(`Issuance.livesUntil_of_issue`), and the question is only when that is the moment that was
meant.

Beyond the calendar nothing is issued. Within it, a moment after 1970 is its own word. A moment
before 1970 has a date and no word: it wraps around to the far end of time, and a token that was
meant to be over for years is good for good (`Issuance.livesUntil_iff`). The settings
that come from the environment have no such lives.
-/

namespace TrackerGate

namespace Token

/-- Until a minute after `moment`, and no longer, the token is taken for one of its kind. -/
def LivesUntil (s : TokenSettings) (kind : TokenKind) (token : Token) (moment : Int) : Prop :=
  ∀ clock : Nat, (∃ c, verify s clock kind token = .ok c) ↔ (clock : Int) ≤ moment + 60

variable {s : TokenSettings} {kind : TokenKind} {token : Token}

/-- A token that was alive in 1970 or later died once. -/
theorem LivesUntil.eq {moment moment' : Int} (h : LivesUntil s kind token moment)
    (h' : LivesUntil s kind token moment') (hmoment : 0 ≤ moment) : moment = moment' := by
  have hiff (clock : Nat) : (clock : Int) ≤ moment + 60 ↔ (clock : Int) ≤ moment' + 60 :=
    (h clock).symm.trans (h' clock)
  have hlast : ((moment + 60).toNat : Int) ≤ moment' + 60 := (hiff _).mp (by omega)
  have hgone : ¬((moment + 61).toNat : Int) ≤ moment' + 60 := by
    intro hle
    have hlong := (hiff _).mpr hle
    omega
  omega

theorem livesUntil_encode (s : TokenSettings) (c : Claims) :
    LivesUntil s c.kind (encode s c) c.expiry.toNat := by
  intro clock
  have hleeway : (clock : Int) ≤ c.expiry.toNat + 60 ↔ clock ≤ c.expiry.toNat + leeway := by
    rw [leeway]
    omega
  rw [hleeway]
  rcases Nat.lt_or_ge (c.expiry.toNat + leeway) clock with hexpired | hcurrent
  · refine ⟨?_, fun hcurrent => absurd hexpired (Nat.not_lt.mpr hcurrent)⟩
    rintro ⟨c', hverify⟩
    rw [verify_encode_of_expired hexpired] at hverify
    cases hverify
  · exact ⟨fun _ => hcurrent, fun _ => ⟨c, by rw [verify_encode hcurrent, if_pos rfl]⟩⟩

/-! ## Claims -/

theorem toNat_uint64_ofInt_emod (n : Int) :
    ((UInt64.ofInt n).toNat : Int) = n % 0x10000000000000000 := by
  simp only [UInt64.ofInt, UInt64.toNat_ofNat']
  omega

variable {now : Nat} {user : User} {permissions : Option PermissionSnapshot}

theorem expiry_of_claims? {c : Claims} (h : claims? s now user kind permissions = some c) :
    c.kind = kind ∧ (c.expiry.toNat : Int) = (now + s.ttl kind) % 0x10000000000000000 := by
  obtain ⟨moment, hmoment, rfl⟩ := Option.map_eq_some_iff.mp h
  obtain ⟨rfl, -, -⟩ := Calendar.after?_eq_some_iff.mp hmoment
  exact ⟨rfl, toNat_uint64_ofInt_emod _⟩

theorem claims?_eq_none_iff :
    claims? s now user kind permissions = none
      ↔ ¬(Calendar.first ≤ now + s.ttl kind ∧ now + s.ttl kind ≤ Calendar.last) := by
  simp only [claims?, Option.map_eq_none_iff, Calendar.after?, ite_eq_right_iff, reduceCtorEq,
    imp_false]

/-- Signing fails for a single reason. -/
theorem sign_eq_error_iff {f : Failure} :
    sign s now user kind permissions = .error f
      ↔ ¬(Calendar.first ≤ now + s.ttl kind ∧ now + s.ttl kind ≤ Calendar.last)
        ∧ f = .configuration (kind.word ++ " token ttl is out of range") := by
  cases hc : claims? s now user kind permissions with
  | none =>
      have hout := claims?_eq_none_iff.mp hc
      rw [sign, hc, Except.error.injEq]
      exact ⟨fun h => ⟨hout, h.symm⟩, fun h => h.2.symm⟩
  | some c =>
      rw [sign, hc]
      constructor
      · intro h
        cases h
      · rintro ⟨hout, -⟩
        rw [claims?_eq_none_iff.mpr hout] at hc
        cases hc

end Token

/-! ## Issued tokens -/

namespace Issuance

variable {s : TokenSettings} {r : Readers} {now : Nat} {user : User} {kind : TokenKind}
  {token : Token}

/-- The end of an issued token, for every life that can be set. -/
theorem livesUntil_of_issue (h : (issue s r now user kind).token = .ok token) :
    Token.LivesUntil s kind token ((now + s.ttl kind) % 0x10000000000000000) := by
  rw [token_issue] at h
  obtain ⟨c, hc, rfl⟩ := Token.sign_eq_ok_iff.mp h
  obtain ⟨rfl, hexpiry⟩ := Token.expiry_of_claims? hc
  rw [← hexpiry]
  exact Token.livesUntil_encode s c

theorem inCalendar_of_issue (h : (issue s r now user kind).token = .ok token) :
    Calendar.first ≤ now + s.ttl kind ∧ now + s.ttl kind ≤ Calendar.last := by
  rw [token_issue] at h
  obtain ⟨c, hc, -⟩ := Token.sign_eq_ok_iff.mp h
  obtain ⟨moment, hmoment, -⟩ := Option.map_eq_some_iff.mp hc
  obtain ⟨rfl, hfirst, hlast⟩ := Calendar.after?_eq_some_iff.mp hmoment
  exact ⟨hfirst, hlast⟩

/-- A life that leads out of the calendar is refused, and the refusal names the kind of token.
Any other token lives as long as is set if its end lies in 1970 or later, and then only: a
token whose end lies before 1970 lives until the moment 2⁶⁴ seconds later. -/
theorem livesUntil_iff (s : TokenSettings) (r : Readers) (now : Nat) (user : User)
    (kind : TokenKind) :
    (∀ f, (issue s r now user kind).token = .error f
        ↔ ¬(Calendar.first ≤ now + s.ttl kind ∧ now + s.ttl kind ≤ Calendar.last)
          ∧ f = .configuration (kind.word ++ " token ttl is out of range"))
      ∧ ∀ token, (issue s r now user kind).token = .ok token →
          (Token.LivesUntil s kind token (now + s.ttl kind) ↔ 0 ≤ now + s.ttl kind)
          ∧ (now + s.ttl kind < 0 →
              Token.LivesUntil s kind token (now + s.ttl kind + 0x10000000000000000)) := by
  constructor
  · intro f
    rw [token_issue]
    exact Token.sign_eq_error_iff
  · intro token h
    have hlives := livesUntil_of_issue h
    obtain ⟨hfirst, hlast⟩ := inCalendar_of_issue h
    -- No date is further from 1970 than a word is long, so there is at most one turn to undo.
    rw [Calendar.first] at hfirst
    rw [Calendar.last] at hlast
    refine ⟨⟨?_, ?_⟩, ?_⟩
    · intro hmeant
      have hsame := hlives.eq hmeant (by omega)
      omega
    · intro hnonneg
      rwa [Int.emod_eq_of_lt hnonneg (by omega)] at hlives
    · intro hneg
      rwa [← Int.add_emod_right, Int.emod_eq_of_lt (by omega) (by omega)] at hlives

/-- A token for five minutes, and one for longer than the calendar. -/
theorem livesUntil_iff_five_minutes :
    ∃ s token,
      (issue s Directory.empty.readers 1000 ⟨42, "ada", false⟩ .twoFactor).token = .ok token
        ∧ (∃ c, Token.verify s 1360 .twoFactor token = .ok c)
        ∧ (¬∃ c, Token.verify s 1361 .twoFactor token = .ok c)
        ∧ (issue (s.withTtl .twoFactor 60000000000000) Directory.empty.readers 1000
              ⟨42, "ada", false⟩ .twoFactor).token
            = .error (.configuration "TwoFactor token ttl is out of range") := by
  have httl : (TokenSettings.withSecret (.ofText "k")).ttl .twoFactor = 300 := rfl
  obtain ⟨token, htoken⟩ : ∃ token,
      (issue (.withSecret (.ofText "k")) Directory.empty.readers 1000 ⟨42, "ada", false⟩
        .twoFactor).token = .ok token := ⟨_, rfl⟩
  obtain ⟨-, hissued⟩ := livesUntil_iff (.withSecret (.ofText "k")) Directory.empty.readers 1000
    ⟨42, "ada", false⟩ .twoFactor
  have hlives := (hissued token htoken).1.mpr (by rw [httl]; decide)
  rw [httl] at hlives
  refine ⟨_, token, htoken, (hlives 1360).mpr (by decide), ?_, ?_⟩
  · intro h
    have hgood := (hlives 1361).mp h
    omega
  · refine ((livesUntil_iff _ _ _ _ _).1 _).mpr ⟨?_, rfl⟩
    rw [TokenSettings.ttl_withTtl, if_pos rfl]
    decide

/-- An access token that should have been over since 1897 is issued in 2023, is good at once,
and is still good in the year 3015. -/
theorem exists_issued_not_livesUntil :
    ∃ s token,
      (issue s Directory.empty.readers 1700000000 ⟨42, "ada", false⟩ .access).token = .ok token
        ∧ s.ttl .access = -4000000000
        ∧ ¬Token.LivesUntil s .access token (1700000000 + s.ttl .access)
        ∧ (∃ c, Token.verify s 1700000000 .access token = .ok c)
        ∧ ∃ c, Token.verify s 33000000000 .access token = .ok c := by
  obtain ⟨s, httl⟩ : ∃ s : TokenSettings, s.ttl .access = -4000000000 :=
    ⟨(TokenSettings.withSecret (.ofText "k")).withTtl .access (-4000000000), rfl⟩
  have hissued : ∃ token,
      (issue s Directory.empty.readers 1700000000 ⟨42, "ada", false⟩ .access).token
        = .ok token := by
    cases htoken : (issue s Directory.empty.readers 1700000000 ⟨42, "ada", false⟩ .access).token with
    | ok token => exact ⟨token, rfl⟩
    | error f =>
        rw [token_issue, Token.sign_eq_error_iff, httl] at htoken
        exact absurd (by decide) htoken.1
  obtain ⟨token, htoken⟩ := hissued
  have hlives := livesUntil_of_issue htoken
  rw [httl] at hlives
  refine ⟨s, token, htoken, httl, ?_, (hlives _).mpr (by decide), (hlives _).mpr (by decide)⟩
  intro hmeant
  rw [httl] at hmeant
  exact absurd (hlives.eq hmeant (by decide)) (by decide)

end Issuance

end TrackerGate
