import TrackerGate.Directory
import TrackerGate.Environment.Tokens
import TrackerGate.Proofs.Token.Written

/-!
# Tokens as they are issued

What was issued is what is verified. Settings that come from the environment have
positive lives only (`ttl_pos_of_ofEnvironment`), so the expiry of an issued token does not
wrap around its word, and the token that says these claims is read back to them until
its expiry and the minute after it. A token is never taken for one of another kind.
-/

namespace TrackerGate

/-! ## Lives from the environment -/

namespace TokenSettings

theorem ttl_withTtl (s : TokenSettings) (kind other : TokenKind) (seconds : Int) :
    (s.withTtl kind seconds).ttl other = if kind = other then seconds else s.ttl other := by
  cases kind <;> cases other <;> rfl

theorem pos_of_readTtl {kind : TokenKind} {text : String} {seconds : Int}
    (h : readTtl kind text = .ok seconds) : 0 < seconds := by
  unfold readTtl at h
  split at h
  · cases h
  · next n _ =>
      split at h
      · cases h
      · next hn =>
          split at h
          · cases h
            cases kind <;> simp only [ttlUnit] <;> omega
          · cases h

/-- Every life is positive. -/
def IsPositive (s : TokenSettings) : Prop := ∀ kind, 0 < s.ttl kind

theorem isPositive_withSecret (secret : Octets) : (withSecret secret).IsPositive := by
  intro kind
  cases kind <;> exact Int.pos_of_sign_eq_one rfl

theorem IsPositive.applyTtl {env : Environment} {s s' : TokenSettings} {kind : TokenKind}
    (hs : s.IsPositive) (h : applyTtl env s kind = .ok s') : s'.IsPositive := by
  unfold TokenSettings.applyTtl at h
  split at h
  · exact Except.ok.inj h ▸ hs
  · obtain ⟨seconds, hread, rfl⟩ := map_eq_ok_iff.mp h
    intro other
    rw [ttl_withTtl]
    split
    · exact pos_of_readTtl hread
    · exact hs other

theorem IsPositive.foldlM {env : Environment} {kinds : List TokenKind} {s s' : TokenSettings}
    (hs : s.IsPositive) (h : kinds.foldlM (TokenSettings.applyTtl env) s = .ok s') :
    s'.IsPositive := by
  induction kinds generalizing s with
  | nil => exact Except.ok.inj h ▸ hs
  | cons kind kinds ih =>
      rw [List.foldlM_cons] at h
      obtain ⟨s₁, hfirst, hrest⟩ := bind_eq_ok_iff.mp h
      exact ih (hs.applyTtl hfirst) hrest

theorem ttl_pos_of_ofEnvironment {env : Environment} {s : TokenSettings}
    (h : ofEnvironment env = .ok s) (kind : TokenKind) : 0 < s.ttl kind := by
  unfold ofEnvironment at h
  split at h
  · cases h
  · exact (isPositive_withSecret _).foldlM h kind

end TokenSettings

/-! ## Claims of an issued token -/

theorem toNat_uint64_ofInt {n : Int} (hnonneg : 0 ≤ n) (hlt : n < 0x10000000000000000) :
    ((UInt64.ofInt n).toNat : Int) = n := by
  simp only [UInt64.ofInt, UInt64.toNat_ofNat']
  omega

namespace Token

/-- What is issued says the claims that were put together for the user. -/
theorem sign_eq_ok_iff {s : TokenSettings} {now : Nat} {user : User} {kind : TokenKind}
    {permissions : Option PermissionSnapshot} {token : Token} :
    sign s now user kind permissions = .ok token
      ↔ ∃ c, claims? s now user kind permissions = some c ∧ encode s c = token := by
  unfold sign
  cases claims? s now user kind permissions <;> simp

/-- The claims of an issued token, with a life that is positive. -/
theorem claims?_spec {s : TokenSettings} {now : Nat} {user : User} {kind : TokenKind}
    {permissions : Option PermissionSnapshot} {c : Claims} (hpos : 0 < s.ttl kind)
    (h : claims? s now user kind permissions = some c) :
    c.kind = kind ∧ c.subject = user.id ∧ c.username = user.username
      ∧ c.isSuperuser = user.isSuperuser ∧ c.permissions = permissions
      ∧ c.issuedAt.toNat = now ∧ (c.expiry.toNat : Int) = now + s.ttl kind := by
  obtain ⟨moment, hmoment, rfl⟩ := Option.map_eq_some_iff.mp h
  obtain ⟨rfl, -, hlast⟩ := Calendar.after?_eq_some_iff.mp hmoment
  rw [Calendar.last] at hlast
  refine ⟨rfl, rfl, rfl, rfl, rfl, ?_, toNat_uint64_ofInt (by omega) (by omega)⟩
  rw [UInt64.toNat_ofNat']
  omega

/-- A token is taken for what it is until a minute after its expiry, and for nothing
else. -/
theorem verify_encode {s : TokenSettings} {clock : Nat} {c : Claims}
    (hclock : clock ≤ c.expiry.toNat + leeway) (expected : TokenKind) :
    verify s clock expected (encode s c)
      = if c.kind = expected then .ok c else .error (.unexpected expected c.kind) := by
  have hdecode : decode s clock (encode s c) = .ok c := by
    rw [decode_encode, isCurrent, if_pos (decide_eq_true hclock)]
  by_cases h : c.kind = expected <;>
    simp [verify, hdecode, demand, h, bind, Except.bind, pure, Except.pure]

end Token

namespace Issuance

theorem token_issue (s : TokenSettings) (r : Readers) (now : Nat) (user : User) (kind : TokenKind) :
    (issue s r now user kind).token
      = Token.sign s now user kind
          (if kind = .access then some (r.capture user).permissions else none) := by
  unfold issue
  split <;> rfl

/-- An issued token is verified to exactly the claims it was issued with: the user, the
moment of issue, the end of the life that is set for its kind and, in an access token
only, the snapshot that the readers gave then. Asked for as a token of another kind it
is refused, and the refusal names both kinds. -/
theorem verify_of_issue {env : Environment} {s : TokenSettings}
    (hs : TokenSettings.ofEnvironment env = .ok s) {r : Readers} {now : Nat} {user : User}
    {kind : TokenKind} {token : Token} (h : (issue s r now user kind).token = .ok token) :
    ∃ c : Claims,
      (c.kind = kind ∧ c.subject = user.id ∧ c.username = user.username
        ∧ c.isSuperuser = user.isSuperuser
        ∧ c.permissions = (if kind = .access then some (r.capture user).permissions else none)
        ∧ c.issuedAt.toNat = now ∧ (c.expiry.toNat : Int) = now + s.ttl kind)
      ∧ ∀ clock ≤ c.expiry.toNat + 60,
          Token.verify s clock kind token = .ok c
          ∧ ∀ other, other ≠ kind →
              (Token.verify s clock other token).mapError TokenFault.failure
                = .error (.token
                    ("expected " ++ other.word ++ " token, got " ++ kind.word)) := by
  rw [token_issue] at h
  obtain ⟨c, hc, rfl⟩ := Token.sign_eq_ok_iff.mp h
  have hspec := Token.claims?_spec (TokenSettings.ttl_pos_of_ofEnvironment hs kind) hc
  obtain rfl := hspec.1
  refine ⟨c, hspec, fun clock hclock => ⟨?_, fun other hother => ?_⟩⟩
  · rw [Token.verify_encode hclock, if_pos rfl]
  · rw [Token.verify_encode hclock, if_neg hother.symm]
    rfl

/-- An access token for five minutes, issued while nobody's teams can be read, in the last
second in which it is taken. -/
theorem verify_of_issue_in_last_second :
    ∃ s token c,
      TokenSettings.ofEnvironment
          ⟨[("JWT_SECRET", .ofText "k"), ("JWT_ACCESS_TTL_MINUTES", .ofText " 5 ")]⟩ = .ok s
      ∧ (issue s { Directory.empty with faults := [("user_teams", .database)] }.readers 1000
          ⟨42, "ada", false⟩ .access).token = .ok token
      ∧ c.subject = 42 ∧ c.expiry.toNat = 1300
      ∧ Token.verify s 1360 .access token = .ok c
      ∧ (Token.verify s 1360 .refresh token).mapError TokenFault.failure
          = .error (.token "expected Refresh token, got Access") := by
  have hs : TokenSettings.ofEnvironment
      ⟨[("JWT_SECRET", .ofText "k"), ("JWT_ACCESS_TTL_MINUTES", .ofText " 5 ")]⟩
        = .ok ((TokenSettings.withSecret (.ofText "k")).withTtl .access 300) := rfl
  have hissued : ∃ token,
      (issue ((TokenSettings.withSecret (.ofText "k")).withTtl .access 300)
        { Directory.empty with faults := [("user_teams", .database)] }.readers 1000
        ⟨42, "ada", false⟩ .access).token = .ok token := ⟨_, rfl⟩
  obtain ⟨token, htoken⟩ := hissued
  obtain ⟨c, ⟨-, hsubject, -, -, -, -, hexpiry⟩, hverify⟩ := verify_of_issue hs htoken
  rw [TokenSettings.ttl_withTtl, if_pos rfl] at hexpiry
  obtain ⟨haccess, hother⟩ := hverify 1360 (by omega)
  exact ⟨_, token, c, hs, htoken, hsubject, by omega, haccess, hother .refresh nofun⟩

end Issuance

end TrackerGate
