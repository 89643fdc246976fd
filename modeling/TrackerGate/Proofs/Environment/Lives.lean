import TrackerGate.Proofs.Text.Numeral
import TrackerGate.Proofs.Text.Trimmed
import TrackerGate.Proofs.Token.Lifetime

/-!
# Lives that the environment sets

What a variable may say about the life of a kind of tokens is put down without reference to
how it is read: a numeral with at most one sign (`Decimal.Spells`) between blanks, for a
number of units within three limits (`TokenSettings.Sets`). Whatever it says otherwise spoils
the settings in one of three ways, one for each limit (`TokenSettings.Spoils`). The settings
are read one variable after the other; an induction along the variables shows that each has
the last word on its own kind and none on another (`foldlM_applyTtl_eq_ok_iff`), and that
the first variable that spoils the settings is the one that is told
(`foldlM_applyTtl_eq_error_iff`).

The fourth limit is the calendar. A life that got past the first three is positive, so a
moment in the calendar is all that is needed for an expiry that is the sum as it stands.
-/

namespace TrackerGate

/-! ## One variable -/

open Text (Strips)

namespace TokenSettings

/-- `text` is a numeral between blanks that fits into 64 bits. -/
def Counts (text : String) (n : Int) : Prop :=
  ∃ core, Strips Text.isBlank text.toList core ∧ Decimal.Spells core n
    ∧ -(2 ^ 63) ≤ n ∧ n < 2 ^ 63

/-- `text` sets the life of tokens of a kind to so many seconds: it is a positive number of
units that can be counted in milliseconds within 64 bits. -/
def Sets (kind : TokenKind) (text : String) (seconds : Int) : Prop :=
  ∃ n, Counts text n ∧ 0 < n ∧ n * ttlUnit kind ≤ (2 ^ 63 - 1) / 1000
    ∧ seconds = n * ttlUnit kind

/-- What is wrong with a `text` that sets no life: no such numeral, a number that is not
positive, or too many units. -/
inductive Spoils (kind : TokenKind) (text : String) : SettingFault → Prop where
  | notInteger (h : ∀ n, ¬ Counts text n) : Spoils kind text (.notInteger (ttlName kind))
  | notPositive {n : Int} (h : Counts text n) (hn : n ≤ 0) :
      Spoils kind text (.notPositive (ttlName kind))
  | outOfRange {n : Int} (h : Counts text n) (hpos : 0 < n)
      (hlong : (2 ^ 63 - 1) / 1000 < n * ttlUnit kind) :
      Spoils kind text (.outOfRange (ttlName kind))

variable {kind : TokenKind} {text : String} {n seconds : Int} {fault : SettingFault}

theorem amount?_eq_some_iff : amount? text = some n ↔ Counts text n := by
  have hbounds : (-0x8000000000000000 ≤ n ∧ n < 0x8000000000000000)
      ↔ (-(2 ^ 63) ≤ n ∧ n < 2 ^ 63) := by norm_num
  simp only [amount?, Option.filter_eq_some_iff, decide_eq_true_eq, hbounds,
    Decimal.signed?_eq_some_iff]
  constructor
  · rintro ⟨hspells, hfits⟩
    exact ⟨_, Text.trimChars_eq_iff.mp rfl, hspells, hfits⟩
  · rintro ⟨core, hstrips, hspells, hfits⟩
    rw [Text.trimChars_eq_iff.mpr hstrips]
    exact ⟨hspells, hfits⟩

theorem Counts.unique {m : Int} (h : Counts text m) (h' : Counts text n) : m = n :=
  Option.some.inj ((amount?_eq_some_iff.mpr h).symm.trans (amount?_eq_some_iff.mpr h'))

theorem readTtl_of_counts (kind : TokenKind) (h : Counts text n) :
    readTtl kind text
      = if n ≤ 0 then .error (.notPositive (ttlName kind))
        else if n * ttlUnit kind ≤ (2 ^ 63 - 1) / 1000 then .ok (n * ttlUnit kind)
        else .error (.outOfRange (ttlName kind)) := by
  have hlongest : longestTtl = (2 ^ 63 - 1) / 1000 := rfl
  simp only [readTtl, amount?_eq_some_iff.mpr h, hlongest]

theorem readTtl_of_not_counts (kind : TokenKind) (h : ∀ n, ¬ Counts text n) :
    readTtl kind text = .error (.notInteger (ttlName kind)) := by
  have hnone : amount? text = none :=
    Option.eq_none_iff_forall_ne_some.mpr fun n hn => h n (amount?_eq_some_iff.mp hn)
  simp only [readTtl, hnone]

theorem readTtl_eq_ok_iff : readTtl kind text = .ok seconds ↔ Sets kind text seconds := by
  constructor
  · intro h
    by_cases hcounts : ∃ n, Counts text n
    · obtain ⟨n, hn⟩ := hcounts
      rw [readTtl_of_counts kind hn] at h
      split at h
      · cases h
      · next hpos =>
          split at h
          · next hshort => exact ⟨n, hn, by omega, hshort, (Except.ok.inj h).symm⟩
          · cases h
    · rw [readTtl_of_not_counts kind (not_exists.mp hcounts)] at h
      cases h
  · rintro ⟨n, hn, hpos, hshort, rfl⟩
    rw [readTtl_of_counts kind hn, if_neg (by omega), if_pos hshort]

theorem readTtl_eq_error_iff : readTtl kind text = .error fault ↔ Spoils kind text fault := by
  constructor
  · intro h
    by_cases hcounts : ∃ n, Counts text n
    · obtain ⟨n, hn⟩ := hcounts
      rw [readTtl_of_counts kind hn] at h
      split at h
      · next hnonpos => exact Except.error.inj h ▸ .notPositive hn hnonpos
      · next hpos =>
          split at h
          · cases h
          · next hlong => exact Except.error.inj h ▸ .outOfRange hn (by omega) (by omega)
    · rw [readTtl_of_not_counts kind (not_exists.mp hcounts)] at h
      exact Except.error.inj h ▸ .notInteger (not_exists.mp hcounts)
  · intro h
    cases h with
    | notInteger hcounts => exact readTtl_of_not_counts kind hcounts
    | notPositive hn hnonpos => rw [readTtl_of_counts kind hn, if_pos hnonpos]
    | outOfRange hn hpos hlong =>
        rw [readTtl_of_counts kind hn, if_neg (by omega), if_neg (by omega)]

/-- Whatever is wrong, the variable is named. -/
theorem Spoils.failure (h : Spoils kind text fault) :
    ∃ problem, fault.failure = .configuration (ttlName kind ++ problem) := by
  cases h <;> exact ⟨_, rfl⟩

/-! ## All variables -/

/-- What the environment makes of a life that is `default` otherwise. -/
inductive Provides (env : Environment) (kind : TokenKind) (default : Int) : Int → Prop where
  | unset (h : env.text? (ttlName kind) = none) : Provides env kind default default
  | set {text : String} {seconds : Int} (h : env.text? (ttlName kind) = some text)
      (hsets : Sets kind text seconds) : Provides env kind default seconds

/-- The environment sets the life of tokens of a kind to something that is no life. -/
def Offends (env : Environment) (kind : TokenKind) (fault : SettingFault) : Prop :=
  ∃ text, env.text? (ttlName kind) = some text ∧ Spoils kind text fault

variable {env : Environment} {s s' : TokenSettings} {kinds : List TokenKind}

theorem Provides.sets {default : Int} (h : Provides env kind default seconds)
    (htext : env.text? (ttlName kind) = some text) : Sets kind text seconds := by
  cases h with
  | unset hnone => cases hnone.symm.trans htext
  | set hsome hsets =>
      obtain rfl := Option.some.inj (hsome.symm.trans htext)
      exact hsets

theorem withTtl_self (s : TokenSettings) (kind : TokenKind) : s.withTtl kind (s.ttl kind) = s := by
  cases kind <;> rfl

theorem secret_withTtl (s : TokenSettings) (kind : TokenKind) (seconds : Int) :
    (s.withTtl kind seconds).secret = s.secret := by
  cases kind <;> rfl

/-- Settings are a secret and four lives. -/
theorem eq_of_ttl (hsecret : s'.secret = s.secret) (httl : ∀ kind, s'.ttl kind = s.ttl kind) :
    s' = s := by
  cases s
  cases s'
  obtain rfl := hsecret
  obtain rfl := httl .access
  obtain rfl := httl .refresh
  obtain rfl := httl .resetPassword
  obtain rfl := httl .twoFactor
  rfl

theorem applyTtl_eq_ok_iff :
    applyTtl env s kind = .ok s'
      ↔ ∃ seconds, Provides env kind (s.ttl kind) seconds ∧ s.withTtl kind seconds = s' := by
  unfold applyTtl
  cases htext : env.text? (ttlName kind) with
  | none =>
      constructor
      · intro h
        exact ⟨_, .unset htext, (withTtl_self s kind).trans (Except.ok.inj h)⟩
      · rintro ⟨_, hprovides, rfl⟩
        cases hprovides with
        | unset => rw [withTtl_self]
        | set h => cases htext.symm.trans h
  | some text =>
      simp only [map_eq_ok_iff, readTtl_eq_ok_iff]
      constructor
      · rintro ⟨seconds, hsets, rfl⟩
        exact ⟨seconds, .set htext hsets, rfl⟩
      · rintro ⟨seconds, hprovides, rfl⟩
        exact ⟨seconds, hprovides.sets htext, rfl⟩

theorem applyTtl_eq_error_iff : applyTtl env s kind = .error fault ↔ Offends env kind fault := by
  unfold applyTtl Offends
  cases env.text? (ttlName kind) with
  | none => simp
  | some text =>
      simp only [Option.some.injEq, exists_eq_left', ← readTtl_eq_error_iff]
      cases readTtl kind text <;> simp [Except.map]

/-- Each variable has the last word on its own kind, and none on another. -/
theorem foldlM_applyTtl_eq_ok_iff (hnodup : kinds.Nodup) :
    kinds.foldlM (applyTtl env) s = .ok s'
      ↔ s'.secret = s.secret ∧ (∀ kind ∈ kinds, Provides env kind (s.ttl kind) (s'.ttl kind))
        ∧ ∀ kind ∉ kinds, s'.ttl kind = s.ttl kind := by
  induction kinds generalizing s with
  | nil =>
      constructor
      · intro h
        obtain rfl := Except.ok.inj h
        exact ⟨rfl, nofun, fun _ _ => rfl⟩
      · rintro ⟨hsecret, -, httl⟩
        rw [eq_of_ttl hsecret fun kind => httl kind List.not_mem_nil]
        rfl
  | cons kind kinds ih =>
      obtain ⟨hfresh, hnodup⟩ := List.nodup_cons.mp hnodup
      -- The other variables are not about this kind, and this one is not about theirs.
      have hother {seconds : Int} {other : TokenKind} (h : other ≠ kind) :
          (s.withTtl kind seconds).ttl other = s.ttl other := by
        rw [ttl_withTtl, if_neg h.symm]
      have hown {seconds : Int} : (s.withTtl kind seconds).ttl kind = seconds := by
        rw [ttl_withTtl, if_pos rfl]
      have hne {other : TokenKind} (h : other ∈ kinds) : other ≠ kind := by
        rintro rfl
        exact hfresh h
      rw [List.foldlM_cons, bind_eq_ok_iff]
      constructor
      · rintro ⟨_, hfirst, hrest⟩
        obtain ⟨seconds, hprovides, rfl⟩ := applyTtl_eq_ok_iff.mp hfirst
        obtain ⟨hsecret, hlives, hrest⟩ := (ih hnodup).mp hrest
        refine ⟨hsecret.trans (secret_withTtl s kind seconds), fun other hmem => ?_,
          fun other hnot => ?_⟩
        · rcases List.mem_cons.mp hmem with rfl | hmem
          · rw [hrest other hfresh, hown]
            exact hprovides
          · rw [← hother (hne hmem)]
            exact hlives other hmem
        · rw [List.mem_cons, not_or] at hnot
          rw [hrest other hnot.2, hother hnot.1]
      · rintro ⟨hsecret, hlives, hrest⟩
        refine ⟨_, applyTtl_eq_ok_iff.mpr ⟨_, hlives kind List.mem_cons_self, rfl⟩, ?_⟩
        refine (ih hnodup).mpr ⟨hsecret.trans (secret_withTtl s kind _).symm,
          fun other hmem => ?_, fun other hnot => ?_⟩
        · rw [hother (hne hmem)]
          exact hlives other (List.mem_cons_of_mem kind hmem)
        · by_cases hsame : other = kind
          · rw [hsame, hown]
          · rw [hother hsame]
            exact hrest other (by simp [hsame, hnot])

/-- The first variable that offends is told, with its fault. -/
theorem foldlM_applyTtl_eq_error_iff :
    kinds.foldlM (applyTtl env) s = .error fault
      ↔ ∃ before kind after, kinds = before ++ kind :: after
          ∧ (∀ earlier ∈ before, ∀ fault', ¬ Offends env earlier fault')
          ∧ Offends env kind fault := by
  induction kinds generalizing s with
  | nil => simp [pure, Except.pure]
  | cons kind kinds ih =>
      rw [List.foldlM_cons]
      cases hfirst : applyTtl env s kind with
      | error first =>
          have hoffends := applyTtl_eq_error_iff.mp hfirst
          constructor
          · intro h
            obtain rfl := Except.error.inj h
            exact ⟨[], kind, kinds, rfl, nofun, hoffends⟩
          · rintro ⟨before, other, after, hsplit, hearlier, hother⟩
            cases before with
            | nil =>
                obtain ⟨rfl, rfl⟩ := List.cons.inj hsplit
                rw [← applyTtl_eq_error_iff (s := s), hfirst] at hother
                exact congrArg _ (Except.error.inj hother)
            | cons earlier before =>
                obtain ⟨rfl, -⟩ := List.cons.inj hsplit
                exact absurd hoffends (hearlier kind List.mem_cons_self first)
      | ok next =>
          have hgood (fault' : SettingFault) : ¬ Offends env kind fault' := by
            intro hoffends
            rw [← applyTtl_eq_error_iff (s := s), hfirst] at hoffends
            cases hoffends
          refine ih.trans ⟨?_, ?_⟩
          · rintro ⟨before, other, after, rfl, hearlier, hother⟩
            refine ⟨kind :: before, other, after, rfl, ?_, hother⟩
            exact List.forall_mem_cons.mpr ⟨hgood, hearlier⟩
          · rintro ⟨before, other, after, hsplit, hearlier, hother⟩
            cases before with
            | nil =>
                obtain ⟨rfl, -⟩ := List.cons.inj hsplit
                exact absurd hother (hgood fault)
            | cons earlier before =>
                obtain ⟨-, rfl⟩ := List.cons.inj hsplit
                exact ⟨before, other, after, rfl, (List.forall_mem_cons.mp hearlier).2, hother⟩

/-! ## Settings -/

theorem not_offends_of_sets (hsets : ∀ text, env.text? (ttlName kind) = some text →
    ∃ seconds, Sets kind text seconds) : ¬ Offends env kind fault := by
  rintro ⟨text, htext, hspoils⟩
  obtain ⟨seconds, hseconds⟩ := hsets text htext
  rw [← readTtl_eq_ok_iff, readTtl_eq_error_iff.mpr hspoils] at hseconds
  cases hseconds

theorem ofEnvironment_eq_ok_iff :
    ofEnvironment env = .ok s
      ↔ ∃ secret, env.text? secretName = some secret ∧ s.secret = .ofText secret
          ∧ ∀ kind, Provides env kind ((withSecret s.secret).ttl kind) (s.ttl kind) := by
  unfold ofEnvironment
  cases env.text? secretName with
  | none => simp
  | some secret =>
      have hnodup : TokenKind.all.Nodup := by decide
      simp only [Option.some.injEq, exists_eq_left', foldlM_applyTtl_eq_ok_iff hnodup]
      constructor
      · rintro ⟨hsecret, hlives, -⟩
        exact ⟨hsecret, fun kind => hsecret ▸ hlives kind kind.mem_all⟩
      · rintro ⟨hsecret, hlives⟩
        exact ⟨hsecret, fun kind _ => hsecret ▸ hlives kind, fun kind h => absurd kind.mem_all h⟩

theorem ofEnvironment_eq_error_iff :
    ofEnvironment env = .error fault
      ↔ (env.text? secretName = none ∧ fault = .notSet secretName)
        ∨ (∃ secret, env.text? secretName = some secret)
          ∧ ∃ before kind after, TokenKind.all = before ++ kind :: after
            ∧ (∀ earlier ∈ before, ∀ fault', ¬ Offends env earlier fault')
            ∧ Offends env kind fault := by
  unfold ofEnvironment
  cases env.text? secretName with
  | none => simp [eq_comm]
  | some secret =>
      simp only [foldlM_applyTtl_eq_error_iff, reduceCtorEq, false_and, Option.some.injEq,
        exists_eq', true_and, false_or]

/-- How settings come of an environment, and what can be signed with them. -/
structure ReadsExactly (env : Environment) : Prop where
  /-- Settings come of it if the secret is set to a text and no life is set to anything but a
  life. -/
  succeeds : (∃ s, ofEnvironment env = .ok s)
    ↔ (∃ secret, env.text? secretName = some secret)
      ∧ ∀ kind text, env.text? (ttlName kind) = some text → ∃ seconds, Sets kind text seconds
  /-- The settings have the lives that are set and the usual ones where none are. -/
  exact : ∀ s, ofEnvironment env = .ok s
    ↔ ∃ secret, env.text? secretName = some secret ∧ s.secret = .ofText secret
      ∧ ∀ kind, Provides env kind ((withSecret s.secret).ttl kind) (s.ttl kind)
  /-- Otherwise the fault is that of the secret or else of the first life that is no good. -/
  refused : ∀ fault, ofEnvironment env = .error fault
    ↔ (env.text? secretName = none ∧ fault = .notSet secretName)
      ∨ (∃ secret, env.text? secretName = some secret)
        ∧ ∃ before kind after, TokenKind.all = before ++ kind :: after
          ∧ (∀ earlier ∈ before, ∀ fault', ¬ Offends env earlier fault')
          ∧ Offends env kind fault
  /-- The fault of a life names its variable. -/
  named : ∀ kind fault, Offends env kind fault →
    ∃ problem, fault.failure = .configuration (ttlName kind ++ problem)
  /-- Signing fails if the expiry lies beyond the calendar, and then only. What is signed
  expires as many seconds after its issue as the life has, as natural numbers. -/
  signs : ∀ s, ofEnvironment env = .ok s → ∀ now user kind permissions,
    (∀ f, Token.sign s now user kind permissions = .error f
        ↔ Calendar.last < now + s.ttl kind
          ∧ f = .configuration (kind.word ++ " token ttl is out of range"))
      ∧ ∀ token, Token.sign s now user kind permissions = .ok token →
          ∃ c, token = Token.encode s c ∧ 0 < s.ttl kind ∧ c.issuedAt.toNat = now
            ∧ c.expiry.toNat = c.issuedAt.toNat + (s.ttl kind).toNat

/-- Every environment is read in this way. -/
theorem readsExactly (env : Environment) : ReadsExactly env where
  succeeds := by
    constructor
    · rintro ⟨s, hs⟩
      obtain ⟨secret, hsecret, -, hlives⟩ := ofEnvironment_eq_ok_iff.mp hs
      exact ⟨⟨secret, hsecret⟩, fun kind text htext => ⟨_, (hlives kind).sets htext⟩⟩
    · rintro ⟨⟨secret, hsecret⟩, hsets⟩
      cases hread : ofEnvironment env with
      | ok s => exact ⟨s, rfl⟩
      | error fault =>
          rcases ofEnvironment_eq_error_iff.mp hread with ⟨hnone, -⟩ |
            ⟨-, before, kind, after, -, -, hoffends⟩
          · cases hnone.symm.trans hsecret
          · exact absurd hoffends (not_offends_of_sets (hsets kind))
  exact _ := ofEnvironment_eq_ok_iff
  refused _ := ofEnvironment_eq_error_iff
  named _ _ := fun ⟨_, _, hspoils⟩ => hspoils.failure
  signs s hs now user kind permissions := by
    have hpos := ttl_pos_of_ofEnvironment hs kind
    constructor
    · intro f
      rw [Token.sign_eq_error_iff, Calendar.first]
      refine and_congr_left fun _ => ?_
      omega
    · intro token htoken
      obtain ⟨c, hc, rfl⟩ := Token.sign_eq_ok_iff.mp htoken
      obtain ⟨-, -, -, -, -, hissued, hexpiry⟩ := Token.claims?_spec hpos hc
      exact ⟨c, rfl, hpos, hissued, by omega⟩

/-- Of two lives that are no good the first that is read is told. -/
example : ofEnvironment ⟨[("JWT_RESET_TTL_MINUTES", .ofText "0"), ("JWT_SECRET", .ofText "k"),
    ("JWT_REFRESH_TTL_HOURS", .ofText "soon")]⟩ = .error (.notInteger "JWT_REFRESH_TTL_HOURS") :=
  rfl

/-- Refresh tokens that live for two days, and access tokens that live as long as usual. -/
theorem readsExactly_two_days :
    ∃ s, ofEnvironment ⟨[("JWT_SECRET", .ofText "k"), ("JWT_REFRESH_TTL_HOURS", .ofText " +48 ")]⟩
          = .ok s
      ∧ s.ttl .refresh = 172800 ∧ s.ttl .access = 900
      ∧ ∃ c, Token.sign s 1000 ⟨42, "ada", false⟩ .refresh none = .ok (Token.encode s c)
          ∧ c.expiry.toNat = 173800 := by
  have hs : ofEnvironment
      ⟨[("JWT_SECRET", .ofText "k"), ("JWT_REFRESH_TTL_HOURS", .ofText " +48 ")]⟩
        = .ok ((withSecret (.ofText "k")).withTtl .refresh 172800) := rfl
  obtain ⟨hfails, hsigned⟩ := (readsExactly _).signs _ hs 1000 ⟨42, "ada", false⟩ .refresh none
  refine ⟨_, hs, rfl, rfl, ?_⟩
  cases hsign : Token.sign ((withSecret (.ofText "k")).withTtl .refresh 172800) 1000
      ⟨42, "ada", false⟩ .refresh none with
  | error f => exact absurd ((hfails f).mp hsign).1 (by decide)
  | ok token =>
      obtain ⟨c, rfl, -, hissued, hexpiry⟩ := hsigned token hsign
      exact ⟨c, rfl, by rw [hexpiry, hissued]; rfl⟩

end TokenSettings

end TrackerGate
