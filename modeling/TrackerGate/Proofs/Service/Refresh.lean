import Mathlib.Logic.Relation
import TrackerGate.Proofs.Service.Subject
import TrackerGate.Proofs.Service.Written
import TrackerGate.Proofs.Token.Shown

/-!
# The exchange of refresh tokens

Somebody who has a refresh token asks for a new pair of tokens. `refresh_spec` says what they
are answered: they get a pair exactly if the token is good and its user is still there, and
the pair is issued to this user as the database has them now, whatever the token says about
them and whoever the request says it comes from.

No guard has anything to look at on the way to the route (`exists_run_eq_ok`), so the answer
is that of the exchange itself, and this is taken apart once: a pair that is handed out was
issued to the subject of the token that was handed in (`exists_of_hands`). That is also the
one step of which chains of exchanges are made. However long they are, and whatever happens to
the database in between, they stay with the subject they began with (`isFor_of_exchanges`).
-/

namespace TrackerGate

/-! ## Responses -/

namespace Response

/-- The response hands out a pair of tokens. -/
def Hands (r : Response) (access refresh : String) : Prop :=
  r.status = 200
    ∧ r.body
      = (Json.record [("access_token", .ofText access), ("refresh_token", .ofText refresh)]).print

/-- The response is the failure, whatever its headers. -/
def Fails (r : Response) (f : Failure) : Prop := r.status = f.status ∧ r.body = f.toJson.print

/-- A pair is handed out as what it is. -/
theorem Hands.unique {r : Response} {access access' refresh refresh' : String}
    (h : r.Hands access refresh) (h' : r.Hands access' refresh') :
    access = access' ∧ refresh = refresh' := by
  have hcanonical (access refresh : String) : Json.Canonical
      (.record [("access_token", .ofText access), ("refresh_token", .ofText refresh)]) := by
    refine Json.canonical_record ?_
    intro member hmember
    simp only [List.mem_cons, List.not_mem_nil, or_false] at hmember
    rcases hmember with rfl | rfl <;> exact Json.canonical_ofText _
  have hprinted := congrArg Json.parse? (h.2.symm.trans h'.2)
  rw [Json.parse?_print (hcanonical _ _), Json.parse?_print (hcanonical _ _)] at hprinted
  simp only [Json.record, List.map_cons, List.map_nil, Option.some.injEq, Json.obj.injEq,
    List.cons.injEq, Prod.mk.injEq, true_and, and_true] at hprinted
  have htext {a a' : String} (h : Json.ofText a = Json.ofText a') : a = a' := by
    have hread := congrArg Json.text? h
    rw [Json.text?_ofText, Json.text?_ofText] at hread
    exact Option.some.inj hread
  exact ⟨htext hprinted.1, htext hprinted.2⟩

theorem fails_ofFailure (f : Failure) : (Response.ofFailure f).Fails f := ⟨rfl, rfl⟩

end Response

namespace Service

variable {s : Service} {token : Token} {request : Request}

/-! ## Exchanges -/

theorem refresher_eq_ok_iff {user : User} :
    s.refresher token = .ok user
      ↔ ∃ c, Token.verify s.gate.settings s.gate.now .refresh token = .ok c
          ∧ s.gate.readers.user c.subject = .ok user := by
  unfold refresher
  cases Token.verify s.gate.settings s.gate.now .refresh token with
  | error fault => simp
  | ok c =>
      cases huser : s.gate.readers.user c.subject with
      | error f => simp [huser]
      | ok u => simp [huser]

/-- A pair is issued if both dates exist; what it says is put together for the user. -/
theorem newPair_eq_ok_iff {user : User} {pair : Token × Token} :
    (s.newPair user).1 = .ok pair
      ↔ ∃ a r, Token.claims? s.gate.settings s.gate.now user .access
            (some (s.gate.readers.capture user).permissions) = some a
          ∧ Token.claims? s.gate.settings s.gate.now user .refresh none = some r
          ∧ (Token.encode s.gate.settings a, Token.encode s.gate.settings r) = pair := by
  have hpair := newPair_onClock s s.gate.now user
  have hsame : s.onClock s.gate.now = s := rfl
  rw [hsame] at hpair
  rw [hpair]
  unfold Token.sign
  cases haccess : Token.claims? s.gate.settings s.gate.now user .access
      (some (s.gate.readers.capture user).permissions) with
  | none => simp
  | some a =>
      cases hrefresh : Token.claims? s.gate.settings s.gate.now user .refresh none with
      | none => simp
      | some r => simp

theorem response_refresh_of_error {f : Failure} (h : s.refresher token = .error f) :
    (s.refresh token).response = .ofFailure f := by
  rw [refresh, h]

theorem response_refresh_of_ok {user : User} (h : s.refresher token = .ok user) :
    (s.refresh token).response = respond ((s.newPair user).1.map pairJson) := by
  rw [refresh, h]

/-- A pair that is handed out was issued to the subject of the refresh token. -/
theorem exists_of_hands {access refresh : String}
    (h : (s.refresh token).response.Hands access refresh) :
    ∃ c user a r, Token.verify s.gate.settings s.gate.now .refresh token = .ok c
      ∧ s.gate.readers.user c.subject = .ok user
      ∧ Token.claims? s.gate.settings s.gate.now user .access
          (some (s.gate.readers.capture user).permissions) = some a
      ∧ Token.claims? s.gate.settings s.gate.now user .refresh none = some r
      ∧ access = Octets.shown (Token.encode s.gate.settings a)
      ∧ refresh = Octets.shown (Token.encode s.gate.settings r) := by
  have hfailed (f : Failure) : ¬ (Response.ofFailure f).Hands access refresh := by
    rintro ⟨hstatus, -⟩
    cases f <;> cases hstatus
  cases hrefresher : s.refresher token with
  | error f =>
      rw [response_refresh_of_error hrefresher] at h
      exact absurd h (hfailed f)
  | ok user =>
      rw [response_refresh_of_ok hrefresher] at h
      cases hpair : (s.newPair user).1 with
      | error f =>
          rw [hpair] at h
          exact absurd h (hfailed f)
      | ok pair =>
          rw [hpair] at h
          obtain ⟨c, hverify, huser⟩ := refresher_eq_ok_iff.mp hrefresher
          obtain ⟨a, r, ha, hr, rfl⟩ := newPair_eq_ok_iff.mp hpair
          obtain ⟨haccess, hrefresh⟩ := h.unique ⟨rfl, rfl⟩
          exact ⟨c, user, a, r, hverify, huser, ha, hr, haccess, hrefresh⟩

/-! ## The route -/

/-- There is nothing on the way to the route that a guard would look at. -/
theorem exists_run_eq_ok (g : Gate) (hmethod : request.method = .post)
    (hpath : request.path = Route.refresh.path) : ∃ ctx, (g.run request).result = .ok ctx := by
  refine ⟨_, Gate.result_run_eq_ok_iff.mpr ⟨?_, rfl⟩⟩
  intro guard
  rw [hmethod, hpath]
  cases guard with
  | projectAccess | projectManagement | issueAccess | issueManagement => exact ⟨.bypass, rfl, nofun⟩

/-- Whoever asks, the answer is that of the exchange. -/
theorem response_answer_refresh (hmethod : request.method = .post)
    (hpath : request.path = Route.refresh.path) :
    (s.answer request).response = crossOrigin (s.refreshRequest request).response.withLength := by
  obtain ⟨ctx, hrun⟩ := exists_run_eq_ok s.gate hmethod hpath
  have hoptions : request.method ≠ .options := by
    rw [hmethod]
    decide
  have hroute : Route.ofPath? request.path = some .refresh := by
    rw [hpath]
    rfl
  have hadmits : Route.admits .refresh request.method = true := by
    rw [hmethod]
    rfl
  have hhead : request.method ≠ .head := by
    rw [hmethod]
    decide
  rw [response_of_run_ok hoptions hrun, handle, hroute]
  simp only [hadmits, if_true, routeAnswer, sent, if_neg hhead]

theorem hands_answer_iff (hmethod : request.method = .post)
    (hpath : request.path = Route.refresh.path) {t : String}
    (hbody : RefreshBody.ofRequest request = .ok t) {access refresh : String} :
    (s.answer request).response.Hands access refresh
      ↔ (s.refresh (.ofText t)).response.Hands access refresh := by
  rw [response_answer_refresh hmethod hpath, refreshRequest, hbody]
  rfl

/-- A body that is too long is not read. -/
theorem status_answer_of_longest_lt (hmethod : request.method = .post)
    (hpath : request.path = Route.refresh.path)
    (hjson : RefreshBody.isJson request.headers = true)
    (hlength : RefreshBody.longest < request.body.length) :
    (s.answer request).response.status = 413 := by
  rw [response_answer_refresh hmethod hpath, refreshRequest,
    RefreshBody.ofRequest_of_longest_lt hjson hlength]
  rfl

/-! ## Chains of tokens -/

/-- The database, and the tokens that somebody has. -/
structure Holding where
  db : Database
  tokens : List String

/-- The database becomes another, or a token that is held is exchanged, at whatever time and
with whatever else in the request. -/
inductive Exchanges (settings : TokenSettings) : Holding → Holding → Prop where
  | change (h : Holding) (db : Database) : Exchanges settings h { h with db }
  | refresh {h : Holding} {s : Service} {now : Nat} {request : Request} {t access refresh : String}
      (hgate : s.gate = h.db.gate settings now) (hmethod : request.method = .post)
      (hpath : request.path = Route.refresh.path)
      (hbody : RefreshBody.ofRequest request = .ok t) (hheld : t ∈ h.tokens)
      (hhands : (s.answer request).response.Hands access refresh) :
      Exchanges settings h { h with tokens := access :: refresh :: h.tokens }

/-- One step keeps all tokens with one subject. -/
theorem Exchanges.isFor {settings : TokenSettings} {subject : UserId} {h h' : Holding}
    (hstep : Exchanges settings h h') (hfor : ∀ t ∈ h.tokens, Token.IsFor settings subject t) :
    ∀ t ∈ h'.tokens, Token.IsFor settings subject t := by
  cases hstep with
  | change db => exact hfor
  | @refresh s now request t access refresh hgate hmethod hpath hbody hheld hhands =>
      rw [hands_answer_iff hmethod hpath hbody] at hhands
      obtain ⟨c, user, a, r, hverify, huser, ha, hr, rfl, rfl⟩ := exists_of_hands hhands
      rw [hgate] at hverify huser ha hr
      have hsubject : user.id = subject := by
        rw [Database.id_of_readers_user huser]
        exact hfor t hheld now .refresh c hverify
      intro t' ht'
      rcases List.mem_cons.mp ht' with rfl | ht'
      · rw [hgate, ← hsubject]
        exact Token.isFor_of_claims? ha
      · rcases List.mem_cons.mp ht' with rfl | hold
        · rw [hgate, ← hsubject]
          exact Token.isFor_of_claims? hr
        · exact hfor t' hold

/-- By induction over the steps, so do any number of them. -/
theorem isFor_of_exchanges {settings : TokenSettings} {subject : UserId} {h h' : Holding}
    (hrun : Relation.ReflTransGen (Exchanges settings) h h')
    (hfor : ∀ t ∈ h.tokens, Token.IsFor settings subject t) :
    ∀ t ∈ h'.tokens, Token.IsFor settings subject t := by
  induction hrun with
  | refl => exact hfor
  | tail _ hstep ih => exact hstep.isFor ih

/-! ## The exchange in front of a sound database -/

/-- What is answered to a request for new tokens with the refresh token `t`. -/
structure Refreshes (response : Response) (db : Database) (settings : TokenSettings) (now : Nat)
    (t : String) : Prop where
  status_iff : response.status = 200
    ↔ ∃ c, Token.verify settings now .refresh (.ofText t) = .ok c
        ∧ ∃ u ∈ db.rows.users, u.id = c.subject
  /-- Both tokens are issued to the subject of `t`, as the database has that user now. -/
  issued : ∀ c, Token.verify settings now .refresh (.ofText t) = .ok c →
    ∀ u ∈ db.rows.users, u.id = c.subject →
      ∃ access refresh a r, response.Hands access refresh
        ∧ Token.IsIssued settings now u .access (some (db.readers.capture u).permissions) access a
        ∧ Token.IsIssued settings now u .refresh none refresh r
        ∧ a.subject = c.subject ∧ r.subject = c.subject
  refused : ∀ fault, Token.verify settings now .refresh (.ofText t) = .error fault →
    response.status = 401 ∧ response.Fails (.token fault.detail)
  /-- A good token of another kind is no refresh token. -/
  other : ∀ kind c, kind ≠ .refresh → Token.verify settings now kind (.ofText t) = .ok c →
    response.status = 401
      ∧ response.Fails (.token ("expected Refresh token, got " ++ kind.word))
  missing : ∀ c, Token.verify settings now .refresh (.ofText t) = .ok c →
    (∀ u ∈ db.rows.users, u.id ≠ c.subject) →
      response.status = 401 ∧ response.Fails (.unauthorized "user no longer exists")

section

variable {db : Database} {settings : TokenSettings} {now : Nat}

theorem refresher_of_fault (hgate : s.gate = db.gate settings now) {fault : TokenFault}
    (h : Token.verify settings now .refresh token = .error fault) :
    s.refresher token = .error (.token fault.detail) := by
  rw [refresher, hgate]
  simp only [Database.gate, h]
  rfl

theorem refresher_of_user (hdb : db.Sound) (hgate : s.gate = db.gate settings now) {c : Claims}
    (h : Token.verify settings now .refresh token = .ok c) {u : User} (hu : u ∈ db.rows.users)
    (hid : u.id = c.subject) : s.refresher token = .ok u := by
  refine refresher_eq_ok_iff.mpr ⟨c, ?_, ?_⟩
  · rw [hgate]
    exact h
  · rw [hgate]
    show db.readers.user c.subject = .ok u
    rw [hdb.readers_eq, Rows.readers, Readers.found_eq_ok_iff,
      find?_key_eq_some_iff hdb.valid.users_unique]
    exact ⟨hu, hid⟩

theorem refresher_of_missing (hdb : db.Sound) (hgate : s.gate = db.gate settings now) {c : Claims}
    (h : Token.verify settings now .refresh token = .ok c)
    (hmissing : ∀ u ∈ db.rows.users, u.id ≠ c.subject) :
    s.refresher token = .error (.unauthorized "user no longer exists") := by
  have hnone : db.rows.users.find? (·.id == c.subject) = none :=
    List.find?_eq_none.mpr fun u hu => by simpa using hmissing u hu
  have huser : db.readers.user c.subject = .error (.missing "user") := by
    rw [hdb.readers_eq]
    exact congrArg (Readers.found "user") hnone
  rw [refresher, hgate]
  simp only [Database.gate, h, huser]
  rfl

/-- The pair that the user of a good refresh token is handed. -/
theorem exists_hands (hgate : s.gate = db.gate settings now) {u : User}
    (haccess : (Calendar.after? now (settings.ttl .access)).isSome = true)
    (hrefresh : (Calendar.after? now (settings.ttl .refresh)).isSome = true)
    (hrefresher : s.refresher token = .ok u) :
    ∃ access refresh a r, (s.refresh token).response.Hands access refresh
      ∧ Token.IsIssued settings now u .access (some (db.readers.capture u).permissions) access a
      ∧ Token.IsIssued settings now u .refresh none refresh r := by
  have hclaims {kind : TokenKind} (permissions : Option PermissionSnapshot)
      (hdate : (Calendar.after? now (settings.ttl kind)).isSome = true) :
      ∃ c, Token.claims? settings now u kind permissions = some c := by
    obtain ⟨moment, hmoment⟩ := Option.isSome_iff_exists.mp hdate
    exact ⟨_, by rw [Token.claims?, hmoment]; rfl⟩
  obtain ⟨a, ha⟩ := hclaims (some (db.readers.capture u).permissions) haccess
  obtain ⟨r, hr⟩ := hclaims none hrefresh
  have hpair : (s.newPair u).1 = .ok (Token.encode settings a, Token.encode settings r) := by
    refine newPair_eq_ok_iff.mpr ⟨a, r, ?_, ?_, ?_⟩
    all_goals rw [hgate]
    · exact ha
    · exact hr
    · rfl
  refine ⟨_, _, a, r, ?_, Token.isIssued_of_claims? ha, Token.isIssued_of_claims? hr⟩
  rw [response_refresh_of_ok hrefresher, hpair]
  exact ⟨rfl, rfl⟩

theorem refreshes (hdb : db.Sound) (hgate : s.gate = db.gate settings now)
    (haccess : (Calendar.after? now (settings.ttl .access)).isSome = true)
    (hrefresh : (Calendar.after? now (settings.ttl .refresh)).isSome = true) (t : String) :
    Refreshes (s.refresh (.ofText t)).response db settings now t := by
  have hrefused (fault : TokenFault)
      (h : Token.verify settings now .refresh (.ofText t) = .error fault) :
      (s.refresh (.ofText t)).response = .ofFailure (.token fault.detail) :=
    response_refresh_of_error (refresher_of_fault hgate h)
  have hmissing (c : Claims) (h : Token.verify settings now .refresh (.ofText t) = .ok c)
      (hgone : ∀ u ∈ db.rows.users, u.id ≠ c.subject) :
      (s.refresh (.ofText t)).response = .ofFailure (.unauthorized "user no longer exists") :=
    response_refresh_of_error (refresher_of_missing hdb hgate h hgone)
  have hissued (c : Claims) (h : Token.verify settings now .refresh (.ofText t) = .ok c) (u : User)
      (hu : u ∈ db.rows.users) (hid : u.id = c.subject) :=
    exists_hands hgate haccess hrefresh (refresher_of_user hdb hgate h hu hid)
  refine ⟨⟨?_, ?_⟩, ?_, ?_, ?_, ?_⟩
  · intro hstatus
    cases hverify : Token.verify settings now .refresh (.ofText t) with
    | error fault =>
        rw [hrefused fault hverify] at hstatus
        cases hstatus
    | ok c =>
        refine ⟨c, rfl, ?_⟩
        by_contra hnobody
        have hgone : ∀ u ∈ db.rows.users, u.id ≠ c.subject := by
          intro u hu hid
          exact hnobody ⟨u, hu, hid⟩
        rw [hmissing c hverify hgone] at hstatus
        cases hstatus
  · rintro ⟨c, hverify, u, hu, hid⟩
    obtain ⟨_, _, _, _, hhands, -, -⟩ := hissued c hverify u hu hid
    exact hhands.1
  · intro c hverify u hu hid
    obtain ⟨access, refresh, a, r, hhands, ha, hr⟩ := hissued c hverify u hu hid
    exact ⟨access, refresh, a, r, hhands, ha, hr, ha.subject.trans hid, hr.subject.trans hid⟩
  · intro fault hverify
    rw [hrefused fault hverify]
    exact ⟨rfl, Response.fails_ofFailure _⟩
  · intro kind c hkind hverify
    rw [hrefused _ (Token.verify_of_other hverify hkind.symm)]
    exact ⟨rfl, Response.fails_ofFailure _⟩
  · intro c hverify hgone
    rw [hmissing c hverify hgone]
    exact ⟨rfl, Response.fails_ofFailure _⟩

/-- A request for new tokens, whoever it says it comes from. If its body is not too long it is
answered as its refresh token deserves; if it is, it is not read. And whatever becomes of the
database, no exchange of `t`, nor of what was handed out for it, ever leads to a token of
somebody else. -/
theorem refresh_spec (hdb : db.Sound) (hgate : s.gate = db.gate settings now)
    (haccess : (Calendar.after? now (settings.ttl .access)).isSome = true)
    (hrefresh : (Calendar.after? now (settings.ttl .refresh)).isSome = true)
    (hmethod : request.method = .post) (hpath : request.path = Route.refresh.path)
    (hjson : RefreshBody.isJson request.headers = true) {t : String}
    (hbody : RefreshBody.parse request.body = .ok t) :
    RefreshBody.parse (RefreshBody.written t) = .ok t
      ∧ (request.body.length ≤ RefreshBody.longest →
          Refreshes (s.answer request).response db settings now t)
      ∧ (RefreshBody.longest < request.body.length → (s.answer request).response.status = 413)
      ∧ ∀ clock kind c, Token.verify settings clock kind (.ofText t) = .ok c →
          ∀ h, Relation.ReflTransGen (Exchanges settings) ⟨db, [t]⟩ h →
            ∀ t' ∈ h.tokens, Token.IsFor settings c.subject t' := by
  refine ⟨RefreshBody.parse_written t, ?_, ?_, ?_⟩
  · intro hlength
    have hread := RefreshBody.ofRequest_of_parse hjson hbody hlength
    rw [response_answer_refresh hmethod hpath, refreshRequest, hread]
    -- Neither the length nor the word to other sites is in the status or the body.
    have h := refreshes hdb hgate haccess hrefresh t
    exact ⟨h.status_iff, h.issued, h.refused, h.other, h.missing⟩
  · intro hlength
    exact status_answer_of_longest_lt hmethod hpath hjson hlength
  · intro clock kind c hverify h hrun
    have hstart : ∀ t' ∈ [t], Token.IsFor settings c.subject t' := by
      intro t' ht'
      obtain rfl := List.mem_singleton.mp ht'
      obtain ⟨hdecode, -⟩ := Token.verify_eq_ok_iff.mp hverify
      exact Token.isFor_of_said (Token.said_of_decode hdecode)
    exact isFor_of_exchanges hrun hstart

/-! ## The member of the two teams -/

/-- What the member of the first team is issued to ask for new tokens with. -/
def memberRefresh : Claims where
  kind := .refresh
  subject := 5
  username := "eve"
  isSuperuser := false
  permissions := none
  expiry := 605800
  issuedAt := 1000

def askWith (t : String) : Request where
  method := .post
  path := Route.refresh.path
  headers := [⟨"content-type", .ofText "application/json"⟩]
  body := RefreshBody.written t

theorem isJson_askWith (t : String) : RefreshBody.isJson (askWith t).headers = true := by
  show RefreshBody.isJson [⟨"content-type", .ofText "application/json"⟩] = true
  decide

theorem verify_memberRefresh {s : TokenSettings} {clock : Nat} (hclock : clock ≤ 605860) :
    Token.verify s clock .refresh (.ofText (Octets.shown (Token.encode s memberRefresh)))
      = .ok memberRefresh := by
  have hexpiry : memberRefresh.expiry.toNat + Token.leeway = 605860 := rfl
  have hkind : memberRefresh.kind = .refresh := rfl
  rw [Token.ofText_shown_encode, Token.verify_encode (by omega), if_pos hkind]

/-- The member asks for new tokens, gets some of their own, and never any of another user. -/
theorem twoTeams_refresh :
    let settings : TokenSettings := .withSecret (.ofText "k")
    let s : Service := { gate := Gate.twoTeams, databaseFault := none, handler := none }
    let t := Octets.shown (Token.encode settings memberRefresh)
    RefreshBody.parse (askWith t).body = .ok t
      ∧ (s.answer (askWith t)).response.status = 200
      ∧ (∃ access a, (∃ refresh, (s.answer (askWith t)).response.Hands access refresh)
          ∧ Token.verify settings 1000 .access (.ofText access) = .ok a
          ∧ a.subject = 5 ∧ a.username = "eve")
      ∧ ∀ h, Relation.ReflTransGen (Exchanges settings) ⟨Database.twoTeams, [t]⟩ h →
          ∀ t' ∈ h.tokens, Token.IsFor settings 5 t' := by
  intro settings s t
  have hparse : RefreshBody.parse (askWith t).body = .ok t := RefreshBody.parse_written t
  have hverify : Token.verify settings 1000 .refresh (.ofText t) = .ok memberRefresh :=
    verify_memberRefresh (by decide)
  have hmember : (⟨5, "eve", false⟩ : User) ∈ Database.twoTeams.rows.users := List.mem_cons_self
  have hgate : s.gate = Database.twoTeams.gate settings 1000 := rfl
  have hmethod : (askWith t).method = .post := rfl
  obtain ⟨-, hanswer, -, hchain⟩ := refresh_spec Database.sound_twoTeams hgate rfl rfl hmethod rfl
    (isJson_askWith t) hparse
  have h := hanswer (RefreshBody.length_written_shown_le settings rfl (by decide))
  obtain ⟨access, refresh, a, r, hhands, ha, -, hsubject, -⟩ :=
    h.issued memberRefresh hverify _ hmember rfl
  exact ⟨hparse, hhands.1, ⟨access, a, ⟨refresh, hhands⟩, ha.atOnce (by decide), hsubject,
    ha.username⟩, hchain 1000 .refresh memberRefresh hverify⟩

/-! ## Tokens that are no good, and bodies that are not read -/

theorem verify_of_no_dot {s : TokenSettings} {clock : Nat} {kind : TokenKind} {token : Token}
    (h : ∀ b ∈ token, b ≠ Token.dot) : Token.verify s clock kind token = .error .malformed := by
  simp only [Token.verify, Token.decode, Token.cutAtLast_eq_none h, Token.orFault, bind,
    Except.bind]

/-- Where access tokens live for less than no time the pair is handed out all the same, and its
access token is no good. And a text that is no token is not always told so: if it is too long
it is not looked at. -/
theorem twoTeams_refresh_not_verified :
    let settings := (TokenSettings.withSecret (.ofText "k")).withTtl .access (-3600)
    let s : Service :=
      { gate := Database.twoTeams.gate settings 10000, databaseFault := none, handler := none }
    let t := Octets.shown (Token.encode settings memberRefresh)
    let long := String.ofList (List.replicate RefreshBody.longest 'a')
    (∀ kind, (Calendar.after? 10000 (settings.ttl kind)).isSome = true)
      ∧ Token.verify settings 10000 .refresh (.ofText t) = .ok memberRefresh
      ∧ (∃ u ∈ Database.twoTeams.rows.users, u.id = memberRefresh.subject)
      ∧ (∃ access refresh, (s.answer (askWith t)).response.Hands access refresh
          ∧ Token.verify settings 10000 .access (.ofText access) = .error .expired)
      ∧ Token.verify settings 10000 .refresh (.ofText long) = .error .malformed
      ∧ (s.answer (askWith long)).response.status = 413 := by
  intro settings s t long
  have hdates (kind : TokenKind) : (Calendar.after? 10000 (settings.ttl kind)).isSome = true := by
    cases kind <;> rfl
  have hverify : Token.verify settings 10000 .refresh (.ofText t) = .ok memberRefresh :=
    verify_memberRefresh (by decide)
  have hmember : (⟨5, "eve", false⟩ : User) ∈ Database.twoTeams.rows.users := List.mem_cons_self
  refine ⟨hdates, hverify, ⟨_, hmember, rfl⟩, ?_, ?_⟩
  · have hbody : RefreshBody.ofRequest (askWith t) = .ok t :=
      RefreshBody.ofRequest_of_parse (isJson_askWith t) (RefreshBody.parse_written t)
        (RefreshBody.length_written_shown_le settings rfl (by decide))
    have hrefresher : s.refresher (.ofText t) = .ok ⟨5, "eve", false⟩ :=
      refresher_of_user Database.sound_twoTeams rfl hverify hmember rfl
    have hgate : s.gate = Database.twoTeams.gate settings 10000 := rfl
    obtain ⟨access, refresh, a, r, hhands, ha, -⟩ :=
      exists_hands hgate (hdates .access) (hdates .refresh) hrefresher
    have hexpiry : (a.expiry.toNat : Int) = 10000 + settings.ttl .access := ha.expiry (by decide)
    have hpast : settings.ttl .access = -3600 := rfl
    rw [hpast] at hexpiry
    have hclock : a.expiry.toNat + Token.leeway < 10000 := by
      rw [Token.leeway]
      omega
    exact ⟨access, refresh, (hands_answer_iff rfl rfl hbody).mpr hhands,
      ha.expired 10000 hclock .access⟩
  · have hall : ∀ b ∈ List.replicate RefreshBody.longest (0x61 : UInt8), b = 0x61 := by
      intro b hb
      exact List.eq_of_mem_replicate hb
    have hoctets : Octets.ofText long = List.replicate RefreshBody.longest 0x61 := by
      have hmap : (List.replicate RefreshBody.longest (0x61 : UInt8)).map Octets.charOf
          = List.replicate RefreshBody.longest 'a' := List.map_replicate
      show Octets.ofText (String.ofList (List.replicate RefreshBody.longest 'a')) = _
      rw [← hmap]
      exact Octets.ofText_map_charOf fun b hb => hall b hb ▸ rfl
    have hlength : RefreshBody.longest < (askWith long).body.length := by
      have hlt := RefreshBody.length_lt_written long
      rwa [hoctets, List.length_replicate] at hlt
    refine ⟨?_, status_answer_of_longest_lt rfl rfl (isJson_askWith long) hlength⟩
    rw [hoctets]
    refine verify_of_no_dot ?_
    intro b hb
    rw [hall b hb]
    decide

end

end Service

end TrackerGate
