import TrackerGate.Proofs.Gate.IssueWork

/-!
# Nothing but the subject of a token counts

An access token says who its subject was when it was issued: a name, a rank, what they were
allowed to do. None of this is believed. Two requests that are the same but for their tokens,
and whose tokens are good and have the same subject, are dealt with in the same way, because
everything else about the caller is looked up.

There are two runs to compare, and they may be some time apart. Up to the handler the clock
is of no interest once the tokens are verified, so the runs are the same
(`run_of_same_subject`). Of the routes only the one that issues new tokens reads the clock:
it hands out tokens that say the same at either time but for the moments in them
(`SameButIssue`), as long as the refresh token in the body is as good at the one time as at
the other.
-/

namespace TrackerGate

/-! ## Requests that differ in their token -/

theorem Header.find?_filter {name other : String} (hne : name ≠ other) (headers : List Header) :
    find? (headers.filter (·.name != other)) name = find? headers name := by
  unfold find?
  rw [List.find?_filter]
  congr 2
  funext header
  by_cases hname : header.name = name <;> simp [hname, hne]

/-- Both requests are the same but for their `authorization` headers. -/
structure Request.SameButToken (request request' : Request) : Prop where
  method : request'.method = request.method
  path : request'.path = request.path
  headers : request'.headers.filter (·.name != "authorization")
    = request.headers.filter (·.name != "authorization")
  body : request'.body = request.body

theorem Request.SameButToken.ofRequest {request request' : Request}
    (h : request.SameButToken request') :
    RefreshBody.ofRequest request' = RefreshBody.ofRequest request := by
  have htype : Header.find? request'.headers "content-type"
      = Header.find? request.headers "content-type" := by
    have hne : "content-type" ≠ "authorization" := by decide
    rw [← Header.find?_filter hne, h.headers, Header.find?_filter hne]
  unfold RefreshBody.ofRequest RefreshBody.isJson Header.text?
  rw [htype, h.body]

/-- A request may be sent with any token in front of its other headers. -/
theorem Request.sameButToken_header (request : Request) (token token' : Token) :
    SameButToken { request with headers := Bearer.header token :: request.headers }
      { request with headers := Bearer.header token' :: request.headers } := by
  have hdrop (token : Token) :
      (Bearer.header token :: request.headers).filter (·.name != "authorization")
        = request.headers.filter (·.name != "authorization") := rfl
  exact ⟨rfl, rfl, (hdrop token').trans (hdrop token).symm, rfl⟩

/-! ## Runs -/

namespace Gate

/-- The gate at another time. -/
def onClock (g : Gate) (now : Nat) : Gate := { g with now }

/-- The request comes with an access token that is good and says `claims`. -/
def Presents (g : Gate) (request : Request) (claims : Claims) : Prop :=
  ∃ token, Bearer.token? request.headers = some token
    ∧ Token.verify g.settings g.now .access token = .ok claims

variable {g : Gate} {request request' : Request} {claims claims' : Claims} {now now' : Nat}

theorem caller_of_presents (h : g.Presents request claims) :
    g.caller request = (g.readers.user claims.subject).toOption := by
  obtain ⟨token, htoken, hverify⟩ := h
  simp only [caller, htoken, Option.bind_some, principal, hverify]

/-- All that authentication takes from a token is its subject. -/
theorem authenticate_of_presents (h : g.Presents request claims) (ctx : Context) :
    g.authenticate request ctx
      = match g.readers.user claims.subject with
        | .ok user =>
            ⟨[.authenticated user.id user.isSuperuser],
              .ok (ctx.withPrincipal user.id user.isSuperuser)⟩
        | .error f => ⟨[.authenticationFailed f], .ok ctx⟩ := by
  obtain ⟨token, htoken, hverify⟩ := h
  have hprincipal : g.principal token = g.readers.user claims.subject := by
    simp only [principal, hverify]
  cases huser : g.readers.user claims.subject <;>
    simp only [authenticate, htoken, hprincipal, huser]

theorem pass_eq_of_stages {g' : Gate}
    (h : ∀ (stage : Stage) (ctx : Context), stage.pass g' request' ctx = stage.pass g request ctx)
    (stages : List Stage) (ctx : Context) :
    g'.pass request' stages ctx = g.pass request stages ctx := by
  induction stages generalizing ctx with
  | nil => rfl
  | cons stage stages ih =>
      rw [pass, pass, h stage ctx]
      cases (stage.pass g request ctx).result with
      | error rejection => simp only
      | ok next => simp only [ih next]

/-- The way through the stages is the same for tokens with the same subject: what is decided,
where and with what context, and what is reported. -/
theorem run_of_same_subject (hsame : request.SameButToken request')
    (h : (g.onClock now).Presents request claims) (h' : (g.onClock now').Presents request' claims')
    (hsubject : claims'.subject = claims.subject) :
    (g.onClock now').run request' = (g.onClock now).run request := by
  refine pass_eq_of_stages (fun stage ctx => ?_) Stage.all .anonymous
  cases stage with
  | authenticate =>
      show (g.onClock now').authenticate request' ctx = (g.onClock now).authenticate request ctx
      rw [authenticate_of_presents h, authenticate_of_presents h', hsubject]
      rfl
  | guarded guard =>
      show guard.pass g.readers request'.method (.ofText request'.path) ctx
        = guard.pass g.readers request.method (.ofText request.path) ctx
      rw [hsame.method, hsame.path]

end Gate

/-! ## Tokens issued at another time -/

/-- Both say the same but for the moments of issue and expiry, and live equally long. -/
structure Claims.SameButMoments (c c' : Claims) : Prop where
  kind : c'.kind = c.kind
  subject : c'.subject = c.subject
  username : c'.username = c.username
  isSuperuser : c'.isSuperuser = c.isSuperuser
  permissions : c'.permissions = c.permissions
  lifetime : c'.lifetime = c.lifetime

namespace Token

variable {s : TokenSettings} {now now' : Nat} {user : User} {kind : TokenKind}
  {permissions : Option PermissionSnapshot}

theorem lifetime_of_claims? {c : Claims} (h : claims? s now user kind permissions = some c) :
    c.lifetime = (UInt64.ofInt (s.ttl kind)).toInt64 := by
  obtain ⟨moment, hmoment, rfl⟩ := Option.map_eq_some_iff.mp h
  obtain ⟨rfl, -, -⟩ := Calendar.after?_eq_some_iff.mp hmoment
  have hnow : UInt64.ofInt now = UInt64.ofNat now := by
    apply UInt64.toNat_inj.mp
    simp only [UInt64.ofInt, UInt64.toNat_ofNat']
    omega
  rw [Claims.lifetime, UInt64.ofInt_add, hnow, UInt64.add_comm, UInt64.add_sub_cancel]

theorem sameButMoments_of_claims? {c c' : Claims}
    (h : claims? s now user kind permissions = some c)
    (h' : claims? s now' user kind permissions = some c') : c.SameButMoments c' := by
  have hlifetime := (lifetime_of_claims? h').trans (lifetime_of_claims? h).symm
  obtain ⟨_, -, rfl⟩ := Option.map_eq_some_iff.mp h
  obtain ⟨_, -, rfl⟩ := Option.map_eq_some_iff.mp h'
  exact ⟨rfl, rfl, rfl, rfl, rfl, hlifetime⟩

/-- A token is issued at both times, or at neither. -/
theorem sign_at_both (user : User) (permissions : Option PermissionSnapshot)
    (hdates : (Calendar.after? now (s.ttl kind)).isSome
      = (Calendar.after? now' (s.ttl kind)).isSome) :
    (∃ f, sign s now user kind permissions = .error f ∧ sign s now' user kind permissions = .error f)
      ∨ ∃ c c', sign s now user kind permissions = .ok (encode s c)
          ∧ sign s now' user kind permissions = .ok (encode s c') ∧ c.SameButMoments c' := by
  have hissued : (claims? s now user kind permissions).isSome
      = (claims? s now' user kind permissions).isSome := by
    rw [claims?, claims?, Option.isSome_map, Option.isSome_map, hdates]
  cases hc : claims? s now user kind permissions with
  | none =>
      rw [hc] at hissued
      have hc' := Option.isSome_eq_false_iff.mp hissued.symm
      rw [Option.isNone_iff_eq_none] at hc'
      exact .inl ⟨_, by rw [sign, hc], by rw [sign, hc']⟩
  | some c =>
      rw [hc] at hissued
      obtain ⟨c', hc'⟩ := Option.isSome_iff_exists.mp hissued.symm
      exact .inr ⟨c, c', by rw [sign, hc], by rw [sign, hc'], sameButMoments_of_claims? hc hc'⟩

end Token

theorem Issuance.events_issue (s : TokenSettings) (r : Readers) (now : Nat) (user : User)
    (kind : TokenKind) :
    (issue s r now user kind).events = if kind = .access then (r.capture user).events else [] := by
  unfold issue
  split <;> rfl

/-! ## Answers -/

namespace Service

/-- Both answers are the same, or both hand out a pair of tokens, presented alike and with the
same reports, that say the same but for the moments. -/
inductive SameButIssue (settings : TokenSettings) (present : Response → Response) :
    Answer → Answer → Prop where
  | same (answer : Answer) : SameButIssue settings present answer answer
  | reissued {access access' refresh refresh' : Claims} (events : List Event)
      (haccess : access.SameButMoments access') (hrefresh : refresh.SameButMoments refresh') :
      SameButIssue settings present
        ⟨present (respond (.ok (pairJson
          (Token.encode settings access, Token.encode settings refresh)))), events⟩
        ⟨present (respond (.ok (pairJson
          (Token.encode settings access', Token.encode settings refresh')))), events⟩

theorem SameButIssue.map {settings : TokenSettings} {present : Response → Response}
    {answer answer' : Answer} (h : SameButIssue settings present answer answer')
    (more : Response → Response) (events : List Event) :
    SameButIssue settings (fun response => more (present response))
      ⟨more answer.response, events ++ answer.events⟩
      ⟨more answer'.response, events ++ answer'.events⟩ := by
  cases h with
  | same answer => exact .same _
  | reissued reported haccess hrefresh => exact .reissued (events ++ reported) haccess hrefresh

/-- The service at another time. -/
def onClock (s : Service) (now : Nat) : Service := { s with gate := s.gate.onClock now }

/-- The refresh token in the body of the request, if there is one, is as good at the one time
as at the other, and tokens can be issued at both times or at neither. -/
structure RefreshesAlike (s : Service) (request : Request) (now now' : Nat) : Prop where
  verified : ∀ text, RefreshBody.ofRequest request = .ok text →
    Token.verify s.gate.settings now' .refresh (.ofText text)
      = Token.verify s.gate.settings now .refresh (.ofText text)
  dates : ∀ kind, (Calendar.after? now (s.gate.settings.ttl kind)).isSome
    = (Calendar.after? now' (s.gate.settings.ttl kind)).isSome

variable {s : Service} {request request' : Request} {now now' : Nat}

theorem newPair_onClock (s : Service) (now : Nat) (user : User) :
    (s.onClock now).newPair user
      = match Token.sign s.gate.settings now user .access
            (some (s.gate.readers.capture user).permissions),
          Token.sign s.gate.settings now user .refresh none with
        | .error f, _ => (.error f, (s.gate.readers.capture user).events)
        | .ok _, .error f => (.error f, (s.gate.readers.capture user).events)
        | .ok a, .ok r =>
            (.ok (a, r), (s.gate.readers.capture user).events ++ [.tokensRefreshed user.id]) := by
  unfold newPair
  simp only [Issuance.token_issue, Issuance.events_issue]
  rfl

theorem refresh_at_both {token : Token}
    (hverify : Token.verify s.gate.settings now' .refresh token
      = Token.verify s.gate.settings now .refresh token)
    (hdates : ∀ kind, (Calendar.after? now (s.gate.settings.ttl kind)).isSome
      = (Calendar.after? now' (s.gate.settings.ttl kind)).isSome) :
    SameButIssue s.gate.settings id ((s.onClock now).refresh token)
      ((s.onClock now').refresh token) := by
  have hrefresher : (s.onClock now').refresher token = (s.onClock now).refresher token := by
    unfold refresher
    simp only [onClock, Gate.onClock, hverify]
  unfold refresh
  rw [hrefresher]
  cases (s.onClock now).refresher token with
  | error f => exact .same _
  | ok user =>
      simp only [newPair_onClock]
      rcases Token.sign_at_both user (some (s.gate.readers.capture user).permissions)
          (hdates .access) with ⟨f, haccess, haccess'⟩ | ⟨c, c', haccess, haccess', hc⟩
      · simp only [haccess, haccess']
        exact .same _
      · rcases Token.sign_at_both user none (hdates .refresh) with
          ⟨f, hrefresh, hrefresh'⟩ | ⟨d, d', hrefresh, hrefresh', hd⟩
        · simp only [haccess, haccess', hrefresh, hrefresh']
          exact .same _
        · simp only [haccess, haccess', hrefresh, hrefresh', Except.map]
          exact .reissued _ hc hd

theorem refreshRequest_at_both (hsame : request.SameButToken request')
    (h : s.RefreshesAlike request now now') :
    SameButIssue s.gate.settings id ((s.onClock now).refreshRequest request)
      ((s.onClock now').refreshRequest request') := by
  unfold refreshRequest
  rw [hsame.ofRequest]
  cases hbody : RefreshBody.ofRequest request with
  | error f => exact .same _
  | ok text => exact refresh_at_both (h.verified text hbody) h.dates

/-- Behind the gate the clock is read on one route only. -/
theorem handle_of_same_clock (hsame : request.SameButToken request')
    (hclock : now' = now ∨ Route.ofPath? request.path ≠ some .refresh) (ctx : Context) :
    (s.onClock now').handle request' ctx = (s.onClock now).handle request ctx := by
  unfold handle
  rw [hsame.path, hsame.method]
  cases hroute : Route.ofPath? request.path with
  | none => rfl
  | some route =>
      cases route with
      | health => rfl
      | session => rfl
      | refresh =>
          rcases hclock with rfl | hother
          · simp only [routeAnswer, refreshRequest, hsame.ofRequest]
          · exact absurd hroute hother

theorem handle_at_both (hsame : request.SameButToken request')
    (h : s.RefreshesAlike request now now') (ctx : Context) :
    SameButIssue s.gate.settings (sent request.method) ((s.onClock now).handle request ctx)
      ((s.onClock now').handle request' ctx) := by
  by_cases hroute : Route.ofPath? request.path = some .refresh
  · unfold handle
    rw [hsame.path, hsame.method, hroute]
    by_cases hadmits : Route.admits .refresh request.method = true
    · simp only [hadmits, if_true, routeAnswer]
      exact (refreshRequest_at_both hsame h).map (sent request.method) []
    · simp only [hadmits, if_false, Bool.false_eq_true]
      exact .same _
  · rw [handle_of_same_clock hsame (.inr hroute)]
    exact .same _

/-- Where two runs are the same, the answers are related as those of the handlers are. -/
theorem answer_rel_of_run {s s' : Service} (hsame : request.SameButToken request')
    (hrun : s'.gate.run request' = s.gate.run request) {R : Answer → Answer → Prop}
    (hrefl : ∀ answer, R answer answer)
    (hhandle : ∀ ctx events,
      R ⟨crossOrigin (s.handle request ctx).response, events ++ (s.handle request ctx).events⟩
        ⟨crossOrigin (s'.handle request' ctx).response,
          events ++ (s'.handle request' ctx).events⟩) :
    R (s.answer request) (s'.answer request') := by
  by_cases hmethod : request.method = .options
  · rw [answer, answer, hsame.method, hsame.path, if_pos hmethod, if_pos hmethod]
    exact hrefl _
  · have hmethod' : request'.method ≠ .options := by rwa [hsame.method]
    cases hresult : (s.gate.run request).result with
    | error rejection =>
        have hresult' := (congrArg Passage.result hrun).trans hresult
        rw [answer_of_run_error hmethod hresult, answer_of_run_error hmethod' hresult', hrun]
        exact hrefl _
    | ok ctx =>
        have hresult' := (congrArg Passage.result hrun).trans hresult
        rw [answer_of_run_ok hmethod hresult, answer_of_run_ok hmethod' hresult', hrun]
        exact hhandle ctx _

/-- Two requests that are the same but for their tokens, where both tokens are good access
tokens with one subject, are decided in the same way and with the same context, in which only
the subject and the readers have a say. They are answered alike if they come at the same time
or do not ask for new tokens; and if they do ask for new tokens, alike but for the moments in
these. -/
theorem answer_of_same_subject {claims claims' : Claims} (s : Service)
    (hsame : request.SameButToken request')
    (h : (s.onClock now).gate.Presents request claims)
    (h' : (s.onClock now').gate.Presents request' claims')
    (hsubject : claims'.subject = claims.subject) :
    (s.onClock now').gate.run request' = (s.onClock now).gate.run request
      ∧ (∀ ctx, ((s.onClock now).gate.run request).result = .ok ctx →
          ctx = (Context.ofCaller (s.gate.readers.user claims.subject).toOption).about
            (.ofText request.path))
      ∧ (now' = now ∨ Route.ofPath? request.path ≠ some .refresh →
          (s.onClock now').answer request' = (s.onClock now).answer request)
      ∧ (s.RefreshesAlike request now now' →
          SameButIssue s.gate.settings (fun response => crossOrigin (sent request.method response))
            ((s.onClock now).answer request) ((s.onClock now').answer request')) := by
  have hrun : (s.onClock now').gate.run request' = (s.onClock now).gate.run request :=
    Gate.run_of_same_subject hsame h h' hsubject
  refine ⟨hrun, fun ctx hctx => ?_, fun hclock => ?_, fun halike => ?_⟩
  · obtain ⟨-, rfl⟩ := Gate.result_run_eq_ok_iff.mp hctx
    rw [Gate.caller_of_presents h]
    rfl
  · refine answer_rel_of_run (R := fun a a' => a' = a) hsame hrun (fun _ => rfl)
      fun ctx events => ?_
    rw [handle_of_same_clock hsame hclock]
  · refine answer_rel_of_run hsame hrun .same fun ctx events => ?_
    exact (handle_at_both hsame halike ctx).map crossOrigin events

/-- What the member of the first team would like to be issued. -/
def boast : Claims where
  kind := .access
  subject := 5
  username := "root"
  isSuperuser := true
  permissions := some (Gate.twoTeams.readers.capture ⟨5, "root", true⟩).permissions
  expiry := 5000
  issuedAt := 900

/-- The work on an issue, with the token that was issued and, three minutes later, with one
that says more. -/
theorem twoTeams_answer_of_boast :
    let s : Service := { gate := Gate.twoTeams, databaseFault := none, handler := some echo }
    let request : Request := Gate.changeAt "/api/projects/1/issues/10/status"
    let request' : Request :=
      { request with headers := [Bearer.header (Token.encode Gate.twoTeams.settings boast)] }
    request.SameButToken request'
      ∧ (s.onClock 1000).gate.Presents request Gate.memberClaims
      ∧ (s.onClock 1180).gate.Presents request' boast
      ∧ (∀ ctx, ((s.onClock 1180).gate.run request').result = .ok ctx → ctx.isSuperuser = false)
      ∧ (s.onClock 1180).answer request' = (s.onClock 1000).answer request := by
  intro s request request'
  have hsame : request.SameButToken request' :=
    Request.sameButToken_header { request with headers := [] } _ _
  have h : (s.onClock 1000).gate.Presents request Gate.memberClaims :=
    ⟨_, Token.token?_encode _ _ _, Token.verify_encode (by decide) .access⟩
  have h' : (s.onClock 1180).gate.Presents request' boast :=
    ⟨_, Token.token?_encode _ _ _, Token.verify_encode (by decide) .access⟩
  obtain ⟨hrun, hcontext, hanswer, -⟩ := answer_of_same_subject s hsame h h' rfl
  refine ⟨hsame, h, h', fun ctx hctx => ?_, hanswer (.inr ?_)⟩
  · rw [hrun] at hctx
    rw [hcontext ctx hctx]
    rfl
  · decide

end Service

end TrackerGate
