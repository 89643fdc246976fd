import TrackerGate.Proofs.Gate.Authorization
import TrackerGate.Proofs.Gate.Order
import TrackerGate.Proofs.Service.Subject

/-!
# Failing to say who one is

Authentication has no way to turn a request away. If the authorization header identifies a
user, the stages behind it are told who that is; if it comes to nothing, for whatever reason,
they are told nothing. How it came to nothing is of no consequence: all that the stages take
from authentication is the caller, so two requests that are the same but for their tokens and
have the same caller fare alike along any stages (`result_pass_of_same_caller`), and nothing
behind the gate looks at the header (`response_of_same_result`). A request whose header comes
to nothing has the caller of the request without it, who is nobody.
-/

namespace TrackerGate

/-- The request as somebody would send it who says nothing about themselves. -/
def Request.withoutToken (request : Request) : Request :=
  { request with headers := request.headers.filter (·.name != "authorization") }

theorem Request.sameButToken_withoutToken (request : Request) :
    request.SameButToken request.withoutToken where
  method := rfl
  path := rfl
  headers := by simp only [withoutToken, List.filter_filter, Bool.and_self]
  body := rfl

namespace Gate

variable {g : Gate} {request request' : Request}

theorem comesToNothing_withoutToken (g : Gate) (request : Request) :
    g.ComesToNothing request.withoutToken.headers := by
  refine .absent ?_
  have hnone : request.withoutToken.headers.find? (·.name == "authorization") = none := by
    rw [List.find?_eq_none]
    intro header hheader
    obtain ⟨-, hname⟩ := List.mem_filter.mp hheader
    simpa using hname
  rw [Header.find?, hnone]
  rfl

/-- The tokens of two requests make no difference beyond the callers that come of them. -/
theorem result_pass_of_same_caller (hsame : request.SameButToken request')
    (hcaller : g.caller request' = g.caller request) (stages : List Stage) (ctx : Context) :
    (g.pass request' stages ctx).result = (g.pass request stages ctx).result := by
  induction stages generalizing ctx with
  | nil => rfl
  | cons stage stages ih =>
      have hstage : (stage.pass g request' ctx).result = (stage.pass g request ctx).result := by
        cases stage with
        | authenticate =>
            show (g.authenticate request' ctx).result = (g.authenticate request ctx).result
            rw [result_authenticate_from, result_authenticate_from, hcaller]
        | guarded guard =>
            show (guard.pass g.readers request'.method (.ofText request'.path) ctx).result
              = (guard.pass g.readers request.method (.ofText request.path) ctx).result
            rw [hsame.method, hsame.path]
      rw [result_pass_cons, result_pass_cons, hstage]
      cases (stage.pass g request ctx).result with
      | error rejection => rfl
      | ok next => exact ih next

theorem result_authenticate_of_identifies {user : User}
    (h : g.Identifies request.headers user) :
    (g.authenticate request .anonymous).result = .ok (.forUser user.id user.isSuperuser) := by
  rw [result_authenticate, caller_eq_some_iff_identifies.mpr h]
  rfl

/-- The stages behind authentication do not change who is asking. -/
theorem context_pass_of_identifies {user : User} (h : g.Identifies request.headers user)
    (later : List Stage) :
    (g.pass request later (.forUser user.id user.isSuperuser)).context.user = some user.id
      ∧ (g.pass request later (.forUser user.id user.isSuperuser)).context.isSuperuser
          = user.isSuperuser := by
  have hbefore : (g.pass request [.authenticate] .anonymous).result
      = .ok (.forUser user.id user.isSuperuser) := by
    rw [result_pass_cons]
    show (g.authenticate request .anonymous).result.bind _ = _
    rw [result_authenticate_of_identifies h]
    rfl
  exact (kept_context_pass _ later hbefore).user user.id rfl

end Gate

namespace Service

variable {s : Service} {request request' : Request}

/-- Whatever is decided alike at the gate is answered alike. -/
theorem response_of_same_result (hsame : request.SameButToken request')
    (hresult : (s.gate.run request').result = (s.gate.run request).result) :
    (s.answer request').response = (s.answer request).response := by
  by_cases hmethod : request.method = .options
  · rw [answer, answer, hsame.method, hsame.path, if_pos hmethod, if_pos hmethod]
  · have hmethod' : request'.method ≠ .options := by rwa [hsame.method]
    cases hrun : (s.gate.run request).result with
    | error rejection =>
        rw [response_of_run_error hmethod hrun,
          response_of_run_error hmethod' (hresult.trans hrun)]
    | ok ctx =>
        have hhandle : (s.onClock s.gate.now).handle request' ctx
            = (s.onClock s.gate.now).handle request ctx :=
          handle_of_same_clock hsame (.inl rfl) ctx
        rw [response_of_run_ok hmethod hrun, response_of_run_ok hmethod' (hresult.trans hrun)]
        exact congrArg (fun answer : Answer => crossOrigin answer.response) hhandle

/-- What a service makes of the authorization header of a request: whom it identifies, or else
nothing. -/
structure AuthenticatesOrIgnores (s : Service) (request : Request) : Prop where
  /-- Authentication turns nobody away, in whatever context. -/
  passes : ∀ ctx, ∃ next, (s.gate.authenticate request ctx).result = .ok next
  /-- A header identifies a user, or else it comes to nothing. -/
  decided : s.gate.ComesToNothing request.headers
    ↔ ¬ ∃ user, s.gate.Identifies request.headers user
  /-- A header that comes to nothing might as well be missing: the stages decide the same, at
  the same place and with the same context, and the response is the same. -/
  nobody : s.gate.ComesToNothing request.headers →
    (s.gate.run request).result = (s.gate.run request.withoutToken).result
      ∧ (s.answer request).response = (s.answer request.withoutToken).response
  /-- The stages behind authentication are told who is identified and how the store ranks that
  user, and this is what the handler or the rejection ends up with. -/
  somebody : ∀ user, s.gate.Identifies request.headers user →
    (s.gate.authenticate request .anonymous).result = .ok (.forUser user.id user.isSuperuser)
      ∧ ∀ later,
          (s.gate.pass request later (.forUser user.id user.isSuperuser)).context.user
              = some user.id
            ∧ (s.gate.pass request later (.forUser user.id user.isSuperuser)).context.isSuperuser
              = user.isSuperuser

/-- Any service deals with any request in this way, whatever its lookups answer. -/
theorem authenticatesOrIgnores (s : Service) (request : Request) :
    s.AuthenticatesOrIgnores request where
  passes ctx := ⟨_, s.gate.result_authenticate_from request ctx⟩
  decided := by
    rw [Gate.comesToNothing_iff, Option.eq_none_iff_forall_ne_some, not_exists]
    exact forall_congr' fun user => not_congr Gate.caller_eq_some_iff_identifies
  nobody hnothing := by
    have hcaller : s.gate.caller request.withoutToken = s.gate.caller request :=
      (s.gate.comesToNothing_withoutToken request).caller_eq_none.trans
        hnothing.caller_eq_none.symm
    have hsame := request.sameButToken_withoutToken
    have hresult : (s.gate.run request.withoutToken).result = (s.gate.run request).result :=
      Gate.result_pass_of_same_caller hsame hcaller Stage.all .anonymous
    exact ⟨hresult.symm, (response_of_same_result hsame hresult).symm⟩
  somebody _ huser :=
    ⟨Gate.result_authenticate_of_identifies huser, Gate.context_pass_of_identifies huser⟩

/-- The token of the member of the first team. -/
def memberToken : Token := Token.encode Gate.twoTeams.settings Gate.memberClaims

/-- The token behind another word. -/
def otherWord : Header where
  name := "authorization"
  value := .ofText "Token" ++ 0x20 :: memberToken

/-- The member of the first team, with the token behind the right word and behind a wrong one. -/
theorem twoTeams_authenticatesOrIgnores :
    let s : Service := { gate := Gate.twoTeams, databaseFault := none, handler := some echo }
    let request : Request := Gate.changeAt "/api/projects/1/issues/10/status"
    let request' : Request := { request with headers := [otherWord] }
    (s.gate.authenticate request .anonymous).result = .ok (.forUser 5 false)
      ∧ s.gate.ComesToNothing request'.headers
      ∧ (s.answer request').response = (s.answer request'.withoutToken).response := by
  intro s request request'
  have hidentifies : s.gate.Identifies request.headers ⟨5, "eve", false⟩ :=
    Gate.caller_eq_some_iff_identifies.mp (Gate.caller_changeAt _)
  have hverify : Token.verify s.gate.settings s.gate.now .access memberToken
      = .ok Gate.memberClaims := Token.verify_encode (by decide) .access
  obtain ⟨hne, hgraphic⟩ := Token.isGraphic_of_verify hverify
  have hword : Text.Strips Octets.isBlank
      ([] ++ (Octets.ofText "Token" ++ 0x20 :: memberToken) ++ [])
      (Octets.ofText "Token" ++ 0x20 :: memberToken) := by
    refine Octets.strips_of_isGraphic nofun nofun ?_ ?_
    · intro b hb
      obtain rfl : 0x54 = b := Option.some.inj hb
      rfl
    · intro b hb
      rw [← List.singleton_append, ← List.append_assoc,
        List.getLast?_append_of_ne_nil _ hne] at hb
      exact hgraphic b (List.mem_of_getLast? hb)
  rw [List.append_nil, List.nil_append] at hword
  have hother : ¬ Bearer.IsScheme (.ofText "Token") := by
    unfold Bearer.IsScheme
    decide
  have hnothing : s.gate.ComesToNothing request'.headers :=
    .otherScheme rfl hword (by decide) hother
  exact ⟨((s.authenticatesOrIgnores request).somebody _ hidentifies).1, hnothing,
    ((s.authenticatesOrIgnores request').nobody hnothing).2⟩

end Service

end TrackerGate
