import TrackerGate.Proofs.Access.Inquiry
import TrackerGate.Proofs.Gate.Privilege

/-!
# Failing lookups open nothing

Any set of lookups may fail, and in any way. A check then answers what it would have
answered, or it passes a failure on unchanged, since every check is an inquiry. What does
not depend on a membership is not touched by a failing lookup about teams: that is so for a
superuser and for a project that belongs to nobody.

There is one failure that nobody is told about. If the lookup of the user fails, the
request goes on as nobody's, and other checks are made than the ones it would have met. It
gains nothing by that, since nobody in particular passes no check that somebody fails.
`failing_opens_nothing` has all of this.
-/

namespace TrackerGate

namespace Access

/-! ## Checks without a membership -/

variable {r r' : Readers} {ctx : Context}

/-- Whoever asks is a superuser, or the project belongs to nobody. -/
def NeedsNoTeam (r : Readers) (ctx : Context) (id : ProjectId) : Prop :=
  ctx.isSuperuser = true ∨ ∀ p, r.project id = .ok p → p.team = none

theorem look_bind_congr {α β : Type} {answer answer' : Except Failure α} {k k' : α → Check β}
    (hanswer : answer' = answer) (h : ∀ a, answer = .ok a → k' a = k a) :
    (look answer' >>= k') = (look answer >>= k) := by
  rw [hanswer]
  cases answer with
  | error f => rfl
  | ok a => exact h a rfl

theorem readProject_congr {id : ProjectId} (hneeds : NeedsNoTeam r ctx id)
    (hproject : r'.project id = r.project id) : readProject r' ctx id = readProject r ctx id := by
  refine look_bind_congr hproject fun p hp => ?_
  rcases hneeds with hsuper | hteam
  · simp only [hsuper, if_true]
  · simp only [hteam p hp]

theorem manageProject_congr {id : ProjectId} {issueWork : Bool} (hneeds : NeedsNoTeam r ctx id)
    (hproject : r'.project id = r.project id) :
    manageProject r' ctx id issueWork = manageProject r ctx id issueWork := by
  refine look_bind_congr hproject fun p hp => ?_
  rcases hneeds with hsuper | hteam
  · simp only [hsuper, if_true]
  · simp only [hteam p hp]

theorem readIssue_of_superuser (hsuper : ctx.isSuperuser = true) (id : IssueId) :
    readIssue r ctx id = .ok () := readIssue_eq_ok_iff.mpr (.inl hsuper)

theorem manageIssue_of_superuser (hsuper : ctx.isSuperuser = true) (id : IssueId) :
    manageIssue r ctx id = .ok () := manageIssue_eq_ok_iff.mpr (.inl hsuper)

theorem readIssue_congr {id : IssueId} (hissue : r'.issue id = r.issue id)
    (hproject : ∀ i, r.issue id = .ok i →
      readProject r' ctx i.project = readProject r ctx i.project) :
    readIssue r' ctx id = readIssue r ctx id := by
  unfold readIssue
  cases ctx.isSuperuser with
  | true => rfl
  | false => exact look_bind_congr hissue hproject

theorem manageIssue_congr {id : IssueId} (hissue : r'.issue id = r.issue id)
    (hproject : ∀ i, r.issue id = .ok i →
      manageProject r' ctx i.project true = manageProject r ctx i.project true) :
    manageIssue r' ctx id = manageIssue r ctx id := by
  unfold manageIssue
  cases ctx.isSuperuser with
  | true => rfl
  | false => exact look_bind_congr hissue hproject

/-! ## Failing lookups about teams -/

/-- No lookup about teams, if it fails, makes a difference. -/
def IgnoresTeams {α : Type} (r : Readers) (c : Readers → Check α) : Prop :=
  ∀ fault : Lookup → Option Failure,
    (∀ lookup failure, fault lookup = some failure → lookup.isAboutTeams = true) →
      c (r.failing fault) = c r

theorem failing_agreeOn_of_teams {fault : Lookup → Option Failure}
    (h : ∀ lookup failure, fault lookup = some failure → lookup.isAboutTeams = true)
    (lookup : Lookup) (hother : lookup.isAboutTeams = false) :
    (r.failing fault).AgreeOn r lookup := by
  refine Readers.failing_agreeOn (Option.eq_none_iff_forall_ne_some.mpr fun failure hfault => ?_)
  rw [h lookup failure hfault] at hother
  cases hother

theorem ignoresTeams_readProject {id : ProjectId} (hneeds : NeedsNoTeam r ctx id) :
    IgnoresTeams r fun r => readProject r ctx id := fun _ hfault =>
  readProject_congr hneeds (failing_agreeOn_of_teams hfault (.project id) rfl)

theorem ignoresTeams_manageProject {id : ProjectId} (hneeds : NeedsNoTeam r ctx id)
    (issueWork : Bool) : IgnoresTeams r fun r => manageProject r ctx id issueWork := fun _ hfault =>
  manageProject_congr hneeds (failing_agreeOn_of_teams hfault (.project id) rfl)

theorem ignoresTeams_readIssue {id : IssueId}
    (hneeds : ∀ i, r.issue id = .ok i → NeedsNoTeam r ctx i.project) :
    IgnoresTeams r fun r => readIssue r ctx id := fun fault hfault =>
  readIssue_congr (failing_agreeOn_of_teams hfault (.issue id) rfl) fun i hi =>
    ignoresTeams_readProject (hneeds i hi) fault hfault

theorem ignoresTeams_manageIssue {id : IssueId}
    (hneeds : ∀ i, r.issue id = .ok i → NeedsNoTeam r ctx i.project) :
    IgnoresTeams r fun r => manageIssue r ctx id := fun fault hfault =>
  manageIssue_congr (failing_agreeOn_of_teams hfault (.issue id) rfl) fun i hi =>
    ignoresTeams_manageProject (hneeds i hi) true fault hfault

theorem ignoresTeams_visibleProjects (hsuper : ctx.isSuperuser = true) (projects : List Project) :
    IgnoresTeams r fun r => visibleProjects r ctx projects := fun _ _ => by
  simp only [visibleProjects, hsuper, if_true]

/-! ## All checks -/

/-- Each of the checks of `ctx`, whatever it is asked about, has the property. -/
structure EachCheck (P : {α : Type} → (Readers → Check α) → Prop) (ctx : Context) : Prop where
  readProject : ∀ id, P fun r => Access.readProject r ctx id
  readIssue : ∀ id, P fun r => Access.readIssue r ctx id
  manageProject : ∀ id issueWork, P fun r => Access.manageProject r ctx id issueWork
  manageIssue : ∀ id, P fun r => Access.manageIssue r ctx id
  visibleProjects : ∀ projects, P fun r => Access.visibleProjects r ctx projects

theorem EachCheck.imp {P Q : {α : Type} → (Readers → Check α) → Prop} (h : EachCheck P ctx)
    (himp : ∀ {α : Type} (c : Readers → Check α), P c → Q c) : EachCheck Q ctx where
  readProject id := himp _ (h.readProject id)
  readIssue id := himp _ (h.readIssue id)
  manageProject id issueWork := himp _ (h.manageProject id issueWork)
  manageIssue id := himp _ (h.manageIssue id)
  visibleProjects projects := himp _ (h.visibleProjects projects)

theorem eachCheck_failsClosed (ctx : Context) : EachCheck FailsClosed ctx where
  readProject id := (isInquiry_readProject ctx id).failsClosed
  readIssue id := (isInquiry_readIssue ctx id).failsClosed
  manageProject id issueWork := (isInquiry_manageProject ctx id issueWork).failsClosed
  manageIssue id := (isInquiry_manageIssue ctx id).failsClosed
  visibleProjects projects := (isInquiry_visibleProjects ctx projects).failsClosed

theorem eachCheck_ignoresTeams (r : Readers) (hsuper : ctx.isSuperuser = true) :
    EachCheck (IgnoresTeams r) ctx where
  readProject _ := ignoresTeams_readProject (.inl hsuper)
  readIssue _ := ignoresTeams_readIssue fun _ _ => .inl hsuper
  manageProject _ issueWork := ignoresTeams_manageProject (.inl hsuper) issueWork
  manageIssue _ := ignoresTeams_manageIssue fun _ _ => .inl hsuper
  visibleProjects projects := ignoresTeams_visibleProjects hsuper projects

end Access

/-! ## Guards -/

namespace Guard

variable {guard : Guard} {r : Readers} {method : Method} {path : ResourcePath} {ctx : Context}

theorem isInquiry_check (guard : Guard) (path : ResourcePath) (ctx : Context) (id : Int64) :
    Access.IsInquiry fun r => guard.check r path ctx id := by
  cases guard with
  | projectAccess => exact Access.isInquiry_readProject ctx id
  | projectManagement => exact Access.isInquiry_manageProject ctx id path.isIssueManagement
  | issueAccess => exact Access.isInquiry_readIssue ctx id
  | issueManagement => exact Access.isInquiry_manageIssue ctx id

theorem clears_of_failing {fault : Lookup → Option Failure}
    (h : guard.Clears (r.failing fault) method path ctx) : guard.Clears r method path ctx := by
  obtain ⟨target, htarget, hcheck⟩ := h
  refine ⟨target, htarget, fun id hid => ?_⟩
  exact (isInquiry_check guard path ctx id).failsClosed.gainsNothing r _ () (hcheck id hid)

end Guard

/-! ## Requests -/

namespace Gate

/-- The gate with some of its lookups failing. -/
def failing (g : Gate) (fault : Lookup → Option Failure) : Gate :=
  { g with readers := g.readers.failing fault }

variable {g : Gate} {fault : Lookup → Option Failure} {request : Request}

/-- If the user cannot be looked up, the request comes from nobody in particular. -/
theorem caller_failing (g : Gate) (fault : Lookup → Option Failure) (request : Request) :
    (g.failing fault).caller request = g.caller request ∨ (g.failing fault).caller request = none := by
  unfold caller
  cases Bearer.token? request.headers with
  | none => exact .inl rfl
  | some token =>
      simp only [Option.bind_some, principal, failing, Readers.failing]
      cases Token.verify g.settings g.now .access token with
      | error f => exact .inl rfl
      | ok claims =>
          cases hfault : fault (.user claims.subject) with
          | none => exact .inl (by simp only [hfault, Readers.orFail])
          | some failure => exact .inr (by simp only [hfault, Readers.orFail]; rfl)

theorem exists_run_eq_ok_of_failing
    (h : ∃ ctx, ((g.failing fault).run request).result = .ok ctx) :
    ∃ ctx, (g.run request).result = .ok ctx := by
  obtain ⟨ctx, hrun⟩ := h
  have hclears : ∀ guard : Guard, guard.Clears g.readers request.method (.ofText request.path)
      (.ofCaller ((g.failing fault).caller request)) := fun guard =>
    Guard.clears_of_failing ((result_run_eq_ok_iff.mp hrun).1 guard)
  refine ⟨_, result_run_eq_ok_iff.mpr ⟨fun guard => ?_, rfl⟩⟩
  rcases caller_failing g fault request with hsame | hnobody
  · rw [← hsame]
    exact hclears guard
  · rw [hnobody] at hclears
    exact Guard.clears_of_anonymous (hclears guard) _

/-- Whatever lookups fail, and however: each check fails closed, and grants nothing that it
would not grant without. Lookups about teams make no difference to a superuser, nor to whoever
asks for a project that belongs to nobody or for an issue of one, and no lookup at all makes a
difference to a superuser who asks for an issue. And a request that gets to its handler would
get there without a failure. -/
theorem failing_opens_nothing :
    (∀ ctx : Context, Access.EachCheck Access.FailsClosed ctx
        ∧ Access.EachCheck Access.GainsNothing ctx)
      ∧ (∀ (r : Readers) (ctx : Context), ctx.isSuperuser = true →
          Access.EachCheck (Access.IgnoresTeams r) ctx
            ∧ ∀ (fault : Lookup → Option Failure) (id : IssueId),
                Access.readIssue (r.failing fault) ctx id = Access.readIssue r ctx id
                  ∧ Access.manageIssue (r.failing fault) ctx id = Access.manageIssue r ctx id)
      ∧ (∀ (r : Readers) (ctx : Context) (id : ProjectId),
          (∀ p, r.project id = .ok p → p.team = none) →
            Access.IgnoresTeams r (fun r => Access.readProject r ctx id)
              ∧ (∀ issueWork,
                  Access.IgnoresTeams r fun r => Access.manageProject r ctx id issueWork)
              ∧ ∀ (issue : IssueId), (∀ i, r.issue issue = .ok i → i.project = id) →
                  Access.IgnoresTeams r (fun r => Access.readIssue r ctx issue)
                    ∧ Access.IgnoresTeams r fun r => Access.manageIssue r ctx issue)
      ∧ ∀ (g : Gate) (fault : Lookup → Option Failure) (request : Request),
          (∃ ctx, ((g.failing fault).run request).result = .ok ctx) →
            ∃ ctx, (g.run request).result = .ok ctx := by
  refine ⟨fun ctx => ⟨Access.eachCheck_failsClosed ctx, ?_⟩,
    fun r ctx hsuper => ⟨?_, fun fault id => ?_⟩, fun r ctx id hteam => ?_,
    fun g fault request => exists_run_eq_ok_of_failing⟩
  · exact (Access.eachCheck_failsClosed ctx).imp fun _ hclosed => hclosed.gainsNothing
  · exact Access.eachCheck_ignoresTeams r hsuper
  · rw [Access.readIssue_of_superuser hsuper, Access.readIssue_of_superuser hsuper,
      Access.manageIssue_of_superuser hsuper, Access.manageIssue_of_superuser hsuper]
    exact ⟨rfl, rfl⟩
  · have hneeds : Access.NeedsNoTeam r ctx id := .inr hteam
    refine ⟨Access.ignoresTeams_readProject hneeds, Access.ignoresTeams_manageProject hneeds,
      fun issue hproject => ?_⟩
    have hissue : ∀ i, r.issue issue = .ok i → Access.NeedsNoTeam r ctx i.project :=
      fun i hi => (hproject i hi).symm ▸ hneeds
    exact ⟨Access.ignoresTeams_readIssue hissue, Access.ignoresTeams_manageIssue hissue⟩

/-- A superuser manages a project whose members cannot be read; a user whose teams cannot be
read reads the project that has none; and it is read with the token of a user who cannot be
looked up, as it is if the user can be. -/
theorem twoTeams_failing_opens_nothing :
    Access.manageProject (twoTeams.readers.failing (Lookup.only (.members 7) .database))
        (.forUser 9 true) 1 false = .ok ()
      ∧ Access.readProject (twoTeams.readers.failing (Lookup.only (.teamsOf 6) .database))
          (.forUser 6 false) 3 = .ok ()
      ∧ (∃ ctx, ((twoTeams.failing (Lookup.only (.user 5) .database)).run
          { changeAt "/api/projects/3" with method := .get }).result = .ok ctx)
      ∧ ∃ ctx, (twoTeams.run { changeAt "/api/projects/3" with method := .get }).result
          = .ok ctx := by
  have hadmitted : ∃ ctx, ((twoTeams.failing (Lookup.only (.user 5) .database)).run
      { changeAt "/api/projects/3" with method := .get }).result = .ok ctx := by
    refine ⟨_, result_run_eq_ok_iff.mpr ⟨fun guard => Guard.clears_of_anonymous ?_ _, rfl⟩⟩
    cases guard with
    | projectAccess => exact ⟨.id 3, rfl, fun id hid => by cases hid; rfl⟩
    | projectManagement | issueAccess | issueManagement => exact ⟨.bypass, rfl, nofun⟩
  have honly {lookup : Lookup} (hteams : lookup.isAboutTeams = true) :
      ∀ other failure, Lookup.only lookup .database other = some failure →
        other.isAboutTeams = true := by
    intro other failure hfault
    have hsame : other = lookup := by
      by_contra hother
      simp [Lookup.only, hother] at hfault
    rw [hsame, hteams]
  have hwiki : ∀ p, twoTeams.readers.project 3 = .ok p → p.team = none :=
    fun p hp => by cases hp; rfl
  obtain ⟨-, hsuper, hteamless, hrequest⟩ := failing_opens_nothing
  refine ⟨?_, ?_, hadmitted, hrequest _ _ _ hadmitted⟩
  · have heach := (hsuper twoTeams.readers (.forUser 9 true) rfl).1
    exact (heach.manageProject 1 false _ (honly rfl)).trans rfl
  · have hread := (hteamless twoTeams.readers (.forUser 6 false) 3 hwiki).1
    exact (hread _ (honly rfl)).trans rfl

end Gate

end TrackerGate
