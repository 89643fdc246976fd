import TrackerGate.Access

/-!
# Checks as inquiries

A check knows the store only through its lookups, and it goes on only as long as they are
answered. Both halves are stated here for any computation that is put together from
lookups (`IsInquiry`): a lookup that fails is either not made, and then it makes no
difference, or its failure is the answer, unchanged; and the answer depends on the lookups
that are made and on no others. That a lookup is made needs no record of the run: it is
made if its failure shows, whatever the failure is (`Consults`).

Single lookups are inquiries and so are inquiries in a row, and each check is seen to be
one along the lines it is written in.
-/

namespace TrackerGate

/-! ## Failing lookups -/

/-- The fault of one lookup and no other. -/
def Lookup.only (lookup : Lookup) (failure : Failure) : Lookup → Option Failure :=
  fun other => if other = lookup then some failure else none

namespace Readers

/-- Both give the same answer to the lookup. -/
def AgreeOn (r r' : Readers) : Lookup → Prop
  | .user id => r.user id = r'.user id
  | .project id => r.project id = r'.project id
  | .projects => r.projects = r'.projects
  | .issue id => r.issue id = r'.issue id
  | .teamsOf user => r.teamsOf user = r'.teamsOf user
  | .members team => r.members team = r'.members team
  | .teams => r.teams = r'.teams

theorem failing_agreeOn {r : Readers} {fault : Lookup → Option Failure} {lookup : Lookup}
    (h : fault lookup = none) : (r.failing fault).AgreeOn r lookup := by
  cases lookup <;> simp [AgreeOn, failing, orFail, h]

end Readers

namespace Access

section

variable {α β : Type}

/-- The lookup is made: whatever its failure is, it is the answer. -/
def Consults (c : Readers → Check α) (r : Readers) (lookup : Lookup) : Prop :=
  ∀ failure, c (r.failing (lookup.only failure)) = .error (.lookup failure)

/-- With some lookups failing the answer is what it is without, or one of the failures as
it came. -/
def FailsClosed (c : Readers → Check α) : Prop :=
  ∀ (r : Readers) (fault : Lookup → Option Failure),
    c (r.failing fault) = c r
      ∨ ∃ lookup failure, fault lookup = some failure
          ∧ c (r.failing fault) = .error (.lookup failure)

/-- What is granted with some lookups failing is granted without. -/
def GainsNothing (c : Readers → Check α) : Prop :=
  ∀ (r : Readers) (fault : Lookup → Option Failure) (a : α),
    c (r.failing fault) = .ok a → c r = .ok a

/-- A computation that is put together from lookups. -/
structure IsInquiry (c : Readers → Check α) : Prop where
  failsClosed : FailsClosed c
  /-- The answer depends on nothing but the lookups that are made. -/
  congr : ∀ r r' : Readers, (∀ lookup, Consults c r lookup → r.AgreeOn r' lookup) → c r = c r'

theorem FailsClosed.gainsNothing {c : Readers → Check α} (h : FailsClosed c) : GainsNothing c := by
  intro r fault a hok
  rcases h r fault with heq | ⟨lookup, failure, -, herror⟩
  · rw [← heq, hok]
  · rw [hok] at herror
    cases herror

/-! ## What inquiries are made of -/

namespace IsInquiry

theorem const (result : Check α) : IsInquiry fun _ => result where
  failsClosed _ _ := .inl rfl
  congr _ _ _ := rfl

/-- A single lookup. -/
theorem ask {question : Readers → Except Failure α} (lookup : Lookup)
    (hfailing : ∀ r fault, question (r.failing fault) = Readers.orFail (fault lookup) (question r))
    (hagree : ∀ r r' : Readers, r.AgreeOn r' lookup → question r = question r') :
    IsInquiry fun r => look (question r) where
  failsClosed r fault := by
    cases hfault : fault lookup with
    | none => exact .inl (by simp only [hfailing, hfault, Readers.orFail])
    | some failure =>
        refine .inr ⟨lookup, failure, hfault, ?_⟩
        simp only [hfailing, hfault, Readers.orFail]
        rfl
  congr r r' h := by
    have hconsults : Consults (fun r => look (question r)) r lookup := by
      intro failure
      simp only [hfailing, Lookup.only, if_pos, Readers.orFail]
      rfl
    simp only [hagree r r' (h lookup hconsults)]

/-- One inquiry, and another that goes by its result. -/
theorem bind {c : Readers → Check α} {k : α → Readers → Check β} (hc : IsInquiry c)
    (hk : ∀ a, IsInquiry (k a)) : IsInquiry fun r => c r >>= fun a => k a r where
  failsClosed r fault := by
    rcases hc.failsClosed r fault with hfirst | ⟨lookup, failure, hfault, hfirst⟩
    · simp only [hfirst]
      cases hresult : c r with
      | error refusal => exact .inl rfl
      | ok a => exact (hk a).failsClosed r fault
    · exact .inr ⟨lookup, failure, hfault, by simp only [hfirst]; rfl⟩
  congr r r' h := by
    have hfirst : c r = c r' := by
      refine hc.congr r r' fun lookup hconsults => h lookup fun failure => ?_
      simp only [hconsults failure]
      rfl
    simp only [← hfirst]
    cases hresult : c r with
    | error refusal => rfl
    | ok a =>
        refine (hk a).congr r r' fun lookup hconsults => h lookup fun failure => ?_
        -- The first part may make the same lookup; then it is the first to fail.
        rcases hc.failsClosed r (lookup.only failure) with hsame | ⟨other, failure', hfault, hfail⟩
        · simp only [hsame, hresult]
          exact hconsults failure
        · obtain ⟨-, rfl⟩ : other = lookup ∧ failure = failure' := by
            simpa [Lookup.only] using hfault
          simp only [hfail]
          rfl

end IsInquiry

end

/-! ## The checks -/

variable (ctx : Context)

theorem isInquiry_project (id : ProjectId) : IsInquiry fun r => look (r.project id) :=
  .ask (.project id) (fun _ _ => rfl) fun _ _ h => h

theorem isInquiry_issue (id : IssueId) : IsInquiry fun r => look (r.issue id) :=
  .ask (.issue id) (fun _ _ => rfl) fun _ _ h => h

theorem isInquiry_members (team : TeamId) : IsInquiry fun r => look (r.members team) :=
  .ask (.members team) (fun _ _ => rfl) fun _ _ h => h

theorem isInquiry_principalTeams (user : UserId) : IsInquiry fun r => principalTeams r user :=
  .bind (.ask (.teamsOf user) (fun _ _ => rfl) fun _ _ h => h) fun _ => .const _

theorem isInquiry_readProject (id : ProjectId) : IsInquiry fun r => readProject r ctx id := by
  refine .bind (isInquiry_project id) fun project => ?_
  cases ctx.isSuperuser with
  | true => exact .const _
  | false =>
      cases project.team with
      | none => exact .const _
      | some team =>
          refine .bind (.const _) fun user => ?_
          exact .bind (isInquiry_principalTeams user) fun teams => .const _

theorem isInquiry_readIssue (id : IssueId) : IsInquiry fun r => readIssue r ctx id := by
  unfold readIssue
  cases ctx.isSuperuser with
  | true => exact .const _
  | false => exact .bind (isInquiry_issue id) fun issue => isInquiry_readProject ctx issue.project

theorem isInquiry_manageProject (id : ProjectId) (issueWork : Bool) :
    IsInquiry fun r => manageProject r ctx id issueWork := by
  refine .bind (isInquiry_project id) fun project => ?_
  cases ctx.isSuperuser with
  | true => exact .const _
  | false =>
      cases project.team with
      | none => exact .const _
      | some team =>
          refine .bind (.const _) fun user => ?_
          exact .bind (isInquiry_members team) fun members => .const _

theorem isInquiry_manageIssue (id : IssueId) : IsInquiry fun r => manageIssue r ctx id := by
  unfold manageIssue
  cases ctx.isSuperuser with
  | true => exact .const _
  | false =>
      exact .bind (isInquiry_issue id) fun issue => isInquiry_manageProject ctx issue.project true

theorem isInquiry_visibleProjects (projects : List Project) :
    IsInquiry fun r => visibleProjects r ctx projects := by
  unfold visibleProjects
  cases ctx.isSuperuser with
  | true => exact .const _
  | false =>
      refine .bind (.const _) fun user => ?_
      exact .bind (isInquiry_principalTeams user) fun teams => .const _

end Access

end TrackerGate
