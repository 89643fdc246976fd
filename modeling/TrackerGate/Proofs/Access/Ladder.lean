import TrackerGate.Proofs.Database.History

/-!
# The ladder of rights

Reading a project asks for the teams of a user and looks for the owning team among them.
Work on the project's issues asks for the members of the owning team and looks for the
user. `Database.workMatchesRead` says that behind a database that keeps its promises the two
answers are one, failures included, for everybody who is known. The rights then form a
ladder: who manages may work, and who works may read, and the same for an issue.

All of it rests on one thing that the rows give: the two lookups are always answered, and
they tell the same memberships (`Readers.Concordant`). Of nobody in particular the two checks
do not say the same, since whatever has no owner may be read by nobody in particular, and
only a principal may work on it.
-/

namespace TrackerGate

/-! ## Two ways to ask about a membership -/

/-- The teams of a user and the members of a team can always be read, and they tell the
same. -/
def Readers.Concordant (r : Readers) : Prop :=
  ∀ team user, ∃ members teams,
    r.members team = .ok members ∧ r.teamsOf user = .ok teams
      ∧ (team ∈ teams.map (·.id) ↔ (Membership.roleOf members user).isSome = true)

theorem Database.Sound.concordant {db : Database} (hdb : db.Sound) : db.readers.Concordant := by
  intro team user
  obtain ⟨members, teams, hmembers, hteams, -, hiff, -⟩ := hdb.coherent.readers_agree team user
  exact ⟨members, teams, hmembers, hteams, hiff⟩

namespace Access

/-! ## What a check answers -/

section

variable {α β : Type}

/-- What a check answers. Why somebody is turned away is for the log alone. -/
def answer (check : Check α) : Except Failure α := check.mapError Refusal.failure

theorem answer_eq_ok_iff {check : Check α} {a : α} : answer check = .ok a ↔ check = .ok a :=
  mapError_eq_ok_iff

/-- Two checks that begin alike answer alike if they go on alike. -/
theorem answer_bind_congr {check : Check α} {k k' : α → Check β}
    (h : ∀ a, answer (k a) = answer (k' a)) : answer (check >>= k) = answer (check >>= k') := by
  cases check with
  | error refusal => rfl
  | ok a => exact h a

end

/-! ## Reading and working on issues -/

variable {r : Readers} {ctx : Context} {user : UserId}

/-- Somebody who is known may work on the issues of a project if they may read it, and is
otherwise turned away from both in the same words. -/
theorem answer_manageProject (hr : r.Concordant) (huser : ctx.user = some user) (id : ProjectId) :
    answer (manageProject r ctx id true) = answer (readProject r ctx id) := by
  refine answer_bind_congr fun p => ?_
  have hprincipal : principal ctx = .ok user := principal_eq_ok_iff.mpr huser
  cases ctx.isSuperuser with
  | true => rfl
  | false =>
      cases p.team with
      | none =>
          simp only [hprincipal]
          rfl
      | some team =>
          obtain ⟨members, teams, hmembers, hteams, hiff⟩ := hr team user
          have hreads : principalTeams r user = .ok (teams.map (·.id)) :=
            principalTeams_eq_ok_iff.mpr ⟨teams, hteams, rfl⟩
          have hworks : look (r.members team) = .ok members := look_eq_ok_iff.mpr hmembers
          have hsame : (teams.map (·.id)).contains team
              = (Membership.roleOf members user).isSome := by
            rw [Bool.eq_iff_iff, List.contains_iff_mem]
            exact hiff
          simp only [hprincipal, hreads, hworks, hsame, bind, Except.bind]
          cases Membership.roleOf members user with
          | none => rfl
          | some role => simp

theorem answer_manageIssue (hr : r.Concordant) (huser : ctx.user = some user) (id : IssueId) :
    answer (manageIssue r ctx id) = answer (readIssue r ctx id) := by
  unfold manageIssue readIssue
  cases ctx.isSuperuser with
  | true => rfl
  | false => exact answer_bind_congr fun issue => answer_manageProject hr huser issue.project

/-! ## The rungs -/

/-- What is enough to manage a project is enough to work on its issues, whatever the lookups
find. -/
theorem manageProject_relaxed {id : ProjectId} (h : manageProject r ctx id false = .ok ()) :
    manageProject r ctx id true = .ok () := by
  obtain ⟨p, hp, hstanding⟩ := manageProject_eq_ok_iff.mp h
  refine manageProject_eq_ok_iff.mpr ⟨p, hp, ?_⟩
  rcases hstanding with hsuper | ⟨-, hwork, -⟩ | ⟨team, hteam, user, huser, members, hmembers, role,
    hrole, -⟩
  · exact .inl hsuper
  · cases hwork
  · exact .inr (.inr ⟨team, hteam, user, huser, members, hmembers, role, hrole, .inr rfl⟩)

theorem readProject_of_manageProject (hr : r.Concordant) {id : ProjectId}
    (h : manageProject r ctx id true = .ok ()) : readProject r ctx id = .ok () := by
  cases huser : ctx.user with
  | some user =>
      have hsame := answer_manageProject hr huser id
      rw [answer_eq_ok_iff.mpr h] at hsame
      exact answer_eq_ok_iff.mp hsame.symm
  | none =>
      -- Only a superuser gets past a check of work without being anybody.
      obtain ⟨p, hp, hstanding⟩ := manageProject_eq_ok_iff.mp h
      refine readProject_eq_ok_iff.mpr ⟨p, hp, ?_⟩
      rcases hstanding with hsuper | ⟨-, -, user, hknown⟩ | ⟨-, -, user, hknown, -⟩
      · exact .inl hsuper
      · exact absurd (huser.symm.trans hknown) nofun
      · exact absurd (huser.symm.trans hknown) nofun

theorem readIssue_of_manageIssue (hr : r.Concordant) {id : IssueId}
    (h : manageIssue r ctx id = .ok ()) : readIssue r ctx id = .ok () := by
  rcases manageIssue_eq_ok_iff.mp h with hsuper | ⟨i, hi, hwork⟩
  · exact readIssue_eq_ok_iff.mpr (.inl hsuper)
  · exact readIssue_eq_ok_iff.mpr (.inr ⟨i, hi, readProject_of_manageProject hr hwork⟩)

/-- Whoever is known may work on what they may read, and is otherwise told the same; and for
anybody a higher right brings the lower ones, on any project and any issue. -/
structure WorkMatchesRead (r : Readers) (ctx : Context) : Prop where
  project_same : ctx.isAuthenticated = true → ∀ id,
    answer (manageProject r ctx id true) = answer (readProject r ctx id)
  issue_same : ctx.isAuthenticated = true → ∀ id,
    answer (manageIssue r ctx id) = answer (readIssue r ctx id)
  work_of_manage : ∀ id,
    answer (manageProject r ctx id false) = .ok () → answer (manageProject r ctx id true) = .ok ()
  read_of_work : ∀ id,
    answer (manageProject r ctx id true) = .ok () → answer (readProject r ctx id) = .ok ()
  readIssue_of_manageIssue : ∀ id,
    answer (manageIssue r ctx id) = .ok () → answer (readIssue r ctx id) = .ok ()

end Access

/-! ## Behind a database -/

namespace Database

/-- Behind a sound database, reading and work on issues are answered alike for everybody who
is known, on projects and on issues, whether they are there or not; and for anybody at all a
higher right brings the lower ones. -/
theorem workMatchesRead {db : Database} (hdb : db.Sound) (ctx : Context) :
    Access.WorkMatchesRead db.readers ctx := by
  have hr := hdb.concordant
  constructor
  · intro hknown id
    obtain ⟨user, huser⟩ := Option.isSome_iff_exists.mp hknown
    exact Access.answer_manageProject hr huser id
  · intro hknown id
    obtain ⟨user, huser⟩ := Option.isSome_iff_exists.mp hknown
    exact Access.answer_manageIssue hr huser id
  · intro id h
    exact Access.answer_eq_ok_iff.mpr (Access.manageProject_relaxed (Access.answer_eq_ok_iff.mp h))
  · intro id h
    exact Access.answer_eq_ok_iff.mpr
      (Access.readProject_of_manageProject hr (Access.answer_eq_ok_iff.mp h))
  · intro id h
    exact Access.answer_eq_ok_iff.mpr
      (Access.readIssue_of_manageIssue hr (Access.answer_eq_ok_iff.mp h))

/-- A plain member of one team may work on the issues of its project without managing it, is
turned away from the other team's issue as they are from reading it, and hears of a project
that is not there in the same words from both. -/
theorem twoTeams_workMatchesRead :
    twoTeams.Sound
      ∧ Access.answer (Access.manageProject twoTeams.readers (.forUser 5 false) 1 true) = .ok ()
      ∧ Access.answer (Access.manageProject twoTeams.readers (.forUser 5 false) 1 false)
          = .error .permissionDenied
      ∧ Access.answer (Access.manageIssue twoTeams.readers (.forUser 5 false) 20)
          = .error .permissionDenied
      ∧ Access.answer (Access.manageProject twoTeams.readers (.forUser 5 false) 4 true)
          = .error (.missing "project") := by
  have hmatches := workMatchesRead sound_twoTeams (.forUser 5 false)
  refine ⟨sound_twoTeams, ?_, by decide, ?_, ?_⟩
  · rw [hmatches.project_same rfl 1]
    decide
  · rw [hmatches.issue_same rfl 20]
    decide
  · rw [hmatches.project_same rfl 4]
    decide

end Database

end TrackerGate
