import TrackerGate.Entity

/-!
# Readers

The questions that the checks put to the store, each of which may fail. A check
sees nothing of the store but the answers, so whatever is proved for all readers
holds for every store behind them. A row that does not exist is a `notFound`
failure; every other failure is the store's own and is carried on unchanged.

`Lookup` names the single questions. `Readers.failing` makes some of them fail and
leaves the others as they are.
-/

namespace TrackerGate

structure Readers where
  user : UserId → Except Failure User
  project : ProjectId → Except Failure Project
  projects : Except Failure (List Project)
  issue : IssueId → Except Failure Issue
  /-- The teams that a user is a member of. -/
  teamsOf : UserId → Except Failure (List Team)
  /-- The members of a team. -/
  members : TeamId → Except Failure (List Membership)
  teams : Except Failure (List Team)

inductive Lookup where
  | user (id : UserId)
  | project (id : ProjectId)
  | projects
  | issue (id : IssueId)
  | teamsOf (user : UserId)
  | members (team : TeamId)
  | teams
  deriving DecidableEq, Repr

namespace Lookup

/-- Whether the question is about teams or their members. -/
def isAboutTeams : Lookup → Bool
  | .teamsOf _ | .members _ | .teams => true
  | _ => false

end Lookup

namespace Readers

/-- The row that is there, or the failure that names what is not. -/
def found {α : Type} (entity : String) : Option α → Except Failure α
  | some a => .ok a
  | none => .error (.missing entity)

theorem found_eq_ok_iff {α : Type} {entity : String} {o : Option α} {a : α} :
    found entity o = .ok a ↔ o = some a := by
  cases o <;> simp [found]

/-- `answer`, unless the lookup fails. -/
def orFail {α : Type} (fault : Option Failure) (answer : Except Failure α) : Except Failure α :=
  match fault with
  | some f => .error f
  | none => answer

/-- `r`, with every lookup that `fault` names failing in the named way. -/
def failing (fault : Lookup → Option Failure) (r : Readers) : Readers where
  user id := orFail (fault (.user id)) (r.user id)
  project id := orFail (fault (.project id)) (r.project id)
  projects := orFail (fault .projects) r.projects
  issue id := orFail (fault (.issue id)) (r.issue id)
  teamsOf user := orFail (fault (.teamsOf user)) (r.teamsOf user)
  members team := orFail (fault (.members team)) (r.members team)
  teams := orFail (fault .teams) r.teams

theorem failing_none (r : Readers) : r.failing (fun _ => none) = r := rfl

end Readers

end TrackerGate
