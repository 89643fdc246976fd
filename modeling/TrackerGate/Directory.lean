import TrackerGate.Decimal
import TrackerGate.Readers

/-!
# Directories in memory

A store that is nothing but lists, for uses that need no database. Lists keep their
order and may repeat a key; the first row of a key counts. The teams of a user follow
from the memberships unless they are given outright, and then the last word counts.
Lookups may be made to fail, by the name of what they read.
-/

namespace TrackerGate

/-- The name of what a lookup reads. Only members are told apart by their team. -/
def Lookup.source : Lookup → String
  | .user _ => "user"
  | .project _ => "project"
  | .projects => "project_list"
  | .issue _ => "issue"
  | .teamsOf _ => "user_teams"
  | .members team => "members:" ++ Decimal.ofInt team.toInt
  | .teams => "team_list"

structure Directory where
  teams : List Team
  members : List Membership
  projects : List Project
  issues : List Issue
  /-- The teams of those users for whom they are given outright. -/
  teamsOf : List (UserId × List TeamId)
  /-- What cannot be read, and how reading it fails. -/
  faults : List (String × Failure)
  deriving DecidableEq, Repr

namespace Directory

def empty : Directory := ⟨[], [], [], [], [], []⟩

instance : Inhabited Directory := ⟨empty⟩

def teamIdsOf (d : Directory) (user : UserId) : List TeamId :=
  match d.teamsOf.reverse.find? (·.1 == user) with
  | some (_, teams) => teams
  | none => (d.members.filter (·.user == user)).map (·.team)

/-- What the lists answer. Nobody asks them for users. -/
def answers (d : Directory) : Readers where
  user _ := .error (.missing "user")
  project id := Readers.found "project" (d.projects.find? (·.id == id))
  projects := .ok d.projects
  issue id := Readers.found "issue" (d.issues.find? (·.id == id))
  teamsOf user :=
    let ids := d.teamIdsOf user
    .ok (d.teams.filter fun t => ids.contains t.id)
  members team := .ok (d.members.filter (·.team == team))
  teams := .ok d.teams

def fault (d : Directory) (lookup : Lookup) : Option Failure := d.faults.lookup lookup.source

def readers (d : Directory) : Readers := d.answers.failing d.fault

end Directory

end TrackerGate
