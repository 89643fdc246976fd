import TrackerGate.Directory
import TrackerGate.Proofs.Access.Standing

/-!
# Lists of projects

A list of projects is filtered in bulk: the teams of whoever asks are looked up once, and every
project is held against them as it stands in the list. A single project is looked up, and the
teams after it. `visibleProjects_pointwise` says that the bulk filter is the single check made
for each entry, if no lookup fails and the entries are what the lookup of a project finds.

Whatever the lookups do, the bulk filter settles on one test before it sees the list
(`exists_test`). That is why it distributes over concatenation and does nothing more the second
time, also for lists that nobody would find.
-/

namespace TrackerGate

namespace Access

variable {r : Readers} {ctx : Context} {user : UserId}

/-! ## One test for a whole list -/

theorem visibleProjects_of_superuser (hsuper : ctx.isSuperuser = true) (projects : List Project) :
    visibleProjects r ctx projects = .ok projects := by
  unfold visibleProjects
  rw [if_pos hsuper]
  rfl

theorem visibleProjects_of_teams {teams : List Team} (hsuper : ctx.isSuperuser = false)
    (huser : ctx.user = some user) (hteams : r.teamsOf user = .ok teams)
    (projects : List Project) :
    visibleProjects r ctx projects = .ok (Project.visible (teams.map (·.id)) projects) := by
  have hprincipal : principal ctx = .ok user := principal_eq_ok_iff.mpr huser
  have hids : principalTeams r user = .ok (teams.map (·.id)) :=
    principalTeams_eq_ok_iff.mpr ⟨teams, hteams, rfl⟩
  unfold visibleProjects
  rw [hsuper, if_neg Bool.false_ne_true, hprincipal]
  show (principalTeams r user >>= fun teams => pure (Project.visible teams projects)) = _
  rw [hids]
  rfl

/-- Either every list is refused, and for the same reason, or every list is filtered with the
same test. -/
theorem exists_test (r : Readers) (ctx : Context) :
    (∃ refusal, ∀ projects, visibleProjects r ctx projects = .error refusal)
      ∨ ∃ test : Project → Bool, ∀ projects,
          visibleProjects r ctx projects = .ok (projects.filter test) := by
  cases hsuper : ctx.isSuperuser with
  | true =>
      refine .inr ⟨fun _ => true, fun projects => ?_⟩
      rw [visibleProjects_of_superuser hsuper, List.filter_true]
  | false =>
      cases huser : ctx.user with
      | none =>
          refine .inl ⟨.noPrincipal, fun projects => ?_⟩
          simp only [visibleProjects, hsuper, principal, huser]
          rfl
      | some user =>
          cases hteams : r.teamsOf user with
          | error f =>
              refine .inl ⟨.lookup f, fun projects => ?_⟩
              have hlook : look (r.teamsOf user) = .error (.lookup f) := by
                rw [hteams]
                rfl
              simp only [visibleProjects, hsuper, principal, huser, principalTeams, hlook, bind,
                Except.bind, Bool.false_eq_true, if_false]
          | ok teams =>
              refine .inr ⟨Project.isVisibleTo (teams.map (·.id)), fun projects => ?_⟩
              exact visibleProjects_of_teams hsuper huser hteams projects

/-- What has been filtered is not filtered any further. -/
theorem visibleProjects_idem (r : Readers) (ctx : Context) (projects : List Project) :
    (visibleProjects r ctx projects >>= visibleProjects r ctx)
      = visibleProjects r ctx projects := by
  rcases exists_test r ctx with ⟨refusal, hrefused⟩ | ⟨test, hfiltered⟩
  · rw [hrefused]
    rfl
  · rw [hfiltered]
    show visibleProjects r ctx (projects.filter test) = _
    rw [hfiltered, List.filter_filter]
    simp only [Bool.and_self]

theorem visibleProjects_append (r : Readers) (ctx : Context) (front back : List Project) :
    visibleProjects r ctx (front ++ back)
      = do
        let seenFront ← visibleProjects r ctx front
        let seenBack ← visibleProjects r ctx back
        return seenFront ++ seenBack := by
  rcases exists_test r ctx with ⟨refusal, hrefused⟩ | ⟨test, hfiltered⟩
  · rw [hrefused, hrefused front]
    rfl
  · rw [hfiltered, hfiltered front, hfiltered back, List.filter_append]
    rfl

/-! ## The test of a single project -/

/-- The test that a list is filtered with is the check of what is found under an entry's
number. -/
theorem isVisibleTo_eq_isOk {teams : List Team} (hsuper : ctx.isSuperuser = false)
    (huser : ctx.user = some user) (hteams : r.teamsOf user = .ok teams) {p : Project}
    (hp : r.project p.id = .ok p) :
    p.isVisibleTo (teams.map (·.id)) = (readProject r ctx p.id).isOk := by
  have hisOk : (readProject r ctx p.id).isOk = true ↔ readProject r ctx p.id = .ok () := by
    cases readProject r ctx p.id with
    | error refusal => exact ⟨nofun, nofun⟩
    | ok u => exact ⟨fun _ => rfl, fun _ => rfl⟩
  rw [Bool.eq_iff_iff, hisOk, readProject_eq_ok_iff]
  constructor
  · intro hvisible
    refine ⟨p, hp, .inr ?_⟩
    cases hteam : p.team with
    | none => exact .inl rfl
    | some team =>
        rw [Project.isVisibleTo, hteam] at hvisible
        exact .inr ⟨team, rfl, user, huser, teams, hteams, List.contains_iff_mem.mp hvisible⟩
  · rintro ⟨p', hp', hstanding⟩
    obtain rfl := Except.ok.inj (hp.symm.trans hp')
    rcases hstanding with hroot | hteam | ⟨team, hteam, user', huser', teams', hteams', hmember⟩
    · rw [hsuper] at hroot
      cases hroot
    · rw [Project.isVisibleTo, hteam]
    · obtain rfl := Option.some.inj (huser.symm.trans huser')
      obtain rfl := Except.ok.inj (hteams.symm.trans hteams')
      rw [Project.isVisibleTo, hteam]
      exact List.contains_iff_mem.mpr hmember

/-- For somebody who is known and whose teams can be read, a list of projects that are what the
lookup of a project finds is filtered by the check of each single one: the entries that may be
read stay, in their order and as often as they stand there. What is filtered is not filtered
further, and a list may be filtered part by part. -/
theorem visibleProjects_pointwise {r : Readers} {ctx : Context} {user : UserId}
    (huser : ctx.user = some user) (hteams : ∃ teams, r.teamsOf user = .ok teams)
    {projects : List Project} (hlisted : ∀ p ∈ projects, r.project p.id = .ok p) :
    visibleProjects r ctx projects
        = .ok (projects.filter fun p => (readProject r ctx p.id).isOk)
      ∧ (visibleProjects r ctx projects >>= visibleProjects r ctx)
          = visibleProjects r ctx projects
      ∧ ∀ front back, visibleProjects r ctx (front ++ back)
          = do
            let seenFront ← visibleProjects r ctx front
            let seenBack ← visibleProjects r ctx back
            return seenFront ++ seenBack := by
  refine ⟨?_, visibleProjects_idem r ctx projects, visibleProjects_append r ctx⟩
  cases hsuper : ctx.isSuperuser with
  | true =>
      have hall : ∀ p ∈ projects, (readProject r ctx p.id).isOk = true := by
        intro p hp
        have hread : readProject r ctx p.id = .ok () :=
          readProject_eq_ok_iff.mpr ⟨p, hlisted p hp, .inl hsuper⟩
        rw [hread]
        rfl
      rw [visibleProjects_of_superuser hsuper, List.filter_eq_self.mpr hall]
  | false =>
      obtain ⟨teams, hteams⟩ := hteams
      rw [visibleProjects_of_teams hsuper huser hteams, Project.visible]
      refine congrArg Except.ok (List.filter_congr fun p hp => ?_)
      exact isVisibleTo_eq_isOk hsuper huser hteams (hlisted p hp)

end Access

/-! ## A directory with repeated numbers -/

/-- Two projects have the number 1, of which the first is found; the team 7 is listed twice. -/
def Directory.repeating : Directory where
  teams := [⟨7, "red"⟩, ⟨8, "blue"⟩, ⟨7, "crimson"⟩]
  members := [⟨7, 5, .member⟩, ⟨8, 6, .owner⟩]
  projects := [⟨1, "site", some 7⟩, ⟨1, "attic", some 8⟩, ⟨2, "vault", some 8⟩, ⟨3, "wiki", none⟩]
  issues := []
  teamsOf := []
  faults := []

/-- The member of one team filters a list in which a project of the team stands twice, in front
of and behind another team's. -/
theorem repeating_visibleProjects :
    let projects : List Project :=
      [⟨1, "site", some 7⟩, ⟨2, "vault", some 8⟩, ⟨3, "wiki", none⟩, ⟨1, "site", some 7⟩]
    (∀ p ∈ projects, Directory.repeating.readers.project p.id = .ok p)
      ∧ Access.visibleProjects Directory.repeating.readers (.forUser 5 false) projects
          = .ok [⟨1, "site", some 7⟩, ⟨3, "wiki", none⟩, ⟨1, "site", some 7⟩] := by
  intro projects
  have hlisted : ∀ p ∈ projects, Directory.repeating.readers.project p.id = .ok p := by
    intro p hp
    simp only [projects, List.mem_cons, List.not_mem_nil, or_false] at hp
    rcases hp with rfl | rfl | rfl | rfl
    all_goals rfl
  refine ⟨hlisted, ?_⟩
  rw [(Access.visibleProjects_pointwise rfl ⟨_, rfl⟩ hlisted).1]
  rfl

end TrackerGate
