import TrackerGate.Proofs.Access.Privilege
import TrackerGate.Proofs.Database.Integrity
import TrackerGate.Proofs.Gate.Admission

/-!
# What a deletion opens

A row that is deleted takes standing away from somebody, and it may also take away what
kept others out. `deletion_opens` says where the latter is possible: only a team that is
deleted opens anything, and then only projects that it owned and their issues, and not to
their managers' work, since a project without a team has no managers.

The other deletions leave rows that are covered by those before, so that no check passes
which did not (`Rows.Covers`). A deleted team is different, because its projects change, and
each of them is looked at on its own.
-/

namespace TrackerGate

/-! ## Questions of access -/

namespace Access

/-- A check, and the project or issue that it is made for. -/
inductive Query where
  | readProject (id : ProjectId)
  | manageProject (id : ProjectId) (issueWork : Bool)
  | readIssue (id : IssueId)
  | manageIssue (id : IssueId)
  deriving DecidableEq, Repr

namespace Query

def ask (r : Readers) (ctx : Context) : Query → Check Unit
  | .readProject id => Access.readProject r ctx id
  | .manageProject id issueWork => Access.manageProject r ctx id issueWork
  | .readIssue id => Access.readIssue r ctx id
  | .manageIssue id => Access.manageIssue r ctx id

/-- The standing that it takes to pass the check. -/
def Stands (r : Rows) (ctx : Context) : Query → Prop
  | .readProject id => r.MayRead ctx id
  | .manageProject id issueWork => r.MayManage ctx id ∨ (issueWork = true ∧ r.MayWorkOn ctx id)
  | .readIssue id => r.MayReadIssue ctx id
  | .manageIssue id => r.MayWorkOnIssue ctx id

theorem ask_eq_ok_iff {r : Rows} (hr : r.Valid) {ctx : Context} {query : Query} :
    query.ask r.readers ctx = .ok () ↔ query.Stands r ctx := by
  cases query with
  | readProject id => exact Rows.readProject_eq_ok_iff_mayRead hr
  | manageProject id issueWork => exact Rows.manageProject_eq_ok_iff_standing hr
  | readIssue id => exact Rows.readIssue_eq_ok_iff_mayReadIssue hr
  | manageIssue id => exact Rows.manageIssue_eq_ok_iff_mayWorkOnIssue hr

end Query

end Access

namespace Rows

/-- The project is there, and it is the team's. -/
def Owns (r : Rows) (team : TeamId) (id : ProjectId) : Prop :=
  ∃ p ∈ r.projects, p.id = id ∧ p.team = some team

end Rows

namespace Access

/-- What is asked for is a project of the team, or an issue of one. -/
def Query.IsAbout (r : Rows) (team : TeamId) : Query → Prop
  | .readProject id | .manageProject id _ => r.Owns team id
  | .readIssue id | .manageIssue id => ∃ i ∈ r.issues, i.id = id ∧ r.Owns team i.project

end Access

/-! ## Deletions -/

namespace Statement

def isDeletion : Statement → Bool
  | .deleteUser _ | .deleteTeam _ | .deleteMembership _ _ | .deleteProject _ | .deleteIssue _ =>
      true
  | _ => false

/-- Who asks, after the statement: a user who is deleted is nobody in particular. -/
def leaves (ctx : Context) : Statement → Context
  | .deleteUser (some user) => if ctx.user = some user then .anonymous else ctx
  | _ => ctx

end Statement

namespace Rows

variable {r : Rows} {ctx : Context}

/-! ## Deletions of which nothing gets wider -/

theorem Covers.stands {r' : Rows} {ctx' : Context} (h : r.Covers ctx r' ctx') {query : Access.Query}
    (hstands : query.Stands r ctx) : query.Stands r' ctx' := by
  cases query with
  | readProject id => exact h.mayRead hstands
  | manageProject id issueWork =>
      rcases hstands with hmanage | ⟨hwork, hmay⟩
      · exact .inl (h.mayManage hmanage)
      · exact .inr ⟨hwork, h.mayWorkOn hmay⟩
  | readIssue id => exact h.mayReadIssue hstands
  | manageIssue id => exact h.mayWorkOnIssue hstands

theorem covers_refl (r : Rows) (ctx : Context) : r.Covers ctx r ctx where
  projects := List.Subset.refl _
  issues := List.Subset.refl _
  user _ huser := huser
  superuser hsuper := hsuper
  role _ _ role _ hholds := ⟨role, hholds, Nat.le_refl _⟩

/-- Fewer rows, and the same asking. -/
theorem covers_of_subset {r' : Rows} (hmemberships : r'.memberships ⊆ r.memberships)
    (hprojects : r'.projects ⊆ r.projects) (hissues : r'.issues ⊆ r.issues) :
    r'.Covers ctx r ctx where
  projects := hprojects
  issues := hissues
  user _ huser := huser
  superuser hsuper := hsuper
  role _ _ role _ hholds := ⟨role, hmemberships hholds, Nat.le_refl _⟩

theorem covers_anonymous {r' : Rows} (hprojects : r'.projects ⊆ r.projects)
    (hissues : r'.issues ⊆ r.issues) : r'.Covers .anonymous r ctx where
  projects := hprojects
  issues := hissues
  user := nofun
  superuser := nofun
  role := nofun

theorem deleteUser_covers (id : UserId) :
    (r.deleteUser id).Covers (Statement.leaves ctx (.deleteUser (some id))) r ctx := by
  show Covers _ (if ctx.user = some id then .anonymous else ctx) _ _
  split
  · exact covers_anonymous (List.Subset.refl _) (List.Subset.refl _)
  · exact covers_of_subset (List.filter_subset_self _) (List.Subset.refl _) (List.Subset.refl _)

theorem deleting_covers {κ : Type} {delete : Rows → κ → Rows}
    (h : ∀ key, (delete r key).Covers ctx r ctx) (key : Option κ) :
    (deleting delete r key).Covers ctx r ctx := by
  cases key with
  | none => exact covers_refl r ctx
  | some key => exact h key

/-- Of all deletions, those of teams apart. -/
theorem covers_of_deletion {checksRoles : Bool} {r' : Rows} {s : Statement}
    (hs : s.isDeletion = true) (h : r.execute checksRoles s = .ok r')
    (hteam : ∀ team, s ≠ .deleteTeam (some team)) (ctx : Context) :
    r'.Covers (s.leaves ctx) r ctx := by
  cases s with
  | deleteUser id =>
      obtain rfl := Except.ok.inj h
      cases id with
      | none => exact covers_refl r ctx
      | some id => exact deleteUser_covers id
  | deleteTeam id =>
      obtain rfl := Except.ok.inj h
      cases id with
      | none => exact covers_refl r ctx
      | some team => exact absurd rfl (hteam team)
  | deleteMembership team user =>
      obtain rfl := Except.ok.inj h
      refine deleting_covers (fun key => ?_) _
      exact covers_of_subset (List.filter_subset_self _) (List.Subset.refl _) (List.Subset.refl _)
  | deleteProject id =>
      obtain rfl := Except.ok.inj h
      refine deleting_covers (fun id => ?_) id
      exact covers_of_subset (List.Subset.refl _) (List.filter_subset_self _)
        (List.filter_subset_self _)
  | deleteIssue id =>
      obtain rfl := Except.ok.inj h
      refine deleting_covers (fun id => ?_) id
      exact covers_of_subset (List.Subset.refl _) (List.Subset.refl _) (List.filter_subset_self _)
  | insertUser | insertTeam | insertMembership | insertProject | insertIssue | setUsername
  | setSuperuser | setRole | setTeam | moveIssue => cases hs

/-! ## The deletion of a team -/

theorem Holds.of_deleteTeam {id : TeamId} {user : UserId} {role : Role} {team : TeamId}
    (h : (r.deleteTeam id).Holds user role team) : r.Holds user role team :=
  List.mem_of_mem_filter h

/-- A project is the team's own, or it is as it was. -/
theorem mem_projects_deleteTeam {id : TeamId} {p : Project} (hp : p ∈ (r.deleteTeam id).projects) :
    (r.Owns id p.id ∧ p.team = none) ∨ p ∈ r.projects := by
  obtain ⟨old, hold, rfl⟩ := List.mem_map.mp hp
  unfold disowned
  split
  · next howned => exact .inl ⟨⟨old, hold, rfl, howned⟩, rfl⟩
  · exact .inr hold

theorem MayRead.of_deleteTeam {team : TeamId} {id : ProjectId}
    (h : (r.deleteTeam team).MayRead ctx id) : r.MayRead ctx id ∨ r.Owns team id := by
  obtain ⟨p, hp, rfl, hstanding⟩ := h
  rcases mem_projects_deleteTeam hp with ⟨howned, -⟩ | hold
  · exact .inr howned
  · refine .inl ⟨p, hold, rfl, ?_⟩
    rcases hstanding with hsuper | hteam | ⟨team, hteam, user, huser, role, hholds⟩
    · exact .inl hsuper
    · exact .inr (.inl hteam)
    · exact .inr (.inr ⟨team, hteam, user, huser, role, hholds.of_deleteTeam⟩)

theorem MayWorkOn.of_deleteTeam {team : TeamId} {id : ProjectId}
    (h : (r.deleteTeam team).MayWorkOn ctx id) : r.MayWorkOn ctx id ∨ r.Owns team id := by
  obtain ⟨p, hp, rfl, hstanding⟩ := h
  rcases mem_projects_deleteTeam hp with ⟨howned, -⟩ | hold
  · exact .inr howned
  · refine .inl ⟨p, hold, rfl, ?_⟩
    rcases hstanding with hsuper | hnobody | ⟨team, hteam, user, huser, role, hholds⟩
    · exact .inl hsuper
    · exact .inr (.inl hnobody)
    · exact .inr (.inr ⟨team, hteam, user, huser, role, hholds.of_deleteTeam⟩)

/-- A project that has lost its team is managed by superusers alone, who managed it before. -/
theorem MayManage.of_deleteTeam {team : TeamId} {id : ProjectId}
    (h : (r.deleteTeam team).MayManage ctx id) : r.MayManage ctx id := by
  obtain ⟨p, hp, rfl, hstanding⟩ := h
  rcases mem_projects_deleteTeam hp with ⟨⟨old, hold, hid, -⟩, hnone⟩ | hold
  · rcases hstanding with hsuper | ⟨owner, howner, -⟩
    · exact ⟨old, hold, hid, .inl hsuper⟩
    · rw [hnone] at howner
      cases howner
  · refine ⟨p, hold, rfl, ?_⟩
    rcases hstanding with hsuper | ⟨owner, howner, user, huser, hleads⟩
    · exact .inl hsuper
    · exact .inr ⟨owner, howner, user, huser,
        hleads.imp Holds.of_deleteTeam Holds.of_deleteTeam⟩

theorem stands_of_deleteTeam {team : TeamId} {query : Access.Query}
    (h : query.Stands (r.deleteTeam team) ctx) :
    query.Stands r ctx
      ∨ (query.IsAbout r team ∧ ∀ id, query ≠ .manageProject id false) := by
  cases query with
  | readProject id =>
      rcases MayRead.of_deleteTeam h with hmay | howned
      · exact .inl hmay
      · exact .inr ⟨howned, nofun⟩
  | manageProject id issueWork =>
      rcases h with hmanage | ⟨rfl, hwork⟩
      · exact .inl (.inl hmanage.of_deleteTeam)
      · rcases hwork.of_deleteTeam with hmay | howned
        · exact .inl (.inr ⟨rfl, hmay⟩)
        · exact .inr ⟨howned, nofun⟩
  | readIssue id =>
      rcases h with hsuper | ⟨i, hi, rfl, hread⟩
      · exact .inl (.inl hsuper)
      · rcases hread.of_deleteTeam with hmay | howned
        · exact .inl (.inr ⟨i, hi, rfl, hmay⟩)
        · exact .inr ⟨⟨i, hi, rfl, howned⟩, nofun⟩
  | manageIssue id =>
      rcases h with hsuper | ⟨i, hi, rfl, hwork⟩
      · exact .inl (.inl hsuper)
      · rcases hwork.of_deleteTeam with hmay | howned
        · exact .inl (.inr ⟨i, hi, rfl, hmay⟩)
        · exact .inr ⟨⟨i, hi, rfl, howned⟩, nofun⟩

/-- What was not open before is open because of a team that it belonged to. -/
theorem stands_of_deletion {checksRoles : Bool} {r' : Rows} {s : Statement}
    (hs : s.isDeletion = true) (h : r.execute checksRoles s = .ok r') {query : Access.Query}
    (hstands : query.Stands r' (s.leaves ctx)) :
    query.Stands r ctx
      ∨ ∃ team, s = .deleteTeam (some team) ∧ query.IsAbout r team
          ∧ ∀ id, query ≠ .manageProject id false := by
  by_cases hteam : ∃ team, s = .deleteTeam (some team)
  · obtain ⟨team, rfl⟩ := hteam
    obtain rfl := Except.ok.inj h
    rcases stands_of_deleteTeam hstands with hbefore | habout
    · exact .inl hbefore
    · exact .inr ⟨team, rfl, habout⟩
  · have hcovers := covers_of_deletion hs h (fun team hsame => hteam ⟨team, hsame⟩) ctx
    exact .inl (hcovers.stands hstands)

/-- Whether roles are checked makes no difference to a deletion. -/
theorem exists_execute_deletion (r : Rows) {s : Statement} (hs : s.isDeletion = true) :
    ∃ r', ∀ checksRoles, r.execute checksRoles s = .ok r' := by
  cases s with
  | deleteUser | deleteTeam | deleteMembership | deleteProject | deleteIssue =>
      exact ⟨_, fun _ => rfl⟩
  | insertUser | insertTeam | insertMembership | insertProject | insertIssue | setUsername
  | setSuperuser | setRole | setTeam | moveIssue => cases hs

/-! ## Who asks -/

theorem users_deleting {κ : Type} {delete : Rows → κ → Rows}
    (h : ∀ key, (delete r key).users = r.users) (key : Option κ) :
    (deleting delete r key).users = r.users := by
  cases key with
  | none => rfl
  | some key => exact h key

theorem principal?_of_users {r' : Rows} (h : r'.users = r.users) {settings : TokenSettings}
    {now : Nat} {request : Request} :
    r'.principal? settings now request = r.principal? settings now request := by
  simp only [principal?, h]

/-- Among the rows without the key `gone` a row is found if it is found among all rows and is
not the one that is gone. -/
theorem find?_filter_key {α κ : Type} [BEq κ] [LawfulBEq κ] {key : α → κ} (l : List α)
    (gone k : κ) :
    (l.filter (key · != gone)).find? (key · == k)
      = (l.find? (key · == k)).filter (key · != gone) := by
  rw [List.find?_filter]
  simp only [Bool.decide_and, Bool.decide_eq_true]
  by_cases hgone : k = gone
  · subst hgone
    have hnone : l.find? (fun a => key a != k && key a == k) = none :=
      List.find?_eq_none.mpr fun a _ => by simp
    rw [hnone]
    cases hfound : l.find? (key · == k) with
    | none => rfl
    | some a =>
        have hkey : key a = k := by simpa using List.find?_some hfound
        exact (Option.filter_some_neg (by simp [hkey])).symm
  · have hsame : (fun a => key a != gone && key a == k) = (key · == k) := by
      funext a
      by_cases hkey : key a = k
      · simp [hkey, hgone]
      · simp [hkey]
    rw [hsame]
    cases hfound : l.find? (key · == k) with
    | none => rfl
    | some a =>
        have hkey : key a = k := by simpa using List.find?_some hfound
        exact (Option.filter_some_pos (by simp [hkey, hgone])).symm

theorem principal?_deleteUser {id : UserId} {settings : TokenSettings} {now : Nat}
    {request : Request} :
    (r.deleteUser id).principal? settings now request
      = (r.principal? settings now request).filter (·.id != id) := by
  unfold principal?
  cases Bearer.token? request.headers with
  | none => rfl
  | some token =>
      simp only []
      cases Token.verify settings now .access token with
      | error fault => rfl
      | ok claims => exact find?_filter_key r.users id claims.subject

theorem ofCaller_deletion {checksRoles : Bool} {r' : Rows} {s : Statement}
    (hs : s.isDeletion = true) (h : r.execute checksRoles s = .ok r') (settings : TokenSettings)
    (now : Nat) (request : Request) :
    Context.ofCaller (r'.principal? settings now request)
      = s.leaves (.ofCaller (r.principal? settings now request)) := by
  cases s with
  | deleteUser id =>
      obtain rfl := Except.ok.inj h
      cases id with
      | none => rfl
      | some id =>
          rw [deleting, principal?_deleteUser]
          cases hprincipal : r.principal? settings now request with
          | none => rfl
          | some u =>
              show _ = if some u.id = some id then Context.anonymous else .ofCaller (some u)
              by_cases hgone : u.id = id
              · have hnobody : (some u).filter (fun u => u.id != id) = none :=
                  Option.filter_some_neg (by simpa using hgone)
                rw [hnobody, if_pos (congrArg some hgone)]
                rfl
              · have hstays : (some u).filter (fun u => u.id != id) = some u :=
                  Option.filter_some_pos (by simpa using hgone)
                rw [hstays, if_neg fun hsame => hgone (Option.some.inj hsame)]
  | deleteTeam | deleteMembership | deleteProject | deleteIssue =>
      obtain rfl := Except.ok.inj h
      rw [principal?_of_users (users_deleting (fun _ => rfl) _)]
      rfl
  | insertUser | insertTeam | insertMembership | insertProject | insertIssue | setUsername
  | setSuperuser | setRole | setTeam | moveIssue => cases hs

end Rows

namespace Database

variable {db : Database}

theorem Sound.execute_deletion (hdb : db.Sound) {s : Statement} (hs : s.isDeletion = true) :
    ∃ rows, db.rows.execute db.checksRoles s = .ok rows ∧ rows.Valid
      ∧ db.execute s = .ok { db with rows } := by
  have hhas (t : Table) : db.has t = true := by simp [has, hdb.complete, hdb.isOpen]
  have hdelete (t : Table) : db.canDelete t = true := by
    simp [canDelete, canReplace, canCascade, hhas]
  have hallows : db.allows s = true := by
    cases s with
    | deleteUser | deleteTeam | deleteMembership | deleteProject | deleteIssue => exact hdelete _
    | insertUser | insertTeam | insertMembership | insertProject | insertIssue | setUsername
    | setSuperuser | setRole | setTeam | moveIssue => cases hs
  obtain ⟨rows, hrows⟩ := db.rows.exists_execute_deletion hs
  exact ⟨rows, hrows db.checksRoles, hdb.valid.execute (hrows true),
    execute_eq_ok_iff.mpr ⟨hallows, rows, hrows db.checksRoles, rfl⟩⟩

/-- A deletion succeeds and leaves a user who is deleted as nobody in particular. Whatever it
opens to somebody, it opens because a team is deleted that what is asked for belonged to;
and it never opens the management of a project itself. -/
theorem deletion_opens (hdb : db.Sound) {s : Statement} (hs : s.isDeletion = true) :
    ∃ db', db.execute s = .ok db' ∧ db'.Sound
      ∧ (∀ settings now request,
          Context.ofCaller ((db'.gate settings now).caller request)
            = s.leaves (.ofCaller ((db.gate settings now).caller request)))
      ∧ ∀ (ctx : Context) (query : Access.Query),
          query.ask db'.readers (s.leaves ctx) = .ok () →
            query.ask db.readers ctx = .ok ()
              ∨ ∃ team, s = .deleteTeam (some team) ∧ query.IsAbout db.rows team
                  ∧ ∀ id, query ≠ .manageProject id false := by
  obtain ⟨rows, hrows, hvalid, hexecute⟩ := hdb.execute_deletion hs
  have hdb' : Sound { db with rows } := hdb.withRows hvalid
  refine ⟨_, hexecute, hdb', ?_, ?_⟩
  · intro settings now request
    rw [Gate.caller_gate hdb, Gate.caller_gate hdb']
    exact Rows.ofCaller_deletion hs hrows settings now request
  · intro ctx query hasked
    rw [hdb'.readers_eq, Access.Query.ask_eq_ok_iff hvalid] at hasked
    rw [hdb.readers_eq, Access.Query.ask_eq_ok_iff hdb.valid]
    exact Rows.stands_of_deletion hs hrows hasked

/-- The second team goes: its project is closed to nobody in particular before and open
after, and so to whoever asks; but what is opened is opened by this team's absence only. -/
theorem twoTeams_opened_by_deletion :
    Statement.isDeletion (.deleteTeam (some 8)) = true
      ∧ Access.readProject twoTeams.readers .anonymous 2 ≠ .ok ()
      ∧ ∃ db', twoTeams.execute (.deleteTeam (some 8)) = .ok db' ∧ db'.Sound
          ∧ Access.readProject db'.readers .anonymous 2 = .ok ()
          ∧ ∀ (ctx : Context) (query : Access.Query),
              query.ask db'.readers ctx = .ok () →
                query.ask twoTeams.readers ctx = .ok () ∨ query.IsAbout twoTeams.rows 8 := by
  have hdeletion : Statement.isDeletion (.deleteTeam (some 8)) = true := rfl
  refine ⟨hdeletion, by decide, ?_⟩
  obtain ⟨db', hexecute, hsound, -, hopens⟩ := deletion_opens sound_twoTeams hdeletion
  refine ⟨db', hexecute, hsound, ?_, ?_⟩
  · obtain rfl := Except.ok.inj hexecute
    rfl
  · intro ctx query hasked
    rcases hopens ctx query hasked with hbefore | ⟨team, hteam, habout, -⟩
    · exact .inl hbefore
    · obtain rfl : 8 = team := by simpa using hteam
      exact .inr habout

end Database

end TrackerGate
