import TrackerGate.Proofs.Gate.Passage

/-!
# Who is admitted

The gate in front of a sound database, told in terms of rows. `Rows.Admits` says what
takes a request to its handler: a path that can be read, and for what it names the
standing that the method asks for. It knows nothing of stages, of lookups and their
order, or of what a token says beyond its subject. `exists_result_run_eq_ok_iff_admits`
shows that the five stages come to the same.

The two halves meet in the middle. `Passage` takes a run apart into guards that a caller
clears, and `Standing` takes the check of a guard to rows. What is left to do here is to
find the caller in the rows, and to tell for which requests a guard is waived.
-/

namespace TrackerGate

/-! ## The principal -/

/-- The gate in front of a database. -/
def Database.gate (db : Database) (settings : TokenSettings) (now : Nat) : Gate where
  settings
  readers := db.readers
  now

/-- The row of the user whom a request's access token names, whatever else it says;
nobody without a token that is good, and nobody if the row is gone. -/
def Rows.principal? (r : Rows) (settings : TokenSettings) (now : Nat) (request : Request) :
    Option User :=
  match Bearer.token? request.headers with
  | none => none
  | some token =>
      match Token.verify settings now .access token with
      | .error _ => none
      | .ok claims => r.users.find? (·.id == claims.subject)

namespace Gate

theorem caller_gate {db : Database} (hdb : db.Sound) (settings : TokenSettings) (now : Nat)
    (request : Request) :
    (db.gate settings now).caller request = db.rows.principal? settings now request := by
  unfold caller Rows.principal?
  cases Bearer.token? request.headers with
  | none => rfl
  | some token =>
      simp only [Option.bind_some, principal, Database.gate, hdb.readers_eq]
      cases Token.verify settings now .access token with
      | error fault => rfl
      | ok claims =>
          show (Readers.found "user" (db.rows.users.find? (·.id == claims.subject))).toOption
            = db.rows.users.find? (·.id == claims.subject)
          cases db.rows.users.find? (·.id == claims.subject) <;> rfl

end Gate

/-! ## What admits a request -/

/-- What takes a request of whoever asks to its handler. -/
structure Rows.Admits (r : Rows) (ctx : Context) (method : Method) (path : ResourcePath) :
    Prop where
  readable : ∀ marker, path.IsReadable marker
  project : ∀ id, path.Names .projects id → r.MayRead ctx id
  /-- A project's statistics are only read, whatever the method. -/
  projectChange : ∀ id, path.Names .projects id → method ≠ .get → method ≠ .head →
    path.after .projects 2 ≠ some "stats" →
      r.MayManage ctx id ∨ (path.isIssueManagement = true ∧ r.MayWorkOn ctx id)
  issue : ∀ id, path.Names .issues id → r.MayReadIssue ctx id
  issueChange : ∀ id, path.Names .issues id → method ≠ .get → method ≠ .head →
    r.MayWorkOnIssue ctx id

/-! ## Waived guards -/

theorem Method.isReadOnly_eq_true_iff {method : Method} (hmethod : method ≠ .options) :
    method.isReadOnly = true ↔ method = .get ∨ method = .head := by
  simp [isReadOnly, hmethod]

namespace Guard

variable {method : Method} {path : ResourcePath}

theorem isWaived_projectManagement_iff (hmethod : method ≠ .options) :
    projectManagement.isWaived method path = true
      ↔ method = .get ∨ method = .head ∨ path.after .projects 2 = some "stats" := by
  simp [isWaived, isManagement, Method.isReadOnly_eq_true_iff hmethod,
    ResourcePath.isProjectStats, ResourcePath.projectSubResource, or_assoc]

theorem isWaived_issueManagement_iff (hmethod : method ≠ .options) :
    issueManagement.isWaived method path = true ↔ method = .get ∨ method = .head := by
  simp [isWaived, isManagement, Method.isReadOnly_eq_true_iff hmethod]

end Guard

/-! ## Admission -/

namespace Rows

variable {r : Rows} {method : Method} {path : ResourcePath} {ctx : Context}

/-- Behind valid rows all guards are cleared by those whom the rows admit. -/
theorem clears_iff_admits (hr : r.Valid) (hmethod : method ≠ .options) :
    (∀ guard : Guard, guard.Clears r.readers method path ctx) ↔ r.Admits ctx method path := by
  constructor
  · intro h
    obtain ⟨hprojects, hproject⟩ := (Guard.clears_access_iff rfl).mp (h .projectAccess)
    obtain ⟨hissues, hissue⟩ := (Guard.clears_access_iff rfl).mp (h .issueAccess)
    refine ⟨?_, ?_, ?_, ?_, ?_⟩
    · rintro (_ | _)
      · exact hprojects
      · exact hissues
    · exact fun id hid => (readProject_eq_ok_iff_mayRead hr).mp (hproject id hid)
    · intro id hid hget hhead hstats
      rcases Guard.clears_iff.mp (h .projectManagement) with hwaived | ⟨-, hmanage⟩
      · rcases (Guard.isWaived_projectManagement_iff hmethod).mp hwaived with hm | hm | hs
        · exact absurd hm hget
        · exact absurd hm hhead
        · exact absurd hs hstats
      · exact (manageProject_eq_ok_iff_standing hr).mp (hmanage id hid)
    · exact fun id hid => (readIssue_eq_ok_iff_mayReadIssue hr).mp (hissue id hid)
    · intro id hid hget hhead
      rcases Guard.clears_iff.mp (h .issueManagement) with hwaived | ⟨-, hmanage⟩
      · rcases (Guard.isWaived_issueManagement_iff hmethod).mp hwaived with hm | hm
        · exact absurd hm hget
        · exact absurd hm hhead
      · exact (manageIssue_eq_ok_iff_mayWorkOnIssue hr).mp (hmanage id hid)
  · intro h guard
    rw [Guard.clears_iff]
    by_cases hwaived : guard.isWaived method path = true
    · exact .inl hwaived
    · refine .inr ⟨h.readable guard.marker, fun id hid => ?_⟩
      cases guard with
      | projectAccess => exact (readProject_eq_ok_iff_mayRead hr).mpr (h.project id hid)
      | projectManagement =>
          rw [Guard.isWaived_projectManagement_iff hmethod, not_or, not_or] at hwaived
          obtain ⟨hget, hhead, hstats⟩ := hwaived
          exact (manageProject_eq_ok_iff_standing hr).mpr
            (h.projectChange id hid hget hhead hstats)
      | issueAccess => exact (readIssue_eq_ok_iff_mayReadIssue hr).mpr (h.issue id hid)
      | issueManagement =>
          rw [Guard.isWaived_issueManagement_iff hmethod, not_or] at hwaived
          exact (manageIssue_eq_ok_iff_mayWorkOnIssue hr).mpr
            (h.issueChange id hid hwaived.1 hwaived.2)

end Rows

namespace Database

/-- A request gets past all stages in front of a sound database if and only if the rows
admit it for the principal that they know. -/
theorem exists_result_run_eq_ok_iff_admits {db : Database} (hdb : db.Sound)
    (settings : TokenSettings) (now : Nat) {request : Request}
    (hmethod : request.method ≠ .options) :
    (∃ ctx, ((db.gate settings now).run request).result = .ok ctx)
      ↔ db.rows.Admits (.ofCaller (db.rows.principal? settings now request)) request.method
          (.ofText request.path) := by
  rw [← Rows.clears_iff_admits hdb.valid hmethod, ← Gate.caller_gate hdb, ← hdb.readers_eq]
  constructor
  · rintro ⟨ctx, hrun⟩
    exact (Gate.result_run_eq_ok_iff.mp hrun).1
  · intro hclears
    exact ⟨_, Gate.result_run_eq_ok_iff.mpr ⟨hclears, rfl⟩⟩

/-- Anybody may read a project without a team, and nobody may delete it. -/
theorem twoTeams_admits_only_readers :
    twoTeams.Sound
      ∧ (∃ ctx, ((twoTeams.gate (.withSecret (.ofText "k")) 1000).run
          ⟨.get, "/api/projects/3", [], []⟩).result = .ok ctx)
      ∧ ¬ ∃ ctx, ((twoTeams.gate (.withSecret (.ofText "k")) 1000).run
          ⟨⟨"DELETE"⟩, "/api/projects/3", [], []⟩).result = .ok ctx := by
  have hproject : (ResourcePath.ofText "/api/projects/3").named .projects = some 3 := rfl
  have hissue : (ResourcePath.ofText "/api/projects/3").named .issues = none := rfl
  refine ⟨sound_twoTeams, ?_, ?_⟩
  · rw [exists_result_run_eq_ok_iff_admits sound_twoTeams _ _ (by decide)]
    refine ⟨?_, fun id hid => ?_, fun _ _ hget => absurd rfl hget, fun id hid => ?_,
      fun _ _ hget => absurd rfl hget⟩
    · rintro (_ | _) segment hsegment
      · exact .inr ⟨3, Option.some.inj hsegment ▸ rfl⟩
      · cases hsegment
    · rw [← ResourcePath.named_eq_some_iff, hproject] at hid
      obtain rfl := Option.some.inj hid
      exact ⟨⟨3, "wiki", none⟩, by decide, rfl, .inr (.inl rfl)⟩
    · rw [← ResourcePath.named_eq_some_iff, hissue] at hid
      cases hid
  · rw [exists_result_run_eq_ok_iff_admits sound_twoTeams _ _ (by decide)]
    intro h
    rcases h.projectChange 3 (ResourcePath.named_eq_some_iff.mp hproject) (by decide) (by decide)
      (by decide) with ⟨p, hp, hid, hsuper | ⟨team, hteam, -⟩⟩ | ⟨hwork, -⟩
    · cases hsuper
    · have hnobody : ∀ p ∈ twoTeams.rows.projects, p.id = 3 → p.team = none := by decide
      rw [Option.mem_def, hnobody p hp hid] at hteam
      cases hteam
    · cases hwork

end Database

end TrackerGate
