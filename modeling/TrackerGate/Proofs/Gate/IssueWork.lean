import TrackerGate.Proofs.Gate.Admission
import TrackerGate.Proofs.Gate.Presented
import TrackerGate.Proofs.Token.Issued

/-!
# Work on the issues of a project

A request for one issue below its project is let past the project's managers: any member
of the team may make it, because the issue is checked next. Which issue that is, though,
is read off twice. The relaxation goes by the third segment behind the first `projects`,
and the issue guards go by the segment behind the first `issues`. An `issues` in front of
the first `projects` parts the two.

`isBacked_iff` says when an admitted request has been checked for the issue that earned it
the relaxation: exactly if both places spell the same identifier. That is so whenever
`projects` comes first, as in every path of the documented form.
`exists_admitted_not_isBacked` is a path of another form, on which somebody works on an
issue of a team that they are no member of.
-/

namespace TrackerGate

/-! ## The two places -/

namespace ResourcePath

variable {p : ResourcePath} {id : Int64}

theorem dropWhile_eq_cons_of_after {marker : Marker} {offset : Nat} {segment : String}
    (h : p.after marker offset = some segment) :
    ∃ rest, p.segments.dropWhile (· != marker.word) = marker.word :: rest := by
  rw [after] at h
  cases hdrop : p.segments.dropWhile (· != marker.word) with
  | nil => simp [hdrop] at h
  | cons first rest =>
      have hne : p.segments.dropWhile (· != marker.word) ≠ [] := by simp [hdrop]
      have hfirst := List.head_dropWhile_not (· != marker.word) hne
      simp only [hdrop, List.head_cons, bne_eq_false_iff_eq] at hfirst
      exact ⟨rest, by rw [hfirst]⟩

theorem isIssueManagement_iff :
    p.isIssueManagement = true
      ↔ p.after .projects 2 = some "issues"
        ∧ ∃ segment, p.after .projects 3 = some segment ∧ segment ∉ Marker.issues.placeholders := by
  simp only [isIssueManagement, projectSubResource, Marker.word, Bool.and_eq_true, beq_iff_eq,
    Option.any_eq_true, Bool.not_eq_true', List.contains_eq_mem, decide_eq_false_iff_not]

/-- With no `issues` in front of the first `projects` the two places are one. -/
theorem after_issues_eq_after_projects (hproject : p.Names .projects id)
    (hsub : p.after .projects 2 = some "issues")
    (hfront : "issues" ∉ p.segments.takeWhile (· != "projects")) :
    p.after .issues 1 = p.after .projects 3 := by
  obtain ⟨project, hsegment, -, hid⟩ := hproject
  have hne : project ≠ "issues" := by
    rintro rfl
    cases hid
  obtain ⟨rest, hdrop⟩ := dropWhile_eq_cons_of_after hsegment
  simp only [after, Marker.word] at hsegment hsub hdrop ⊢
  rw [hdrop] at hsegment hsub ⊢
  have hskip : p.segments.dropWhile (· != "issues")
      = ("projects" :: rest).dropWhile (· != "issues") := by
    rw [← List.takeWhile_append_dropWhile (p := (· != "projects")) (l := p.segments), hdrop]
    refine List.dropWhile_append_of_pos fun segment hmem => ?_
    simp only [bne_iff_ne, ne_eq]
    rintro rfl
    exact hfront hmem
  cases rest with
  | nil => cases hsegment
  | cons first rest =>
      obtain rfl : first = project := Option.some.inj hsegment
      cases rest with
      | nil => cases hsub
      | cons second rest =>
          obtain rfl : second = "issues" := Option.some.inj hsub
          rw [hskip]
          simp [hne]

/-- With no `issues` in front of the first `projects` a readable path that asks for the
relaxation spells the same identifier in both places. -/
theorem exists_names_of_isIssueManagement (hreadable : p.IsReadable .issues)
    (hproject : p.Names .projects id) (hwork : p.isIssueManagement = true)
    (hfront : "issues" ∉ p.segments.takeWhile (· != "projects")) :
    ∃ segment n, p.after .projects 3 = some segment ∧ id? segment = some n ∧ p.Names .issues n := by
  obtain ⟨hsub, segment, hsegment, hplace⟩ := isIssueManagement_iff.mp hwork
  have hsame : p.after .issues 1 = some segment :=
    (after_issues_eq_after_projects hproject hsub hfront).trans hsegment
  rcases hreadable segment hsame with hmem | ⟨n, hid⟩
  · exact absurd hmem hplace
  · exact ⟨segment, n, hsegment, hid, segment, hsame, hplace, hid⟩

end ResourcePath

/-! ## Backed requests -/

namespace Gate

variable {g : Gate} {request : Request} {ctx : Context} {id : ProjectId}

/-- The issue named in the third segment behind the first `projects` is the one that the
request is about, and it may be managed. -/
def IsBacked (g : Gate) (path : ResourcePath) (ctx : Context) : Prop :=
  ∃ segment n, path.after .projects 3 = some segment ∧ ResourcePath.id? segment = some n
    ∧ ctx.issue = some n ∧ Access.manageIssue g.readers ctx n = .ok ()

/-- What an admitted request with an effect is about behind `issues` has been checked. -/
theorem manageIssue_of_names (hrun : (g.run request).result = .ok ctx)
    (hread : request.method.isReadOnly = false) {n : IssueId}
    (hissue : (ResourcePath.ofText request.path).Names .issues n) :
    ctx.issue = some n ∧ Access.manageIssue g.readers ctx n = .ok () := by
  obtain ⟨hclears, rfl⟩ := result_run_eq_ok_iff.mp hrun
  refine ⟨ResourcePath.named_eq_some_iff.mpr hissue, ?_⟩
  rcases Guard.clears_iff.mp (hclears .issueManagement) with hwaived | ⟨-, hcheck⟩
  · simp [Guard.isWaived, hread] at hwaived
  · have hsame : Guard.check .issueManagement g.readers (.ofText request.path)
          ((Context.ofCaller (g.caller request)).about (.ofText request.path)) n
        = Guard.check .issueManagement g.readers (.ofText request.path)
          (.ofCaller (g.caller request)) n := Guard.check_congr rfl rfl n
    exact hsame.trans (hcheck n hissue)

theorem isBacked_iff_names (hrun : (g.run request).result = .ok ctx)
    (hread : request.method.isReadOnly = false) :
    g.IsBacked (.ofText request.path) ctx
      ↔ ∃ segment n, (ResourcePath.ofText request.path).after .projects 3 = some segment
          ∧ ResourcePath.id? segment = some n
          ∧ (ResourcePath.ofText request.path).Names .issues n := by
  constructor
  · rintro ⟨segment, n, hsegment, hid, hissue, -⟩
    obtain ⟨-, rfl⟩ := result_run_eq_ok_iff.mp hrun
    exact ⟨segment, n, hsegment, hid, ResourcePath.named_eq_some_iff.mp hissue⟩
  · rintro ⟨segment, n, hsegment, hid, hissue⟩
    exact ⟨segment, n, hsegment, hid, manageIssue_of_names hrun hread hissue⟩

/-- An admitted request that was relaxed for an issue has been checked for this issue if
and only if the segment behind the first `issues` names it too, and this it does if no
`issues` stands in front of the first `projects`. -/
theorem isBacked_iff (hrun : (g.run request).result = .ok ctx)
    (hread : request.method.isReadOnly = false)
    (hproject : (ResourcePath.ofText request.path).Names .projects id)
    (hwork : (ResourcePath.ofText request.path).isIssueManagement = true) :
    (g.IsBacked (.ofText request.path) ctx
        ↔ ∃ segment n, (ResourcePath.ofText request.path).after .projects 3 = some segment
            ∧ ResourcePath.id? segment = some n
            ∧ (ResourcePath.ofText request.path).Names .issues n)
      ∧ ("issues" ∉ (ResourcePath.ofText request.path).segments.takeWhile (· != "projects") →
          g.IsBacked (.ofText request.path) ctx) := by
  have hclears := (result_run_eq_ok_iff.mp hrun).1 .issueAccess
  obtain ⟨hreadable, -⟩ := (Guard.clears_access_iff rfl).mp hclears
  refine ⟨isBacked_iff_names hrun hread, fun hfront => ?_⟩
  exact (isBacked_iff_names hrun hread).mpr
    (ResourcePath.exists_names_of_isIssueManagement hreadable hproject hwork hfront)

/-! ## A path that parts them -/

/-- The gate in front of the two teams. -/
def twoTeams : Gate := Database.twoTeams.gate (.withSecret (.ofText "k")) 1000

/-- What the member of the first team is issued. -/
def memberClaims : Claims where
  kind := .access
  subject := 5
  username := "eve"
  isSuperuser := false
  permissions := none
  expiry := 1300
  issuedAt := 1000

/-- A change at some path by the member of the first team. -/
def changeAt (path : String) : Request where
  method := ⟨"PUT"⟩
  path
  headers := [Bearer.header (Token.encode twoTeams.settings memberClaims)]
  body := []

theorem caller_changeAt (path : String) :
    twoTeams.caller (changeAt path) = some ⟨5, "eve", false⟩ :=
  caller_eq_some_iff.mpr ⟨_, memberClaims, Token.token?_encode _ _ _,
    Token.verify_encode (by decide) .access, rfl⟩

/-- The path that names an issue of the other team behind `projects`, and none behind
`issues`. -/
theorem result_run_changeAt_detour :
    (twoTeams.run (changeAt "/api/issues/recent/projects/1/issues/20/status")).result
      = .ok { user := some 5, isSuperuser := false, project := some 1, issue := none } := by
  rw [result_run_eq_ok_iff, caller_changeAt]
  refine ⟨fun guard => ?_, rfl⟩
  cases guard with
  | projectAccess => exact ⟨.id 1, rfl, fun id hid => by cases hid; rfl⟩
  | projectManagement => exact ⟨.id 1, rfl, fun id hid => by cases hid; rfl⟩
  | issueAccess => exact ⟨.bypass, rfl, nofun⟩
  | issueManagement => exact ⟨.bypass, rfl, nofun⟩

/-- A request relaxed for an issue that nobody checks, and that its user may not manage. -/
theorem exists_admitted_not_isBacked :
    ∃ db : Database, db.Sound ∧ ∃ settings now request ctx,
      ((db.gate settings now).run request).result = .ok ctx
        ∧ ctx.isSuperuser = false ∧ request.method.isReadOnly = false
        ∧ (ResourcePath.ofText request.path).Names .projects 1
        ∧ (ResourcePath.ofText request.path).isIssueManagement = true
        ∧ (ResourcePath.ofText request.path).after .projects 3 = some "20"
        ∧ ctx.issue = none
        ∧ Access.manageIssue db.readers ctx 20 ≠ .ok ()
        ∧ ¬ (db.gate settings now).IsBacked (.ofText request.path) ctx := by
  refine ⟨_, Database.sound_twoTeams, _, _, _, _, result_run_changeAt_detour, rfl, by decide,
    ResourcePath.named_eq_some_iff.mp rfl, rfl, rfl, rfl, by decide, ?_⟩
  rintro ⟨_, _, _, _, hissue, _⟩
  cases hissue

/-- On the path as it is meant the issue is checked. -/
theorem isBacked_changeAt :
    ∃ ctx, (twoTeams.run (changeAt "/api/projects/1/issues/10/status")).result = .ok ctx
      ∧ (changeAt "/api/projects/1/issues/10/status").method.isReadOnly = false
      ∧ (ResourcePath.ofText "/api/projects/1/issues/10/status").Names .projects 1
      ∧ (ResourcePath.ofText "/api/projects/1/issues/10/status").isIssueManagement = true
      ∧ twoTeams.IsBacked (.ofText "/api/projects/1/issues/10/status") ctx := by
  have hrun : (twoTeams.run (changeAt "/api/projects/1/issues/10/status")).result
      = .ok { user := some 5, isSuperuser := false, project := some 1, issue := some 10 } := by
    rw [result_run_eq_ok_iff, caller_changeAt]
    refine ⟨fun guard => ?_, rfl⟩
    cases guard with
    | projectAccess => exact ⟨.id 1, rfl, fun id hid => by cases hid; rfl⟩
    | projectManagement => exact ⟨.id 1, rfl, fun id hid => by cases hid; rfl⟩
    | issueAccess => exact ⟨.id 10, rfl, fun id hid => by cases hid; rfl⟩
    | issueManagement => exact ⟨.id 10, rfl, fun id hid => by cases hid; rfl⟩
  have hread : (changeAt "/api/projects/1/issues/10/status").method.isReadOnly = false := by decide
  have hproject : (ResourcePath.ofText "/api/projects/1/issues/10/status").Names .projects 1 :=
    ResourcePath.named_eq_some_iff.mp rfl
  exact ⟨_, hrun, hread, hproject, rfl,
    (isBacked_iff hrun hread hproject rfl).2 (by decide)⟩

end Gate

end TrackerGate
