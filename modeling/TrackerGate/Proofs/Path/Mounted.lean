import TrackerGate.Proofs.Path.Segments

/-!
# Mounted paths

Everything that is read off a path is read at some distance from a marker, so two paths say the
same if behind each marker, at each distance, the same stands (`SameAnswers.of_after`). What a
service is mounted under comes in front of the first marker, and a query or a fragment is cut
off before the path is divided. Neither makes a difference, then. The one case apart is a path
with nothing behind its mount: the last slash divides the mount from an empty segment there,
while the same path without the mount has no segment.
-/

namespace TrackerGate

namespace ResourcePath

/-- Segments that a service may be mounted under: none is a marker, and none holds a character
that would end the segment or the path. -/
structure IsMount (mount : List String) : Prop where
  unmarked : ∀ segment ∈ mount, segment ≠ "projects" ∧ segment ≠ "issues"
  plain : ∀ segment ∈ mount, ∀ c ∈ segment.toList, c ≠ '/' ∧ c ≠ '?' ∧ c ≠ '#'

/-- What is read off the one path is read off the other. -/
structure SameAnswers (p q : ResourcePath) : Prop where
  projectTarget : p.target .projects = q.target .projects
  issueTarget : p.target .issues = q.target .issues
  isProjectStats : p.isProjectStats = q.isProjectStats
  isIssueManagement : p.isIssueManagement = q.isIssueManagement

theorem SameAnswers.of_after {p q : ResourcePath}
    (h : ∀ marker offset, p.after marker offset = q.after marker offset) : p.SameAnswers q where
  projectTarget := by rw [target, target, h]
  issueTarget := by rw [target, target, h]
  isProjectStats := by
    simp only [ResourcePath.isProjectStats, projectSubResource, h]
  isIssueManagement := by
    simp only [ResourcePath.isIssueManagement, projectSubResource, h]

/-! ## Queries and fragments -/

theorem withoutQuery_append_query (cs : List Char) {behind : List Char}
    (hbehind : ∀ c ∈ behind.head?, c = '?' ∨ c = '#') :
    withoutQuery (cs ++ behind) = withoutQuery cs := by
  obtain ⟨own, hcut, hpath, hown⟩ := exists_withoutQuery_append cs
  have hboth : ∀ c ∈ (own ++ behind).head?, c = '?' ∨ c = '#' := by
    cases own with
    | nil => exact hbehind
    | cons c own => exact hown
  calc withoutQuery (cs ++ behind)
      = withoutQuery (withoutQuery cs ++ (own ++ behind)) := by
        rw [← List.append_assoc, ← hcut]
    _ = withoutQuery cs := withoutQuery_append hpath hboth

theorem ofText_append_query (path : String) {behind : String}
    (hbehind : ∀ c ∈ behind.toList.head?, c = '?' ∨ c = '#') :
    ofText (path ++ behind) = ofText path := by
  simp only [ofText, ofChars, String.toList_append, withoutQuery_append_query _ hbehind]

/-! ## Mounts -/

/-- Nothing of `cs` ends the path that it is a part of. -/
theorem withoutQuery_append_of_plain {front : List Char} (h : ∀ c ∈ front, c ≠ '?' ∧ c ≠ '#')
    (cs : List Char) : withoutQuery (front ++ cs) = front ++ withoutQuery cs :=
  List.takeWhile_append_of_pos fun c hc => by simp [h c hc]

theorem eq_or_mem_of_mem_intercalate {sep c : Char} {ps : List (List Char)}
    (h : c ∈ [sep].intercalate ps) : c = sep ∨ ∃ p ∈ ps, c ∈ p := by
  induction ps with
  | nil => cases h
  | cons p ps ih =>
      cases ps with
      | nil =>
          rw [List.intercalate_singleton] at h
          exact .inr ⟨p, List.mem_cons_self, h⟩
      | cons q qs =>
          rw [List.intercalate_cons_cons, List.mem_append, List.mem_append] at h
          rcases h with (h | h) | h
          · exact .inr ⟨p, List.mem_cons_self, h⟩
          · exact .inl (List.mem_singleton.mp h)
          · obtain heq | ⟨r, hr, hc⟩ := ih h
            · exact .inl heq
            · exact .inr ⟨r, List.mem_cons_of_mem p hr, hc⟩

variable {mount : List String}

/-- The characters of a mount with slashes between its segments. -/
def joined (mount : List String) : List Char := ['/'].intercalate (mount.map String.toList)

theorem IsMount.plain_joined (h : IsMount mount) : ∀ c ∈ joined mount, c ≠ '?' ∧ c ≠ '#' := by
  intro c hc
  obtain rfl | ⟨cs, hcs, hmem⟩ := eq_or_mem_of_mem_intercalate hc
  · exact ⟨by decide, by decide⟩
  · obtain ⟨segment, hsegment, rfl⟩ := List.mem_map.mp hcs
    exact (h.plain segment hsegment c hmem).2

/-- A mount comes out of a path as it went in, except that none at all is one empty segment. -/
theorem IsMount.unmarked_joined (h : IsMount mount) (marker : Marker) :
    marker.word ∉ (Text.pieces '/' (joined mount)).map String.ofList := by
  by_cases hne : mount = []
  · rw [hne]
    cases marker <;> decide
  · have hmount := pieces_intercalate_toList hne
      fun segment hmem hslash => (h.plain segment hmem '/' hslash).1 rfl
    rw [joined, hmount]
    intro hmem
    obtain ⟨hprojects, hissues⟩ := h.unmarked _ hmem
    cases marker with
    | projects => exact hprojects rfl
    | issues => exact hissues rfl

/-- What stands behind a slash, mounted or not: an empty path has no segments, and the one
segment that it has behind a mount is empty. -/
theorem after_ofChars_root (tail : List Char) (marker : Marker) (offset : Nat) :
    (ofChars ('/' :: tail)).after marker offset
      = (⟨(Text.pieces '/' (withoutQuery tail)).map String.ofList⟩ : ResourcePath).after
          marker offset := by
  have hbody : withoutRoot (withoutQuery ('/' :: tail)) = withoutQuery tail := rfl
  have hsegments : (ofChars ('/' :: tail)).segments = _ := segments_ofChars _
  rw [hbody] at hsegments
  by_cases hnil : withoutQuery tail = []
  · rw [if_pos hnil] at hsegments
    have hempty : marker.word ∉ (Text.pieces '/' (withoutQuery tail)).map String.ofList := by
      rw [hnil]
      cases marker <;> decide
    rw [after_of_not_mem hempty, after, hsegments]
    rfl
  · rw [if_neg hnil] at hsegments
    rw [after, hsegments, after]

theorem after_ofChars_mounted (h : IsMount mount) (tail : List Char) (marker : Marker)
    (offset : Nat) :
    (ofChars ('/' :: (joined mount ++ '/' :: tail))).after marker offset
      = (ofChars ('/' :: tail)).after marker offset := by
  have hcut : withoutQuery (joined mount ++ '/' :: tail)
      = joined mount ++ '/' :: withoutQuery tail :=
    withoutQuery_append_of_plain h.plain_joined ('/' :: tail)
  rw [after_ofChars_root, after_ofChars_root, hcut, Text.pieces_append, List.map_append,
    after_append (h.unmarked_joined marker)]

/-- A path says the same whatever it is mounted under and whatever query or fragment comes
behind it. -/
theorem sameAnswers_mounted (h : IsMount mount) (tail query : String) :
    ∀ path ∈ ["/" ++ tail, "/" ++ "/".intercalate mount ++ "/" ++ tail],
      ∀ behind ∈ ["", "?" ++ query, "#" ++ query],
        (ofText (path ++ behind)).SameAnswers (ofText ("/" ++ tail)) := by
  intro path hpath behind hbehind
  have hquery : ∀ c ∈ behind.toList.head?, c = '?' ∨ c = '#' := by
    simp only [List.mem_cons, List.not_mem_nil, or_false] at hbehind
    rcases hbehind with rfl | rfl | rfl <;> simp
  rw [ofText_append_query path hquery]
  refine .of_after fun marker offset => ?_
  simp only [List.mem_cons, List.not_mem_nil, or_false] at hpath
  rcases hpath with rfl | rfl
  · rfl
  · have hmounted : ("/" ++ "/".intercalate mount ++ "/" ++ tail).toList
        = '/' :: (joined mount ++ '/' :: tail.toList) := by
      simp [joined, String.toList_intercalate]
    have hroot : ("/" ++ tail).toList = '/' :: tail.toList := by simp
    rw [ofText, ofText, hmounted, hroot]
    exact after_ofChars_mounted h tail.toList marker offset

/-- An issue below its project is found under a mount, and a query that speaks of another
project and of statistics is not listened to. -/
theorem sameAnswers_mounted_issue :
    IsMount ["api", "v1"]
      ∧ (ofText "/projects/5/issues/9").isIssueManagement = true
      ∧ (ofText "/api/v1/projects/5/issues/9?in=/projects/7/stats").target .projects
          = .ok (.id 5)
      ∧ (ofText "/api/v1/projects/5/issues/9?in=/projects/7/stats").isProjectStats = false
      ∧ (ofText "/api/v1/projects/5/issues/9?in=/projects/7/stats").isIssueManagement = true := by
  have hmount : IsMount ["api", "v1"] := ⟨by decide, by simp⟩
  have hsame := sameAnswers_mounted hmount "projects/5/issues/9" "in=/projects/7/stats"
    "/api/v1/projects/5/issues/9" (by decide) "?in=/projects/7/stats" (by decide)
  exact ⟨hmount, rfl, hsame.projectTarget, hsame.isProjectStats, hsame.isIssueManagement⟩

end ResourcePath

end TrackerGate
