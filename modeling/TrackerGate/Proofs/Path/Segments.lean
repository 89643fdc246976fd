import Mathlib.Data.List.TakeWhile
import TrackerGate.ResourcePath

/-!
# Segments of a path

How a text divides into segments and which segment stands behind a marker, as relations that
leave the cutting and the search open. `Divides` puts the segments together again: with
slashes between them, and with a query or a fragment behind them, they are the text. `Follows`
looks at a list of segments from its first marker on. Both hold of one outcome only, the one
that is computed (`divides_iff`, `after_eq_iff_follows`).
-/

namespace TrackerGate

namespace ResourcePath

/-! ## Division -/

/-- `segments` are what the slashes of a text divide, up to a question mark or a hash. The
slash that the text begins with divides nothing, and where there is nothing else there is no
segment either. -/
structure Divides (text : String) (segments : List String) : Prop where
  cut : ∃ path behind, text.toList = path ++ behind
    ∧ (∀ c ∈ path, c ≠ '?' ∧ c ≠ '#') ∧ (∀ c ∈ behind.head?, c = '?' ∨ c = '#')
    ∧ (path = '/' :: ['/'].intercalate (segments.map String.toList)
      ∨ path = ['/'].intercalate (segments.map String.toList) ∧ path.head? ≠ some '/')
  slashless : ∀ segment ∈ segments, '/' ∉ segment.toList
  nonempty : segments ≠ [""]

section

variable {cs path behind : List Char}

theorem withoutQuery_append (hpath : ∀ c ∈ path, c ≠ '?' ∧ c ≠ '#')
    (hbehind : ∀ c ∈ behind.head?, c = '?' ∨ c = '#') : withoutQuery (path ++ behind) = path := by
  rw [withoutQuery, List.takeWhile_append_of_pos fun c hc => by simp [hpath c hc]]
  cases behind with
  | nil => simp
  | cons c behind =>
      have hstop : (c != '?' && c != '#') = false := by
        rcases hbehind c rfl with rfl | rfl <;> rfl
      rw [List.takeWhile_cons, hstop]
      simp

/-- Every text is cut in this way. -/
theorem exists_withoutQuery_append (cs : List Char) :
    ∃ behind, cs = withoutQuery cs ++ behind ∧ (∀ c ∈ withoutQuery cs, c ≠ '?' ∧ c ≠ '#')
      ∧ ∀ c ∈ behind.head?, c = '?' ∨ c = '#' := by
  refine ⟨_, (List.takeWhile_append_dropWhile (p := fun c => c != '?' && c != '#')).symm,
    fun c hc => ?_, fun c hc => ?_⟩
  · simpa using List.mem_takeWhile_imp hc
  · have hstop := List.head?_dropWhile_not (fun c => c != '?' && c != '#') cs
    rw [hc] at hstop
    simpa [or_iff_not_imp_left] using hstop

theorem withoutRoot_cons (cs : List Char) : withoutRoot ('/' :: cs) = cs := rfl

theorem withoutRoot_of_head? (h : cs.head? ≠ some '/') : withoutRoot cs = cs := by
  unfold withoutRoot
  split
  · exact absurd rfl h
  · rfl

theorem eq_withoutRoot (cs : List Char) :
    cs = '/' :: withoutRoot cs ∨ cs = withoutRoot cs ∧ cs.head? ≠ some '/' := by
  by_cases h : cs.head? = some '/'
  · obtain ⟨rest, rfl⟩ := List.head?_eq_some_iff.mp h
    exact .inl rfl
  · exact .inr ⟨(withoutRoot_of_head? h).symm, h⟩

theorem segments_ofChars (cs : List Char) :
    (ofChars cs).segments
      = if withoutRoot (withoutQuery cs) = [] then []
        else (Text.pieces '/' (withoutRoot (withoutQuery cs))).map String.ofList := by
  unfold ofChars
  split
  · next h => rw [h, if_pos rfl]
  · next h => rw [if_neg fun hnil => h hnil]

end

/-- Segments that no slash is in are the pieces of what they are put together to. -/
theorem pieces_intercalate_toList {segments : List String} (hne : segments ≠ [])
    (h : ∀ segment ∈ segments, '/' ∉ segment.toList) :
    (Text.pieces '/' (['/'].intercalate (segments.map String.toList))).map String.ofList
      = segments := by
  rw [Text.pieces_intercalate (by simpa using hne) (by simpa using h), List.map_map]
  simp

theorem divides_segments (text : String) : Divides text (ofText text).segments := by
  obtain ⟨behind, hcut, hpath, hbehind⟩ := exists_withoutQuery_append text.toList
  rw [ofText, segments_ofChars]
  split_ifs with hnil
  · refine ⟨⟨_, behind, hcut, hpath, hbehind, ?_⟩, nofun, nofun⟩
    have hroot := eq_withoutRoot (withoutQuery text.toList)
    rwa [hnil] at hroot
  · have hpieces : ((Text.pieces '/' (withoutRoot (withoutQuery text.toList))).map
        String.ofList).map String.toList
          = Text.pieces '/' (withoutRoot (withoutQuery text.toList)) := by
      rw [List.map_map]
      simp
    refine ⟨⟨_, behind, hcut, hpath, hbehind, ?_⟩, fun segment hmem => ?_, fun hempty => hnil ?_⟩
    · rw [hpieces, Text.intercalate_pieces]
      exact eq_withoutRoot _
    · obtain ⟨piece, hpiece, rfl⟩ := List.mem_map.mp hmem
      rw [String.toList_ofList]
      exact Text.not_mem_of_mem_pieces hpiece
    · rw [hempty] at hpieces
      rw [← Text.intercalate_pieces '/' (withoutRoot (withoutQuery text.toList)), ← hpieces]
      rfl

/-- A text divides in one way only. -/
theorem divides_iff {text : String} {segments : List String} :
    Divides text segments ↔ (ofText text).segments = segments := by
  refine ⟨fun h => ?_, fun h => h ▸ divides_segments text⟩
  obtain ⟨⟨path, behind, hcut, hpath, hbehind, hroot⟩, hslashless, hnonempty⟩ := h
  have hbody : withoutRoot (withoutQuery text.toList)
      = ['/'].intercalate (segments.map String.toList) := by
    rw [hcut, withoutQuery_append hpath hbehind]
    rcases hroot with rfl | ⟨hsame, hhead⟩
    · exact withoutRoot_cons _
    · rw [withoutRoot_of_head? hhead, hsame]
  rw [ofText, segments_ofChars, hbody]
  by_cases hne : segments = []
  · rw [hne]
    rfl
  · have hsegments := pieces_intercalate_toList hne hslashless
    rw [if_neg, hsegments]
    intro hnil
    rw [hnil] at hsegments
    exact hnonempty hsegments.symm

/-! ## Behind a marker -/

/-- What stands behind the first `marker`: nothing if there is no marker or if the segments
end with it. -/
inductive Follows (marker : Marker) : List String → Option String → Prop where
  | unmarked {segments : List String} (h : marker.word ∉ segments) : Follows marker segments none
  | ended {front : List String} (h : marker.word ∉ front) :
      Follows marker (front ++ [marker.word]) none
  | next {front rest : List String} {segment : String} (h : marker.word ∉ front) :
      Follows marker (front ++ marker.word :: segment :: rest) (some segment)

variable {marker : Marker} {front rest : List String} {next : Option String}

/-- Segments in front of the first marker have no part in what is read behind it. -/
theorem after_append (h : marker.word ∉ front) (segments : List String) (offset : Nat) :
    (⟨front ++ segments⟩ : ResourcePath).after marker offset
      = (⟨segments⟩ : ResourcePath).after marker offset := by
  have hfront : ∀ segment ∈ front, (segment != marker.word) = true := by
    intro segment hmem
    rw [bne_iff_ne]
    rintro rfl
    exact h hmem
  rw [after, after, List.dropWhile_append_of_pos hfront]

theorem after_cons_self (offset : Nat) :
    (⟨marker.word :: rest⟩ : ResourcePath).after marker (offset + 1) = rest[offset]? := by
  simp [after]

theorem after_of_not_mem {segments : List String} (h : marker.word ∉ segments) (offset : Nat) :
    (⟨segments⟩ : ResourcePath).after marker offset = none := by
  have hnil := after_append h [] offset
  rwa [List.append_nil] at hnil

theorem after_eq_iff_follows {segments : List String} :
    (⟨segments⟩ : ResourcePath).after marker 1 = next ↔ Follows marker segments next := by
  constructor
  · rintro rfl
    by_cases hmem : marker.word ∈ segments
    · obtain ⟨front, rest, rfl, hfront⟩ := List.eq_append_cons_of_mem hmem
      rw [after_append hfront, after_cons_self]
      cases rest with
      | nil => exact .ended hfront
      | cons segment rest => exact .next hfront
    · rw [after_of_not_mem hmem]
      exact .unmarked hmem
  · intro h
    cases h with
    | unmarked hmem => exact after_of_not_mem hmem 1
    | ended hfront => rw [after_append hfront, after_cons_self]; rfl
    | next hfront => rw [after_append hfront, after_cons_self]; rfl

end ResourcePath

end TrackerGate
