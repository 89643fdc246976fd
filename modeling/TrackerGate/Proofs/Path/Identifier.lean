import TrackerGate.Proofs.Path.Segments
import TrackerGate.Proofs.Text.Numeral

/-!
# Identifiers in paths

What the segment behind a marker says about the resource (`ResourcePath.Says`): nothing, if it
is a placeholder of that marker or is not there at all; otherwise it is a numeral for a number
that a row can have, or it cannot be read. The number is the one that is spelled, however many
digits it takes (`Decimal.SpellsNat`), so a segment can be too large for an identifier but never
stand for another one.

`reads_identifiers` puts this behind the division of the text and the search for the marker:
from the text of a path to the answer, with no reader in between.
-/

namespace TrackerGate

namespace ResourcePath

/-! ## One segment -/

/-- The answer that belongs to what stands behind a marker. -/
inductive Says (marker : Marker) : Option String → Except Failure Target → Prop where
  | nothing : Says marker none (.ok .bypass)
  | placeholder {segment : String} (h : segment ∈ marker.placeholders) :
      Says marker (some segment) (.ok .bypass)
  | identifier {segment : String} {n : Nat} {id : Int64} (hplace : segment ∉ marker.placeholders)
      (hspells : Decimal.SpellsNat segment.toList n) (hfits : n ≤ 2 ^ 63 - 1) (hid : id.toInt = n) :
      Says marker (some segment) (.ok (.id id))
  | unreadable {segment : String} (hplace : segment ∉ marker.placeholders)
      (hlarge : ∀ n, Decimal.SpellsNat segment.toList n → 2 ^ 63 - 1 < n) :
      Says marker (some segment)
        (.error (.badRequest ("invalid " ++ marker.entity ++ " id: " ++ segment)))

variable {marker : Marker} {segment : String} {next : Option String}
  {result : Except Failure Target}

theorem id?_eq_some_iff {id : Int64} :
    id? segment = some id
      ↔ ∃ n, Decimal.SpellsNat segment.toList n ∧ n ≤ 2 ^ 63 - 1 ∧ id.toInt = n := by
  unfold id?
  cases hspells : Decimal.unsigned? segment.toList with
  | none =>
      refine ⟨nofun, fun ⟨n, hn, _⟩ => ?_⟩
      cases hspells.symm.trans (Decimal.unsigned?_eq_some_iff.mpr hn)
  | some n =>
      have hn := Decimal.unsigned?_eq_some_iff.mp hspells
      simp only [Option.ite_none_right_eq_some, Option.some.injEq]
      constructor
      · rintro ⟨hlt, rfl⟩
        exact ⟨n, hn, by omega, Int64.toInt_ofNat_of_lt (by omega)⟩
      · rintro ⟨m, hm, hle, hid⟩
        obtain rfl := hm.unique hn
        refine ⟨by omega, Int64.toInt_inj.mp ?_⟩
        rw [hid, Int64.toInt_ofNat_of_lt (by omega)]

theorem id?_eq_none_iff :
    id? segment = none ↔ ∀ n, Decimal.SpellsNat segment.toList n → 2 ^ 63 - 1 < n := by
  rw [Option.eq_none_iff_forall_ne_some]
  simp only [ne_eq, id?_eq_some_iff]
  constructor
  · intro h n hn
    by_contra hle
    refine h (Int64.ofNat n) ⟨n, hn, by omega, Int64.toInt_ofNat_of_lt (by omega)⟩
  · rintro h id ⟨n, hn, hle, -⟩
    have hlt := h n hn
    omega

theorem classify_eq_iff_says : classify marker next = result ↔ Says marker next result := by
  constructor
  · rintro rfl
    cases next with
    | none => exact .nothing
    | some segment =>
        by_cases hplace : segment ∈ marker.placeholders
        · simp only [classify, List.contains_eq_mem, hplace, decide_true, if_true]
          exact .placeholder hplace
        · simp only [classify, List.contains_eq_mem, hplace, decide_false, Bool.false_eq_true,
            if_false]
          cases hid : id? segment with
          | none => exact .unreadable hplace (id?_eq_none_iff.mp hid)
          | some id =>
              obtain ⟨n, hspells, hfits, hid⟩ := id?_eq_some_iff.mp hid
              exact .identifier hplace hspells hfits hid
  · intro h
    cases h with
    | nothing => rfl
    | placeholder hplace => simp [classify, hplace]
    | identifier hplace hspells hfits hid =>
        simp [classify, hplace, id?_eq_some_iff.mpr ⟨_, hspells, hfits, hid⟩]
    | unreadable hplace hlarge => simp [classify, hplace, id?_eq_none_iff.mpr hlarge]

/-! ## A whole path -/

theorem target_ofText_eq_iff {text : String} :
    (ofText text).target marker = result
      ↔ ∃ segments next, Divides text segments ∧ Follows marker segments next
          ∧ Says marker next result := by
  constructor
  · intro h
    exact ⟨_, _, divides_segments text, after_eq_iff_follows.mp rfl, classify_eq_iff_says.mp h⟩
  · rintro ⟨segments, next, hdivides, hfollows, hsays⟩
    obtain rfl := divides_iff.mp hdivides
    obtain rfl := after_eq_iff_follows.mpr hfollows
    exact classify_eq_iff_says.mpr hsays

theorem not_spellsNat_of_placeholder (h : segment ∈ marker.placeholders) (n : Nat) :
    ¬ Decimal.SpellsNat segment.toList n := by
  have hnone : Decimal.unsigned? segment.toList = none := by
    revert segment
    cases marker <;> decide
  rw [← Decimal.unsigned?_eq_some_iff, hnone]
  exact nofun

/-- The answer of a path for a marker is what the segment behind the first of these markers
says, and if it is an identifier it is the number that the segment spells. No placeholder of
any marker spells a number. -/
theorem reads_identifiers (text : String) (marker : Marker) :
    (∀ result, (ofText text).target marker = result
        ↔ ∃ segments next, Divides text segments ∧ Follows marker segments next
            ∧ Says marker next result)
      ∧ (∀ segments segment n id, Divides text segments →
          Follows marker segments (some segment) → Decimal.SpellsNat segment.toList n →
            (ofText text).target marker = .ok (.id id) → id.toInt = n)
      ∧ ∀ (other : Marker), ∀ segment ∈ other.placeholders,
          ∀ n, ¬ Decimal.SpellsNat segment.toList n := by
  refine ⟨fun result => target_ofText_eq_iff, ?_, fun other segment hplace n => ?_⟩
  · intro segments segment n id hdivides hfollows hspells htarget
    obtain rfl := divides_iff.mp hdivides
    have hnext := after_eq_iff_follows.mpr hfollows
    rw [target, hnext, classify_eq_iff_says] at htarget
    cases htarget with
    | identifier _ hspells' _ hid => rw [hid, hspells'.unique hspells]
  · exact not_spellsNat_of_placeholder hplace n

/-- A padded numeral is the number that it spells, and one that is 1 in a word of 64 bits is no
identifier at all. -/
theorem reads_identifiers_padded :
    Divides "/api/projects/+0042/issues?of=projects/7" ["api", "projects", "+0042", "issues"]
      ∧ Follows .projects ["api", "projects", "+0042", "issues"] (some "+0042")
      ∧ (ofText "/api/projects/+0042/issues?of=projects/7").target .projects = .ok (.id 42)
      ∧ (42 : Int64).toInt = (42 : Nat)
      ∧ (ofText "/api/projects/18446744073709551617").target .projects
          = .error (.badRequest "invalid project id: 18446744073709551617") := by
  have hdivides := divides_segments "/api/projects/+0042/issues?of=projects/7"
  have hfollows : Follows .projects ["api", "projects", "+0042", "issues"] (some "+0042") :=
    after_eq_iff_follows.mp rfl
  have hspells : Decimal.SpellsNat "+0042".toList 42 := Decimal.unsigned?_eq_some_iff.mp rfl
  have hwraps : Decimal.SpellsNat "18446744073709551617".toList 18446744073709551617 :=
    Decimal.unsigned?_eq_some_iff.mp rfl
  obtain ⟨hanswers, hexact, -⟩ :=
    reads_identifiers "/api/projects/+0042/issues?of=projects/7" .projects
  have hid := (hanswers (.ok (.id 42))).mpr
    ⟨_, _, hdivides, hfollows, .identifier (by decide) hspells (by decide) rfl⟩
  refine ⟨hdivides, hfollows, hid, hexact _ _ _ _ hdivides hfollows hspells hid, ?_⟩
  refine ((reads_identifiers "/api/projects/18446744073709551617" .projects).1 _).mpr
    ⟨_, _, divides_segments _, after_eq_iff_follows.mp rfl, .unreadable (by decide) ?_⟩
  intro n hn
  obtain rfl := hn.unique hwraps
  decide

end ResourcePath

end TrackerGate
