import TrackerGate.Permission.Snapshot
import TrackerGate.Proofs.Json.Textual

/-!
# Snapshots as they are written

A permission snapshot is read back from its JSON, whatever it holds. The two maps are
the part with an argument: their keys are numerals that stand as member names, and the
numeral of an identifier is written with digits and a minus sign at most, none of which
a string escapes (`exists_text_keyLiteral`). Everything that is written is textual, so the
laws of the JSON reader apply to it.
-/

namespace TrackerGate

open Json

/-! ## Plain literals -/

namespace Json.Literal

theorem verbatim?_map_plain (o : Octets) : verbatim? (o.map .plain) = some o := by
  induction o with
  | nil => rfl
  | cons b o ih => simp [verbatim?, ih]

theorem ofOctets_eq_map_plain {o : Octets} (h : ∀ b ∈ o, b ∉ shortOctets ∧ ¬b < 0x20) :
    ofOctets o = o.map .plain := by
  refine List.map_congr_left fun b hb => ?_
  obtain ⟨hshort, hcontrol⟩ := h b hb
  rw [unitOf, if_neg hshort, if_neg hcontrol]

end Json.Literal

/-! ## Identifiers as member names -/

theorem startsNumeral_of_mem_printInt {n : Int} {b : UInt8} (h : b ∈ printInt n) :
    startsNumeral b = true := by
  cases n with
  | ofNat n => simp [startsNumeral, isDigit_of_mem_printNat (n := n) h]
  | negSucc n =>
      rcases List.mem_cons.mp h with rfl | h
      · rfl
      · simp [startsNumeral, isDigit_of_mem_printNat h]

/-- No octet of a numeral is escaped in a string. -/
theorem plain_of_startsNumeral {b : UInt8} (h : startsNumeral b = true) :
    b ∉ Literal.shortOctets ∧ ¬b < 0x20 := by
  constructor
  · intro hshort
    simp only [Literal.shortOctets, List.mem_cons, List.not_mem_nil, or_false] at hshort
    rcases hshort with rfl | rfl | rfl | rfl | rfl | rfl | rfl <;> exact absurd h (by decide)
  · intro hcontrol
    simp only [startsNumeral, isDigit, Bool.or_eq_true, Bool.and_eq_true, decide_eq_true_eq,
      beq_iff_eq] at h
    rcases h with ⟨hzero, -⟩ | rfl
    · exact absurd (UInt8.lt_of_le_of_lt hzero hcontrol) (by decide)
    · exact absurd hcontrol (by decide)

namespace PermissionSnapshot

/-- A numeral as a member name is the literal of its text. -/
theorem exists_text_keyLiteral (k : Int64) : ∃ s, keyLiteral k = Literal.ofText s := by
  obtain ⟨s, hs⟩ : Octets.IsText (printInt k.toInt) :=
    Octets.isText_ascii fun _ hb => lt_of_mem_printInt hb
  refine ⟨s, ?_⟩
  rw [Literal.ofText, hs]
  exact (Literal.ofOctets_eq_map_plain fun _ hb =>
    plain_of_startsNumeral (startsNumeral_of_mem_printInt hb)).symm

theorem key?_keyLiteral (k : Int64) : key? (keyLiteral k) = some k := by
  have hnumber : number (printInt k.toInt) = some (.int k.toInt, []) := by
    simpa using number_printInt k.toInt endsNumeral_nil
  have hk : (Json.int k.toInt).int64? = some k := int64?_ofInt64 k
  simp [key?, keyLiteral, Literal.verbatim?_map_plain, hnumber, hk]

/-! ## Maps -/

variable {α : Type} {write : α → Json} {read : Json → Option α}

theorem textual_mapToJson (h : ∀ a, (write a).Textual) (m : IdMap α) :
    (mapToJson write m).Textual := by
  refine .obj (fun member hmember => ?_) fun member hmember => ?_
  · obtain ⟨e, -, rfl⟩ := List.mem_map.mp hmember
    exact exists_text_keyLiteral e.1
  · obtain ⟨e, -, rfl⟩ := List.mem_map.mp hmember
    exact h e.2

theorem mapM_read_write (h : ∀ a, read (write a) = some a) (l : List (Int64 × α)) :
    ((l.map fun e => (keyLiteral e.1, write e.2)).mapM fun (name, value) => do
        let k ← key? name
        let v ← read value
        return (k, v)) = some l := by
  induction l with
  | nil => rfl
  | cons e l ih =>
      rw [List.map_cons, List.mapM_cons, ih]
      simp [key?_keyLiteral, h]

theorem mapOfJson?_mapToJson (h : ∀ a, read (write a) = some a) (m : IdMap α) :
    mapOfJson? read (mapToJson write m) = some m := by
  rw [mapToJson, mapOfJson?, mapM_read_write h, Option.map_some, IdMap.ofList_entries]

end PermissionSnapshot

/-! ## Capabilities -/

theorem Role.textual_toJson (r : Role) : r.toJson.Textual := .text r.name

namespace Capabilities

theorem record?_toJson (c : Capabilities) :
    c.toJson.record? fields = some (memberSlot ([("can_read", .bool c.canRead),
      ("can_write", .bool c.canWrite), ("can_delete", .bool c.canDelete),
      ("can_manage", .bool c.canManage)]
        ++ (c.teamRole.map fun role => ("team_role", role.toJson)).toList)) :=
  record?_record (by cases c.teamRole <;> rfl)

theorem ofJson?_toJson (c : Capabilities) : ofJson? c.toJson = some c := by
  have hslots := record?_toJson c
  obtain ⟨canRead, canWrite, canDelete, canManage, teamRole⟩ := c
  cases teamRole with
  | none =>
      simp [ofJson?, hslots, memberSlot_cons, memberSlot_nil, Slot.required, Slot.optional, bool?]
  | some role =>
      have hrole : role.toJson ≠ .null := nofun
      simp [ofJson?, hslots, memberSlot_cons, Slot.required, Slot.optional_given hrole, bool?,
        role.ofJson?_toJson]

theorem textual_toJson (c : Capabilities) : c.toJson.Textual := by
  refine textual_record fun member hmember => ?_
  rcases List.mem_append.mp hmember with h | h
  · simp only [List.mem_cons, List.not_mem_nil, or_false] at h
    rcases h with rfl | rfl | rfl | rfl <;> exact .bool _
  · obtain ⟨role, -, rfl⟩ :
        ∃ role, c.teamRole = some role ∧ ("team_role", role.toJson) = member := by
      simpa using h
    exact role.textual_toJson

end Capabilities

/-! ## Snapshots -/

namespace PermissionSnapshot

theorem record?_toJson (s : PermissionSnapshot) :
    s.toJson.record? fields
      = some (memberSlot [("project_permissions", mapToJson Capabilities.toJson s.projects),
        ("team_roles", mapToJson Role.toJson s.teamRoles),
        ("can_create_projects", .bool s.canCreateProjects),
        ("can_create_teams", .bool s.canCreateTeams),
        ("can_manage_users", .bool s.canManageUsers)]) :=
  record?_record rfl

theorem ofJson?_toJson (s : PermissionSnapshot) : ofJson? s.toJson = some s := by
  simp [ofJson?, record?_toJson, memberSlot_cons, Slot.defaulted, bool?,
    mapOfJson?_mapToJson Capabilities.ofJson?_toJson, mapOfJson?_mapToJson Role.ofJson?_toJson]

theorem textual_toJson (s : PermissionSnapshot) : s.toJson.Textual := by
  refine textual_record fun member hmember => ?_
  simp only [List.mem_cons, List.not_mem_nil, or_false] at hmember
  rcases hmember with rfl | rfl | rfl | rfl | rfl
  · exact textual_mapToJson Capabilities.textual_toJson s.projects
  · exact textual_mapToJson Role.textual_toJson s.teamRoles
  all_goals exact .bool _

end PermissionSnapshot

end TrackerGate
