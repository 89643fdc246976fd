import TrackerGate.Entity
import TrackerGate.Proofs.Json.Textual

/-!
# Records as they are written

The tracker's records are read back from their JSON, and their JSON is textual. Each record is
written as an object with a member for every field, so its slots are all given, and what is left
is a matter of the fields one by one. A project without a team is written with a `null`.
-/

namespace TrackerGate

open Json

namespace User

theorem ofJson?_toJson (u : User) : ofJson? u.toJson = some u := by
  have hslots : u.toJson.record? ["id", "username", "is_superuser"]
      = some (memberSlot [("id", .ofInt64 u.id), ("username", .ofText u.username),
        ("is_superuser", .bool u.isSuperuser)]) := record?_record rfl
  simp [ofJson?, hslots, memberSlot_cons, Slot.required, bool?]

theorem textual_toJson (u : User) : u.toJson.Textual := by
  refine textual_record fun member hmember => ?_
  simp only [List.mem_cons, List.not_mem_nil, or_false] at hmember
  rcases hmember with rfl | rfl | rfl
  · exact .int _
  · exact .text _
  · exact .bool _

end User

namespace Team

theorem ofJson?_toJson (t : Team) : ofJson? t.toJson = some t := by
  have hslots : t.toJson.record? ["id", "name"]
      = some (memberSlot [("id", .ofInt64 t.id), ("name", .ofText t.name)]) := record?_record rfl
  simp [ofJson?, hslots, memberSlot_cons, Slot.required]

theorem textual_toJson (t : Team) : t.toJson.Textual := by
  refine textual_record fun member hmember => ?_
  simp only [List.mem_cons, List.not_mem_nil, or_false] at hmember
  rcases hmember with rfl | rfl
  · exact .int _
  · exact .text _

end Team

namespace Membership

theorem ofJson?_toJson (m : Membership) : ofJson? m.toJson = some m := by
  have hslots : m.toJson.record? ["team_id", "user_id", "role"]
      = some (memberSlot [("team_id", .ofInt64 m.team), ("user_id", .ofInt64 m.user),
        ("role", m.role.toJson)]) := record?_record rfl
  simp [ofJson?, hslots, memberSlot_cons, Slot.required, m.role.ofJson?_toJson]

theorem textual_toJson (m : Membership) : m.toJson.Textual := by
  refine textual_record fun member hmember => ?_
  simp only [List.mem_cons, List.not_mem_nil, or_false] at hmember
  rcases hmember with rfl | rfl | rfl
  · exact .int _
  · exact .int _
  · exact .text _

end Membership

namespace Project

theorem ofJson?_toJson (p : Project) : ofJson? p.toJson = some p := by
  have hslots : p.toJson.record? ["id", "name", "team_id"]
      = some (memberSlot [("id", .ofInt64 p.id), ("name", .ofText p.name),
        ("team_id", .ofOption .ofInt64 p.team)]) := record?_record rfl
  obtain ⟨id, name, team⟩ := p
  cases team with
  | none => simp [ofJson?, hslots, memberSlot_cons, Slot.required, Slot.nullable, ofOption]
  | some team =>
      have hteam : Json.ofInt64 team ≠ .null := nofun
      simp [ofJson?, hslots, memberSlot_cons, Slot.required, ofOption, Slot.nullable_given hteam]

theorem textual_toJson (p : Project) : p.toJson.Textual := by
  refine textual_record fun member hmember => ?_
  simp only [List.mem_cons, List.not_mem_nil, or_false] at hmember
  rcases hmember with rfl | rfl | rfl
  · exact .int _
  · exact .text _
  · exact textual_ofOption (fun _ => .int _) p.team

end Project

namespace Issue

theorem ofJson?_toJson (i : Issue) : ofJson? i.toJson = some i := by
  have hslots : i.toJson.record? ["id", "project_id", "title"]
      = some (memberSlot [("id", .ofInt64 i.id), ("project_id", .ofInt64 i.project),
        ("title", .ofText i.title)]) := record?_record rfl
  simp [ofJson?, hslots, memberSlot_cons, Slot.required]

theorem textual_toJson (i : Issue) : i.toJson.Textual := by
  refine textual_record fun member hmember => ?_
  simp only [List.mem_cons, List.not_mem_nil, or_false] at hmember
  rcases hmember with rfl | rfl | rfl
  · exact .int _
  · exact .int _
  · exact .text _

end Issue

end TrackerGate
