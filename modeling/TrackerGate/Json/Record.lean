import TrackerGate.Json.Basic

/-!
# Records in JSON

A record is given as an object, in any order and with unknown members ignored, or
as a list of its fields in their declared order. `record?` turns either into one
`Slot` per declared field; a repeated field, a member name without a text and a
list that is too long make it fail. The readers of a slot differ in what a missing
field means: `required` fields must be there, `nullable` ones may be `null` and may
be left out of an object, and `defaulted` ones may be left out of both.
-/

namespace TrackerGate

namespace Json

/-- What a record holds for one of its declared fields. -/
inductive Slot where
  | given (value : Json)
  /-- An object without the member. -/
  | absent
  /-- A list that ended before the field. -/
  | cutOff

namespace Slot

def required {α : Type} (read : Json → Option α) : Slot → Option α
  | .given v => read v
  | _ => none

def nullable {α : Type} (read : Json → Option α) : Slot → Option (Option α)
  | .given .null => some none
  | .given v => (read v).map some
  | .absent => some none
  | .cutOff => none

def defaulted {α : Type} (default : α) (read : Json → Option α) : Slot → Option α
  | .given v => read v
  | _ => some default

/-- A nullable field that may also be missing from the end of a list. -/
def optional {α : Type} (read : Json → Option α) : Slot → Option (Option α)
  | .given .null => some none
  | .given v => (read v).map some
  | _ => some none

end Slot

theorem Slot.nullable_given {α : Type} {read : Json → Option α} {j : Json} (h : j ≠ .null) :
    nullable read (.given j) = (read j).map some := by
  cases j <;> first | contradiction | rfl

theorem Slot.optional_given {α : Type} {read : Json → Option α} {j : Json} (h : j ≠ .null) :
    optional read (.given j) = (read j).map some := by
  cases j <;> first | contradiction | rfl

/-! ## Objects -/

/-- The members by the text of their names. -/
def named? (members : List (Literal × Json)) : Option (List (String × Json)) :=
  members.mapM fun (name, value) => name.text?.map (·, value)

/-- No declared name is given twice. -/
def isSingular (names : List String) (members : List (String × Json)) : Bool :=
  names.all fun name => members.countP (·.1 == name) ≤ 1

def memberSlot (members : List (String × Json)) (name : String) : Slot :=
  match members.find? (·.1 == name) with
  | some (_, value) => .given value
  | none => .absent

theorem memberSlot_nil (name : String) : memberSlot [] name = .absent := rfl

theorem memberSlot_cons (name : String) (value : Json) (members : List (String × Json))
    (declared : String) :
    memberSlot ((name, value) :: members) declared
      = if name = declared then .given value else memberSlot members declared := by
  by_cases h : name = declared <;> simp [memberSlot, h]

/-! ## Lists -/

def itemSlot : List String → List Json → String → Slot
  | declared :: names, item :: items, name =>
      if name = declared then .given item else itemSlot names items name
  | _, _, _ => .cutOff

/-! ## Records -/

/-- The slots of the declared fields `names`, by name. -/
def record? (names : List String) : Json → Option (String → Slot)
  | .obj members =>
      match named? members with
      | some members => if isSingular names members then some (memberSlot members) else none
      | none => none
  | .arr items => if items.length ≤ names.length then some (itemSlot names items) else none
  | _ => none

theorem named?_map_ofText (members : List (String × Json)) :
    named? (members.map fun (name, value) => (Literal.ofText name, value)) = some members := by
  induction members with
  | nil => rfl
  | cons m members ih =>
      simp only [named?, List.map_cons, List.mapM_cons] at ih ⊢
      simp [ih]

/-- A record that names nothing twice holds what its members hold. -/
theorem record?_record {names : List String} {members : List (String × Json)}
    (h : isSingular names members = true) :
    (record members).record? names = some (memberSlot members) := by
  simp [record, record?, named?_map_ofText, h]

end Json

end TrackerGate
