import TrackerGate.Failure
import TrackerGate.Text.Blank

/-!
# Team roles

A member of a team holds one of three roles, ordered by authority: a member
works on issues, an admin and an owner also manage the team's projects. Roles are
stored as text, and a stored text is read leniently (`parse`): blanks around it
and the case of its ASCII letters do not count. In JSON only the exact names are
accepted.
-/

namespace TrackerGate

inductive Role where
  | member
  | admin
  | owner
  deriving DecidableEq, Repr, Inhabited

namespace Role

/-- Authority, from least to most. -/
def rank : Role → Nat
  | .member => 0
  | .admin => 1
  | .owner => 2

instance : LE Role := ⟨fun a b => a.rank ≤ b.rank⟩

instance (a b : Role) : Decidable (a ≤ b) := inferInstanceAs (Decidable (a.rank ≤ b.rank))

/-- Owners and admins may change a project's settings; members may not. -/
def canManage : Role → Bool
  | .member => false
  | .admin => true
  | .owner => true

/-! ## Names -/

def name : Role → String
  | .member => "member"
  | .admin => "admin"
  | .owner => "owner"

def ofName? (s : String) : Option Role :=
  if s = "owner" then some .owner
  else if s = "admin" then some .admin
  else if s = "member" then some .member
  else none

theorem ofName?_name (r : Role) : ofName? r.name = some r := by
  cases r <;> rfl

theorem ofName?_eq_some_iff {s : String} {r : Role} : ofName? s = some r ↔ s = r.name := by
  constructor
  · intro h
    unfold ofName? at h
    split at h
    · next hs => exact Option.some.inj h ▸ hs
    · split at h
      · next hs => exact Option.some.inj h ▸ hs
      · split at h
        · next hs => exact Option.some.inj h ▸ hs
        · cases h
  · rintro rfl
    exact ofName?_name r

def parse (s : String) : Except Failure Role :=
  let plain := Text.lowerAscii (Text.trim s)
  match ofName? plain with
  | some role => .ok role
  | none => .error (.internal ("unknown team role: " ++ plain))

theorem parse_name (r : Role) : parse r.name = .ok r := by
  cases r <;> rfl

/-! ## Order -/

def sorted (roles : List Role) : List Role := roles.mergeSort (fun a b => decide (a ≤ b))

def max? : List Role → Option Role
  | [] => none
  | r :: rs => some (rs.foldl (fun a b => if a ≤ b then b else a) r)

def min? : List Role → Option Role
  | [] => none
  | r :: rs => some (rs.foldl (fun a b => if b ≤ a then b else a) r)

/-! ## JSON -/

def toJson (r : Role) : Json := .ofText r.name

def ofJson? (j : Json) : Option Role := j.constant?.bind ofName?

theorem ofJson?_toJson (r : Role) : ofJson? r.toJson = some r := by
  rw [ofJson?, toJson, Json.constant?_ofText]
  exact ofName?_name r

end Role

end TrackerGate
