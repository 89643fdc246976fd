import TrackerGate.Proofs.Entity.Written
import TrackerGate.Proofs.Permission.Shortfall
import TrackerGate.Proofs.Token.Written

/-!
# What is sent as JSON

All that this library sends as JSON it can read again: every type that has a JSON form goes
through texts and back (`Json.Inverts`), and a value has one text that all others which are read
as the value are written again as.

Of three types something may be missing when they are read. What is missing is empty, false or
none, never anything that grants more: a snapshot of which some members were left out is `Below`
the snapshot as it was.
-/

namespace TrackerGate

open Json

/-! ## What may be missing -/

/-- The snapshot with some fields as if nobody had been allowed anything there. -/
def PermissionSnapshot.without (names : List String) (s : PermissionSnapshot) :
    PermissionSnapshot where
  projects := if "project_permissions" ∈ names then .empty else s.projects
  teamRoles := if "team_roles" ∈ names then .empty else s.teamRoles
  canCreateProjects := if "can_create_projects" ∈ names then false else s.canCreateProjects
  canCreateTeams := if "can_create_teams" ∈ names then false else s.canCreateTeams
  canManageUsers := if "can_manage_users" ∈ names then false else s.canManageUsers

namespace PermissionSnapshot

theorem without_below (names : List String) (s : PermissionSnapshot) :
    (s.without names).Below s := by
  have hflag (p : Prop) [Decidable p] {b : Bool} (h : (if p then false else b) = true) :
      b = true := by
    by_cases hp : p
    · rw [if_pos hp] at h
      cases h
    · rwa [if_neg hp] at h
  have hmap {α : Type} (p : Prop) [Decidable p] {m : IdMap α} {k : Int64} {a : α}
      (h : (if p then IdMap.empty else m).find? k = some a) : m.find? k = some a := by
    by_cases hp : p
    · rw [if_pos hp, IdMap.find?_empty] at h
      cases h
    · rwa [if_neg hp] at h
  exact ⟨hflag _, hflag _, hflag _, fun _ _ h => hmap _ h, fun _ c h => ⟨c, hmap _ h, .refl c⟩⟩

theorem isSingular_toJson (s : PermissionSnapshot) :
    isSingular fields [("project_permissions", mapToJson Capabilities.toJson s.projects),
      ("team_roles", mapToJson Role.toJson s.teamRoles),
      ("can_create_projects", .bool s.canCreateProjects),
      ("can_create_teams", .bool s.canCreateTeams),
      ("can_manage_users", .bool s.canManageUsers)] = true := rfl

theorem ofJson?_without (names : List String) (s : PermissionSnapshot) :
    ofJson? (s.toJson.without names) = some (s.without names) := by
  have hprojects := mapOfJson?_mapToJson Capabilities.ofJson?_toJson s.projects
  have hroles := mapOfJson?_mapToJson Role.ofJson?_toJson s.teamRoles
  have hbool (b : Bool) : (Json.bool b).bool? = some b := rfl
  simp [ofJson?, toJson, record?_without s.isSingular_toJson, memberSlot_cons,
    Slot.defaulted_unless hprojects, Slot.defaulted_unless hroles,
    Slot.defaulted_unless (hbool _), PermissionSnapshot.without]

end PermissionSnapshot

theorem Claims.toJson_without_permissions (c : Claims) :
    c.toJson.without ["permissions"] = { c with permissions := none }.toJson := by
  obtain ⟨kind, subject, username, isSuperuser, permissions, expiry, issuedAt⟩ := c
  rw [toJson, without_record]
  cases permissions <;> rfl

theorem Capabilities.toJson_without_teamRole (c : Capabilities) :
    c.toJson.without ["team_role"] = { c with teamRole := none }.toJson := by
  obtain ⟨canRead, canWrite, canDelete, canManage, teamRole⟩ := c
  rw [toJson, without_record]
  cases teamRole <;> rfl

/-! ## All types -/

/-- Every type with a JSON form goes through texts and back, and the fields that may be missing
grant nothing when they are. -/
structure JsonFormsInvert : Prop where
  role : Inverts Role.toJson Role.ofJson?
  tokenKind : Inverts TokenKind.toJson TokenKind.ofJson?
  capabilities : Inverts Capabilities.toJson Capabilities.ofJson?
  snapshot : Inverts PermissionSnapshot.toJson PermissionSnapshot.ofJson?
  claims : Inverts Claims.toJson Claims.ofJson?
  team : Inverts Team.toJson Team.ofJson?
  membership : Inverts Membership.toJson Membership.ofJson?
  project : Inverts Project.toJson Project.ofJson?
  issue : Inverts Issue.toJson Issue.ofJson?
  user : Inverts User.toJson User.ofJson?
  /-- Any fields of a snapshot may be left out; they are then empty or false. -/
  snapshot_without : ∀ (s : PermissionSnapshot) names,
    decode? PermissionSnapshot.ofJson? (s.toJson.without names).print.shown
        = some (s.without names)
      ∧ (s.without names).Below s
  /-- Claims without their permissions carry none. -/
  claims_without : ∀ c : Claims,
    decode? Claims.ofJson? (c.toJson.without ["permissions"]).print.shown
      = some { c with permissions := none }
  /-- Capabilities without the role come of no role, and are otherwise what they were. -/
  capabilities_without : ∀ c : Capabilities,
    decode? Capabilities.ofJson? (c.toJson.without ["team_role"]).print.shown
        = some { c with teamRole := none }
      ∧ Capabilities.Below { c with teamRole := none } c

theorem jsonFormsInvert : JsonFormsInvert where
  role := inverts_of_textual Role.textual_toJson Role.ofJson?_toJson
  tokenKind := inverts_of_textual (fun k => .text k.name) TokenKind.ofJson?_toJson
  capabilities := inverts_of_textual Capabilities.textual_toJson Capabilities.ofJson?_toJson
  snapshot :=
    inverts_of_textual PermissionSnapshot.textual_toJson PermissionSnapshot.ofJson?_toJson
  claims := inverts_of_textual Claims.textual_toJson Claims.ofJson?_toJson
  team := inverts_of_textual Team.textual_toJson Team.ofJson?_toJson
  membership := inverts_of_textual Membership.textual_toJson Membership.ofJson?_toJson
  project := inverts_of_textual Project.textual_toJson Project.ofJson?_toJson
  issue := inverts_of_textual Issue.textual_toJson Issue.ofJson?_toJson
  user := inverts_of_textual User.textual_toJson User.ofJson?_toJson
  snapshot_without s names := by
    rw [decode?_print (s.textual_toJson.without names)]
    exact ⟨s.ofJson?_without names, s.without_below names⟩
  claims_without c := by
    rw [c.toJson_without_permissions, decode?_print (Claims.textual_toJson _),
      Claims.ofJson?_toJson]
  capabilities_without c := by
    rw [c.toJson_without_teamRole, decode?_print (Capabilities.textual_toJson _),
      Capabilities.ofJson?_toJson]
    exact ⟨rfl, id, id, id, id, .inl rfl⟩

/-- Quotes and controls are escaped, and an accent is not. -/
example : encode Team.toJson ⟨Int64.minValue, "é\"\n"⟩
    = "\x7b\"id\":-9223372036854775808,\"name\":\"é\\\"\\n\"\x7d" := by
  decide +kernel

end TrackerGate
