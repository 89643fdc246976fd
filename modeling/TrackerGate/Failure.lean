import TrackerGate.Json.Basic

/-!
# Failures

What an operation of the tracker answers instead of a result. A failure is of one
of eight kinds; all but `database` carry the words of whoever raised it. The kind
fixes the status of an HTTP answer, and kind and message together are its body.
-/

namespace TrackerGate

inductive Failure where
  | unauthorized (detail : String)
  | forbidden (detail : String)
  | notFound (detail : String)
  | badRequest (detail : String)
  | configuration (detail : String)
  | token (detail : String)
  | database
  | internal (detail : String)
  deriving DecidableEq, Repr, Inhabited

namespace Failure

/-! ## Failures with fixed words -/

/-- A project, issue or user that does not exist. -/
def missing (entity : String) : Failure := .notFound (entity ++ " not found")

def permissionDenied : Failure := .forbidden "permission denied"

def userNotFound : Failure := .unauthorized "user not found"

/-! ## What a failure shows -/

def kind : Failure → String
  | .unauthorized _ => "unauthorized"
  | .forbidden _ => "forbidden"
  | .notFound _ => "not_found"
  | .badRequest _ => "bad_request"
  | .configuration _ => "configuration"
  | .token _ => "token"
  | .database => "database"
  | .internal _ => "internal"

def message : Failure → String
  | .unauthorized detail => "unauthorized: " ++ detail
  | .forbidden detail => "forbidden: " ++ detail
  | .notFound detail => "not found: " ++ detail
  | .badRequest detail => "bad request: " ++ detail
  | .configuration detail => "configuration error: " ++ detail
  | .token detail => "invalid token: " ++ detail
  | .database => "database error"
  | .internal detail => "internal server error: " ++ detail

def status : Failure → Nat
  | .unauthorized _ => 401
  | .forbidden _ => 403
  | .notFound _ => 404
  | .badRequest _ => 400
  | .configuration _ => 500
  | .token _ => 401
  | .database => 500
  | .internal _ => 500

def isNotFound : Failure → Bool
  | .notFound _ => true
  | _ => false

def isForbidden : Failure → Bool
  | .forbidden _ => true
  | _ => false

def isUnauthorized : Failure → Bool
  | .unauthorized _ => true
  | _ => false

/-- The server's own fault, as opposed to the request's. -/
def isServerError (f : Failure) : Bool := 500 ≤ f.status

/-- The failure of a kind and a detail; `database` has no detail to carry. -/
def ofKind? (kind detail : String) : Option Failure :=
  match kind with
  | "unauthorized" => some (.unauthorized detail)
  | "forbidden" => some (.forbidden detail)
  | "not_found" => some (.notFound detail)
  | "bad_request" => some (.badRequest detail)
  | "configuration" => some (.configuration detail)
  | "token" => some (.token detail)
  | "database" => some .database
  | "internal" => some (.internal detail)
  | _ => none

def toJson (f : Failure) : Json :=
  .record [("error", .ofText f.kind), ("message", .ofText f.message)]

end Failure

/-! ## Results -/

section

variable {ε ε' α β : Type}

theorem bind_eq_ok_iff {x : Except ε α} {f : α → Except ε β} {b : β} :
    x >>= f = .ok b ↔ ∃ a, x = .ok a ∧ f a = .ok b := by
  cases x with
  | error e => exact ⟨nofun, fun ⟨_, h, _⟩ => nomatch h⟩
  | ok a => exact ⟨fun h => ⟨a, rfl, h⟩, fun ⟨_, ha, h⟩ => Except.ok.inj ha ▸ h⟩

theorem pure_eq_ok_iff {a b : α} : (pure a : Except ε α) = .ok b ↔ a = b := by
  simp [pure, Except.pure]

/-- A guarded result is there if the guard holds. -/
theorem ite_throw_eq_ok_iff {p : Prop} [Decidable p] {x : Except ε α} {e : ε} {a : α} :
    (if p then x else throw e) = .ok a ↔ p ∧ x = .ok a := by
  by_cases hp : p
  · simp [hp]
  · simp [hp, throw, throwThe, MonadExceptOf.throw]

theorem map_eq_ok_iff {x : Except ε α} {f : α → β} {b : β} :
    x.map f = .ok b ↔ ∃ a, x = .ok a ∧ f a = b := by
  cases x with
  | error e => exact ⟨nofun, fun ⟨_, h, _⟩ => nomatch h⟩
  | ok b => exact ⟨fun h => ⟨b, rfl, Except.ok.inj h⟩, fun ⟨_, hb, h⟩ => Except.ok.inj hb ▸ h ▸ rfl⟩

theorem mapError_eq_ok_iff {x : Except ε α} {f : ε → ε'} {a : α} :
    x.mapError f = .ok a ↔ x = .ok a := by
  cases x with
  | error e => exact ⟨nofun, nofun⟩
  | ok b => exact ⟨fun h => congrArg _ (Except.ok.inj h), fun h => congrArg _ (Except.ok.inj h)⟩

end

end TrackerGate
