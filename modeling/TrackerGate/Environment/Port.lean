import TrackerGate.Decimal
import TrackerGate.Failure
import TrackerGate.Text.Blank
import TrackerGate.Text.Printable

/-!
# Environment variables and the port

Settings come from named variables whose values are octets. A value that is no text
counts as not set. What can be wrong with a setting is a `SettingFault`; it names the
variable, or, for the port, shows the value.
-/

namespace TrackerGate

structure Environment where
  entries : List (String × Octets)
  deriving DecidableEq, Repr

namespace Environment

def value? (env : Environment) (name : String) : Option Octets := env.entries.lookup name

/-- The value of a variable that is set to a text. -/
def text? (env : Environment) (name : String) : Option String :=
  (env.value? name).bind Octets.toText?

end Environment

inductive SettingFault where
  | notSet (name : String)
  | notInteger (name : String)
  | notPositive (name : String)
  | outOfRange (name : String)
  | notPort (value : String)
  deriving DecidableEq, Repr

namespace SettingFault

def message : SettingFault → String
  | .notSet name => name ++ " not set"
  | .notInteger name => name ++ " must be a valid integer"
  | .notPositive name => name ++ " must be positive"
  | .outOfRange name => name ++ " is out of range"
  | .notPort value => "APP_PORT must be a valid port, got " ++ Text.quoted value

def failure (f : SettingFault) : Failure := .configuration f.message

end SettingFault

/-! ## The listening port -/

namespace Environment

def defaultPort : Nat := 8000

def portOf? (s : String) : Option Nat :=
  (Decimal.unsigned? (Text.trimChars s.toList)).filter (· < 65536)

/-- The port of the service: a numeral below 65536, with blanks around it and a plus sign in
front of it if need be. -/
def port (env : Environment) : Except SettingFault Nat :=
  match env.text? "APP_PORT" with
  | none => .ok defaultPort
  | some s =>
      match portOf? s with
      | some port => .ok port
      | none => .error (.notPort s)

end Environment

end TrackerGate
