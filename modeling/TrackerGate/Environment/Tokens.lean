import TrackerGate.Decimal
import TrackerGate.Environment.Port
import TrackerGate.Text.Blank
import TrackerGate.Token.Settings

/-!
# Token settings from the environment

The secret must be set. The life of each kind of token may be set, in minutes or,
for refresh tokens, in hours: a positive whole number, so small that the seconds it
comes to can be counted in milliseconds within 64 bits. The variables are read in a
fixed order, and the first that is no good is the fault.
-/

namespace TrackerGate

namespace TokenSettings

/-! ## One life -/

/-- The variable that sets the life of tokens of a kind. -/
def ttlName : TokenKind → String
  | .access => "JWT_ACCESS_TTL_MINUTES"
  | .refresh => "JWT_REFRESH_TTL_HOURS"
  | .resetPassword => "JWT_RESET_TTL_MINUTES"
  | .twoFactor => "JWT_TWO_FACTOR_TTL_MINUTES"

/-- The seconds in the unit that the variable counts in. -/
def ttlUnit : TokenKind → Int
  | .refresh => 3600
  | _ => 60

def longestTtl : Int := 0x7FFFFFFFFFFFFFFF / 1000

/-- A signed 64-bit number between blanks. -/
def amount? (s : String) : Option Int :=
  (Decimal.signed? (Text.trimChars s.toList)).filter fun n =>
    -0x8000000000000000 ≤ n ∧ n < 0x8000000000000000

/-- The seconds that `text` sets for tokens of a kind. -/
def readTtl (kind : TokenKind) (text : String) : Except SettingFault Int :=
  match amount? text with
  | none => .error (.notInteger (ttlName kind))
  | some n =>
      if n ≤ 0 then .error (.notPositive (ttlName kind))
      else if n * ttlUnit kind ≤ longestTtl then .ok (n * ttlUnit kind)
      else .error (.outOfRange (ttlName kind))

/-! ## All settings -/

/-- `s` with the life of one kind of tokens from the environment, if it is set
there. -/
def applyTtl (env : Environment) (s : TokenSettings) (kind : TokenKind) :
    Except SettingFault TokenSettings :=
  match env.text? (ttlName kind) with
  | none => .ok s
  | some text => (readTtl kind text).map (s.withTtl kind)

def secretName : String := "JWT_SECRET"

def ofEnvironment (env : Environment) : Except SettingFault TokenSettings :=
  match env.text? secretName with
  | none => .error (.notSet secretName)
  | some secret => TokenKind.all.foldlM (applyTtl env) (.withSecret (.ofText secret))

end TokenSettings

end TrackerGate
