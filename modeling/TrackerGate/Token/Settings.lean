import TrackerGate.Json.Basic

/-!
# Kinds of tokens, and their settings

What a token is good for. Only an access token identifies a principal, and only it
carries permissions; the others are exchanged at one place each. The settings are the
secret that tokens are signed with and, for each kind, how many seconds a token lives.
The life of an access token also bounds how old the permissions in it can be.
-/

namespace TrackerGate

/-! ## Kinds -/

inductive TokenKind where
  | access
  | refresh
  | resetPassword
  | twoFactor
  deriving DecidableEq, Repr, Inhabited

namespace TokenKind

def all : List TokenKind := [.access, .refresh, .resetPassword, .twoFactor]

theorem mem_all (k : TokenKind) : k ∈ all := by cases k <;> simp [all]

def name : TokenKind → String
  | .access => "access"
  | .refresh => "refresh"
  | .resetPassword => "reset_password"
  | .twoFactor => "two_factor"

def word : TokenKind → String
  | .access => "Access"
  | .refresh => "Refresh"
  | .resetPassword => "ResetPassword"
  | .twoFactor => "TwoFactor"

def ofName? (s : String) : Option TokenKind :=
  if s = "access" then some .access
  else if s = "refresh" then some .refresh
  else if s = "reset_password" then some .resetPassword
  else if s = "two_factor" then some .twoFactor
  else none

theorem ofName?_name (k : TokenKind) : ofName? k.name = some k := by
  cases k <;> rfl

def toJson (k : TokenKind) : Json := .ofText k.name

def ofJson? (j : Json) : Option TokenKind := j.constant?.bind ofName?

theorem ofJson?_toJson (k : TokenKind) : ofJson? k.toJson = some k := by
  rw [ofJson?, toJson, Json.constant?_ofText]
  exact ofName?_name k

end TokenKind

/-! ## Settings -/

structure TokenSettings where
  secret : Octets
  accessTtl : Int
  refreshTtl : Int
  resetPasswordTtl : Int
  twoFactorTtl : Int
  deriving DecidableEq, Repr

namespace TokenSettings

/-- Fifteen minutes, a week, half an hour and five minutes. -/
def withSecret (secret : Octets) : TokenSettings where
  secret
  accessTtl := 15 * 60
  refreshTtl := 7 * 24 * 3600
  resetPasswordTtl := 30 * 60
  twoFactorTtl := 5 * 60

def ttl (s : TokenSettings) : TokenKind → Int
  | .access => s.accessTtl
  | .refresh => s.refreshTtl
  | .resetPassword => s.resetPasswordTtl
  | .twoFactor => s.twoFactorTtl

/-- The settings with another life for tokens of one kind. -/
def withTtl (s : TokenSettings) (kind : TokenKind) (seconds : Int) : TokenSettings :=
  match kind with
  | .access => { s with accessTtl := seconds }
  | .refresh => { s with refreshTtl := seconds }
  | .resetPassword => { s with resetPasswordTtl := seconds }
  | .twoFactor => { s with twoFactorTtl := seconds }

end TokenSettings

end TrackerGate
