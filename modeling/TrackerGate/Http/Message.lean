import TrackerGate.Failure
import TrackerGate.Octets
import TrackerGate.Text.Blank

/-!
# Requests and responses

A request is a method, a path, headers and a body. A response is a status, headers
and a body; most bodies are JSON, and a failure is answered by its status and its
JSON.

Methods, header names and the parts of a media type are tokens: ASCII letters,
digits and a few other characters. Upper and lower case of a method are different, and
three of the standard ones only read. In the name of a header case does not count. The
value of a header is read as text only if all of it is visible: ASCII without controls
other than the tab. Of several headers with one name the first counts.
-/

namespace TrackerGate

/-! ## Tokens -/

namespace Http

def isAlphanumeric (c : Char) : Bool :=
  ('0' ≤ c && c ≤ '9') || ('A' ≤ c && c ≤ 'Z') || ('a' ≤ c && c ≤ 'z')

/-- The characters that a token may have besides letters and digits. -/
def tokenMarks : List Char :=
  ['!', '#', '$', '%', '&', '\'', '*', '+', '-', '.', '^', '_', '\x60', '|', '~']

def isTokenChar (c : Char) : Bool := isAlphanumeric c || tokenMarks.contains c

def isToken (cs : List Char) : Bool := !cs.isEmpty && cs.all isTokenChar

end Http

/-! ## Methods -/

structure Method where
  name : String
  deriving DecidableEq, Repr

namespace Method

def get : Method := ⟨"GET"⟩

def head : Method := ⟨"HEAD"⟩

def options : Method := ⟨"OPTIONS"⟩

def post : Method := ⟨"POST"⟩

def ofText? (s : String) : Option Method := if Http.isToken s.toList then some ⟨s⟩ else none

/-- Whether a request with this method leaves everything as it is. -/
def isReadOnly (m : Method) : Bool := m = get || m = head || m = options

end Method

/-! ## Headers -/

structure Header where
  name : String
  value : Octets
  deriving DecidableEq, Repr

namespace Header

def isValueOctet (b : UInt8) : Bool := b == 0x09 || (0x20 ≤ b && b != 0x7F)

def isVisible (b : UInt8) : Bool := b == 0x09 || (0x20 ≤ b && b < 0x7F)

def longestName : Nat := 65535

def ofParts? (name : String) (value : Octets) : Option Header :=
  if Http.isToken name.toList && name.length ≤ longestName && value.all isValueOctet then
    some { name := Text.lowerAscii name, value }
  else none

def visible? (value : Octets) : Option (List Char) :=
  if value.all isVisible then some (value.map fun b => Char.ofNat b.toNat) else none

/-- The value of the first header with a name, which is given in lower case. -/
def find? (headers : List Header) (name : String) : Option Octets :=
  (headers.find? (·.name == name)).map (·.value)

/-- The text of the first header with a name; none if it is not visible. -/
def text? (headers : List Header) (name : String) : Option (List Char) :=
  (find? headers name).bind visible?

end Header

/-! ## Messages -/

structure Request where
  method : Method
  path : String
  headers : List Header
  body : Octets
  deriving DecidableEq, Repr

structure Response where
  status : Nat
  headers : List (String × String)
  body : Octets
  deriving DecidableEq, Repr

namespace Response

def json (status : Nat) (j : Json) : Response where
  status
  headers := [("content-type", "application/json")]
  body := j.print

def text (status : Nat) (s : String) : Response where
  status
  headers := [("content-type", "text/plain; charset=utf-8")]
  body := .ofText s

def empty (status : Nat) : Response where
  status
  headers := []
  body := []

def ofFailure (f : Failure) : Response := .json f.status f.toJson

def withHeader (r : Response) (name value : String) : Response :=
  { r with headers := r.headers ++ [(name, value)] }

/-- The response with the length of its body, as it is now, in a header. -/
def withLength (r : Response) : Response :=
  r.withHeader "content-length" (Decimal.ofNat r.body.length)

def withoutBody (r : Response) : Response := { r with body := [] }

end Response

end TrackerGate
