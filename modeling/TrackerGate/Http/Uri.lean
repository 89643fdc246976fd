import TrackerGate.Http.Message

/-!
# Request targets

What a request is aimed at: a path with an optional query, the same behind a scheme
and an authority, an authority alone, or `*`. Only the path is kept, as it is
written; percent escapes in it are not decoded. A query and a fragment are dropped.
Characters beyond ASCII are allowed in paths and queries.
-/

namespace TrackerGate

structure Uri where
  path : String
  deriving DecidableEq, Repr

namespace Uri

/-! ## Characters -/

/-- A character that is no blank and no control of ASCII. -/
def isGraphic (c : Char) : Bool := 0x21 ≤ c.toNat && c.toNat != 0x7F

def isPathChar (c : Char) : Bool := isGraphic c && !(['#', '<', '>', '?', '\x60'].contains c)

def isQueryChar (c : Char) : Bool := isGraphic c && !(['"', '#', '<', '>'].contains c)

def isSchemeChar (c : Char) : Bool :=
  Http.isAlphanumeric c || c == '+' || c == '-' || c == '.' || c == '~'

def isAuthorityChar (c : Char) : Bool :=
  Http.isAlphanumeric c
    || ['!', '$', '&', '\'', '(', ')', '*', '+', ',', '-', '.', ';', '=', '_', '~'].contains c

/-! ## Paths -/

/-- A query is acceptable up to its fragment, and in the fragment anything is. -/
def isQuery (cs : List Char) : Bool := (cs.takeWhile (· != '#')).all isQueryChar

def path? (cs : List Char) : Option (List Char) :=
  let path := cs.takeWhile isPathChar
  match cs.dropWhile isPathChar with
  | [] => some path
  | '#' :: _ => some path
  | '?' :: query => if isQuery query then some path else none
  | _ => none

/-! ## Authorities -/

structure AuthorityScan where
  /-- Colons that may stand in front of a port. -/
  colons : Nat
  openBracket : Bool
  closeBracket : Bool
  /-- A percent sign that must turn out to belong to the user. -/
  percent : Bool
  /-- The last character was an at sign. -/
  endsUser : Bool

namespace AuthorityScan

def start : AuthorityScan := ⟨0, false, false, false, false⟩

/-- Brackets enclose an address and are used once. What stands in front of a closing
bracket or an at sign is no port. -/
def step (s : AuthorityScan) (c : Char) : Option AuthorityScan :=
  if c = ':' then
    if s.colons < 8 then some { s with colons := s.colons + 1, endsUser := false } else none
  else if c = '[' then
    if s.percent || s.openBracket then none
    else some { s with openBracket := true, endsUser := false }
  else if c = ']' then
    if !s.openBracket || s.closeBracket then none
    else some { s with closeBracket := true, colons := 0, percent := false, endsUser := false }
  else if c = '@' then some { s with colons := 0, percent := false, endsUser := true }
  else if c = '%' then some { s with percent := true, endsUser := false }
  else if isAuthorityChar c then some { s with endsUser := false }
  else none

/-- At most one colon is left for a port, brackets are closed, and something follows
the user. -/
def isComplete (s : AuthorityScan) : Bool :=
  s.openBracket == s.closeBracket && s.colons ≤ 1 && !s.endsUser && !s.percent

end AuthorityScan

def isAuthority (cs : List Char) : Bool :=
  (cs.foldlM AuthorityScan.step AuthorityScan.start).any (·.isComplete)

def endsAuthority (c : Char) : Bool := c == '/' || c == '?' || c == '#'

/-! ## Schemes -/

/-- What follows a scheme, if there is one: scheme characters, a colon and two
slashes. -/
def scheme? (cs : List Char) : Option (Nat × List Char) :=
  match cs.dropWhile isSchemeChar with
  | ':' :: '/' :: '/' :: rest => some ((cs.takeWhile isSchemeChar).length, rest)
  | _ => none

def longestScheme : Nat := 64

/-! ## Request targets -/

/-- The target behind a scheme: an authority and a path, which is `/` if nothing is
written. -/
def absolute? (cs : List Char) : Option (List Char) :=
  let authority := cs.takeWhile (!endsAuthority ·)
  if authority.isEmpty || !isAuthority authority then none
  else
    match path? (cs.dropWhile (!endsAuthority ·)) with
    | some [] => some ['/']
    | path => path

def target? (cs : List Char) : Option (List Char) :=
  match cs with
  | [] => none
  | ['*'] => some ['*']
  | '/' :: _ => path? cs
  | _ =>
      match scheme? cs with
      | some (length, rest) => if length ≤ longestScheme then absolute? rest else none
      | none => if isAuthority cs then some [] else none

def longest : Nat := 65534

def ofText? (s : String) : Option Uri :=
  if s.utf8ByteSize ≤ longest then (target? s.toList).map fun path => ⟨String.ofList path⟩
  else none

end Uri

end TrackerGate
