import TrackerGate.Database.Basic
import TrackerGate.Database.Location
import TrackerGate.Environment.Port

/-!
# Opening the database

`DATABASE_URL` says where the database is. A database that is held in memory is always
made; a file is only made if the location says so and its directory is there, and
otherwise it must be a database already, which none is. The tables are made through one
connection and used through others. So they must be written, and they are only found
again in a database that the connections have in common: in a file, or in memory that
they share.
-/

namespace TrackerGate

inductive StartupFault where
  | notSet
  | unreachable
  | unwritable
  deriving DecidableEq, Repr

namespace StartupFault

def message : StartupFault → String
  | .notSet => "DATABASE_URL not set"
  | .unreachable => "failed to connect to database"
  | .unwritable => "failed to run migrations"

end StartupFault

/-! ## Paths -/

/-- A path without steps that lead nowhere or back. -/
structure DatabasePath where
  /-- The path starts at the root, and not in the working directory. -/
  isAbsolute : Bool
  steps : List Octets
  deriving DecidableEq, Repr

namespace DatabasePath

/-- The path with one more step. Nothing is known above the working directory. -/
def step? (p : DatabasePath) (name : Octets) : Option DatabasePath :=
  if name.isEmpty || name = Octets.ofText "." then some p
  else if name = Octets.ofText ".." then
    if p.steps.isEmpty && !p.isAbsolute then none else some { p with steps := p.steps.dropLast }
  else some { p with steps := p.steps ++ [name] }

def ofName? (name : Octets) : Option DatabasePath :=
  (Text.pieces 0x2F name).foldlM step? { isAbsolute := name.head? == some 0x2F, steps := [] }

/-- The directories that are there: the root, the working directory, and the one for
what is not kept. -/
def isDirectory (p : DatabasePath) : Bool :=
  p.steps.isEmpty || (p.isAbsolute && p.steps = [Octets.ofText "tmp"])

/-- Files that are there on every machine. None of them is a database. -/
def isOtherFile (p : DatabasePath) : Bool :=
  p.isAbsolute && [["dev", "null"], ["etc", "passwd"]].contains (p.steps.map Octets.shown)

def isFree (p : DatabasePath) : Bool :=
  !p.isDirectory && { p with steps := p.steps.dropLast }.isDirectory

end DatabasePath

/-! ## Connections -/

namespace DatabaseLocation

/-- A database without a file. One without a name is put away when its connection
ends. -/
def hasNoFile (l : DatabaseLocation) : Bool :=
  l.inMemory || l.name.isEmpty || l.name = memoryName

def memoryLayer : Octets := Octets.ofText "memdb"

/-- In that layer a name in the form of an absolute path is one for all. -/
def isCommonName (name : Octets) : Bool :=
  1 < name.length && (name.head? == some 0x2F || name.head? == some 0x5C)

/-- Whether other connections see what is written through one. -/
def isCommon (l : DatabaseLocation) : Bool :=
  if l.hasNoFile then l.isShared && !l.name.isEmpty
  else l.layer != some memoryLayer || l.isShared || isCommonName l.name

/-- Whether its name, the one of a file, is that of another file. -/
def isOtherFile (l : DatabaseLocation) : Bool :=
  !l.hasNoFile && l.layer != some memoryLayer
    && (DatabasePath.ofName? l.name).any (·.isOtherFile)

/-- Whether a connection can be made. No database exists before. -/
def isReachable (l : DatabaseLocation) : Bool :=
  l.hasNoFile || l.layer == some memoryLayer || l.isOtherFile
    || (l.access = .create && (DatabasePath.ofName? l.name).any (·.isFree))

/-- Whether tables can be made. Only files are immutable. -/
def isWritable (l : DatabaseLocation) : Bool :=
  l.access != .readOnly && (l.hasNoFile || !l.isImmutable) && !l.isOtherFile

end DatabaseLocation

namespace Database

def bare : Database := { fresh with dropped := Table.all }

/-- What connections find at a location after the tables were made there. -/
def atLocation (l : DatabaseLocation) : Except StartupFault Database :=
  if !l.isReachable then .error .unreachable
  else if !l.isWritable then .error .unwritable
  else .ok (if l.isCommon then fresh else bare)

/-- The database that the environment names, with its tables made. -/
def start (env : Environment) : Except StartupFault Database :=
  match env.text? "DATABASE_URL" with
  | none => .error .notSet
  | some url =>
      match (DatabaseLocation.ofText? url).bind (·.resolve?) with
      | none => .error .unreachable
      | some l => atLocation l

def tableNames (db : Database) : List String := (Table.all.filter db.has).map (·.name)

end Database

end TrackerGate
