import TrackerGate.Octets

/-!
# Where a database is

A location is a name and, behind a question mark, settings: how the database may be
used (`mode`), whether connections share it (`cache`), whether nobody changes it
(`immutable`), and through which layer its files are reached (`vfs`). Name and
settings may be written with percent escapes.

The name can itself be a URI with the scheme `file`: an authority, which is empty or this
machine, a path, and options that can narrow down what the location allows. Text behind a
hash is dropped. A location that sets a layer, or that nobody changes the database, takes
its name as it is. `resolve?` brings all of them into one form, in which the name is a
path.
-/

namespace TrackerGate

/-- What may be done with a database. Each includes the ones before it. -/
inductive DatabaseAccess where
  | readOnly
  | readWrite
  | create
  deriving DecidableEq, Repr

namespace DatabaseAccess

def rank : DatabaseAccess → Nat
  | .readOnly => 0
  | .readWrite => 1
  | .create => 2

end DatabaseAccess

structure DatabaseLocation where
  /-- The name of a file, unless the database is held in memory. -/
  name : Octets
  access : DatabaseAccess
  inMemory : Bool
  /-- Connections to one name are to share what they read. -/
  isShared : Bool
  isImmutable : Bool
  /-- The layer between the database and its files. -/
  layer : Option Octets
  deriving DecidableEq, Repr

namespace DatabaseLocation

/-! ## Names -/

/-- `o` without any number of `word`s in front of it. -/
def withoutWord (word o : Octets) : Nat → Octets
  | 0 => o
  | n + 1 =>
      match word.isPrefixOf? o with
      | some rest => withoutWord word rest n
      | none => o

def withoutScheme (o : Octets) : Octets :=
  let o := withoutWord (Octets.ofText "sqlite://") o o.length
  withoutWord (Octets.ofText "sqlite:") o o.length

/-- The name that stands for memory without any file. -/
def memoryName : Octets := Octets.ofText ":memory:"

/-- A database of that name without settings. What is held in memory is shared under
a name of its own. -/
def named? (name : Octets) : Option DatabaseLocation :=
  if name = memoryName then
    some { name := Octets.ofText "file:memory", access := .readWrite, inMemory := true,
           isShared := true, isImmutable := false, layer := none }
  else
    let name := Percent.decode name
    if name.toText?.isSome then
      some { name, access := .readWrite, inMemory := false, isShared := false,
             isImmutable := false, layer := none }
    else none

/-! ## Settings -/

/-- What a setting does. A database that is only read stays so. -/
def set? (l : DatabaseLocation) (name value : Octets) : Option DatabaseLocation :=
  match Octets.shown name, Octets.shown value with
  | "mode", "ro" => some { l with access := .readOnly }
  | "mode", "rw" => some l
  | "mode", "rwc" => some (if l.access = .readOnly then l else { l with access := .create })
  | "mode", "memory" => some { l with inMemory := true, isShared := true }
  | "cache", "private" => some { l with isShared := false }
  | "cache", "shared" => some { l with isShared := true }
  | "immutable", "true" => some { l with isImmutable := true }
  | "immutable", "1" => some { l with isImmutable := true }
  | "immutable", "false" => some { l with isImmutable := false }
  | "immutable", "0" => some { l with isImmutable := false }
  | "vfs", _ => some { l with layer := some value }
  | _, _ => none

/-- A name or a value as it is meant: a plus sign stands for a space. -/
def meaning (o : Octets) : Octets :=
  Percent.decode (o.map fun b => if b = 0x2B then 0x20 else b)

def ofText? (s : String) : Option DatabaseLocation := do
  let (name, query) := Percent.cutAt 0x3F (withoutScheme (Octets.ofText s))
  let l ← named? name
  (Percent.fields query).foldlM (fun l (name, value) => l.set? (meaning name) (meaning value)) l

/-! ## Parts of a URI -/

def untilZero (o : Octets) : Octets := o.takeWhile (· != 0)

/-- What stands behind the authority. -/
def afterAuthority? (uri : Octets) : Option Octets :=
  match (Octets.ofText "//").isPrefixOf? uri with
  | some rest =>
      let authority := rest.takeWhile (· != 0x2F)
      if authority.isEmpty || authority = Octets.ofText "localhost" then
        some (rest.dropWhile (· != 0x2F))
      else none
  | none => some uri

/-! ## Options of URIs -/

/-- A use that the location allows already. Of what is held in memory any use is. -/
def narrow? (l : DatabaseLocation) (access : DatabaseAccess) : Option DatabaseLocation :=
  if l.inMemory || access.rank ≤ l.access.rank then some { l with access, inMemory := false }
  else none

/-- What an option of a URI does. Unknown ones do nothing. -/
def setOption? (l : DatabaseLocation) (name value : Octets) : Option DatabaseLocation :=
  match Octets.shown name, Octets.shown value with
  | "mode", "ro" => l.narrow? .readOnly
  | "mode", "rw" => l.narrow? .readWrite
  | "mode", "rwc" => l.narrow? .create
  | "mode", "memory" => some { l with access := .readWrite, inMemory := true }
  | "mode", _ => none
  | "cache", "private" => some { l with isShared := false }
  | "cache", "shared" => some { l with isShared := true }
  | "cache", _ => none
  | "vfs", _ => some { l with layer := some value }
  | _, _ => some l

/-- The location with the path and the options of a URI. -/
def withUri? (l : DatabaseLocation) (uri : Octets) : Option DatabaseLocation := do
  let rest ← afterAuthority? uri
  let (path, query) := Percent.cutAt 0x3F (rest.takeWhile (· != 0x23))
  let meaning (o : Octets) : Octets := untilZero (Percent.decode o)
  (Percent.fields query).foldlM
    (fun l (name, value) => l.setOption? (meaning name) (meaning value))
    { l with name := meaning path }

/-! ## Paths -/

def layers : List Octets :=
  ["unix", "unix-none", "unix-dotfile", "unix-excl", "memdb"].map Octets.ofText

/-- The location with a path for its name. Without a URI nothing is shared. -/
def resolve? (l : DatabaseLocation) : Option DatabaseLocation := do
  let l ←
    if l.isImmutable || l.layer.isSome then
      some { l with name := untilZero l.name, layer := l.layer.map untilZero }
    else if l.name.contains 0 then none
    else
      match (Octets.ofText "file:").isPrefixOf? l.name with
      | some uri => l.withUri? uri
      | none => some { l with isShared := false }
  if l.layer.all layers.contains then some l else none

end DatabaseLocation

end TrackerGate
