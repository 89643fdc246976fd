import TrackerGate.Decimal
import TrackerGate.Failure
import TrackerGate.Text.Blank

/-!
# Resource paths

Which project and which issue a request is about is read off its path alone: the
segment after the first `projects` names the project, the one after the first
`issues` the issue. Some segments stand for a collection or a view instead; they,
and a path that ends at the marker, name nothing (`Target.bypass`). Any other segment
must be an identifier. What follows a question mark or a hash is no part of the
path.
-/

namespace TrackerGate

/-- The segments whose successor names a resource. -/
inductive Marker where
  | projects
  | issues
  deriving DecidableEq, Repr

namespace Marker

def word : Marker → String
  | .projects => "projects"
  | .issues => "issues"

def entity : Marker → String
  | .projects => "project"
  | .issues => "issue"

/-- The successors that name nothing. -/
def placeholders : Marker → List String
  | .projects => ["", "add", "recent"]
  | .issues => ["", "recent", "timeseries"]

end Marker

/-- What a path says about the resource behind a marker. -/
inductive Target where
  | bypass
  | id (id : Int64)
  deriving DecidableEq, Repr

structure ResourcePath where
  segments : List String
  deriving DecidableEq, Repr

namespace ResourcePath

/-! ## Segments -/

/-- The characters in front of a query or a fragment. -/
def withoutQuery (cs : List Char) : List Char := cs.takeWhile fun c => c != '?' && c != '#'

/-- The characters without a slash in front of them. -/
def withoutRoot : List Char → List Char
  | '/' :: cs => cs
  | cs => cs

/-- The segments of a path; an empty path has none, not one that is empty. -/
def ofChars (cs : List Char) : ResourcePath :=
  match withoutRoot (withoutQuery cs) with
  | [] => ⟨[]⟩
  | cs => ⟨(Text.pieces '/' cs).map String.ofList⟩

def ofText (s : String) : ResourcePath := ofChars s.toList

/-- The segment that stands `offset` places behind the first `marker`. -/
def after (p : ResourcePath) (marker : Marker) (offset : Nat) : Option String :=
  (p.segments.dropWhile (· != marker.word))[offset]?

def projectSegment (p : ResourcePath) : Option String := p.after .projects 1

def issueSegment (p : ResourcePath) : Option String := p.after .issues 1

/-- What follows the project's identifier. -/
def projectSubResource (p : ResourcePath) : Option String := p.after .projects 2

/-! ## Kinds of requests -/

/-- The statistics of a project are never changed by a request. -/
def isProjectStats (p : ResourcePath) : Bool := p.projectSubResource == some "stats"

/-- Work on one issue below its project, as opposed to the project's collection of
issues. -/
def isIssueManagement (p : ResourcePath) : Bool :=
  p.projectSubResource == some Marker.issues.word
    && (p.after .projects 3).any (!Marker.issues.placeholders.contains ·)

/-! ## Targets -/

/-- The identifier that a segment spells: decimal digits, with a plus sign at most,
and not beyond what a row can have. -/
def id? (segment : String) : Option Int64 :=
  match Decimal.unsigned? segment.toList with
  | some n => if n < 0x8000000000000000 then some (Int64.ofNat n) else none
  | none => none

def classify (marker : Marker) : Option String → Except Failure Target
  | none => .ok .bypass
  | some segment =>
      if marker.placeholders.contains segment then .ok .bypass
      else
        match id? segment with
        | some n => .ok (.id n)
        | none => .error (.badRequest ("invalid " ++ marker.entity ++ " id: " ++ segment))

def target (p : ResourcePath) (marker : Marker) : Except Failure Target :=
  classify marker (p.after marker 1)

end ResourcePath

end TrackerGate
