import ContactFlow.Ordered
import ContactFlow.Usage

/-!
Identifiers of nodes. A slug has the letters and digits of a hint, in lower case, with one
underscore wherever other characters stood between two of them. An allocator hands out each
identifier once: the slug itself first, then the slug with the numbers from two on.
-/

namespace ContactFlow

namespace Slug

def maxLength : Nat := 48

def isSlugChar (c : Char) : Bool := ('a' ≤ c && c ≤ 'z') || ('0' ≤ c && c ≤ '9')

/-- Each run of other characters becomes one underscore. The flag is set inside such a run. -/
def collapse : Bool → List Char → List Char
  | _, [] => []
  | inRun, c :: cs =>
    if isSlugChar c then c :: collapse false cs
    else if inRun then collapse true cs
    else '_' :: collapse true cs

def ofLowered (cs : List Char) : List Char :=
  let isBar := fun c : Char => c == '_'
  Text.trimRight isBar ((Text.trim isBar (collapse false cs)).take maxLength)

def ofHint (hint : String) : String :=
  String.ofList (ofLowered (hint.toList.flatMap Text.lowerChar))

end Slug

/-- The identifiers in use, and for each base how many of its identifiers were passed over. -/
structure Allocator where
  used : List String := []
  counters : List (String × Nat) := []
  deriving DecidableEq, Repr, Inhabited

namespace Allocator

def candidate (base : String) (count : Nat) : String :=
  if count = 0 then base else base ++ "_" ++ toString (count + 1)

/-- The first count from the given one on whose candidate is free. -/
def firstFree (used : List String) (base : String) : Nat → Nat → Nat
  | 0, count => count
  | fuel + 1, count =>
    if used.contains (candidate base count) then firstFree used base fuel (count + 1) else count

/-- The slug of the hint or, when that is empty, of the fallback. -/
def base (hint fallback : String) : String :=
  let slug := Slug.ofHint hint
  if slug ≠ "" then slug
  else
    let slug := Slug.ofHint fallback
    if slug ≠ "" then slug else "action"

def allocate (a : Allocator) (hint fallback : String) : String × Allocator :=
  let base := base hint fallback
  let count := firstFree a.used base a.used.length ((a.counters.lookup base).getD 0)
  let id := candidate base count
  (id, ⟨a.used ++ [id], Ordered.put a.counters base (count + 1)⟩)

/-- Takes an identifier that was chosen by hand. -/
def reserve (a : Allocator) (id : String) : Except UsageError Allocator :=
  if Text.blank id then .error .emptyNodeId
  else if a.used.contains id then .error (.duplicateNodeId id)
  else .ok { a with used := a.used ++ [id] }

/-- Takes an identifier of unknown shape. What counts as false is as good as empty. -/
def reserveValue (a : Allocator) (id : Value) : Except UsageError (String × Allocator) :=
  if !id.isTruthy then .error .emptyNodeId
  else do
    let id ← id.asText.mapError .mismatch
    pure (id, ← a.reserve id)

def contains (a : Allocator) (id : String) : Bool := a.used.contains id
def size (a : Allocator) : Nat := a.used.length

end Allocator

end ContactFlow
