import ContactFlow.Builder.Branching

/-!
Retry loops. A node that may be tried again gets a loop node between itself and the handlers of its
retryable errors. The loop leads back to the node, by way of the retry prompt if there is one, until
the attempts are used up, and then to the handler. When the errors have different handlers, each of
them first records its kind in an attribute, and the loop is left through a comparison on that
attribute.
-/

namespace ContactFlow

def retryExitAttribute : String := "RetryExit"

/-- What became of a node that may be tried again. -/
inductive RetryReport
  | looped (node loop exit : String) (attempts : Int)
  | idle (node : String) (attempts : Int)
  deriving DecidableEq, Repr

/-- How far the expansion of a graph's retries came. -/
structure Looping where
  graph : Graph
  reports : List RetryReport := []
  created : List String := []
  failure : Option UsageError := none

namespace Looping

open Draft

/-- Adds a node. -/
def add (s : Looping) (kind : ActionKind) (hint : String) (parameters : Table)
    (transitions : Transitions) : String × Looping :=
  let (added, graph) := s.graph.allocateNode kind hint parameters
  (added.id, { s with
    graph := graph.modifyNode added.serial fun _ => { added with transitions }
    created := s.created ++ [added.id] })

def setTransitions (s : Looping) (id : String) (t : Transitions) : Looping :=
  { s with graph := s.graph.modify id fun n => { n with transitions := t } }

/-- Writes the error edges of a node back, unless an added node has taken its place. -/
def writeErrors (s : Looping) (n : Node) (errors : List ErrorEdge) : Looping :=
  { s with graph := s.graph.modifyNode n.serial fun _ =>
    { n with transitions := { n.transitions with errors } } }

def retries (r : RetrySpec) (e : ErrorEdge) : Bool := r.retryOn.contains e.kind && e.target.isSome

/-- The handlers of the retryable errors, each with the kind of the first error that leads to it. -/
def handlers (r : RetrySpec) (errors : List ErrorEdge) : List (String × ErrorKind) :=
  (errors.filter (retries r)).foldl (fun groups e =>
    match e.target with
    | some target => if Ordered.contains groups target then groups else groups ++ [(target, e.kind)]
    | none => groups) []

/-- Leads every retryable edge to what its handler is replaced by. -/
def redirect (r : RetrySpec) (errors : List ErrorEdge) (f : String → String) : List ErrorEdge :=
  errors.map fun e => if retries r e then { e with target := e.target.map f } else e

/-- Adds the loop of a node, and the retry prompt. -/
def addLoop (s : Looping) (n : Node) (r : RetrySpec) (exit : String) : String × Looping :=
  let (loop, s) := s.add .loop (n.id ++ "_retry")
    [textKey "LoopCount" (toString (r.maxAttempts - 1))] {}
  let (entry, s) := match r.retryPrompt with
    | none | some "" => (n.id, s)
    | some prompt => s.add .message (n.id ++ "_retry_prompt") [textKey "Text" prompt]
      { next := some n.id }
  let s := s.setTransitions loop
    { conditions := [⟨.equals Builder.continueLooping, some entry⟩,
        ⟨.equals Builder.doneLooping, some exit⟩] }
  (loop, { s with reports := s.reports ++ [.looped n.id loop exit r.maxAttempts] })

/-- Adds a node for each handler that records the kind of its first error. -/
def addMarkers (s : Looping) (n : Node) :
    List (String × ErrorKind) → List (String × String) × Looping
  | [] => ([], s)
  | (handler, kind) :: rest =>
    let (marker, s) := s.add .setAttributes (n.id ++ "_failed_" ++ kind.label)
      [key "Attributes" (.record [(retryExitAttribute, .text kind.label)])] {}
    let (markers, s) := addMarkers s n rest
    ((handler, marker) :: markers, s)

/-- One loop for several handlers. The handler of the last error runs; the first handler stands in
when no error was recorded. -/
def dispatch (s : Looping) (n : Node) (r : RetrySpec)
    (groups : List (String × ErrorKind)) (first : String) : Looping :=
  let (markers, s) := s.addMarkers n groups
  let (dispatch, s) := s.add .checkAttribute (n.id ++ "_retry_exit")
    [textKey "ComparisonValue" ("$.Attributes." ++ retryExitAttribute)]
    { conditions := groups.map fun (handler, kind) => ⟨.equals kind.label, some handler⟩
      errors := [⟨.noMatch, some first⟩] }
  let (loop, s) := s.addLoop n r dispatch
  let s := markers.foldl (fun s (_, marker) => s.setTransitions marker { next := some loop }) s
  s.writeErrors n (redirect r n.transitions.errors fun target =>
    (markers.lookup target).getD target)

/-- Expands a node, unless its attempts are too many to be written. -/
def expandNode (s : Looping) (n : Node) : Looping :=
  match n.retry with
  | none => s
  | some r =>
    if s.failure.isSome || r.maxAttempts ≤ 1 then s
    else if !Numeral.isWritable r.maxAttempts then { s with failure := some .longNumber }
    else match handlers r n.transitions.errors with
      | [] => { s with reports := s.reports ++ [.idle n.id r.maxAttempts] }
      | [(handler, _)] =>
        let (loop, s) := s.addLoop n r handler
        s.writeErrors n (redirect r n.transitions.errors fun _ => loop)
      | groups@((first, _) :: _) => s.dispatch n r groups first

/-- The loop nodes added. -/
def loops (s : Looping) : List String :=
  s.reports.filterMap fun
    | .looped _ loop _ _ => some loop
    | .idle .. => none

end Looping

/-- Adds the loops of the nodes that may be tried again, up to the first that cannot be added. -/
def expandRetries (g : Graph) : Looping := g.toList.foldl Looping.expandNode { graph := g }

end ContactFlow
