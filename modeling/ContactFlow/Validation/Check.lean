import ContactFlow.Graph
import ContactFlow.Value.Display

/-!
The checks of a finished graph. Each one lists what is wrong, with the node it is wrong at. Two of
them rest on the walk, the keys reached from the entry along the edges of the graph.
-/

namespace ContactFlow

/-- A message, and the node it is about. -/
abbrev Remark := String × Option String

namespace Graph

def isKey (g : Graph) (id : String) : Bool := Ordered.contains g.nodes id

/-- The targets of the node under a key that are keys themselves. -/
def successors (g : Graph) (key : String) : List String :=
  match g.get? key with
  | some n => n.transitions.targets.filter g.isKey
  | none => []

/-- Visits the keys in the queue. Each key is queued once, so as many steps as there are nodes do.
-/
def walkFrom (g : Graph) : Nat → List String → List String → List String
  | 0, seen, _ => seen
  | _, seen, [] => seen
  | fuel + 1, seen, key :: queue =>
    let fresh := (Ordered.distinct (g.successors key)).filter fun t => !seen.contains t
    walkFrom g fuel (seen ++ fresh) (queue ++ fresh)

/-- The keys reached from the entry, the nearer ones first. -/
def walk (g : Graph) : List String :=
  match g.entry with
  | none => []
  | some entry => if g.isKey entry then walkFrom g g.size [entry] [entry] else []

def entryText (g : Graph) : String := g.entry.getD "None"

end Graph

namespace Check

def nonEmpty (g : Graph) : List Remark :=
  if g.nodes.isEmpty then [("Flow '" ++ g.name ++ "' has no actions", none)] else []

def misplaced (key : String) (n : Node) : List Remark :=
  if key = n.id then []
  else [("Action '" ++ n.id ++ "' is stored under key '" ++ key ++ "'", some n.id)]

/-- Goes through the nodes with the identifiers met so far, each with the key it was met under. -/
def uniqueIdsFrom (seen : List (String × String)) : List (String × Node) → List Remark
  | [] => []
  | (key, n) :: rest => misplaced key n ++ match seen.lookup n.id with
    | some first =>
      ("Duplicate action identifier '" ++ n.id ++ "' (keys '" ++ first ++ "' and '" ++ key ++ "')",
        some n.id) :: uniqueIdsFrom seen rest
    | none => uniqueIdsFrom (seen ++ [(n.id, key)]) rest

def uniqueIds (g : Graph) : List Remark := uniqueIdsFrom [] g.nodes

def entryPoint (g : Graph) : List Remark :=
  match g.entry with
  | none => [("Flow has no entry action", none)]
  | some entry =>
    if g.isKey entry then [] else [("Entry action '" ++ entry ++ "' does not exist", some entry)]

def reachability (g : Graph) : List Remark :=
  let reached := g.walk
  (g.keys.filter fun key => !reached.contains key).map fun key =>
    ("Action '" ++ key ++ "' is not reachable from entry '" ++ g.entryText ++ "'", some key)

def danglingAt (g : Graph) (n : Node) : List Remark :=
  ((n.transitions.targets.filter fun t => !g.isKey t).map fun t =>
    ("Transition from '" ++ n.id ++ "' points to missing action '" ++ t ++ "'", some n.id)) ++
  List.replicate n.transitions.unlinked
    ("Branch of '" ++ n.id ++ "' has no target; it continued to a point where no action was " ++
      "appended",
      some n.id)

def danglingTransitions (g : Graph) : List Remark := g.toList.flatMap (danglingAt g)

def isTerminalKey (g : Graph) (key : String) : Bool :=
  (g.get? key).any fun n => n.kind.isTerminal

def terminalPresent (g : Graph) : List Remark :=
  if g.walk.any (isTerminalKey g) then []
  else [("No path from entry '" ++ g.entryText ++
    "' reaches a terminal action (disconnect, end or transfer)", none)]

def isAddress : Option Value → Bool
  | some (.text s) => !Text.blank s
  | _ => false

def invocationAt (n : Node) : List Remark :=
  if n.kind != .invokeExternal then []
  else
    let address := Table.get? n.parameters "LambdaFunctionARN"
    match (address.map Value.references).getD [] with
    | r :: _ =>
      [("External invocation '" ++ n.id ++ "' calls unregistered function '" ++ r.name ++ "'",
        some n.id)]
    | [] =>
      if isAddress address then []
      else [("External invocation '" ++ n.id ++ "' has no resolved function address (got " ++
        (address.getD .null).display ++ ")", some n.id)]

def externalInvocation (g : Graph) : List Remark := g.toList.flatMap invocationAt

def terminalTransitionsAt (n : Node) : List Remark :=
  match n.kind.isTerminal, n.transitions.next with
  | true, some next =>
    [("Terminal action '" ++ n.id ++ "' (" ++ n.kind.name ++ ") has a next action '" ++ next ++ "'",
      some n.id)]
  | _, _ => []

def terminalTransitions (g : Graph) : List Remark := g.toList.flatMap terminalTransitionsAt

end Check

end ContactFlow
