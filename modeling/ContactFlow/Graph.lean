import ContactFlow.Ident
import ContactFlow.Spec
import ContactFlow.Value

/-!
Graphs of action nodes. A node leaves to its next action, or by the first condition that holds, or
by the edge of the error that occurred. An edge has no target until the branch it opens gets its
first action.
-/

namespace ContactFlow

/-- What a condition asks of the result of its node. A match on input names keypad digits, a spoken
intent or both, and becomes a comparison once the stage of input it belongs to is known. -/
inductive Guard
  | compare (operator : String) (operands : List Scalar)
  | input (digits intent : Option Scalar)
  deriving DecidableEq, Repr, Inhabited

namespace Guard

def equals (operand : String) : Guard := .compare "Equals" [.text operand]

def isInput : Guard → Bool
  | .input .. => true
  | .compare .. => false

end Guard

structure ConditionEdge where
  guard : Guard
  target : Option String := none
  deriving DecidableEq, Repr, Inhabited

structure ErrorEdge where
  kind : ErrorKind
  target : Option String := none
  deriving DecidableEq, Repr, Inhabited

structure Transitions where
  next : Option String := none
  conditions : List ConditionEdge := []
  errors : List ErrorEdge := []
  deriving DecidableEq, Repr, Inhabited

namespace Transitions

/-- Every target: the next action, then the conditions', then the errors'. -/
def targets (t : Transitions) : List String :=
  t.next.toList ++ t.conditions.filterMap (·.target) ++ t.errors.filterMap (·.target)

/-- The edges without a target. -/
def unlinkedConditions (t : Transitions) : List ConditionEdge :=
  t.conditions.filter (·.target.isNone)

def unlinkedErrors (t : Transitions) : List ErrorEdge := t.errors.filter (·.target.isNone)

def unlinked (t : Transitions) : Nat := t.unlinkedConditions.length + t.unlinkedErrors.length

def errorTarget (t : Transitions) (kind : ErrorKind) : Option String :=
  (t.errors.find? (·.kind == kind)).bind (·.target)

end Transitions

/-- An action. Only its identifier, kind, parameters and transitions appear in documents. The serial
number tells it from other nodes that its graph has had under the same identifier. -/
structure Node where
  id : String
  serial : Nat := 0
  kind : ActionKind
  parameters : Table := []
  transitions : Transitions := {}
  retry : Option RetrySpec := none
  spec : Option InputSpec := none
  mode : Option InputMode := none
  label : Value := .null
  deriving Repr, Inhabited

/-- A graph knows how many nodes it has had. -/
structure Graph where
  name : String
  nodes : List (String × Node) := []
  entry : Option String := none
  allocator : Allocator := {}
  resolved : Bool := false
  count : Nat := 0
  deriving Repr, Inhabited

namespace Graph

def get? (g : Graph) (id : String) : Option Node := g.nodes.lookup id
def contains (g : Graph) (id : String) : Bool := Ordered.contains g.nodes id
def keys (g : Graph) : List String := Ordered.keys g.nodes
def size (g : Graph) : Nat := g.nodes.length

/-- The nodes in the order in which they were added. -/
def toList (g : Graph) : List Node := g.nodes.map (·.2)

/-- Adds a node under its identifier, with the next serial number. The first one added is the entry.
-/
def add (g : Graph) (n : Node) : Graph :=
  { g with
    nodes := Ordered.put g.nodes n.id { n with serial := g.count }
    entry := some (g.entry.getD n.id)
    count := g.count + 1 }

/-- A graph of the nodes given. Those of their identifiers that can be reserved are. -/
def ofNodes (name : String) (entry : Option String) (nodes : List (String × Node)) : Graph :=
  { name, entry
    nodes := nodes.zipIdx.foldl (fun l ((k, n), i) => Ordered.put l k { n with serial := i }) []
    allocator := nodes.foldl (fun a (_, n) => (a.reserve n.id).toOption.getD a) {}
    count := nodes.length }

def modify (g : Graph) (id : String) (f : Node → Node) : Graph :=
  { g with nodes := Ordered.modify g.nodes id f }

/-- Changes the node with a serial number, if the graph still has it. -/
def modifyNode (g : Graph) (serial : Nat) (f : Node → Node) : Graph :=
  { g with nodes := g.nodes.map fun (k, n) => (k, if n.serial = serial then f n else n) }

def hasNode (g : Graph) (serial : Nat) : Bool := g.nodes.any fun (_, n) => n.serial == serial

/-- Adds a node under an identifier that the allocator has just handed out. -/
def addFresh (g : Graph) (allocator : Allocator) (id : String) (kind : ActionKind) (hint : Value)
    (parameters : Table) : Node × Graph :=
  let node : Node := { id, serial := g.count, kind, parameters, label := hint }
  (node, { g with allocator }.add node)

/-- Adds a node under a free identifier made from the hint. -/
def allocateNode (g : Graph) (kind : ActionKind) (hint : String) (parameters : Table) :
    Node × Graph :=
  let (id, allocator) := g.allocator.allocate hint kind.name
  g.addFresh allocator id kind (.text hint) parameters

/-- Adds a node under the identifier given or, without one, under a free one made from the hint. -/
def newNode (g : Graph) (kind : ActionKind) (hint : Value) (parameters : Table) (id : Value) :
    Except UsageError (Node × Graph) :=
  match id with
  | .null => (hint.asText.mapError .mismatch).map fun hint => g.allocateNode kind hint parameters
  | id => (g.allocator.reserveValue id).map fun (id, allocator) =>
    g.addFresh allocator id kind hint parameters

end Graph

end ContactFlow
