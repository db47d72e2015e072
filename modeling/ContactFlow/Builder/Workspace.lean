import ContactFlow.Builder.Action
import ContactFlow.Builder.Join

/-!
A flow under construction. The workspace holds the graph, the join points with the open edges of the
graph, the builders that append to it and the sets of branches that its branching nodes offer. There
is one builder for the flow itself and one for every branch; each keeps a cursor, the join point
that its next action resolves.

A step of construction keeps what it has changed when it fails.
-/

namespace ContactFlow

/-- A place in the graph that an edge's target is written to. -/
inductive Slot
  | next (node : Nat)
  | condition (node : Nat) (index : Nat)
  | error (node : Nat) (index : Nat)
  deriving DecidableEq, Repr

namespace Slot

/-- The serial number of the node that the edge leaves. -/
def node : Slot → Nat
  | .next n | .condition n _ | .error n _ => n

def assignIn (s : Slot) (t : Transitions) (target : String) : Transitions :=
  match s with
  | .next _ => { t with next := some target }
  | .condition _ i =>
    { t with conditions := t.conditions.modify i fun e => { e with target := some target } }
  | .error _ i => { t with errors := t.errors.modify i fun e => { e with target := some target } }

def assign (s : Slot) (target : String) (n : Node) : Node :=
  { n with transitions := s.assignIn n.transitions target }

end Slot

/-- A node by its identifier and its serial number. -/
structure Handle where
  id : String
  serial : Nat
  deriving DecidableEq, Repr, Inhabited

def Node.handle (n : Node) : Handle := ⟨n.id, n.serial⟩

inductive Status
  | opened
  | terminated (node : String)
  | closed (why : Closing)
  deriving DecidableEq, Repr

/-- A branch knows the join point at which it may rejoin the flow. After a terminal action there is
none. -/
inductive Scope
  | root
  | branch (join : Option Nat)
  deriving DecidableEq, Repr

structure Builder where
  cursor : Nat
  last : Option Handle := none
  status : Status := .opened
  scope : Scope := .root
  deriving DecidableEq, Repr

instance : Inhabited Builder := ⟨{ cursor := 0 }⟩

namespace Builder

/-- Nothing was appended, and the branch did not leave for anywhere. -/
def isEmpty (b : Builder) : Bool := b.last.isNone && b.status == .opened

def isTerminated (b : Builder) : Bool :=
  match b.status with
  | .terminated _ => true
  | _ => false

end Builder

/-- The branches of one node: who appended it, where its branches rejoin, and which are taken. -/
structure BranchSet where
  builder : Nat
  node : Handle
  join : Nat
  offer : Offer
  taken : List (List Scalar) := []
  deriving DecidableEq, Repr, Inhabited

/-- Nodes are detached when another one is put under their identifier. They are no part of the graph
any more, but edges of theirs may still be open. -/
structure Workspace where
  flow : String
  graph : Graph
  detached : List Node := []
  joins : Joins Slot := #[]
  builders : Array Builder := #[]
  sets : Array BranchSet := #[]
  deriving Repr, Inhabited

namespace Workspace

/-- An empty flow with its one builder. -/
def start (flow : String) : Except UsageError Workspace :=
  if Text.blank flow then .error .emptyFlowName
  else .ok { flow, graph := { name := flow }, joins := #[{}], builders := #[{ cursor := 0 }] }

/-- A workspace around a graph that is there already. -/
def ofGraph (g : Graph) : Workspace :=
  { flow := g.name, graph := g, joins := #[{}], builders := #[{ cursor := 0 }] }

def builder (w : Workspace) (b : Nat) : Builder := w.builders.getD b default
def branches (w : Workspace) (s : Nat) : BranchSet := w.sets.getD s default

def setBuilder (w : Workspace) (b : Nat) (x : Builder) : Workspace :=
  { w with builders := w.builders.setIfInBounds b x }

def setBranches (w : Workspace) (s : Nat) (x : BranchSet) : Workspace :=
  { w with sets := w.sets.setIfInBounds s x }

/-- Changes the node with a serial number, in the graph or detached. -/
def modifyNode (w : Workspace) (serial : Nat) (f : Node → Node) : Workspace :=
  { w with
    graph := w.graph.modifyNode serial f
    detached := w.detached.map fun n => if n.serial = serial then f n else n }

def node? (w : Workspace) (serial : Nat) : Option Node :=
  (w.graph.toList ++ w.detached).find? (·.serial == serial)

/-- Takes over a table of join points, and links the edges that it says are to be linked. -/
def link (w : Workspace) (r : Joins Slot × List (Slot × String)) : Workspace :=
  r.2.foldl (fun w (slot, target) => w.modifyNode slot.node (slot.assign target))
    { w with joins := r.1 }

def freshJoin (w : Workspace) (waiting : List Slot) : Nat × Workspace :=
  let (j, joins) := w.joins.fresh waiting
  (j, { w with joins })

def resolve (w : Workspace) (j : Nat) (target : String) : Workspace :=
  w.link (w.joins.resolve j target)

def forward (w : Workspace) (j other : Nat) : Workspace := w.link (w.joins.forward j other)

/-- Moves a builder's cursor to a new join point. -/
def moveCursor (w : Workspace) (b : Nat) (waiting : List Slot) : Workspace :=
  let (j, w) := w.freshJoin waiting
  w.setBuilder b { w.builder b with cursor := j }

/-- Adds a builder whose first action is the target of the edge given. -/
def openBuilder (w : Workspace) (origin : Slot) (join : Option Nat) : Nat × Workspace :=
  let (j, w) := w.freshJoin [origin]
  (w.builders.size, { w with builders := w.builders.push { cursor := j, scope := .branch join } })

/-- The graph to compile. Only the builder of the flow itself gives it away. -/
def finished (w : Workspace) (b : Nat) : Except UsageError Graph :=
  match (w.builder b).scope with
  | .root => .ok w.graph
  | .branch _ => .error .notTheFlow

/-- Takes over a graph that has one more node, under the identifier given. The node that went by it
before is detached. -/
def withNode (w : Workspace) (g : Graph) (id : String) : Workspace :=
  { w with graph := g, detached := w.detached ++ (w.graph.get? id).toList }

/-- Replaces the graph, detaches the nodes that are not in the new one, and forgets the open edges
that are not kept. -/
def replaceGraph (w : Workspace) (g : Graph) (kept : Slot → Bool) : Workspace :=
  { w with
    graph := g
    detached := w.detached ++ w.graph.toList.filter fun n => !g.hasNode n.serial
    joins := w.joins.keepWaiting kept }

end Workspace

/-- A step of construction. -/
def BuildM (ε α : Type) : Type := Workspace → Except ε α × Workspace

namespace BuildM

variable {ε ε' α β : Type}

def pure (a : α) : BuildM ε α := fun w => (.ok a, w)

def bind (x : BuildM ε α) (f : α → BuildM ε β) : BuildM ε β := fun w =>
  match x w with
  | (.ok a, w) => f a w
  | (.error e, w) => (.error e, w)

instance : Monad (BuildM ε) where
  pure := pure
  bind := bind

def fail (e : ε) : BuildM ε α := fun w => (.error e, w)
def read : BuildM ε Workspace := fun w => (.ok w, w)
def change (f : Workspace → Workspace) : BuildM ε Unit := fun w => (.ok (), f w)

/-- Changes the workspace and gives a result. -/
def step (f : Workspace → α × Workspace) : BuildM ε α := fun w =>
  let (a, w) := f w
  (.ok a, w)

def ofExcept : Except ε α → BuildM ε α
  | .ok a => pure a
  | .error e => fail e

def mapError (f : ε → ε') (x : BuildM ε α) : BuildM ε' α := fun w =>
  match x w with
  | (.ok a, w) => (.ok a, w)
  | (.error e, w) => (.error (f e), w)

end BuildM

end ContactFlow
