import ContactFlow.Graph

/-!
The registry of resource addresses, and the resolution of a graph's references. Every reference to a
registered resource is replaced by its address; the others stay and are reported, each once for its
node.
-/

namespace ContactFlow

structure Registry where
  addresses : List (Reference × String) := []
  deriving DecidableEq, Repr, Inhabited

structure Unresolved where
  kind : ResourceKind
  name : String
  node : String
  deriving DecidableEq, Repr, Inhabited

namespace Unresolved

def message (u : Unresolved) : String :=
  u.kind.wire ++ " '" ++ u.name ++ "' (node '" ++ u.node ++ "')"

end Unresolved

namespace Registry

def lookup (r : Registry) (ref : Reference) : Option String := r.addresses.lookup ref
def isRegistered (r : Registry) (ref : Reference) : Bool := Ordered.contains r.addresses ref
def size (r : Registry) : Nat := r.addresses.length

/-- Records an address. The last one recorded for a resource counts. -/
def register (r : Registry) (ref : Reference) (address : String) : Except UsageError Registry :=
  if ref.name = "" then .error (.emptyResourceName ref.kind)
  else if Text.blank address then .error (.emptyAddress ref.kind ref.name)
  else .ok ⟨Ordered.put r.addresses ref address⟩

/-- The entry that a name and an address of any shape make. -/
def entryOf (kind : ResourceKind) (name address : Value) :
    Except UsageError (Reference × String) := do
  if !name.isTruthy then throw (.emptyResourceName kind)
  if !address.isTruthy then throw (.emptyAddress kind name.display)
  let address ← address.asText.mapError .mismatch
  let name ← name.asKey.mapError .mismatch
  pure (⟨kind, name.display⟩, address)

/-- Records addresses up to the first that is refused. -/
def registerAll (r : Registry) : List (Reference × String) → Registry × Option UsageError
  | [] => (r, none)
  | (ref, address) :: rest => match r.register ref address with
    | .ok r => registerAll r rest
    | .error e => (r, some e)

def ofList (entries : List (Reference × String)) : Except UsageError Registry :=
  match ({} : Registry).registerAll entries with
  | (r, none) => .ok r
  | (_, some e) => .error e

/-- What stands for a reference once it is resolved. -/
def replacement (r : Registry) (ref : Reference) : Value :=
  match r.lookup ref with
  | some address => .text address
  | none => .reference ref

def missingIn (r : Registry) (n : Node) : List Unresolved :=
  ((Value.tableReferences n.parameters).filter fun ref => (r.lookup ref).isNone).map
    fun ref => ⟨ref.kind, ref.name, n.id⟩

def resolveNode (r : Registry) (n : Node) : Node :=
  { n with parameters := Value.mapTableReferences r.replacement n.parameters }

/-- The references of a graph that are not registered, in the order of its nodes. -/
def unresolved (r : Registry) (g : Graph) : List Unresolved :=
  Ordered.distinct (g.toList.flatMap r.missingIn)

def resolvedGraph (r : Registry) (g : Graph) : Graph :=
  { g with nodes := g.nodes.map fun (k, n) => (k, r.resolveNode n), resolved := true }

/-- Resolves a graph, once. -/
def resolve (r : Registry) (g : Graph) : Except UsageError (Graph × List Unresolved) :=
  if g.resolved then .error (.alreadyResolved g.name)
  else .ok (r.resolvedGraph g, r.unresolved g)

end Registry

end ContactFlow
