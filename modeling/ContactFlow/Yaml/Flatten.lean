import ContactFlow.Yaml.Meaning
import ContactFlow.Yaml.Node

/-!
Merging mappings. Under the merge key of a mapping stand mappings whose entries come before its own.
They are moved into it before its entries are given their values.
-/

namespace ContactFlow.Yaml

/-- What a node is said to be: a scalar of some kind or one of the collections. -/
inductive Kind
  | scalar (k : ScalarKind)
  | list
  | table
  | set
  | pairs
  deriving DecidableEq, Repr

def kindNames : List (String × Kind) :=
  [("null", .scalar .null), ("bool", .scalar .bool), ("int", .scalar .int),
    ("float", .scalar .real), ("timestamp", .scalar .stamp), ("binary", .scalar .binary),
    ("str", .scalar .text), ("merge", .scalar .merge), ("value", .scalar .default), ("seq", .list),
    ("map", .table), ("set", .set), ("omap", .pairs), ("pairs", .pairs)]

/-- The kind that a tag asks for, if it is a known one. -/
def kindOfTag (tag : String) : Option Kind :=
  kindNames.findSome? fun (name, kind) => if tag = coreTags ++ name then some kind else none

namespace Node

/-- Plain scalars mean what they are written like, and the others are texts. -/
def kind? : Node → Option Kind
  | .scalar (some tag) _ _ | .sequence (some tag) _ | .mapping (some tag) _ => kindOfTag tag
  | .scalar none plain text => some (.scalar (if plain then Meaning.kind text else .text))
  | .sequence none _ => some .list
  | .mapping none _ => some .table

def isOf (k : ScalarKind) (n : Node) : Bool := n.kind? == some (.scalar k)

/-- The node, said to be a text. -/
def asText : Node → Node
  | .scalar _ plain text => .scalar (some (coreTags ++ "str")) plain text
  | .sequence _ items => .sequence (some (coreTags ++ "str")) items
  | .mapping _ entries => .mapping (some (coreTags ++ "str")) entries

/-- The entries of a mapping. -/
def entries : Node → List (Nat × Nat)
  | .mapping _ entries => entries
  | _ => []

def withEntries (entries : List (Nat × Nat)) : Node → Node
  | .mapping tag _ => .mapping tag entries
  | n => n

end Node

namespace Nodes

def node (ns : Nodes) (id : Nat) : Node := ns.getD id default

def isMapping (ns : Nodes) (id : Nat) : Bool :=
  match ns.node id with
  | .mapping .. => true
  | _ => false

def withEntries (ns : Nodes) (id : Nat) (entries : List (Nat × Nat)) : Nodes :=
  ns.modify id (·.withEntries entries)

/-- Takes out the first merge: the mappings under it, and the other entries. -/
def takeMerge (ns : Nodes) : List (Nat × Nat) → Option (Nat × List (Nat × Nat))
  | [] => none
  | (k, v) :: rest =>
    if (ns.node k).isOf .merge then some (v, rest)
    else (ns.takeMerge rest).map fun (found, rest) => (found, (k, v) :: rest)

def merges (ns : Nodes) : Nat :=
  ns.foldl (fun n node => n + node.entries.countP fun (k, _) => (ns.node k).isOf .merge) 0

/-- The keys of a default become texts. -/
def withPlainDefaults (ns : Nodes) (entries : List (Nat × Nat)) : Nodes :=
  entries.foldl (fun ns (k, _) => if (ns.node k).isOf .default then ns.modify k Node.asText else ns)
    ns

/-- Flattens mappings one after the other. Of their entries, those of the last one come first. -/
def flattenAll (flatten : Nat → Nodes → Except Failure Nodes) :
    List Nat → Nodes → Except Failure (List (Nat × Nat) × Nodes)
  | [], ns => .ok ([], ns)
  | id :: rest, ns => do
    if !ns.isMapping id then throw .malformed
    let ns ← flatten id ns
    let own := (ns.node id).entries
    let (others, ns) ← flattenAll flatten rest ns
    pure (others ++ own, ns)

/-- Moves the entries of the mappings under its merge keys into a mapping, behind those that were
moved before. Every step takes one merge out. -/
def flattenWith : Nat → List (Nat × Nat) → Nat → Nodes → Except Failure Nodes
  | 0, _, _, ns => .ok ns
  | fuel + 1, merged, id, ns =>
    let entries := (ns.node id).entries
    match ns.takeMerge entries with
    | none => .ok ((ns.withPlainDefaults entries).withEntries id (merged ++ entries))
    | some (source, rest) => do
      let sources ← match ns.node source with
        | .mapping .. => pure [source]
        | .sequence _ items => pure items
        | .scalar .. => throw .malformed
      let (more, ns) ← flattenAll (flattenWith fuel []) sources (ns.withEntries id rest)
      flattenWith fuel (merged ++ more) id ns

def flatten (ns : Nodes) (id : Nat) : Except Failure Nodes := flattenWith (ns.merges + 1) [] id ns

end Nodes

end ContactFlow.Yaml
