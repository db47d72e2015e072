import ContactFlow.Value
import ContactFlow.Yaml.Flatten

/-!
The value of a YAML text. Mappings become tables; of two entries under the same key the later one
counts, in the place of the earlier. Scalars get their values at once, while collections wait until
those that were met before them are filled. So the failure that counts is the first one in this
order.
-/

namespace ContactFlow.Yaml

/-- What a node was made. Nodes inside go by their numbers. -/
inductive Made
  | scalar (s : Scalar)
  | list (items : List Nat)
  | table (entries : List (Scalar × Nat))
  | set (members : List Scalar)
  | pairs (entries : List (Nat × Nat))
  deriving Repr, Inhabited

/-- The nodes, what was made of them so far and the collections that wait to be filled. -/
structure Maker where
  nodes : Nodes
  made : Array (Option Made)
  waiting : List Nat := []

abbrev Make := StateT Maker (Except Failure)

namespace Make

def node (id : Nat) : Make Node := do pure ((← get).nodes.node id)

def settle (id : Nat) (m : Made) : Make Unit :=
  modify fun s => { s with made := s.made.setIfInBounds id (some m) }

/-- The text of a scalar. A mapping has the text of its default, which may lead back to itself. -/
def textOf (ns : Nodes) : Nat → Node → Except Failure String
  | 0, _ => .error .endless
  | fuel + 1, n => match n with
    | .scalar _ _ text => .ok text
    | .sequence .. => .error .malformed
    | .mapping _ entries => match entries.find? fun (k, _) => (ns.node k).isOf .default with
      | some (_, v) => textOf ns fuel (ns.node v)
      | none => .error .malformed

def scalarOf (ns : Nodes) (k : ScalarKind) (n : Node) : Except Failure Scalar := do
  if k = .merge || k = .default then throw .malformed
  let text ← textOf ns (ns.size + 1) n
  match k, n with
  | .stamp, .mapping .. => throw .stampOfMapping
  | k, _ => Meaning.scalar text k

/-- Makes a node, unless it was made before. -/
def start (id : Nat) : Make Unit := do
  let s ← get
  if ((s.made.getD id none).isSome) then return
  let n := s.nodes.node id
  match n.kind? with
  | none => throw .malformed
  | some (.scalar k) => settle id (.scalar (← scalarOf s.nodes k n))
  | some _ =>
    settle id (.list [])
    modify fun s => { s with waiting := s.waiting ++ [id] }

/-- Makes a node that is the key of an entry. Only scalars can be one. -/
def keyOf (id : Nat) : Make Scalar := do
  start id
  match (← get).made.getD id none with
  | some (.scalar k) => pure k
  | _ => throw .malformed

def tableOf (id : Nat) : Make (List (Scalar × Nat)) := do
  let s ← get
  if !s.nodes.isMapping id then throw .malformed
  set { s with nodes := ← s.nodes.flatten id }
  (← node id).entries.mapM fun (k, v) => do
    let key ← keyOf k
    start v
    pure (key, v)

def pairOf (id : Nat) : Make (Nat × Nat) := do
  match ← node id with
  | .mapping _ [(k, v)] =>
    start k
    start v
    pure (k, v)
  | _ => throw .malformed

def itemsOf (id : Nat) : Make (List Nat) := do
  match ← node id with
  | .sequence _ items => pure items
  | _ => throw .malformed

/-- Fills a collection. -/
def fill (id : Nat) : Make Unit := do
  match (← node id).kind? with
  | some .table => settle id (.table (← tableOf id))
  | some .set => settle id (.set ((← tableOf id).map (·.1)))
  | some .pairs => settle id (.pairs (← (← itemsOf id).mapM pairOf))
  | _ =>
    let items ← itemsOf id
    items.forM start
    settle id (.list items)

/-- Fills the collections that wait, those that come to wait meanwhile too. No node waits twice. -/
def fillAll : Nat → Make Unit
  | 0 => pure ()
  | fuel + 1 => do
    match (← get).waiting with
    | [] => pure ()
    | id :: rest =>
      modify fun s => { s with waiting := rest }
      fill id
      fillAll fuel

/-- Makes a node and all that is inside it. -/
def all (ns : Nodes) (root : Nat) : Except Failure (Array (Option Made)) := do
  let makeAll : Make Unit := do
    start root
    fillAll (ns.size + 1)
  let (_, s) ← makeAll { nodes := ns, made := Array.replicate ns.size none }
  pure s.made

end Make

namespace Made

def isTable : Made → Bool
  | .table _ => true
  | _ => false

/-- The value that was made, inside the collections on the way to it. -/
def value (made : Array (Option Made)) : Nat → List Nat → Nat → Value
  | 0, _, _ => .null
  | fuel + 1, path, id =>
    match made.getD id none with
    | none => .null
    | some m =>
      if path.contains id then .cycle m.isTable
      else
        let inner := value made fuel (id :: path)
        match m with
        | .scalar s => .scalar s
        | .list items => .list (items.map inner)
        | .table entries => .table (Table.union [] (entries.map fun (k, v) => (k, inner v)))
        | .set members =>
          .bundle .set ((Table.union [] (members.map fun k => (k, .null))).map fun (k, _) =>
            .scalar k)
        | .pairs entries => .list (entries.map fun (k, v) => .bundle .tuple [inner k, inner v])

end Made

/-- Carriage returns end lines, alone or before a line feed. -/
def normalizeBreaks : List Char → List Char
  | '\r' :: '\n' :: rest => '\n' :: normalizeBreaks rest
  | '\r' :: rest => '\n' :: normalizeBreaks rest
  | c :: rest => c :: normalizeBreaks rest
  | [] => []

/-- The characters that a text may hold. -/
def isAllowed (c : Char) : Bool :=
  let n := c.toNat
  n == 0x9 || n == 0xA || n == 0xD || (0x20 ≤ n && n ≤ 0x7E) || n == 0x85 ||
    (0xA0 ≤ n && n ≤ 0xFFFD) || 0x10000 ≤ n

/-- A text is looked through piece by piece before its characters are read. The first two pieces are
looked through together. -/
def pieceSize : Nat := 4096

/-- Where the piece starts that a character is in. -/
def pieceStart (index : Nat) : Nat :=
  if index < 2 * pieceSize then 0 else index / pieceSize * pieceSize

/-- The nodes of a text. A character that is not allowed is met before any fault that is not found
ahead of its piece. -/
def nodesOf (cs : List Char) : Except Failure (Nodes × Option Nat) :=
  match cs.findIdx? (!isAllowed ·) with
  | none => Nodes.read cs
  | some index => match Nodes.read cs with
    | .error e => .error (if e.index?.any (· < pieceStart index) then e else .malformed)
    | .ok _ => .error .malformed

/-- The value of a text. A text without content is null. -/
def read (text : String) : Except Failure Value := do
  match ← nodesOf (normalizeBreaks text.toList) with
  | (_, none) => pure .null
  | (ns, some root) =>
    let made ← Make.all ns root
    pure (Made.value made (ns.size + 1) [] root)

end ContactFlow.Yaml
