import ContactFlow.Reference
import ContactFlow.Scalar

/-!
Values: scalars, lists and tables, with references at any depth. They are the parameters of actions,
the data of definition files and the documents that flows are compiled to. A table keeps its entries
in the order in which they were put in.
-/

namespace ContactFlow

/-- How the members of a bundle belong together: in a fixed order, or as a set. -/
inductive Bundling
  | tuple
  | set
  deriving DecidableEq, Repr, Inhabited

/-- A value. Bundles only come from definition files, and so do cycles, each of which stands for a
list or a table that it is in itself. -/
inductive Value
  | scalar (s : Scalar)
  | list (items : List Value)
  | table (entries : List (Scalar × Value))
  | reference (r : Reference)
  | bundle (b : Bundling) (items : List Value)
  | cycle (ofTable : Bool)
  deriving Repr, Inhabited

namespace Value

@[match_pattern] abbrev null : Value := .scalar .null
@[match_pattern] abbrev bool (b : Bool) : Value := .scalar (.bool b)
@[match_pattern] abbrev int (n : Int) : Value := .scalar (.int n)
@[match_pattern] abbrev real (x : Binary64) : Value := .scalar (.real x)
@[match_pattern] abbrev text (s : String) : Value := .scalar (.text s)

/-- A table whose keys are the given texts. -/
def record (fields : List (String × Value)) : Value :=
  .table (fields.map fun (k, v) => (.text k, v))

def orNull : Option String → Value
  | some s => .text s
  | none => .null

mutual

/-- How many lists and tables stand inside each other in a value. -/
def depth : Value → Nat
  | .scalar _ => 0
  | .list items => listDepth items + 1
  | .table entries => tableDepth entries + 1
  | .reference _ => 0
  | .bundle _ items => listDepth items + 1
  | .cycle _ => 0

def listDepth : List Value → Nat
  | [] => 0
  | v :: rest => max (depth v) (listDepth rest)

def tableDepth : List (Scalar × Value) → Nat
  | [] => 0
  | (_, v) :: rest => max (depth v) (tableDepth rest)

end

mutual

/-- How many values stand inside each other, the innermost one included. -/
def levels : Value → Nat
  | .scalar _ | .reference _ | .cycle _ => 1
  | .list items | .bundle _ items => listLevels items + 1
  | .table entries => tableLevels entries + 1

def listLevels : List Value → Nat
  | [] => 0
  | v :: rest => max (levels v) (listLevels rest)

def tableLevels : List (Scalar × Value) → Nat
  | [] => 0
  | (_, v) :: rest => max (levels v) (tableLevels rest)

end

mutual

/-- Whether a value is in itself somewhere. Bundles are not looked into. -/
def isEndless : Value → Bool
  | .scalar _ | .reference _ | .bundle .. => false
  | .list items => isListEndless items
  | .table entries => isTableEndless entries
  | .cycle _ => true

def isListEndless : List Value → Bool
  | [] => false
  | v :: rest => isEndless v || isListEndless rest

def isTableEndless : List (Scalar × Value) → Bool
  | [] => false
  | (_, v) :: rest => isEndless v || isTableEndless rest

end

mutual

/-- Every reference in a value, from left to right. Bundles are not looked into. -/
def references : Value → List Reference
  | .scalar _ => []
  | .list items => listReferences items
  | .table entries => tableReferences entries
  | .reference r => [r]
  | .bundle .. | .cycle _ => []

def listReferences : List Value → List Reference
  | [] => []
  | v :: rest => references v ++ listReferences rest

def tableReferences : List (Scalar × Value) → List Reference
  | [] => []
  | (_, v) :: rest => references v ++ tableReferences rest

end

mutual

/-- The value with every reference replaced. -/
def mapReferences (f : Reference → Value) : Value → Value
  | .scalar s => .scalar s
  | .list items => .list (mapListReferences f items)
  | .table entries => .table (mapTableReferences f entries)
  | .reference r => f r
  | .bundle b items => .bundle b items
  | .cycle ofTable => .cycle ofTable

def mapListReferences (f : Reference → Value) : List Value → List Value
  | [] => []
  | v :: rest => mapReferences f v :: mapListReferences f rest

def mapTableReferences (f : Reference → Value) : List (Scalar × Value) → List (Scalar × Value)
  | [] => []
  | (k, v) :: rest => (k, mapReferences f v) :: mapTableReferences f rest

end

mutual

/-- The value with every text that is a placeholder turned into the reference it stands for. -/
def withPlaceholders : Value → Value
  | .scalar (.text s) => match Reference.parse s with
    | some r => .reference r
    | none => .scalar (.text s)
  | .scalar s => .scalar s
  | .list items => .list (listWithPlaceholders items)
  | .table entries => .table (tableWithPlaceholders entries)
  | .reference r => .reference r
  | .bundle b items => .bundle b items
  | .cycle ofTable => .cycle ofTable

def listWithPlaceholders : List Value → List Value
  | [] => []
  | v :: rest => withPlaceholders v :: listWithPlaceholders rest

def tableWithPlaceholders : List (Scalar × Value) → List (Scalar × Value)
  | [] => []
  | (k, v) :: rest => (k, withPlaceholders v) :: tableWithPlaceholders rest

end

/-- The value with every reference written as its placeholder. -/
def render : Value → Value := mapReferences fun r => .text r.render

end Value

/-- Named values, such as the parameters of an action. -/
abbrev Table := List (Scalar × Value)

namespace Table

def get? (t : Table) (key : String) : Option Value :=
  (t.find? fun (k, _) => k == .text key).map (·.2)

/-- Sets an entry. A key that is already there keeps its place. -/
def set (t : Table) (key : Scalar) (v : Value) : Table :=
  if t.any fun (k, _) => k.sameKey key then
    t.map fun (k, old) => if k.sameKey key then (k, v) else (k, old)
  else t ++ [(key, v)]

def union (t u : Table) : Table := u.foldl (fun t (k, v) => t.set k v) t

def erase (t : Table) (key : String) : Table := t.filter fun (k, _) => k != .text key

end Table

end ContactFlow
