import ContactFlow.Definition.Field

/-!
Definitions in several files. The flows and the settings of a file are added to those of the files
before it, and so are the addresses of each kind of resource. Anything else replaces what was there.
What an earlier file has put in the place of a table is added to as far as its shape allows: a set
takes the keys, and the items of a list are replaced by their index.
-/

namespace ContactFlow

/-- What a file holds cannot be added to what an earlier one has put in its place. -/
inductive MergeError
  | cannotExtend
  | cannotAssign
  | noSuchItem
  | indexSize
  deriving DecidableEq, Repr

def MergeError.message : MergeError → String
  | .cannotExtend | .cannotAssign => ""
  | .noSuchItem => "list assignment index out of range"
  | .indexSize => "cannot fit 'int' into an index-sized integer"

namespace Merge

def start : Table :=
  [(.text "flows", .table []), (.text "settings", .table []), (.text "resources", .table [])]

/-- The keys that members of a set are. -/
def memberKeys (members : List Value) : List Scalar :=
  members.filterMap fun
    | .scalar s => some s
    | _ => none

/-- A set with the keys of a table added. -/
def withKeys (members : List Value) (entries : Table) : List Value :=
  let known : Table := (memberKeys members).map (·, .null)
  (Table.union known (entries.map fun (k, _) => (k, .null))).map fun (k, _) => .scalar k

/-- The entries added to a value: a table, or a set, which takes their keys. -/
def extended (v : Value) (entries : Table) : Except MergeError Value :=
  match v with
  | .table t => .ok (.table (Table.union t entries))
  | .bundle .set members => .ok (.bundle .set (withKeys members entries))
  | _ => .error .cannotExtend

/-- The list with an item replaced. A negative index counts from the end. -/
def withItem (items : List Value) (index : Int) (v : Value) : Except MergeError Value :=
  let i := if index < 0 then index + items.length else index
  if index < -Place.wordLimit || Place.wordLimit ≤ index then .error .indexSize
  else if i < 0 || (items.length : Int) ≤ i then .error .noSuchItem
  else .ok (.list (items.set i.toNat v))

def lookup (t : Table) (k : Scalar) : Option Value :=
  (t.find? fun (k', _) => k'.sameKey k).map (·.2)

/-- Adds what a file holds for one kind of resource. -/
def resource (resources : Value) (kind : Scalar) (addresses : Value) : Except MergeError Value :=
  match resources, addresses with
  | .table t, .table entries =>
    (extended ((lookup t kind).getD (.table [])) entries).map fun v => .table (Table.set t kind v)
  | .table t, addresses => .ok (.table (Table.set t kind addresses))
  | _, .table _ => .error .cannotExtend
  | .list items, addresses => match kind with
    | .int n => withItem items n addresses
    | .bool b => withItem items (if b then 1 else 0) addresses
    | _ => .error .cannotAssign
  | _, _ => .error .cannotAssign

def resources (v : Value) : Table → Except MergeError Value
  | [] => .ok v
  | (kind, addresses) :: rest => (resource v kind addresses).bind fun v => resources v rest

def sectionOf (data : Table) (name : String) : Value := (data.get? name).getD .null

/-- Adds one entry of a file. -/
def entry (data : Table) (k : Scalar) (v : Value) : Except MergeError Table :=
  match k, v with
  | .text "flows", .table entries =>
    (extended (sectionOf data "flows") entries).map (data.set k)
  | .text "settings", .table entries =>
    (extended (sectionOf data "settings") entries).map (data.set k)
  | .text "resources", .table entries =>
    (resources (sectionOf data "resources") entries).map (data.set k)
  | _, v => .ok (data.set k v)

/-- Adds the entries of a file. -/
def add (data chunk : Table) : Except MergeError Table :=
  chunk.foldlM (fun data (k, v) => entry data k v) data

/-- The entries of several files together. -/
def all (chunks : List Table) : Except MergeError Table := chunks.foldlM add start

end Merge

end ContactFlow
