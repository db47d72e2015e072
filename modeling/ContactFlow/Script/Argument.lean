import ContactFlow.Script.StepError
import ContactFlow.Value.Member

/-!
Arguments of the steps of a script. A step is a table: one entry names what to do, some say how the
script goes on, and the others are arguments. An argument may be of any shape. A table with the one
key `$ref` is a reference, with its kind and its name in a list.
-/

namespace ContactFlow.Script

abbrev Result := Except StepError

/-- An entry of a step that has to be there. -/
def required (t : Table) (name : String) : Result Value :=
  match t.get? name with
  | some v => .ok v
  | none => .error (.missing name)

def argument (t : Table) (name : String) (absent : Value := .null) : Value :=
  (t.get? name).getD absent

/-- Whether an entry is there and counts as true. -/
def isSet (t : Table) (name : String) : Bool := (t.get? name).any Value.isTruthy

/-- The entries of a step. Anything but a table has none. -/
def entriesOf : Value → Table
  | .table t => t
  | _ => []

/-- The members of a list of steps or calls. -/
def itemsOf : Value → List Value
  | .list items => items
  | _ => []

def listed (t : Table) (name : String) : List Value := itemsOf (argument t name)

def resourceKind (v : Value) : Result ResourceKind := v.asResourceKind.mapError .unreadable

/-- The reference that a kind and a name make. -/
def referenceTo (kind name : Value) : Result Reference := do
  pure ⟨← resourceKind kind, name.display⟩

def unpackMessage (wanted found : Nat) : String :=
  if wanted < found then "too many values to unpack (expected " ++ toString wanted ++ ")"
  else "not enough values to unpack (expected " ++ toString wanted ++ ", got " ++ toString found ++
    ")"

/-- The reference that stands under the key for references. -/
def referenceOf (v : Value) : Result Reference := do
  match ← StepError.ofMismatch (v.members.mapError fun _ => .operand) with
  | [kind, name] => referenceTo kind name
  | members => throw (.unreadable (unpackMessage 2 members.length))

mutual

/-- The value with the references in it. -/
def decode : Value → Result Value
  | .table entries =>
    match entries with
    | [(.text "$ref", v)] => (referenceOf v).map .reference
    | entries => (decodeTable entries).map .table
  | .list items => (decodeList items).map .list
  | v => .ok v

def decodeList : List Value → Result (List Value)
  | [] => .ok []
  | v :: rest => do
    let v ← decode v
    pure (v :: (← decodeList rest))

def decodeTable : List (Scalar × Value) → Result (List (Scalar × Value))
  | [] => .ok []
  | (k, v) :: rest => do
    let v ← decode v
    pure ((k, v) :: (← decodeTable rest))

end

/-- The entries of a step that say what to do and how the script goes on. Further arguments of
attributes stand in an entry of their own. -/
def stepKeys : List String :=
  ["do", "builder", "as", "catch", "branches", "body", "handler", "enum", "kwargs"]

/-- The entries of a call that say which branch to open and how the script goes on. -/
def callKeys : List String := ["call", "steps", "as", "catch"]

/-- The arguments among the entries: all but those under the keys given. -/
def argumentsBut (keys : List String) (t : Table) : Result Table :=
  decodeTable (t.filter fun (k, _) => !keys.any fun name => k == .text name)

/-- The arguments of a step. -/
def arguments (step : Table) : Result Table := argumentsBut stepKeys step

/-- Which arguments a call takes, and which of them have to be there. -/
structure Signature where
  required : List String := []
  optional : List String := []
  deriving DecidableEq, Repr

namespace Signature

def names (s : Signature) : List String := s.required ++ s.optional

/-- Nothing is missing and nothing is too much. -/
def accepts (s : Signature) (t : Table) : Bool :=
  s.required.all (fun name => (t.get? name).isSome) &&
    t.all fun (k, _) => s.names.any fun name => k == .text name

def check (s : Signature) (t : Table) : Result Unit :=
  if s.accepts t then .ok () else .error (.mismatch .operand)

end Signature

/-- The text that an entry is. Anything else is no text. -/
def textAt? (t : Table) (name : String) : Option String := (t.get? name).bind Value.text?

/-- What an entry names, as a key. -/
def keyAt (t : Table) (name : String) : Result Scalar := do
  StepError.ofMismatch (← required t name).asKey

/-- The settings that a step asks for. -/
def settingsOf : Value → Result Settings
  | .null => .ok {}
  | .text "lenient" => .ok Settings.lenient
  | v => StepError.ofChecked (Read.record Settings.ofTable v)

/-- By what the lines of a document are indented: nothing, blanks or a text. -/
def indentOf : Value → Result (Option String)
  | .null => .ok none
  | .text unit => .ok (some unit)
  | .int n => .ok (some (blanks n.toNat))
  | .bool b => .ok (some (blanks (if b then 1 else 0)))
  | _ => .error (.mismatch .operand)
where
  blanks (n : Nat) : String := String.ofList (List.replicate n ' ')

end ContactFlow.Script
