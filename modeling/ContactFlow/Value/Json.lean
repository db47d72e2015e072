import ContactFlow.Value.Display
import ContactFlow.Value.KeyOrder

/-!
JSON text of values. A table writes its keys as strings, whatever they are. What has no JSON text of
its own is written as a string; `fault?` says whether a value holds such a part. The canonical text
of a value has no white space and its keys in order.
-/

namespace ContactFlow.Json

def reals : RealFormat := { Value.reals with infinity := "Infinity", notANumber := "NaN" }

/-- Control characters are escaped, and so are the quote and the backslash. -/
def escape (c : Char) : List Char :=
  if c == '"' || c == '\\' then ['\\', c]
  else if c == '\n' then ['\\', 'n']
  else if c == '\r' then ['\\', 'r']
  else if c == '\t' then ['\\', 't']
  else if c == '\x0c' then ['\\', 'f']
  else if c == '\x08' then ['\\', 'b']
  else if c.toNat < 0x20 then '\\' :: 'u' :: Text.hex 4 c.toNat
  else [c]

def string (s : String) : String := String.ofList ('"' :: s.toList.flatMap escape ++ ['"'])

def key : Scalar → String
  | .null => "null"
  | .bool b => if b then "true" else "false"
  | .int n => toString n
  | .real x => reals.render x
  | .text s => s
  | .stamp t => t.display
  | .bytes bs => Text.quotedBytes bs

def scalar : Scalar → String
  | .text s => string s
  | .stamp t => string t.display
  | .bytes bs => string (Text.quotedBytes bs)
  | s => key s

/-- How a list or a table is spread out: what opens each item, what parts two of them, and what
comes before the closing bracket. -/
structure Style where
  indent : Option String
  between : String
  colon : String

namespace Style

def compact : Style := ⟨none, ",", ":"⟩
def spaced : Style := ⟨none, ", ", ": "⟩

/-- Each item on a line of its own, further in than what holds it by the text given. -/
def indentedBy (unit : String) : Style := ⟨some unit, ",", ": "⟩

/-- Each item on a line of its own, `width` blanks further in than what holds it. -/
def indented (width : Nat) : Style := indentedBy (String.ofList (List.replicate width ' '))

def line (s : Style) (depth : Nat) : String :=
  match s.indent with
  | none => ""
  | some unit => "\n" ++ String.join (List.replicate depth unit)

def enclose (s : Style) (opening closing : String) (depth : Nat) (items : List String) : String :=
  match items with
  | [] => opening ++ closing
  | _ => opening ++ s.line (depth + 1) ++ (s.between ++ s.line (depth + 1)).intercalate items ++
      s.line depth ++ closing

end Style

mutual

/-- The JSON text of a value that stands `depth` levels down. -/
def write (style : Style) (depth : Nat) : Value → String
  | .scalar s => scalar s
  | .list items => style.enclose "[" "]" depth (writeList style (depth + 1) items)
  | .table entries => style.enclose "\x7b" "\x7d" depth (writeTable style (depth + 1) entries)
  | .reference r => string r.render
  | .bundle _ items => style.enclose "[" "]" depth (writeList style (depth + 1) items)
  | .cycle _ => "null"

def writeList (style : Style) (depth : Nat) : List Value → List String
  | [] => []
  | v :: rest => write style depth v :: writeList style depth rest

def writeTable (style : Style) (depth : Nat) : List (Scalar × Value) → List String
  | [] => []
  | (k, v) :: rest =>
    (string (key k) ++ style.colon ++ write style depth v) :: writeTable style depth rest

end

/-- Why a value has no JSON text. -/
inductive Unwritable
  | shape
  | number
  | cycle
  deriving DecidableEq, Repr

namespace Unwritable

def message : Unwritable → String
  | .shape => "The value has no JSON text"
  | .number => Numeral.unwritableMessage
  | .cycle => "Circular reference detected"

end Unwritable

def scalarFault? : Scalar → Option Unwritable
  | .stamp _ | .bytes _ => some .shape
  | .int n => if Numeral.isWritable n then none else some .number
  | _ => none

mutual

/-- The first part of a value that has no JSON text. When keys are sorted, they have to have an
order among themselves. -/
def fault? (sorting : Bool) : Value → Option Unwritable
  | .scalar s => scalarFault? s
  | .list items => listFault? sorting items
  | .table entries =>
    if sorting && !KeyOrder.comparable (entries.map (·.1)) then some .shape
    else tableFault? sorting entries
  | .reference _ => some .shape
  | .bundle .tuple items => listFault? sorting items
  | .bundle .set _ => some .shape
  | .cycle _ => some .cycle

def listFault? (sorting : Bool) : List Value → Option Unwritable
  | [] => none
  | v :: rest => (fault? sorting v).or (listFault? sorting rest)

def tableFault? (sorting : Bool) : List (Scalar × Value) → Option Unwritable
  | [] => none
  | (k, v) :: rest =>
    ((scalarFault? k).or (fault? sorting v)).or (tableFault? sorting rest)

end

/-- The text of a value, if it has one. -/
def text? (style : Style) (v : Value) : Except Unwritable String :=
  match fault? false v with
  | none => .ok (write style 0 v)
  | some e => .error e

mutual

/-- The value with the entries of every table in the order of their keys. -/
def sorted : Value → Value
  | .table entries => .table (KeyOrder.sort (sortedTable entries))
  | .list items => .list (sortedList items)
  | .bundle b items => .bundle b (sortedList items)
  | v => v

def sortedList : List Value → List Value
  | [] => []
  | v :: rest => sorted v :: sortedList rest

def sortedTable : List (Scalar × Value) → List (Scalar × Value)
  | [] => []
  | (k, v) :: rest => (k, sorted v) :: sortedTable rest

end

/-- Compact text with sorted keys. -/
def canonical (v : Value) : String := write .compact 0 (sorted v)

def canonical? (v : Value) : Except Unwritable String :=
  match fault? true (sorted v) with
  | none => .ok (canonical v)
  | some e => .error e

end ContactFlow.Json
