import ContactFlow.Yaml.Cursor

/-!
Block scalars: indented text after a bar, which keeps its lines, or after a greater-than sign, which
folds them. A sign says what becomes of the breaks at the end, and a digit how far the text is
indented.
-/

namespace ContactFlow.Yaml.Block

inductive Chomping
  | clip | strip | keep
  deriving DecidableEq, Repr

def chomping? : Option Char → Option Chomping
  | some '+' => some .keep
  | some '-' => some .strip
  | _ => none

def increment? : Option Char → Option Nat
  | some c => if c.isDigit then some (c.toNat - '0'.toNat) else none
  | none => none

/-- Reads the sign and the digit, which may come in either order. -/
def indicators? (c : Cursor) : Option (Chomping × Option Nat × Cursor) := do
  let (chomping, increment, c) := match chomping? c.peek?, increment? c.peek? with
    | some chomping, _ => match increment? c.next.peek? with
      | some n => (chomping, some n, c.forward 2)
      | none => (chomping, none, c.next)
    | none, some n => match chomping? c.next.peek? with
      | some chomping => (chomping, some n, c.forward 2)
      | none => (.clip, some n, c.next)
    | none, none => (.clip, none, c)
  guard (increment ≠ some 0)
  guard (endsSpaced c.peek?)
  pure (chomping, increment, c)

/-- The breaks of empty lines at the start, and the deepest indentation among them. -/
def leading : Nat → List Char → Nat → Cursor → List Char × Nat × Cursor
  | 0, breaks, deepest, c => (breaks, deepest, c)
  | fuel + 1, breaks, deepest, c =>
    if c.isAt ' ' then leading fuel breaks (max deepest c.next.column) c.next
    else match c.lineBreak? with
      | some (b, c) => leading fuel (breaks ++ [b]) deepest c
      | none => (breaks, deepest, c)

/-- Goes in as far as the indentation, over spaces only. -/
def indentTo (indent : Nat) (c : Cursor) : Cursor :=
  c.forward ((c.rest.take (indent - c.column)).takeWhile (· == ' ')).length

/-- The breaks of empty lines, and the place after the indentation that follows. -/
def breaks (indent : Nat) : Nat → Cursor → List Char × Cursor
  | 0, c => ([], c)
  | fuel + 1, c =>
    let c := indentTo indent c
    match c.lineBreak? with
    | none => ([], c)
    | some (b, c) =>
      let (more, c) := breaks indent fuel c
      (b :: more, c)

def startsBlank (c : Cursor) : Bool := c.isAt ' ' || c.isAt '\t'

/-- What stands between two lines. A folded break between two lines that start with text is a space,
or nothing when empty lines follow. -/
def joint (folded blankBefore blankAfter : Bool) (b : Option Char) (more : List Char) : List Char :=
  if folded && b == some '\n' && !blankBefore && !blankAfter then
    if more.isEmpty then [' '] else []
  else b.toList

/-- The lines from one on, with the break that ends the last and the breaks of the empty lines
after. -/
def lines (folded : Bool) (indent : Nat) :
    Nat → String → List Char → Cursor → String × Option Char × List Char × Cursor
  | 0, text, empty, c => (text, none, empty, c)
  | fuel + 1, text, empty, c =>
    let blankBefore := startsBlank c
    let (line, c) := c.span fun ch => !isBreak ch
    let text := text ++ String.ofList (empty ++ line)
    let b := c.lineBreak?.map (·.1)
    let c := (c.lineBreak?.map (·.2)).getD c
    let (empty, c) := breaks indent (c.rest.length + 1) c
    if c.column = indent && c.peek?.isSome then
      let between := joint folded blankBefore (startsBlank c) b empty
      lines folded indent fuel (text ++ String.ofList between) empty c
    else (text, b, empty, c)

def ending (chomping : Chomping) (b : Option Char) (empty : List Char) : List Char :=
  match chomping with
  | .strip => []
  | .clip => b.toList
  | .keep => b.toList ++ empty

/-- Reads a block scalar after its first character. The collection it is in is indented so far. -/
def scan (folded : Bool) (outer : Int) (c : Cursor) : Option (String × Cursor) := do
  let (chomping, increment, c) ← indicators? c
  let c ← c.finishLine?
  let least := (max 1 (outer + 1)).toNat
  let (empty, indent, c) := match increment with
    | some n =>
      let indent := least + n - 1
      let (empty, c) := breaks indent (c.rest.length + 1) c
      (empty, indent, c)
    | none =>
      let (empty, deepest, c) := leading (c.rest.length + 1) [] 0 c
      (empty, max least deepest, c)
  if c.column = indent && c.peek?.isSome then
    let (text, b, empty, c) := lines folded indent (c.rest.length + 1) "" empty c
    pure (text ++ String.ofList (ending chomping b empty), c)
  else pure (String.ofList (ending chomping none empty), c)

end ContactFlow.Yaml.Block
