import ContactFlow.Yaml.Cursor

/-!
Plain scalars: text without quotes. It ends before a colon or a comment, and inside a flow
collection before the brackets and commas of the collection too. Its lines are folded.
-/

namespace ContactFlow.Yaml.Plain

def flowIndicators : List Char := [',', '[', ']', '{', '}']

/-- The character ends a run of text, given the one after it. -/
def stops (inFlow : Bool) (c : Char) (after : Option Char) : Bool :=
  isBlankOrBreak c ||
  (c == ':' && (endsWord after || (inFlow && after.any flowIndicators.contains))) ||
  (inFlow && (c == '?' || flowIndicators.contains c))

def run (inFlow : Bool) : List Char → List Char
  | [] => []
  | c :: rest => if stops inFlow c rest.head? then [] else c :: run inFlow rest

/-- The further breaks after the first one, unless a separator of documents comes. -/
def breaks : Nat → Cursor → Option (List Char) × Cursor
  | 0, c => (some [], c)
  | fuel + 1, c =>
    let c := c.skipSpaces
    match c.lineBreak? with
    | none => (some [], c)
    | some (b, c) =>
      if c.atSeparator then (none, c)
      else
        let (more, c) := breaks fuel c
        (more.map (b :: ·), c)

/-- What stands between two runs, the place after it, and whether a line ended. -/
def gap (c : Cursor) : List Char × Cursor × Bool :=
  let (blanks, c) := c.span (· == ' ')
  match c.lineBreak? with
  | none => (blanks, c, false)
  | some (b, c) =>
    if c.atSeparator then ([], c, true)
    else match breaks (c.rest.length + 1) c with
      | (none, c) => ([], c, true)
      | (some more, c) => (foldBreaks b more, c, true)

/-- Reads runs until one is not continued on a line that is indented far enough. The flag says that
a line ended last. -/
def scanFrom (inFlow : Bool) (indent : Int) :
    Nat → String → List Char → Bool → Cursor → String × Cursor × Bool
  | 0, text, _, ended, c => (text, c, ended)
  | fuel + 1, text, pending, ended, c =>
    let run := if c.isAt '#' then [] else run inFlow c.rest
    if run.isEmpty then (text, c, ended)
    else
      let text := text ++ String.ofList (pending ++ run)
      let (blanks, c, ended) := gap (c.forward run.length)
      if blanks.isEmpty || c.isAt '#' || (!inFlow && (c.column : Int) < indent) then
        (text, c, ended)
      else scanFrom inFlow indent fuel text blanks ended c

/-- Reads a plain scalar. -/
def scan (inFlow : Bool) (indent : Int) (c : Cursor) : String × Cursor × Bool :=
  scanFrom inFlow indent (c.rest.length + 1) "" [] false c

end ContactFlow.Yaml.Plain
