/-!
White space and lines. A text is stripped of white space at both ends before it is read as a name or a
number, and a text with nothing else in it counts as empty. What ends a line is white space too; line
feeds and carriage returns count once when they stand together.
-/

namespace ContactFlow.Text

/-- The tab to carriage-return controls, the four separator controls, the next-line control and
every space, line and paragraph separator. -/
def isBlank (c : Char) : Bool :=
  let n := c.toNat
  (0x09 ≤ n && n ≤ 0x0D) || (0x1C ≤ n && n ≤ 0x20) || n == 0x85 || n == 0xA0 || n == 0x1680 ||
    (0x2000 ≤ n && n ≤ 0x200A) || n == 0x2028 || n == 0x2029 || n == 0x202F || n == 0x205F ||
    n == 0x3000

/-- The white space that numerals may stand in. The separator controls are not part of it. -/
def isSpace (c : Char) : Bool := isBlank c && !(0x1C ≤ c.toNat && c.toNat ≤ 0x1F)

def trimLeft (p : Char → Bool) (cs : List Char) : List Char := cs.dropWhile p
def trimRight (p : Char → Bool) (cs : List Char) : List Char := (cs.reverse.dropWhile p).reverse
def trim (p : Char → Bool) (cs : List Char) : List Char := trimRight p (trimLeft p cs)

def strip (s : String) : String := String.ofList (trim isBlank s.toList)

/-- Nothing is left of the text once it is stripped. -/
def blank (s : String) : Bool := s.toList.all isBlank

theorem isBlank_of_isWhitespace {c : Char} (h : c.isWhitespace = true) : isBlank c = true := by
  simp only [Char.isWhitespace, Bool.or_eq_true, decide_eq_true_eq] at h
  rcases h with ((rfl | rfl) | rfl) | rfl <;> decide

/-- The words of a text: what stands between its white space. -/
def words (cs : List Char) : List (List Char) :=
  match cs with
  | [] => []
  | c :: rest =>
    if isBlank c then words rest
    else
      match rest with
      | [] => [[c]]
      | d :: _ =>
        if isBlank d then [c] :: words rest
        else match words rest with
          | w :: ws => (c :: w) :: ws
          | [] => [[c]]

def isLineBreak (c : Char) : Bool :=
  let n := c.toNat
  (0xA ≤ n && n ≤ 0xD) || (0x1C ≤ n && n ≤ 0x1E) || n == 0x85 || n == 0x2028 || n == 0x2029

/-- The lines from a place on, given what its line has so far, the last character first. -/
def linesFrom (line : List Char) : List Char → List String
  | [] => if line.isEmpty then [] else [String.ofList line.reverse]
  | '\r' :: '\n' :: rest => String.ofList line.reverse :: linesFrom [] rest
  | c :: rest =>
    if isLineBreak c then String.ofList line.reverse :: linesFrom [] rest
    else linesFrom (c :: line) rest

/-- The lines of a text. A break at its end does not start another one. -/
def lines (s : String) : List String := linesFrom [] s.toList

end ContactFlow.Text
