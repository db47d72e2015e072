import ContactFlow.Text.Blank
import ContactFlow.Text.Case
import ContactFlow.Text.Emoji.Table

/-!
Emoji codes: the short name of an emoji between two colons, perhaps with the way in which it is to
be shown. A code whose name is known stands for its emoji; any other is text.
-/

namespace ContactFlow.Text.Emoji

def hexValue (c : Char) : Nat :=
  if c.isDigit then c.toNat - '0'.toNat else c.toNat - 'A'.toNat + 10

def codePoint (s : String) : Char := Char.ofNat (s.toList.foldl (fun n c => 16 * n + hexValue c) 0)

/-- The entries of a table in which names and code points take turns. -/
def entriesOf : List String → List (String × String)
  | name :: points :: rest =>
    (name, String.ofList ((points.splitOn "-").map codePoint)) :: entriesOf rest
  | _ => []

def entries : List (String × String) :=
  entriesOf ((source.splitOn "\n").flatMap fun line => (words line.toList).map String.ofList)

/-- The emoji of a name, whose letters may be of either case. -/
def ofName? (name : String) : Option String := entries.lookup (lower name)

/-- The ways in which an emoji may be asked to be shown, with the character that asks for each. -/
def variants : List (List Char × Char) :=
  [("-emoji".toList, Char.ofNat 0xFE0F), ("-text".toList, Char.ofNat 0xFE0E)]

/-- A code without its first colon. -/
structure Code where
  name : List Char
  variant : Option Char
  raw : List Char
  after : List Char

/-- What follows a name: a variant perhaps, and the second colon. -/
def ending? (cs : List Char) : Option (Option Char × List Char × List Char) :=
  let ended := variants.findSome? fun (mark, c) =>
    if (mark ++ [':']).isPrefixOf cs then
      some (some c, mark ++ [':'], cs.drop (mark.length + 1))
    else none
  ended.or (match cs with
    | ':' :: rest => some (none, [':'], rest)
    | _ => none)

/-- Reads a code after its first colon. There is no white space in it. -/
def code? : List Char → Option Code
  | [] => none
  | c :: rest =>
    match ending? (c :: rest) with
    | some (variant, raw, after) => some ⟨[], variant, raw, after⟩
    | none =>
      if isBlank c then none
      else (code? rest).map fun code => { code with name := c :: code.name, raw := c :: code.raw }

def Code.emoji? (c : Code) : Option (List Char) :=
  (ofName? (String.ofList c.name)).map fun s => s.toList ++ c.variant.toList

/-- Replaces the codes in a text. -/
def replaceFrom : Nat → List Char → List Char
  | 0, cs => cs
  | _, [] => []
  | fuel + 1, ':' :: rest => match code? rest with
    | some code => code.emoji?.getD (':' :: code.raw) ++ replaceFrom fuel code.after
    | none => ':' :: replaceFrom fuel rest
  | fuel + 1, c :: rest => c :: replaceFrom fuel rest

def replace (cs : List Char) : List Char := replaceFrom cs.length cs

end ContactFlow.Text.Emoji
