import ContactFlow.Text.CharacterName.Table

/-!
Names of characters. Most are in a table; those of ideographs end in the number of the character,
and those of Korean syllables in the letters of the syllable.
-/

namespace ContactFlow.Text.CharacterName

/-! ## The table -/

/-- How many words a name shares with the one before, and its other words. -/
structure Entry where
  shared : Nat
  words : List String
  deriving DecidableEq, Repr

def Entry.ofChars? (cs : List Char) : Option Entry :=
  match cs.dropWhile (!·.isLower) with
  | c :: rest => some ⟨c.toNat - 'a'.toNat, (String.ofList rest).splitOn " "⟩
  | [] => none

def entries : List Entry := (source.splitOn ",").filterMap fun s => Entry.ofChars? s.toList

/-- Whether a name is among the entries, given the words of the one before them. -/
def isListed (name : List String) : List String → List Entry → Bool
  | _, [] => false
  | before, e :: rest =>
    let words := before.take e.shared ++ e.words
    words == name || isListed name words rest

/-! ## Numbers and letters -/

/-- What follows a text at the start of another one. -/
def after? (start : String) (cs : List Char) : Option (List Char) :=
  if start.toList.isPrefixOf cs then some (cs.drop start.length) else none

/-- The ideographs that are named by their numbers. -/
def ideographRanges : List (Nat × Nat) :=
  [(0x3400, 0x4DBF), (0x4E00, 0x9FFF), (0x20000, 0x2A6DF), (0x2A700, 0x2B738), (0x2B740, 0x2B81D),
    (0x2B820, 0x2CEA1), (0x2CEB0, 0x2EBE0), (0x30000, 0x3134A)]

def hexDigit? (c : Char) : Option Nat :=
  if c.isDigit then some (c.toNat - '0'.toNat)
  else if 'A' ≤ c && c ≤ 'F' then some (c.toNat - 'A'.toNat + 10)
  else none

/-- Whether digits are the number of an ideograph: four or five of them. -/
def isIdeograph (cs : List Char) : Bool :=
  let digits := cs.filterMap hexDigit?
  let n := digits.foldl (fun n d => 16 * n + d) 0
  digits.length == cs.length && (cs.length == 4 || cs.length == 5) &&
    ideographRanges.any fun (lo, hi) => lo ≤ n && n ≤ hi

/-- The letters that a Korean syllable starts with, has in its middle, and ends with. -/
def leading : List String :=
  ["G", "GG", "N", "D", "DD", "R", "M", "B", "BB", "S", "SS", "", "J", "JJ", "C", "K", "T", "P",
    "H"]

def middle : List String :=
  ["A", "AE", "YA", "YAE", "EO", "E", "YEO", "YE", "O", "WA", "WAE", "OE", "YO", "U", "WEO", "WE",
    "WI", "YU", "EU", "YI", "I"]

def trailing : List String :=
  ["", "G", "GG", "GS", "N", "NJ", "NH", "D", "L", "LG", "LM", "LB", "LS", "LT", "LP", "LH", "M",
    "B", "BS", "S", "SS", "NG", "J", "C", "K", "T", "P", "H"]

/-- The longest of some texts at the start of another one, and what follows it. -/
def longest? (texts : List String) (cs : List Char) : Option (List Char) :=
  let found := texts.filter fun s => s.toList.isPrefixOf cs
  (found.map String.length).max?.map fun n => cs.drop n

def isSyllable (cs : List Char) : Bool :=
  (((longest? leading cs).bind (longest? middle)).bind (longest? trailing)) == some []

/-- Whether a text is the name of a character. The names in the table may be in small letters. -/
def isKnown (name : List Char) : Bool :=
  match after? "CJK UNIFIED IDEOGRAPH-" name, after? "HANGUL SYLLABLE " name with
  | some digits, _ => isIdeograph digits
  | none, some letters => isSyllable letters
  | none, none => isListed ((String.ofList (name.map Char.toUpper)).splitOn " ") [] entries

end ContactFlow.Text.CharacterName
