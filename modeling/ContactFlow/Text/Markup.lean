import ContactFlow.Text.Emoji
import ContactFlow.Text.Handler
import ContactFlow.Text.Quoted
import ContactFlow.Text.Style

/-!
Text with tags in square brackets for its styles. Escaping doubles the backslashes before what looks
like a tag and adds one, so that the tag is shown as it stands; reading drops the tags, takes
backslashes away again and shows emoji for their codes.
-/

namespace ContactFlow.Markup

open Text

def opensTag (c : Char) : Bool := ('a' ≤ c && c ≤ 'z') || c == '#' || c == '/' || c == '@'

def isInside (c : Char) : Bool := c != '[' && c != ']'

/-- The name of a tag whose bracket was read, and what follows the tag. -/
def tag? (cs : List Char) : Option (List Char × List Char) :=
  match cs with
  | c :: rest =>
    if opensTag c then
      match rest.dropWhile isInside with
      | ']' :: after => some (c :: rest.takeWhile isInside, after)
      | _ => none
    else none
  | [] => none

/-- A stretch of text, or a tag with the place of its bracket. -/
inductive Piece
  | text (cs : List Char)
  | tag (place : Nat) (name : List Char)
  deriving DecidableEq, Repr

theorem tag?_shorter {cs name after : List Char} (h : tag? cs = some (name, after)) :
    after.length < cs.length := by
  cases cs with
  | nil => simp [tag?] at h
  | cons c rest =>
    simp only [tag?] at h
    split at h
    · split at h
      · rename_i rest' hd
        have hle := (List.dropWhile_suffix isInside (l := rest)).length_le
        rw [hd] at hle
        obtain ⟨-, rfl⟩ := Prod.mk.inj (Option.some.inj h)
        simp only [List.length_cons] at hle ⊢
        omega
      · contradiction
    · contradiction

theorem rest_shorter {p : Char → Bool} {cs rest : List Char} {c : Char}
    (h : cs.dropWhile p = c :: rest) : rest.length < cs.length := by
  have hle := (List.dropWhile_suffix p (l := cs)).length_le
  rw [h, List.length_cons] at hle
  omega

def backslashes (n : Nat) : List Char := List.replicate n '\\'

/-- A stretch of text whose characters come in reverse order. -/
def stretch (reversed : List Char) : List Piece :=
  if reversed.isEmpty then [] else [.text reversed.reverse]

/-- What stands for a tag with so many backslashes before it. Half of them are shown, and an odd one
makes the tag text. -/
def tagPieces (count place : Nat) (name : List Char) : List Piece :=
  stretch (backslashes (count / 2)) ++
    [if count % 2 = 1 then .text ('[' :: name ++ [']']) else .tag place name]

/-- Cuts a text into its tags and the stretches between them. What was read of the current stretch
comes in reverse order, and the place is that of the next character. -/
def pieces (reversed : List Char) (place : Nat) (cs : List Char) : List Piece :=
  let count := (cs.takeWhile (· == '\\')).length
  match h : cs.dropWhile (· == '\\') with
  | [] => stretch (backslashes count ++ reversed)
  | c :: rest =>
    have := rest_shorter h
    let plain := c :: (backslashes count ++ reversed)
    if c = '[' then
      match ht : tag? rest with
      | some (name, after) =>
        have := tag?_shorter ht
        stretch reversed ++ tagPieces count (place + count) name ++
          pieces [] (place + count + name.length + 2) after
      | none => pieces plain (place + count + 1) rest
    else pieces plain (place + count + 1) rest
  termination_by cs.length

inductive MarkupError
  | unmatched (tag : String) (place : Nat)
  | nothingToClose (place : Nat)
  | handler (message : String)
  | number (message : String)
  deriving DecidableEq, Repr

def MarkupError.message : MarkupError → String
  | .unmatched tag place =>
    "closing tag '[" ++ tag ++ "]' at position " ++ toString place ++
      " doesn't match any open tag"
  | .nothingToClose place =>
    "closing tag '[/]' at position " ++ toString place ++ " has nothing to close"
  | .handler message | .number message => message

/-- A tag that is open: the normal form of its name, and what follows the equals sign. -/
structure OpenTag where
  name : String
  parameters : Option String
  deriving DecidableEq, Repr

def isName (c : Char) : Bool := c != '='

def normal (definition : List Char) : Except MarkupError String :=
  (Style.normal definition).mapError .number

def OpenTag.ofTag (tag : List Char) : Except MarkupError OpenTag := do
  pure ⟨← normal (tag.takeWhile isName), match tag.dropWhile isName with
    | [] => none
    | _ :: parameters => some (String.ofList parameters)⟩

/-- Drops the first tag of a name from those that are open, the latest first. -/
def close (name : String) : List OpenTag → Option (OpenTag × List OpenTag)
  | [] => none
  | o :: rest =>
    if o.name = name then some (o, rest) else (close name rest).map fun (t, rest) => (t, o :: rest)

def isHandlerName (c : Char) : Bool := Text.isWordCharacter c || c == '.'

/-- The arguments of a handler: what follows its name in parentheses. What is no call at all is an
expression of its own. -/
def arguments (parameters : List Char) : List Char :=
  match parameters.dropWhile isHandlerName with
  | [] => ['(', ')']
  | '(' :: rest =>
    if rest.getLast? == some ')' && !rest.contains '\n' then '(' :: rest else parameters
  | _ => parameters

/-- Handlers are checked when their tag is closed. -/
def OpenTag.check (o : OpenTag) : Except MarkupError Unit :=
  match o.name.toList, o.parameters with
  | '@' :: _, some parameters =>
    let call := arguments (Text.trim Text.isBlank parameters.toList)
    match if parameters = "" then none else Handler.refused? call with
    | some (.form fault) =>
      .error (.handler ("error parsing " ++ Text.quoted (String.ofList call) ++ " in " ++
        Text.quoted parameters ++ "; " ++ fault.message))
    | some (.value fault) =>
      .error (.handler ("error parsing " ++ Text.quoted parameters ++ "; " ++ fault.message))
    | none => .ok ()
  | _, _ => .ok ()

/-- The text of a stretch. A bracket after a backslash stands for itself. -/
def unescaped : List Char → List Char
  | '\\' :: '[' :: rest => '[' :: unescaped rest
  | c :: rest => c :: unescaped rest
  | [] => []

/-- The tags that stay open after a closing tag, of which only what follows the slash is given. -/
def closed (opened : List OpenTag) (place : Nat) (name : List Char) :
    Except MarkupError (List OpenTag) := do
  let style := Text.trim Text.isBlank (name.takeWhile isName)
  let found ← if style.isEmpty then
      match opened with
      | [] => pure none
      | o :: rest => pure (some (o, rest))
    else do pure (close (← normal style) opened)
  match found with
  | some (o, rest) =>
    o.check
    pure rest
  | none => throw (if style.isEmpty then .nothingToClose place
      else .unmatched (String.ofList ('/' :: name)) place)

/-- The text of the pieces. Every closing tag needs one that is open. -/
def join : List OpenTag → List Piece → Except MarkupError (List Char)
  | _, [] => .ok []
  | opened, .text cs :: rest => (join opened rest).map (Emoji.replace (unescaped cs) ++ ·)
  | opened, .tag place ('/' :: name) :: rest => do join (← closed opened place name) rest
  | opened, .tag _ name :: rest => do join ((← OpenTag.ofTag name) :: opened) rest

/-- Bell, backspace, vertical tab, form feed and carriage return are never shown. -/
def isShown (c : Char) : Bool := !([7, 8, 11, 12, 13].contains c.toNat)

/-- The text that markup stands for. -/
def plain? (s : String) : Except MarkupError String :=
  (join [] (pieces [] 0 s.toList)).map fun cs => String.ofList (cs.filter isShown)

def escapeTags (cs : List Char) : List Char :=
  let count := (cs.takeWhile (· == '\\')).length
  match h : cs.dropWhile (· == '\\') with
  | [] => backslashes count
  | c :: rest =>
    have := rest_shorter h
    if c = '[' then
      match ht : tag? rest with
      | some (name, after) =>
        have := tag?_shorter ht
        backslashes (2 * count + 1) ++ '[' :: name ++ ']' :: escapeTags after
      | none => backslashes count ++ '[' :: escapeTags rest
    else backslashes count ++ c :: escapeTags rest
  termination_by cs.length

/-- A single backslash at the end. -/
def endsInBackslash (cs : List Char) : Bool := (cs.reverse.takeWhile (· == '\\')).length == 1

/-- Markup for a text without tags. -/
def escape (s : String) : String :=
  let cs := escapeTags s.toList
  String.ofList (if endsInBackslash cs then cs ++ ['\\'] else cs)

end ContactFlow.Markup
