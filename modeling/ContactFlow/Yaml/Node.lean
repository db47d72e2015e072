import ContactFlow.Yaml.Token

/-!
The nodes of a YAML document: scalars, sequences and mappings. Nodes inside others go by their
numbers, so that an alias is the node that its anchor names, and a node may be inside itself.
-/

namespace ContactFlow.Yaml

inductive Node
  | scalar (tag : Option String) (plain : Bool) (text : String)
  | sequence (tag : Option String) (items : List Nat)
  | mapping (tag : Option String) (entries : List (Nat × Nat))
  deriving Repr, Inhabited

def coreTags : String := "tag:yaml.org,2002:"

/-- The tokens still to be read, the nodes so far, the nodes that anchors name and the tags that
handles stand for. -/
structure Composer where
  tokens : List Token
  nodes : Array Node := #[]
  anchors : List (String × Nat) := []
  handles : List (String × String) := []
  deriving Inhabited

abbrev Compose := StateT Composer (Except Failure)

namespace Compose

def refuse {α : Type} : Compose α := throw .malformed

/-- The next token. Where the text cannot be read on, its reading fails. -/
def peek : Compose (Option Token) := do
  match (← get).tokens.head? with
  | some (.broken e) => throw e
  | t => pure t

def drop : Compose Unit := modify fun s => { s with tokens := s.tokens.tail }

/-- The next token is one of those given, or there is none. -/
def endsAt (ts : List Token) : Compose Bool := do
  match ← peek with
  | none => pure true
  | some t => pure (ts.contains t)

def isNext (t : Token) : Compose Bool := do pure ((← peek) == some t)

def expect (t : Token) : Compose Unit := do
  if ← isNext t then drop else refuse

/-- Adds a node and gives its number. -/
def add (n : Node) : Compose Nat := do
  let s ← get
  set { s with nodes := s.nodes.push n }
  pure s.nodes.size

/-- Settles what a node that was added before is. -/
def fill (id : Nat) (n : Node) : Compose Nat := do
  modify fun s => { s with nodes := s.nodes.setIfInBounds id n }
  pure id

/-- What stands for a node that was left out. -/
def absent : Compose Nat := add (.scalar none true "")

def aliased (anchor : String) : Compose Nat := do
  match (← get).anchors.lookup anchor with
  | some id => pure id
  | none => refuse

structure Properties where
  anchor : Option String := none
  tag : Option String := none

def expandTag (handle : Option String) (suffix : String) : Compose String := do
  match handle with
  | none => pure suffix
  | some handle => match (← get).handles.lookup handle with
    | some expansion => pure (expansion ++ suffix)
    | none => refuse

/-- An anchor and a tag, in either order. -/
def properties : Compose Properties := do
  match ← peek with
  | some (.anchor a) =>
    drop
    match ← peek with
    | some (.tag handle suffix) =>
      drop
      return ⟨some a, some (← expandTag handle suffix)⟩
    | _ => return ⟨some a, none⟩
  | some (.tag handle suffix) =>
    drop
    match ← peek with
    | some (.anchor a) =>
      drop
      return ⟨some a, some (← expandTag handle suffix)⟩
    | _ => return ⟨none, some (← expandTag handle suffix)⟩
  | _ => return {}

/-- The tag that only says that there is none counts as none. -/
def Properties.own (p : Properties) : Option String := if p.tag = some "!" then none else p.tag

/-- An anchor may be given once. -/
def checkAnchor (p : Properties) : Compose Unit := do
  if let some a := p.anchor then
    if ((← get).anchors.lookup a).isSome then refuse

/-- Adds a node under its anchor. -/
def addNamed (p : Properties) (n : Node) : Compose Nat := do
  let id ← add n
  if let some a := p.anchor then modify fun s => { s with anchors := (a, id) :: s.anchors }
  pure id

/-- A sequence is named before its items are read. -/
def sequence (p : Properties) (items : Compose (List Nat)) : Compose Nat := do
  let id ← addNamed p (.sequence p.own [])
  fill id (.sequence p.own (← items))

def mapping (p : Properties) (entries : Compose (List (Nat × Nat))) : Compose Nat := do
  let id ← addNamed p (.mapping p.own [])
  fill id (.mapping p.own (← entries))

mutual

/-- Reads a node. Blocks are only read where they may stand, and so are entries without an
indentation of their own. -/
def node (block indentless : Bool) : Nat → Compose Nat
  | 0 => refuse
  | fuel + 1 => do
    if let some (.alias a) := ← peek then
      drop
      return ← aliased a
    let p ← properties
    let next ← peek
    checkAnchor p
    match next with
    | some (.scalar text plain) =>
      drop
      addNamed p (.scalar p.own ((plain && p.tag.isNone) || p.tag == some "!") text)
    | some .entry =>
      if indentless then sequence p (entries false fuel)
      else orAbsent p
    | some .flowSequence => drop; sequence p (flowItems true fuel)
    | some .flowMapping => drop; mapping p (flowEntries true fuel)
    | some .blockSequence =>
      if block then
        drop
        sequence p (entries true fuel)
      else orAbsent p
    | some .blockMapping =>
      if block then
        drop
        mapping p (blockEntries fuel)
      else orAbsent p
    | _ => orAbsent p

/-- A node of which only the anchor or the tag is there. -/
def orAbsent (p : Properties) : Compose Nat :=
  if p.anchor.isNone && p.tag.isNone then refuse
  else addNamed p (.scalar p.own p.own.isNone "")

/-- The entries of a block sequence. One with an indentation of its own has a token for its end. -/
def entries (closed : Bool) : Nat → Compose (List Nat)
  | 0 => refuse
  | fuel + 1 => do
    if ← isNext .entry then
      drop
      let followers := if closed then [.entry, .blockEnd] else [.entry, .key, .value, .blockEnd]
      let first ← if ← endsAt followers then absent else node true false fuel
      pure (first :: (← entries closed fuel))
    else
      if closed then expect .blockEnd
      pure []

def blockEntries : Nat → Compose (List (Nat × Nat))
  | 0 => refuse
  | fuel + 1 => do
    if ← isNext .key then
      drop
      let key ← blockPart fuel
      let value ← blockValue fuel
      pure ((key, value) :: (← blockEntries fuel))
    else
      expect .blockEnd
      pure []

def blockPart : Nat → Compose Nat
  | 0 => refuse
  | fuel + 1 => do
    if ← endsAt [.key, .value, .blockEnd] then absent else node true true fuel

def blockValue : Nat → Compose Nat
  | 0 => refuse
  | fuel + 1 => do
    if ← isNext .value then
      drop
      blockPart fuel
    else absent

/-- The items between square brackets. An item may be a mapping of one entry without brackets. -/
def flowItems (first : Bool) : Nat → Compose (List Nat)
  | 0 => refuse
  | fuel + 1 => do
    if ← isNext .flowSequenceEnd then
      drop
      return []
    if !first then expect .comma
    match ← peek with
    | some .key =>
      drop
      let id ← add (.mapping none [])
      let key ← flowPart [.value, .comma, .flowSequenceEnd] fuel
      let value ← flowValue [.comma, .flowSequenceEnd] fuel
      let item ← fill id (.mapping none [(key, value)])
      pure (item :: (← flowItems false fuel))
    | some .flowSequenceEnd => drop; pure []
    | _ =>
      let item ← node false false fuel
      pure (item :: (← flowItems false fuel))

def flowEntries (first : Bool) : Nat → Compose (List (Nat × Nat))
  | 0 => refuse
  | fuel + 1 => do
    if ← isNext .flowMappingEnd then
      drop
      return []
    if !first then expect .comma
    match ← peek with
    | some .key =>
      drop
      let key ← flowPart [.value, .comma, .flowMappingEnd] fuel
      let value ← flowValue [.comma, .flowMappingEnd] fuel
      pure ((key, value) :: (← flowEntries false fuel))
    | some .flowMappingEnd => drop; pure []
    | _ =>
      let key ← node false false fuel
      let value ← absent
      pure ((key, value) :: (← flowEntries false fuel))

def flowPart (followers : List Token) : Nat → Compose Nat
  | 0 => refuse
  | fuel + 1 => do
    if ← endsAt followers then absent else node false false fuel

def flowValue (followers : List Token) : Nat → Compose Nat
  | 0 => refuse
  | fuel + 1 => do
    if ← isNext .value then
      drop
      flowPart followers fuel
    else absent

end

def defaultHandles : List (String × String) := [("!", "!"), ("!!", coreTags)]

/-- Reads directives. The version is given at most once, and each handle too. -/
def directives : Nat → Bool → List (String × String) → Compose (List (String × String))
  | 0, _, handles => pure handles
  | fuel + 1, versioned, handles => do
    match ← peek with
    | some (.version major) =>
      if versioned || major != 1 then refuse
      else
        drop
        directives fuel true handles
    | some (.tagHandle handle expansion) =>
      if (handles.lookup handle).isSome then refuse
      else
        drop
        directives fuel versioned (handles ++ [(handle, expansion)])
    | some .otherDirective =>
      drop
      directives fuel versioned handles
    | _ => pure handles

def skipEnds : Nat → Compose Unit
  | 0 => pure ()
  | fuel + 1 => do
    if ← isNext .documentEnd then
      drop
      skipEnds fuel

def useHandles (handles : List (String × String)) : Compose Unit :=
  modify fun s => { s with handles := handles ++ defaultHandles }

/-- The content after three dashes, which may be nothing. -/
def content (fuel : Nat) : Compose Nat := do
  match ← peek with
  | none | some .documentStart | some .documentEnd | some (.version _) | some (.tagHandle ..)
  | some .otherDirective => absent
  | _ => node true false fuel

def startsDocument : Option Token → Bool
  | some (.version _) | some (.tagHandle ..) | some .otherDirective | some .documentStart => true
  | _ => false

/-- A text has one document. Of a second one only the start is read. -/
def refuseMore (fuel : Nat) : Compose Unit := do
  let _ ← directives fuel false []
  expect .documentStart
  refuse

/-- Reads the only document of a text, if there is one. -/
def document (fuel : Nat) : Compose (Option Nat) := do
  let first ← peek
  if first.isNone then return none
  let root ← if startsDocument first then do
      useHandles (← directives fuel false [])
      expect .documentStart
      content fuel
    else do
      useHandles []
      node true false fuel
  skipEnds fuel
  if (← peek).isSome then refuseMore fuel
  pure (some root)

end Compose

/-- All nodes of a text by their numbers. -/
abbrev Nodes := Array Node

/-- The nodes of a text, and which of them is the root. A text without content has none. -/
def Nodes.read (text : List Char) : Except Failure (Nodes × Option Nat) := do
  let tokens := Token.scan text
  let (root, s) ← (Compose.document (4 * tokens.length + 4)) { tokens }
  pure (s.nodes, root)

end ContactFlow.Yaml
