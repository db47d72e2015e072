/-!
Files and directories below one directory, and paths to them. A path keeps its steps upwards; where
it leads is only settled against the directories that there are.
-/

namespace ContactFlow

/-- The root that an absolute path starts at, and the parts from there on. A relative path has no
root. -/
structure Path where
  root : String := ""
  parts : List String := []
  deriving DecidableEq, Repr, Inhabited

namespace Path

def split : List Char → List (List Char)
  | [] => [[]]
  | '/' :: rest => [] :: split rest
  | c :: rest => match split rest with
    | part :: parts => (c :: part) :: parts
    | [] => [[c]]

/-- The root that a text starts with. Two slashes are a root of their own, but more count as one. -/
def rootOf (s : String) : String :=
  match (s.toList.takeWhile (· == '/')).length with
  | 0 => ""
  | 2 => "//"
  | _ => "/"

/-- Reads a path. Empty parts and single points do not count. -/
def ofString (s : String) : Path :=
  let parts := (split s.toList).map String.ofList
  ⟨rootOf s, parts.filter fun p => p != "" && p != "."⟩

def isAbsolute (p : Path) : Bool := p.root != ""

def text (p : Path) : String :=
  if p.root == "" && p.parts.isEmpty then "." else p.root ++ "/".intercalate p.parts

/-- The path from one place on. An absolute path starts anew. -/
def append (p q : Path) : Path :=
  if q.isAbsolute then q else { p with parts := p.parts ++ q.parts }

/-- One part further, where two points take the part before away. -/
def step (parts : List String) (part : String) : List String :=
  if part = ".." && parts.getLast?.any (· != "..") then parts.dropLast else parts ++ [part]

/-- The path without its ways up and down again, whatever directories there are. -/
def settled (p : Path) : Path := { p with parts := p.parts.foldl step [] }

def parent (p : Path) : Path := { p with parts := p.parts.dropLast }

end Path

/-- Names that are too long and names with a null character lead nowhere. -/
inductive FileError
  | notFound
  | isDirectory
  | notDirectory
  | isFile
  | tooLong
  | nullByte
  deriving DecidableEq, Repr

namespace FileError

def nullByteMessage : String := "embedded null byte"

end FileError

/-- Where something is: the names of the directories on the way, and its own. -/
abbrev Location := List String

structure Files where
  files : List (Location × String) := []
  directories : List Location := []
  deriving DecidableEq, Repr, Inhabited

namespace Files

/-- A location is a directory if it is listed, or if something is below it. -/
def hasDirectory (f : Files) (l : Location) : Bool :=
  l.isEmpty || f.directories.any l.isPrefixOf ||
    f.files.any fun (l', _) => l.isPrefixOf l' && l != l'

def hasFile (f : Files) (l : Location) : Bool := f.files.any fun (l', _) => l' == l

/-- The bytes that a name and a path may have. -/
def nameLimit : Nat := 255
def pathLimit : Nat := 4095

/-- Whether a path can be followed at all. -/
def checkPath (p : Path) : Except FileError Unit :=
  if p.text.toList.contains (Char.ofNat 0) then .error .nullByte
  else if pathLimit < p.text.utf8ByteSize then .error .tooLong
  else if p.isAbsolute then .error .notFound
  else .ok ()

/-- Follows the parts of a path. Every part but the last has to be in a directory. -/
def follow (f : Files) : Location → List String → Except FileError Location
  | l, [] => .ok l
  | l, part :: rest =>
    if f.hasDirectory l then
      if part = ".." then
        if l.isEmpty then .error .notFound else follow f l.dropLast rest
      else if nameLimit < part.utf8ByteSize then .error .tooLong
      else follow f (l ++ [part]) rest
    else if f.hasFile l then .error .notDirectory
    else .error .notFound

def locate (f : Files) (p : Path) : Except FileError Location := do
  checkPath p
  f.follow [] p.parts

/-- Tests what a path leads to. Only a name that is too long cannot be looked for. -/
def test (f : Files) (p : Path) (is : Location → Bool) : Except FileError Bool :=
  match f.locate p with
  | .ok l => .ok (is l)
  | .error .tooLong => .error .tooLong
  | .error _ => .ok false

def isDirectory (f : Files) (p : Path) : Except FileError Bool := f.test p f.hasDirectory

def exist (f : Files) (p : Path) : Except FileError Bool :=
  f.test p fun l => f.hasDirectory l || f.hasFile l

/-- Whether a path leads to something, if it has no null character. -/
def offers (f : Files) (p : Path) : Except FileError Bool :=
  match f.locate p with
  | .ok l => .ok (f.hasDirectory l || f.hasFile l)
  | .error .nullByte => .error .nullByte
  | .error _ => .ok false

def read (f : Files) (p : Path) : Except FileError String := do
  let l ← f.locate p
  match f.files.lookup l with
  | some text => pure text
  | none => throw (if f.hasDirectory l then .isDirectory else .notFound)

/-- The names in a directory. -/
def namesIn (f : Files) (p : Path) : List String :=
  match f.locate p with
  | .error _ => []
  | .ok l =>
    let below := (f.files.map (·.1) ++ f.directories).filter fun l' => l.isPrefixOf l' && l != l'
    (below.filterMap fun l' => (l'.drop l.length).head?).eraseDups

/-- Makes a directory and those it is in. Directories that are there already stay. -/
def makeDirectory (f : Files) (p : Path) : Except FileError Files := do
  checkPath p
  let step : Files × Location → String → Except FileError (Files × Location) := fun (f, l) part =>
    if part = ".." then
      if l.isEmpty then .error .notFound else .ok (f, l.dropLast)
    else
      let l := l ++ [part]
      if nameLimit < part.utf8ByteSize then .error .tooLong
      else if f.hasFile l then .error .isFile
      else .ok (if f.hasDirectory l then f else { f with directories := f.directories ++ [l] }, l)
  match ← p.parts.dropLast.foldlM step (f, []) |>.mapError fun
      | .isFile => .notDirectory
      | e => e with
  | start => (p.parts.getLast?.toList.foldlM step start).map (·.1)

def write (f : Files) (p : Path) (text : String) : Except FileError Files := do
  let l ← f.locate p
  if f.hasDirectory l then throw .isDirectory
  if !f.hasDirectory l.dropLast then throw .notFound
  if f.hasFile l then
    pure { f with files := f.files.map fun (l', old) => if l' == l then (l, text) else (l', old) }
  else pure { f with files := f.files ++ [(l, text)] }

/-- Locations in the order of their first parts, then of the next ones. -/
def comesBefore : Location → Location → Bool
  | [], _ => true
  | _, [] => false
  | a :: as, b :: bs => a < b || (a == b && comesBefore as bs)

def listed (files : List (Location × String)) : List (String × String) :=
  (files.mergeSort fun a b => comesBefore a.1 b.1).map fun (l, text) => ("/".intercalate l, text)

/-- The files that were not there before, or held another text. -/
def changedSince (f before : Files) : List (String × String) :=
  listed (f.files.filter fun x => !before.files.contains x)

/-- The files that were not there before. -/
def addedSince (f before : Files) : List (String × String) :=
  listed (f.files.filter fun (l, _) => !before.hasFile l)

end Files

end ContactFlow
