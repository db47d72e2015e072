import ContactFlow.Definition.File
import ContactFlow.Definition.Merge
import ContactFlow.Files
import ContactFlow.Yaml.Content

/-!
Loading definitions. A path names a file, or a directory. A directory is read through its master
file or, when there is none, through all its YAML files in the order of their names.
-/

namespace ContactFlow

inductive LoadError
  | fileNotFound (path : String)
  | noFiles (directory : String)
  | file (e : FileError)
  | malformed (path : String)
  | scalar (e : Yaml.Failure)
  | notAMapping (path : String)
  | merge (e : MergeError)
  | invalid (source : String) (faults : List Fault)
  deriving DecidableEq, Repr

/-- What the faults of a definition are headed by: the first line of the message. -/
def Definition.invalidMessage (source : String) : String :=
  (("Invalid flow definition in " ++ source ++ ":").splitOn "\n").headD ""

namespace LoadError

/-- A text that every one of these errors is known by. Some have no message of their own. -/
def message : LoadError → String
  | .fileNotFound path => "Config file not found: " ++ path
  | .noFiles directory => "No config files found in " ++ directory
  | .malformed path => "Malformed YAML in " ++ path
  | .notAMapping path => "Top level of " ++ path ++ " must be a mapping"
  | .invalid source _ => Definition.invalidMessage source
  | .scalar e => e.message
  | .merge e => e.message
  | .file _ => ""

end LoadError

namespace Definition

def masterFiles : List String := ["callflow.yaml", "config.yaml"]

/-- Reads a definition from its data, which came from the source named. -/
def check (v : Value) (source : String) : Except LoadError Definition :=
  match Definition.ofValue v with
  | .good d => .ok d
  | .bad faults => .error (.invalid source faults)

/-- The entries of a YAML text. -/
def entriesOf (path text : String) : Except LoadError Table :=
  match Yaml.read text with
  | .error .malformed => .error (.malformed path)
  | .error e => .error (.scalar e)
  | .ok (.table entries) => .ok entries
  | .ok v => if v.isTruthy then .error (.notAMapping path) else .ok []

def readFile (f : Files) (p : Path) : Except LoadError Table := do
  let text ← (f.read p).mapError .file
  entriesOf p.text text

def yamlFiles (f : Files) (directory : Path) : List Path :=
  (((f.namesIn directory).filter (·.endsWith ".yaml")).mergeSort (· ≤ ·)).map fun name =>
    { directory with parts := directory.parts ++ [name] }

/-- Reads all YAML files of a directory. -/
def readAll (f : Files) (directory : Path) : Except LoadError Table := do
  match yamlFiles f directory with
  | [] => throw (.noFiles directory.text)
  | files => files.foldlM (fun data p => do
      let chunk ← readFile f p
      (Merge.add data chunk).mapError .merge) Merge.start

/-- The first of the paths that leads to something. -/
def firstThere (f : Files) : List Path → Except FileError (Option Path)
  | [] => .ok none
  | p :: rest => do if ← f.exist p then pure (some p) else firstThere f rest

/-- The data that a path leads to. -/
def readPath (f : Files) (p : Path) : Except LoadError Table := do
  if ← (f.isDirectory p).mapError .file then
    let masters := masterFiles.map fun name => p.append ⟨"", [name]⟩
    match ← (firstThere f masters).mapError .file with
    | some master => readFile f master
    | none => readAll f p
  else if ← (f.exist p).mapError .file then readFile f p
  else throw (.fileNotFound p.text)

/-- Loads the definition that a path leads to. -/
def load (f : Files) (path : String) : Except LoadError Definition := do
  let p := Path.ofString path
  let data ← readPath f p
  check (.table data) p.text

end Definition

end ContactFlow
