import ContactFlow.CommandLine.Report
import ContactFlow.CommandLine.Request
import ContactFlow.Definition.Load
import ContactFlow.Logging

/-!
Running a command on the files and modules that there are. The flows of the path given and of the
modules named are compiled in one batch. Errors of single flows are reported; some others escape and
end the command.
-/

namespace ContactFlow

variable {ε : Type}

/-- An error that ends a command without a report. -/
inductive Escaped (ε : Type)
  | logging (e : LoggingError)
  | load (e : LoadError)
  | registry (e : UsageError)
  | importing (e : ImportError)
  | pipeline (e : PipelineError)
  | batch (e : Abandoned ε)
  | file (e : FileError)
  | write (e : WriteError)
  | markup (e : Markup.MarkupError)

/-- How a command ends before its batch is through. -/
inductive Stopped (ε : Type)
  | exit (code : Nat) (shown : Shown)
  | escaped (e : Escaped ε)

/-- What a command works on. Errors of programs have rows in the report, unless they are fatal. -/
structure Surroundings (ε : Type) where
  files : Files := {}
  modules : Modules ε := []
  rows : ε → List (List String)
  fatal : ε → Bool := fun _ => false

/-- What a command leaves behind. -/
structure Outcome (ε : Type) where
  code : Nat
  shown : List Shown := []
  printed : String := ""
  files : Files := {}
  escaped : Option (Escaped ε) := none

namespace LoadError

/-- Whether an error is reported. The others escape. -/
def isReported : LoadError → Bool
  | .fileNotFound _ | .noFiles _ | .malformed _ | .notAMapping _ | .invalid _ _ => true
  | .scalar _ | .file _ | .merge _ => false

end LoadError

namespace Settings

/-- The settings with the strictness that an option asks for. -/
def withStrictness (s : Settings) : Option Bool → Settings
  | none => s
  | some strict => s.withSeverity (if strict then .error else .warning)

end Settings

namespace Request

abbrev Step (ε α : Type) := Except (Stopped ε) α

/-- The level given, or else the one of the settings, has to be known. -/
def checkLevel (r : Request) : Step ε Unit :=
  let level := match r.logLevel with
    | none | some "" => ({} : Settings).logLevel
    | some level => level
  match Logging.ofName (Text.upper level) with
  | .ok _ => .ok ()
  | .error e => .error (.escaped (.logging e))

def load (files : Files) (path : String) : Step ε Definition :=
  match Definition.load files path with
  | .ok d => .ok d
  | .error e =>
    .error (if e.isReported then .exit 1 (.notLoaded e.message) else .escaped (.load e))

/-- Imports a module once and registers its flows. -/
def importModule (m : Modules ε) (c : Catalog ε) (module : String) : Step ε (Catalog ε) :=
  match m.flowsOf module with
  | .error e => match e with
    | .missing _ _ _ => .error (.exit 1 (.notLoaded e.message))
    | e => .error (.escaped (.importing e))
  | .ok flows =>
    (c.registerAll flows).mapError fun _ => .exit 1 (.notLoaded CatalogError.emptyNameMessage)

def importAll (m : Modules ε) (modules : List String) : Step ε (Catalog ε) :=
  (Ordered.distinct modules).foldlM (importModule m) {}

/-- What the flows of a command are compiled with: settings and addresses. -/
structure Context where
  settings : Settings := {}
  registry : Registry := {}

/-- Builds the flows of the path given. -/
def buildDefinition (files : Files) (selected : List String) :
    Option String → Step ε (Batch ε × Context)
  | none => .ok ({}, {})
  | some path => do
    let d ← load files path
    let registry ← (d.registry {}).mapError fun e => .escaped (.registry e)
    let b ← (({} : Batch ε).addDefinition d selected).mapError fun e => .escaped (.batch e)
    pure (b, { settings := d.settings, registry })

/-- Builds and compiles the flows of all sources. -/
def batch (s : Surroundings ε) (r : Request) : Step ε (Batch ε) := do
  if r.config.isNone && r.modules.isEmpty then throw (.exit 2 .nothingGiven)
  r.checkLevel
  let (b, context) ← buildDefinition s.files r.flows r.config
  let catalog ← importAll s.modules r.modules
  let b ← (b.addCatalog s.fatal catalog r.flows).mapError fun e => .escaped (.batch e)
  match b.unknown r.flows with
  | [] => pure ()
  | names => throw (.exit 1 (.unknownFlows names))
  let settings := context.settings.withStrictness r.strict
  let compiler ← (Compiler.ofSettings context.registry settings).mapError fun e =>
    .escaped (.pipeline e)
  (b.compile compiler).mapError fun e => .escaped (.batch e)

/-- A command in its course: the files, what was shown, and the error that ended it. -/
structure Course (ε : Type) where
  files : Files
  shown : List Shown := []
  escaped : Option (Escaped ε) := none

namespace Course

/-- Shows something. A text whose markup is broken ends the command. -/
def present (c : Course ε) (x : Shown) : Course ε :=
  if c.escaped.isSome then c
  else match x.plain? with
    | .ok x => { c with shown := c.shown ++ [x] }
    | .error e => { c with escaped := some (.markup e) }

def presentAll (c : Course ε) (xs : List Shown) : Course ε := xs.foldl present c

/-- The outcome, with the code given unless an error escaped. -/
def outcome (c : Course ε) (code : Nat) : Outcome ε :=
  { code := if c.escaped.isSome then 1 else code, shown := c.shown, files := c.files,
    escaped := c.escaped }

end Course

def writeFlow (output : Path) (c : Course ε × List (List String)) (entry : String × Flow) :
    Course ε × List (List String) :=
  if c.1.escaped.isSome then c
  else match entry.2.write c.1.files output with
    | .error e => ({ c.1 with escaped := some (.write e) }, c.2)
    | .ok (path, files) =>
      (({ c.1 with files } : Course ε).presentAll (Shown.warnings entry.1 entry.2),
        c.2 ++ [Shown.compiledRow entry.1 entry.2 path])

/-- Writes the flows of a batch. The table of what was written comes after their warnings. -/
def writeAll (files : Files) (output : Path) (flows : List (String × Flow)) : Course ε :=
  if flows.isEmpty then { files }
  else match files.makeDirectory output with
    | .error e => { files, escaped := some (.file e) }
    | .ok files =>
      let (c, rows) := flows.foldl (writeFlow output) ({ files }, [])
      c.present (.compiled rows)

/-- What a verb does with the flows of a batch. -/
def course (s : Surroundings ε) (r : Request) (b : Batch ε) : Course ε :=
  match r.verb with
  | .validate => ({ files := s.files } : Course ε).presentAll (Shown.valid b)
  | .compile => writeAll s.files (Path.ofString r.output) b.flows

/-- Runs a request whose path is there. -/
def perform (s : Surroundings ε) (r : Request) : Outcome ε :=
  let start : Course ε := { files := s.files }
  match r.batch s with
  | .error (.exit code shown) => (start.present shown).outcome code
  | .error (.escaped e) => { start with escaped := some e }.outcome 1
  | .ok b =>
    ((r.course s b).presentAll (Shown.failures s.rows b)).outcome
      (if b.failures.isEmpty then 0 else 1)

/-- Runs a request. A path that is not there is a wrong command. -/
def run (s : Surroundings ε) (r : Request) : Outcome ε :=
  match r.config with
  | none => r.perform s
  | some path => match s.files.offers (Path.ofString path) with
    | .ok true => r.perform s
    | .ok false => { code := 2, files := s.files }
    | .error e => { code := 1, files := s.files, escaped := some (.file e) }

end Request

namespace Command

def versionText : String := "callflow version 0.1.0\n"

def helpText : String :=
  "Usage: callflow [-v] compile|validate [PATH] [-f FLOW] [-m MODULE] [-o DIRECTORY]" ++
    " [--strict|--lenient] [--log-level LEVEL]\n"

/-- Runs a command line. A wrong one ends with code 2. -/
def run (s : Surroundings ε) (args : List String) : Outcome ε :=
  match ofArguments args with
  | .error _ => { code := 2, files := s.files }
  | .ok .version => { code := 0, printed := versionText, files := s.files }
  | .ok .help => { code := 0, printed := helpText, files := s.files }
  | .ok (.request r) => r.run s

end Command

end ContactFlow
