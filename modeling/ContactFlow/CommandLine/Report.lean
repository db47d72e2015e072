import ContactFlow.Batch
import ContactFlow.Output
import ContactFlow.Text.Markup

/-!
What a command shows: lines and tables, both written with markup. Only the names of flows may bring
tags of their own; all other texts are escaped.
-/

namespace ContactFlow

variable {ε : Type}

inductive Shown
  | line (text : String)
  | table (title : String) (columns : List String) (rows : List (List String))
  deriving DecidableEq, Repr

namespace Shown

/-- What is shown once the markup is read. -/
def plain? : Shown → Except Markup.MarkupError Shown
  | .line text => (Markup.plain? text).map .line
  | .table title columns rows => do
    let title ← Markup.plain? title
    let rows ← rows.mapM fun row => row.mapM Markup.plain?
    pure (.table title columns rows)

end Shown

namespace Finding

/-- The check, the node and the message of a finding. -/
def row (f : Finding) : List String :=
  let node := match f.node with
    | none | some "" => "-"
    | some node => node
  [f.validator, node, f.message]

end Finding

namespace Unresolved

def row (u : Unresolved) : List String :=
  ["unresolved-reference", u.node, u.kind.wire ++ " '" ++ u.name ++ "' is not registered"]

end Unresolved

/-- The row of an error that is not about single nodes. -/
def plainRow (name message : String) : List (List String) := [[name, "-", message]]

def UsageError.rows (e : UsageError) : List (List String) := plainRow "BuilderUsageError" e.message

def CompileError.rows : CompileError → List (List String)
  | .unresolved _ references findings => references.map Unresolved.row ++ findings.map Finding.row
  | .invalid _ findings => findings.map Finding.row
  | .aborted _ abort => abort.findings.map Finding.row
  | .usage e => e.rows
  | .unwritable _ => []

namespace Failure

/-- The rows of a failure in a report, given those of the errors of programs. -/
def rows (ofProgram : ε → List (List String)) : Failure ε → List (List String)
  | .definition e => plainRow "ConfigError" e.message
  | .usage e => e.rows
  | .program e => ofProgram e
  | .compile e => e.rows

end Failure

namespace Shown

def failureTable (name : String) (rows : List (List String)) : Shown :=
  .table ("[red]" ++ name ++ "[/] failed") ["Check", "Action", "Message"]
    (rows.map fun row => row.map Markup.escape)

def failures (ofProgram : ε → List (List String)) (b : Batch ε) : List Shown :=
  b.failures.map fun (name, f) => failureTable name (f.rows ofProgram)

def warning (name : String) (f : Finding) : Shown :=
  .line ("[yellow]warning[/] " ++ name ++ ": " ++ Markup.escape f.text)

def warnings (name : String) (f : Flow) : List Shown := f.warnings.map (warning name)

def passed (name : String) (f : Flow) : Shown :=
  .line ("[green]✓[/] " ++ name ++ " (" ++ toString f.actionCount ++ " actions)")

/-- The flows that passed, each with its warnings. -/
def valid (b : Batch ε) : List Shown :=
  b.flows.flatMap fun (name, f) => passed name f :: warnings name f

def compiledRow (name : String) (f : Flow) (path : Path) : List String :=
  [name, toString f.actionCount, toString f.warnings.length, path.text]

def compiled (rows : List (List String)) : Shown :=
  .table "Compiled flows" ["Flow", "Actions", "Warnings", "File"] rows

def nothingGiven : Shown := .line "[red]Give a definition file or directory, or --module[/]"

def notLoaded (message : String) : Shown :=
  .line ("[red]Cannot load flows: " ++ Markup.escape message ++ "[/]")

def unknownFlows (names : List String) : Shown :=
  .line ("[red]Unknown flow(s): " ++ ", ".intercalate names ++ "[/]")

end Shown

end ContactFlow
