import ContactFlow.Compile
import ContactFlow.Files

/-!
Compiled flows as files. A document is written with its lines indented and a line end after the
last.
-/

namespace ContactFlow

inductive WriteError
  | file (e : FileError)
  | unwritable (e : Json.Unwritable)
  deriving DecidableEq, Repr

namespace Flow

def actionCount (f : Flow) : Nat := (Document.actions f.document).length

def text? (f : Flow) : Except Json.Unwritable String :=
  (Document.text? f.document (some "  ")).map (· ++ "\n")

/-- Where a flow goes: a directory takes a file with the name of the flow. -/
def target (f : Flow) (files : Files) (p : Path) : Except FileError Path :=
  (files.isDirectory p).map fun isDirectory =>
    if isDirectory then p.append (Path.ofString (f.name ++ ".json")) else p

/-- Writes a flow, after it has made the directories on the way. -/
def write (f : Flow) (files : Files) (p : Path) : Except WriteError (Path × Files) := do
  let target ← (f.target files p).mapError .file
  let files ← (files.makeDirectory target.parent).mapError .file
  let text ← f.text?.mapError .unwritable
  let files ← (files.write target text).mapError .file
  pure (target, files)

end Flow

end ContactFlow
