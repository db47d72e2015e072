import ContactFlow.CommandLine.Run

/-!
The command line. It works on the files below the current directory; flows that are written as steps
of construction are for programs that use the library, so there are no modules to import here.
-/

namespace ContactFlow.Main

def surroundings (files : Files) : Surroundings Empty :=
  { files, rows := nofun }

/-- The path of a location, and whether its text may be needed. -/
def isRead (wanted : List String) (l : Location) : Bool :=
  let text := "/".intercalate l
  text.endsWith ".yaml" || wanted.any fun path => (Path.ofString path).text == text

/-- Takes down what is below a directory. -/
partial def gather (wanted : List String) (above : Location) (files : Files)
    (e : IO.FS.DirEntry) : IO Files := do
  let location := above ++ [e.fileName]
  if ← e.path.isDir then
    let files := { files with directories := files.directories ++ [location] }
    (← e.path.readDir).foldlM (gather wanted location) files
  else
    let text ← if isRead wanted location then IO.FS.readFile e.path else pure ""
    pure { files with files := files.files ++ [(location, text)] }

/-- The lines in which something is shown. -/
def linesOf : Shown → List String
  | .line text => [text]
  | .table title columns rows => title :: (columns :: rows).map (" | ".intercalate ·)

/-- Puts a file where it belongs, with the directories above it. -/
def put (path text : String) : IO Unit := do
  IO.FS.createDirAll ("./" ++ (Path.ofString path).parent.text)
  IO.FS.writeFile path text

end ContactFlow.Main

open ContactFlow in
def main (args : List String) : IO UInt32 := do
  let here ← IO.currentDir
  let files ← (← here.readDir).foldlM (Main.gather args []) {}
  let o := Command.run (Main.surroundings files) args
  for text in o.shown.flatMap Main.linesOf do IO.println text
  IO.print o.printed
  for (path, text) in o.files.changedSince files do Main.put path text
  if o.escaped.isSome then IO.eprintln "The command ended with an error"
  pure (UInt32.ofNat o.code)
