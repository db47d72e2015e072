import ContactFlow.Files
import ContactFlow.Level
import ContactFlow.Ordered
import ContactFlow.Text.Blank
import ContactFlow.Text.Quoted
import ContactFlow.Value.Display
import ContactFlow.Value.Shape

/-!
Where log records go. The records of this program pass the level that was set up; the records of
others have to be warnings at least. Both appear on the console, and those of this program in a log
file too if there is one.
-/

namespace ContactFlow

structure LogRecord where
  logger : String
  context : Table := []
  level : Threshold
  message : Value
  deriving Repr, Inhabited

structure Logging where
  level : Threshold := Threshold.ofLevel .info
  file : Option String := none
  structured : Bool := false
  deriving DecidableEq, Repr, Inhabited

inductive LoggingError
  | badConsole
  | badFile
  | overwrites (field : String)
  | mismatch (m : Mismatch)
  deriving DecidableEq, Repr

namespace LoggingError

def message : LoggingError → String
  | .badConsole => "Unable to configure handler 'console'"
  | .badFile => "Unable to configure handler 'file'"
  | .overwrites field => "Attempt to overwrite " ++ Text.quoted field ++ " in LogRecord"
  | .mismatch _ => "The record has another shape"

end LoggingError

namespace Threshold

/-- The names of what logs a record. They look like levels, but are none. -/
def verbs : List String :=
  ["debug", "info", "warning", "warn", "error", "critical", "fatal", "exception", "log"]

/-- The level that a record is given by its name. -/
def ofRecord (v : Value) : Except Mismatch Threshold :=
  match v with
  | .text s => match ofName? s with
    | some level => .ok level
    | none => .error (if verbs.contains s then .operand else .property)
  | _ => .error .operand

/-- The level that is set up, by its name or by its rank. Nothing is no level. -/
def ofSetup? : Value → Option Threshold
  | .text s => ofName? s
  | .int n => some n
  | .bool b => some (if b then 1 else 0)
  | .null => some 0
  | _ => none

end Threshold

/-- What one handler writes for a record. -/
inductive LogLine
  | text (s : String)
  | fields (v : Value)
  deriving Repr

def LogLine.value : LogLine → Value
  | .text s => .text s
  | .fields v => v

namespace LogRecord

/-- The name that a context cannot have among its own. -/
def takenName : Scalar := .text "self"

/-- Reads a record. Its context is a table, and its logger has a name. -/
def ofValues (logger context level message : Value) : Except Mismatch LogRecord := do
  let logger ← logger.text?.elim (.error .operand) .ok
  let context ← context.asTable
  if (Ordered.keys context).contains takenName then throw .operand
  pure { logger, context, level := ← Threshold.ofRecord level, message }

def name (r : LogRecord) : String := if r.logger = "" then "root" else r.logger

/-- The records of this program come from below its own logger. -/
def isOwn (r : LogRecord) : Bool := r.logger == "callflow" || r.logger.startsWith "callflow."

/-- The fields that a record has in any case. -/
def ownFields : List String :=
  ["name", "msg", "args", "levelname", "levelno", "pathname", "filename", "module", "exc_info",
    "exc_text", "stack_info", "lineno", "funcName", "created", "msecs", "relativeCreated", "thread",
    "threadName", "processName", "process", "message", "asctime"]

def overwritten? (r : LogRecord) : Option String :=
  r.context.findSome? fun
    | (.text key, _) => if ownFields.contains key then some key else none
    | _ => none

/-- Fields whose names start with an underscore are left out. -/
def isPublic : Scalar → Bool
  | .text key => !key.startsWith "_"
  | _ => true

/-- The text of the message among fields, and the fields that it adds. A table adds its entries. -/
def messageFields : Value → Value × Table
  | .table entries => (.text "", entries)
  | v => (.text v.display, [])

def fields (r : LogRecord) : Value :=
  let (message, more) := messageFields r.message
  let own : Table := [(.text "name", .text r.name), (.text "levelname", .text r.level.name),
    (.text "message", message)]
  .table (Table.union (Table.union own more) (r.context.filter fun (key, _) => isPublic key))

def lines (r : LogRecord) (structured : Bool) : List LogLine :=
  if structured then [.fields r.fields]
  else
    let line := r.name ++ " - " ++ r.level.name ++ " - " ++ r.message.display ++ "\n"
    (Text.lines line).map .text

end LogRecord

namespace Logging

/-- A logging from a level on. A log file has to be in a directory that is there. -/
def ofLevel? (level : Option Threshold) (file : Option String) (structured : Bool) :
    Except LoggingError Logging := do
  match level with
  | none => throw .badConsole
  | some level =>
    match file with
    | none => pure { level, file, structured }
    | some path =>
      match ({} : Files).write (Path.ofString path).settled "" with
      | .ok _ => pure { level, file, structured }
      | .error _ => throw .badFile

/-- A logging of the level named. -/
def ofName (level : String) : Except LoggingError Logging :=
  ofLevel? (Threshold.ofName? level) none false

/-- The logging that is set up by a table. -/
def ofTable (t : Table) : Except LoggingError Logging :=
  let file := match t.get? "log_file" with
    | none | some .null => none
    | some path => some path.display
  ofLevel? (Threshold.ofSetup? ((t.get? "level").getD (.text Level.info.name))) file
    ((t.get? "json_format").any Value.isTruthy)

/-- The level of a logger. Without one set up it is that of all other loggers. -/
def threshold (l : Logging) (r : LogRecord) : Threshold :=
  if r.isOwn && l.level != 0 then l.level else Threshold.ofLevel .warning

/-- Whether a record is made at all. One without a level is not. -/
def isEnabled (l : Logging) (r : LogRecord) : Bool := 0 < r.level && l.threshold r ≤ r.level

/-- A record cannot be made if its context overwrites one of its fields. -/
def check (l : Logging) (records : List LogRecord) : Except LoggingError Unit :=
  match (records.filter l.isEnabled).findSome? LogRecord.overwritten? with
  | some field => .error (.overwrites field)
  | none => .ok ()

def isShown (l : Logging) (r : LogRecord) : Bool := l.isEnabled r && l.level ≤ r.level

/-- What appears on the console. -/
def console (l : Logging) (records : List LogRecord) : List LogLine :=
  (records.filter l.isShown).flatMap (·.lines l.structured)

/-- What the log file holds. -/
def written (l : Logging) (records : List LogRecord) : List LogLine :=
  (records.filter fun r => r.isOwn && l.isShown r).flatMap (·.lines true)

end Logging

end ContactFlow
