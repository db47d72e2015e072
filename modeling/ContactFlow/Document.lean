import ContactFlow.Digest.Sha256
import ContactFlow.Graph
import ContactFlow.Value.Json

/-!
The document of a flow: its version, its entry, its name and its actions in the order of the graph.
The fingerprint of a document is the hash of its canonical text without the metadata.
-/

namespace ContactFlow

namespace Guard

/-- A match on input that no stage has taken counts as a comparison with all its keys. -/
def document : Guard → Value
  | .compare operator operands =>
    .record [("Operator", .text operator), ("Operands", .list (operands.map .scalar))]
  | .input digits intent =>
    .record [("Operator", .text "Equals"),
      ("Operands", .list ((intent.toList ++ digits.toList).map .scalar))]

end Guard

namespace Transitions

def conditionDocument (e : ConditionEdge) : Value :=
  .record [("NextAction", .orNull e.target), ("Condition", e.guard.document)]

def errorDocument (e : ErrorEdge) : Value :=
  .record [("NextAction", .orNull e.target), ("ErrorType", .text e.kind.wire)]

def document (t : Transitions) : Value :=
  .record ((t.next.map fun next => ("NextAction", .text next)).toList ++
    [("Conditions", .list (t.conditions.map conditionDocument)),
      ("Errors", .list (t.errors.map errorDocument))])

end Transitions

def Node.document (n : Node) : Value :=
  .record [("Identifier", .text n.id), ("Type", .text n.kind.wire),
    ("Parameters", (Value.table n.parameters).render), ("Transitions", n.transitions.document)]

namespace Document

def defaultVersion : String := "2019-10-30"

def metadata (name : String) (more : Table) : Table := Table.union [(.text "Name", .text name)] more

/-- The document of a graph. References that are left in it are written as placeholders. -/
def ofGraph (g : Graph) (version : Value) (more : Table) : Value :=
  .record [("Version", version), ("StartAction", .orNull g.entry),
    ("Metadata", .table (metadata g.name more)), ("Actions", .list (g.toList.map Node.document))]

def withoutMetadata : Value → Value
  | .table entries => .table (Table.erase entries "Metadata")
  | v => v

/-- The hash of a document's content, if the document can be written at all. -/
def fingerprint? (document : Value) : Except Json.Unwritable String :=
  (Json.canonical? (withoutMetadata document)).map Sha256.ofText

/-- Adds the fingerprint of a document to its metadata. -/
def withFingerprint (g : Graph) (version : Value) (document : Value) :
    Except Json.Unwritable Value :=
  (fingerprint? document).map fun f => ofGraph g version [(.text "Fingerprint", .text f)]

def actions : Value → List Value
  | .table entries => match Table.get? entries "Actions" with
    | some (.list items) => items
    | _ => []
  | _ => []

/-- The text of a document, with its lines indented by a text if one is given. -/
def text? (document : Value) (indent : Option String) : Except Json.Unwritable String :=
  Json.text? (indent.elim .spaced .indentedBy) document

end Document

end ContactFlow
