import ContactFlow.CommandLine.Report
import ContactFlow.Definition.Listing
import ContactFlow.Output
import ContactFlow.Trace

/-!
Listings of what the compiler works out: the nodes of a graph, the findings about it, the flow it is
compiled to and the traces of that.
-/

namespace ContactFlow

open Listing

namespace Place

def listing : Place → Value
  | .name s => .text s
  | .index n => .int n

end Place

/-- A fault with the message of what refused the data, if that has one of its own. -/
def Fault.listing (f : Fault) : Value :=
  .record ([("type", .text f.problem.wire), ("loc", .list (f.path.map Place.listing))] ++
    match f.problem with
    | .refused message => [("msg", .text message)]
    | _ => [])

namespace Finding

def listing (f : Finding) : Value :=
  .list [.text f.validator, .text f.message, .orNull f.node, .text f.severity.wire]

/-- A finding without its severity. -/
def triple (f : Finding) : Value :=
  .list [.text f.validator, .text f.message, .orNull f.node]

def listingOf (fs : List Finding) : Value := .list (fs.map listing)

end Finding

def Unresolved.listing (u : Unresolved) : Value :=
  .list [.text u.kind.wire, .text u.name, .text u.node]

namespace CompileError

def about (flow : Option String) (fs : List Finding) : List (String × Value) :=
  [("flow_name", .orNull flow), ("findings", Finding.listingOf fs),
    ("validator_ids", texts (Finding.validators fs))]

/-- What an error tells besides its message. -/
def listing : CompileError → List (String × Value)
  | .unresolved flow us fs => about flow fs ++ [("unresolved", .list (us.map Unresolved.listing))]
  | .invalid flow fs => about flow fs ++ [("triples", .list (fs.map Finding.triple))]
  | .aborted flow abort => about flow abort.findings ++
      [("triples", .list (abort.findings.map Finding.triple)),
        ("validator_id", .text abort.validator)]
  | .usage _ | .unwritable _ => []

end CompileError

def Guard.listing : Guard → List (String × Value)
  | .compare operator operands =>
    [("operator", .text operator), ("operands", .list (operands.map .scalar))]
  | .input digits intent =>
    [("digits", .scalar (digits.getD .null)), ("intent", .scalar (intent.getD .null))]

def ConditionEdge.listing (e : ConditionEdge) : Value :=
  .record (e.guard.listing ++ [("target", .orNull e.target)])

def ErrorEdge.listing (e : ErrorEdge) : Value := .list [.text e.kind.name, .orNull e.target]

def Node.listing (n : Node) : Value :=
  .record [("id", .text n.id), ("kind", .text n.kind.name), ("label", n.label),
    ("parameters", .table n.parameters), ("next", .orNull n.transitions.next),
    ("conditions", .list (n.transitions.conditions.map ConditionEdge.listing)),
    ("errors", .list (n.transitions.errors.map ErrorEdge.listing)),
    ("retry", n.retry.elim .null RetrySpec.listing),
    ("input_spec", n.spec.elim .null InputSpec.listing),
    ("input_mode", .orNull (n.mode.map InputMode.wire))]

/-- Where a node leads, by which of its edges, and what it refers to. -/
def Node.edges (n : Node) : List (String × Value) :=
  let t := n.transitions
  [("terminal", .bool n.kind.isTerminal), ("targets", texts t.targets),
    ("unlinked", .list (t.unlinkedConditions.map ConditionEdge.listing ++
      t.unlinkedErrors.map ErrorEdge.listing)),
    ("error_targets", .list (ErrorKind.all.map fun kind =>
      (ErrorEdge.mk kind (t.errorTarget kind)).listing)),
    ("refs", .list ((Value.tableReferences n.parameters).map .reference))]

def Graph.listing (g : Graph) : Value :=
  .record [("name", .text g.name), ("entry", .orNull g.entry), ("resolved", .bool g.resolved),
    ("nodes", .list (g.nodes.map fun (k, n) => .list [.text k, n.listing]))]

/-- How far a builder has come. A branch also says whether it is still empty. -/
def Builder.listing (b : Builder) : List (String × Value) :=
  [("last", .orNull (b.last.map Handle.id)), ("terminated", .bool b.isTerminated)] ++
    if b.scope = .root then [] else [("empty", .bool b.isEmpty)]

def Report.listing (r : Report) : List (String × Value) :=
  [("ok", .bool r.ok), ("texts", texts (r.findings.map Finding.text)),
    ("errors", Finding.listingOf r.errors), ("warnings", Finding.listingOf r.warnings)]

def Pipeline.listing (p : Pipeline) : List (String × Value) :=
  [("ids", texts p.ids), ("enabled", .list (p.enabled.map fun v =>
    .list [.text v.id, .text v.severity.wire, .bool v.aborts]))]

def Registry.listing (r : Registry) : Value :=
  .list (r.addresses.map fun (ref, address) =>
    .list [.text ref.kind.wire, .text ref.name, .text address])

/-- The fields of a flow. A document without a fingerprint has none. -/
def Flow.fields? (f : Flow) : Except Json.Unwritable (List (String × Value)) :=
  (Document.fingerprint? f.document).map fun fingerprint =>
    [("name", .text f.name), ("document", f.document), ("fingerprint", .text fingerprint),
      ("action_count", .int f.actionCount), ("warnings", Finding.listingOf f.warnings)]

/-- A trace, with how often it came to each of the actions named. -/
def Trace.listing (t : Trace) (counted : List Value) : Value :=
  .record [("visited", .list (t.visited.map .scalar)), ("consumed", texts t.consumed),
    ("end", .text t.finish.wire), ("last", .scalar (t.last?.getD .null)),
    ("terminated", .bool t.terminated),
    ("counts", .list (counted.map fun id => .int (t.count id)))]

def Shown.listing : Shown → Value
  | .line text => .text text
  | .table title columns rows =>
    .record [("title", .text title), ("columns", texts columns), ("rows", .list (rows.map texts))]

end ContactFlow
