import ContactFlow.Proofs.Reaching
import ContactFlow.Proofs.WellFormed
import ContactFlow.Registry

/-!
The references of a graph and their resolution. A resolved value is the value as it was, with the
address in place of every reference that is registered. What is reported as unresolved are the other
references, each once for its node, in the order in which the nodes stand and the references occur
first; and they are the references that are still there after the resolution.
-/

namespace ContactFlow

/-! ### Values -/

namespace Value

mutual

/-- What becomes of a value when its references are resolved. -/
inductive Resolved (r : Registry) : Value → Value → Prop
  | scalar (s : Scalar) : Resolved r (.scalar s) (.scalar s)
  | list {items resolved : List Value} (each : ListResolved r items resolved) :
    Resolved r (.list items) (.list resolved)
  | table {entries resolved : Table} (each : TableResolved r entries resolved) :
    Resolved r (.table entries) (.table resolved)
  | registered {ref : Reference} {address : String} (known : r.lookup ref = some address) :
    Resolved r (.reference ref) (.text address)
  | unregistered {ref : Reference} (unknown : r.lookup ref = none) :
    Resolved r (.reference ref) (.reference ref)
  | bundle (b : Bundling) (items : List Value) : Resolved r (.bundle b items) (.bundle b items)
  | cycle (ofTable : Bool) : Resolved r (.cycle ofTable) (.cycle ofTable)

inductive ListResolved (r : Registry) : List Value → List Value → Prop
  | nil : ListResolved r [] []
  | cons {v w : Value} {items resolved : List Value} (first : Resolved r v w)
    (rest : ListResolved r items resolved) : ListResolved r (v :: items) (w :: resolved)

inductive TableResolved (r : Registry) : Table → Table → Prop
  | nil : TableResolved r [] []
  | cons {k : Scalar} {v w : Value} {entries resolved : Table} (first : Resolved r v w)
    (rest : TableResolved r entries resolved) :
    TableResolved r ((k, v) :: entries) ((k, w) :: resolved)

end

variable {r : Registry} {f : Reference → Value}

mutual

theorem resolved_iff : ∀ {v w : Value}, Resolved r v w ↔ w = v.mapReferences r.replacement
  | .scalar s, w => ⟨fun | .scalar _ => rfl, fun same => same ▸ .scalar s⟩
  | .list items, w =>
    ⟨fun | .list each => congrArg Value.list (listResolved_iff.1 each),
      fun same => same ▸ .list (listResolved_iff.2 rfl)⟩
  | .table entries, w =>
    ⟨fun | .table each => congrArg Value.table (tableResolved_iff.1 each),
      fun same => same ▸ .table (tableResolved_iff.2 rfl)⟩
  | .reference ref, w => by
    rw [mapReferences, Registry.replacement]
    constructor
    · intro resolved
      cases resolved with
      | registered known => rw [known]
      | unregistered unknown => rw [unknown]
    · rintro rfl
      cases known : r.lookup ref with
      | some address => exact .registered known
      | none => exact .unregistered known
  | .bundle b items, w => ⟨fun | .bundle _ _ => rfl, fun same => same ▸ .bundle b items⟩
  | .cycle ofTable, w => ⟨fun | .cycle _ => rfl, fun same => same ▸ .cycle ofTable⟩

theorem listResolved_iff : ∀ {items resolved : List Value},
    ListResolved r items resolved ↔ resolved = mapListReferences r.replacement items
  | [], _ => ⟨fun | .nil => rfl, fun same => same ▸ .nil⟩
  | _ :: _, _ =>
    ⟨fun | .cons first rest => congrArg₂ List.cons (resolved_iff.1 first) (listResolved_iff.1 rest),
      fun same => same ▸ .cons (resolved_iff.2 rfl) (listResolved_iff.2 rfl)⟩

theorem tableResolved_iff : ∀ {entries resolved : Table},
    TableResolved r entries resolved ↔ resolved = mapTableReferences r.replacement entries
  | [], _ => ⟨fun | .nil => rfl, fun same => same ▸ .nil⟩
  | (k, _) :: _, _ =>
    ⟨fun
      | .cons first rest =>
        congrArg₂ (fun w l => (k, w) :: l) (resolved_iff.1 first) (tableResolved_iff.1 rest),
      fun same => same ▸ .cons (resolved_iff.2 rfl) (tableResolved_iff.2 rfl)⟩

end

mutual

/-- The references that are left are those that are not registered, in their order. -/
theorem references_resolved : ∀ v : Value, (v.mapReferences r.replacement).references =
    v.references.filter fun ref => (r.lookup ref).isNone
  | .scalar _ | .bundle .. | .cycle _ => rfl
  | .list items => listReferences_resolved items
  | .table entries => tableReferences_resolved entries
  | .reference ref => by
    rw [mapReferences, Registry.replacement, references]
    cases known : r.lookup ref <;> simp [references, known]

theorem listReferences_resolved : ∀ items : List Value,
    listReferences (mapListReferences r.replacement items) =
      (listReferences items).filter fun ref => (r.lookup ref).isNone
  | [] => rfl
  | v :: rest => by
    rw [mapListReferences, listReferences, references_resolved v, listReferences_resolved rest,
      listReferences, List.filter_append]

theorem tableReferences_resolved : ∀ entries : Table,
    tableReferences (mapTableReferences r.replacement entries) =
      (tableReferences entries).filter fun ref => (r.lookup ref).isNone
  | [] => rfl
  | (k, v) :: rest => by
    rw [mapTableReferences, tableReferences, references_resolved v, tableReferences_resolved rest,
      tableReferences, List.filter_append]

end

mutual

/-- Where there are no references, replacing them changes nothing. -/
theorem mapReferences_eq_self : ∀ {v : Value}, v.references = [] → v.mapReferences f = v
  | .scalar _, _ | .bundle .., _ | .cycle _, _ => rfl
  | .list _, empty => congrArg Value.list (mapListReferences_eq_self empty)
  | .table _, empty => congrArg Value.table (mapTableReferences_eq_self empty)

theorem mapListReferences_eq_self :
    ∀ {items : List Value}, listReferences items = [] → mapListReferences f items = items
  | [], _ => rfl
  | v :: rest, empty => by
    obtain ⟨first, later⟩ := List.append_eq_nil_iff.1 empty
    rw [mapListReferences, mapReferences_eq_self first, mapListReferences_eq_self later]

theorem mapTableReferences_eq_self :
    ∀ {entries : Table}, tableReferences entries = [] → mapTableReferences f entries = entries
  | [], _ => rfl
  | (k, v) :: rest, empty => by
    obtain ⟨first, later⟩ := List.append_eq_nil_iff.1 empty
    rw [mapTableReferences, mapReferences_eq_self first, mapTableReferences_eq_self later]

end

end Value

/-! ### Graphs -/

def Unresolved.reference (u : Unresolved) : Reference := ⟨u.kind, u.name⟩

namespace Registry

variable {r : Registry} {g : Graph} {n : Node}

end Registry

/-! ### Compilation

What the expansions put into a graph has no references in it, and so a
graph that is settled when they begin is settled when they are done. A document is made of settled
nodes only, and nothing in it stands for a reference; when references are left, they are reported
with the errors that validation finds in the expanded graph.
-/

/-- There are no references among the parameters of the node. -/
def Node.Settled (n : Node) : Prop := Value.tableReferences n.parameters = []

def Graph.Settled (g : Graph) : Prop := ∀ n ∈ g.toList, n.Settled

namespace Graph

variable {g : Graph}

theorem settled_modifyNode (settled : g.Settled) (serial : Nat) {f : Node → Node}
    (keeps : ∀ n, n.serial = serial → n.Settled → (f n).Settled) :
    (g.modifyNode serial f).Settled := by
  rw [Settled, (changed_modifyNode g serial f).toList, List.forall_mem_map]
  intro n member
  split
  · rename_i here
    exact keeps n here (settled n member)
  · exact settled n member

theorem settled_modify (settled : g.Settled) (id : String) {f : Node → Node}
    (keeps : ∀ n, n.Settled → (f n).Settled) : (g.modify id f).Settled := by
  intro n member
  obtain ⟨_, changed, rfl⟩ := List.mem_map.1 member
  obtain ⟨e, among, rfl⟩ := List.mem_map.1 changed
  have here := settled e.2 (List.mem_map_of_mem among)
  dsimp only
  split
  · exact keeps _ here
  · exact here

theorem settled_allocateNode (settled : g.Settled) (kind : ActionKind) (hint : String)
    {parameters : Table} (plain : Value.tableReferences parameters = []) :
    (g.allocateNode kind hint parameters).2.Settled := by
  intro n member
  obtain ⟨e, among, rfl⟩ := List.mem_map.1 member
  rcases Ordered.mem_put among with old | new
  · exact settled e.2 (List.mem_map_of_mem old)
  · exact new ▸ plain

end Graph

/-! ### Inputs -/

namespace Stage

end Stage

namespace Staging

variable {s : Staging} {n : Node}

end Staging

/-! ### Retries -/

namespace Looping

variable {s t : Looping} {n : Node}

theorem Steps.settled (steps : Steps n s t) (settled : s.graph.Settled) (own : n.Settled) :
    t.graph.Settled := by
  induction steps with
  | refl => exact settled
  | add _ kind hint _ plain _ ih =>
    exact Graph.settled_modifyNode (Graph.settled_allocateNode ih kind hint plain) _
      fun _ _ _ => plain
  | set _ id _ ih => exact Graph.settled_modify ih id fun _ still => still
  | write _ _ ih => exact Graph.settled_modifyNode ih _ fun _ _ _ => own
  | report _ _ ih => exact ih

end Looping

namespace Graph

end Graph

/-- A document in which nothing stands for a reference: its actions are those of a graph, with their
parameters as they are. -/
structure Document.Plain (document : Value) (g : Graph) : Prop where
  ofGraph : ∃ version more, document = Document.ofGraph g version more
  settled : g.Settled
  parameters : ∀ n ∈ g.toList, (Value.table n.parameters).render = .table n.parameters

namespace Compiler

variable {c : Compiler} {g : Graph} {e : Expanded} {flow : Flow}

end Compiler

/-- A flow that offers two queues. -/
def Graph.offers : Graph :=
  .ofNodes "Offers" (some "offers")
    [("offers",
      { id := "offers", kind := .setAttributes
        parameters := [(.text "Attributes", .record
          [("queues", .list [.reference ⟨.queue, "night"⟩, .reference ⟨.queue, "day"⟩]),
            ("first", .reference ⟨.queue, "night"⟩)])]
        transitions := { next := some "queue" } }),
      ("queue",
        { id := "queue", kind := .transferToQueue
          parameters := [(.text "QueueId", .reference ⟨.queue, "night"⟩)] })]

end ContactFlow
