import ContactFlow.Proofs.Canonical
import ContactFlow.Proofs.Checks
import ContactFlow.Proofs.Compiled

/-!
Well-formed graphs, and the compilation of them. With all validators at their own severities, the
graphs that pass are exactly the well-formed ones: what is reached from the entry is all there is,
every edge leads somewhere, and somewhere the flow ends. Such a graph is compiled whenever its
references are registered, unless a fingerprint is asked for that its document cannot have.
-/

namespace ContactFlow

/-- What a graph has to be like to become a document. -/
structure Graph.WellFormed (g : Graph) : Prop where
  inhabited : g.nodes ≠ []
  named : ∀ e ∈ g.nodes, e.1 = e.2.id
  entry : ∃ id ∈ g.keys, g.entry = some id
  reachable : ∀ id ∈ g.keys, g.Reachable id
  there : ∀ n ∈ g.toList, ∀ target ∈ n.transitions.targets, target ∈ g.keys
  linked : ∀ n ∈ g.toList, (∀ e ∈ n.transitions.conditions, e.target ≠ none) ∧
    ∀ e ∈ n.transitions.errors, e.target ≠ none
  ends : ∃ id n, g.Reachable id ∧ g.get? id = some n ∧ n.kind.isTerminal = true
  addressed : ∀ n ∈ g.toList, n.kind = .invokeExternal →
    ∃ address, Table.get? n.parameters "LambdaFunctionARN" = some (.text address) ∧
      Text.blank address = false
  final : ∀ n ∈ g.toList, n.kind.isTerminal = true → n.transitions.next = none

/-- All references of a graph are registered. -/
def Registry.Covers (r : Registry) (g : Graph) : Prop :=
  ∀ n ∈ g.toList, ∀ ref ∈ Value.tableReferences n.parameters, r.isRegistered ref = true

/-- Validation as it is by default, whatever else the settings say. -/
structure Settings.Strict (s : Settings) : Prop where
  reachability : s.reachabilitySeverity = .error
  terminal : s.terminalSeverity = .error
  enabled : s.disabledValidators = []

/-- The document without its metadata has a canonical text, so that it can have a fingerprint. -/
def Document.Canonical (document : Value) : Prop :=
  ∃ text, Json.canonical? (Document.withoutMetadata document) = .ok text

/-- The document lists the nodes as its actions and starts at one of them. -/
structure Document.Lists (document : Value) (nodes : List Node) : Prop where
  actions : Document.actions document = nodes.map Node.document
  identifiers : (Document.actions document).map (Trace.field · "Identifier") =
    nodes.map fun n => .ok (.text n.id)
  distinct : (nodes.map (·.id)).Nodup
  start : ∃ n ∈ nodes, Trace.field document "StartAction" = .ok (.text n.id)

namespace Graph

variable {g : Graph}

/-- The validators at their own severities let exactly the well-formed graphs pass. -/
theorem wellFormed_iff (distinct : g.keys.Nodup) :
    g.WellFormed ↔ ∀ v ∈ Validator.builtin, v.check g = [] := by
  have checks : (∀ v ∈ Validator.builtin, v.check g = []) ↔
      Check.nonEmpty g = [] ∧ Check.uniqueIds g = [] ∧ Check.entryPoint g = [] ∧
        Check.reachability g = [] ∧ Check.danglingTransitions g = [] ∧
        Check.terminalPresent g = [] ∧ Check.externalInvocation g = [] ∧
        Check.terminalTransitions g = [] := by
    simp [Validator.builtin, Validator.nonEmpty, Validator.uniqueIds, Validator.entryPoint,
      Validator.reachability, Validator.danglingTransitions, Validator.terminalPresent,
      Validator.externalInvocation, Validator.terminalTransitions]
  rw [checks, Check.nonEmpty_eq_nil, Check.uniqueIds_eq_nil distinct, Check.entryPoint_eq_nil,
    Check.reachability_eq_nil, Check.danglingTransitions_eq_nil, Check.terminalPresent_eq_nil,
    Check.externalInvocation_eq_nil, Check.terminalTransitions_eq_nil]
  constructor
  · intro wf
    obtain ⟨first, key, starts⟩ := wf.entry
    obtain ⟨last, n, ending, found, terminal⟩ := wf.ends
    have walked {id : String} : id ∈ g.walk ↔ g.Reachable id := mem_walk_iff starts key wf.there
    refine ⟨wf.inhabited, wf.named, wf.entry, ?_, ?_, ?_, wf.addressed, wf.final⟩
    · intro id member
      exact walked.2 (wf.reachable id member)
    · intro n member
      exact ⟨wf.there n member, Check.unlinked_eq_zero.2 (wf.linked n member)⟩
    · exact ⟨last, walked.2 ending, n, found, terminal⟩
  · rintro ⟨inhabited, named, entry, reached, dangling, ⟨last, ending, n, found, terminal⟩,
      addressed, final⟩
    obtain ⟨first, key, starts⟩ := entry
    have there : ∀ n ∈ g.toList, ∀ target ∈ n.transitions.targets, target ∈ g.keys :=
      fun n member => (dangling n member).1
    have walked {id : String} : id ∈ g.walk ↔ g.Reachable id := mem_walk_iff starts key there
    exact {
      inhabited, named, there, addressed, final
      entry := ⟨first, key, starts⟩
      reachable := fun id member => walked.1 (reached id member)
      linked := fun n member => Check.unlinked_eq_zero.1 (dangling n member).2
      ends := ⟨last, n, walked.1 ending, found, terminal⟩ }

/-! ### Keys stay distinct -/

theorem keys_modify (g : Graph) (id : String) (f : Node → Node) : (g.modify id f).keys = g.keys := by
  simp only [modify, Ordered.modify, keys, Ordered.keys, List.map_map]
  refine List.map_congr_left fun e _ => ?_
  simp only [Function.comp_apply]
  split
  · rfl
  · rfl

theorem nodup_allocateNode (distinct : g.keys.Nodup) (kind : ActionKind) (hint : String)
    (parameters : Table) : (g.allocateNode kind hint parameters).2.keys.Nodup := by
  obtain ⟨id, node, put⟩ : ∃ id node, (g.allocateNode kind hint parameters).2.keys =
      Ordered.keys (Ordered.put g.nodes id node) := ⟨_, _, rfl⟩
  rw [put, Ordered.keys_put]
  split
  · exact distinct
  · rename_i fresh
    refine distinct.append (List.nodup_singleton _) ?_
    intro key old new
    rw [List.mem_singleton.1 new] at old
    exact fresh old

end Graph

namespace Staging

variable {s : Staging} {n : Node}

theorem keys_write (s : Staging) (n : Node) : (s.write n).graph.keys = s.graph.keys :=
  (Graph.changed_modifyNode s.graph n.serial fun _ => n).keys

theorem nodup_split (distinct : s.graph.keys.Nodup) (spec : InputSpec) (f : FallbackInput)
    (first second : Table) : (s.split n spec f first second).graph.keys.Nodup := by
  unfold split
  refine (keys_write _ _).symm ▸ ?_
  exact (Graph.changed_modifyNode _ _ _).keys.symm ▸ Graph.nodup_allocateNode distinct _ _ _

theorem nodup_expandNode (distinct : s.graph.keys.Nodup) : (s.expandNode n).graph.keys.Nodup := by
  have turn := turn_expandNode s n
  generalize s.expandNode n = s' at turn
  cases turn with
  | idle => exact distinct
  | fails => exact distinct
  | plain => exact (keys_write _ _).symm ▸ distinct
  | unmet => exact (keys_write _ _).symm ▸ distinct
  | single => exact (keys_write _ _).symm ▸ distinct
  | split => exact nodup_split distinct ..

end Staging

namespace Looping

variable {s t : Looping} {n : Node}

theorem Steps.nodup (steps : Steps n s t) (distinct : s.graph.keys.Nodup) :
    t.graph.keys.Nodup := by
  induction steps with
  | refl => exact distinct
  | add _ _ _ _ _ _ ih =>
    exact (Graph.changed_modifyNode _ _ _).keys.symm ▸ Graph.nodup_allocateNode ih _ _ _
  | set _ _ _ ih => exact (Graph.keys_modify _ _ _).symm ▸ ih
  | write _ _ ih => exact (Graph.changed_modifyNode _ _ _).keys.symm ▸ ih
  | report _ _ ih => exact ih

theorem nodup_expandNode (distinct : s.graph.keys.Nodup) : (s.expandNode n).graph.keys.Nodup := by
  obtain ⟨t, steps, same, _⟩ := (attempt_expandNode s n).graph
  exact same ▸ steps.nodup distinct

end Looping

theorem Graph.nodup_expandInputs {g : Graph} (distinct : g.keys.Nodup) :
    (expandInputs g).graph.keys.Nodup := by
  have start : (Staging.graph { graph := g }).keys.Nodup := distinct
  exact List.foldlRecOn g.toList Staging.expandNode (motive := fun s => s.graph.keys.Nodup) start
    fun _ distinct _ _ => Staging.nodup_expandNode distinct

theorem Graph.nodup_expandRetries {g : Graph} (distinct : g.keys.Nodup) :
    (expandRetries g).graph.keys.Nodup := by
  have start : (Looping.graph { graph := g }).keys.Nodup := distinct
  exact List.foldlRecOn g.toList Looping.expandNode (motive := fun s => s.graph.keys.Nodup) start
    fun _ distinct _ _ => Looping.nodup_expandNode distinct

/-! ### Compilation -/

theorem Registry.unresolved_eq_nil {r : Registry} {g : Graph} :
    r.unresolved g = [] ↔ r.Covers g := by
  have absent (ref : Reference) : (r.lookup ref).isNone = true ↔ ¬ r.isRegistered ref = true := by
    rw [Registry.lookup, Registry.isRegistered, Ordered.contains_iff, ← Ordered.lookup_isSome]
    cases r.addresses.lookup ref with
    | none => simp
    | some address => simp
  have empty (l : List Unresolved) : Ordered.distinct l = [] ↔ l = [] := by
    simp only [List.eq_nil_iff_forall_not_mem, Ordered.mem_distinct]
  rw [Registry.unresolved, empty, List.flatMap_eq_nil_iff]
  refine forall₂_congr fun n _ => ?_
  rw [Registry.missingIn, List.map_eq_nil_iff, List.filter_eq_nil_iff]
  refine forall₂_congr fun ref _ => ?_
  rw [absent, not_not]

/-- What the checks find is an error, unless the settings say otherwise. -/
theorem Validator.severe {v : Validator} (listed : v ∈ Validator.builtin) : v.severity = .error := by
  revert v
  simp [Validator.builtin, Validator.nonEmpty, Validator.uniqueIds, Validator.entryPoint,
    Validator.reachability, Validator.danglingTransitions, Validator.terminalPresent,
    Validator.externalInvocation, Validator.terminalTransitions]

theorem Pipeline.accepts_strict {s : Settings} {p : Pipeline} {g : Graph} (strict : s.Strict)
    (made : Pipeline.ofSettings s = .ok p) :
    p.Accepts g ↔ ∀ v ∈ Validator.builtin, v.check g = [] := by
  have own : (Pipeline.configured s).validators = Validator.builtin := by
    simp [Pipeline.configured, Validator.builtin, Validator.nonEmpty, Validator.uniqueIds,
      Validator.entryPoint, Validator.reachability, Validator.danglingTransitions,
      Validator.terminalPresent, Validator.externalInvocation, Validator.terminalTransitions,
      Settings.severityFor, strict.reachability, strict.terminal]
  rw [Pipeline.accepts_iff]
  simp only [Pipeline.mem_enabled made, own, strict.enabled, List.not_mem_nil, not_false_eq_true,
    and_true]
  exact forall₂_congr fun v member => ⟨fun passed =>
    passed (Validator.severe member), fun clean _ => clean⟩

namespace Compiler

variable {c : Compiler} {g : Graph} {e : Expanded} {flow : Flow}

/-- A graph that is expanded is resolved first, and what that leaves is unresolved. -/
theorem resolve_of_expand (expanded : c.expand g = .ok e) :
    c.registry.resolve g = .ok (c.registry.resolvedGraph g, e.unresolved) := by
  unfold expand at expanded
  obtain ⟨⟨resolved, unresolved⟩, resolving, expanded⟩ := Results.bind_eq_ok.1 expanded
  obtain ⟨_, rfl, _⟩ := Registry.resolve_ok.1 resolving
  obtain ⟨_, _, expanded⟩ := Results.bind_eq_ok.1 expanded
  obtain ⟨_, _, expanded⟩ := Results.bind_eq_ok.1 expanded
  cases expanded
  exact resolving

theorem unresolved_of_expand (expanded : c.expand g = .ok e) :
    e.unresolved = c.registry.unresolved g :=
  (Registry.resolve_ok.1 (resolve_of_expand expanded)).2.2

theorem validate_ok {p : Pipeline} {name : Option String} {report : Report} :
    validate p g name = .ok report ↔ p.run g = .ok report ∧ report.ok = true := by
  unfold validate
  cases p.run g with
  | error abort => simp [Except.mapError]
  | ok found =>
    change (if found.ok then pure found else throw _ : Except CompileError Report) = .ok report ↔ _
    by_cases clean : found.ok = true
    · simp only [clean, if_true, Results.pure_eq, Except.ok.injEq]
      constructor
      · rintro rfl
        exact ⟨rfl, clean⟩
      · exact fun both => both.1
    · simp only [clean, Bool.false_eq_true, if_false, Results.throw_eq, Except.ok.injEq]
      constructor
      · intro refused
        cases refused
      · rintro ⟨rfl, passed⟩
        exact absurd passed clean

/-- A graph is compiled when nothing is unresolved, its expansion passes and can be written. -/
theorem compile_iff (expanded : c.expand g = .ok e) : c.compile g = .ok flow ↔
    e.unresolved = [] ∧ ∃ report d, c.pipeline.run e.graph = .ok report ∧ report.ok = true ∧
      document c.settings e.graph = .ok d ∧ flow = ⟨g.name, d, report.warnings⟩ := by
  have begun : c.compile g = if e.unresolved.isEmpty then (do
      let report ← validate c.pipeline e.graph (some g.name)
      let d ← document c.settings e.graph
      pure { name := g.name, document := d, warnings := report.warnings })
      else throw (.unresolved (some g.name) e.unresolved
        (errorFindings c.pipeline e.graph)) := by
    rw [compile, expanded]
    rfl
  rw [begun]
  by_cases all : e.unresolved = []
  · rw [if_pos (List.isEmpty_iff.2 all), Results.bind_eq_ok]
    constructor
    · rintro ⟨report, valid, done⟩
      obtain ⟨d, written, done⟩ := Results.bind_eq_ok.1 done
      cases done
      obtain ⟨ran, passed⟩ := validate_ok.1 valid
      exact ⟨all, report, d, ran, passed, written, rfl⟩
    · rintro ⟨_, report, d, ran, passed, written, rfl⟩
      exact ⟨report, validate_ok.2 ⟨ran, passed⟩, Results.bind_eq_ok.2 ⟨d, written, rfl⟩⟩
  · rw [if_neg fun empty => all (List.isEmpty_iff.1 empty)]
    constructor
    · intro refused
      cases refused
    · exact fun both => absurd both.1 all

theorem document_ok {s : Settings} : (∃ d, document s g = .ok d) ↔
    (s.includeFingerprint = true →
      Document.Canonical (Document.ofGraph g (.text s.flowVersion) [])) := by
  unfold document Document.Canonical Document.withFingerprint Document.fingerprint?
  simp only
  cases s.includeFingerprint with
  | false => simp
  | true =>
    generalize Json.canonical? _ = text
    cases text with
    | error fault => simp [Except.map, Except.mapError]
    | ok text => simp [Except.map, Except.mapError]

theorem document_eq {s : Settings} {d : Value} (written : document s g = .ok d) :
    ∃ version more, d = Document.ofGraph g version more := by
  unfold document at written
  simp only at written
  split at written
  · obtain ⟨fingerprint, _, rfl⟩ := Results.map_eq_ok.1 (Results.ok_of_mapError written)
    exact ⟨_, _, rfl⟩
  · cases written
    exact ⟨_, _, rfl⟩

theorem distinct_expand (distinct : g.keys.Nodup) (expanded : c.expand g = .ok e) :
    e.graph.keys.Nodup := by
  obtain ⟨staged, stages⟩ := stages_of_expand expanded
  have resolved : (c.registry.resolvedGraph g).keys.Nodup := by
    rw [(c.registry.changed_resolvedGraph g).keys]
    exact distinct
  rw [stages.expanded_eq, stages.staged_eq]
  exact Graph.nodup_expandRetries (Graph.nodup_expandInputs resolved)

theorem lists_ofGraph (distinct : g.keys.Nodup) (wf : g.WellFormed) (version : Value)
    (more : Table) : Document.Lists (Document.ofGraph g version more) g.toList := by
  have named : g.keys = g.toList.map (·.id) := by
    simp only [Graph.keys, Ordered.keys, Graph.toList, List.map_map]
    exact List.map_congr_left fun e member => wf.named e member
  have listed : Document.actions (Document.ofGraph g version more) =
      g.toList.map Node.document := rfl
  refine ⟨listed, ?_, named ▸ distinct, ?_⟩
  · rw [listed, List.map_map]
    exact List.map_congr_left fun n _ => Node.field_identifier n
  · obtain ⟨first, key, starts⟩ := wf.entry
    rw [named, List.mem_map] at key
    obtain ⟨n, member, rfl⟩ := key
    refine ⟨n, member, ?_⟩
    have field : Trace.field (Document.ofGraph g version more) "StartAction" =
        .ok (.orNull g.entry) := rfl
    rw [field, starts]
    rfl

/-- Checks that are enabled, and that the settings set no severity for, have nothing to report on what
is compiled. -/
theorem checked_of_compile {registry : Registry} {settings : Settings}
    (made : ofSettings registry settings = .ok c) (compiled : c.compile g = .ok flow) :
    ∃ staged expanded version more, Stages c g staged expanded ∧
      flow.document = Document.ofGraph expanded version more ∧
      ∀ v ∈ Validator.builtin, v.id ∉ settings.disabledValidators →
        settings.severityFor v.id = none → v.check expanded = [] := by
  obtain ⟨pipeline, piped, rfl⟩ := Results.map_eq_ok.1 made
  obtain ⟨e, expanding⟩ : ∃ e, Compiler.expand { registry, settings, pipeline } g = .ok e := by
    unfold compile at compiled
    obtain ⟨e, expanding, _⟩ := Results.bind_eq_ok.1 compiled
    exact ⟨e, Results.ok_of_mapError expanding⟩
  obtain ⟨_, report, d, ran, clean, written, rfl⟩ := (compile_iff expanding).1 compiled
  obtain ⟨staged, stages⟩ := stages_of_expand expanding
  obtain ⟨version, more, rfl⟩ := document_eq written
  refine ⟨staged, e.graph, version, more, stages, rfl, fun v listed enabled own => ?_⟩
  -- the settings leave the validator at its own severity
  have placed : v ∈ (Pipeline.configured settings).validators := by
    refine List.mem_map.2 ⟨v, listed, ?_⟩
    rw [own]
    rfl
  exact Pipeline.accepts_iff.1 ⟨report, ran, clean⟩ v
    ((Pipeline.mem_enabled piped).2 ⟨placed, enabled⟩) (Validator.severe listed)

/-- With validation as it is by default, a graph is compiled exactly when its references are
registered, its expansion is well-formed and, where the settings ask for a fingerprint, its document
has a canonical text. What it is compiled to lists the nodes of the expansion. -/
theorem compiles_iff_wellFormed {registry : Registry} {settings : Settings}
    (made : ofSettings registry settings = .ok c) (strict : settings.Strict)
    (distinct : g.keys.Nodup) (expanded : c.expand g = .ok e) :
    ((∃ flow, c.compile g = .ok flow) ↔
      registry.Covers g ∧ e.graph.WellFormed ∧ (settings.includeFingerprint = true →
        Document.Canonical (Document.ofGraph e.graph (.text settings.flowVersion) []))) ∧
    ∀ flow, c.compile g = .ok flow → Document.Lists flow.document e.graph.toList := by
  obtain ⟨pipeline, piped, rfl⟩ := Results.map_eq_ok.1 made
  have apart : e.graph.keys.Nodup := distinct_expand distinct expanded
  have resolved : e.unresolved = [] ↔ registry.Covers g := by
    rw [unresolved_of_expand expanded, Registry.unresolved_eq_nil]
  have passes : pipeline.Accepts e.graph ↔ e.graph.WellFormed :=
    (Pipeline.accepts_strict strict piped).trans (Graph.wellFormed_iff apart).symm
  constructor
  · rw [← resolved, ← passes, ← document_ok]
    constructor
    · rintro ⟨flow, compiled⟩
      obtain ⟨all, report, d, ran, clean, written, _⟩ := (compile_iff expanded).1 compiled
      exact ⟨all, ⟨report, ran, clean⟩, d, written⟩
    · rintro ⟨all, ⟨report, ran, clean⟩, d, written⟩
      exact ⟨_, (compile_iff expanded).2 ⟨all, report, d, ran, clean, written, rfl⟩⟩
  · intro flow compiled
    obtain ⟨_, report, d, ran, clean, written, rfl⟩ := (compile_iff expanded).1 compiled
    obtain ⟨version, more, rfl⟩ := document_eq written
    exact lists_ofGraph apart (passes.1 ⟨report, ran, clean⟩) version more

end Compiler

/-- Two actions, one of which sets an attribute to a table with a number and a text for keys. -/
def Graph.tagged : Graph :=
  .ofNodes "Tags" (some "tags")
    [("tags",
      { id := "tags", kind := .setAttributes
        parameters := [(.text "Attributes", .record
          [("tags", .table [(.int 1, .text "first"), (.text "b", .text "second")])])]
        transitions := { next := some "end" } }),
      ("end", { id := "end", kind := .disconnect })]

theorem Compiler.compiles_iff_wellFormed_tagged :
    ∃ c e, Compiler.ofSettings {} {} = .ok c ∧ c.expand Graph.tagged = .ok e ∧
      ((∃ flow, c.compile Graph.tagged = .ok flow) ↔
        ({} : Registry).Covers Graph.tagged ∧ e.graph.WellFormed ∧
          (({} : Settings).includeFingerprint = true →
            Document.Canonical (Document.ofGraph e.graph (.text "2019-10-30") []))) ∧
      (∃ flow, c.compile Graph.tagged = .ok flow) := by
  refine ⟨_, _, rfl, rfl, ?_, _, rfl⟩
  have made : Compiler.ofSettings {} {} = .ok _ := rfl
  exact (Compiler.compiles_iff_wellFormed made ⟨rfl, rfl, rfl⟩ (by decide) rfl).1

/-- The keys of the table have no order among themselves, so the document has no fingerprint, and a
graph in which nothing is amiss is refused. -/
theorem Compiler.refused_for_its_fingerprint :
    ∃ c e, Compiler.ofSettings {} { includeFingerprint := true } = .ok c ∧
      Graph.tagged.keys.Nodup ∧ c.expand Graph.tagged = .ok e ∧
      ({} : Registry).Covers Graph.tagged ∧ e.graph.WellFormed ∧
      ∀ flow, c.compile Graph.tagged ≠ .ok flow := by
  refine ⟨_, _, rfl, by decide, rfl, Registry.unresolved_eq_nil.1 rfl, ?_, ?_⟩
  · refine (Graph.wellFormed_iff (by decide)).2 ?_
    simp only [Validator.builtin, List.forall_mem_cons]
    refine ⟨rfl, rfl, rfl, rfl, rfl, rfl, rfl, rfl, fun _ none => ?_⟩
    cases none
  · intro flow compiled
    obtain ⟨_, _, d, _, _, written, _⟩ := (Compiler.compile_iff rfl).1 compiled
    obtain ⟨text, canonical⟩ := Compiler.document_ok.1 ⟨d, written⟩ rfl
    refine Json.not_canonical
      (?_ : (Value.table [(.int 1, .text "first"), (.text "b", .text "second")]).Within _)
      (s := "b") (k := .int 1) (by decide) (by decide) rfl text canonical
    refine .entry (k := .text "Actions") ?_ (.tail _ (.tail _ (.head _)))
    refine .item ?_ (.head _)
    refine .entry (k := .text "Parameters") ?_ (.tail _ (.tail _ (.head _)))
    refine .entry (k := .text "Attributes") ?_ (.head _)
    exact .entry (k := .text "tags") .here (.head _)

end ContactFlow
