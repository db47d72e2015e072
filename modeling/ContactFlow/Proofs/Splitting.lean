import ContactFlow.Proofs.Expanding
import ContactFlow.Proofs.Filing
import ContactFlow.Proofs.Staging
import ContactFlow.Proofs.TwoStages

/-!
What the expansion of inputs leaves in a graph, exactly: the nodes that there were, each in its place,
and a second stage for each input that is split. It comes through when every match on input is one
that a stage of its node can meet, and every amount can be written.
-/

namespace ContactFlow

namespace InputSpec

/-- Every amount of an input can be written. -/
def Writable (s : InputSpec) : Prop :=
  (Numeral.isWritable s.primary.timeoutSeconds ∧ Numeral.isWritable s.primary.maxDigits ∧
    Numeral.isWritable s.primary.maxRetries) ∧
  ∀ f ∈ s.fallback, Numeral.isWritable f.timeoutSeconds ∧ Numeral.isWritable f.maxDigits ∧
    Numeral.isWritable f.maxRetries

instance (s : InputSpec) : Decidable s.Writable := inferInstanceAs (Decidable (_ ∧ _))

/-- Every amount that stands in a document for one of the stages can be written. -/
def Legible (s : InputSpec) : Prop :=
  (Numeral.isWritable s.primary.timeoutSeconds ∧
    (s.primary.mode = .keypad → Numeral.isWritable s.primary.maxDigits)) ∧
  (s.enableFallback = true → ∀ f ∈ s.fallback,
    Numeral.isWritable f.timeoutSeconds ∧ Numeral.isWritable f.maxDigits)

instance (s : InputSpec) : Decidable s.Legible := inferInstanceAs (Decidable (_ ∧ _))

theorem Writable.legible {s : InputSpec} (writable : s.Writable) : s.Legible := by
  obtain ⟨⟨timeout, digits, _⟩, second⟩ := writable
  exact ⟨⟨timeout, fun _ => digits⟩, fun _ f given => ⟨(second f given).1, (second f given).2.1⟩⟩

end InputSpec

namespace Node

def Writable (n : Node) : Prop :=
  (∀ s ∈ n.spec, s.Writable) ∧ ∀ r ∈ n.retry, Numeral.isWritable r.maxAttempts

instance (n : Node) : Decidable n.Writable := inferInstanceAs (Decidable (_ ∧ _))

/-- The amounts of the stages, if the node has a specification. -/
def Legible (n : Node) : Prop := ∀ s ∈ n.spec, s.Legible

instance (n : Node) : Decidable n.Legible := inferInstanceAs (Decidable (∀ s ∈ _, _))

/-- What the expansion of inputs asks of a node: its stages can meet the matches on input that are
theirs. -/
structure Ready (n : Node) : Prop where
  proper : n.Proper
  clear : n.Clear

end Node

namespace Guard

variable {g : Guard} {mode : InputMode} {modes : List InputMode}

/-- A match on input has a key for one of the stages. -/
theorem Fits.keyed (fits : g.Fits modes) : ∃ mode ∈ modes, (g.key? mode).isSome := by
  cases g with
  | compare => cases fits
  | input digits intent =>
    obtain ⟨named, keypad, speech⟩ := fits
    rcases named with given | given
    · exact ⟨.keypad, keypad given, given⟩
    · exact ⟨.speech, speech given, given⟩

end Guard

theorem ConditionEdge.lowered?_isSome {mode : InputMode} {e : ConditionEdge} (input : e.guard.isInput)
    (keyed : (e.guard.key? mode).isSome) : (e.lowered? mode).isSome := by
  rw [ConditionEdge.lowered?_input input, Option.isSome_map]
  exact keyed

theorem ConditionEdge.target_lowered {mode : InputMode} {e e' : ConditionEdge}
    (lowered : e.lowered? mode = some e') : e'.target = e.target := by
  obtain ⟨guard, target⟩ := e
  cases guard with
  | compare => cases lowered; rfl
  | input digits intent =>
    obtain ⟨key, _, rfl⟩ := Option.map_eq_some_iff.1 lowered
    rfl

theorem ConditionEdge.guard_lowered {mode : InputMode} {e e' : ConditionEdge}
    (lowered : e.lowered? mode = some e') : e'.guard.isInput = false := by
  obtain ⟨guard, target⟩ := e
  cases guard with
  | compare => cases lowered; rfl
  | input digits intent =>
    obtain ⟨key, _, rfl⟩ := Option.map_eq_some_iff.1 lowered
    rfl

/-- A stage that is the only one comes through when it can meet every match. -/
theorem lowerConditions_all {mode : InputMode} {es : List ConditionEdge}
    (all : ∀ e ∈ es, (e.lowered? mode).isSome) :
    lowerConditions mode true es = .ok (es.filterMap (·.lowered? mode)) := by
  obtain ⟨lowered, done⟩ : ∃ lowered, lowerConditions mode true es = .ok lowered := by
    induction es with
    | nil => exact ⟨[], rfl⟩
    | cons e rest ih =>
      obtain ⟨lowered, done⟩ := ih fun e later => all e (List.mem_cons_of_mem _ later)
      have here := all e List.mem_cons_self
      obtain ⟨guard, target⟩ := e
      cases guard with
      | compare => exact ⟨_, by rw [lowerConditions, done]; rfl⟩
      | input digits intent =>
        obtain ⟨key, keyed⟩ : ∃ key, Guard.keyFor digits intent mode = some key := by
          rw [← Option.isSome_iff_exists]
          simpa [ConditionEdge.lowered?] using here
        exact ⟨_, by simp only [lowerConditions, keyed, done]; rfl⟩
  rw [done, (lowerConditions_ok done).1]

namespace Staging

variable {s : Staging} {n n' m : Node} {ms : List Node}

/-- An input with one stage that has a specification. -/
def singleStage (n : Node) (spec : InputSpec) (parameters : Table) : Node :=
  { withConditions n (n.transitions.conditions.filterMap (·.lowered? spec.primary.mode)) with
    parameters
    mode := some spec.primary.mode
    retry := if 1 < spec.primary.maxRetries then
      some { maxAttempts := spec.primary.maxRetries } else n.retry
    spec := none }

/-- What becomes of a node. -/
inductive Becomes (n : Node) : Node → List Node → Prop
  | other (kind : n.kind ≠ .collectInput) : Becomes n n []
  | plain (input : n.kind = .collectInput) (spec : n.spec = none)
    (all : ∀ e ∈ n.transitions.conditions, (e.lowered? (n.mode.getD .keypad)).isSome) :
    Becomes n (withConditions n
      (n.transitions.conditions.filterMap (·.lowered? (n.mode.getD .keypad)))) []
  | single {spec : InputSpec} (input : n.kind = .collectInput) (specified : n.spec = some spec)
    (alone : spec.enableFallback = true → spec.fallback = none)
    (all : ∀ e ∈ n.transitions.conditions, (e.lowered? spec.primary.mode).isSome)
    (parameters : Table) : Becomes n (singleStage n spec parameters) []
  | split {spec : InputSpec} {f : FallbackInput} (input : n.kind = .collectInput)
    (specified : n.spec = some spec) (enabled : spec.enableFallback = true)
    (fallback : spec.fallback = some f) (parameters : Table) {added : Node}
    (kind : added.kind = .collectInput) (bare : added.spec = none) :
    Becomes n (firstStage n spec parameters added.id) [secondStage n f added]

theorem stays (tidy : s.graph.Tidy) (member : n ∈ s.graph.toList) (id : n'.id = n.id)
    (serial : n'.serial = n.serial) :
    Graph.Replaces n n' [] s.graph (s.graph.modifyNode n.serial fun _ => n') :=
  (Graph.GrownBy.refl tidy).replaces tidy member n' id serial

theorem becomes_split (tidy : s.graph.Tidy) (member : n ∈ s.graph.toList) {spec : InputSpec}
    {f : FallbackInput} (input : n.kind = .collectInput) (specified : n.spec = some spec)
    (enabled : spec.enableFallback = true) (fallback : spec.fallback = some f)
    (first second : Table) :
    ∃ n' ms, Becomes n n' ms ∧
      Graph.Replaces n n' ms s.graph (s.split n spec f first second).graph := by
  let a := s.graph.allocateNode .collectInput (n.id ++ "_" ++ f.mode.wire) second
  have grown : s.graph.Grown a.1 a.2 := Graph.grown_allocateNode tidy ..
  have written := grown.modifyNode tidy (fun _ => secondStage n f a.1) ⟨rfl, rfl⟩
  exact ⟨firstStage n spec first a.1.id, [secondStage n f a.1],
    .split input specified enabled fallback first rfl rfl,
    (Graph.GrownBy.of_grown tidy written).replaces tidy member _ rfl rfl⟩

theorem Turn.becomes {s' : Staging} (turn : Turn s n s') (tidy : s.graph.Tidy)
    (member : n ∈ s.graph.toList) (fine : s.Fine) (done : s'.Fine) :
    ∃ n' ms, Becomes n n' ms ∧ Graph.Replaces n n' ms s.graph s'.graph := by
  cases turn with
  | idle passed =>
    have other : n.kind ≠ .collectInput := passed.resolve_left (by simp [show s.failure = none from fine])
    exact ⟨n, [], .other other, Graph.replaces_self tidy member⟩
  | fails => cases done
  | unmet => cases done
  | plain input spec lowered =>
    obtain ⟨rfl, all⟩ := lowerConditions_ok lowered
    exact ⟨_, [], .plain input spec (all rfl), stays tidy member rfl rfl⟩
  | @single spec parameters _ input specified alone _ lowered =>
    obtain ⟨rfl, all⟩ := lowerConditions_ok lowered
    exact ⟨singleStage n spec parameters, [], .single input specified alone (all rfl) parameters,
      stays tidy member rfl rfl⟩
  | split input specified enabled fallback =>
    exact becomes_split tidy member input specified enabled fallback ..

theorem becomes (tidy : s.graph.Tidy) (member : n ∈ s.graph.toList)
    (done : (s.expandNode n).Fine) :
    ∃ n' ms, Becomes n n' ms ∧ Graph.Replaces n n' ms s.graph (s.expandNode n).graph :=
  (turn_expandNode s n).becomes tidy member (expandNode_fine done) done

/-! ### Coming through -/

/-- There is a result just in case a condition holds, and otherwise a number is too long. -/
def Hinges {α : Type} (condition : Prop) (r : Except UsageError α) : Prop :=
  condition ∧ (∃ a, r = .ok a) ∨ ¬ condition ∧ r = .error .longNumber

namespace Hinges

variable {α β : Type} {p q : Prop} {r : Except UsageError α} {f : α → Except UsageError β}

theorem pure (a : α) : Hinges True (.ok a : Except UsageError α) := .inl ⟨trivial, a, rfl⟩

theorem bind (first : Hinges p r) (then_ : ∀ a, Hinges q (f a)) : Hinges (p ∧ q) (r >>= f) := by
  rcases first with ⟨holds, a, rfl⟩ | ⟨fails, rfl⟩
  · rcases then_ a with ⟨holds', b, done⟩ | ⟨fails, failed⟩
    · exact .inl ⟨⟨holds, holds'⟩, b, done⟩
    · exact .inr ⟨fun both => fails both.2, failed⟩
  · exact .inr ⟨fun both => fails both.1, rfl⟩

theorem congr (same : p ↔ q) (hinges : Hinges p r) : Hinges q r := by
  unfold Hinges at hinges ⊢
  rwa [← same]

theorem written (n : Int) : Hinges (Numeral.isWritable n) (Value.int n).written := by
  have scalar : (Value.int n).isWritable = Numeral.isWritable n := rfl
  unfold Value.written
  rw [scalar]
  cases Numeral.isWritable n with
  | false => exact .inr ⟨Bool.false_ne_true, rfl⟩
  | true => exact .inl ⟨rfl, _, rfl⟩

theorem base (prompt : String) (timeout : Int) :
    Hinges (Numeral.isWritable timeout) (Stage.base prompt timeout) :=
  ((written timeout).bind fun _ => .pure _).congr (Iff.of_eq (and_true _))

theorem entryLength (digits : Int) :
    Hinges (Numeral.isWritable digits) (Stage.entryLength digits) :=
  ((written digits).bind fun _ => .pure _).congr (Iff.of_eq (and_true _))

theorem fallback (f : FallbackInput) :
    Hinges (Numeral.isWritable f.timeoutSeconds ∧ Numeral.isWritable f.maxDigits)
      (Stage.fallback f) :=
  (base f.prompt f.timeoutSeconds).bind fun _ =>
    ((entryLength f.maxDigits).bind fun _ => .pure _).congr (Iff.of_eq (and_true _))

theorem primary (p : PrimaryInput) :
    Hinges (Numeral.isWritable p.timeoutSeconds ∧
      (p.mode = .keypad → Numeral.isWritable p.maxDigits)) (Stage.primary p) := by
  refine (base p.prompt p.timeoutSeconds).bind fun _ => ?_
  cases p.mode with
  | keypad =>
    refine ((entryLength p.maxDigits).bind fun _ => .pure _).congr ?_
    simp
  | speech => exact (pure _).congr (by simp)

end Hinges

/-- The only stage of an input can meet every match. -/
theorem lowered_only (ready : n.Ready) (input : n.kind = .collectInput) {mode : InputMode}
    (modes : n.modes = [mode]) : ∀ e ∈ n.transitions.conditions, (e.lowered? mode).isSome := by
  intro e among
  have guard : e.guard ∈ n.transitions.guards := List.mem_map_of_mem among
  obtain ⟨mode', member, keyed⟩ := ((ready.clear.admitted _ guard).1 input).keyed
  rw [modes, List.mem_singleton] at member
  exact ConditionEdge.lowered?_isSome (ready.proper.inputs input _ guard) (member ▸ keyed)

theorem modes_plain (ready : n.Ready) (input : n.kind = .collectInput) (spec : n.spec = none) :
    n.modes = [n.mode.getD .keypad] := by
  obtain ⟨mode, staged⟩ := Option.isSome_iff_exists.1 (ready.proper.staged input)
  simp [Node.modes, spec, staged]

theorem modes_single {spec : InputSpec} (specified : n.spec = some spec)
    (alone : spec.enableFallback = true → spec.fallback = none) : n.modes = [spec.primary.mode] := by
  cases enabled : spec.enableFallback with
  | false => simp [Node.modes, specified, enabled]
  | true => simp [Node.modes, specified, enabled, alone enabled]

theorem hinges_expandSpec (n : Node) (spec : InputSpec) :
    Hinges spec.Legible (s.expandSpec n spec) := by
  unfold expandSpec
  split
  · rename_i f enabled given
    refine ((Hinges.fallback f).bind fun _ => (Hinges.primary _).bind fun _ => .pure _).congr ?_
    rw [InputSpec.Legible, enabled, given]
    simp [and_comm]
  · rename_i alone
    refine ((Hinges.primary _).bind fun _ => .pure _).congr ?_
    have nothing : spec.enableFallback = true → ∀ f ∈ spec.fallback,
        Numeral.isWritable f.timeoutSeconds ∧ Numeral.isWritable f.maxDigits := by
      intro enabled f given
      rw [alone_of_not_split alone enabled] at given
      cases given
    rw [and_true, InputSpec.Legible, and_iff_left nothing]

theorem fine_expandSpec (fine : s.Fine) (ready : n.Ready) (input : n.kind = .collectInput)
    {spec : InputSpec} (specified : n.spec = some spec) {s' : Staging}
    (expanded : s.expandSpec n spec = .ok s') : s'.Fine := by
  unfold expandSpec at expanded
  split at expanded
  · obtain ⟨second, _, expanded⟩ := Results.bind_eq_ok.1 expanded
    obtain ⟨first, _, expanded⟩ := Results.bind_eq_ok.1 expanded
    cases expanded
    exact fine
  · rename_i alone
    obtain ⟨first, _, expanded⟩ := Results.bind_eq_ok.1 expanded
    cases expanded
    have all := lowered_only ready input (modes_single specified (alone_of_not_split alone))
    simp only [single, lowerConditions_all all]
    exact fine

/-- A node that is ready is expanded, unless an amount of its stages is too long. -/
theorem expandNode_ready (fine : s.Fine) (ready : n.Ready) :
    n.Legible ∧ (s.expandNode n).Fine ∨
      ¬ n.Legible ∧ (s.expandNode n).failure = some .longNumber := by
  have none : s.failure = none := fine
  by_cases input : n.kind = .collectInput
  · unfold expandNode
    rw [if_neg (by simp [none, input])]
    cases specified : n.spec with
    | none =>
      have all := lowered_only ready input (modes_plain ready input specified)
      refine .inl ⟨by simp [Node.Legible, specified], ?_⟩
      simp only [plain, lowerConditions_all all]
      exact fine
    | some spec =>
      have same : n.Legible ↔ spec.Legible := by simp [Node.Legible, specified]
      rw [same]
      rcases s.hinges_expandSpec n spec with ⟨legible, s', expanded⟩ | ⟨long, failed⟩
      · refine .inl ⟨legible, ?_⟩
        simp only [expanded]
        exact fine_expandSpec fine ready input specified expanded
      · exact .inr ⟨long, by simp only [failed]⟩
  · refine .inl ⟨fun spec given => absurd (ready.proper.specified spec given).1 input, ?_⟩
    unfold expandNode
    rw [if_pos (by simp [input])]
    exact fine

theorem expandNode_failed {e : UsageError} (failed : s.failure = some e) (n : Node) :
    s.expandNode n = s := by
  unfold expandNode
  rw [if_pos (by simp [failed])]

theorem foldl_failed {e : UsageError} (failed : s.failure = some e) (l : List Node) :
    l.foldl expandNode s = s := by
  induction l with
  | nil => rfl
  | cons n rest ih => rw [List.foldl_cons, expandNode_failed failed, ih]

theorem foldl_ready {l : List Node} (fine : s.Fine) (ready : ∀ n ∈ l, n.Ready) :
    (∀ n ∈ l, n.Legible) ∧ (l.foldl expandNode s).Fine ∨
      ¬ (∀ n ∈ l, n.Legible) ∧ (l.foldl expandNode s).failure = some .longNumber := by
  induction l generalizing s with
  | nil => exact .inl ⟨fun _ member => absurd member List.not_mem_nil, fine⟩
  | cons n rest ih =>
    rw [List.forall_mem_cons] at ready ⊢
    rcases expandNode_ready fine ready.1 with ⟨legible, further⟩ | ⟨long, failed⟩
    · simpa [legible] using ih further ready.2
    · refine .inr ⟨fun all => long all.1, ?_⟩
      rw [List.foldl_cons, foldl_failed failed, failed]

/-- The attempts that an expanded input has can be written, if all of its amounts can. -/
theorem Becomes.writable (becomes : Becomes n n' ms) (writable : n.Writable) {m : Node}
    (among : m ∈ n' :: ms) {r : RetrySpec} (retry : m.retry = some r) :
    Numeral.isWritable r.maxAttempts := by
  obtain ⟨specs, attempts⟩ := writable
  cases becomes with
  | other | plain =>
    rw [List.mem_singleton.1 among] at retry
    exact attempts r retry
  | @single spec _ specified =>
    rw [List.mem_singleton.1 among] at retry
    simp only [singleStage] at retry
    split at retry
    · cases retry
      exact (specs spec specified).1.2.2
    · exact attempts r retry
  | @split spec f _ specified _ fallback =>
    rcases List.mem_cons.1 among with rfl | second
    · simp only [firstStage] at retry
      split at retry
      · cases retry
        exact (specs spec specified).1.2.2
      · cases retry
    · rw [List.mem_singleton.1 second] at retry
      simp only [secondStage] at retry
      split at retry
      · cases retry
        exact ((specs spec specified).2 f fallback).2.2
      · cases retry

end Staging

namespace ExpandInputs

variable {g : Graph}

/-- Every node of the graph has an outcome. -/
theorem unfolds (tidy : g.Tidy) (done : (expandInputs g).failure = none) :
    ∃ xs, Graph.Unfolds Staging.Becomes xs g (expandInputs g).graph :=
  Graph.unfolds Staging.graph { graph := g } (fun _ _ => Staging.expandNode_fine)
    (fun _ _ => Staging.becomes) tidy done

/-- Amounts that are too long to be written are all that the expansion can fail for. -/
theorem failure_iff (ready : ∀ n ∈ g.toList, n.Ready) :
    (∀ n ∈ g.toList, n.Legible) ∧ (expandInputs g).failure = none ∨
      ¬ (∀ n ∈ g.toList, n.Legible) ∧ (expandInputs g).failure = some .longNumber :=
  Staging.foldl_ready (s := { graph := g }) rfl ready

theorem completes (ready : ∀ n ∈ g.toList, n.Ready) (writable : ∀ n ∈ g.toList, n.Writable) :
    (expandInputs g).failure = none := by
  have legible : ∀ n ∈ g.toList, n.Legible := fun n member spec given =>
    ((writable n member).1 spec given).legible
  rcases failure_iff ready with ⟨_, done⟩ | ⟨long, _⟩
  · exact done
  · exact absurd legible long

end ExpandInputs

end ContactFlow
