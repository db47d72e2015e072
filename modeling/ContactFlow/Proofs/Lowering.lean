import Mathlib.Algebra.Group.Int.Defs
import ContactFlow.Proofs.Conservative

/-!
Matches on input and the stages they end up in. A set of branches takes a match only if the stages
that its node is going to have can meet it, and those are the stages that the expansion gives it.
-/

namespace ContactFlow

namespace ConditionEdge

/-- A match on input as a stage has it that takes its key. -/
def onStage (mode : InputMode) (e : ConditionEdge) : Option ConditionEdge :=
  (e.guard.key? mode).map fun key => ⟨.compare "Equals" [key], e.target⟩

/-- The match is among the conditions of a stage. -/
def LandsOn (e : ConditionEdge) (m : Node) : Prop :=
  ∃ mode e', m.mode = some mode ∧ e.onStage mode = some e' ∧ e' ∈ m.transitions.conditions

end ConditionEdge

namespace Node

/-- The stages in which a node takes input: itself, and perhaps a second one. Each has the matches
that its mode has a key for, in the order in which they were registered. -/
structure Staged (n : Node) (stages : List Node) : Prop where
  first : stages.head?.map (·.id) = some n.id
  inputs : ∀ m ∈ stages, m.kind = .collectInput ∧ m.spec = none
  modes : stages.map (·.mode) = n.modes.map some
  conditions : ∀ m ∈ stages, ∀ mode, m.mode = some mode →
    m.transitions.conditions = n.transitions.conditions.filterMap (·.onStage mode)

variable {n m n' : Node} {stages ms : List Node} {e : ConditionEdge} {mode : InputMode}

namespace Staged

theorem of_mode (staged : n.Staged stages) (there : mode ∈ n.modes) :
    ∃ m ∈ stages, m.mode = some mode := by
  have inside : some mode ∈ stages.map (·.mode) := by
    rw [staged.modes]
    exact List.mem_map_of_mem there
  exact List.mem_map.1 inside

theorem mode_of (staged : n.Staged stages) (member : m ∈ stages) :
    ∃ mode ∈ n.modes, m.mode = some mode := by
  have inside : m.mode ∈ n.modes.map some := by
    rw [← staged.modes]
    exact List.mem_map_of_mem member
  obtain ⟨mode, there, same⟩ := List.mem_map.1 inside
  exact ⟨mode, there, same.symm⟩

theorem length (staged : n.Staged stages) : stages.length = n.modes.length := by
  rw [← List.length_map (·.mode), staged.modes, List.length_map]

/-- A match lands on the stages that it has a key for. -/
theorem landsOn_iff (staged : n.Staged stages) (among : e ∈ n.transitions.conditions)
    (member : m ∈ stages) (here : m.mode = some mode) :
    e.LandsOn m ↔ (e.guard.key? mode).isSome := by
  constructor
  · rintro ⟨mode', e', here', lowered, _⟩
    rw [here] at here'
    cases here'
    obtain ⟨key, keyed, _⟩ := Option.map_eq_some_iff.1 lowered
    rw [keyed]
    rfl
  · intro keyed
    obtain ⟨key, keyed⟩ := Option.isSome_iff_exists.1 keyed
    have lowered : e.onStage mode = some ⟨.compare "Equals" [key], e.target⟩ := by
      rw [ConditionEdge.onStage, keyed]
      rfl
    refine ⟨mode, _, here, lowered, ?_⟩
    rw [staged.conditions m member mode here]
    exact List.mem_filterMap.2 ⟨e, among, lowered⟩

end Staged

theorem modes_of_input (ready : n.Ready) (input : n.kind = .collectInput) :
    (∃ mode, n.modes = [mode]) ∨ n.modes = [.speech, .keypad] := by
  cases specified : n.spec with
  | none => exact .inl ⟨_, Staging.modes_plain ready input specified⟩
  | some spec =>
    have valid : spec.check = .ok () := ready.clear.valid spec specified
    cases enabled : spec.enableFallback with
    | false => exact .inl ⟨_, Staging.modes_single specified (by simp [enabled])⟩
    | true =>
      cases fallback : spec.fallback with
      | none => exact .inl ⟨_, Staging.modes_single specified fun _ => fallback⟩
      | some f =>
        right
        simp only [InputSpec.check, enabled, fallback, if_true] at valid
        cases mode : spec.primary.mode with
        | keypad =>
          rw [if_pos (by rw [mode]; rfl)] at valid
          cases valid
        | speech => simp [modes, specified, enabled, fallback, mode, FallbackInput.mode]

/-- No match of an input is lost, and those with both keys are met by both of its stages. -/
theorem Staged.landed (staged : n.Staged stages) (ready : n.Ready) (input : n.kind = .collectInput)
    (among : e ∈ n.transitions.conditions) :
    ∃ digits intent, e.guard = .input digits intent ∧ (∃ m ∈ stages, e.LandsOn m) ∧
      (digits.isSome ∧ intent.isSome ↔ stages.length = 2 ∧ ∀ m ∈ stages, e.LandsOn m) := by
  have fits := (ready.clear.admitted _ (List.mem_map_of_mem among)).1 input
  obtain ⟨mode, there, keyed⟩ := fits.keyed
  obtain ⟨m, member, here⟩ := staged.of_mode there
  have lands := (staged.landsOn_iff among member here).2 keyed
  cases shape : e.guard with
  | compare =>
    rw [shape] at fits
    cases fits
  | input digits intent =>
    rw [shape] at fits
    obtain ⟨_, keypad, speech⟩ := fits
    have dialled : (e.guard.key? .keypad).isSome = digits.isSome := by rw [shape]; rfl
    have spoken : (e.guard.key? .speech).isSome = intent.isSome := by rw [shape]; rfl
    refine ⟨digits, intent, rfl, ⟨m, member, lands⟩, ?_⟩
    rw [staged.length]
    rcases modes_of_input ready input with ⟨only, modes⟩ | modes
    · -- one stage meets one of the keys only
      rw [modes] at keypad speech
      have one : ¬ (digits.isSome ∧ intent.isSome) := by
        rintro ⟨dialled, spoken⟩
        have same := (List.mem_singleton.1 (keypad dialled)).trans
          (List.mem_singleton.1 (speech spoken)).symm
        cases same
      simp [modes, one]
    · have on_both : (∀ m ∈ stages, e.LandsOn m) ↔
          (e.guard.key? .keypad).isSome ∧ (e.guard.key? .speech).isSome := by
        constructor
        · intro all
          have met {mode : InputMode} (there : mode ∈ n.modes) : (e.guard.key? mode).isSome := by
            obtain ⟨m, member, here⟩ := staged.of_mode there
            exact (staged.landsOn_iff among member here).1 (all m member)
          exact ⟨met (by simp [modes]), met (by simp [modes])⟩
        · rintro ⟨dialled, spoken⟩ m member
          obtain ⟨mode, _, here⟩ := staged.mode_of member
          refine (staged.landsOn_iff among member here).2 ?_
          cases mode with
          | keypad => exact dialled
          | speech => exact spoken
      rw [on_both, dialled, spoken, modes]
      simp

/-- The conditions of an input, lowered for a stage. -/
theorem lowered_inputs (ready : n.Ready) (input : n.kind = .collectInput) (mode : InputMode) :
    n.transitions.conditions.filterMap (·.lowered? mode) =
      n.transitions.conditions.filterMap (·.onStage mode) :=
  List.filterMap_congr fun _ among =>
    ConditionEdge.lowered?_input (ready.proper.inputs input _ (List.mem_map_of_mem among))

/-- The expansion of an input gives it the stages it is to have. -/
theorem staged_of_becomes (becomes : Staging.Becomes n n' ms) (ready : n.Ready)
    (input : n.kind = .collectInput) : n.Staged (n' :: ms) := by
  have lowered := lowered_inputs ready input
  cases becomes with
  | other kind => exact absurd input kind
  | plain _ spec all =>
    obtain ⟨mode, staged⟩ := Option.isSome_iff_exists.1 (ready.proper.staged input)
    have same : n.mode.getD .keypad = mode := by rw [staged, Option.getD_some]
    refine ⟨rfl, by simpa [Staging.withConditions] using ⟨input, spec⟩, ?_, ?_⟩
    · rw [Staging.modes_plain ready input spec, same, List.map_singleton, List.map_singleton]
      exact congrArg (fun m => [m]) staged
    · intro m member mode' here
      rw [List.mem_singleton.1 member] at here ⊢
      have here : some mode = some mode' := staged.symm.trans here
      cases here
      rw [← lowered, ← same]
      rfl
  | @single spec _ specified alone all parameters =>
    refine ⟨rfl, by simpa [Staging.singleStage, Staging.withConditions] using input, ?_, ?_⟩
    · rw [Staging.modes_single specified alone]
      rfl
    · intro m member mode here
      rw [List.mem_singleton.1 member] at here ⊢
      cases here
      exact lowered _
  | @split spec f _ specified enabled fallback parameters added kind bare =>
    refine ⟨rfl, ?_, ?_, ?_⟩
    · simpa [Staging.firstStage, Staging.secondStage] using ⟨input, kind, bare⟩
    · have modes : n.modes = [spec.primary.mode, f.mode] := by
        simp [Node.modes, specified, enabled, fallback]
      rw [modes]
      rfl
    · intro m member mode here
      rcases List.mem_cons.1 member with rfl | second
      · cases here
        exact (Staging.conditions_firstStage ..).trans (lowered _)
      · rw [List.mem_singleton.1 second] at here ⊢
        cases here
        exact (Staging.conditions_secondStage ..).trans (lowered _)

end Node

namespace Graph

/-- The inputs of a graph with the stages they have in another one, whose inputs are just those. -/
structure StagedIn (g g' : Graph) (stages : List (Node × List Node)) : Prop where
  sources : stages.map (·.1) = g.toList.filter (·.kind = .collectInput)
  each : ∀ x ∈ stages, x.1.Staged x.2
  inputs : (g'.toList.filter (·.kind = .collectInput)).Perm (stages.flatMap (·.2))
  landed : ∀ x ∈ stages, ∀ e ∈ x.1.transitions.conditions, ∃ digits intent,
    e.guard = .input digits intent ∧ (∃ m ∈ x.2, e.LandsOn m) ∧
    (digits.isSome ∧ intent.isSome ↔ x.2.length = 2 ∧ ∀ m ∈ x.2, e.LandsOn m)

variable {g g' : Graph} {xs : List Outcome}

/-- Nodes are added for inputs only, and they are inputs. -/
theorem added_inputs (each : ∀ x ∈ xs, Staging.Becomes x.source x.result x.added) :
    (xs.flatMap (·.added)).filter (·.kind = .collectInput) =
      (xs.filter (·.source.kind = .collectInput)).flatMap (·.added) := by
  induction xs with
  | nil => rfl
  | cons x rest ih =>
    obtain ⟨becomes, later⟩ := List.forall_mem_cons.1 each
    rw [List.flatMap_cons, List.filter_append, ih later]
    by_cases input : x.source.kind = .collectInput
    · have all : x.added.filter (·.kind = .collectInput) = x.added :=
        List.filter_eq_self.2 fun m inside => by simpa using becomes.input_of_added inside
      rw [all, List.filter_cons_of_pos (by simpa using input), List.flatMap_cons]
    · rw [(becomes.of_other input).2, List.filter_cons_of_neg (by simpa using input)]
      rfl

theorem Unfolds.stagedIn (unfolds : Unfolds Staging.Becomes xs g g')
    (ready : ∀ n ∈ g.toList, n.Ready) :
    g.StagedIn g' ((xs.filter (·.source.kind = .collectInput)).map
      fun x => (x.source, x.result :: x.added)) := by
  have outcome {x : Outcome} (among : x ∈ xs.filter (·.source.kind = .collectInput)) :
      x ∈ xs ∧ x.source.kind = .collectInput := by simpa using among
  have staged {x : Outcome} (among : x ∈ xs.filter (·.source.kind = .collectInput)) :
      x.source.Staged (x.result :: x.added) := by
    obtain ⟨inside, input⟩ := outcome among
    exact Node.staged_of_becomes (unfolds.each x inside) (ready _ (unfolds.source_mem inside)) input
  refine ⟨?_, ?_, ?_, ?_⟩
  · rw [← unfolds.sources, List.filter_map, List.map_map]
    rfl
  · exact List.forall_mem_map.2 fun x => staged
  · -- the inputs that there were and those added are the results and additions of the inputs
    have results : (xs.map (·.result)).filter (·.kind = .collectInput) =
        (xs.filter (·.source.kind = .collectInput)).map (·.result) := by
      rw [List.filter_map]
      refine congrArg _ (List.filter_congr fun x among => ?_)
      rw [Function.comp_apply, (unfolds.each x among).kind]
    rw [unfolds.nodes, List.filter_append, results, added_inputs unfolds.each, List.flatMap_map]
    exact List.map_append_flatMap_perm ..
  · refine List.forall_mem_map.2 fun x among e here => ?_
    obtain ⟨inside, input⟩ := outcome among
    exact (staged among).landed (ready _ (unfolds.source_mem inside)) input here

end Graph

namespace Workspace

variable {w : Workspace} {loops : List OpenLoop} {jumps : List String}

/-- The expansion of the inputs of a flow comes through whatever was called, unless an amount of one
of its stages is too long to be written. Every match on input then lands on the stages that it has
keys for. -/
theorem lowering_of_calls (calls : Calls w loops jumps) :
    ((ContactFlow.expandInputs w.graph).failure = none ↔ ∀ n ∈ w.graph.toList, n.Legible) ∧
      (∀ e, (ContactFlow.expandInputs w.graph).failure = some e → e = .longNumber) ∧
      ((ContactFlow.expandInputs w.graph).failure = none →
        ∃ stages, w.graph.StagedIn (ContactFlow.expandInputs w.graph).graph stages) := by
  have ready := calls.ready
  refine ⟨?_, ?_, fun done => ?_⟩
  · rcases ExpandInputs.failure_iff ready with ⟨legible, done⟩ | ⟨long, failed⟩
    · exact iff_of_true done legible
    · exact iff_of_false (by simp [failed]) long
  · intro e failed
    rcases ExpandInputs.failure_iff ready with ⟨_, done⟩ | ⟨_, long⟩
    · rw [done] at failed
      cases failed
    · rw [long] at failed
      exact (Option.some.inj failed).symm
  · obtain ⟨xs, unfolds⟩ := ExpandInputs.unfolds calls.tracked.orderly.tidy done
    exact ⟨_, unfolds.stagedIn ready⟩

/-- The keypad stage of the question takes the first key of its one match, and the speech stage takes
the second one. -/
theorem lowering_of_question :
    (∀ n ∈ Question.insistent.graph.toList, n.Legible) ∧
    ∃ stages, Question.insistent.graph.StagedIn
      (ContactFlow.expandInputs Question.insistent.graph).graph stages := by
  obtain ⟨through, _, staged⟩ := lowering_of_calls Question.calls_insistent
  have legible : ∀ n ∈ Question.insistent.graph.toList, n.Legible := by decide +kernel
  exact ⟨legible, staged (through.2 legible)⟩

end Workspace

namespace Question

/-- A specification that is accepted although one of its amounts cannot be written. -/
def endlessEntry : InputSpec := { spec with fallback := some { fallback with maxDigits := 10 ^ 4300 } }

def unwritten : Workspace :=
  (Builder.appendBranching 0 (.collectSequential endlessEntry) .null (.text "ask") opening).2

open Workspace (Calls)

/-- The expansion of a flow fails although its one call succeeded. -/
theorem expansion_fails : endlessEntry.Valid ∧ Calls unwritten [] [] ∧
    unwritten.graph.keys = ["ask"] ∧
    (expandInputs unwritten.graph).failure = some .longNumber := by
  have begun : Calls opening [] [] := .named (by decide +kernel)
  have asked := begun.appendBranching (b := 0) (by decide +kernel)
    (a := .collectSequential endlessEntry) (by decide) rfl .null (.text "ask")
  exact ⟨rfl, asked, by decide +kernel, by decide +kernel⟩

end Question

end ContactFlow
