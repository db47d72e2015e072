import ContactFlow.Proofs.Attempts

/-!
Inputs in two stages. The first stage takes speech and hands over to the second one when it has been
tried so often, or at the first trigger if running out of retries is none. The second stage takes
keypad entries and has the handlers of the input.
-/

namespace ContactFlow

open Trace (State countOf)
open ContactFlow.Graph (Tries Left)

/-- An outcome that names one of some errors, whether the input has a handler for it or not. -/
def Node.Triggers (n : Node) (mode : InputMode) (kinds : List ErrorKind) (o : String) : Prop :=
  ∃ kind ∈ kinds, n.Errs mode o kind

namespace InputSpec

/-- How often the first stage is tried before the second one takes over. -/
def tries (spec : InputSpec) : Int :=
  if spec.triggers.contains .maxRetries then spec.primary.maxRetries else 1

theorem tries_pos {spec : InputSpec} (positive : 1 ≤ spec.primary.maxRetries) : 1 ≤ spec.tries := by
  unfold tries
  split
  · exact positive
  · exact Int.le_refl 1

/-- The errors by which the first stage hands over. -/
def kinds (spec : InputSpec) : List ErrorKind := Trigger.kinds spec.triggers

theorem mode_of_valid {spec : InputSpec} {f : FallbackInput} (valid : spec.Valid)
    (enabled : spec.enableFallback = true) (given : spec.fallback = some f) :
    spec.primary.mode = .speech := by
  simp only [Valid, check, enabled, given, if_true, FallbackInput.mode] at valid
  cases mode : spec.primary.mode with
  | speech => rfl
  | keypad =>
    rw [mode] at valid
    cases valid

theorem kinds_nodup (spec : InputSpec) : spec.kinds.Nodup := by
  have normal : (Trigger.normalize spec.triggers).Nodup :=
    List.Nodup.filter _ (by decide)
  refine normal.filterMap fun t t' kind first second => ?_
  revert first second
  cases t <;> cases t' <;> simp [Trigger.errorKind?] <;> rintro rfl <;> simp

end InputSpec

namespace Staging

variable {n : Node} {spec : InputSpec} {parameters : Table} {fallback : String} {f : FallbackInput}
  {added : Node}

theorem errors_firstStage : (firstStage n spec parameters fallback).transitions.errors =
    (spec.kinds.map fun k => ⟨k, some fallback⟩) ++
      n.transitions.errors.filter fun e => !spec.kinds.contains e.kind := rfl

/-- A trigger leads to the second stage, even if the input has a handler for it. -/
theorem errorTarget_trigger {kind : ErrorKind} (trigger : kind ∈ spec.kinds) :
    (firstStage n spec parameters fallback).transitions.errorTarget kind = some fallback := by
  obtain ⟨k, found⟩ : ∃ k, spec.kinds.find? (· == kind) = some k := by
    rw [← Option.isSome_iff_exists, List.find?_isSome]
    exact ⟨kind, trigger, beq_self_eq_true kind⟩
  rw [Transitions.errorTarget, errors_firstStage, List.find?_append, List.find?_map]
  simp only [Function.comp_def, found, Option.map_some, Option.some_or, Option.bind_some]

/-- An error that is no trigger keeps its handler. -/
theorem errorTarget_other {kind : ErrorKind} (other : kind ∉ spec.kinds) :
    (firstStage n spec parameters fallback).transitions.errorTarget kind =
      n.transitions.errorTarget kind := by
  have none : spec.kinds.find? (· == kind) = none :=
    List.find?_eq_none.2 fun k among same => other (beq_iff_eq.1 same ▸ among)
  rw [Transitions.errorTarget, errors_firstStage, List.find?_append, List.find?_map,
    List.find?_filter]
  simp only [Function.comp_def, none, Option.map_none, Option.none_or, Transitions.errorTarget]
  congr 1
  refine congrArg (fun p => n.transitions.errors.find? p) (funext fun e => ?_)
  by_cases same : e.kind = kind
  · simp [same, other]
  · simp [same]

theorem kinds_firstStage (once : n.transitions.kinds.Nodup) :
    (firstStage n spec parameters fallback).transitions.kinds.Nodup := by
  rw [Transitions.kinds, errors_firstStage, List.map_append, List.map_map]
  refine List.Nodup.append ?_ (once.sublist (List.filter_sublist.map _)) ?_
  · simpa [Function.comp_def] using spec.kinds_nodup
  · intro kind trigger among
    obtain ⟨e, kept, rfl⟩ := List.mem_map.1 among
    obtain ⟨k, member, same⟩ := List.mem_map.1 trigger
    have other := (List.mem_filter.1 kept).2
    have same : k = e.kind := same
    simp [← same, member] at other

end Staging

/-- The loop that a document has for a stage of an input with so many attempts. -/
def StageLoop (document : Value) (g : Graph) (c : String) (attempts : Int) (loop : String) : Prop :=
  ∃ expanded version more r, document = Document.ofGraph expanded version more ∧
    r.maxAttempts = attempts ∧ Looping.Encloses (g.Adds expanded) c r loop []

/-- No loop among the given ones has counted anything. -/
def Fresh (s : State) (loop : Option String) : Prop := ∀ l ∈ loop, countOf s.counts (.text l) = 0

/-- The contract of an input in two stages. -/
structure StageContract (document : Value) (g : Graph) (p : Node) (spec : InputSpec)
    (f : FallbackInput) (fallback : String) (loop₁ loop₂ : Option String) : Prop where
  /-- The first stage: an intent leads to its target and an error that is no trigger to its handler,
  as long as there were fewer triggers than it has tries. -/
  first : ∀ s : State, Fresh s loop₁ →
    Attempts document (fallback :: g.keys) p.id [] spec.tries
      (fun o h => h = fallback ∧ p.Triggers .speech spec.kinds o) (p.Leaves .speech spec.kinds) s
  /-- As many triggers as the first stage has tries hand over to the second stage. -/
  falls : ∀ s : State, Fresh s loop₁ → Fresh s loop₂ → ∀ (failures : List String)
    (rest : List Value), (∀ o ∈ failures, p.Triggers .speech spec.kinds o) →
    failures.length = spec.tries → s.pending = failures.map .text ++ rest →
    ∃ path s', Document.Passes document (some p.id) s path (some fallback) s' ∧
      s'.pending = rest ∧ path.count p.id = failures.length ∧
      (∀ id ∈ path, id ∈ fallback :: g.keys → id = p.id) ∧ Fresh s' loop₁ ∧ Fresh s' loop₂
  /-- The second stage: digits lead to their target, and the last of so many failures leads to its
  own handler. -/
  second : ∀ s : State, Fresh s loop₂ →
    Attempts document (fallback :: g.keys) fallback [] f.maxRetries
      (p.Retries .keypad ErrorKind.retryable) (p.Leaves .keypad ErrorKind.retryable) s

namespace Compiler

variable {w : Workspace} {c : Compiler} {flow : Flow} {p : Node} {spec : InputSpec}
  {f : FallbackInput}

theorem left_of_fresh {loop : Option String} {limit : Int} {s : State} (fresh : Fresh s loop) :
    Left loop limit s limit := by
  cases loop with
  | none => rfl
  | some l =>
    change countOf s.counts (.text l) + limit = limit
    rw [fresh l rfl, Int.zero_add]

theorem no_prompts {P : Node → Prop} {id loop : String} {r : RetrySpec} {prompts : List String}
    (encloses : Looping.Encloses P id r loop prompts) (silent : r.retryPrompt = none) :
    prompts = [] := by
  obtain ⟨entry, exit, _, back⟩ := encloses
  generalize r.retryPrompt = prompt at back silent
  subst silent
  cases back
  rfl

/-- A loop encloses one node only. -/
theorem encloses_one {g : Graph} (tidy : g.Tidy) {source : Graph} {id id' loop : String}
    {r r' : RetrySpec} (first : Looping.Encloses (source.Adds g) id r loop [])
    (second : Looping.Encloses (source.Adds g) id' r' loop []) : id = id' := by
  obtain ⟨entry, exit, ⟨l, added, name, _, _, around⟩, back⟩ := first
  obtain ⟨entry', exit', ⟨l', added', name', _, _, around'⟩, back'⟩ := second
  generalize r.retryPrompt = prompt at back
  generalize r'.retryPrompt = prompt' at back'
  cases back
  cases back'
  have same := Graph.eq_of_id tidy added.1 added'.1 (name.trans name'.symm)
  rw [same, around'] at around
  have targets := congrArg (fun t => t.conditions.map (·.target)) around
  simp [Looping.around] at targets
  exact targets.1.symm

/-- What an input in two stages is when the retries are expanded. -/
theorem Stages.split {staged expanded : Graph} (stages : Stages c w.graph staged expanded)
    (orderly : w.Orderly) (member : p ∈ w.graph.toList) (input : p.kind = .collectInput)
    (specified : p.spec = some spec) (enabled : spec.enableFallback = true)
    (given : spec.fallback = some f) :
    ∃ parameters added, added.kind = .collectInput ∧ added.id ∉ w.graph.allocator.used ∧
      Staging.firstStage (c.registry.resolveNode p) spec parameters added.id ∈ staged.toList ∧
      Staging.secondStage (c.registry.resolveNode p) f added ∈ staged.toList := by
  rw [stages.staged_eq]
  exact ExpandInputs.split
    ((c.registry.changed_resolvedGraph w.graph).tidy (c.registry.keeps_resolveNode _) orderly.tidy)
    stages.inputs (Stages.mem_resolved member) input specified enabled given

/-- How the first stage is tried. -/
def firstTries (spec : InputSpec) : RetrySpec :=
  { maxAttempts := spec.tries, retryOn := spec.kinds }

theorem retry_firstStage (n : Node) (parameters : Table) (fallback : String) :
    (Staging.firstStage n spec parameters fallback).retry =
      if 1 < spec.tries then some (firstTries spec) else none := by
  simp only [Staging.firstStage, firstTries, InputSpec.tries, InputSpec.kinds]
  by_cases trigger : spec.triggers.contains .maxRetries = true
  · simp only [trigger, Bool.true_and, if_true, decide_eq_true_eq]
  · rw [Bool.not_eq_true] at trigger
    simp only [trigger, Bool.false_and, Bool.false_eq_true, if_false, Int.lt_irrefl]

section Serving

variable {staged expanded : Graph} {parameters : Table} {added : Node} {fallback : String}

/-- The first stage of an input in a compiled flow. -/
theorem serves_first (stages : Stages c w.graph staged expanded) (orderly : w.Orderly)
    (member : p ∈ w.graph.toList) (input : p.kind = .collectInput)
    (speech : spec.primary.mode = .speech) (positive : 1 ≤ spec.primary.maxRetries)
    (used : fallback ∈ staged.allocator.used)
    (placed : Staging.firstStage (c.registry.resolveNode p) spec parameters fallback ∈
      staged.toList) :
    ∃ loop, expanded.Serves (fallback :: w.graph.keys) p.id loop [] spec.tries
        (fun o h => h = fallback ∧ p.Triggers .speech spec.kinds o) (p.Leaves .speech spec.kinds) ∧
      ∀ l ∈ loop, Looping.Encloses (staged.Adds expanded) p.id (firstTries spec) l [] := by
  have proper := orderly.proper p member
  have conditions : (Staging.firstStage (c.registry.resolveNode p) spec parameters
      fallback).transitions.conditions = p.transitions.conditions.filterMap (·.lowered? .speech) := by
    rw [← speech]
    exact stageConditions_eq ..
  obtain ⟨loop, prompts, serves, nodes, none, _⟩ := stages.serves (r := firstTries spec)
    (stages.tidy_staged orderly.tidy) placed input (Staging.kinds_firstStage proper.once) rfl
    (InputSpec.tries_pos positive) (retry_firstStage ..)
  have silent : prompts = [] := by
    cases loop with
    | none => exact none rfl
    | some l => exact no_prompts (nodes l rfl).1 rfl
  subst silent
  have own : p.id ∈ w.graph.keys := (Graph.mem_keys orderly.tidy).2 ⟨p, member, rfl⟩
  refine ⟨loop, serves.weaken (List.mem_cons_of_mem _ own) ?_ ?_ ?_, fun l here => (nodes l here).1⟩
  · intro id among
    rcases List.mem_cons.1 among with rfl | among
    · exact used
    · exact stages.used_staged orderly.tidy (orderly.tidy.used id among)
  · rintro o h ⟨rfl, kind, trigger, errs⟩
    refine ⟨kind, errs.1, trigger, Staging.errorTarget_trigger trigger, ?_⟩
    rw [conditions]
    exact proper.errs_lowered input errs
  · rintro o target (takes | ⟨kind, h, other, errs, handler, rfl⟩)
    · refine .inl ?_
      rw [conditions]
      exact proper.takes_lowered input takes
    · refine .inr ⟨kind, h, other, errs.1, (Staging.errorTarget_other other).trans handler, ?_, rfl⟩
      rw [conditions]
      exact proper.errs_lowered input errs

/-- The second stage of an input in a compiled flow. -/
theorem serves_second (stages : Stages c w.graph staged expanded) (orderly : w.Orderly)
    (member : p ∈ w.graph.toList) (input : p.kind = .collectInput) (kind : added.kind = .collectInput)
    (positive : 1 ≤ f.maxRetries)
    (placed : Staging.secondStage (c.registry.resolveNode p) f added ∈ staged.toList) :
    ∃ loop, expanded.Serves (added.id :: w.graph.keys) added.id loop [] f.maxRetries
        (p.Retries .keypad ErrorKind.retryable) (p.Leaves .keypad ErrorKind.retryable) ∧
      ∀ l ∈ loop, Looping.Encloses (staged.Adds expanded) added.id
        { maxAttempts := f.maxRetries } l [] := by
  have proper := orderly.proper p member
  have conditions : (Staging.secondStage (c.registry.resolveNode p) f added).transitions.conditions =
      p.transitions.conditions.filterMap (·.lowered? .keypad) := stageConditions_eq ..
  obtain ⟨loop, prompts, serves, nodes, none, _⟩ := stages.serves
    (r := { maxAttempts := f.maxRetries }) (stages.tidy_staged orderly.tidy) placed kind
    proper.once rfl positive rfl
  have silent : prompts = [] := by
    cases loop with
    | none => exact none rfl
    | some l => exact no_prompts (nodes l rfl).1 rfl
  subst silent
  have tidy := stages.tidy_staged orderly.tidy
  refine ⟨loop, serves.weaken List.mem_cons_self ?_ ?_ ?_, fun l here => (nodes l here).1⟩
  · intro id among
    rcases List.mem_cons.1 among with rfl | among
    · exact tidy.used _ ((Graph.mem_keys tidy).2 ⟨_, placed, rfl⟩)
    · exact stages.used_staged orderly.tidy (orderly.tidy.used id among)
  · rintro o h ⟨kind, retryable, errs, target⟩
    refine ⟨kind, errs.1, retryable, target, ?_⟩
    rw [conditions]
    exact proper.errs_lowered input errs
  · rintro o target (takes | ⟨kind, h, other, errs, handler, rfl⟩)
    · refine .inl ?_
      rw [conditions]
      exact proper.takes_lowered input takes
    · refine .inr ⟨kind, h, other, errs.1, handler, ?_, rfl⟩
      rw [conditions]
      exact proper.errs_lowered input errs

end Serving

/-- However the triggers, the tries and the handlers of an input in two stages are chosen, a compiled
flow keeps the contract of the input. -/
theorem two_stages (built : w.Built) (compiled : c.compile w.graph = .ok flow)
    (member : p ∈ w.graph.toList) (specified : p.spec = some spec)
    (enabled : spec.enableFallback = true) (given : spec.fallback = some f) (valid : spec.Valid)
    (positive : 1 ≤ spec.primary.maxRetries) (positive' : 1 ≤ f.maxRetries) :
    ∃ fallback loop₁ loop₂, fallback ∉ w.graph.keys ∧
      (∀ l ∈ loop₁, StageLoop flow.document w.graph p.id spec.tries l) ∧
      (∀ l ∈ loop₂, StageLoop flow.document w.graph fallback f.maxRetries l) ∧
      StageContract flow.document w.graph p spec f fallback loop₁ loop₂ := by
  have orderly := built.orderly
  obtain ⟨input, _⟩ := (orderly.proper p member).specified spec specified
  have speech := InputSpec.mode_of_valid valid enabled given
  obtain ⟨staged, expanded, version, more, stages, document⟩ := compile_ok compiled
  obtain ⟨parameters, added, kind, fresh, placed, placed'⟩ :=
    stages.split orderly member input specified enabled given
  have tidy := stages.tidy_staged orderly.tidy
  have taken : added.id ∈ staged.allocator.used :=
    tidy.used _ ((Graph.mem_keys tidy).2 ⟨_, placed', rfl⟩)
  obtain ⟨loop₁, serves, encloses⟩ :=
    serves_first stages orderly member input speech positive taken placed
  obtain ⟨loop₂, serves', encloses'⟩ :=
    serves_second stages orderly member input kind positive' placed'
  have used := stages.used_staged orderly.tidy
  have onward (k : Node) (there : staged.Adds expanded k) : w.graph.Adds expanded k :=
    ⟨there.1, fun known => there.2 (used known)⟩
  have absent : added.id ∉ w.graph.keys := fun among => fresh (orderly.tidy.used _ among)
  have apart (l : String) (here : l ∈ loop₂) : l ∉ loop₁ := fun both => by
    have same := encloses_one serves.tidy (encloses l both) (encloses' l here)
    exact absent (same ▸ (Graph.mem_keys orderly.tidy).2 ⟨p, member, rfl⟩)
  rw [document]
  refine ⟨added.id, loop₁, loop₂, absent, fun l here => ?_, fun l here => ?_, ?_, ?_, ?_⟩
  · exact ⟨expanded, version, more, _, rfl, rfl, (encloses l here).mono onward⟩
  · exact ⟨expanded, version, more, _, rfl, rfl, (encloses' l here).mono onward⟩
  · exact fun s fresh => serves.attempts (left_of_fresh fresh) version more
  · intro s fresh fresh' failures rest triggers all pending
    obtain ⟨before, o, rfl⟩ : ∃ before o, failures = before ++ [o] := by
      rcases List.eq_nil_or_concat failures with rfl | ⟨before, o, same⟩
      · have some_tries := InputSpec.tries_pos positive
        rw [← all] at some_tries
        exact absurd some_tries (by decide)
      · exact ⟨before, o, by rw [same, List.concat_eq_append]⟩
    have fails : ∀ e ∈ (before.map fun o => (o, added.id)) ++ [(o, added.id)],
        e.2 = added.id ∧ p.Triggers .speech spec.kinds e.1 := by
      have listed : (before.map fun o => (o, added.id)) ++ [(o, added.id)] =
          (before ++ [o]).map fun o => (o, added.id) := by simp
      rw [listed]
      intro e among
      obtain ⟨o', inside, rfl⟩ := List.mem_map.1 among
      exact ⟨rfl, triggers o' inside⟩
    obtain ⟨path, s', leads, left, tries, settled, others⟩ := serves.endures.spent fails
      (left_of_fresh fresh) (by simpa using all) (by simpa [Function.comp_def] using pending)
    refine ⟨path, s', leads.passes serves.tidy version more, left, ?_, tries.others, settled,
      fun l here => ?_⟩
    · rw [tries.visits, List.length_map, List.length_append, List.length_singleton]
    · rw [others l (apart l here)]
      exact fresh' l here
  · exact fun s fresh => serves'.attempts (left_of_fresh fresh) version more

end Compiler

/-! ### A question that is asked in two stages -/

namespace Question

def opening : Workspace :=
  { flow := "ask", graph := { name := "ask" }, joins := #[{}], builders := #[{ cursor := 0 }] }

def fallback : FallbackInput := { prompt := "Press 1", maxRetries := 2 }

/-- Two triggers of either kind hand over to the keypad. -/
def spec : InputSpec :=
  { primary := { prompt := "Say yes", confidenceThreshold := default, maxRetries := 2 }
    fallback := some fallback
    triggers := [.timeout, .noMatch, .maxRetries] }

/-- A question with one answer, which may be said or entered, and an end for silent callers. -/
def workspace : Workspace :=
  let w := (Builder.appendBranching 0 (.collectSequential spec) .null (.text "ask") opening).2
  let w := (Builder.openBranch 0 (.input (.text "1") (.text "Yes")) w).2
  let w := (Builder.append 1 .endExecution .null .null w).2
  let w := (Builder.openBranch 0 .timeout w).2
  (Builder.append 2 .disconnect .null .null w).2

def node : Node := (workspace.graph.get? "ask").getD default

theorem built : workspace.Built := by
  have started : Workspace.start "ask" = .ok opening := Workspace.start_named (by decide +kernel)
  refine .append (.openBranch (.append (.openBranch (.appendBranching (.start started) ?_ _ _ _)
    ?_ _) ?_ _ _ _) ?_ _) ?_ _ _ _
  all_goals decide +kernel

theorem member : node ∈ workspace.graph.toList :=
  Graph.getD_mem built.orderly.tidy (by decide +kernel)

theorem specified : node.spec = some spec := by decide +kernel

theorem triggers : ∀ o ∈ ["timeout", "no_match"], node.Triggers .speech spec.kinds o := by
  have free : ∀ o ∈ ["timeout", "no_match"], (node.transitions.conditions.all fun e =>
      e.guard.key? .speech != some (.text o)) = true := by decide +kernel
  have named : ∀ o ∈ ["timeout", "no_match"], ∃ kind ∈ spec.kinds, Way.named? o = some kind := by
    decide +kernel
  intro o among
  obtain ⟨kind, trigger, names⟩ := named o among
  exact ⟨kind, trigger, names, by simpa using free o among⟩

end Question

/-- A silent caller and one who is not understood are both handed over after the second visit. -/
theorem Compiler.two_stages_question : ∃ flow fallback path s',
    byDefault? Question.workspace.graph = some flow ∧
    Document.Passes flow.document (some Question.node.id)
      { pending := [.text "timeout", .text "no_match"] } path (some fallback) s' ∧
    path.count Question.node.id = 2 := by
  obtain ⟨flow, made⟩ := Option.isSome_iff_exists.1
    (show (byDefault? Question.workspace.graph).isSome = true by decide +kernel)
  obtain ⟨c, _, compiled⟩ := byDefault?_eq_some.1 made
  obtain ⟨fallback, loop₁, loop₂, _, _, _, contract⟩ := two_stages Question.built compiled
    Question.member Question.specified rfl rfl rfl (by decide) (by decide)
  have fresh (loop : Option String) :
      Fresh { pending := [.text "timeout", .text "no_match"] } loop := fun _ _ => rfl
  obtain ⟨path, s', passes, _, visits, _⟩ := contract.falls _ (fresh loop₁) (fresh loop₂)
    ["timeout", "no_match"] [] Question.triggers (by decide) rfl
  exact ⟨flow, fallback, path, s', made, passes, visits⟩

end ContactFlow
