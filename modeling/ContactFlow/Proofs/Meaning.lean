import ContactFlow.Proofs.Appending
import ContactFlow.Proofs.Sturdy

/-!
What compiled steps mean. A trace of the document that structured steps are compiled to visits,
takes and ends as the plan of the steps is carried out, however many steps it may have.
-/

namespace ContactFlow

open Trace (State)

namespace Compiler

variable {c : Compiler} {g staged expanded : Graph} {n : Node}

/-- A node with one stage that is not tried again is compiled as it was prepared. -/
theorem Stages.prepared (stages : Stages c g staged expanded) (tidy : g.Tidy)
    (member : n ∈ g.toList) (spec : n.spec = none) (retry : n.retry = none) :
    n.prepared c.registry ∈ expanded.toList := by
  have resolved := (c.registry.changed_resolvedGraph g).tidy (c.registry.keeps_resolveNode g) tidy
  have there := Stages.mem_resolved (c := c) member
  have again {m : Node} (inside : m ∈ staged.toList) (once : m.retry = none) :
      m ∈ expanded.toList := by
    rw [stages.expanded_eq]
    refine ExpandRetries.other (stages.tidy_staged tidy) stages.retries inside fun r retry => ?_
    rw [once] at retry
    cases retry
  by_cases input : n.kind = .collectInput
  · obtain ⟨edges, lowered, placed⟩ := ExpandInputs.plain resolved stages.inputs there input spec
    have lowered : lowerConditions (n.mode.getD .keypad) true n.transitions.conditions = .ok edges :=
      lowered
    obtain ⟨filtered, all⟩ := lowerConditions_ok lowered
    have mapped : edges = n.transitions.conditions.map (·.staged (n.mode.getD .keypad)) := by
      have each : ∀ e ∈ n.transitions.conditions, e.lowered? (n.mode.getD .keypad) =
          some (e.staged (n.mode.getD .keypad)) := by
        intro e among
        obtain ⟨e', made⟩ := Option.isSome_iff_exists.1 (all rfl e among)
        rw [made, ConditionEdge.lowered?_eq made]
      rw [filtered, ← List.filterMap_eq_map]
      exact List.filterMap_congr each
    rw [← stages.staged_eq] at placed
    have same : n.prepared c.registry = Staging.withConditions (c.registry.resolveNode n) edges := by
      rw [Node.prepared, if_pos input, mapped]
    rw [same]
    exact again placed retry
  · have placed :=
      ExpandInputs.other resolved stages.inputs there (n := c.registry.resolveNode n) input
    rw [← stages.staged_eq] at placed
    have same : n.prepared c.registry = c.registry.resolveNode n := by rw [Node.prepared, if_neg input]
    rw [same]
    exact again placed retry

end Compiler

namespace Workspace

open Plan

variable {w w' : Workspace} {r : Registry}

/-- A flow whose steps were appended is laid out as its plan says, and begins where the plan does. -/
theorem laid_of_spans {flow : String} (started : Workspace.start flow = .ok w) {front : Plan → Plan}
    (spans : Spans r 0 w w' front) : Laid (w'.present.Has r) none none (front .finish) ∧
      (w'.graph = w.graph ∨
        ∃ id, w'.graph.entry = some id ∧ (front .finish).entry none none = some id) := by
  have made := start_eq started
  have scope : (w.builder 0).scope = .root := by rw [made]; rfl
  have entry : w.graph.entry = none := by rw [made]
  have sound := spans.advances.onward.sound
  have settles : Settles w w' [(w'.builder 0).cursor] w'.present :=
    ⟨sound.tidy, (becomes_present sound).mono (by simp) (by simp)⟩
  obtain ⟨_, laid⟩ := spans.laid _ .finish (w'.present.leads (w'.builder 0).cursor) settles rfl .finish
  rw [scope] at laid
  refine ⟨?_, ?_⟩
  · -- where the flow still stands open, it leads nowhere
    by_cases opened : (w'.builder 0).status = .opened
    · have open_ := (spans.advances.ready opened).cursor
      rw [present_open open_.target open_.forward] at laid
      exact laid
    · exact laid.unfinished (spans.closes opened .finish) none
  · rcases spans.starts entry scope with ⟨same, _⟩ | ⟨id, first, begins⟩
    · exact .inl same
    · exact .inr ⟨id, first, begins ..⟩

end Workspace

namespace Compiler

open Plan

variable {c : Compiler} {flow : Flow} {w : Workspace}

/-- The nodes of a plan are in the expanded graph as they were prepared. -/
theorem Stages.laid {staged expanded : Graph} (stages : Stages c w.graph staged expanded)
    (tidy : w.graph.Tidy) {e e' : Option String} {p : Plan}
    (laid : Laid (w.present.Has c.registry) e e' p) :
    Laid (fun id site => ∃ n, expanded.get? id = some n ∧ n.site = site) e e' p := by
  refine laid.mono ?_
  rintro id site ⟨m, member, rfl, spec, retry, does⟩
  have placed := stages.prepared tidy member spec retry
  have name : (m.prepared c.registry).id = m.id := by
    unfold Node.prepared
    split <;> rfl
  exact ⟨_, name ▸ Graph.get?_mem (stages.tidy_expanded tidy) placed, does⟩

theorem Stages.entry {g staged expanded : Graph} (stages : Stages c g staged expanded) (tidy : g.Tidy)
    {id : String} (first : g.entry = some id) : expanded.entry = some id := by
  have resolved := (c.registry.changed_resolvedGraph g).tidy (c.registry.keeps_resolveNode g) tidy
  have begins : (c.registry.resolvedGraph g).entry = some id :=
    (c.registry.changed_resolvedGraph g).entry.trans first
  have second : staged.entry = some id := by
    rw [stages.staged_eq, (ExpandInputs.expanded resolved).entry (by rw [begins]; rfl), begins]
  rw [stages.expanded_eq, (ExpandRetries.expanded (stages.tidy_staged tidy)).entry
    (by rw [second]; rfl), second]

/-- A flow without steps has no nodes to be expanded. -/
theorem Stages.empty {name : String} {staged expanded : Graph}
    (stages : Stages c { name } staged expanded) : expanded.entry = none := by
  rw [stages.expanded_eq, stages.staged_eq]
  rfl

/-- A trace of what structured steps are compiled to does what their plan does. -/
theorem trace_of_steps {f : FlowDefinition} {name : String} {registry : Registry}
    {settings : Settings} (structured : Step.areStructured f.steps) (built : f.build name = .ok w)
    (made : ofSettings registry settings = .ok c)
    (entry : "entry-point" ∉ settings.disabledValidators)
    (dangling : "dangling-transitions" ∉ settings.disabledValidators)
    (compiled : c.compile w.graph = .ok flow) :
    ∃ p, f.plan registry = some p ∧ ∀ outcomes maxSteps,
      trace flow.document outcomes maxSteps = p.trace outcomes maxSteps := by
  obtain ⟨v, started, appended⟩ := f.appended_of_build built
  have fresh := Workspace.start_eq started
  obtain ⟨pipeline, _, rfl⟩ := Results.map_eq_ok.1 made
  obtain ⟨front, plan, spans⟩ := Step.steps_mean (r := registry) f.steps structured
    (Workspace.sound_start started) (Workspace.ready_start started) appended
  obtain ⟨laid, begins⟩ := Workspace.laid_of_spans started spans
  obtain ⟨staged, expanded, version, more, stages, written, checked⟩ :=
    checked_of_compile made compiled
  have tidy := spans.advances.onward.sound.tidy
  have starts := checked Validator.entryPoint (by simp [Validator.builtin]) entry rfl
  have leads := checked Validator.danglingTransitions (by simp [Validator.builtin]) dangling rfl
  -- validation leaves no condition or error without a target
  have linked : Linked expanded := fun n member way among => by
    obtain ⟨id, target, _⟩ := (Check.lead leads member).1 way among
    rw [target]
    rfl
  refine ⟨front .finish, ?_, fun outcomes maxSteps => ?_⟩
  · rw [fresh] at plan
    rw [FlowDefinition.plan, plan]
    rfl
  · have simulates : Simulates expanded (fun _ => 0) ((front .finish).entry none none)
        ((front .finish).run (halt .deadEnd) (halt .deadEnd)) :=
      (stages.laid tidy laid).simulates (stages.tidy_expanded tidy) linked (fun _ _ => rfl) rfl rfl
    obtain ⟨first, _, known⟩ := Check.entryPoint_eq_nil.1 starts
    rcases begins with same | ⟨id, begins, enters⟩
    · -- a flow without nodes has no entry, so it was not compiled
      rw [same, fresh] at stages
      rw [stages.empty] at known
      cases known
    · rw [written, Graph.trace_ofGraph, stages.entry tidy begins]
      rw [enters] at simulates
      exact simulates maxSteps { pending := outcomes.map .text } [] fun _ => rfl

namespace Callback

def message (id text : String) : Step :=
  .action (.action (.playPrompt (.text text) .null)) { id := some id } [] []

def hangUp (id : String) : Step := .action (.action .disconnect) { id := some id } [] []

/-- A tune is played twice before a question. Silence ends the call; whatever else is entered does
so after the question. -/
def definition : FlowDefinition where
  steps := [
    .action (.action (.loop (.int 2))) { id := some "twice" } [(.body, [message "tune" "La la"])] [],
    .action (.action (.collectInput { prompt := .text "Shall we call back?" }))
      { id := some "question" }
      [(.digits (.text "1"), [message "promise" "We will.", .resume {}]),
        (.timeout, [hangUp "silence"])]
      [("no_match", [.resume {}])],
    hangUp "end"]

end Callback

theorem trace_of_steps_callback :
    ∃ w flow p, Callback.definition.build "callback" = .ok w ∧ byDefault? w.graph = some flow ∧
      Callback.definition.plan {} = some p ∧ ∀ outcomes maxSteps,
        trace flow.document outcomes maxSteps = p.trace outcomes maxSteps := by
  obtain ⟨flow, known⟩ := Option.isSome_iff_exists.1
    (show ((Callback.definition.build "callback").toOption.bind fun w => byDefault? w.graph).isSome by
      decide +kernel)
  obtain ⟨w, built, known⟩ := Option.bind_eq_some_iff.1 known
  have built : Callback.definition.build "callback" = .ok w := Results.toOption_eq_some.1 built
  obtain ⟨c, made, compiled⟩ := byDefault?_eq_some.1 known
  obtain ⟨p, plan, traces⟩ := trace_of_steps (f := Callback.definition) (by decide +kernel) built made
    (by simp) (by simp) compiled
  exact ⟨w, flow, p, built, known, plan, traces⟩

/-- After an answer the call ends as it does after the question. -/
example : (Callback.definition.plan {}).map (fun p => (p.trace ["1"] 10).toOption.map (·.visited)) =
    some (some (["twice", "tune", "twice", "tune", "twice", "question", "promise", "end"].map
      .text)) := by
  decide +kernel

end Compiler

end ContactFlow
