import ContactFlow.Proofs.Built
import ContactFlow.Proofs.Origins
import ContactFlow.Proofs.WellFormed

/-!
Dead ends. A trace of a compiled flow comes to a dead end exactly at the nodes that are left by a
next action and have none. The open ends of conditions and errors are found by validation, those of
next actions are not.
-/

namespace ContactFlow

open Trace (State)

/-- A node is left by its next action, and there is none. -/
structure Node.Loose (n : Node) : Prop where
  final : n.kind.isTerminal = false
  linear : n.kind.isBranching = false
  next : n.transitions.next = none

namespace Node

variable {n : Node} {s : State}

theorem loose_iff : n.Loose ↔ ∃ sets, n.site = .goes sets none := by
  unfold site
  constructor
  · rintro ⟨final, linear, next⟩
    have unlike : n.kind ≠ .loop := by
      rintro loop
      rw [loop] at linear
      cases linear
    simp [final, linear, next, unlike]
  · rintro ⟨sets, here⟩
    split at here
    · cases here
    · split at here
      · cases here
      · split at here
        · cases here
        · rename_i final _ linear
          simp only [Site.goes.injEq] at here
          exact ⟨by simpa using final, by simpa using linear, here.2⟩

theorem Loose.not_go (loose : n.Loose) {target : Value} {s' : State} :
    n.site.move n.id s ≠ .ok (.go target s') := by
  intro moved
  obtain ⟨sets, here⟩ := loose_iff.1 loose
  rw [here] at moved
  cases Site.moves_of_move moved

/-- A trace that stops at a node has come to a dead end if the node is loose, and only then. -/
theorem loose_iff_deadEnd {why : End} (stopped : n.site.move n.id s = .ok (.stop why)) :
    why = .deadEnd ↔ n.Loose := by
  rw [loose_iff]
  rcases Site.move_stop stopped with ⟨here, rfl⟩ | ⟨here, rfl⟩ | ⟨⟨about, ways, here⟩, rfl⟩
  · simp [here]
  · exact ⟨fun _ => here, fun _ => rfl⟩
  · simp [here]

end Node

namespace Graph

variable {g : Graph} {s : State} {target : Option String} {t : Trace}

/-- A trace that is taken up at a node that is not loose comes to a dead end at loose nodes only, and
at each of those it comes to. -/
theorem follow_deadEnd (tidy : g.Tidy) {steps : Nat} (followed : g.follow steps target s = .ok t)
    (before : ∀ n ∈ g.toList, s.visited.head? = some (.text n.id) → ¬ n.Loose) :
    t.finish = .deadEnd ↔ ∃ n ∈ g.toList, n.Loose ∧ t.last? = some (.text n.id) := by
  induction steps generalizing target s with
  | zero =>
    rw [follow_zero] at followed
    cases followed
    have last : (s.ended .maxSteps).last? = s.visited.head? := List.getLast?_reverse
    rw [last]
    constructor
    · intro finish
      cases finish
    · rintro ⟨n, member, loose, here⟩
      exact absurd loose (before n member here)
  | succ steps ih =>
    obtain ⟨n, member, _, ⟨why, stopped, rfl⟩ | ⟨next, s', moved, followed⟩⟩ :=
      follow_ok followed
    · have last : ((s.visit n.id).ended why).last? = some (.text n.id) := List.getLast?_reverse
      rw [last]
      change why = .deadEnd ↔ _
      rw [Node.loose_iff_deadEnd stopped]
      constructor
      · exact fun loose => ⟨n, member, loose, rfl⟩
      · rintro ⟨m, inside, loose, here⟩
        have same : n.id = m.id := Scalar.text.inj (Option.some.inj here)
        rw [eq_of_id tidy member inside same]
        exact loose
    · -- the node that was visited last is not loose, since the trace goes on from it
      refine ih followed fun m inside here loose => ?_
      have visited : s'.visited = (s.visit n.id).visited := move_visited moved
      rw [visited] at here
      have same : n.id = m.id := Scalar.text.inj (Option.some.inj here)
      rw [eq_of_id tidy member inside same] at moved
      exact loose.not_go moved

end Graph

namespace Compiler

variable {w : Workspace} {c : Compiler} {flow : Flow}

/-- The loose nodes of an expanded graph are those that were built so. -/
theorem Stages.loose_iff {g staged expanded : Graph} (stages : Stages c g staged expanded)
    (tidy : g.Tidy) (proper : ∀ n ∈ g.toList, n.Proper) {id : String} :
    (∃ m ∈ expanded.toList, m.Loose ∧ m.id = id) ↔ ∃ n ∈ g.toList, n.Loose ∧ n.id = id := by
  constructor
  · rintro ⟨m, member, loose, rfl⟩
    rcases stages.origin tidy proper member with ⟨n, there, _, rfl⟩ | input | between
    · exact ⟨n, there, ⟨loose.final, loose.linear, loose.next⟩, rfl⟩
    · have linear := loose.linear
      rw [input] at linear
      cases linear
    · cases between with
      | prompt _ next => exact absurd loose.next next
      | marker _ _ _ next => exact absurd loose.next next
      | comparison kind _ =>
        have linear := loose.linear
        rw [kind] at linear
        cases linear
      | loop kind =>
        have linear := loose.linear
        rw [kind] at linear
        cases linear
  · rintro ⟨n, member, loose, rfl⟩
    have other : n.kind ≠ .collectInput := by
      rintro input
      have linear := loose.linear
      rw [input] at linear
      cases linear
    exact ⟨_, stages.kept tidy proper member other, ⟨loose.final, loose.linear, loose.next⟩, rfl⟩

/-- In a flow that is accepted, the edges of conditions and errors all lead somewhere, and a trace
comes to a dead end exactly at the nodes whose next action was left open. -/
theorem dead_ends_of_accepted (built : w.Built) {registry : Registry} {settings : Settings}
    (made : ofSettings registry settings = .ok c)
    (enabled : "dangling-transitions" ∉ settings.disabledValidators)
    (compiled : c.compile w.graph = .ok flow) :
    (∃ expanded version more, flow.document = Document.ofGraph expanded version more ∧
      ∀ m ∈ expanded.toList, m.transitions.unlinked = 0) ∧
    ∀ outcomes maxSteps t, trace flow.document outcomes maxSteps = .ok t →
      (t.finish = .deadEnd ↔ ∃ n ∈ w.graph.toList, n.Loose ∧ t.last? = some (.text n.id)) := by
  have orderly := built.orderly
  obtain ⟨staged, expanded, version, more, stages, written, checked⟩ :=
    checked_of_compile made compiled
  have clean := checked Validator.danglingTransitions (by simp [Validator.builtin]) enabled rfl
  rw [written]
  refine ⟨⟨expanded, version, more, rfl, fun m member => ?_⟩, ?_⟩
  · exact (Check.danglingTransitions_eq_nil.1 clean m member).2
  · intro outcomes maxSteps t traced
    rw [Graph.trace_ofGraph] at traced
    have ends := Graph.follow_deadEnd (stages.tidy_expanded orderly.tidy) traced (by simp)
    rw [ends]
    have same (id : Scalar) : (∃ m ∈ expanded.toList, m.Loose ∧ some id = some (.text m.id)) ↔
        ∃ n ∈ w.graph.toList, n.Loose ∧ some id = some (.text n.id) := by
      cases id with
      | text id =>
        have loose : (∃ m ∈ expanded.toList, m.Loose ∧ m.id = id) ↔ _ :=
          stages.loose_iff orderly.tidy orderly.proper
        simpa only [Option.some.injEq, Scalar.text.injEq, eq_comm (a := id)] using loose
      | _ => simp
    cases t.last? with
    | none => simp
    | some id => exact same id

namespace Survey

/-- A question with two answers. One of them plays a prompt and continues the flow, which goes no
further. -/
def workspace : Workspace :=
  let w : Workspace :=
    { flow := "survey", graph := { name := "survey" }, joins := #[{}],
      builders := #[{ cursor := 0 }] }
  let w := (Builder.appendBranching 0 (.collectInput { prompt := .text "Press 1" }) .null
    (.text "question") w).2
  let w := (Builder.openBranch 0 (.digits (.text "1")) w).2
  let w := (Builder.append 1 (.playPrompt (.text "Thanks") .null) .null (.text "thanks") w).2
  let w := (Builder.thenContinue 1 w).2
  let w := (Builder.openBranch 0 .timeout w).2
  (Builder.append 2 .disconnect .null .null w).2

theorem built : workspace.Built := by
  have started : Workspace.start "survey" = .ok _ := Workspace.start_named (by decide +kernel)
  refine .append (.openBranch (.thenContinue (.append (.openBranch (.appendBranching
    (.start started) ?_ _ _ _) ?_ _) ?_ _ _ _) ?_) ?_ _) ?_ _ _ _
  all_goals decide +kernel

end Survey

/-- The survey is accepted, and its dead end is where the caller was thanked. -/
theorem dead_ends_of_survey : ∃ flow t, byDefault? Survey.workspace.graph = some flow ∧
    trace flow.document ["1"] 100 = .ok t ∧
    (t.finish = .deadEnd ↔
      ∃ n ∈ Survey.workspace.graph.toList, n.Loose ∧ t.last? = some (.text n.id)) := by
  obtain ⟨flow, known, t, traced⟩ : ∃ flow, byDefault? Survey.workspace.graph = some flow ∧
      ∃ t, (trace flow.document ["1"] 100).toOption = some t := by
    have done : ((byDefault? Survey.workspace.graph).bind fun flow =>
        (trace flow.document ["1"] 100).toOption).isSome = true := by decide +kernel
    obtain ⟨t, done⟩ := Option.isSome_iff_exists.1 done
    obtain ⟨flow, known, traced⟩ := Option.bind_eq_some_iff.1 done
    exact ⟨flow, known, t, traced⟩
  have traced : trace flow.document ["1"] 100 = .ok t := Results.toOption_eq_some.1 traced
  obtain ⟨c, made, compiled⟩ := byDefault?_eq_some.1 known
  exact ⟨flow, t, known, traced,
    (dead_ends_of_accepted Survey.built made (by simp) compiled).2 _ _ t traced⟩

/-- Validation accepts the survey although a trace of it comes to a dead end. -/
theorem dead_end_accepted : ∃ flow, byDefault? Survey.workspace.graph = some flow ∧
    (trace flow.document ["1"] 100).toOption =
      some ⟨["question", "thanks"].map .text, ["1"], .deadEnd⟩ := by
  have traced : ((byDefault? Survey.workspace.graph).bind fun flow =>
      (trace flow.document ["1"] 100).toOption) =
      some ⟨["question", "thanks"].map .text, ["1"], .deadEnd⟩ := by decide +kernel
  exact Option.bind_eq_some_iff.1 traced

end Compiler

end ContactFlow
