import ContactFlow.Proofs.Attempts

/-!
The retries of an input in a compiled flow. Of the failures of one arrival all but the last lead
back to the input, by way of its retry prompt, and the last one leads to the handler of its own
kind. What a loop has counted stays when the caller gets through, so a later arrival may have fewer
attempts.
-/

namespace ContactFlow

open Trace (State countOf)

/-- The loop and the retry prompt, if any, that a document has for an input and the flow had not. -/
def RetryNodes (document : Value) (g : Graph) (n : Node) (r : RetrySpec) (loop : String)
    (prompts : List String) : Prop :=
  ∃ expanded version more, document = Document.ofGraph expanded version more ∧
    Looping.Encloses (g.Adds expanded) n.id r loop prompts

/-- The attempts left at an input of a flow, by the conditions and handlers that it was built with.
-/
def Node.AttemptsIn (n : Node) (document : Value) (g : Graph) (prompts : List String) (left : Int)
    (s : State) : Prop :=
  Attempts document g.keys n.id prompts left
    (n.Retries (n.mode.getD .keypad) ErrorKind.retryable)
    (n.Leaves (n.mode.getD .keypad) ErrorKind.retryable) s

namespace Compiler

variable {w : Workspace} {c : Compiler} {flow : Flow} {n : Node} {r : RetrySpec}

/-- An input with one stage as it is when the retries are expanded. -/
theorem Stages.single {staged expanded : Graph} (stages : Stages c w.graph staged expanded)
    (orderly : w.Orderly) (member : n ∈ w.graph.toList) (input : n.kind = .collectInput)
    (spec : n.spec = none) :
    ∃ m ∈ staged.toList, m.id = n.id ∧ m.kind = n.kind ∧ m.retry = n.retry ∧
      m.transitions.errors = n.transitions.errors ∧
      m.transitions.conditions =
        n.transitions.conditions.filterMap (·.lowered? (n.mode.getD .keypad)) := by
  obtain ⟨edges, lowered, placed⟩ := ExpandInputs.plain
    ((c.registry.changed_resolvedGraph w.graph).tidy (c.registry.keeps_resolveNode _) orderly.tidy)
    stages.inputs (Stages.mem_resolved member) input spec
  obtain ⟨rfl, _⟩ := lowerConditions_ok lowered
  rw [← stages.staged_eq] at placed
  exact ⟨_, placed, rfl, rfl, rfl, rfl, rfl⟩

/-- What a compilation makes of an input with retries. -/
structure Retried (document : Value) (g expanded : Graph) (n : Node) (r : RetrySpec) (loop : String)
    (prompts : List String) : Prop where
  written : ∃ version more, document = Document.ofGraph expanded version more
  encloses : Looping.Encloses (g.Adds expanded) n.id r loop prompts
  writable : Numeral.isWritable (r.maxAttempts - 1) = true
  serves : expanded.Serves g.keys n.id (some loop) prompts r.maxAttempts
    (n.Retries (n.mode.getD .keypad) ErrorKind.retryable)
    (n.Leaves (n.mode.getD .keypad) ErrorKind.retryable)

theorem retried_of_compile (built : w.Built) (compiled : c.compile w.graph = .ok flow)
    (member : n ∈ w.graph.toList) (retry : n.retry = some r) (more : 1 < r.maxAttempts)
    (handled : ∃ kind ∈ ErrorKind.retryable, (n.transitions.errorTarget kind).isSome) :
    ∃ expanded loop prompts, Retried flow.document w.graph expanded n r loop prompts := by
  have orderly := built.orderly
  have proper := orderly.proper n member
  obtain ⟨input, spec, retryOn⟩ := proper.retried r retry
  obtain ⟨staged, expanded, version, other, stages, document⟩ := compile_ok compiled
  obtain ⟨m, placed, name, kind, tries, errors, conditions⟩ :=
    stages.single orderly member input spec
  have targets (kind : ErrorKind) :
      m.transitions.errorTarget kind = n.transitions.errorTarget kind := by
    rw [Transitions.errorTarget, errors, Transitions.errorTarget]
  have once : m.transitions.kinds.Nodup := by
    rw [Transitions.kinds, errors]
    exact proper.once
  have used := stages.used_staged orderly.tidy
  have expected : m.retry = if 1 < r.maxAttempts then some r else none := by
    rw [tries, retry, if_pos more]
  obtain ⟨loop?, prompts, serves, nodes, _, found⟩ := stages.serves
    (stages.tidy_staged orderly.tidy) placed (kind.trans input) once rfl (by omega) expected
  have some_handler : Looping.handlers r m.transitions.errors ≠ [] := by
    obtain ⟨kind, retryable, target⟩ := handled
    obtain ⟨h, leads⟩ := Option.isSome_iff_exists.1 target
    obtain ⟨kind', among⟩ := Looping.handler_mem (n := m) (retryOn ▸ retryable)
      ((targets kind).trans leads)
    exact List.ne_nil_of_mem among
  obtain ⟨loop, rfl⟩ := Option.isSome_iff_exists.1 (found more some_handler)
  obtain ⟨encloses, writable⟩ := nodes loop rfl
  rw [name] at serves encloses
  refine ⟨expanded, loop, prompts, ⟨version, other, document⟩,
    encloses.mono fun k added => ⟨added.1, fun taken => added.2 (used taken)⟩, writable,
    serves.weaken ((Graph.mem_keys orderly.tidy).2 ⟨n, member, rfl⟩)
      (fun id among => used (orderly.tidy.used id among)) ?_ ?_⟩
  · rintro o h ⟨kind, retryable, errs, target⟩
    refine ⟨kind, errs.1, retryOn ▸ retryable, (targets kind).trans target, ?_⟩
    rw [conditions]
    exact proper.errs_lowered input errs
  · rintro o target (takes | ⟨kind, h, final, errs, handler, rfl⟩)
    · refine .inl ?_
      rw [conditions]
      exact proper.takes_lowered input takes
    · refine .inr ⟨kind, h, retryOn ▸ final, errs.1, (targets kind).trans handler, ?_, rfl⟩
      rw [conditions]
      exact proper.errs_lowered input errs

namespace Retried

variable {document : Value} {g expanded : Graph} {loop : String} {prompts : List String}

theorem retryNodes (retried : Retried document g expanded n r loop prompts) :
    RetryNodes document g n r loop prompts := by
  obtain ⟨version, more, written⟩ := retried.written
  exact ⟨expanded, version, more, written, retried.encloses⟩

/-- An input has as many attempts as its loop has not counted. -/
theorem attempts (retried : Retried document g expanded n r loop prompts) {s : State} {left : Int}
    (counted : countOf s.counts (.text loop) + left = r.maxAttempts) :
    n.AttemptsIn document g prompts left s := by
  obtain ⟨version, more, rfl⟩ := retried.written
  exact retried.serves.attempts counted version more

end Retried

/-- Each arrival at an input with a fresh count has all the attempts of the input, of whatever kinds
its failures are and however many handlers they have. -/
theorem retry_budget (built : w.Built) (compiled : c.compile w.graph = .ok flow)
    (member : n ∈ w.graph.toList) (retry : n.retry = some r) (more : 1 < r.maxAttempts)
    (handled : ∃ kind ∈ ErrorKind.retryable, (n.transitions.errorTarget kind).isSome) :
    ∃ loop prompts, RetryNodes flow.document w.graph n r loop prompts ∧
      ∀ s : State, countOf s.counts (.text loop) = 0 →
        n.AttemptsIn flow.document w.graph prompts r.maxAttempts s := by
  obtain ⟨expanded, loop, prompts, retried⟩ :=
    retried_of_compile built compiled member retry more handled
  exact ⟨loop, prompts, retried.retryNodes, fun s fresh => retried.attempts (by omega)⟩

/-! ### A menu that is offered again -/

namespace Menu

def opening : Workspace :=
  { flow := "menu", graph := { name := "menu" }, joins := #[{}], builders := #[{ cursor := 0 }] }

/-- A menu that may be tried twice. One key plays a prompt and offers the menu anew. -/
def workspace : Workspace :=
  let w := (Builder.appendBranching 0
    (.collectInput { prompt := .text "Press 1", maxAttempts := .int 2 }) .null (.text "menu")
    opening).2
  let w := (Builder.openBranch 0 (.digits (.text "1")) w).2
  let w := (Builder.append 1 (.playPrompt (.text "Again") .null) .null .null w).2
  let w := (Builder.jumpTo 1 (.text "menu") w).2
  let w := (Builder.openBranch 0 .timeout w).2
  (Builder.append 2 .disconnect .null .null w).2

def node : Node := (workspace.graph.get? "menu").getD default

theorem built : workspace.Built := by
  have started : Workspace.start "menu" = .ok opening :=
    Workspace.start_named (by decide +kernel)
  refine .append (.openBranch (.jumpTo (.append (.openBranch (.appendBranching (.start started)
    ?_ _ _ _) ?_ _) ?_ _ _ _) ?_ _) ?_ _) ?_ _ _ _
  all_goals decide +kernel

theorem member : node ∈ workspace.graph.toList :=
  Graph.getD_mem built.orderly.tidy (by decide +kernel)

theorem retry : node.retry = some { maxAttempts := 2 } := by decide +kernel

theorem handled : ∃ kind ∈ ErrorKind.retryable, (node.transitions.errorTarget kind).isSome :=
  ⟨.timeout, by decide, by decide +kernel⟩

/-- Running out of time is a failure of the menu. -/
theorem timeout_fails :
    node.Retries (node.mode.getD .keypad) ErrorKind.retryable "timeout" "disconnect" := by
  have free : (node.transitions.conditions.all fun e =>
      e.guard.key? (node.mode.getD .keypad) != some (.text "timeout")) = true := by decide +kernel
  exact ⟨.timeout, by decide, ⟨by decide +kernel, by simpa using free⟩, by decide +kernel⟩

theorem compiled : ∃ (c : Compiler) (flow : Flow), byDefault? workspace.graph = some flow ∧
    c.compile workspace.graph = .ok flow := by
  obtain ⟨flow, made⟩ := Option.isSome_iff_exists.1
    (show (byDefault? workspace.graph).isSome = true by decide +kernel)
  obtain ⟨c, _, compiled⟩ := byDefault?_eq_some.1 made
  exact ⟨c, flow, made, compiled⟩

end Menu

/-- Two timeouts of the menu lead to the end of the call, by way of two visits. -/
theorem retry_budget_menu : ∃ flow path s', byDefault? Menu.workspace.graph = some flow ∧
    Document.Passes flow.document (some Menu.node.id)
      { pending := [.text "timeout", .text "timeout"] } path (some "disconnect") s' ∧
    path.count Menu.node.id = 2 := by
  obtain ⟨c, flow, known, compiled⟩ := Menu.compiled
  obtain ⟨loop, prompts, _, fresh⟩ :=
    retry_budget Menu.built compiled Menu.member Menu.retry (by decide) Menu.handled
  have failures : ∀ f ∈ [("timeout", "disconnect")] ++ [("timeout", "disconnect")],
      Menu.node.Retries (Menu.node.mode.getD .keypad) ErrorKind.retryable f.1 f.2 := by
    simpa using Menu.timeout_fails
  obtain ⟨path, s', passes, _, tries⟩ :=
    (fresh { pending := [.text "timeout", .text "timeout"] } rfl).fails failures rfl rfl
  exact ⟨flow, path, s', known, passes, tries.visits⟩

/-- What a loop has counted wherever a trace comes to: its visits so far, but for whole rounds. -/
theorem count_of_visits {expanded : Graph} (tidy : expanded.Tidy) {l : Node} (member : l ∈ expanded.toList)
    (kind : l.kind = .loop) {rounds : Int} (nonneg : 0 ≤ rounds) (limit : l.limit = .ok rounds)
    {version : Value} {more : Table} {outcomes : List String} {target : Option String} {s : State}
    (reaches : Document.Reaches (Document.ofGraph expanded version more) outcomes target s) :
    countOf s.counts (.text l.id) = (s.visited.count (.text l.id) : Int) % (rounds + 1) := by
  refine Graph.reaches_induction tidy
    (P := fun s => countOf s.counts (.text l.id) = (s.visited.count (.text l.id) : Int) %
      (rounds + 1)) ?_ ?_ reaches
  · simp [countOf]
  · intro n there s s' target counted moved
    have loop : l.site = .loops (.ok rounds) l.transitions.ways := by
      simp [Node.site, kind, ActionKind.isTerminal, limit]
    have visited := Graph.move_visited moved
    by_cases here : n.id = l.id
    · have same := Graph.eq_of_id tidy there member here
      subst same
      rw [loop] at moved
      obtain ⟨_, ⟨_, _, _, other, _⟩ | ⟨_, _, other, _⟩ | ⟨_, _, k, here, known, rfl⟩⟩ :=
        Site.move_go moved
      · cases other
      · cases other
      · cases here
        cases known
        rw [visited, State.counted, Trace.countOf_cons_self, State.visit, List.count_cons_self]
        simp only [counted]
        exact Site.round_count _ nonneg
    · have apart : Scalar.text n.id ≠ .text l.id := fun both => here (Scalar.text.inj both)
      rw [visited, State.visit, List.count_cons_of_ne apart, ← counted]
      obtain ⟨_, ⟨_, _, _, _, rfl⟩ | ⟨_, _, _, rfl | ⟨_, _, rfl⟩⟩ | ⟨_, _, k, _, _, rfl⟩⟩ :=
        Site.move_go moved
      · rfl
      · rfl
      · rfl
      · exact Trace.countOf_cons_other (Ne.symm here)

/-- Wherever a trace arrives at an input, the attempts left are those that the visits of its loop so
far have not spent. They are all of the input's attempts just in case the visits came to whole rounds.
-/
theorem attempts_left (built : w.Built) (compiled : c.compile w.graph = .ok flow)
    (member : n ∈ w.graph.toList) (retry : n.retry = some r) (more : 1 < r.maxAttempts)
    (handled : ∃ kind ∈ ErrorKind.retryable, (n.transitions.errorTarget kind).isSome) :
    ∃ loop prompts, RetryNodes flow.document w.graph n r loop prompts ∧
      ∀ outcomes (s : State), Document.Reaches flow.document outcomes (some n.id) s →
        ∃ left : Int, n.AttemptsIn flow.document w.graph prompts left s ∧
          left = r.maxAttempts - (s.visited.count (.text loop) : Int) % r.maxAttempts ∧
          (left = r.maxAttempts ↔ r.maxAttempts ∣ (s.visited.count (.text loop) : Int)) := by
  obtain ⟨expanded, loop, prompts, retried⟩ :=
    retried_of_compile built compiled member retry more handled
  refine ⟨loop, prompts, retried.retryNodes, fun outcomes s reaches => ?_⟩
  obtain ⟨version, other, written⟩ := retried.written
  obtain ⟨entry, exit, ⟨l, added, rfl, kind, parameters, _⟩, _⟩ := retried.encloses
  rw [written] at reaches
  have count := count_of_visits retried.serves.tidy added.1 kind (by omega)
    (Node.limit_loopCount (by omega) retried.writable parameters) reaches
  rw [Int.sub_add_cancel] at count
  refine ⟨_, retried.attempts (by rw [count]; omega), rfl, ?_⟩
  rw [Int.dvd_iff_emod_eq_zero]
  omega

/-- The attempts left at the menu, of which it has two, wherever a trace arrives at it. -/
theorem attempts_left_menu : ∃ flow loop prompts, byDefault? Menu.workspace.graph = some flow ∧
    ∀ outcomes (s : State), Document.Reaches flow.document outcomes (some Menu.node.id) s →
      ∃ left : Int, Menu.node.AttemptsIn flow.document Menu.workspace.graph prompts left s ∧
        (left = 2 ↔ 2 ∣ (s.visited.count (.text loop) : Int)) := by
  obtain ⟨c, flow, known, compiled⟩ := Menu.compiled
  obtain ⟨loop, prompts, _, arrives⟩ :=
    attempts_left Menu.built compiled Menu.member Menu.retry (by decide) Menu.handled
  refine ⟨flow, loop, prompts, known, fun outcomes s reaches => ?_⟩
  obtain ⟨left, attempts, _, whole⟩ := arrives outcomes s reaches
  exact ⟨left, attempts, whole⟩

/-- A timeout of the first arrival at the menu is counted although the caller entered a digit next:
the first timeout of the second arrival ends the call. -/
theorem attempts_carried_over : ∃ flow, byDefault? Menu.workspace.graph = some flow ∧
    Menu.node.retry = some { maxAttempts := 2 } ∧
    Menu.node.transitions.errorTarget .timeout = some "disconnect" ∧
    (trace flow.document ["timeout", "1", "timeout"] 100).toOption =
      some ⟨["menu", "menu_retry", "menu", "message", "menu", "menu_retry",
        "disconnect"].map .text, ["timeout", "1", "timeout"], .terminal⟩ := by
  have traced : ((byDefault? Menu.workspace.graph).bind fun flow =>
      (trace flow.document ["timeout", "1", "timeout"] 100).toOption) =
      some ⟨["menu", "menu_retry", "menu", "message", "menu", "menu_retry",
        "disconnect"].map .text, ["timeout", "1", "timeout"], .terminal⟩ := by decide +kernel
  obtain ⟨flow, known, same⟩ := Option.bind_eq_some_iff.1 traced
  exact ⟨flow, known, by decide +kernel, by decide +kernel, same⟩

end Compiler

end ContactFlow
