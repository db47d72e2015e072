import ContactFlow.Proofs.Reaching
import ContactFlow.Validation.Pipeline

/-!
What the validators find. A graph is valid in a pipeline when no enabled validator of error severity
finds anything, whichever of them abort; and each built-in check finds nothing just in case one
property of the graph holds.
-/

namespace ContactFlow

namespace Pipeline

variable {g : Graph} {p q : Pipeline} {v : Validator}

/-- The graph passes: the run is not aborted and its report has no errors. -/
def Accepts (p : Pipeline) (g : Graph) : Prop := ∃ report, p.run g = .ok report ∧ report.ok = true

theorem isError_run (v : Validator) (g : Graph) :
    (v.run g).any Finding.isError = true ↔ v.severity = .error ∧ v.check g ≠ [] := by
  have severity : ∀ f ∈ v.run g, f.severity = v.severity := by
    intro f member
    obtain ⟨remark, _, rfl⟩ := List.mem_map.1 member
    rfl
  rw [List.any_eq_true]
  constructor
  · rintro ⟨f, member, fault⟩
    refine ⟨?_, fun empty => ?_⟩
    · rw [← severity f member]
      simpa [Finding.isError] using fault
    · rw [Validator.run, empty] at member
      cases member
  · rintro ⟨strict, found⟩
    obtain ⟨remark, member⟩ := List.exists_mem_of_ne_nil _ found
    refine ⟨_, List.mem_map_of_mem member, ?_⟩
    simp [Finding.isError, strict]

theorem errors_nil {found : List Finding} :
    (Report.mk found).ok = true ↔ found.any Finding.isError = false := by
  simp [Report.ok, Report.errors, Finding.isError, List.filter_eq_nil_iff]

theorem runFrom_clean (vs : List Validator) :
    (∃ found, runFrom g vs = .ok found ∧ found.any Finding.isError = false) ↔
      ∀ v ∈ vs, v.severity = .error → v.check g = [] := by
  induction vs with
  | nil => simp [runFrom]
  | cons v rest ih =>
    rw [runFrom, List.forall_mem_cons, ← ih]
    have here : (v.run g).any Finding.isError = false ↔ (v.severity = .error → v.check g = []) := by
      rw [← Bool.not_eq_true, isError_run]
      simp
    cases fault : (v.run g).any Finding.isError with
    | true =>
      rw [fault] at here
      have refused : ¬ (v.severity = .error → v.check g = []) := by simpa using here
      constructor
      · rintro ⟨found, ran, clean⟩
        simp only [Bool.and_true] at ran
        split at ran
        · cases ran
        · obtain ⟨more, _, rfl⟩ := Results.map_eq_ok.1 ran
          rw [List.any_append, fault] at clean
          cases clean
      · exact fun both => absurd both.1 refused
    | false =>
      have passed := here.1 fault
      simp only [Bool.and_false, Bool.false_eq_true, if_false]
      constructor
      · rintro ⟨found, ran, clean⟩
        obtain ⟨more, later, rfl⟩ := Results.map_eq_ok.1 ran
        rw [List.any_append, fault, Bool.false_or] at clean
        exact ⟨passed, more, later, clean⟩
      · rintro ⟨_, more, later, clean⟩
        refine ⟨_, Results.map_eq_ok.2 ⟨more, later, rfl⟩, ?_⟩
        rw [List.any_append, fault, clean, Bool.false_or]

/-- A graph passes when no enabled validator of error severity finds anything in it. -/
theorem accepts_iff : p.Accepts g ↔ ∀ v ∈ p.enabled, v.severity = .error → v.check g = [] := by
  rw [← runFrom_clean]
  constructor
  · rintro ⟨report, ran, clean⟩
    obtain ⟨found, same, rfl⟩ := Results.map_eq_ok.1 ran
    exact ⟨found, same, errors_nil.1 clean⟩
  · rintro ⟨found, ran, clean⟩
    exact ⟨⟨found⟩, Results.map_eq_ok.2 ⟨found, ran, rfl⟩, errors_nil.2 clean⟩

theorem disableAll_ok {ids : List String} (done : p.disableAll ids = .ok q) :
    q.validators = p.validators ∧ ∀ id, id ∈ q.disabled ↔ id ∈ p.disabled ∨ id ∈ ids := by
  induction ids generalizing p with
  | nil =>
    cases done
    simp
  | cons first rest ih =>
    obtain ⟨r, disabled, done⟩ := Results.bind_eq_ok.1 done
    obtain ⟨_, _, rfl⟩ := Results.map_eq_ok.1 disabled
    obtain ⟨same, members⟩ := ih done
    by_cases known : first ∈ p.disabled
    · rw [if_pos (List.contains_iff_mem.2 known)] at same members
      refine ⟨same, fun id => (members id).trans ?_⟩
      rw [List.mem_cons, ← or_assoc]
      have absorbed : id ∈ p.disabled ∨ id = first ↔ id ∈ p.disabled :=
        or_iff_left_of_imp fun here => here ▸ known
      rw [absorbed]
    · rw [if_neg fun found => known (List.contains_iff_mem.1 found)] at same members
      refine ⟨same, fun id => (members id).trans ?_⟩
      rw [List.mem_append, List.mem_singleton, List.mem_cons, or_assoc]

/-- The validators that the settings leave enabled. -/
theorem mem_enabled {s : Settings} (made : ofSettings s = .ok p) :
    v ∈ p.enabled ↔ v ∈ (configured s).validators ∧ v.id ∉ s.disabledValidators := by
  obtain ⟨validators, disabled⟩ := disableAll_ok made
  have fresh : (configured s).disabled = [] := rfl
  rw [enabled, List.mem_filter, validators, Bool.not_eq_true', ← Bool.not_eq_true,
    List.contains_iff_mem, disabled, fresh]
  simp

end Pipeline

namespace Check

variable {g : Graph} {n : Node} {id : String}

theorem nonEmpty_eq_nil : nonEmpty g = [] ↔ g.nodes ≠ [] := by
  unfold nonEmpty
  cases g.nodes with
  | nil => simp
  | cons e rest => simp

theorem misplaced_eq_nil {key : String} : misplaced key n = [] ↔ key = n.id := by
  unfold misplaced
  split
  · simpa
  · simpa

theorem uniqueIdsFrom_eq_nil {seen : List (String × String)} {l : List (String × Node)} :
    uniqueIdsFrom seen l = [] ↔ (∀ e ∈ l, e.1 = e.2.id) ∧ (l.map (·.2.id)).Nodup ∧
      ∀ e ∈ l, e.2.id ∉ Ordered.keys seen := by
  induction l generalizing seen with
  | nil => simp [uniqueIdsFrom]
  | cons e rest ih =>
    obtain ⟨key, n⟩ := e
    rw [uniqueIdsFrom, List.append_eq_nil_iff, misplaced_eq_nil, List.map_cons, List.nodup_cons,
      List.forall_mem_cons, List.forall_mem_cons]
    cases met : seen.lookup n.id with
    | some first =>
      have known : n.id ∈ Ordered.keys seen := by
        rw [← Ordered.lookup_isSome, met]
        rfl
      simp [known]
    | none =>
      have new : n.id ∉ Ordered.keys seen := by
        rw [← Ordered.lookup_isSome, met]
        simp
      have further : Ordered.keys (seen ++ [(n.id, key)]) = Ordered.keys seen ++ [n.id] := by
        simp [Ordered.keys]
      have apart : n.id ∉ rest.map (·.2.id) ↔ ∀ e ∈ rest, e.2.id ≠ n.id := by
        simp [List.mem_map]
      simp only [ih, further, List.mem_append, List.mem_singleton, not_or, new, not_false_eq_true,
        true_and, apart, forall_and]
      tauto

/-- Identifiers are in order when every node stands under its own. Keys are distinct anyway. -/
theorem uniqueIds_eq_nil (distinct : g.keys.Nodup) :
    uniqueIds g = [] ↔ ∀ e ∈ g.nodes, e.1 = e.2.id := by
  rw [uniqueIds, uniqueIdsFrom_eq_nil]
  constructor
  · exact fun all => all.1
  · intro named
    refine ⟨named, ?_, fun _ _ => List.not_mem_nil⟩
    have same : g.nodes.map (·.2.id) = g.keys :=
      List.map_congr_left fun e member => (named e member).symm
    rw [same]
    exact distinct

theorem entryPoint_eq_nil : entryPoint g = [] ↔ ∃ id ∈ g.keys, g.entry = some id := by
  unfold entryPoint
  cases g.entry with
  | none => simp
  | some id =>
    by_cases key : id ∈ g.keys
    · simp [key, Graph.isKey_iff.2 key]
    · simp [key, Graph.isKey_iff]

theorem reachability_eq_nil : reachability g = [] ↔ ∀ id ∈ g.keys, id ∈ g.walk := by
  simp [reachability, List.filter_eq_nil_iff]

theorem unlinked_eq_zero {t : Transitions} : t.unlinked = 0 ↔
    (∀ e ∈ t.conditions, e.target ≠ none) ∧ ∀ e ∈ t.errors, e.target ≠ none := by
  simp [Transitions.unlinked, Transitions.unlinkedConditions, Transitions.unlinkedErrors,
    List.filter_eq_nil_iff]

theorem danglingTransitions_eq_nil : danglingTransitions g = [] ↔
    ∀ n ∈ g.toList, (∀ target ∈ n.transitions.targets, target ∈ g.keys) ∧
      n.transitions.unlinked = 0 := by
  simp only [danglingTransitions, List.flatMap_eq_nil_iff, danglingAt, List.append_eq_nil_iff,
    List.map_eq_nil_iff, List.filter_eq_nil_iff, List.replicate_eq_nil_iff, Bool.not_eq_true',
    Bool.not_eq_false, Graph.isKey_iff]

theorem terminalPresent_eq_nil : terminalPresent g = [] ↔
    ∃ id ∈ g.walk, ∃ n, g.get? id = some n ∧ n.kind.isTerminal = true := by
  have terminal (id : String) : isTerminalKey g id = true ↔
      ∃ n, g.get? id = some n ∧ n.kind.isTerminal = true := by
    unfold isTerminalKey
    cases g.get? id with
    | none => simp
    | some n => simp
  unfold terminalPresent
  split
  · rename_i some
    simpa [terminal] using some
  · rename_i none
    simpa [terminal] using none

theorem invocationAt_eq_nil : invocationAt n = [] ↔ (n.kind = .invokeExternal →
    ∃ address, Table.get? n.parameters "LambdaFunctionARN" = some (.text address) ∧
      Text.blank address = false) := by
  unfold invocationAt
  by_cases external : n.kind = .invokeExternal
  · simp only [external, bne_self_eq_false, Bool.false_eq_true, if_false, true_implies]
    generalize Table.get? n.parameters "LambdaFunctionARN" = address
    constructor
    · intro passed
      split at passed
      · cases passed
      · split at passed
        · rename_i address?
          unfold isAddress at address?
          split at address?
          · exact ⟨_, rfl, by simpa using address?⟩
          · cases address?
        · cases passed
    · rintro ⟨text, rfl, filled⟩
      have plain : ((Option.some (Value.text text)).map Value.references).getD [] = [] := rfl
      rw [plain]
      simp [isAddress, filled]
  · simp [external]

theorem externalInvocation_eq_nil : externalInvocation g = [] ↔
    ∀ n ∈ g.toList, n.kind = .invokeExternal →
      ∃ address, Table.get? n.parameters "LambdaFunctionARN" = some (.text address) ∧
        Text.blank address = false := by
  simp only [externalInvocation, List.flatMap_eq_nil_iff, invocationAt_eq_nil]

theorem terminalTransitions_eq_nil : terminalTransitions g = [] ↔
    ∀ n ∈ g.toList, n.kind.isTerminal = true → n.transitions.next = none := by
  rw [terminalTransitions, List.flatMap_eq_nil_iff]
  refine forall₂_congr fun n _ => ?_
  unfold terminalTransitionsAt
  cases n.kind.isTerminal with
  | false => simp
  | true =>
    cases n.transitions.next with
    | none => simp
    | some next => simp

end Check

/-! ### The walk

What the two checks that rest on the walk report, of any graph at all and at any severity. The one
names the keys that cannot be reached, the other finds no terminal node among those that can.
-/

namespace Graph

variable {g : Graph} {id : String}

/-- The keys that the walk does not come to, in the order of the graph. -/
def unreached (g : Graph) : List String := g.keys.filter fun key => !g.walk.contains key

theorem mem_unreached : id ∈ g.unreached ↔ id ∈ g.keys ∧ ¬ g.Reachable id := by
  rw [unreached, List.mem_filter, Bool.not_eq_true', ← Bool.not_eq_true, List.contains_iff_mem,
    mem_walk, not_and]
  exact and_congr_right fun key => ⟨fun away => away key, fun away _ => away⟩

/-- A terminal node of the graph can be reached. -/
def Ends (g : Graph) : Prop :=
  ∃ id n, g.Reachable id ∧ g.get? id = some n ∧ n.kind.isTerminal = true

/-- The finding that a key cannot be reached. -/
def notReached (g : Graph) (severity : Severity) (key : String) : Finding where
  validator := "reachability"
  message := "Action '" ++ key ++ "' is not reachable from entry '" ++ g.entryText ++ "'"
  node := some key
  severity := severity

/-- The finding that no terminal node can be reached. -/
def endless (g : Graph) (severity : Severity) : Finding where
  validator := "terminal-present"
  message := "No path from entry '" ++ g.entryText ++
    "' reaches a terminal action (disconnect, end or transfer)"
  severity := severity

end Graph

theorem Check.terminalPresent_eq_nil_iff {g : Graph} : terminalPresent g = [] ↔ g.Ends := by
  rw [terminalPresent_eq_nil]
  constructor
  · rintro ⟨id, member, n, found, terminal⟩
    exact ⟨id, n, (Graph.mem_walk.1 member).2, found, terminal⟩
  · rintro ⟨id, n, reachable, found, terminal⟩
    exact ⟨id, Graph.mem_walk.2 ⟨Graph.key_of_found found, reachable⟩, n, found, terminal⟩

namespace Validator

variable {g : Graph}

theorem run_reachability (g : Graph) (severity : Severity) :
    { reachability with severity }.run g = g.unreached.map (g.notReached severity) := by
  simp only [run, reachability, Check.reachability, List.map_map, Graph.unreached]
  exact List.map_congr_left fun key _ => rfl

theorem run_terminalPresent_of_ends (ends : g.Ends) (severity : Severity) :
    { terminalPresent with severity }.run g = [] := by
  simp only [run, terminalPresent]
  rw [Check.terminalPresent_eq_nil_iff.2 ends, List.map_nil]

theorem run_terminalPresent_of_endless (endless : ¬ g.Ends) (severity : Severity) :
    { terminalPresent with severity }.run g = [g.endless severity] := by
  have found : Check.terminalPresent g ≠ [] := mt Check.terminalPresent_eq_nil_iff.1 endless
  unfold Check.terminalPresent at found
  split at found
  · exact absurd rfl found
  · rename_i missing
    simp only [run, terminalPresent, Check.terminalPresent]
    rw [if_neg missing]
    rfl

/-- The walk ends for every graph, with the keys that can be reached from the entry, each once. The
keys that are left over are reported in their order, and a finding says if no terminal node is among
those reached. -/
theorem reports_of_walk (g : Graph) (distinct : g.keys.Nodup) (severity : Severity) :
    (∀ entry ∈ g.keys, g.entry = some entry →
      ∀ last, g.Drains [entry] [entry] last ↔ last = g.walk) ∧
    ((∀ entry ∈ g.keys, g.entry ≠ some entry) → g.walk = []) ∧
    g.walk.Nodup ∧
    (∀ id, id ∈ g.walk ↔ id ∈ g.keys ∧ g.Reachable id) ∧
    (∃ unreached : List String, unreached.Sublist g.keys ∧ unreached.Nodup ∧
      (∀ id, id ∈ unreached ↔ id ∈ g.keys ∧ ¬ g.Reachable id) ∧
      { reachability with severity }.run g = unreached.map (g.notReached severity)) ∧
    (g.Ends → { terminalPresent with severity }.run g = []) ∧
    (¬ g.Ends → { terminalPresent with severity }.run g = [g.endless severity]) := by
  refine ⟨?ends, Graph.walk_of_no_entry, g.nodup_walk, fun id => Graph.mem_walk, ?left,
    fun ends => run_terminalPresent_of_ends ends severity,
    fun endless => run_terminalPresent_of_endless endless severity⟩
  case ends =>
    intro entry key starts last
    have drained := Graph.walk_drains starts key
    constructor
    · exact fun ended => drained.unique ended
    · rintro rfl
      exact drained
  case left =>
    exact ⟨g.unreached, List.filter_sublist, distinct.filter _, fun id => Graph.mem_unreached,
      run_reachability g severity⟩

/-- A flow that goes round for ever. One of its nodes stands under a key not its own, one of its
targets is missing, and nothing leads to where the contact would end. -/
def endlessRound : Graph :=
  .ofNodes "Round" (some "first")
    [("first", { id := "greeting", kind := .message, transitions := { next := some "second" } }),
      ("end", { id := "end", kind := .disconnect }),
      ("second",
        { id := "second", kind := .checkHours
          transitions :=
            { conditions := [⟨.equals "True", some "first"⟩, ⟨.equals "False", some "greeting"⟩] } })]

theorem reports_of_endless_round : endlessRound.keys.Nodup ∧
    endlessRound.walk = ["first", "second"] ∧
    endlessRound.Drains ["first"] ["first"] ["first", "second"] ∧
    ¬ endlessRound.Reachable "end" ∧ ¬ endlessRound.Ends := by
  have distinct : endlessRound.keys.Nodup := by decide
  obtain ⟨ended, _, _, walked, _, ends, _⟩ := reports_of_walk endlessRound distinct .error
  have walk : endlessRound.walk = ["first", "second"] := by decide
  refine ⟨distinct, walk, (ended "first" (by decide) rfl _).2 walk.symm, ?_, ?_⟩
  · exact fun reached => absurd ((walked "end").2 ⟨by decide, reached⟩) (by decide)
  · exact fun terminal => absurd (ends terminal) (by decide)

end Validator

end ContactFlow
