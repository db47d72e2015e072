import ContactFlow.Decimal.Spelling
import ContactFlow.Proofs.Built
import ContactFlow.Proofs.Compiled
import ContactFlow.Proofs.Ordered
import ContactFlow.Proofs.Origins
import ContactFlow.Usage
import Mathlib.Data.List.Find

/-!
Comparisons with attributes that are set on the way. A trace takes no outcome there: the value that
the attribute was last set to leads along the first condition that has it among its operands. The
operator of the condition has no part in that. So the value leads where it should as long as the
operators ask for equality, and not in general when they compare numbers or parts of texts.
-/

namespace ContactFlow

open Trace (State)

/-! ### Operators -/

/-- Two texts that are whole numbers stand in a relation. -/
def numerically (related : Int → Int → Bool) (value operand : String) : Bool :=
  match Spelling.whole 10 value, Spelling.whole 10 operand with
  | .ok m, .ok n => related m n
  | _, _ => false

/-- What an operator asks of a value and its operand. -/
def relation? : String → Option (String → String → Bool)
  | "Equals" => some fun value operand => value == operand
  | "NumberGreaterThan" => some (numerically fun m n => n < m)
  | "NumberGreaterOrEqualTo" => some (numerically fun m n => n ≤ m)
  | "NumberLessThan" => some (numerically fun m n => m < n)
  | "NumberLessOrEqualTo" => some (numerically fun m n => m ≤ n)
  | "TextStartsWith" => some fun value operand => operand.toList.isPrefixOf value.toList
  | "TextEndsWith" => some fun value operand => operand.toList.isSuffixOf value.toList
  | "TextContains" => some fun value operand => Value.isPart operand.toList value.toList
  | _ => none

/-- The operators that branches may have are those that ask something. -/
theorem relation?_isSome (operator : String) :
    (relation? operator).isSome ↔ operator ∈ comparisonOperators := by
  unfold relation?
  split
  all_goals simp_all [comparisonOperators]

namespace Guard

/-- The operator of a comparison holds between a value and one of the operands. -/
def holds (value : String) : Guard → Bool
  | .compare operator operands => match relation? operator with
    | some related => operands.any fun o => match o with
      | .text operand => related value operand
      | _ => false
    | none => false
  | .input .. => false

def IsEquality : Guard → Prop
  | .compare operator _ => operator = "Equals"
  | .input .. => False

/-- A comparison by equality holds for its operands. -/
theorem IsEquality.holds_eq {g : Guard} (equality : g.IsEquality) (value : String) :
    g.holds value = g.operands.contains (.text value) := by
  cases g with
  | input => cases equality
  | compare operator operands =>
    cases equality
    have same (o : Scalar) : (match o with
        | .text operand => value == operand
        | _ => false) = (o == Scalar.text value) := by
      cases o <;> simp [Bool.beq_comm]
    simp only [holds, relation?, same, Guard.operands, List.any_beq']

end Guard

namespace Transitions

/-- The target of the first condition that holds for a value, or else of the edge for no match. -/
def decided (t : Transitions) (value : String) : Option (Option String) :=
  match t.conditions.find? (·.guard.holds value) with
  | some e => some e.target
  | none => Way.byError .noMatch t.ways

/-- The operators have no part in where a value leads. -/
theorem byAttribute_ways (t : Transitions) (value : String) :
    Way.byAttribute value t.ways =
      (match t.conditions.find? (·.guard.operands.contains (.text value)) with
      | some e => some e.target
      | none => Way.byError .noMatch t.ways) := by
  rw [Way.byAttribute, byOperand_ways]
  cases t.conditions.find? (·.guard.operands.contains (.text value)) <;> rfl

/-- If all conditions ask for equality, a value leads where they decide. -/
theorem byAttribute_eq_decided {t : Transitions}
    (equalities : ∀ e ∈ t.conditions, e.guard.IsEquality) (value : String) :
    Way.byAttribute value t.ways = t.decided value := by
  have same : t.conditions.find? (·.guard.operands.contains (.text value)) =
      t.conditions.find? (·.guard.holds value) := by
    apply List.find?_congr
    intro e member
    exact ((equalities e member).holds_eq value).symm
  rw [byAttribute_ways, same]
  rfl

end Transitions

/-! ### Attributes along a path -/

/-- What a visit of a node sets an attribute to, if it sets it: of several values the last one. -/
def Node.assigns (n : Node) (name : String) : Option String :=
  if n.kind = .setAttributes then
    n.sets.toOption.bind fun added => (added.reverse.lookup (.text name)).map Value.display
  else none

/-- The value that an attribute has after the visits of a path, if one of them sets it. -/
def Graph.valueAfter (g : Graph) (name : String) (path : List String) : Option String :=
  path.foldl (fun known id => ((g.get? id).bind (·.assigns name)).or known) none

theorem Site.lookup_record {attributes attributes' : List (Scalar × String)} {added : Table}
    (recorded : record attributes added = .ok attributes') (k : Scalar) :
    attributes'.lookup k = ((added.reverse.lookup k).map Value.display).or (attributes.lookup k) := by
  induction added generalizing attributes with
  | nil =>
    cases recorded
    simp
  | cons e rest ih =>
    obtain ⟨k', v⟩ := e
    obtain ⟨next, put, recorded⟩ := Results.bind_eq_ok.1 recorded
    simp only at put
    split at put
    · cases put
      rw [ih recorded, List.reverse_cons, List.lookup_append]
      by_cases here : k = k'
      · subst here
        rw [Ordered.lookup_put_self]
        cases rest.reverse.lookup k <;> simp
      · rw [Ordered.lookup_put_other here, Ordered.lookup_cons_other here]
        cases rest.reverse.lookup k <;> simp
    · cases put

namespace Node

variable {n : Node} {s s' : State} {target : Value}

/-- A node that sets no attributes leaves them as they were. -/
theorem attributes_of_move (other : n.kind ≠ .setAttributes)
    (moved : n.site.move n.id s = .ok (.go target s')) : s'.attributes = s.attributes := by
  obtain ⟨_, ⟨sets, next, _, site, _⟩ | ⟨_, _, _, rfl | ⟨_, _, rfl⟩⟩ | ⟨_, _, _, _, _, rfl⟩⟩ :=
    Site.move_go moved
  · have sets_none : sets = .ok [] := by
      unfold Node.site at site
      split at site
      · cases site
      split at site
      · cases site
      split at site
      · cases site
      · cases site
        rfl
    rw [site, sets_none] at moved
    cases next with
    | none => cases moved
    | some next =>
      cases moved
      rfl
  · rfl
  · rfl
  · rfl

/-- A visit of a node leaves an attribute as the node sets it, or as it was. -/
theorem lookup_of_move (moved : n.site.move n.id s = .ok (.go target s')) (name : String) :
    s'.attributes.lookup (.text name) =
      (n.assigns name).or (s.attributes.lookup (.text name)) := by
  by_cases sets : n.kind = .setAttributes
  · have site : n.site = .goes n.sets n.transitions.next := by
      simp [Node.site, sets, ActionKind.isTerminal, ActionKind.isBranching]
    rw [site] at moved
    generalize read : n.sets = added at moved
    generalize n.transitions.next = next at moved
    cases Site.moves_of_move moved with
    | goes recorded =>
      rw [assigns, if_pos sets, read]
      exact Site.lookup_record recorded _
  · rw [assigns, if_neg sets, attributes_of_move sets moved]
    rfl

/-- A comparison with a known value takes no outcome. Its value leads along its ways. -/
theorem move_compare {name value : String} (kind : n.kind = .checkAttribute)
    (compared : n.compared = .ok (some name))
    (known : s.attributes.lookup (.text name) = some value) :
    n.site.move n.id s = (match Way.byAttribute value n.transitions.ways with
      | some target => .ok (.go (.orNull target) s)
      | none => .error (.unmatchedAttribute value (.text n.id))) := by
  have site : n.site = .forks (.ok (some name)) n.transitions.ways := by
    simp [Node.site, kind, compared, ActionKind.isTerminal, ActionKind.isBranching]
  rw [site]
  simp only [Site.move, Results.ok_bind, Option.bind_some, known]
  cases Way.byAttribute value n.transitions.ways <;> rfl

end Node

namespace Graph

variable {g : Graph} {steps : Nat} {s s' : State} {target target' : Option String} {t : Trace}

theorem Leads.lookup (tidy : g.Tidy) {path : List String}
    (leads : g.Leads target s path target' s') (name : String) : s'.attributes.lookup (.text name) =
      path.foldl (fun known id => ((g.get? id).bind (·.assigns name)).or known)
        (s.attributes.lookup (.text name)) := by
  induction leads with
  | here => rfl
  | visit found moved _ ih =>
    obtain ⟨_, rfl⟩ := (get?_eq_some tidy).1 found
    rw [ih, List.foldl_cons, found, Node.lookup_of_move moved]
    rfl

/-- The visits of a trace that comes through are a path of nodes. The nodes before each of them lead to
it, and the trace goes on from there. -/
theorem follow_split (tidy : g.Tidy) (followed : g.follow steps target s = .ok t) :
    ∃ path : List String, t.visited = s.visited.reverse ++ path.map .text ∧
      (∀ id ∈ path.head?, target = some id) ∧
      ∀ before id after, path = before ++ id :: after → ∃ s' rest,
        g.Leads target s before (some id) s' ∧ g.follow (rest + 1) (some id) s' = .ok t := by
  induction steps generalizing target s with
  | zero =>
    cases followed
    refine ⟨[], by simp [State.ended], by simp, ?_⟩
    intro before id after split
    simp at split
  | succ steps ih =>
    obtain ⟨n, member, rfl, ⟨why, stopped, rfl⟩ | ⟨next, s', moved, onward⟩⟩ := follow_ok followed
    · refine ⟨[n.id], by simp [State.ended, State.visit], by simp, ?_⟩
      intro before id after split
      cases before with
      | nil =>
        cases split
        exact ⟨s, steps, .here _ _, followed⟩
      | cons b rest => simp at split
    · obtain ⟨path, visited, _, splits⟩ := ih onward
      refine ⟨n.id :: path, ?_, by simp, ?_⟩
      · rw [visited, move_visited moved]
        simp [State.visit]
      · intro before id after split
        cases before with
        | nil =>
          cases split
          exact ⟨s, steps, .here _ _, followed⟩
        | cons b before =>
          cases split
          obtain ⟨s'', rest, leads, followed⟩ := splits before id after rfl
          exact ⟨s'', rest, .visit ((get?_eq_some tidy).2 ⟨member, rfl⟩) moved leads, followed⟩

/-- A trace that is at a comparison with a known value goes on along the ways of the node, with the
state that it came with. -/
theorem follow_compare (tidy : g.Tidy) {n : Node} (member : n ∈ g.toList)
    (kind : n.kind = .checkAttribute) {name value : String} (compared : n.compared = .ok (some name))
    (known : s.attributes.lookup (.text name) = some value) (steps : Nat) :
    g.follow (steps + 1) (some n.id) s = (match Way.byAttribute value n.transitions.ways with
      | some target => g.follow steps target (s.visit n.id)
      | none => .error (.unmatchedAttribute value (.text n.id))) := by
  have moved := Node.move_compare (s := s.visit n.id) kind compared known
  rw [follow_succ tidy ((get?_eq_some tidy).2 ⟨member, rfl⟩), moved]
  cases Way.byAttribute value n.transitions.ways <;> rfl

end Graph

/-- What a trace of a document does at a comparison. It goes along the way of the value, and of two
traces that are cut off before and after the visit the second one has taken no more outcomes. -/
structure Document.Compares (document : Value) (outcomes : List String) (n : Node) (value : String)
    (before after : List String) : Prop where
  route : ∃ target, Way.byAttribute value n.transitions.ways = some target ∧
    ∀ next ∈ after.head?, target = some next
  untaken : ∃ t t', trace document outcomes before.length = .ok t ∧
    trace document outcomes (before.length + 1) = .ok t' ∧
    t.visited = before.map .text ∧ t'.visited = (before ++ [n.id]).map .text ∧
    t'.consumed = t.consumed

theorem Scalar.text_injective : Function.Injective Scalar.text := fun _ _ => Scalar.text.inj

/-- A trace of a graph's document, at each of its visits of a comparison whose attribute is set. -/
theorem Graph.compares_of_trace {g : Graph} (tidy : g.Tidy) (version : Value) (more : Table)
    {outcomes : List String} {maxSteps : Nat} {t : Trace}
    (traced : trace (Document.ofGraph g version more) outcomes maxSteps = .ok t) :
    ∃ path : List String, t.visited = path.map .text ∧
      ∀ n ∈ g.toList, ∀ name value before after, n.kind = .checkAttribute →
        n.compared = .ok (some name) → path = before ++ n.id :: after →
        g.valueAfter name before = some value →
          Document.Compares (Document.ofGraph g version more) outcomes n value before after := by
  rw [trace_ofGraph] at traced
  obtain ⟨path, visited, _, splits⟩ := follow_split tidy traced
  refine ⟨path, visited, ?_⟩
  rintro n member name value before after kind compared rfl set
  obtain ⟨s, rest, leads, followed⟩ := splits before n.id after rfl
  have known : s.attributes.lookup (.text name) = some value := by
    rw [leads.lookup tidy name]
    exact set
  have passed := leads.visited
  rw [List.append_nil] at passed
  have cut (steps : Nat) := leads.follow tidy steps
  have step (steps : Nat) := follow_compare tidy member kind compared known steps
  -- without a way for the value the trace would have failed at the node
  cases route : Way.byAttribute value n.transitions.ways with
  | none =>
    rw [step, route] at followed
    cases followed
  | some target =>
    simp only [route] at step
    refine ⟨⟨target, route, ?_⟩, ?_⟩
    · rw [step] at followed
      obtain ⟨path', visited', starts, _⟩ := follow_split tidy followed
      have same : after = path' := by
        have whole : (before ++ n.id :: after).map Scalar.text =
            (before ++ n.id :: path').map Scalar.text := by
          simpa [State.visit, passed, visited] using visited'
        simpa using Scalar.text_injective.list_map whole
      exact same ▸ starts
    · refine ⟨s.ended .maxSteps, (s.visit n.id).ended .maxSteps, ?_, ?_, ?_, ?_, rfl⟩
      · rw [trace_ofGraph]
        exact cut 0
      · rw [trace_ofGraph]
        exact (cut 1).trans (step 0)
      · simp [State.ended, passed]
      · simp [State.ended, State.visit, passed]

namespace Compiler

variable {w : Workspace} {c : Compiler} {flow : Flow}

/-- In a trace of a compiled flow every comparison with an attribute that was set before is decided by
its value. The first condition with the value among its operands is taken, which is the first one that
holds if all conditions of the node ask for equality. -/
theorem decided_by_operand (built : w.Built) (compiled : c.compile w.graph = .ok flow) :
    ∃ expanded version more, flow.document = Document.ofGraph expanded version more ∧
      expanded.Tidy ∧
      (∀ n ∈ w.graph.toList, n.kind ≠ .collectInput → c.registry.resolveNode n ∈ expanded.toList) ∧
      ∀ outcomes maxSteps t, trace flow.document outcomes maxSteps = .ok t →
        ∃ path : List String, t.visited = path.map .text ∧
          ∀ n ∈ expanded.toList, ∀ name value before after, n.kind = .checkAttribute →
            n.compared = .ok (some name) → path = before ++ n.id :: after →
              expanded.valueAfter name before = some value →
                Document.Compares flow.document outcomes n value before after ∧
                ((∀ e ∈ n.transitions.conditions, e.guard.IsEquality) →
                  ∃ target, n.transitions.decided value = some target ∧
                    ∀ next ∈ after.head?, target = some next) := by
  have orderly := built.orderly
  obtain ⟨staged, expanded, version, more, stages, written⟩ := compile_ok compiled
  have tidy := stages.tidy_expanded orderly.tidy
  rw [written]
  refine ⟨expanded, version, more, rfl, tidy, ?_, ?_⟩
  · intro n member other
    exact stages.kept orderly.tidy orderly.proper member other
  intro outcomes maxSteps t traced
  obtain ⟨path, visited, compares⟩ := Graph.compares_of_trace tidy version more traced
  refine ⟨path, visited, ?_⟩
  intro n member name value before after kind compared split set
  have here := compares n member name value before after kind compared split set
  refine ⟨here, ?_⟩
  intro equalities
  rw [← Transitions.byAttribute_eq_decided equalities]
  exact here.route

namespace Score

/-- A score is set, and compared with a number. -/
def workspace : Workspace :=
  let w : Workspace :=
    { flow := "score", graph := { name := "score" }, joins := #[{}],
      builders := #[{ cursor := 0 }] }
  let w := (Builder.append 0 (.setAttributes [(.text "score", .text "7")]) .null
    (.text "set_score") w).2
  let w := (Builder.appendBranching 0 (.checkAttribute (.text "score") (.text "Attributes")) .null
    (.text "check") w).2
  let w := (Builder.openBranch 0 (.compare (.text "NumberGreaterThan") (.text "5")) w).2
  let w := (Builder.append 1 .disconnect .null (.text "high") w).2
  let w := (Builder.openBranch 0 .otherwise w).2
  (Builder.append 2 .disconnect .null (.text "low") w).2

theorem built : workspace.Built := by
  have started : Workspace.start "score" = .ok _ := Workspace.start_named (by decide +kernel)
  refine .append (.openBranch (.append (.openBranch (.appendBranching (.append
    (.start started) ?_ _ _ _) ?_ _ _ _) ?_ _) ?_ _ _ _) ?_ _) ?_ _ _ _
  all_goals decide +kernel

end Score

/-- The score is compared without an outcome, and with a way that its value leads. -/
theorem decided_by_operand_score : ∃ flow t n, byDefault? Score.workspace.graph = some flow ∧
    trace flow.document [] 100 = .ok t ∧ n.id = "check" ∧ n.kind = .checkAttribute ∧
    Document.Compares flow.document [] n "7" ["set_score"] ["low"] := by
  have traced : ((byDefault? Score.workspace.graph).bind fun flow =>
      (trace flow.document [] 100).toOption) =
      some ⟨["set_score", "check", "low"].map .text, [], .terminal⟩ := by decide +kernel
  obtain ⟨flow, known, traced⟩ := Option.bind_eq_some_iff.1 traced
  obtain ⟨c, made, compiled⟩ := byDefault?_eq_some.1 known
  have traced := Results.toOption_eq_some.1 traced
  obtain ⟨expanded, version, more, _, tidy, kept, traces⟩ :=
    decided_by_operand Score.built compiled
  obtain ⟨pipeline, _, rfl⟩ := Results.map_eq_ok.1 made
  obtain ⟨path, visited, compares⟩ := traces [] 100 _ traced
  obtain rfl := Scalar.text_injective.list_map visited
  obtain ⟨m, setter, named, other, assigns⟩ : ∃ m ∈ Score.workspace.graph.toList,
      m.id = "set_score" ∧ m.kind ≠ .collectInput ∧
        (({} : Registry).resolveNode m).assigns "score" = some "7" := by decide +kernel
  obtain ⟨n, member, here, kind, compared⟩ : ∃ n ∈ Score.workspace.graph.toList,
      n.id = "check" ∧ n.kind = .checkAttribute ∧
        (({} : Registry).resolveNode n).compared.toOption = some (some "score") := by decide +kernel
  have value : expanded.valueAfter "score" ["set_score"] = some "7" := by
    have found : expanded.get? "set_score" = some (({} : Registry).resolveNode m) :=
      (Graph.get?_eq_some tidy).2 ⟨kept m setter other, named⟩
    simp [Graph.valueAfter, found, assigns]
  have compares := compares (({} : Registry).resolveNode n) (kept n member (by simp [kind])) "score"
    "7" ["set_score"] ["low"] kind (Results.toOption_eq_some.1 compared) (by simp [Registry.resolveNode, here])
    value
  exact ⟨flow, _, ({} : Registry).resolveNode n, known, traced, here, kind, compares.1⟩

/-- The score is above the number, and its trace goes on as if it was not. -/
theorem score_below : ∃ flow, byDefault? Score.workspace.graph = some flow ∧
    (trace flow.document [] 100).toOption =
      some ⟨["set_score", "check", "low"].map .text, [], .terminal⟩ ∧
    (Score.workspace.graph.get? "check").map (·.transitions.decided "7") =
      some (some (some "high")) := by
  have traced : ((byDefault? Score.workspace.graph).bind fun flow =>
      (trace flow.document [] 100).toOption) =
      some ⟨["set_score", "check", "low"].map .text, [], .terminal⟩ := by decide +kernel
  obtain ⟨flow, known, traced⟩ := Option.bind_eq_some_iff.1 traced
  exact ⟨flow, known, traced, by decide +kernel⟩

end Compiler

end ContactFlow
