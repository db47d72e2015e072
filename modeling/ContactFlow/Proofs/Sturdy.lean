import ContactFlow.Proofs.Asked
import ContactFlow.Proofs.Following
import ContactFlow.Proofs.Origins
import ContactFlow.Proofs.Prepared
import ContactFlow.Proofs.WellFormed
import Mathlib.Algebra.Group.Int.Defs

/-!
Flows that do not go wrong. If the loops of a flow go round whole numbers of times, the attributes
that are set can be written as text and every loop was closed, then the nodes of the compiled flow are
sturdy: a trace ends, or it is stuck at an outcome or at the value of an attribute. The calls that make
the flow may come in any order.
-/

namespace ContactFlow

namespace Value

variable {f : Reference → Value}

mutual

/-- What stands for a reference is the only thing that is new. -/
theorem isWritable_mapReferences (texts : ∀ r, (f r).isWritable = true) :
    ∀ v : Value, (v.mapReferences f).isWritable = v.isWritable
  | .scalar _ => rfl
  | .list items => listWritable_mapReferences texts items
  | .table entries => tableWritable_mapReferences texts entries
  | .reference r => texts r
  | .bundle .. => rfl
  | .cycle _ => rfl

theorem listWritable_mapReferences (texts : ∀ r, (f r).isWritable = true) :
    ∀ items : List Value, listWritable (mapListReferences f items) = listWritable items
  | [] => rfl
  | v :: rest => by
    rw [mapListReferences, listWritable, isWritable_mapReferences texts v,
      listWritable_mapReferences texts rest, listWritable]

theorem tableWritable_mapReferences (texts : ∀ r, (f r).isWritable = true) :
    ∀ entries : List (Scalar × Value),
      tableWritable (mapTableReferences f entries) = tableWritable entries
  | [] => rfl
  | (k, v) :: rest => by
    rw [mapTableReferences, tableWritable, isWritable_mapReferences texts v,
      tableWritable_mapReferences texts rest, tableWritable]

end

/-- The values of a table can be written after their references were replaced, if they could before. -/
theorem entries_mapReferences (texts : ∀ r, (f r).isWritable = true) {t : Table}
    (writable : ∀ e ∈ t, e.2.isWritable = true) :
    ∀ e ∈ mapTableReferences f t, e.2.isWritable = true := by
  induction t with
  | nil => exact fun e member => absurd member List.not_mem_nil
  | cons e rest ih =>
    obtain ⟨k, v⟩ := e
    rw [List.forall_mem_cons] at writable
    rw [mapTableReferences, List.forall_mem_cons]
    exact ⟨(isWritable_mapReferences texts v).trans writable.1, ih writable.2⟩

end Value

namespace Action

/-- A loop goes round a whole number of times, and attributes can be written as text. -/
def Definite : Action → Prop
  | .loop times => ∃ k : Int, times = .int k
  | .setAttributes t => ∀ e ∈ t, e.2.isWritable = true
  | _ => True

theorem writable_attributes {a : Action} (definite : a.Definite) (r : Registry) :
    ∀ e ∈ a.attributes r, e.2.isWritable = true := by
  cases a with
  | setAttributes t =>
    have resolved (ref : Reference) : (r.replacement ref).isWritable = true := by
      unfold Registry.replacement
      split
      · rfl
      · rfl
    exact Value.entries_mapReferences (fun _ => rfl)
      (Value.entries_mapReferences resolved definite)
  | _ => exact fun e member => absurd member List.not_mem_nil

end Action

/-! ### Nodes -/

/-- A condition that compares with a text is a way for it. -/
theorem Transitions.byOperand_equals {t : Transitions} {v : String}
    (among : .equals v ∈ t.guards) : Way.byOperand v t.ways ≠ none := by
  obtain ⟨e, member, guard⟩ := List.mem_map.1 among
  rw [byOperand_ways, Ne, Option.map_eq_none_iff, List.find?_eq_none]
  intro untaken
  refine untaken e member ?_
  rw [guard]
  simp [Guard.equals, Guard.operands]

/-- What validation finds out about the edges of a node. -/
theorem Check.lead {g : Graph} (clean : danglingTransitions g = []) {n : Node}
    (member : n ∈ g.toList) : Site.Lead (· ∈ g.keys) n.transitions.ways ∧
      ∀ id, n.transitions.next = some id → id ∈ g.keys := by
  obtain ⟨known, linked⟩ := danglingTransitions_eq_nil.1 clean n member
  obtain ⟨conditions, errors⟩ := unlinked_eq_zero.1 linked
  constructor
  · intro way among
    rcases List.mem_append.1 among with condition | error
    · obtain ⟨e, inside, rfl⟩ := List.mem_map.1 condition
      obtain ⟨id, target⟩ := Option.ne_none_iff_exists'.1 (conditions e inside)
      refine ⟨id, target, known id ?_⟩
      simp only [Transitions.targets, List.mem_append, List.mem_filterMap]
      exact .inl (.inr ⟨e, inside, target⟩)
    · obtain ⟨e, inside, rfl⟩ := List.mem_map.1 error
      obtain ⟨id, target⟩ := Option.ne_none_iff_exists'.1 (errors e inside)
      refine ⟨id, target, known id ?_⟩
      simp only [Transitions.targets, List.mem_append, List.mem_filterMap]
      exact .inr ⟨e, inside, target⟩
  · intro id next
    refine known id ?_
    simp [Transitions.targets, next]

namespace Node

variable {n : Node} {there : String → Prop}

theorem sturdy_input (input : n.kind = .collectInput)
    (lead : Site.Lead there n.transitions.ways) : n.site.Sturdy there := by
  have site : n.site = .forks (.ok none) n.transitions.ways := by
    simp [Node.site, input, ActionKind.isTerminal, ActionKind.isBranching]
  rw [site]
  exact .forks lead

/-- A node that was built is sturdy if the action that it is for is definite. -/
theorem Asked.sturdy (asked : n.Asked Action.Definite) (other : n.kind ≠ .collectInput)
    (rounds : n.kind = .loop → Workspace.Rounds [] n) (r : Registry)
    (lead : Site.Lead there n.transitions.ways)
    (next : ∀ id, n.transitions.next = some id → there id) :
    (r.resolveNode n).site.Sturdy there := by
  obtain ⟨a, d, definite, drafted, kind, parameters⟩ := asked
  have prepared : n.prepared r = r.resolveNode n := if_neg other
  have ways : (n.prepared r).transitions.ways = n.transitions.ways := by rw [prepared]; rfl
  rw [← prepared]
  by_cases terminal : a.kind.isTerminal = true
  · rw [Action.site_ends kind terminal]
    exact .ends
  by_cases loop : a.kind = .loop
  · cases a with
    | loop times =>
      obtain ⟨k, rfl⟩ := definite
      rw [Action.site_loops kind drafted parameters, ways]
      obtain ⟨again, out⟩ := rounds kind
      have done := out.resolve_right (by simp)
      exact .loops lead (Transitions.byOperand_equals again) (Transitions.byOperand_equals done)
    | _ => cases loop
  by_cases branching : a.kind.isBranching = true
  · have offers : a.offer ≠ .nothing := Action.offers_iff.2 ⟨branching, loop⟩
    rw [Action.site_forks kind drafted parameters offers, ways]
    exact .forks lead
  · rw [Action.site_goes kind drafted parameters terminal branching]
    exact .goes (Action.writable_attributes definite r) next

end Node

/-- What stands between an input and its handlers is sturdy. -/
theorem Looping.Between.sturdy {m : Node} {there : String → Prop} (between : Between m)
    (lead : Site.Lead there m.transitions.ways)
    (next : ∀ id, m.transitions.next = some id → there id) : m.site.Sturdy there := by
  cases between with
  | prompt kind _ =>
    have site : m.site = .goes (.ok []) m.transitions.next := by
      simp [Node.site, kind, ActionKind.isTerminal, ActionKind.isBranching]
    rw [site]
    exact .goes (by simp) next
  | marker kind failed parameters _ =>
    have site : m.site =
        .goes (.ok [(.text retryExitAttribute, .text failed.label)]) m.transitions.next := by
      simp [Node.site, kind, ActionKind.isTerminal, ActionKind.isBranching,
        Node.sets_mark parameters]
    rw [site]
    refine .goes (fun e member => ?_) next
    rw [List.mem_singleton.1 member]
    rfl
  | comparison kind parameters =>
    have site : m.site = .forks (.ok (some retryExitAttribute)) m.transitions.ways := by
      simp [Node.site, kind, ActionKind.isTerminal, ActionKind.isBranching,
        Node.compared_attribute parameters]
    rw [site]
    exact .forks lead
  | loop kind rounds entry exit positive writable parameters transitions =>
    have limit := Node.limit_loopCount (Int.le_of_lt positive) writable parameters
    have site : m.site = .loops (.ok rounds) m.transitions.ways := by
      simp [Node.site, kind, ActionKind.isTerminal, limit]
    rw [site]
    refine .loops lead ?_ ?_
    · refine Transitions.byOperand_equals ?_
      rw [transitions]
      exact List.mem_cons_self
    · refine Transitions.byOperand_equals ?_
      rw [transitions]
      exact List.mem_cons_of_mem _ List.mem_cons_self

namespace Compiler

variable {w : Workspace} {c : Compiler} {flow : Flow}

/-- A trace of a flow, all of whose loops were closed, does not go wrong: it comes through, or it is
stuck at a node, which it has come to. -/
theorem traces_of_composed (composed : Workspace.Composed Action.Definite w [])
    {registry : Registry} {settings : Settings} (made : ofSettings registry settings = .ok c)
    (entry : "entry-point" ∉ settings.disabledValidators)
    (dangling : "dangling-transitions" ∉ settings.disabledValidators)
    (compiled : c.compile w.graph = .ok flow) :
    ∃ expanded version more, flow.document = Document.ofGraph expanded version more ∧
      ∀ outcomes maxSteps, (∃ t, trace flow.document outcomes maxSteps = .ok t) ∨
        ∃ n ∈ expanded.toList, ∃ path s e, path.length < maxSteps ∧
          expanded.Leads expanded.entry { pending := outcomes.map .text } path (some n.id) s ∧
          n.site.Stuck n.id (s.visit n.id) e ∧
          trace flow.document outcomes maxSteps = .error e := by
  obtain ⟨orderly, asked, _, rounds⟩ := composed.fit
  obtain ⟨staged, expanded, version, more, stages, written, checked⟩ :=
    checked_of_compile made compiled
  have starts := checked Validator.entryPoint (by simp [Validator.builtin]) entry rfl
  have leads := checked Validator.danglingTransitions (by simp [Validator.builtin]) dangling rfl
  obtain ⟨first, there, begins⟩ := Check.entryPoint_eq_nil.1 starts
  have tidy := stages.tidy_expanded orderly.tidy
  -- a node of the expansion was built, or stands for an input, or between one and its handlers
  have sturdy : ∀ m ∈ expanded.toList, m.site.Sturdy (· ∈ expanded.keys) := by
    intro m member
    obtain ⟨lead, next⟩ := Check.lead leads member
    rcases stages.origin orderly.tidy orderly.proper member with ⟨n, built, other, rfl⟩ | input | between
    · exact (asked n built).sturdy other (rounds n built) c.registry lead next
    · exact Node.sturdy_input input lead
    · exact between.sturdy lead next
  refine ⟨expanded, version, more, written, fun outcomes maxSteps => ?_⟩
  rw [written, Graph.trace_ofGraph, begins]
  refine Graph.follow_sturdy tidy sturdy maxSteps there fun v among => ?_
  obtain ⟨o, _, rfl⟩ := List.mem_map.1 among
  exact ⟨o, rfl⟩

namespace Greeting

open Workspace (Session)

def opening : Workspace :=
  { flow := "greeting", graph := { name := "greeting" }, joins := #[{}],
    builders := #[{ cursor := 0 }] }

def setName (name : Value) : Action := .setAttributes [(.text "name", name)]

/-- A loop that sets an attribute in each round. The call ends after it. -/
def workspace (times name : Value) : Workspace :=
  let w := (Builder.openLoop 0 times .null (.text "again") opening).2
  let w := (Builder.append 1 (setName name) .null (.text "name") w).2
  let w := (Builder.closeLoop 0 ⟨"again", 0⟩ ⟨1, "loop body"⟩ w).2
  (Builder.append 0 .disconnect .null .null w).2

/-- What is left to be computed of a session that builds the flow. -/
def Builds (times name : Value) : Bool :=
  let opened := Builder.openLoop 0 times .null (.text "again") opening
  let named := (Builder.append 1 (setName name) .null (.text "name") opened.2).2
  let closed := Builder.closeLoop 0 ⟨"again", 0⟩ ⟨1, "loop body"⟩ named
  opened.1 == .ok (⟨"again", 0⟩, ⟨1, "loop body"⟩) && decide (1 < opened.2.builders.size) &&
    closed.1 == .ok () && decide (0 < closed.2.builders.size)

theorem session {asks : Action → Prop} {times name : Value} (loops : asks (.loop times))
    (sets : asks (setName name)) (ends : asks .disconnect) (builds : Builds times name = true) :
    Session asks (workspace times name) [] := by
  simp only [Builds, Bool.and_eq_true, beq_iff_eq, decide_eq_true_eq] at builds
  obtain ⟨⟨⟨opened, inner⟩, closed⟩, outer⟩ := builds
  have started : Workspace.start "greeting" = .ok opening :=
    Workspace.start_named (by decide +kernel)
  have idle := Workspace.free_nil 0
  have body : Workspace.Free [⟨0, ⟨"again", 0⟩, ⟨1, "loop body"⟩, false⟩] 1 := by
    intro l among here
    rw [List.mem_singleton.1 among] at here
    cases here
  have looping := Session.openLoop (.start started) (by decide) idle loops (Prod.ext opened rfl)
  have filled := Session.append looping inner body sets rfl ActionKind.noConfusion .null
    (.text "name")
  have done := Session.closeLoop filled List.mem_cons_self rfl body (Prod.ext closed rfl)
  rw [List.erase_cons_head] at done
  exact Session.append done outer idle ends rfl ActionKind.noConfusion .null .null

/-- Compiling succeeds, and the first trace stops at a number that cannot be read or written. -/
def GoesWrong (times name : Value) : Bool :=
  match byDefault? (workspace times name).graph with
  | some flow =>
    match trace flow.document [] 100 with
    | .error (.badCount _) => true
    | _ => false
  | none => false

theorem goesWrong (times name : Value) (builds : Builds times name = true)
    (wrong : GoesWrong times name = true) :
    ∃ flow message, Session (fun _ => True) (workspace times name) [] ∧
      byDefault? (workspace times name).graph = some flow ∧
      trace flow.document [] 100 = .error (.badCount message) := by
  unfold GoesWrong at wrong
  split at wrong
  · rename_i flow known
    split at wrong
    · rename_i message failed
      exact ⟨flow, message, session trivial trivial trivial builds, known, failed⟩
    · cases wrong
  · cases wrong

end Greeting

/-- With two rounds and a name for an attribute, the greeting does not go wrong. -/
theorem traces_of_greeting :
    ∃ flow expanded version more,
      byDefault? (Greeting.workspace (.int 2) (.text "Ada")).graph = some flow ∧
      flow.document = Document.ofGraph expanded version more ∧
      ∀ outcomes maxSteps, (∃ t, trace flow.document outcomes maxSteps = .ok t) ∨
        ∃ n ∈ expanded.toList, ∃ path s e, path.length < maxSteps ∧
          expanded.Leads expanded.entry { pending := outcomes.map .text } path (some n.id) s ∧
          n.site.Stuck n.id (s.visit n.id) e ∧
          trace flow.document outcomes maxSteps = .error e := by
  obtain ⟨flow, known⟩ := Option.isSome_iff_exists.1
    (show (byDefault? (Greeting.workspace (.int 2) (.text "Ada")).graph).isSome = true by
      decide +kernel)
  obtain ⟨c, made, compiled⟩ := byDefault?_eq_some.1 known
  have name : (Greeting.setName (.text "Ada")).Definite := by
    intro e member
    rw [List.mem_singleton.1 member]
    rfl
  have session : Workspace.Session Action.Definite (Greeting.workspace (.int 2) (.text "Ada")) [] :=
    Greeting.session ⟨2, rfl⟩ name trivial (by decide +kernel)
  obtain ⟨expanded, version, more, written, traces⟩ :=
    traces_of_composed session.composed made (by simp) (by simp) compiled
  exact ⟨flow, expanded, version, more, known, written, traces⟩

/-- A trace goes wrong where a loop counts to a truth value, and where an attribute is a number that
is too long to be written. -/
theorem greeting_gone_wrong :
    (∃ flow message, Workspace.Session (fun _ => True)
        (Greeting.workspace (.bool true) (.text "Ada")) [] ∧
      byDefault? (Greeting.workspace (.bool true) (.text "Ada")).graph = some flow ∧
      trace flow.document [] 100 = .error (.badCount message)) ∧
    ∃ flow message, Workspace.Session (fun _ => True)
        (Greeting.workspace (.int 1) (.int (10 ^ 4300))) [] ∧
      byDefault? (Greeting.workspace (.int 1) (.int (10 ^ 4300))).graph = some flow ∧
      trace flow.document [] 100 = .error (.badCount message) := by
  constructor
  · exact Greeting.goesWrong (.bool true) (.text "Ada") (by decide +kernel) (by decide +kernel)
  · exact Greeting.goesWrong (.int 1) (.int (10 ^ 4300)) (by decide +kernel) (by decide +kernel)

end Compiler

end ContactFlow
