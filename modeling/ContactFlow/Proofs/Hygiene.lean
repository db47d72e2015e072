import ContactFlow.Proofs.Compiled
import ContactFlow.Proofs.Conservative
import ContactFlow.Proofs.Reaching
import ContactFlow.Proofs.Targets

/-!
The identifiers that the expansions create. They are new to the allocator of the graph, whatever graph it
is, but the allocator knows neither the targets of edges nor the nodes that were not given their
identifiers by it. When an identifier is created that such a node has, the node is gone; when an edge led
to it and no node had it, the edge leads to what was created, and nothing is reported.
-/

namespace ContactFlow

namespace Graph

variable {g g' g'' : Graph} {ids ids' : List String} {id : String} {m : Node}

/-- The identifiers that the expansions create. -/
def synthesized (g : Graph) : List String :=
  (expandInputs g).created ++ (expandRetries g.staged).created

/-- Identifiers are created that are new to the allocator, and the nodes that stand under them are new
to the graph. The other nodes may change, but stay under their identifiers. -/
structure Synthesizes (g : Graph) (ids : List String) (g' : Graph) : Prop where
  used : g'.allocator.used = g.allocator.used ++ ids
  distinct : ids.Nodup
  fresh : ∀ id ∈ ids, id ∉ g.allocator.used
  keys : ∀ id, id ∈ g'.keys ↔ id ∈ g.keys ∨ id ∈ ids
  kept : ∀ id, id ∉ ids → (g'.get? id).map (·.serial) = (g.get? id).map (·.serial)
  taken : ∀ id ∈ ids, ∃ m, g'.get? id = some m ∧ g.count ≤ m.serial
  count : g.count ≤ g'.count

namespace Synthesizes

theorem refl (g : Graph) : g.Synthesizes [] g where
  used := by simp
  distinct := List.nodup_nil
  fresh := by simp
  keys := by simp
  kept := fun _ _ => rfl
  taken := by simp
  count := Nat.le_refl _

theorem trans (first : g.Synthesizes ids g') (second : g'.Synthesizes ids' g'') :
    g.Synthesizes (ids ++ ids') g'' := by
  have apart : ∀ id ∈ ids, id ∉ ids' := fun id early late => by
    have free := second.fresh id late
    rw [first.used] at free
    exact free (List.mem_append_right _ early)
  exact
    { used := by rw [second.used, first.used, List.append_assoc]
      distinct := first.distinct.append second.distinct apart
      fresh := by
        intro id among
        rcases List.mem_append.1 among with early | late
        · exact first.fresh id early
        · have free := second.fresh id late
          rw [first.used] at free
          exact fun old => free (List.mem_append_left _ old)
      keys := fun id => by rw [second.keys, first.keys, List.mem_append, or_assoc]
      kept := by
        intro id other
        rw [List.mem_append, not_or] at other
        rw [second.kept id other.2, first.kept id other.1]
      taken := by
        intro id among
        rcases List.mem_append.1 among with early | late
        · obtain ⟨m, found, new⟩ := first.taken id early
          have same := second.kept id (apart id early)
          rw [found, Option.map_some, Option.map_eq_some_iff] at same
          obtain ⟨m', found', serial⟩ := same
          exact ⟨m', found', serial ▸ new⟩
        · obtain ⟨m, found, new⟩ := second.taken id late
          exact ⟨m, found, Nat.le_trans first.count new⟩
      count := Nat.le_trans first.count second.count }

/-- Nodes may change as long as they keep their serial numbers. -/
theorem of_changed {f : String × Node → Node} (nodes : g'.nodes = g.nodes.map fun e => (e.1, f e))
    (serial : ∀ e, (f e).serial = e.2.serial) (allocator : g'.allocator = g.allocator)
    (count : g'.count = g.count) : g.Synthesizes [] g' where
  used := by rw [allocator, List.append_nil]
  distinct := List.nodup_nil
  fresh := by simp
  keys := fun id => by simp [Graph.keys, Ordered.keys, nodes, List.map_map, Function.comp_def]
  kept := by
    intro id _
    have same (l : List (String × Node)) : ((l.map fun e => (e.1, f e)).lookup id).map (·.serial) =
        (l.lookup id).map (·.serial) := by
      induction l with
      | nil => rfl
      | cons e rest ih =>
        obtain ⟨k, n⟩ := e
        rw [List.map_cons, List.lookup_cons, List.lookup_cons]
        cases id == k with
        | true => exact congrArg some (serial (k, n))
        | false => exact ih
    rw [get?, nodes]
    exact same g.nodes
  taken := by simp
  count := Nat.le_of_eq count.symm

theorem modifyNode (g : Graph) {serial : Nat} {f : Node → Node}
    (keeps : ∀ n, n.serial = serial → (f n).serial = serial) :
    g.Synthesizes [] (g.modifyNode serial f) := by
  refine of_changed (f := fun e => if e.2.serial = serial then f e.2 else e.2) rfl (fun e => ?_) rfl rfl
  split
  · rename_i here
    rw [keeps _ here, here]
  · rfl

theorem modify (g : Graph) (id : String) {f : Node → Node} (keeps : ∀ n, (f n).serial = n.serial) :
    g.Synthesizes [] (g.modify id f) := by
  refine of_changed (f := fun e => if e.1 == id then f e.2 else e.2) ?_ (fun e => ?_) rfl rfl
  · refine List.map_congr_left fun e _ => ?_
    simp only
    split <;> rfl
  · split
    · exact keeps e.2
    · rfl

theorem addFresh (g : Graph) {a : Allocator} {id : String} (fresh : id ∉ g.allocator.used)
    (used : a.used = g.allocator.used ++ [id]) (kind : ActionKind) (hint : Value) (parameters : Table) :
    g.Synthesizes [id] (g.addFresh a id kind hint parameters).2 where
  used := used
  distinct := List.nodup_singleton id
  fresh := by simpa using fresh
  keys := fun id' => by
    change id' ∈ Ordered.keys (Ordered.put g.nodes id _) ↔ id' ∈ Ordered.keys g.nodes ∨ _
    rw [Ordered.keys_put]
    split
    · rename_i old
      constructor
      · exact .inl
      · rintro (there | new)
        · exact there
        · exact List.mem_singleton.1 new ▸ old
    · exact List.mem_append
  kept := by
    intro id' other
    rw [List.mem_singleton] at other
    exact congrArg _ (Ordered.lookup_put_other other _)
  taken := by
    intro id' among
    rw [List.mem_singleton.1 among]
    exact ⟨_, Ordered.lookup_put_self .., Nat.le_refl _⟩
  count := Nat.le_succ _

theorem allocateNode (g : Graph) (kind : ActionKind) (hint : String) (parameters : Table) :
    g.Synthesizes [(g.allocateNode kind hint parameters).1.id]
      (g.allocateNode kind hint parameters).2 :=
  addFresh g (Allocator.allocate_fresh g.allocator hint kind.name)
    (Allocator.used_allocate g.allocator hint kind.name) kind (.text hint) parameters

/-- A node that was created may be written anew. -/
theorem write (first : g.Synthesizes ids g') {serial : Nat} (n : Node) (same : n.serial = serial) :
    g.Synthesizes ids (g'.modifyNode serial fun _ => n) := by
  simpa using first.trans (modifyNode g' fun _ _ => same)

end Synthesizes

end Graph

/-! ### Steps of the expansions -/

section Creates

variable {σ : Type} (graph : σ → Graph) (created : σ → List String)

/-- What is created between two states of an expansion is put on record. -/
def Creates (s s' : σ) : Prop :=
  ∃ ids, created s' = created s ++ ids ∧ (graph s).Synthesizes ids (graph s')

variable {graph created} {s s' s'' : σ}

theorem Creates.refl (s : σ) : Creates graph created s s := ⟨[], by simp, .refl _⟩

theorem Creates.trans (first : Creates graph created s s') (second : Creates graph created s' s'') :
    Creates graph created s s'' := by
  obtain ⟨ids, listed, creates⟩ := first
  obtain ⟨ids', listed', creates'⟩ := second
  exact ⟨ids ++ ids', by rw [listed', listed, List.append_assoc], creates.trans creates'⟩

theorem Creates.of_changed (listed : created s' = created s)
    (changed : (graph s).Synthesizes [] (graph s')) : Creates graph created s s' :=
  ⟨[], by rw [listed, List.append_nil], changed⟩

theorem Creates.foldl {α : Type} {step : σ → α → σ} (steps : ∀ s a, Creates graph created s (step s a))
    (l : List α) (s : σ) : Creates graph created s (l.foldl step s) := by
  induction l generalizing s with
  | nil => exact .refl s
  | cons a rest ih => exact (steps s a).trans (ih (step s a))

end Creates

namespace Staging

theorem creates_renew (s : Staging) (n : Node) :
    Creates graph created s (s.renew n) := .of_changed rfl ((Graph.Synthesizes.refl _).write n rfl)

theorem creates_split (s : Staging) (n : Node) (spec : InputSpec) (f : FallbackInput)
    (first second : Table) : Creates graph created s (s.split n spec f first second) := by
  let a := s.graph.allocateNode .collectInput (n.id ++ "_" ++ f.mode.wire) second
  have added : s.graph.Synthesizes [a.1.id] a.2 := .allocateNode ..
  refine ⟨[a.1.id], ?_, ?_⟩
  · simp [split, renew, write, created, a]
  · exact (added.write (secondStage n f a.1) rfl).write (firstStage n spec first a.1.id) rfl

theorem creates_expandNode (s : Staging) (n : Node) : Creates graph created s (s.expandNode n) := by
  have turn := turn_expandNode s n
  generalize s.expandNode n = s' at turn
  cases turn with
  | idle => exact .refl s
  | fails => exact .of_changed rfl (.refl _)
  | plain => exact creates_renew s _
  | unmet => exact .of_changed rfl ((Graph.Synthesizes.refl _).write _ rfl)
  | single => exact creates_renew s _
  | split => exact creates_split ..

end Staging

namespace Looping

theorem creates_add (s : Looping) (kind : ActionKind) (hint : String) (parameters : Table)
    (t : Transitions) : Creates graph created s (s.add kind hint parameters t).2 := by
  have added := Graph.Synthesizes.allocateNode s.graph kind hint parameters
  exact ⟨_, rfl, added.write { (s.graph.allocateNode kind hint parameters).1 with transitions := t } rfl⟩

theorem Steps.creates {s t : Looping} {n : Node} (steps : Steps n s t) :
    Creates graph created s t := by
  induction steps with
  | refl => exact .refl s
  | add _ _ _ _ _ _ ih => exact ih.trans (creates_add ..)
  | set _ _ _ ih => exact ih.trans (.of_changed rfl (.modify _ _ fun _ => rfl))
  | write _ _ ih => exact ih.trans (.of_changed rfl ((Graph.Synthesizes.refl _).write _ rfl))
  | report _ _ ih => exact ih.trans (.of_changed rfl (.refl _))

theorem creates_expandNode (s : Looping) (n : Node) : Creates graph created s (s.expandNode n) := by
  obtain ⟨t, steps, same, listed⟩ := (attempt_expandNode s n).graph
  obtain ⟨ids, listed', creates⟩ := steps.creates
  exact ⟨ids, listed.trans listed', same ▸ creates⟩

end Looping

namespace Graph

variable {g : Graph} {id : String} {m : Node}

/-- What both expansions create is on record, whether they come through or not. -/
theorem synthesizes (g : Graph) : g.Synthesizes g.synthesized g.expanded := by
  obtain ⟨ids, listed, first⟩ :=
    Creates.foldl Staging.creates_expandNode g.toList { graph := g }
  obtain ⟨ids', listed', second⟩ :=
    Creates.foldl Looping.creates_expandNode g.staged.toList { graph := g.staged }
  have one : (expandInputs g).created = ids := listed
  have two : (expandRetries g.staged).created = ids' := listed'
  unfold synthesized
  rw [one, two]
  exact first.trans second

/-! ### What is named in a graph -/

def Mentions (g : Graph) (id : String) : Prop :=
  id ∈ g.keys ∨ ∃ n ∈ g.toList, n.id = id ∨ id ∈ n.transitions.targets

/-- Nothing is created under an identifier that is named in the graph. -/
def Hygienic (g : Graph) : Prop := ∀ id ∈ g.synthesized, ¬ g.Mentions id

/-- An edge leads to no node. -/
def Misses (g : Graph) (id : String) : Prop :=
  id ∉ g.keys ∧ ∃ n ∈ g.toList, id ∈ n.transitions.targets

instance (g : Graph) (id : String) : Decidable (g.Mentions id) := inferInstanceAs (Decidable (_ ∨ _))

instance (g : Graph) (id : String) : Decidable (g.Misses id) := inferInstanceAs (Decidable (_ ∧ _))

instance (g : Graph) : Decidable g.Hygienic :=
  inferInstanceAs (Decidable (∀ id ∈ g.synthesized, ¬ g.Mentions id))

end Graph

namespace Check

variable {g : Graph} {m : Node} {id : String}

def missing (n : Node) (id : String) : Remark :=
  ("Transition from '" ++ n.id ++ "' points to missing action '" ++ id ++ "'", some n.id)

/-- A missing action is reported at a node just in case an edge of the node leads to it. -/
theorem missing_mem (tidy : g.Tidy) (member : m ∈ g.toList) :
    missing m id ∈ danglingTransitions g ↔ id ∈ m.transitions.targets ∧ id ∉ g.keys := by
  have here : missing m id ∈ danglingAt g m ↔ id ∈ m.transitions.targets ∧ id ∉ g.keys := by
    unfold danglingAt missing
    rw [List.mem_append, List.mem_map]
    constructor
    · rintro (⟨t, among, same⟩ | branch)
      · obtain ⟨leads, absent⟩ := List.mem_filter.1 among
        have same := (String.append_left_inj _).1 (congrArg Prod.fst same)
        rw [← (String.append_right_inj _).1 same]
        exact ⟨leads, by simpa [← Graph.isKey_iff] using absent⟩
      · have texts := congrArg (fun remark => remark.1.toList.head?) (List.eq_of_mem_replicate branch)
        simp at texts
    · rintro ⟨leads, absent⟩
      exact .inl ⟨id, List.mem_filter.2 ⟨leads, by simpa [← Graph.isKey_iff] using absent⟩, rfl⟩
  rw [← here, danglingTransitions, List.mem_flatMap]
  refine ⟨fun ⟨k, inside, reported⟩ => ?_, fun reported => ⟨m, member, reported⟩⟩
  have about : ∀ r ∈ danglingAt g k, r.2 = some k.id := by
    unfold danglingAt
    simp only [List.mem_append, List.mem_map, List.mem_replicate]
    rintro r (⟨_, _, rfl⟩ | ⟨_, rfl⟩) <;> rfl
  rw [Graph.eq_of_id tidy inside member (Option.some.inj (about _ reported)).symm] at reported
  exact reported

end Check

namespace Graph

variable {g : Graph} {xs ys : List Outcome} {id : String}

/-- Wherever an edge led, one still leads there after the expansions. -/
theorem Expansion.onward (expansion : g.Expansion xs ys) {n : Node} (member : n ∈ g.toList)
    (leads : id ∈ n.transitions.targets) : ∃ m ∈ g.expanded.toList, id ∈ m.transitions.targets := by
  obtain ⟨tidy, ready, inputs, retries⟩ := expansion
  obtain ⟨x, among, rfl⟩ := inputs.outcome member
  obtain ⟨k, stage, leads⟩ := (inputs.each x among).onward (ready _ member) leads
  obtain ⟨y, inside, rfl⟩ := retries.outcome (inputs.mem_of_outcome among stage)
  obtain ⟨m, here, leads⟩ := (retries.each y inside).onward leads
  exact ⟨m, retries.mem_of_outcome inside here, leads⟩

/-- A missing action stays missing, and is reported, unless its identifier is created. -/
theorem Expansion.reports (expansion : g.Expansion xs ys) (misses : g.Misses id) :
    (∃ m ∈ g.expanded.toList, Check.missing m id ∈ Check.danglingTransitions g.expanded) ↔
      id ∉ g.synthesized := by
  obtain ⟨absent, n, member, leads⟩ := misses
  have key : id ∈ g.expanded.keys ↔ id ∈ g.synthesized := by
    rw [g.synthesizes.keys]
    exact or_iff_right absent
  constructor
  · rintro ⟨m, inside, reported⟩ created
    exact ((Check.missing_mem expansion.retries.tidy inside).1 reported).2 (key.2 created)
  · intro free
    obtain ⟨m, inside, leads⟩ := expansion.onward member leads
    exact ⟨m, inside, (Check.missing_mem expansion.retries.tidy inside).2
      ⟨leads, fun there => free (key.1 there)⟩⟩

/-- What the allocator knows is never created. -/
theorem hygienic_iff (g : Graph) :
    g.Hygienic ↔ ∀ id, g.Mentions id → id ∉ g.allocator.used → id ∉ g.synthesized := by
  constructor
  · exact fun hygienic id named _ created => hygienic id created named
  · exact fun free id created named => free id named (g.synthesizes.fresh id created) created

/-- In a flow under construction the allocator knows all but the targets that are missing. -/
theorem mentions_iff (tidy : g.Tidy) (ordered : g.InOrder) :
    g.Mentions id ∧ id ∉ g.allocator.used ↔ g.Misses id := by
  rw [ordered.used]
  constructor
  · rintro ⟨key | ⟨n, member, rfl | leads⟩, absent⟩
    · exact absurd key absent
    · exact absurd ((mem_keys tidy).2 ⟨n, member, rfl⟩) absent
    · exact ⟨absent, n, member, leads⟩
  · rintro ⟨absent, n, member, leads⟩
    exact ⟨.inr ⟨n, member, .inr leads⟩, absent⟩

/-- The expansions of any graph create what is new to its allocator, so they are hygienic just in case
they create nothing that is named in the graph and that the allocator does not know. In a flow that comes
of calls these are the targets that are missing, and each of them is reported afterwards just in case it
was not created. -/
theorem hygiene (g : Graph) :
    g.Synthesizes g.synthesized g.expanded ∧
    (g.Hygienic ↔ ∀ id, g.Mentions id → id ∉ g.allocator.used → id ∉ g.synthesized) ∧
    ∀ w loops jumps, Workspace.Calls w loops jumps → w.graph = g →
      (g.Hygienic ↔ ∀ id, g.Misses id → id ∉ g.synthesized) ∧
      (g.ComesThrough → ∀ id, g.Misses id →
        ((∃ m ∈ g.expanded.toList, Check.missing m id ∈ Check.danglingTransitions g.expanded) ↔
          id ∉ g.synthesized)) := by
  refine ⟨g.synthesizes, g.hygienic_iff, ?_⟩
  rintro w loops jumps calls rfl
  obtain ⟨orderly, ordered, _⟩ := calls.tracked
  constructor
  · rw [hygienic_iff]
    refine forall_congr' fun id => ?_
    rw [← mentions_iff orderly.tidy ordered, and_imp]
  · intro through id misses
    obtain ⟨xs, ys, expansion⟩ := through.expansion orderly.tidy calls.ready
    exact expansion.reports misses

end Graph

namespace Capture

open Workspace (Calls)

def opening : Workspace :=
  { flow := "menu", graph := { name := "menu" }, joins := #[{}], builders := #[{ cursor := 0 }] }

/-- A menu with two attempts, one end for silent callers, and a digit that jumps to the action given. -/
def jumping (target : String) : Workspace :=
  let w := (Builder.appendBranching 0 (.collectInput { prompt := .text "Press 1", maxAttempts := .int 2 })
    .null (.text "menu") opening).2
  let w := (Builder.openBranch 0 (.digits (.text "1")) w).2
  let w := (Builder.jumpTo 1 (.text target) w).2
  let w := (Builder.openBranch 0 .timeout w).2
  (Builder.append 2 .disconnect .null .null w).2

def elsewhere : Workspace := jumping "elsewhere"

def retried : Workspace := jumping "menu_retry"

theorem calls_elsewhere : Calls elsewhere [] ["elsewhere"] := by
  have begun : Calls opening [] [] := .named (by decide +kernel)
  have asked := begun.appendBranching (b := 0) (by decide +kernel)
    (a := .collectInput { prompt := .text "Press 1", maxAttempts := .int 2 }) (by decide) trivial .null
    (.text "menu")
  have chosen := asked.openBranch (i := 0) (by decide +kernel) (c := .digits (.text "1")) rfl
  have left := chosen.jumpTo (b := 1) (by decide +kernel) (.text "elsewhere")
  have silent := left.openBranch (i := 0) (by decide +kernel) (c := .timeout) trivial
  exact silent.append (b := 2) (by decide +kernel) (a := .disconnect) rfl ActionKind.noConfusion
    .null .null

/-- A node that is added without the allocator is gone after the expansions. -/
example : ((elsewhere.graph.add { id := "menu_retry", kind := .message }).expanded.get?
    "menu_retry").map (·.kind) = some .loop := by decide +kernel

end Capture

/-- A jump to an action that is missing is reported, as long as no loop takes its name. -/
theorem Graph.hygiene_elsewhere : Capture.elsewhere.graph.Hygienic ∧
    ∃ m ∈ Capture.elsewhere.graph.expanded.toList, Check.missing m "elsewhere" ∈
      Check.danglingTransitions Capture.elsewhere.graph.expanded := by
  obtain ⟨_, _, built⟩ := hygiene Capture.elsewhere.graph
  obtain ⟨_, reports⟩ := built _ _ _ Capture.calls_elsewhere rfl
  have through : Capture.elsewhere.graph.ComesThrough := ⟨by decide +kernel, by decide +kernel⟩
  exact ⟨by decide +kernel, (reports through "elsewhere" (by decide +kernel)).2 (by decide +kernel)⟩

/-- The jump to a missing action comes to the loop of the menu instead, and the flow is accepted. -/
theorem Compiler.jump_captured : ∃ flow, byDefault? Capture.retried.graph = some flow ∧
    Capture.retried.graph.Misses "menu_retry" ∧ "menu_retry" ∈ Capture.retried.graph.synthesized ∧
    ¬ Capture.retried.graph.Hygienic ∧
    (trace flow.document ["1"] 100).toOption =
      some ⟨["menu", "menu_retry", "menu"].map .text, ["1"], .awaitingInput⟩ := by
  have traced : ((byDefault? Capture.retried.graph).bind fun flow =>
      (trace flow.document ["1"] 100).toOption) =
      some ⟨["menu", "menu_retry", "menu"].map .text, ["1"], .awaitingInput⟩ := by decide +kernel
  obtain ⟨flow, known, same⟩ := Option.bind_eq_some_iff.1 traced
  exact ⟨flow, known, by decide +kernel, by decide +kernel, by decide +kernel, same⟩

end ContactFlow
