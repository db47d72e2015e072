import ContactFlow.Proofs.Drafts
import ContactFlow.Proofs.Operations
import ContactFlow.Proofs.Tidy

/-!
What holds of the nodes of a flow however it is built. The graph is tidy, no node handles an error
twice, only inputs have stages and retries, and the conditions of an input are matches on input no
two of which share a key. The keys of an input's conditions are known to its set of branches; that
is why a branch with a taken key is refused.
-/

namespace ContactFlow

namespace Guard

/-- The keys of a match on input are among the taken ones. -/
def TakenIn (taken : List (List Scalar)) : Guard → Prop
  | .input digits intent =>
    (∀ d ∈ digits, [.text "digits", d] ∈ taken) ∧ ∀ i ∈ intent, [.text "intent", i] ∈ taken
  | .compare .. => True

/-- The keys of a match on input are not among the taken ones. -/
def NewTo (taken : List (List Scalar)) : Guard → Prop
  | .input digits intent =>
    (∀ d ∈ digits, [.text "digits", d] ∉ taken) ∧ ∀ i ∈ intent, [.text "intent", i] ∉ taken
  | .compare .. => True

/-- Two matches on input that share no key. -/
def Apart : Guard → Guard → Prop
  | .input digits intent, .input digits' intent' =>
    (∀ d ∈ digits, d ∉ digits') ∧ ∀ i ∈ intent, i ∉ intent'
  | _, _ => True

variable {g g' : Guard} {taken taken' : List (List Scalar)}

theorem TakenIn.mono (known : g.TakenIn taken) (more : taken ⊆ taken') : g.TakenIn taken' := by
  cases g with
  | compare => trivial
  | input => exact ⟨fun d given => more (known.1 d given), fun i given => more (known.2 i given)⟩

theorem apart_of_new (known : g.TakenIn taken) (new : g'.NewTo taken) : g.Apart g' := by
  cases g with
  | compare => trivial
  | input =>
    cases g' with
    | compare => trivial
    | input =>
      exact ⟨fun d old given => new.1 d given (known.1 d old),
        fun i old given => new.2 i given (known.2 i old)⟩

end Guard

def Offer.isInput : Offer → Bool
  | .input _ => true
  | _ => false

namespace Transitions

def guards (t : Transitions) : List Guard := t.conditions.map (·.guard)
def kinds (t : Transitions) : List ErrorKind := t.errors.map (·.kind)

end Transitions

namespace Node

/-- What holds of every node that is built. -/
structure Proper (n : Node) : Prop where
  once : n.transitions.kinds.Nodup
  inputs : n.kind = .collectInput → ∀ g ∈ n.transitions.guards, g.isInput
  apart : n.kind = .collectInput → n.transitions.guards.Pairwise Guard.Apart
  staged : n.kind = .collectInput → n.mode.isSome
  retried : ∀ r, n.retry = some r →
    n.kind = .collectInput ∧ n.spec = none ∧ r.retryOn = ErrorKind.retryable
  specified : ∀ spec, n.spec = some spec → n.kind = .collectInput ∧ n.retry = none

/-- Nodes that differ in their targets only. -/
structure Alike (n m : Node) : Prop where
  id : n.id = m.id
  serial : n.serial = m.serial
  kind : n.kind = m.kind
  parameters : n.parameters = m.parameters
  retry : n.retry = m.retry
  spec : n.spec = m.spec
  mode : n.mode = m.mode
  guards : n.transitions.guards = m.transitions.guards
  kinds : n.transitions.kinds = m.transitions.kinds

namespace Alike

variable {n m k : Node}

theorem refl (n : Node) : Alike n n := ⟨rfl, rfl, rfl, rfl, rfl, rfl, rfl, rfl, rfl⟩

theorem trans (first : Alike n m) (second : Alike m k) : Alike n k where
  id := first.id.trans second.id
  serial := first.serial.trans second.serial
  kind := first.kind.trans second.kind
  parameters := first.parameters.trans second.parameters
  retry := first.retry.trans second.retry
  spec := first.spec.trans second.spec
  mode := first.mode.trans second.mode
  guards := first.guards.trans second.guards
  kinds := first.kinds.trans second.kinds

theorem proper (alike : Alike n m) (proper : m.Proper) : n.Proper := by
  obtain ⟨once, inputs, apart, staged, retried, specified⟩ := proper
  refine ⟨?_, ?_, ?_, ?_, ?_, ?_⟩
  · rw [alike.kinds]; exact once
  · rw [alike.guards, alike.kind]; exact inputs
  · rw [alike.guards, alike.kind]; exact apart
  · rw [alike.kind, alike.mode]; exact staged
  · rw [alike.retry, alike.kind, alike.spec]; exact retried
  · rw [alike.retry, alike.kind, alike.spec]; exact specified

end Alike

end Node

namespace Node

/-- A node with a condition more. -/
def plusCondition (guard : Guard) (n : Node) : Node :=
  { n with transitions :=
    { n.transitions with conditions := n.transitions.conditions ++ [{ guard }] } }

def plusError (kind : ErrorKind) (n : Node) : Node :=
  { n with transitions := { n.transitions with errors := n.transitions.errors ++ [{ kind }] } }

theorem guards_plusCondition (guard : Guard) (n : Node) :
    (n.plusCondition guard).transitions.guards = n.transitions.guards ++ [guard] := by
  simp [plusCondition, Transitions.guards]

theorem kinds_plusError (kind : ErrorKind) (n : Node) :
    (n.plusError kind).transitions.kinds = n.transitions.kinds ++ [kind] := by
  simp [plusError, Transitions.kinds]

end Node

theorem map_modify {α β : Type} (l : List α) (i : Nat) {f : α → α} {g : α → β}
    (same : ∀ a, g (f a) = g a) : (l.modify i f).map g = l.map g := by
  refine List.ext_getElem? fun j => ?_
  rw [List.getElem?_map, List.getElem?_map, List.getElem?_modify]
  cases l[j]? with
  | none => simp
  | some a => by_cases here : i = j <;> simp [here, same]

theorem Slot.assign_alike (s : Slot) (target : String) (n : Node) :
    (s.assign target n).Alike n := by
  cases s with
  | next => exact ⟨rfl, rfl, rfl, rfl, rfl, rfl, rfl, rfl, rfl⟩
  | condition m i =>
    exact ⟨rfl, rfl, rfl, rfl, rfl, rfl, rfl, map_modify _ i fun _ => rfl, rfl⟩
  | error m i =>
    exact ⟨rfl, rfl, rfl, rfl, rfl, rfl, rfl, rfl, map_modify _ i fun _ => rfl⟩

namespace Graph

/-- The second graph is the first one with other targets. -/
def Relinked (g g' : Graph) : Prop := ∃ f, Changed f g g' ∧ ∀ n, (f n).Alike n

variable {g g' g'' : Graph}

theorem Relinked.refl (g : Graph) : Relinked g g :=
  ⟨id, ⟨by simp, rfl, rfl, rfl⟩, Node.Alike.refl⟩

theorem Relinked.trans (first : Relinked g g') (second : Relinked g' g'') : Relinked g g'' := by
  obtain ⟨f, changed, alike⟩ := first
  obtain ⟨f', changed', alike'⟩ := second
  refine ⟨f' ∘ f, ⟨?_, ?_, ?_, ?_⟩, fun n => (alike' (f n)).trans (alike n)⟩
  · rw [changed'.nodes, changed.nodes, List.map_map]
    rfl
  · rw [changed'.allocator, changed.allocator]
  · rw [changed'.count, changed.count]
  · rw [changed'.entry, changed.entry]

theorem relinked_assign (g : Graph) (slot : Slot) (target : String) :
    Relinked g (g.modifyNode slot.node (slot.assign target)) := by
  refine ⟨_, changed_modifyNode g slot.node (slot.assign target), fun n => ?_⟩
  by_cases here : n.serial = slot.node
  · simpa only [if_pos here] using slot.assign_alike target n
  · simpa only [if_neg here] using Node.Alike.refl n

end Graph

namespace Workspace

variable {w : Workspace}

/-! ### What linking edges leaves as it is -/

/-- The second workspace is the first one with other targets and join points. -/
structure Relinked (w w' : Workspace) : Prop where
  graph : w.graph.Relinked w'.graph
  attached : w.detached = [] → w'.detached = []
  builders : w'.builders = w.builders
  sets : w'.sets = w.sets

theorem Relinked.trans {w' w'' : Workspace} (first : Relinked w w') (second : Relinked w' w'') :
    Relinked w w'' where
  graph := first.graph.trans second.graph
  attached := fun none => second.attached (first.attached none)
  builders := second.builders.trans first.builders
  sets := second.sets.trans first.sets

theorem link_foldl (w : Workspace) (r : Joins Slot × List (Slot × String)) :
    w.link r = r.2.foldl (fun w l => w.modifyNode l.1.node (l.1.assign l.2)) { w with joins := r.1 } :=
  rfl

theorem relinked_link (w : Workspace) (r : Joins Slot × List (Slot × String)) :
    Relinked w (w.link r) := by
  have each (links : List (Slot × String)) (w : Workspace) :
      Relinked w (links.foldl (fun w l => w.modifyNode l.1.node (l.1.assign l.2)) w) := by
    induction links generalizing w with
    | nil => exact ⟨.refl w.graph, id, rfl, rfl⟩
    | cons l rest ih =>
      have first : Relinked w (w.modifyNode l.1.node (l.1.assign l.2)) :=
        ⟨Graph.relinked_assign w.graph l.1 l.2, fun none => by simp [modifyNode, none], rfl, rfl⟩
      exact first.trans (ih _)
  have rejoined : Relinked w { w with joins := r.1 } := ⟨.refl w.graph, id, rfl, rfl⟩
  rw [link_foldl]
  exact rejoined.trans (each r.2 _)

/-! ### Orderly workspaces -/

/-- The node of a set of branches is there. It is an input if its set offers input, and the keys of
its conditions are taken then. -/
def Owns (w : Workspace) (s : BranchSet) : Prop :=
  ∃ n ∈ w.graph.toList, n.serial = s.node.serial ∧ n.id = s.node.id ∧
    (n.kind = .collectInput ↔ s.offer.isInput) ∧
    (n.kind = .collectInput → ∀ g ∈ n.transitions.guards, g.TakenIn s.taken)

structure Orderly (w : Workspace) : Prop where
  tidy : w.graph.Tidy
  attached : w.detached = []
  proper : ∀ n ∈ w.graph.toList, n.Proper
  owned : ∀ (i : Nat) (s : BranchSet), w.sets[i]? = some s → w.Owns s
  single : ∀ (i j : Nat) (s t : BranchSet), w.sets[i]? = some s → w.sets[j]? = some t →
    s.node.serial = t.node.serial → i = j

variable {w' : Workspace}

/-- Nodes may change in place, and sets may take more keys, as long as the sets know the keys of
their nodes. -/
theorem Orderly.of_changed (orderly : w.Orderly) {f : Node → Node}
    (changed : w.graph.Changed f w'.graph) (attached : w'.detached = [])
    (keeps : ∀ n ∈ w.graph.toList, (f n).id = n.id ∧ (f n).serial = n.serial ∧ (f n).kind = n.kind)
    (proper : ∀ n ∈ w.graph.toList, (f n).Proper)
    (sets : ∀ (i : Nat) (s' : BranchSet), w'.sets[i]? = some s' →
      ∃ s, w.sets[i]? = some s ∧ s'.node = s.node ∧ s'.offer.isInput = s.offer.isInput ∧
      ∀ n ∈ w.graph.toList, n.serial = s.node.serial → n.kind = .collectInput →
        ∀ g ∈ (f n).transitions.guards, g.TakenIn s'.taken) : w'.Orderly where
  tidy := changed.tidy (fun n member => ⟨(keeps n member).1, (keeps n member).2.1⟩) orderly.tidy
  attached := attached
  proper := by
    rw [changed.toList]
    intro n member
    obtain ⟨n', inside, rfl⟩ := List.mem_map.1 member
    exact proper n' inside
  owned := by
    intro i s' found
    obtain ⟨s, old, node, offer, taken⟩ := sets i s' found
    obtain ⟨n, member, serial, id, kind, _⟩ := orderly.owned i s old
    obtain ⟨keepsId, keepsSerial, keepsKind⟩ := keeps n member
    refine ⟨f n, ?_, ?_, ?_, ?_, ?_⟩
    · rw [changed.toList]
      exact List.mem_map_of_mem member
    · rw [keepsSerial, node, serial]
    · rw [keepsId, node, id]
    · rw [keepsKind, offer, kind]
    · rw [keepsKind]
      exact taken n member serial
  single := by
    intro i j s' t' first second same
    obtain ⟨s, old, node, _, _⟩ := sets i s' first
    obtain ⟨t, old', node', _, _⟩ := sets j t' second
    exact orderly.single i j s t old old' (by rw [← node, ← node', same])

theorem Orderly.relinked (orderly : w.Orderly) (relinked : w.Relinked w') : w'.Orderly := by
  obtain ⟨f, changed, alike⟩ := relinked.graph
  refine orderly.of_changed changed (relinked.attached orderly.attached)
    (fun n _ => ⟨(alike n).id, (alike n).serial, (alike n).kind⟩)
    (fun n member => (alike n).proper (orderly.proper n member)) fun i s' found => ?_
  rw [relinked.sets] at found
  obtain ⟨n, member, serial, _, _, taken⟩ := orderly.owned i s' found
  refine ⟨s', found, rfl, rfl, fun m inside same kind => ?_⟩
  rw [(alike m).guards]
  have here := Graph.eq_of_serial orderly.tidy inside member (same.trans serial.symm)
  subst here
  exact taken kind

/-- Nothing but the graph, what is detached and the sets counts. -/
theorem Orderly.congr (orderly : w.Orderly) (graph : w'.graph = w.graph)
    (detached : w'.detached = w.detached) (sets : w'.sets = w.sets) : w'.Orderly := by
  obtain ⟨tidy, attached, proper, owned, single⟩ := orderly
  refine ⟨graph ▸ tidy, detached ▸ attached, graph ▸ proper, ?_, sets ▸ single⟩
  intro i s found
  rw [sets] at found
  obtain ⟨n, member, rest⟩ := owned i s found
  exact ⟨n, graph ▸ member, rest⟩

theorem Orderly.grown (orderly : w.Orderly) {n : Node} (grown : w.graph.Grown n w'.graph)
    (attached : w'.detached = []) (proper : n.Proper) (sets : w'.sets = w.sets) : w'.Orderly where
  tidy := grown.tidy orderly.tidy
  attached := attached
  proper := by
    rw [grown.toList]
    intro m member
    rcases List.mem_append.1 member with old | new
    · exact orderly.proper m old
    · rw [List.mem_singleton.1 new]
      exact proper
  owned := by
    intro i s found
    rw [sets] at found
    obtain ⟨m, member, rest⟩ := orderly.owned i s found
    exact ⟨m, by rw [grown.toList]; exact List.mem_append_left _ member, rest⟩
  single := sets ▸ orderly.single

/-- A set of branches may be added for a node that has none. -/
theorem Orderly.pushSet (orderly : w.Orderly) {s : BranchSet} (owns : w.Owns s)
    (other : ∀ (i : Nat) (t : BranchSet), w.sets[i]? = some t → t.node.serial ≠ s.node.serial) :
    Orderly { w with sets := w.sets.push s } where
  tidy := orderly.tidy
  attached := orderly.attached
  proper := orderly.proper
  owned := by
    intro i t found
    rw [Array.getElem?_push] at found
    split at found
    · cases found
      exact owns
    · exact orderly.owned i t found
  single := by
    intro i j t u first second same
    rw [Array.getElem?_push] at first second
    split at first <;> split at second
    · omega
    · cases first
      exact absurd same.symm (other j u second)
    · cases second
      exact absurd same (other i t first)
    · exact orderly.single i j t u first second same

/-- Nodes are changed where they stand. -/
theorem changed_addCondition (w : Workspace) (node : Nat) (guard : Guard) :
    w.graph.Changed (fun n => if n.serial = node then n.plusCondition guard else n)
      (w.addCondition node guard).2.graph :=
  Graph.changed_modifyNode w.graph node (Node.plusCondition guard)

theorem changed_addError (w : Workspace) (node : Nat) (kind : ErrorKind) :
    w.graph.Changed (fun n => if n.serial = node then n.plusError kind else n)
      (w.addError node kind).2.graph :=
  Graph.changed_modifyNode w.graph node (Node.plusError kind)

/-- A condition with new keys may be added to the node of a set that takes the keys. -/
theorem Orderly.addBranch (orderly : w.Orderly) {i : Nat} {s s' : BranchSet} {guard : Guard}
    (found : w.sets[i]? = some s) (node : s'.node = s.node)
    (offer : s'.offer.isInput = s.offer.isInput) (more : s.taken ⊆ s'.taken)
    (input : s.offer.isInput → guard.isInput) (new : guard.NewTo s.taken)
    (taken : guard.TakenIn s'.taken) :
    ((w.setBranches i s').addCondition s.node.serial guard).2.Orderly := by
  obtain ⟨n, member, serial, _, kind, known⟩ := orderly.owned i s found
  have only (m : Node) (inside : m ∈ w.graph.toList) (here : m.serial = s.node.serial) : m = n :=
    Graph.eq_of_serial orderly.tidy inside member (here.trans serial.symm)
  refine orderly.of_changed (changed_addCondition (w.setBranches i s') s.node.serial guard)
    (by simp [addCondition, modifyNode, setBranches, orderly.attached]) ?_ ?_ ?_
  · intro m _
    by_cases here : m.serial = s.node.serial
    · simp only [if_pos here]
      exact ⟨rfl, rfl, rfl⟩
    · simp only [if_neg here, and_self]
  · intro m inside
    by_cases here : m.serial = s.node.serial
    · have proper := orderly.proper m inside
      rw [only m inside here] at proper ⊢
      simp only [if_pos serial]
      refine ⟨proper.once, ?_, ?_, proper.staged, proper.retried, proper.specified⟩
      · intro isInput g among
        rw [Node.guards_plusCondition] at among
        rcases List.mem_append.1 among with old | added
        · exact proper.inputs isInput g old
        · rw [List.mem_singleton.1 added]
          exact input (kind.1 isInput)
      · intro isInput
        rw [Node.guards_plusCondition]
        refine List.pairwise_append.2 ⟨proper.apart isInput, List.pairwise_singleton _ _, ?_⟩
        intro g old g' added
        rw [List.mem_singleton.1 added]
        exact Guard.apart_of_new (known isInput g old) new
    · simpa only [if_neg here] using orderly.proper m inside
  · intro j t' there
    change (w.sets.setIfInBounds i s')[j]? = some t' at there
    rw [Array.getElem?_setIfInBounds] at there
    by_cases same : i = j
    · subst same
      have size : i < w.sets.size := (Array.getElem?_eq_some_iff.1 found).1
      rw [if_pos rfl, if_pos size] at there
      cases there
      refine ⟨s, found, node, offer, fun m inside here isInput g among => ?_⟩
      rw [if_pos here, Node.guards_plusCondition] at among
      rcases List.mem_append.1 among with old | added
      · rw [only m inside here] at isInput old
        exact (known isInput g old).mono more
      · rw [List.mem_singleton.1 added]
        exact taken
    · rw [if_neg same] at there
      obtain ⟨k, inside, serial', _, _, known'⟩ := orderly.owned j t' there
      refine ⟨t', there, rfl, rfl, fun m member' here isInput g among => ?_⟩
      have elsewhere : m.serial ≠ s.node.serial := fun both =>
        same (orderly.single i j s t' found there (both.symm.trans here))
      rw [if_neg elsewhere] at among
      rw [Graph.eq_of_serial orderly.tidy member' inside (here.trans serial'.symm)] at isInput among
      exact known' isInput g among

/-- Any condition may be added to a node that is no input. -/
theorem Orderly.addCondition (orderly : w.Orderly) {node : Nat} {guard : Guard}
    (other : ∀ n ∈ w.graph.toList, n.serial = node → n.kind ≠ .collectInput) :
    (w.addCondition node guard).2.Orderly := by
  refine orderly.of_changed (changed_addCondition w node guard)
    (by simp [Workspace.addCondition, modifyNode, orderly.attached]) ?_ ?_ ?_
  · intro n _
    split
    · exact ⟨rfl, rfl, rfl⟩
    · exact ⟨rfl, rfl, rfl⟩
  · intro n member
    have proper := orderly.proper n member
    split
    · rename_i here
      have plain := other n member here
      exact ⟨proper.once, fun input => absurd input plain, fun input => absurd input plain,
        proper.staged, proper.retried, proper.specified⟩
    · exact proper
  · intro i s found
    obtain ⟨m, inside, serial, _, _, known⟩ := orderly.owned i s found
    refine ⟨s, found, rfl, rfl, fun n member here isInput g among => ?_⟩
    have only := Graph.eq_of_serial orderly.tidy member inside (here.trans serial.symm)
    rw [if_neg fun here => other n member here isInput] at among
    rw [only] at isInput among
    exact known isInput g among

theorem node?_eq_some (tidy : w.graph.Tidy) (attached : w.detached = []) {serial : Nat} {n : Node} :
    w.node? serial = some n ↔ n ∈ w.graph.toList ∧ n.serial = serial := by
  rw [node?, attached, List.append_nil]
  constructor
  · exact fun found =>
      ⟨List.mem_of_find?_eq_some found, by simpa using List.find?_some found⟩
  · rintro ⟨member, rfl⟩
    obtain ⟨m, found⟩ : ∃ m, w.graph.toList.find? (·.serial == n.serial) = some m :=
      Option.isSome_iff_exists.1 (List.find?_isSome.2 ⟨n, member, by simp⟩)
    have same : m.serial = n.serial := by simpa using List.find?_some found
    rw [found, Graph.eq_of_serial tidy (List.mem_of_find?_eq_some found) member same]

/-- An error may be added to a node that does not handle it yet. -/
theorem Orderly.addError (orderly : w.Orderly) {node : Nat} {kind : ErrorKind}
    (unhandled : w.handles node kind = false) : (w.addError node kind).2.Orderly := by
  refine orderly.of_changed (changed_addError w node kind)
    (by simp [Workspace.addError, modifyNode, orderly.attached]) ?_ ?_ ?_
  · intro n _
    split
    · exact ⟨rfl, rfl, rfl⟩
    · exact ⟨rfl, rfl, rfl⟩
  · intro n member
    have proper := orderly.proper n member
    split
    · rename_i here
      have absent : kind ∉ n.transitions.kinds := by
        have found := (node?_eq_some orderly.tidy orderly.attached).2 ⟨member, here⟩
        simp only [handles, found, Option.any_some, List.any_eq_false, beq_iff_eq] at unhandled
        rintro among
        obtain ⟨e, inside, same⟩ := List.mem_map.1 among
        exact unhandled e inside same
      refine ⟨?_, proper.inputs, proper.apart, proper.staged, proper.retried, proper.specified⟩
      rw [Node.kinds_plusError]
      exact proper.once.append (List.nodup_singleton _) (by simpa using absent)
    · exact proper
  · intro i s found
    obtain ⟨m, inside, serial, _, _, known⟩ := orderly.owned i s found
    refine ⟨s, found, rfl, rfl, fun n member here isInput g among => ?_⟩
    have only := Graph.eq_of_serial orderly.tidy member inside (here.trans serial.symm)
    have guards : (if n.serial = node then n.plusError kind else n).transitions.guards =
        n.transitions.guards := by split <;> rfl
    rw [guards] at among
    rw [only] at isInput among
    exact known isInput g among

theorem start_named {flow : String} (named : Text.blank flow = false) :
    start flow = .ok { flow, graph := { name := flow }, joins := #[{}],
                       builders := #[{ cursor := 0 }] } := by
  rw [start, named]
  rfl

theorem start_eq {flow : String} (started : Workspace.start flow = .ok w) :
    w = { flow, graph := { name := flow }, joins := #[{}], builders := #[{ cursor := 0 }] } := by
  unfold Workspace.start at started
  split at started
  · cases started
  · exact (Except.ok.inj started).symm

theorem Orderly.start {flow : String} (started : Workspace.start flow = .ok w) : w.Orderly := by
  rw [start_eq started]
  exact ⟨Graph.tidy_empty flow, rfl, by simp [Graph.toList], by simp, by simp⟩

end Workspace

end ContactFlow
