import ContactFlow.Proofs.Orderly

/-!
How the edges of a flow under construction are wired. Every open edge waits at one join point at
most, and whatever happens to the join point happens to the edge.
-/

namespace ContactFlow

namespace Joins

variable {ℓ : Type} {js : Joins ℓ} {j k : Nat}

theorem get_push (js : Joins ℓ) (x : Join ℓ) (k : Nat) :
    Joins.get (js.push x) k = if k = js.size then x else js.get k := by
  unfold Joins.get
  rw [Array.getD_eq_getD_getElem?, Array.getD_eq_getD_getElem?, Array.getElem?_push]
  split
  · rfl
  · rfl

theorem get_modify (js : Joins ℓ) (f : Join ℓ → Join ℓ) (below : j < js.size) (k : Nat) :
    Joins.get (js.modify j f) k = if k = j then f (js.get j) else js.get k := by
  unfold Joins.get
  rw [Array.getD_eq_getD_getElem?, Array.getD_eq_getD_getElem?, Array.getD_eq_getD_getElem?,
    Array.getElem?_modify]
  by_cases here : k = j
  · subst here
    simp [below]
  · simp [here, Ne.symm here]

theorem get_above (above : js.size ≤ j) : js.get j = {} := by
  unfold Joins.get
  rw [Array.getD_eq_getD_getElem?, Array.getElem?_eq_none above]
  rfl

/-- A join point that is added leads nowhere yet. -/
theorem kept_push (js : Joins ℓ) (waiting : List ℓ) (k : Nat) :
    (Joins.get (js.push { waiting }) k).target = (js.get k).target ∧
      (Joins.get (js.push { waiting }) k).forward = (js.get k).forward := by
  rw [get_push]
  split
  · rename_i new
    rw [new, get_above (Nat.le_refl _)]
    exact ⟨rfl, rfl⟩
  · exact ⟨rfl, rfl⟩

/-- A join point that still waits for its target. -/
structure IsOpen (js : Joins ℓ) (j : Nat) : Prop where
  below : j < js.size
  target : (js.get j).target = none
  forward : (js.get j).forward = none

/-- Every forward leads to an earlier join point. -/
def Descends (js : Joins ℓ) : Prop := ∀ j k, (js.get j).forward = some k → k < j

/-- What holds of a join point also holds of the one that takes its edges, if it is handed on along
the forwards. -/
theorem settle_induction (descends : js.Descends) {P : Nat → Prop} (fuel : Nat) (short : j < fuel)
    (start : P j) (step : ∀ j k, P j → (js.get j).target = none → (js.get j).forward = some k → P k) :
    ∃ k, js.settle fuel j = some k ∧ k ≤ j ∧ P k ∧
      ((js.get k).target.isSome ∨ (js.get k).forward = none) := by
  induction fuel generalizing j with
  | zero => exact absurd short (Nat.not_lt_zero j)
  | succ fuel ih =>
    cases target : (js.get j).target with
    | some t =>
      have here : js.settle (fuel + 1) j = some j := if_pos (by simp [target])
      exact ⟨j, here, Nat.le_refl j, start, .inl (by simp [target])⟩
    | none =>
      cases forward : (js.get j).forward with
      | none =>
        have here : js.settle (fuel + 1) j = some j := by simp [Joins.settle, target, forward]
        exact ⟨j, here, Nat.le_refl j, start, .inr forward⟩
      | some k =>
        have onward : js.settle (fuel + 1) j = js.settle fuel k := by
          simp [Joins.settle, target, forward]
        have lower := descends j k forward
        obtain ⟨k', settled, below, holds, last⟩ := ih (by omega) (step j k start target forward)
        exact ⟨k', onward.trans settled, by omega, holds, last⟩

theorem settle_stays {j : Nat} (fuel : Nat)
    (stays : (js.get j).target.isSome ∨ (js.get j).forward = none) :
    js.settle (fuel + 1) j = some j := by
  unfold settle
  by_cases target : (js.get j).target.isSome
  · simp [target]
  · simp [target, stays.resolve_left target]

/-- Forwards end before the fuel does. -/
theorem settle_succ (descends : js.Descends) {fuel j : Nat} (short : j < fuel) :
    js.settle (fuel + 1) j = js.settle fuel j := by
  induction fuel generalizing j with
  | zero => exact absurd short (Nat.not_lt_zero j)
  | succ fuel ih =>
    rw [settle, settle]
    split
    · rfl
    · split
      · rename_i k forward
        have lower := descends j k forward
        exact ih (by omega)
      · rfl

/-- Adding edges changes no target and no forward. -/
theorem addAll_same (js : Joins ℓ) (j : Nat) (links : List ℓ) (i : Nat) :
    ((js.addAll j links).1.get i).target = (js.get i).target ∧
      ((js.addAll j links).1.get i).forward = (js.get i).forward := by
  induction links generalizing js with
  | nil => exact ⟨rfl, rfl⟩
  | cons link rest ih =>
    obtain ⟨target, forward⟩ := ih (js.add j link).1
    have added : ((js.add j link).1.get i).target = (js.get i).target ∧
        ((js.add j link).1.get i).forward = (js.get i).forward := by
      unfold add
      split
      · exact ⟨rfl, rfl⟩
      · rename_i k _
        split
        · exact ⟨rfl, rfl⟩
        · unfold Joins.get
          rw [Array.getD_eq_getD_getElem?, Array.getD_eq_getD_getElem?, Array.getElem?_modify]
          split
          · cases js[i]? <;> exact ⟨rfl, rfl⟩
          · exact ⟨rfl, rfl⟩
    exact ⟨target.trans added.1, forward.trans added.2⟩

/-- Where edges settle is up to the targets and the forwards. -/
theorem settle_congr {js' : Joins ℓ} (same : ∀ i, (js'.get i).target = (js.get i).target ∧
    (js'.get i).forward = (js.get i).forward) (fuel j : Nat) :
    js'.settle fuel j = js.settle fuel j := by
  induction fuel generalizing j with
  | zero => rfl
  | succ fuel ih =>
    unfold settle
    simp only [(same j).1, (same j).2, ih]

/-- Edges are added all at the same join point, or all linked to its target. -/
theorem addAll_eq (js : Joins ℓ) (links : List ℓ) (settled : js.settle (js.size + 1) j = some k)
    (last : (js.get k).target.isSome ∨ (js.get k).forward = none) (below : k < js.size) :
    (∃ t, (js.get k).target = some t ∧ js.addAll j links = (js, links.map (·, t))) ∨
    (js.get k).target = none ∧ (js.addAll j links).2 = [] ∧
      (js.addAll j links).1.size = js.size ∧
      ∀ i, (js.addAll j links).1.get i =
        if i = k then { js.get k with waiting := (js.get k).waiting ++ links } else js.get i := by
  cases target : (js.get k).target with
  | some t =>
    refine .inl ⟨t, rfl, ?_⟩
    induction links with
    | nil => rfl
    | cons link rest ih =>
      have added : js.add j link = (js, [(link, t)]) := by
        unfold add
        rw [settled]
        simp only [target]
      rw [addAll, added]
      simp only [ih]
      rfl
  | none =>
    refine .inr ⟨rfl, ?_⟩
    have open_ : (js.get k).forward = none := by simpa [target] using last
    induction links generalizing js with
    | nil =>
      refine ⟨rfl, rfl, fun i => ?_⟩
      by_cases here : i = k
      · subst here
        simp [addAll]
      · simp [addAll, here]
    | cons link rest ih =>
      let js' : Joins ℓ := js.modify k fun join => { join with waiting := join.waiting ++ [link] }
      have added : js.add j link = (js', []) := by
        unfold add
        rw [settled]
        simp only [target]
        rfl
      have size : js'.size = js.size := Array.size_modify
      have get (i : Nat) : js'.get i =
          if i = k then { js.get k with waiting := (js.get k).waiting ++ [link] } else js.get i :=
        get_modify js _ below i
      have here : js'.get k = { js.get k with waiting := (js.get k).waiting ++ [link] } := by
        rw [get, if_pos rfl]
      have same (i : Nat) : (js'.get i).target = (js.get i).target ∧
          (js'.get i).forward = (js.get i).forward := by
        by_cases there : i = k
        · subst there
          rw [here]
          exact ⟨rfl, rfl⟩
        · rw [get, if_neg there]
          exact ⟨rfl, rfl⟩
      obtain ⟨none, size', all⟩ := ih js' (by rw [size, settle_congr same, settled])
        (by rw [(same k).1, (same k).2]; exact last) (by rw [size]; exact below)
        (by rw [(same k).1, target]) (by rw [(same k).2, open_])
      rw [addAll, added]
      refine ⟨by simp only [none]; rfl, by simp only [size', size], fun i => ?_⟩
      simp only [all i, get i, here]
      by_cases there : i = k
      · simp [there]
      · simp [there]

/-- The edges that wait at a join point that is forwarded come to the join point at which the
forwards end. They are all linked there, or they all wait there. -/
theorem forward_cases (descends : js.Descends) (open_ : js.IsOpen j) (earlier : k < j) :
    ∃ e < j, (∀ P : Nat → Prop, P k →
        (∀ i i', P i → (js.get i).target = none → (js.get i).forward = some i' → P i') → P e) ∧
      ((∃ t, (js.get e).target = some t ∧
          js.forward j k = (js.modify j fun join => { join with waiting := [], forward := some k },
            (js.get j).waiting.map (·, t))) ∨
        (js.get e).target = none ∧ (js.get e).forward = none ∧ (js.forward j k).2 = [] ∧
          ∀ i, (js.forward j k).1.get i =
            if i = e then { js.get e with waiting := (js.get e).waiting ++ (js.get j).waiting }
            else if i = j then { js.get j with waiting := [], forward := some k }
            else js.get i) := by
  let handed : Joins ℓ := js.modify j fun join => { join with waiting := [], forward := some k }
  have get (i : Nat) : handed.get i =
      if i = j then { js.get j with waiting := [], forward := some k } else js.get i :=
    get_modify _ _ open_.below i
  have other {i : Nat} (apart : i ≠ j) : handed.get i = js.get i := by rw [get, if_neg apart]
  have size : handed.size = js.size := Array.size_modify
  have descends' : handed.Descends := by
    intro i i' forward
    by_cases apart : i = j
    · subst apart
      rw [get, if_pos rfl] at forward
      cases forward
      exact earlier
    · rw [other apart] at forward
      exact descends i i' forward
  have below := open_.below
  -- what holds along the forwards is carried together with the bound that keeps clear of `j`
  obtain ⟨e, settled, lower, ⟨before, holds⟩, ends⟩ := settle_induction descends'
    (P := fun i => i < j ∧ ∀ P : Nat → Prop, P k →
      (∀ i i', P i → (js.get i).target = none → (js.get i).forward = some i' → P i') → P i)
    (js.size + 1) (by omega) ⟨earlier, fun P start _ => start⟩ (by
      rintro i i' ⟨before, holds⟩ target forward
      rw [other (Nat.ne_of_lt before)] at target forward
      exact ⟨Nat.lt_trans (descends i i' forward) before,
        fun P start step => step i i' (holds P start step) target forward⟩)
  rw [other (Nat.ne_of_lt before)] at ends
  have settled' : handed.settle (handed.size + 1) k = some e := by rw [size]; exact settled
  have ends' : (handed.get e).target.isSome ∨ (handed.get e).forward = none := by
    rw [other (Nat.ne_of_lt before)]
    exact ends
  have below' : e < handed.size := by rw [size]; exact Nat.lt_trans before below
  refine ⟨e, before, holds, ?_⟩
  have unfolded : js.forward j k = handed.addAll k (js.get j).waiting := rfl
  rcases handed.addAll_eq (js.get j).waiting settled' ends' below' with
    ⟨t, known, linked⟩ | ⟨free, silent, _, added⟩
  · rw [other (Nat.ne_of_lt before)] at known
    exact .inl ⟨t, known, unfolded.trans linked⟩
  · rw [other (Nat.ne_of_lt before)] at free added
    have stays : (js.get e).forward = none := by simpa [free] using ends
    refine .inr ⟨free, stays, by rw [unfolded, silent], fun i => ?_⟩
    rw [unfolded, added]
    split
    · rfl
    · exact get i

theorem size_forward (js : Joins ℓ) (j k : Nat) : (js.forward j k).1.size = js.size := by
  have each (js : Joins ℓ) (links : List ℓ) : (js.addAll k links).1.size = js.size := by
    induction links generalizing js with
    | nil => rfl
    | cons link rest ih =>
      have added : (js.add k link).1.size = js.size := by
        unfold add
        split
        · rfl
        · split
          · rfl
          · exact Array.size_modify
      exact (ih (js.add k link).1).trans added
  exact (each _ _).trans Array.size_modify

theorem get_forward (below : j < js.size) (k i : Nat) :
    ((js.forward j k).1.get i).target = (js.get i).target ∧
      ((js.forward j k).1.get i).forward = if i = j then some k else (js.get i).forward := by
  let handed : Joins ℓ := js.modify j fun join => { join with waiting := [], forward := some k }
  obtain ⟨target, forward⟩ := handed.addAll_same k (js.get j).waiting i
  have get : handed.get i =
      if i = j then { js.get j with waiting := [], forward := some k } else js.get i :=
    get_modify _ _ below i
  have target : ((js.forward j k).1.get i).target = (handed.get i).target := target
  have forward : ((js.forward j k).1.get i).forward = (handed.get i).forward := forward
  rw [target, forward, get]
  split
  · rename_i here
    rw [here]
    exact ⟨rfl, rfl⟩
  · exact ⟨rfl, rfl⟩

end Joins

namespace Slot

/-- The target of an edge among transitions, if the edge is there. -/
def read (s : Slot) (t : Transitions) : Option (Option String) :=
  match s with
  | .next _ => some t.next
  | .condition _ i => t.conditions[i]?.map (·.target)
  | .error _ i => t.errors[i]?.map (·.target)

theorem read_assign_self {s : Slot} {t : Transitions} (target : String)
    (there : (s.read t).isSome) : s.read (s.assignIn t target) = some (some target) := by
  cases s with
  | next n => rfl
  | condition n i =>
    obtain ⟨_, found⟩ := Option.isSome_iff_exists.1 there
    obtain ⟨e, found, _⟩ := Option.map_eq_some_iff.1 found
    simp [read, assignIn, found]
  | error n i =>
    obtain ⟨_, found⟩ := Option.isSome_iff_exists.1 there
    obtain ⟨e, found, _⟩ := Option.map_eq_some_iff.1 found
    simp [read, assignIn, found]

theorem read_assign_other {s s' : Slot} (other : s' ≠ s) (same : s'.node = s.node)
    (t : Transitions) (target : String) : s'.read (s.assignIn t target) = s'.read t := by
  cases s with
  | next n =>
    cases s' with
    | next n' => exact absurd (congrArg Slot.next same) other
    | condition => rfl
    | error => rfl
  | condition n i =>
    cases s' with
    | next => rfl
    | condition n' i' =>
      have apart : i ≠ i' := fun indices =>
        other (by rw [indices]; exact congrArg (Slot.condition · i') same)
      simp [read, assignIn, apart]
    | error => rfl
  | error n i =>
    cases s' with
    | next => rfl
    | condition => rfl
    | error n' i' =>
      have apart : i ≠ i' := fun indices =>
        other (by rw [indices]; exact congrArg (Slot.error · i') same)
      simp [read, assignIn, apart]

end Slot

namespace Graph

variable {g g' : Graph} {s : Slot} {x y : Option String}

/-- An edge of the graph, with the target that it has so far. -/
def Edge (g : Graph) (s : Slot) (x : Option String) : Prop :=
  ∃ n ∈ g.toList, n.serial = s.node ∧ s.read n.transitions = some x

theorem Edge.read (tidy : g.Tidy) (edge : g.Edge s x) {n : Node} (member : n ∈ g.toList)
    (serial : n.serial = s.node) : s.read n.transitions = some x := by
  obtain ⟨m, inside, serial', read⟩ := edge
  rw [eq_of_serial tidy member inside (serial.trans serial'.symm)]
  exact read

theorem Edge.unique (tidy : g.Tidy) (edge : g.Edge s x) (edge' : g.Edge s y) : x = y := by
  obtain ⟨n, member, serial, read⟩ := edge
  exact Option.some.inj (read.symm.trans (edge'.read tidy member serial))

theorem Edge.assign (edge : g.Edge s x) (s' : Slot) (target : String) :
    (g.modifyNode s'.node (s'.assign target)).Edge s (if s = s' then some target else x) := by
  obtain ⟨n, member, serial, read⟩ := edge
  have changed := changed_modifyNode g s'.node (s'.assign target)
  refine ⟨_, changed.toList ▸ List.mem_map_of_mem member, ?_, ?_⟩
  · split
    · exact serial
    · exact serial
  · by_cases same : s = s'
    · subst same
      rw [if_pos serial, if_pos rfl]
      exact Slot.read_assign_self target (by rw [read]; rfl)
    · rw [if_neg same]
      by_cases here : n.serial = s'.node
      · rw [if_pos here, ← read]
        exact Slot.read_assign_other same (serial.symm.trans here) ..
      · rw [if_neg here, read]

/-- The graph with edges linked to a target. -/
def assignAll (g : Graph) (slots : List Slot) (target : String) : Graph :=
  slots.foldl (fun g s => g.modifyNode s.node (s.assign target)) g

theorem relinked_assignAll (g : Graph) (slots : List Slot) (target : String) :
    g.Relinked (g.assignAll slots target) := by
  induction slots generalizing g with
  | nil => exact .refl g
  | cons s rest ih => exact (relinked_assign g s target).trans (ih _)

theorem Edge.assignAll (edge : g.Edge s x) (slots : List Slot) (target : String) :
    (g.assignAll slots target).Edge s (if s ∈ slots then some target else x) := by
  induction slots generalizing g x with
  | nil => simpa [Graph.assignAll] using edge
  | cons s' rest ih =>
    have onward := ih (edge.assign s' target)
    change (g.assignAll (s' :: rest) target).Edge s _ at onward
    by_cases here : s = s'
    · simpa [here] using onward
    · simpa [here] using onward

/-- A change of a node that leaves its edges as they are and may add others. -/
structure AddsEdges (f : Node → Node) : Prop where
  id : ∀ n, (f n).id = n.id
  serial : ∀ n, (f n).serial = n.serial
  read : ∀ n (s : Slot) x, s.read n.transitions = some x → s.read (f n).transitions = some x

theorem addsEdges_plusCondition (guard : Guard) : AddsEdges (Node.plusCondition guard) := by
  refine ⟨fun _ => rfl, fun _ => rfl, fun n s x there => ?_⟩
  cases s with
  | next => exact there
  | condition m i =>
    obtain ⟨e, found, rfl⟩ := Option.map_eq_some_iff.1 there
    simp only [Slot.read, Node.plusCondition]
    rw [List.getElem?_append_left (List.getElem?_eq_some_iff.1 found).1, found]
    rfl
  | error => exact there

theorem addsEdges_plusError (kind : ErrorKind) : AddsEdges (Node.plusError kind) := by
  refine ⟨fun _ => rfl, fun _ => rfl, fun n s x there => ?_⟩
  cases s with
  | next => exact there
  | condition => exact there
  | error m i =>
    obtain ⟨e, found, rfl⟩ := Option.map_eq_some_iff.1 there
    simp only [Slot.read, Node.plusError]
    rw [List.getElem?_append_left (List.getElem?_eq_some_iff.1 found).1, found]
    rfl

theorem Edge.modifyNode {f : Node → Node} (adds : AddsEdges f) (serial : Nat) (edge : g.Edge s x) :
    (g.modifyNode serial f).Edge s x := by
  obtain ⟨n, member, same, read⟩ := edge
  refine ⟨_, (changed_modifyNode g serial f).toList ▸ List.mem_map_of_mem member, ?_, ?_⟩
  · split
    · rw [adds.serial, same]
    · exact same
  · split
    · exact adds.read n s x read
    · exact read

/-- The change gives a node one place more for an edge, which leads nowhere yet. -/
structure AddsSlot (f : Node → Node) (n : Node) (slot : Slot) : Prop extends AddsEdges f where
  here : slot.node = n.serial
  kind : (f n).kind = n.kind
  absent : slot.read n.transitions = none
  opens : slot.read (f n).transitions = some none
  only : ∀ s x, s.node = n.serial → s.read (f n).transitions = some x →
    s.read n.transitions = some x ∨ s = slot

theorem last_of_append {α : Type} {l : List α} {e : α} {target : α → Option String} {i : Nat}
    {x : Option String} (found : (l ++ [e])[i]?.map target = some x) :
    l[i]?.map target = some x ∨ i = l.length := by
  rcases Nat.lt_trichotomy i l.length with before | last | after
  · rw [List.getElem?_append_left before] at found
    exact .inl found
  · exact .inr last
  · rw [List.getElem?_eq_none (by simpa using Nat.succ_le_of_lt after)] at found
    cases found

theorem addsSlot_plusCondition (guard : Guard) (n : Node) :
    AddsSlot (Node.plusCondition guard) n
      (.condition n.serial n.transitions.conditions.length) where
  toAddsEdges := addsEdges_plusCondition guard
  here := rfl
  kind := rfl
  absent := by simp [Slot.read]
  opens := by simp [Slot.read, Node.plusCondition]
  only := by
    intro s x here read
    cases s with
    | next => exact .inl read
    | condition m i =>
      have same : m = n.serial := here
      exact (last_of_append read).imp_right fun last => by rw [same, last]
    | error => exact .inl read

theorem addsSlot_plusError (kind : ErrorKind) (n : Node) :
    AddsSlot (Node.plusError kind) n (.error n.serial n.transitions.errors.length) where
  toAddsEdges := addsEdges_plusError kind
  here := rfl
  kind := rfl
  absent := by simp [Slot.read]
  opens := by simp [Slot.read, Node.plusError]
  only := by
    intro s x here read
    cases s with
    | next => exact .inl read
    | condition => exact .inl read
    | error m i =>
      have same : m = n.serial := here
      exact (last_of_append read).imp_right fun last => by rw [same, last]

section AddsSlot

variable {f : Node → Node} {n : Node} {slot : Slot}

theorem AddsSlot.new (adds : AddsSlot f n slot) (tidy : g.Tidy) (member : n ∈ g.toList)
    (x : Option String) : ¬ g.Edge slot x := fun edge => by
  have read := edge.read tidy member adds.here.symm
  rw [adds.absent] at read
  cases read

theorem AddsSlot.edge (adds : AddsSlot f n slot) (member : n ∈ g.toList) :
    (g.modifyNode n.serial f).Edge slot none := by
  refine ⟨f n, ?_, (adds.serial n).trans adds.here.symm, adds.opens⟩
  rw [(changed_modifyNode g n.serial f).toList]
  exact List.mem_map.2 ⟨n, member, if_pos rfl⟩

end AddsSlot

theorem Relinked.tidy (relinked : g.Relinked g') (tidy : g.Tidy) : g'.Tidy := by
  obtain ⟨f, changed, alike⟩ := relinked
  exact changed.tidy (fun n _ => ⟨(alike n).id, (alike n).serial⟩) tidy

theorem Relinked.alike (relinked : g.Relinked g') {n : Node} (member : n ∈ g.toList) :
    ∃ n' ∈ g'.toList, n'.Alike n := by
  obtain ⟨f, changed, alike⟩ := relinked
  exact ⟨f n, changed.toList ▸ List.mem_map_of_mem member, alike n⟩

end Graph

namespace Workspace

variable {w w' w'' : Workspace}

theorem link_eq (attached : w.detached = []) (js : Joins Slot) (slots : List Slot)
    (target : String) : w.link (js, slots.map (·, target)) =
      { w with graph := w.graph.assignAll slots target, joins := js } := by
  have each (w : Workspace) (attached : w.detached = []) :
      (slots.map (·, target)).foldl (fun w l => w.modifyNode l.1.node (l.1.assign l.2)) w =
      { w with graph := w.graph.assignAll slots target } := by
    induction slots generalizing w with
    | nil => rfl
    | cons s rest ih =>
      have first : (w.modifyNode s.node (s.assign target)).detached = [] := by
        simp [modifyNode, attached]
      rw [List.map_cons, List.foldl_cons, ih _ first]
      simp [modifyNode, Graph.assignAll, attached]
  rw [link_foldl]
  exact each { w with joins := js } attached

/-- What holds of the edges and the join points of every flow built step by step: an edge that waits
is open and waits at one join point, and nothing waits where a target is known or edges are handed
on. -/
structure Sound (w : Workspace) : Prop where
  tidy : w.graph.Tidy
  attached : w.detached = []
  waiting : ∀ j, ∀ s ∈ (w.joins.get j).waiting, w.graph.Edge s none
  apart : ∀ j k s, s ∈ (w.joins.get j).waiting → s ∈ (w.joins.get k).waiting → j = k
  settled : ∀ j, (w.joins.get j).target.isSome ∨ (w.joins.get j).forward.isSome →
    (w.joins.get j).waiting = []
  descends : w.joins.Descends

/-- The graph that a flow ends up with, and the targets that its join points finally lead to. -/
structure Future where
  graph : Graph
  leads : Nat → Option String

/-- What a workspace ends up with. The nodes that still grow may get more edges; a join point that
is open leads nowhere unless it is live. -/
structure Becomes (w : Workspace) (F : Future) (growing live : List Nat) : Prop where
  nodes : ∀ n ∈ w.graph.toList, n.serial ∉ growing → ∃ m ∈ F.graph.toList, m.Alike n
  linked : ∀ s t, w.graph.Edge s (some t) → F.graph.Edge s (some t)
  waiting : ∀ j, ∀ s ∈ (w.joins.get j).waiting, F.graph.Edge s (F.leads j)
  resolved : ∀ j t, (w.joins.get j).target = some t → F.leads j = some t
  forwarded : ∀ j k, (w.joins.get j).target = none → (w.joins.get j).forward = some k →
    F.leads j = F.leads k
  idle : ∀ j, w.joins.IsOpen j → j ∉ live → F.leads j = none

/-- The second workspace comes from the first one, and whatever the second one ends up with the first
one does. The nodes, builders, sets of branches and join points that change are among those listed;
others may have been added. -/
structure Onward (nodes builders sets joins : List Nat) (w w' : Workspace) : Prop where
  sound : w'.Sound
  count : w.graph.count ≤ w'.graph.count
  used : w.graph.allocator.used ⊆ w'.graph.allocator.used
  entry : ∀ id, w.graph.entry = some id → w'.graph.entry = some id
  kept : ∀ n ∈ w.graph.toList, n.serial ∉ nodes → ∃ n' ∈ w'.graph.toList, n'.Alike n
  builders_grow : w.builders.size ≤ w'.builders.size
  builder : ∀ i < w.builders.size, i ∉ builders → w'.builder i = w.builder i
  sets_grow : w.sets.size ≤ w'.sets.size
  set : ∀ i < w.sets.size, i ∉ sets → w'.branches i = w.branches i
  joins_grow : w.joins.size ≤ w'.joins.size
  join : ∀ j < w.joins.size, j ∉ joins → (w'.joins.get j).target = (w.joins.get j).target ∧
    (w'.joins.get j).forward = (w.joins.get j).forward
  back : ∀ F growing live, nodes ⊆ growing → joins ⊆ live → w'.Becomes F growing live →
    w.Becomes F growing live

namespace Becomes

variable {F : Future} {growing growing' live live' : List Nat}

/-- More nodes may grow, and more join points may be live. -/
theorem mono (becomes : w.Becomes F growing live) (nodes : growing ⊆ growing')
    (joins : live ⊆ live') : w.Becomes F growing' live' where
  nodes := fun n member outside => becomes.nodes n member fun among => outside (nodes among)
  linked := becomes.linked
  waiting := becomes.waiting
  resolved := becomes.resolved
  forwarded := becomes.forwarded
  idle := fun j open_ outside => becomes.idle j open_ fun among => outside (joins among)

/-- Only nodes and join points that are there count. -/
theorem restrict (becomes : w.Becomes F growing live) (sound : w.Sound)
    (nodes : ∀ i ∈ growing, i < w.graph.count → i ∈ growing')
    (joins : ∀ j ∈ live, j < w.joins.size → j ∈ live') : w.Becomes F growing' live' where
  nodes := fun n member outside => becomes.nodes n member fun among =>
    outside (nodes _ among (sound.tidy.counted n member))
  linked := becomes.linked
  waiting := becomes.waiting
  resolved := becomes.resolved
  forwarded := becomes.forwarded
  idle := fun j open_ outside => becomes.idle j open_ fun among =>
    outside (joins j among open_.below)

/-- Nothing but the graph and the join points counts. -/
theorem congr (becomes : w'.Becomes F growing live) (graph : w'.graph = w.graph)
    (joins : w'.joins = w.joins) : w.Becomes F growing live := by
  obtain ⟨nodes, linked, waiting, resolved, forwarded, idle⟩ := becomes
  rw [graph] at nodes linked
  rw [joins] at waiting resolved forwarded idle
  exact ⟨nodes, linked, waiting, resolved, forwarded, idle⟩

end Becomes

namespace Onward

variable {nodes nodes' builders builders' sets sets' joins joins' : List Nat}

theorem refl (sound : w.Sound) : Onward nodes builders sets joins w w where
  sound := sound
  count := Nat.le_refl _
  used := List.Subset.refl _
  entry := fun _ first => first
  kept := fun n member _ => ⟨n, member, .refl n⟩
  builders_grow := Nat.le_refl _
  builder := fun _ _ _ => rfl
  sets_grow := Nat.le_refl _
  set := fun _ _ _ => rfl
  joins_grow := Nat.le_refl _
  join := fun _ _ _ => ⟨rfl, rfl⟩
  back := fun _ _ _ _ _ becomes => becomes

theorem trans (first : Onward nodes builders sets joins w w')
    (second : Onward nodes builders sets joins w' w'') :
    Onward nodes builders sets joins w w'' where
  sound := second.sound
  count := Nat.le_trans first.count second.count
  used := List.Subset.trans first.used second.used
  entry := fun id given => second.entry id (first.entry id given)
  kept := fun n member outside => by
    obtain ⟨n', member', alike⟩ := first.kept n member outside
    obtain ⟨n'', member'', alike'⟩ := second.kept n' member' (by rwa [alike.serial])
    exact ⟨n'', member'', alike'.trans alike⟩
  builders_grow := Nat.le_trans first.builders_grow second.builders_grow
  builder := fun i below outside =>
    (second.builder i (Nat.lt_of_lt_of_le below first.builders_grow) outside).trans
      (first.builder i below outside)
  sets_grow := Nat.le_trans first.sets_grow second.sets_grow
  set := fun i below outside =>
    (second.set i (Nat.lt_of_lt_of_le below first.sets_grow) outside).trans
      (first.set i below outside)
  joins_grow := Nat.le_trans first.joins_grow second.joins_grow
  join := fun j below outside => by
    obtain ⟨target, forward⟩ := first.join j below outside
    obtain ⟨target', forward'⟩ :=
      second.join j (Nat.lt_of_lt_of_le below first.joins_grow) outside
    exact ⟨target'.trans target, forward'.trans forward⟩
  back := fun F growing live grows lives becomes =>
    first.back F growing live grows lives (second.back F growing live grows lives becomes)

theorem isOpen (onward : Onward nodes builders sets joins w w') {j : Nat} (apart : j ∉ joins)
    (open_ : w.joins.IsOpen j) : w'.joins.IsOpen j := by
  have same := onward.join j open_.below apart
  exact ⟨Nat.lt_of_lt_of_le open_.below onward.joins_grow, same.1.trans open_.target,
    same.2.trans open_.forward⟩

/-- What was added need not be listed. -/
theorem weaken (onward : Onward nodes builders sets joins w w') (sound : w.Sound)
    (nodes_known : ∀ i ∈ nodes, i < w.graph.count → i ∈ nodes')
    (builders_known : ∀ i ∈ builders, i < w.builders.size → i ∈ builders')
    (sets_known : ∀ i ∈ sets, i < w.sets.size → i ∈ sets')
    (joins_known : ∀ j ∈ joins, j < w.joins.size → j ∈ joins') :
    Onward nodes' builders' sets' joins' w w' where
  sound := onward.sound
  count := onward.count
  used := onward.used
  entry := onward.entry
  kept := fun n member outside => onward.kept n member fun among =>
    outside (nodes_known _ among (sound.tidy.counted n member))
  builders_grow := onward.builders_grow
  builder := fun i below outside => onward.builder i below fun among =>
    outside (builders_known i among below)
  sets_grow := onward.sets_grow
  set := fun i below outside => onward.set i below fun among => outside (sets_known i among below)
  joins_grow := onward.joins_grow
  join := fun j below outside => onward.join j below fun among =>
    outside (joins_known j among below)
  back := fun F growing live grows lives becomes => by
    have more := becomes.mono (List.subset_append_left growing nodes)
      (List.subset_append_left live joins)
    refine (onward.back F _ _ (List.subset_append_right ..) (List.subset_append_right ..)
      more).restrict sound ?_ ?_
    · intro i among below
      rcases List.mem_append.1 among with old | new
      · exact old
      · exact grows (nodes_known i new below)
    · intro j among below
      rcases List.mem_append.1 among with old | new
      · exact old
      · exact lives (joins_known j new below)

/-- One step after the other, when what the second one changes was not there or is listed. -/
theorem chain (sound : w.Sound) (first : Onward nodes builders sets joins w w')
    (second : Onward nodes' builders' sets' joins' w' w'')
    (nodes_known : ∀ i ∈ nodes', i < w.graph.count → i ∈ nodes)
    (builders_known : ∀ i ∈ builders', i < w.builders.size → i ∈ builders)
    (sets_known : ∀ i ∈ sets', i < w.sets.size → i ∈ sets)
    (joins_known : ∀ j ∈ joins', j < w.joins.size → j ∈ joins) :
    Onward nodes builders sets joins w w'' := by
  have known {l l' : List Nat} {bound : Nat} (known : ∀ i ∈ l', i < bound → i ∈ l) :
      ∀ i ∈ l ++ l', i < bound → i ∈ l := by
    intro i among below
    rcases List.mem_append.1 among with old | new
    · exact old
    · exact known i new below
  have one : Onward (nodes ++ nodes') (builders ++ builders') (sets ++ sets') (joins ++ joins') w w' :=
    first.weaken sound (fun _ among _ => List.mem_append_left _ among)
      (fun _ among _ => List.mem_append_left _ among)
      (fun _ among _ => List.mem_append_left _ among)
      fun _ among _ => List.mem_append_left _ among
  have two : Onward (nodes ++ nodes') (builders ++ builders') (sets ++ sets') (joins ++ joins') w' w'' :=
    second.weaken first.sound (fun _ among _ => List.mem_append_right _ among)
      (fun _ among _ => List.mem_append_right _ among)
      (fun _ among _ => List.mem_append_right _ among)
      fun _ among _ => List.mem_append_right _ among
  exact (one.trans two).weaken sound (known nodes_known) (known builders_known) (known sets_known)
    (known joins_known)

end Onward

/-! ### What a flow has come to -/

/-- The flow as it is, with the targets that its join points lead to so far. -/
def present (w : Workspace) : Future where
  graph := w.graph
  leads := fun j => (w.joins.settle (w.joins.size + 1) j).bind fun k => (w.joins.get k).target

theorem present_target {j : Nat} {t : String} (target : (w.joins.get j).target = some t) :
    w.present.leads j = some t := by
  have settled : w.joins.settle (w.joins.size + 1) j = some j :=
    Joins.settle_stays _ (.inl (by simp [target]))
  simp [present, settled, target]

theorem present_open {j : Nat} (target : (w.joins.get j).target = none)
    (forward : (w.joins.get j).forward = none) : w.present.leads j = none := by
  have settled : w.joins.settle (w.joins.size + 1) j = some j :=
    Joins.settle_stays _ (.inr forward)
  simp [present, settled, target]

theorem present_forward (descends : w.joins.Descends) {j k : Nat}
    (target : (w.joins.get j).target = none) (forward : (w.joins.get j).forward = some k) :
    w.present.leads j = w.present.leads k := by
  have lower := descends j k forward
  have below : j < w.joins.size := by
    by_contra above
    simp [Joins.get_above (Nat.le_of_not_lt above)] at forward
  have onward : w.joins.settle (w.joins.size + 1) j = w.joins.settle w.joins.size k := by
    rw [Joins.settle]
    simp [target, forward]
  rw [present]
  simp only [onward, Joins.settle_succ descends (Nat.lt_trans lower below)]

theorem becomes_present (sound : w.Sound) : w.Becomes w.present [] [] := by
  refine ⟨fun n member _ => ⟨n, member, .refl n⟩, fun _ _ edge => edge, fun j s waits => ?_,
    fun j t target => present_target target,
    fun j k target forward => present_forward sound.descends target forward,
    fun j open_ _ => present_open open_.target open_.forward⟩
  have idle : ¬ ((w.joins.get j).target.isSome ∨ (w.joins.get j).forward.isSome) := fun done => by
    rw [sound.settled j done] at waits
    cases waits
  rw [not_or, Bool.not_eq_true, Option.isSome_eq_false_iff, Option.isNone_iff_eq_none,
    Bool.not_eq_true, Option.isSome_eq_false_iff, Option.isNone_iff_eq_none] at idle
  rw [present_open idle.1 idle.2]
  exact sound.waiting j s waits

theorem sound_start {flow : String} (started : Workspace.start flow = .ok w) : w.Sound := by
  have tidy := (Orderly.start started).tidy
  have made := start_eq started
  have get (i : Nat) : w.joins.get i = {} := by
    rw [made]
    rcases i with _ | i
    · rfl
    · exact Joins.get_above (Nat.succ_le_succ (Nat.zero_le i))
  have attached : w.detached = [] := by rw [made]
  exact ⟨tidy, attached, by simp [get], by simp [get], by simp [get], by simp [get, Joins.Descends]⟩

end Workspace

end ContactFlow
