import ContactFlow.Expansion.Retry
import ContactFlow.Expansion.Stage
import ContactFlow.Proofs.Tidy
import Mathlib.Data.List.Pairwise

/-!
Expansion of a graph node by node. Every step writes one node anew and may add others under fresh
identifiers; whatever it leaves behind stays until the end, since each node is expanded once.
-/

namespace ContactFlow.Graph

/-- The second graph has the nodes of the first, and maybe more under fresh identifiers. -/
structure Extends (g g' : Graph) : Prop where
  tidy : g'.Tidy
  kept : ∀ n ∈ g.toList, n ∈ g'.toList
  fresh : ∀ n ∈ g'.toList, n ∈ g.toList ∨ n.id ∉ g.allocator.used ∧ g.count ≤ n.serial
  used : g.allocator.used ⊆ g'.allocator.used
  count : g.count ≤ g'.count
  entry : g.entry.isSome → g'.entry = g.entry

variable {g g' g'' : Graph} {n n' m : Node}

namespace Extends

theorem refl (tidy : g.Tidy) : g.Extends g where
  tidy := tidy
  kept := fun _ member => member
  fresh := fun _ member => .inl member
  used := List.Subset.refl _
  count := Nat.le_refl _
  entry := fun _ => rfl

theorem trans (first : g.Extends g') (second : g'.Extends g'') : g.Extends g'' where
  tidy := second.tidy
  kept := fun n member => second.kept n (first.kept n member)
  fresh := by
    intro n member
    rcases second.fresh n member with old | ⟨free, above⟩
    · exact first.fresh n old
    · exact .inr ⟨fun taken => free (first.used taken), Nat.le_trans first.count above⟩
  used := List.Subset.trans first.used second.used
  count := Nat.le_trans first.count second.count
  entry := fun given => by
    have same := first.entry given
    rw [second.entry (same ▸ given), same]

theorem of_grown (tidy : g.Tidy) (grown : g.Grown n g') : g.Extends g' where
  tidy := grown.tidy tidy
  kept := fun m member => by
    rw [grown.toList]
    exact List.mem_append_left _ member
  fresh := by
    rw [grown.toList]
    intro m member
    rcases List.mem_append.1 member with old | new
    · exact .inl old
    · rw [List.mem_singleton.1 new]
      exact .inr ⟨grown.fresh, Nat.le_of_eq grown.serial.symm⟩
  used := grown.used ▸ List.subset_append_left _ _
  count := by
    rw [grown.count]
    exact Nat.le_succ _
  entry := fun given => by
    obtain ⟨id, there⟩ := Option.isSome_iff_exists.1 given
    rw [grown.entry, there, Option.getD_some]

/-- The nodes that were added may change. -/
theorem changed (tidy : g.Tidy) (extended : g.Extends g') {f : Node → Node}
    (changed : g'.Changed f g'') (keeps : g'.Keeps f)
    (old : ∀ n ∈ g'.toList, n.serial < g.count → f n = n) : g.Extends g'' where
  tidy := changed.tidy keeps extended.tidy
  kept := fun n member => by
    have there := extended.kept n member
    rw [changed.toList]
    exact List.mem_map.2 ⟨n, there, old n there (tidy.counted n member)⟩
  fresh := by
    rw [changed.toList]
    intro n member
    obtain ⟨m, inside, rfl⟩ := List.mem_map.1 member
    rcases extended.fresh m inside with here | ⟨free, above⟩
    · rw [old m inside (tidy.counted m here)]
      exact .inl here
    · rw [(keeps m inside).1, (keeps m inside).2]
      exact .inr ⟨free, above⟩
  used := changed.allocator ▸ extended.used
  count := changed.count ▸ extended.count
  entry := fun given => changed.entry.trans (extended.entry given)

end Extends

/-- The second graph has a node under an identifier that the first one has not used. -/
def Adds (g g' : Graph) (m : Node) : Prop := m ∈ g'.toList ∧ m.id ∉ g.allocator.used

namespace Adds

theorem of_grown (grown : g.Grown n g') : g.Adds g' n := by
  refine ⟨?_, grown.fresh⟩
  rw [grown.toList]
  exact List.mem_append_right _ (List.mem_singleton_self n)

theorem after (added : g'.Adds g'' m) (extended : g.Extends g') : g.Adds g'' m :=
  ⟨added.1, fun taken => added.2 (extended.used taken)⟩

theorem before (added : g.Adds g' m) (extended : g'.Extends g'') : g.Adds g'' m :=
  ⟨extended.kept m added.1, added.2⟩

theorem serial (added : g.Adds g' m) (tidy : g.Tidy) (extended : g.Extends g') :
    g.count ≤ m.serial := by
  rcases extended.fresh m added.1 with old | ⟨_, above⟩
  · exact absurd (tidy.used _ ((mem_keys tidy).2 ⟨m, old, rfl⟩)) added.2
  · exact above

end Adds

/-- The second graph has a node written anew, and maybe more nodes under fresh identifiers. -/
structure Rewrites (n n' : Node) (g g' : Graph) : Prop where
  tidy : g'.Tidy
  placed : n' ∈ g'.toList
  id : n'.id = n.id
  serial : n'.serial = n.serial
  kept : ∀ m ∈ g.toList, m.serial ≠ n.serial → m ∈ g'.toList
  fresh : ∀ m ∈ g'.toList, m.id ∈ g.keys ∨ m.id ∉ g.allocator.used
  used : g.allocator.used ⊆ g'.allocator.used
  count : g.count ≤ g'.count
  entry : g.entry.isSome → g'.entry = g.entry

theorem Extends.rewrites (tidy : g.Tidy) (extended : g.Extends g') (member : n ∈ g.toList)
    (n' : Node) (id : n'.id = n.id) (serial : n'.serial = n.serial) :
    Rewrites n n' g (g'.modifyNode n.serial fun _ => n') := by
  have changed := changed_modifyNode g' n.serial fun _ => n'
  have only (m : Node) (inside : m ∈ g'.toList) (here : m.serial = n.serial) : m = n :=
    eq_of_serial extended.tidy inside (extended.kept n member) here
  have keeps : g'.Keeps fun m => if m.serial = n.serial then n' else m :=
    keeps_if fun m inside here => by rw [only m inside here]; exact ⟨id, serial⟩
  refine ⟨changed.tidy keeps extended.tidy, ?_, id, serial, ?_, ?_, extended.used,
    extended.count, extended.entry⟩
  · rw [changed.toList]
    exact List.mem_map.2 ⟨n, extended.kept n member, if_pos rfl⟩
  · intro m inside other
    rw [changed.toList]
    exact List.mem_map.2 ⟨m, extended.kept m inside, if_neg other⟩
  · rw [changed.toList]
    intro m inside
    obtain ⟨k, there, rfl⟩ := List.mem_map.1 inside
    rw [(keeps k there).1]
    rcases extended.fresh k there with old | ⟨free, _⟩
    · exact .inl ((mem_keys tidy).2 ⟨k, old, rfl⟩)
    · exact .inr free

theorem Rewrites.refl (tidy : g.Tidy) (member : n ∈ g.toList) : Rewrites n n g g where
  tidy := tidy
  placed := member
  id := rfl
  serial := rfl
  kept := fun _ inside _ => inside
  fresh := fun m inside => .inl ((mem_keys tidy).2 ⟨m, inside, rfl⟩)
  used := List.Subset.refl _
  count := Nat.le_refl _
  entry := fun _ => rfl

/-! ### All nodes one after the other -/

section Fold

variable {σ : Type}

/-- A step of an expansion: a node is written anew, unless something is amiss, and what is amiss
stays so. -/
structure Expands (graph : σ → Graph) (fine : σ → Prop) (step : σ → Node → σ) : Prop where
  sticky : ∀ s n, fine (step s n) → fine s
  rewrites : ∀ s n, (graph s).Tidy → n ∈ (graph s).toList →
    ∃ n', Rewrites n n' (graph s) (graph (step s n))

variable {graph : σ → Graph} {fine : σ → Prop} {step : σ → Node → σ} {l : List Node} {s : σ}

/-- What the whole expansion leaves as it is. -/
structure Expanded (l : List Node) (g g' : Graph) : Prop where
  tidy : g'.Tidy
  kept : ∀ m ∈ g.toList, m.serial ∉ l.map (·.serial) → m ∈ g'.toList
  fresh : ∀ m ∈ g'.toList, m.id ∈ g.keys ∨ m.id ∉ g.allocator.used
  used : g.allocator.used ⊆ g'.allocator.used
  entry : g.entry.isSome → g'.entry = g.entry

/-- What came through to the end was fine at the beginning. -/
theorem fine_of_foldl (sticky : ∀ s n, fine (step s n) → fine s)
    (finished : fine (l.foldl step s)) : fine s := by
  induction l generalizing s with
  | nil => exact finished
  | cons n rest ih => exact sticky s n (ih finished)

theorem Expands.expanded (expands : Expands graph fine step) (tidy : (graph s).Tidy)
    (distinct : (l.map (·.serial)).Nodup) (inside : ∀ n ∈ l, n ∈ (graph s).toList) :
    Expanded l (graph s) (graph (l.foldl step s)) := by
  induction l generalizing s with
  | nil =>
    exact ⟨tidy, fun m member _ => member, fun m member => .inl ((mem_keys tidy).2 ⟨m, member, rfl⟩),
      List.Subset.refl _, fun _ => rfl⟩
  | cons n rest ih =>
    obtain ⟨n', first⟩ := expands.rewrites s n tidy (inside n List.mem_cons_self)
    obtain ⟨other, distinct⟩ := List.nodup_cons.1 distinct
    have later : ∀ m ∈ rest, m ∈ (graph (step s n)).toList := fun m member =>
      first.kept m (inside m (List.mem_cons_of_mem _ member)) fun same =>
        other (List.mem_map.2 ⟨m, member, same⟩)
    obtain ⟨tidy', kept, fresh, used, entry⟩ := ih first.tidy distinct later
    refine ⟨tidy', ?_, ?_, List.Subset.trans first.used used, ?_⟩
    · intro m member outside
      rw [List.map_cons, List.mem_cons, not_or] at outside
      exact kept m (first.kept m member outside.1) outside.2
    · intro m member
      rcases fresh m member with old | free
      · obtain ⟨k, there, name⟩ := (mem_keys first.tidy).1 old
        rw [← name]
        exact first.fresh k there
      · exact .inr fun taken => free (first.used taken)
    · intro given
      have same := first.entry given
      exact (entry (same ▸ given)).trans same

/-- What every step of an expansion keeps holds at the end of it. -/
theorem Expands.induction (expands : Expands graph fine step) (tidy : (graph s).Tidy)
    (distinct : (l.map (·.serial)).Nodup) (inside : ∀ n ∈ l, n ∈ (graph s).toList) {P : σ → Prop}
    (start : P s)
    (keeps : ∀ s, ∀ n ∈ l, (graph s).Tidy → n ∈ (graph s).toList → P s → P (step s n)) :
    P (l.foldl step s) := by
  induction l generalizing s with
  | nil => exact start
  | cons n rest ih =>
    have here := inside n List.mem_cons_self
    obtain ⟨n', first⟩ := expands.rewrites s n tidy here
    obtain ⟨other, distinct⟩ := List.nodup_cons.1 distinct
    refine ih first.tidy distinct (fun m member => ?_) (keeps s n List.mem_cons_self tidy here start)
      fun s m member => keeps s m (List.mem_cons_of_mem _ member)
    exact first.kept m (inside m (List.mem_cons_of_mem _ member)) fun same =>
      other (List.mem_map.2 ⟨m, member, same⟩)

/-- Every node of the list is expanded at some point, and what its expansion leaves behind stays.
-/
theorem Expands.visits (expands : Expands graph fine step) (tidy : (graph s).Tidy)
    (distinct : (l.map (·.serial)).Nodup) (inside : ∀ n ∈ l, n ∈ (graph s).toList)
    (done : fine (l.foldl step s)) (member : n ∈ l) :
    ∃ s₁, (graph s₁).Tidy ∧ n ∈ (graph s₁).toList ∧ fine (step s₁ n) ∧
      (graph s).allocator.used ⊆ (graph s₁).allocator.used ∧
      ∀ m ∈ (graph (step s₁ n)).toList, m.serial = n.serial ∨ (graph s₁).count ≤ m.serial →
        m ∈ (graph (l.foldl step s)).toList := by
  induction l generalizing s with
  | nil => cases member
  | cons k rest ih =>
    have first := inside k List.mem_cons_self
    obtain ⟨k', rewritten⟩ := expands.rewrites s k tidy first
    obtain ⟨other, others⟩ := List.nodup_cons.1 distinct
    have later : ∀ m ∈ rest, m ∈ (graph (step s k)).toList := fun m member =>
      rewritten.kept m (inside m (List.mem_cons_of_mem _ member)) fun same =>
        other (List.mem_map.2 ⟨m, member, same⟩)
    rcases List.mem_cons.1 member with rfl | after
    · have onward := expands.expanded (l := rest) rewritten.tidy others later
      refine ⟨s, tidy, first, fine_of_foldl expands.sticky done, List.Subset.refl _, ?_⟩
      intro m there place
      refine onward.kept m there fun among => ?_
      rcases place with same | above
      · rw [same] at among
        exact other among
      · obtain ⟨m', member', same⟩ := List.mem_map.1 among
        have below := tidy.counted m' (inside m' (List.mem_cons_of_mem _ member'))
        omega
    · obtain ⟨s₁, tidy₁, there, fine₁, used, lasting⟩ :=
        ih rewritten.tidy others later done after
      exact ⟨s₁, tidy₁, there, fine₁, List.Subset.trans rewritten.used used, lasting⟩

end Fold

/-! ### Node by node -/

/-- The graph with its inputs expanded. -/
def staged (g : Graph) : Graph := (expandInputs g).graph

/-- The graph with its inputs and then its retries expanded. -/
def expanded (g : Graph) : Graph := (expandRetries g.staged).graph

/-- Neither expansion comes to something that it has to refuse. -/
structure ComesThrough (g : Graph) : Prop where
  inputs : (expandInputs g).failure = none
  retries : (expandRetries g.staged).failure = none

/-- What becomes of a node, and which nodes are added for it. -/
structure Outcome where
  source : Node
  result : Node
  added : List Node

variable {m' : Node} {ms ms' : List Node}

/-- The second graph is the first one with some nodes more, under fresh identifiers. -/
structure GrownBy (ms : List Node) (g g' : Graph) : Prop where
  tidy : g'.Tidy
  nodes : g'.toList = g.toList ++ ms
  used : g'.allocator.used = g.allocator.used ++ ms.map (·.id)
  fresh : ∀ m ∈ ms, m.id ∉ g.allocator.used
  above : ∀ m ∈ ms, g.count ≤ m.serial
  count : g.count ≤ g'.count
  entry : g.entry.isSome → g'.entry = g.entry

namespace GrownBy

theorem refl (tidy : g.Tidy) : GrownBy [] g g where
  tidy := tidy
  nodes := by simp
  used := by simp
  fresh := by simp
  above := by simp
  count := Nat.le_refl _
  entry := fun _ => rfl

theorem of_grown (tidy : g.Tidy) (grown : g.Grown n g') : GrownBy [n] g g' where
  tidy := grown.tidy tidy
  nodes := grown.toList
  used := grown.used
  fresh := by simpa using grown.fresh
  above := by simp [grown.serial]
  count := by
    have := grown.count
    omega
  entry := fun given => by
    obtain ⟨id, there⟩ := Option.isSome_iff_exists.1 given
    rw [grown.entry, there, Option.getD_some]

theorem trans (first : GrownBy ms g g') (second : GrownBy ms' g' g'') :
    GrownBy (ms ++ ms') g g'' where
  tidy := second.tidy
  nodes := by rw [second.nodes, first.nodes, List.append_assoc]
  used := by rw [second.used, first.used, List.map_append, List.append_assoc]
  fresh := by
    intro m among
    rcases List.mem_append.1 among with early | late
    · exact first.fresh m early
    · have free := second.fresh m late
      rw [first.used] at free
      exact fun taken => free (List.mem_append_left _ taken)
  above := by
    intro m among
    rcases List.mem_append.1 among with early | late
    · exact first.above m early
    · exact Nat.le_trans first.count (second.above m late)
  count := Nat.le_trans first.count second.count
  entry := fun given => by
    have same := first.entry given
    rw [second.entry (same ▸ given), same]

theorem mem (grown : GrownBy ms g g') (among : m ∈ ms) : m ∈ g'.toList := by
  rw [grown.nodes]
  exact List.mem_append_right _ among

/-- The nodes that were added may change. -/
theorem changed (grown : GrownBy ms g g') {f : Node → Node}
    (changed : g'.Changed f g'') (keeps : g'.Keeps f)
    (old : ∀ m ∈ g.toList, f m = m) : GrownBy (ms.map f) g g'' := by
  refine ⟨changed.tidy keeps grown.tidy, ?_, ?_, ?_, ?_, changed.count ▸ grown.count,
    fun given => changed.entry.trans (grown.entry given)⟩
  · rw [changed.toList, grown.nodes, List.map_append]
    congr 1
    exact (List.map_congr_left old).trans (List.map_id _)
  · rw [changed.allocator, grown.used, List.map_map]
    congr 1
    exact List.map_congr_left fun m among => (keeps m (grown.mem among)).1.symm
  · intro m among
    obtain ⟨k, there, rfl⟩ := List.mem_map.1 among
    rw [(keeps k (grown.mem there)).1]
    exact grown.fresh k there
  · intro m among
    obtain ⟨k, there, rfl⟩ := List.mem_map.1 among
    rw [(keeps k (grown.mem there)).2]
    exact grown.above k there

end GrownBy

/-- The second graph is the first one with a node written anew and others added. -/
structure Replaces (n n' : Node) (ms : List Node) (g g' : Graph) : Prop where
  tidy : g'.Tidy
  nodes : g'.toList = g.toList.map (fun m => if m.serial = n.serial then n' else m) ++ ms
  id : n'.id = n.id
  serial : n'.serial = n.serial
  used : g'.allocator.used = g.allocator.used ++ ms.map (·.id)
  fresh : ∀ m ∈ ms, m.id ∉ g.allocator.used
  entry : g.entry.isSome → g'.entry = g.entry

theorem replaces_self (tidy : g.Tidy) (member : n ∈ g.toList) : Replaces n n [] g g where
  tidy := tidy
  nodes := by
    rw [List.append_nil]
    refine ((List.map_congr_left fun m inside => ?_).trans (List.map_id _)).symm
    split
    · rename_i here
      exact eq_of_serial tidy member inside here.symm
    · rfl
  id := rfl
  serial := rfl
  used := by simp
  fresh := by simp
  entry := fun _ => rfl

theorem GrownBy.replaces (tidy : g.Tidy) (grown : GrownBy ms g g') (member : n ∈ g.toList)
    (n' : Node) (id : n'.id = n.id) (serial : n'.serial = n.serial) :
    Replaces n n' ms g (g'.modifyNode n.serial fun _ => n') := by
  have changed := changed_modifyNode g' n.serial fun _ => n'
  have there : n ∈ g'.toList := by
    rw [grown.nodes]
    exact List.mem_append_left _ member
  have keeps : g'.Keeps fun m => if m.serial = n.serial then n' else m :=
    keeps_if fun m inside here => by
      rw [eq_of_serial grown.tidy inside there here]
      exact ⟨id, serial⟩
  refine ⟨changed.tidy keeps grown.tidy, ?_, id, serial, changed.allocator ▸ grown.used, grown.fresh,
    fun given => changed.entry.trans (grown.entry given)⟩
  rw [changed.toList, grown.nodes, List.map_append]
  congr 1
  refine (List.map_congr_left fun m among => if_neg fun same => ?_).trans (List.map_id _)
  have above := grown.above m among
  have below := tidy.counted n member
  omega

/-- The nodes before and after the one that is written anew stay where they are. -/
theorem Replaces.in_place (replaced : Replaces n n' ms g g') (tidy : g.Tidy)
    {before after : List Node} (nodes : g.toList = before ++ n :: after) :
    g'.toList = before ++ n' :: (after ++ ms) := by
  have serials := tidy.serials
  rw [nodes, List.map_append, List.map_cons, List.nodup_append, List.nodup_cons] at serials
  obtain ⟨_, ⟨later, _⟩, apart⟩ := serials
  have front : before.map (fun m => if m.serial = n.serial then n' else m) = before :=
    (List.map_congr_left fun m inside => if_neg
      (apart _ (List.mem_map_of_mem inside) _ List.mem_cons_self)).trans (List.map_id _)
  have back : after.map (fun m => if m.serial = n.serial then n' else m) = after :=
    (List.map_congr_left fun m inside => if_neg fun same =>
      later (List.mem_map.2 ⟨m, inside, same⟩)).trans (List.map_id _)
  rw [replaced.nodes, nodes, List.map_append, List.map_cons, if_pos rfl, front, back,
    List.append_assoc, List.cons_append]

/-- The second graph has the nodes of the first one, each with its outcome. -/
structure Unfolds (R : Node → Node → List Node → Prop) (xs : List Outcome) (g g' : Graph) :
    Prop where
  sources : xs.map (·.source) = g.toList
  each : ∀ x ∈ xs, R x.source x.result x.added
  ids : ∀ x ∈ xs, x.result.id = x.source.id
  serials : ∀ x ∈ xs, x.result.serial = x.source.serial
  nodes : g'.toList = xs.map (·.result) ++ xs.flatMap (·.added)
  tidy : g'.Tidy
  used : g'.allocator.used = g.allocator.used ++ (xs.flatMap (·.added)).map (·.id)
  fresh : ∀ x ∈ xs, ∀ m ∈ x.added, m.id ∉ g.allocator.used
  entry : g.entry.isSome → g'.entry = g.entry

section Fold

variable {σ : Type} {graph : σ → Graph} {fine : σ → Prop} {step : σ → Node → σ} {s : σ}
  {R : Node → Node → List Node → Prop}

/-- The nodes that are done stand before those that are to come, and what was added after both. -/
theorem unfolds_foldl (sticky : ∀ s n, fine (step s n) → fine s)
    (replaces : ∀ s n, (graph s).Tidy → n ∈ (graph s).toList → fine (step s n) →
      ∃ n' ms, R n n' ms ∧ Replaces n n' ms (graph s) (graph (step s n)))
    {done rest more : List Node} (tidy : (graph s).Tidy)
    (nodes : (graph s).toList = done ++ rest ++ more) (finished : fine (rest.foldl step s)) :
    ∃ xs : List Outcome, xs.map (·.source) = rest ∧ (∀ x ∈ xs, R x.source x.result x.added) ∧
      (∀ x ∈ xs, x.result.id = x.source.id) ∧ (∀ x ∈ xs, x.result.serial = x.source.serial) ∧
      (graph (rest.foldl step s)).toList =
        done ++ xs.map (·.result) ++ (more ++ xs.flatMap (·.added)) ∧
      (graph (rest.foldl step s)).Tidy ∧
      (graph (rest.foldl step s)).allocator.used =
        (graph s).allocator.used ++ (xs.flatMap (·.added)).map (·.id) ∧
      (∀ x ∈ xs, ∀ m ∈ x.added, m.id ∉ (graph s).allocator.used) ∧
      ((graph s).entry.isSome → (graph (rest.foldl step s)).entry = (graph s).entry) := by
  induction rest generalizing s done more with
  | nil => exact ⟨[], by simpa [tidy] using nodes⟩
  | cons n rest ih =>
    have member : n ∈ (graph s).toList := by simp [nodes]
    obtain ⟨n', ms, holds, replaced⟩ := replaces s n tidy member (fine_of_foldl sticky finished)
    have nodes' : (graph (step s n)).toList = (done ++ [n']) ++ rest ++ (more ++ ms) := by
      rw [replaced.in_place tidy (nodes.trans (List.append_assoc ..))]
      simp
    obtain ⟨xs, sources, each, ids, serials, after, tidy', used, fresh, entry⟩ :=
      ih replaced.tidy nodes' finished
    refine ⟨⟨n, n', ms⟩ :: xs, by simp [sources], ?_, ?_, ?_, ?_, tidy', ?_, ?_, ?_⟩
    · simpa using ⟨holds, each⟩
    · simpa using ⟨replaced.id, ids⟩
    · simpa using ⟨replaced.serial, serials⟩
    · rw [List.foldl_cons, after]
      simp
    · rw [List.foldl_cons, used, replaced.used]
      simp
    · intro x among m inside
      rcases List.mem_cons.1 among with rfl | later
      · exact replaced.fresh m inside
      · have free := fresh x later m inside
        rw [replaced.used] at free
        exact fun taken => free (List.mem_append_left _ taken)
    · intro given
      have same := replaced.entry given
      rw [List.foldl_cons, entry (same ▸ given), same]

/-- An expansion that goes through all nodes of a graph leaves an outcome for each. -/
theorem unfolds (graph : σ → Graph) (s : σ) (sticky : ∀ s n, fine (step s n) → fine s)
    (replaces : ∀ s n, (graph s).Tidy → n ∈ (graph s).toList → fine (step s n) →
      ∃ n' ms, R n n' ms ∧ Replaces n n' ms (graph s) (graph (step s n)))
    (tidy : (graph s).Tidy) (finished : fine ((graph s).toList.foldl step s)) :
    ∃ xs, Unfolds R xs (graph s) (graph ((graph s).toList.foldl step s)) := by
  have nodes : (graph s).toList = [] ++ (graph s).toList ++ [] := by simp
  obtain ⟨xs, sources, each, ids, serials, after, tidy', used, fresh, entry⟩ :=
    unfolds_foldl sticky replaces tidy nodes finished
  exact ⟨xs, sources, each, ids, serials, by simpa using after, tidy', used, fresh, entry⟩

end Fold

/-! ### Reading the outcomes -/

namespace Unfolds

variable {R : Node → Node → List Node → Prop} {xs : List Outcome} {x y : Outcome} {id : String}

theorem source_mem (unfolds : Unfolds R xs g g') (among : x ∈ xs) : x.source ∈ g.toList := by
  rw [← unfolds.sources]
  exact List.mem_map_of_mem among

theorem outcome (unfolds : Unfolds R xs g g') (member : n ∈ g.toList) :
    ∃ x ∈ xs, x.source = n := by
  rw [← unfolds.sources] at member
  exact List.mem_map.1 member

theorem result_mem (unfolds : Unfolds R xs g g') (among : x ∈ xs) : x.result ∈ g'.toList := by
  rw [unfolds.nodes]
  exact List.mem_append_left _ (List.mem_map_of_mem among)

theorem added_mem (unfolds : Unfolds R xs g g') (among : x ∈ xs) (inside : m ∈ x.added) :
    m ∈ g'.toList := by
  rw [unfolds.nodes]
  exact List.mem_append_right _ (List.mem_flatMap.2 ⟨x, among, inside⟩)

/-- All that became of a node is in the graph. -/
theorem mem_of_outcome (unfolds : Unfolds R xs g g') (among : x ∈ xs)
    (here : m ∈ x.result :: x.added) : m ∈ g'.toList := by
  rcases List.mem_cons.1 here with rfl | added
  · exact unfolds.result_mem among
  · exact unfolds.added_mem among added

theorem origin (unfolds : Unfolds R xs g g') (member : m ∈ g'.toList) :
    (∃ x ∈ xs, m = x.result) ∨ ∃ x ∈ xs, m ∈ x.added := by
  rw [unfolds.nodes, List.mem_append, List.mem_flatMap, List.mem_map] at member
  rcases member with ⟨x, among, rfl⟩ | ⟨x, among, inside⟩
  · exact .inl ⟨x, among, rfl⟩
  · exact .inr ⟨x, among, inside⟩

theorem keys (unfolds : Unfolds R xs g g') (tidy : g.Tidy) :
    g'.keys = g.keys ++ (xs.flatMap (·.added)).map (·.id) := by
  rw [keys_eq unfolds.tidy, keys_eq tidy, unfolds.nodes, ← unfolds.sources, List.map_append,
    List.map_map, List.map_map]
  congr 1
  exact List.map_congr_left fun x among => unfolds.ids x among

theorem kept (unfolds : Unfolds R xs g g') (tidy : g.Tidy) (key : id ∈ g.keys) : id ∈ g'.keys := by
  rw [unfolds.keys tidy]
  exact List.mem_append_left _ key

theorem key_of_added (unfolds : Unfolds R xs g g') (among : x ∈ xs) (inside : m ∈ x.added) :
    m.id ∈ g'.keys := (mem_keys unfolds.tidy).2 ⟨m, unfolds.added_mem among inside, rfl⟩

/-- What was added is told from what was there. -/
theorem not_key (unfolds : Unfolds R xs g g') (tidy : g.Tidy) (among : x ∈ xs)
    (inside : m ∈ x.added) : m.id ∉ g.keys := fun key =>
  unfolds.fresh x among m inside (tidy.used _ key)

theorem eq_of_source (unfolds : Unfolds R xs g g') (tidy : g.Tidy) (first : x ∈ xs) (second : y ∈ xs)
    (same : x.source.id = y.source.id) : x = y := by
  have distinct : (xs.map (·.source.id)).Nodup := by
    have ids : xs.map (·.source.id) = g.keys := by
      rw [keys_eq tidy, ← unfolds.sources, List.map_map]
      rfl
    rw [ids]
    exact tidy.distinct
  exact List.inj_on_of_nodup_map distinct first second same

/-- A node is added for one node only. -/
theorem eq_of_added (unfolds : Unfolds R xs g g') (first : x ∈ xs) (second : y ∈ xs)
    (inside : m ∈ x.added) (inside' : m' ∈ y.added) (same : m.id = m'.id) : x = y := by
  have distinct : (xs.flatMap (·.added)).Nodup := by
    have serials := unfolds.tidy.serials
    rw [unfolds.nodes, List.map_append] at serials
    exact (List.nodup_append.1 serials).2.1.of_map _
  have both := eq_of_id unfolds.tidy (unfolds.added_mem first inside)
    (unfolds.added_mem second inside') same
  subst both
  by_contra other
  have symm : Std.Symm (Function.onFun List.Disjoint Outcome.added) :=
    ⟨fun _ _ apart _ here there => apart there here⟩
  exact (List.nodup_flatMap.1 distinct).2.forall first second other inside inside'

end Unfolds

end ContactFlow.Graph
