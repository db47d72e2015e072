import ContactFlow.Proofs.Wiring

/-!
What the steps of construction do to the wiring of a flow: each leads onward to a sound workspace.
-/

namespace ContactFlow.Workspace

variable {w : Workspace} {j k : Nat} {s : Slot} {target : String}

/-! ### Join points -/

/-- Where join points lead, as far as a table of them says. -/
def Agrees (js : Joins Slot) (leads : Nat → Option String) : Prop :=
  (∀ j t, (js.get j).target = some t → leads j = some t) ∧
    ∀ j k, (js.get j).target = none → (js.get j).forward = some k → leads j = leads k

/-- Another table of join points, in which some of the edges that waited are linked and the others
wait where they lead to the same. -/
structure Rewired (w : Workspace) (linked : List Slot) (target : String) (js : Joins Slot)
    (touched : List Nat) : Prop where
  linked_wait : ∀ s ∈ linked, w.graph.Edge s none
  grow : w.joins.size ≤ js.size
  waiting : ∀ j, ∀ s ∈ (js.get j).waiting, w.graph.Edge s none ∧ s ∉ linked
  apart : ∀ j k s, s ∈ (js.get j).waiting → s ∈ (js.get k).waiting → j = k
  settled : ∀ j, (js.get j).target.isSome ∨ (js.get j).forward.isSome → (js.get j).waiting = []
  descends : js.Descends
  same : ∀ j < w.joins.size, j ∉ touched → (js.get j).target = (w.joins.get j).target ∧
    (js.get j).forward = (w.joins.get j).forward
  opened : ∀ j ∈ touched, w.joins.IsOpen j
  moved : ∀ leads, Agrees js leads → ∀ j, ∀ s ∈ (w.joins.get j).waiting,
    s ∈ linked ∧ leads j = some target ∨ ∃ k, s ∈ (js.get k).waiting ∧ leads j = leads k

theorem Rewired.onward (sound : w.Sound) {linked : List Slot} {js : Joins Slot}
    {touched : List Nat} (rewired : w.Rewired linked target js touched) :
    Onward [] [] [] touched w { w with graph := w.graph.assignAll linked target, joins := js } := by
  have relinked := w.graph.relinked_assignAll linked target
  have tidy := relinked.tidy sound.tidy
  obtain ⟨f, changed, alike⟩ := relinked
  have known {j : Nat} (known : (w.joins.get j).target.isSome ∨ (w.joins.get j).forward.isSome) :
      j < w.joins.size ∧ j ∉ touched := by
    constructor
    · by_contra above
      simp [Joins.get_above (Nat.le_of_not_lt above)] at known
    · intro among
      have open_ := rewired.opened j among
      simp [open_.target, open_.forward] at known
  refine
    { sound := ⟨tidy, sound.attached, ?waiting, rewired.apart, rewired.settled, rewired.descends⟩
      count := Nat.le_of_eq changed.count.symm
      used := by simp only [changed.allocator, List.Subset.refl]
      entry := fun id given => changed.entry.trans given
      kept := fun n member _ => ⟨f n, changed.toList ▸ List.mem_map_of_mem member, alike n⟩
      builders_grow := Nat.le_refl _
      builder := fun _ _ _ => rfl
      sets_grow := Nat.le_refl _
      set := fun _ _ _ => rfl
      joins_grow := rewired.grow
      join := rewired.same
      back := fun F growing live _ lives becomes => ?back }
  case waiting =>
    intro i s waits
    obtain ⟨edge, free⟩ := rewired.waiting i s waits
    have edge := edge.assignAll linked target
    rwa [if_neg free] at edge
  case back =>
    obtain ⟨nodes, edges, waits, resolved, forwarded, idle⟩ := becomes
    refine
      { nodes := ?nodes
        linked := ?linked
        waiting := ?waiting
        resolved := ?resolved
        forwarded := ?forwarded
        idle := ?idle }
    case nodes =>
      intro n member outside
      obtain ⟨m, inside, alike'⟩ := nodes (f n) (changed.toList ▸ List.mem_map_of_mem member)
        (by rwa [(alike n).serial])
      exact ⟨m, inside, alike'.trans (alike n)⟩
    case linked =>
      -- an edge that was linked before is none of those that are linked now
      intro s t edge
      have free : s ∉ linked := fun among => by
        cases edge.unique sound.tidy (rewired.linked_wait s among)
      have edge := edge.assignAll linked target
      rw [if_neg free] at edge
      exact edges s t edge
    case waiting =>
      intro i s among
      rcases rewired.moved F.leads ⟨resolved, forwarded⟩ i s among with
        ⟨now, leads⟩ | ⟨k, still, leads⟩
      · have edge := (sound.waiting i s among).assignAll linked target
        rw [if_pos now] at edge
        rw [leads]
        exact edges s target edge
      · rw [leads]
        exact waits k s still
    case resolved =>
      intro i t there
      obtain ⟨below, outside⟩ := known (.inl (by rw [there]; rfl))
      exact resolved i t (by rw [(rewired.same i below outside).1, there])
    case forwarded =>
      intro i k untargeted there
      obtain ⟨below, outside⟩ := known (.inr (by rw [there]; rfl))
      have same := rewired.same i below outside
      exact forwarded i k (by rw [same.1, untargeted]) (by rw [same.2, there])
    case idle =>
      intro i open_ outside
      have same := rewired.same i open_.below fun among => outside (lives among)
      exact idle i ⟨Nat.lt_of_lt_of_le open_.below rewired.grow, by rw [same.1, open_.target],
        by rw [same.2, open_.forward]⟩ outside

/-- The edges that waited at an open join point are linked, and none waits there any more. -/
theorem Rewired.emptied (sound : w.Sound) (open_ : w.joins.IsOpen j) {js : Joins Slot}
    (grow : w.joins.size ≤ js.size) (here : (js.get j).waiting = [])
    (other : ∀ i, i ≠ j → js.get i = w.joins.get i)
    (earlier : ∀ k, (js.get j).forward = some k → k < j)
    (leads : ∀ leads, Agrees js leads → leads j = some target) :
    w.Rewired (w.joins.get j).waiting target js [j] := by
  have waits {i : Nat} {s : Slot} (among : s ∈ (js.get i).waiting) :
      i ≠ j ∧ s ∈ (w.joins.get i).waiting := by
    by_cases apart : i = j
    · rw [apart, here] at among
      cases among
    · rw [other i apart] at among
      exact ⟨apart, among⟩
  refine
    { linked_wait := sound.waiting j
      grow := grow
      waiting := ?waiting
      apart := ?apart
      settled := ?settled
      descends := ?descends
      same := ?same
      opened := by simpa using open_
      moved := ?moved }
  case waiting =>
    intro i s among
    obtain ⟨apart, among⟩ := waits among
    exact ⟨sound.waiting i s among, fun both => apart (sound.apart i j s among both)⟩
  case apart =>
    intro i k s among among'
    exact sound.apart i k s (waits among).2 (waits among').2
  case settled =>
    intro i done
    by_cases apart : i = j
    · rw [apart, here]
    · rw [other i apart] at done ⊢
      exact sound.settled i done
  case descends =>
    intro i k forward
    by_cases apart : i = j
    · subst apart
      exact earlier k forward
    · rw [other i apart] at forward
      exact sound.descends i k forward
  case same =>
    intro i _ apart
    rw [other i (by simpa using apart)]
    exact ⟨rfl, rfl⟩
  case moved =>
    intro leading agrees i s among
    by_cases apart : i = j
    · subst apart
      exact .inl ⟨among, leads leading agrees⟩
    · exact .inr ⟨i, by rwa [other i apart], rfl⟩

/-- The edges that wait at an open join point are linked when it is resolved. -/
theorem onward_resolve (sound : w.Sound) (open_ : w.joins.IsOpen j) (target : String) :
    Onward [] [] [] [j] w (w.resolve j target) := by
  let waiting := (w.joins.get j).waiting
  let js : Joins Slot := w.joins.modify j fun join =>
    { join with waiting := [], target := some target }
  have same : w.resolve j target =
      { w with graph := w.graph.assignAll waiting target, joins := js } :=
    link_eq sound.attached js waiting target
  have get (i : Nat) : js.get i =
      if i = j then { w.joins.get j with waiting := [], target := some target } else w.joins.get i :=
    Joins.get_modify _ _ open_.below i
  have here : js.get j = { w.joins.get j with waiting := [], target := some target } := by
    rw [get, if_pos rfl]
  have emptied : w.Rewired waiting target js [j] := by
    refine .emptied sound open_ (Nat.le_of_eq Array.size_modify.symm) (by rw [here])
      (fun i apart => by rw [get, if_neg apart]) (fun k forward => ?_)
      fun leads agrees => agrees.1 j target (by rw [here])
    rw [here] at forward
    exact sound.descends j k forward
  rw [same]
  exact emptied.onward sound

/-- A new join point may be added with an open edge that does not wait yet. -/
theorem onward_fresh (sound : w.Sound) {waiting : List Slot}
    (edges : ∀ s ∈ waiting, w.graph.Edge s none ∧ ∀ i, s ∉ (w.joins.get i).waiting) :
    Onward [] [] [] [] w (w.freshJoin waiting).2 := by
  let js : Joins Slot := w.joins.push { waiting }
  have get (i : Nat) : js.get i = if i = w.joins.size then { waiting } else w.joins.get i :=
    Joins.get_push w.joins _ i
  have here : js.get w.joins.size = { waiting } := by rw [get, if_pos rfl]
  have other {i : Nat} (apart : i ≠ w.joins.size) : js.get i = w.joins.get i := by
    rw [get, if_neg apart]
  have untouched : Rewired w [] "" js [] := by
    refine
      { linked_wait := by simp
        grow := by simp [js]
        waiting := ?waiting
        apart := ?apart
        settled := ?settled
        descends := ?descends
        same := ?same
        opened := by simp
        moved := ?moved }
    case waiting =>
      intro i s among
      refine ⟨?_, by simp⟩
      by_cases new : i = w.joins.size
      · subst new
        rw [here] at among
        exact (edges s among).1
      · rw [other new] at among
        exact sound.waiting i s among
    case apart =>
      intro i k s among among'
      by_cases new : i = w.joins.size
      · subst new
        rw [here] at among
        by_cases new' : k = w.joins.size
        · exact new'.symm
        · rw [other new'] at among'
          exact absurd among' ((edges s among).2 k)
      · rw [other new] at among
        by_cases new' : k = w.joins.size
        · subst new'
          rw [here] at among'
          exact absurd among ((edges s among').2 i)
        · rw [other new'] at among'
          exact sound.apart i k s among among'
    case settled =>
      intro i done
      by_cases new : i = w.joins.size
      · subst new
        simp [here] at done
      · rw [other new] at done ⊢
        exact sound.settled i done
    case descends =>
      intro i k forward
      by_cases new : i = w.joins.size
      · subst new
        simp [here] at forward
      · rw [other new] at forward
        exact sound.descends i k forward
    case same =>
      intro i below _
      rw [other (Nat.ne_of_lt below)]
      exact ⟨rfl, rfl⟩
    case moved =>
      intro leads _ i s among
      refine .inr ⟨i, ?_, rfl⟩
      by_cases new : i = w.joins.size
      · subst new
        simp [Joins.get_above (Nat.le_refl _)] at among
      · rwa [other new]
  exact untouched.onward sound

/-- The edges that waited at an open join point wait at another open one, to which it leads. -/
theorem Rewired.handed (sound : w.Sound) (open_ : w.joins.IsOpen j) {e : Nat} (apart : e ≠ j)
    (free : (w.joins.get e).target = none) (stays : (w.joins.get e).forward = none)
    {js : Joins Slot} (grow : w.joins.size ≤ js.size) (earlier : k < j)
    (get : ∀ i, js.get i =
      if i = e then
        { w.joins.get e with waiting := (w.joins.get e).waiting ++ (w.joins.get j).waiting }
      else if i = j then { w.joins.get j with waiting := [], forward := some k }
      else w.joins.get i)
    (leads : ∀ leads, Agrees js leads → leads j = leads e) : w.Rewired [] target js [j] := by
  have there : js.get e =
      { w.joins.get e with waiting := (w.joins.get e).waiting ++ (w.joins.get j).waiting } := by
    rw [get, if_pos rfl]
  have here : js.get j = { w.joins.get j with waiting := [], forward := some k } := by
    rw [get, if_neg apart.symm, if_pos rfl]
  have other {i : Nat} (last : i ≠ e) (first : i ≠ j) : js.get i = w.joins.get i := by
    rw [get, if_neg last, if_neg first]
  -- an edge that waits now waited where it waits, or was handed over
  have origin {i : Nat} {s : Slot} (among : s ∈ (js.get i).waiting) :
      i ≠ j ∧ s ∈ (w.joins.get i).waiting ∨ i = e ∧ s ∈ (w.joins.get j).waiting := by
    by_cases last : i = e
    · subst last
      rw [there] at among
      exact (List.mem_append.1 among).imp (⟨apart, ·⟩) (⟨rfl, ·⟩)
    · by_cases first : i = j
      · rw [first, here] at among
        cases among
      · rw [other last first] at among
        exact .inl ⟨first, among⟩
  refine
    { linked_wait := by simp
      grow := grow
      waiting := ?waiting
      apart := ?apart
      settled := ?settled
      descends := ?descends
      same := ?same
      opened := by simpa using open_
      moved := ?moved }
  case waiting =>
    intro i s among
    refine ⟨?_, List.not_mem_nil⟩
    rcases origin among with ⟨_, old⟩ | ⟨_, moved⟩
    · exact sound.waiting i s old
    · exact sound.waiting j s moved
  case apart =>
    intro i i' s among among'
    rcases origin among with ⟨first, old⟩ | ⟨rfl, moved⟩
    · rcases origin among' with ⟨_, old'⟩ | ⟨_, moved'⟩
      · exact sound.apart i i' s old old'
      · exact absurd (sound.apart i j s old moved') first
    · rcases origin among' with ⟨first, old'⟩ | ⟨rfl, _⟩
      · exact absurd (sound.apart i' j s old' moved) first
      · rfl
  case settled =>
    intro i done
    by_cases last : i = e
    · subst last
      simp [there, free, stays] at done
    · by_cases first : i = j
      · rw [first, here]
      · rw [other last first] at done ⊢
        exact sound.settled i done
  case descends =>
    intro i i' forward
    by_cases last : i = e
    · subst last
      simp [there, stays] at forward
    · by_cases first : i = j
      · subst first
        rw [here] at forward
        cases forward
        exact earlier
      · rw [other last first] at forward
        exact sound.descends i i' forward
  case same =>
    intro i _ outside
    have first : i ≠ j := by simpa using outside
    by_cases last : i = e
    · subst last
      rw [there]
      exact ⟨rfl, rfl⟩
    · rw [other last first]
      exact ⟨rfl, rfl⟩
  case moved =>
    intro leading agrees i s among
    refine .inr ?_
    by_cases last : i = e
    · subst last
      exact ⟨i, by rw [there]; exact List.mem_append_left _ among, rfl⟩
    · by_cases first : i = j
      · subst first
        exact ⟨e, by rw [there]; exact List.mem_append_right _ among, leads leading agrees⟩
      · exact ⟨i, by rwa [other last first], rfl⟩

/-- Edges are handed over to an earlier join point, and on along the forwards. -/
theorem onward_forward (sound : w.Sound) (open_ : w.joins.IsOpen j) (earlier : k < j) :
    Onward [] [] [] [j] w (w.forward j k) := by
  obtain ⟨e, before, along, reached⟩ := Joins.forward_cases sound.descends open_ earlier
  have same := w.joins.get_forward open_.below k
  have grow : w.joins.size ≤ (w.joins.forward j k).1.size :=
    Nat.le_of_eq (w.joins.size_forward j k).symm
  have leads (leads : Nat → Option String) (agrees : Agrees (w.joins.forward j k).1 leads) :
      leads j = leads e := by
    have start : leads j = leads k := agrees.2 j k (by rw [(same j).1, open_.target])
      (by rw [(same j).2, if_pos rfl])
    -- the forwards that led on before keep clear of `j`, so they still do
    refine start.trans (along (fun i => i < j ∧ leads k = leads i) ⟨earlier, rfl⟩ ?_).2
    rintro i i' ⟨before, led⟩ target forward
    refine ⟨Nat.lt_trans (sound.descends i i' forward) before, led.trans (agrees.2 i i' ?_ ?_)⟩
    · rw [(same i).1, target]
    · rw [(same i).2, if_neg (Nat.ne_of_lt before), forward]
  have forwarded : w.forward j k = w.link (w.joins.forward j k) := rfl
  rw [forwarded]
  rcases reached with ⟨t, known, linked⟩ | ⟨free, stays, silent, get⟩
  · rw [linked] at same grow leads ⊢
    rw [link_eq sound.attached]
    have get := Joins.get_modify w.joins (fun join => { join with waiting := [], forward := some k })
      open_.below
    refine (Rewired.emptied sound open_ grow (by rw [get, if_pos rfl])
      (fun i apart => by rw [get, if_neg apart]) (fun i forward => ?_) fun leading agrees => ?_).onward
      sound
    · rw [get, if_pos rfl] at forward
      cases forward
      exact earlier
    · rw [leads leading agrees]
      exact agrees.1 e t (by rw [(same e).1, known])
  · generalize w.joins.forward j k = result at grow leads silent get
    obtain ⟨js, links⟩ := result
    cases silent
    have unlinked : w.link (js, []) = { w with graph := w.graph.assignAll [] "", joins := js } :=
      link_eq sound.attached js [] ""
    rw [unlinked]
    exact (Rewired.handed sound open_ (Nat.ne_of_lt before) free stays grow earlier get
      leads).onward sound

/-! ### Nodes and edges -/

theorem onward_grown (sound : w.Sound) {n : Node} {g : Graph} (grown : w.graph.Grown n g) :
    Onward [] [] [] [] w { w with graph := g } := by
  have stays {n' : Node} (member : n' ∈ w.graph.toList) : n' ∈ g.toList := by
    rw [grown.toList]
    exact List.mem_append_left _ member
  have edges {s : Slot} {x : Option String} (edge : w.graph.Edge s x) : g.Edge s x := by
    obtain ⟨n', member, rest⟩ := edge
    exact ⟨n', stays member, rest⟩
  refine ⟨⟨grown.tidy sound.tidy, sound.attached, fun j s waits => edges (sound.waiting j s waits),
    sound.apart, sound.settled, sound.descends⟩, ?_, ?_,
    fun id given => by simp only [grown.entry, given, Option.getD_some],
    fun n' member _ => ⟨n', stays member, .refl n'⟩,
    Nat.le_refl _, fun _ _ _ => rfl, Nat.le_refl _, fun _ _ _ => rfl, Nat.le_refl _,
    fun _ _ _ => ⟨rfl, rfl⟩, ?_⟩
  · simp only [grown.count, Nat.le_add_right]
  · simp only [grown.used, List.subset_append_left]
  · intro F growing live _ _ becomes
    exact ⟨fun n' member outside => becomes.nodes n' (stays member) outside,
      fun s t edge => becomes.linked s t (edges edge), becomes.waiting, becomes.resolved,
      becomes.forwarded, becomes.idle⟩

theorem onward_modifyNode (sound : w.Sound) {f : Node → Node} (adds : Graph.AddsEdges f)
    (serial : Nat) : Onward [serial] [] [] [] w (w.modifyNode serial f) := by
  have changed := Graph.changed_modifyNode w.graph serial f
  have tidy := changed.tidy (Graph.keeps_if fun n _ _ => ⟨adds.id n, adds.serial n⟩) sound.tidy
  have edges {s : Slot} {x : Option String} (edge : w.graph.Edge s x) :
      (w.graph.modifyNode serial f).Edge s x := edge.modifyNode adds serial
  have stays {n : Node} (member : n ∈ w.graph.toList) (other : n.serial ≠ serial) :
      n ∈ (w.graph.modifyNode serial f).toList := by
    rw [changed.toList]
    exact List.mem_map.2 ⟨n, member, if_neg other⟩
  refine ⟨⟨tidy, by simp [modifyNode, sound.attached], fun j s waits =>
    edges (sound.waiting j s waits), sound.apart, sound.settled, sound.descends⟩, Nat.le_refl _,
    List.Subset.refl _, fun _ given => given,
    fun n member other => ⟨n, stays member (by simpa using other), .refl n⟩,
    Nat.le_refl _, fun _ _ _ => rfl, Nat.le_refl _, fun _ _ _ => rfl, Nat.le_refl _,
    fun _ _ _ => ⟨rfl, rfl⟩, ?_⟩
  intro F growing live grows _ becomes
  refine ⟨fun n member outside => ?_, fun s t edge => becomes.linked s t (edges edge),
    becomes.waiting, becomes.resolved, becomes.forwarded, becomes.idle⟩
  have other : n.serial ≠ serial := fun same => outside (same ▸ grows (List.mem_singleton_self _))
  exact becomes.nodes n (stays member other) outside

/-! ### Builders and sets of branches -/

theorem onward_congr (sound : w.Sound) (w' : Workspace) (graph : w'.graph = w.graph)
    (joins : w'.joins = w.joins) (detached : w'.detached = w.detached) {builders sets : List Nat}
    (builders_grow : w.builders.size ≤ w'.builders.size)
    (builder : ∀ i < w.builders.size, i ∉ builders → w'.builder i = w.builder i)
    (sets_grow : w.sets.size ≤ w'.sets.size)
    (set : ∀ i < w.sets.size, i ∉ sets → w'.branches i = w.branches i) :
    Onward [] builders sets [] w w' where
  sound := by
    obtain ⟨tidy, attached, waiting, apart, settled, descends⟩ := sound
    exact ⟨graph ▸ tidy, detached ▸ attached, by rw [graph, joins]; exact waiting,
      by rw [joins]; exact apart, by rw [joins]; exact settled, by rw [joins]; exact descends⟩
  count := Nat.le_of_eq (by rw [graph])
  used := by rw [graph]; exact List.Subset.refl _
  entry := fun _ given => by rw [graph, given]
  kept := fun n member _ => ⟨n, graph ▸ member, .refl n⟩
  builders_grow := builders_grow
  builder := builder
  sets_grow := sets_grow
  set := set
  joins_grow := Nat.le_of_eq (by rw [joins])
  join := fun _ _ _ => by rw [joins]; exact ⟨rfl, rfl⟩
  back := fun _ _ _ _ _ becomes => becomes.congr graph joins

theorem onward_setBuilder (sound : w.Sound) (b : Nat) (x : Builder) :
    Onward [] [b] [] [] w (w.setBuilder b x) := by
  refine onward_congr sound (w.setBuilder b x) rfl rfl rfl (by simp [setBuilder]) (fun i _ other => ?_)
    (Nat.le_refl _) fun _ _ _ => rfl
  have other : b ≠ i := fun same => other (by simp [same])
  simp [setBuilder, builder, other]

theorem onward_setBranches (sound : w.Sound) (i : Nat) (s : BranchSet) :
    Onward [] [] [i] [] w (w.setBranches i s) := by
  refine onward_congr sound (w.setBranches i s) rfl rfl rfl (Nat.le_refl _) (fun _ _ _ => rfl)
    (by simp [setBranches]) fun k _ other => ?_
  have other : i ≠ k := fun same => other (by simp [same])
  simp [setBranches, branches, other]

theorem onward_pushBuilder (sound : w.Sound) (x : Builder) :
    Onward [] [] [] [] w { w with builders := w.builders.push x } := by
  refine onward_congr sound { w with builders := w.builders.push x } rfl rfl rfl (by simp)
    (fun i below _ => ?_) (Nat.le_refl _) fun _ _ _ => rfl
  simp [builder, Array.getElem?_push, Nat.ne_of_lt below]

theorem onward_pushSet (sound : w.Sound) (s : BranchSet) :
    Onward [] [] [] [] w { w with sets := w.sets.push s } := by
  refine onward_congr sound { w with sets := w.sets.push s } rfl rfl rfl (Nat.le_refl _)
    (fun _ _ _ => rfl) (by simp) fun i below _ => ?_
  simp [branches, Array.getElem?_push, Nat.ne_of_lt below]

end ContactFlow.Workspace
