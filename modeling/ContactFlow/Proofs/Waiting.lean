import ContactFlow.Proofs.Placing

/-!
Where open edges wait. An edge that is handed out waits at one join point until it is linked, and it
is linked once. A step of construction may hold edges back that it is about to hand out: these are
loose in between.
-/

namespace ContactFlow

namespace Slot

/-- Nodes that differ in their targets only have the same places for edges. -/
theorem read_alike {n m : Node} (alike : n.Alike m) {s : Slot} {y : Option String}
    (read : s.read n.transitions = some y) : ∃ x, s.read m.transitions = some x := by
  cases s with
  | next => exact ⟨m.transitions.next, rfl⟩
  | condition _ i =>
    obtain ⟨e, found, _⟩ := Option.map_eq_some_iff.1 read
    have guards := congrArg List.length alike.guards
    simp only [Transitions.guards, List.length_map] at guards
    have below : i < m.transitions.conditions.length :=
      guards ▸ (List.getElem?_eq_some_iff.1 found).1
    exact ⟨m.transitions.conditions[i].target, by simp [Slot.read, below]⟩
  | error _ i =>
    obtain ⟨e, found, _⟩ := Option.map_eq_some_iff.1 read
    have kinds := congrArg List.length alike.kinds
    simp only [Transitions.kinds, List.length_map] at kinds
    have below : i < m.transitions.errors.length :=
      kinds ▸ (List.getElem?_eq_some_iff.1 found).1
    exact ⟨m.transitions.errors[i].target, by simp [Slot.read, below]⟩

end Slot

namespace Graph

variable {g g' : Graph} {s : Slot} {x y : Option String}

/-- The edges that are handed out as soon as they are there: the next of a node only if the node goes
on by itself. -/
def HandsOut (g : Graph) : Slot → Prop
  | .next serial => ∃ n ∈ g.toList, n.serial = serial ∧ ¬ n.kind.isTerminal ∧ ¬ n.kind.isBranching
  | .condition .. | .error .. => True

theorem HandsOut.relinked (relinked : g.Relinked g') (handsOut : g'.HandsOut s) : g.HandsOut s := by
  cases s with
  | next serial =>
    obtain ⟨f, changed, alike⟩ := relinked
    obtain ⟨m, member, here, nonterminal, nonbranching⟩ := handsOut
    rw [changed.toList] at member
    obtain ⟨n, inside, rfl⟩ := List.mem_map.1 member
    rw [(alike n).kind] at nonterminal nonbranching
    exact ⟨n, inside, (alike n).serial.symm.trans here, nonterminal, nonbranching⟩
  | condition => trivial
  | error => trivial

/-- Linking edges adds no edge. -/
theorem Edge.of_assignAll (tidy : g.Tidy) {slots : List Slot} {target : String}
    (edge : (g.assignAll slots target).Edge s y) :
    ∃ x, g.Edge s x ∧ y = if s ∈ slots then some target else x := by
  have relinked := g.relinked_assignAll slots target
  have tidy' := relinked.tidy tidy
  obtain ⟨f, changed, alike⟩ := relinked
  obtain ⟨m, member, here, read⟩ := edge
  have member' := member
  rw [changed.toList] at member'
  obtain ⟨n, inside, rfl⟩ := List.mem_map.1 member'
  obtain ⟨x, before⟩ := Slot.read_alike (alike n) read
  have old : g.Edge s x := ⟨n, inside, (alike n).serial.symm.trans here, before⟩
  have new : (g.assignAll slots target).Edge s y := ⟨f n, member, here, read⟩
  exact ⟨x, old, new.unique tidy' (old.assignAll slots target)⟩

end Graph

namespace Workspace

variable {w w' w'' : Workspace} {loose loose' : List Slot} {links links' : List (Slot × String)}
  {j k : Nat}

/-- Every open edge that is handed out waits, or is loose. None waits twice. -/
structure Wired (w : Workspace) (loose : List Slot) : Prop where
  sound : w.Sound
  once : ∀ j, (w.joins.get j).waiting.Nodup
  loose_once : loose.Nodup
  free : ∀ s ∈ loose, w.graph.Edge s none ∧ ∀ j, s ∉ (w.joins.get j).waiting
  waits : ∀ s, w.graph.Edge s none → w.graph.HandsOut s →
    s ∈ loose ∨ ∃ j, s ∈ (w.joins.get j).waiting

/-- What a workspace ends up with, whatever grows and wherever builders still stand. -/
def EndsAs (w : Workspace) (F : Future) : Prop := ∃ growing live, w.Becomes F growing live

theorem Onward.endsAs {nodes builders sets joins : List Nat}
    (onward : Onward nodes builders sets joins w w') {F : Future} (ends : w'.EndsAs F) :
    w.EndsAs F := by
  obtain ⟨growing, live, becomes⟩ := ends
  have more := becomes.mono (List.subset_append_left growing nodes)
    (List.subset_append_left live joins)
  exact ⟨_, _, onward.back F _ _ (List.subset_append_right ..) (List.subset_append_right ..) more⟩

/-- The second workspace comes from the first one, and the edges that are linked on the way were not
linked before and are linked once. -/
structure Links (w w' : Workspace) (links : List (Slot × String)) : Prop where
  edge : ∀ s t, w'.graph.Edge s (some t) ↔ w.graph.Edge s (some t) ∨ (s, t) ∈ links
  new : ∀ s t u, (s, t) ∈ links → ¬ w.graph.Edge s (some u)
  once : (links.map Prod.fst).Nodup
  nodes : ∀ n ∈ w.graph.toList, ∃ n' ∈ w'.graph.toList, n'.serial = n.serial
  endsAs : ∀ F, w'.EndsAs F → w.EndsAs F

namespace Links

theorem trans (first : Links w w' links) (second : Links w' w'' links') :
    Links w w'' (links ++ links') where
  edge := fun s t => by
    rw [second.edge, first.edge, List.mem_append, or_assoc]
  new := fun s t u among edge => by
    rcases List.mem_append.1 among with early | late
    · exact first.new s t u early edge
    · exact second.new s t u late ((first.edge s u).2 (.inl edge))
  once := by
    rw [List.map_append, List.nodup_append]
    refine ⟨first.once, second.once, ?_⟩
    rintro s early _ late rfl
    obtain ⟨⟨_, t⟩, among, rfl⟩ := List.mem_map.1 early
    obtain ⟨⟨_, u⟩, among', same⟩ := List.mem_map.1 late
    subst same
    exact second.new _ u t among' ((first.edge _ t).2 (.inr among))
  nodes := fun n member => by
    obtain ⟨n', member', here⟩ := first.nodes n member
    obtain ⟨n'', member'', here'⟩ := second.nodes n' member'
    exact ⟨n'', member'', here'.trans here⟩
  endsAs := fun F ends => first.endsAs F (second.endsAs F ends)

/-- Nothing but the graph and the join points counts. -/
theorem congr (linked : Links w w' links) (graph : w''.graph = w'.graph)
    (joins : w''.joins = w'.joins) : Links w w'' links := by
  obtain ⟨edge, new, once, nodes, endsAs⟩ := linked
  refine ⟨by rwa [graph], new, once, by rwa [graph], fun F ends => endsAs F ?_⟩
  obtain ⟨growing, live, becomes⟩ := ends
  exact ⟨growing, live, becomes.congr graph joins⟩

theorem refl (w : Workspace) : Links w w [] :=
  ⟨by simp, by simp, by simp, fun n member => ⟨n, member, rfl⟩, fun _ ends => ends⟩

end Links

namespace Wired

theorem congr (wired : w.Wired loose) (graph : w'.graph = w.graph) (joins : w'.joins = w.joins)
    (detached : w'.detached = w.detached) : w'.Wired loose := by
  obtain ⟨sound, once, loose_once, free, waits⟩ := wired
  obtain ⟨tidy, attached, waiting, apart, settled, descends⟩ := sound
  exact
    { sound :=
        { tidy := by rwa [graph]
          attached := by rwa [detached]
          waiting := by rwa [graph, joins]
          apart := by rwa [joins]
          settled := by rwa [joins]
          descends := by rwa [joins] }
      once := by rwa [joins]
      loose_once := loose_once
      free := by rwa [graph, joins]
      waits := by rwa [graph, joins] }

/-- One open edge more is in the graph, which is loose if it is handed out. -/
theorem of_extended {nodes builders sets joins : List Nat} (wired : w.Wired [])
    (onward : Onward nodes builders sets joins w w') (same : w'.joins = w.joins) {slot : Slot}
    (edges : ∀ s x, w.graph.Edge s x → w'.graph.Edge s x)
    (origin : ∀ s x, w'.graph.Edge s x → w.graph.Edge s x ∨ s = slot ∧ x = none)
    (opens : w'.graph.Edge slot none) (absent : ¬ w.graph.Edge slot none)
    (handed : ∀ s, w.graph.Edge s none → w'.graph.HandsOut s → w.graph.HandsOut s)
    (keeps : ∀ n ∈ w.graph.toList, ∃ n' ∈ w'.graph.toList, n'.serial = n.serial)
    (once : loose.Nodup) (only : ∀ s ∈ loose, s = slot)
    (out : w'.graph.HandsOut slot → slot ∈ loose) : w'.Wired loose ∧ Links w w' [] := by
  have extended : w'.Wired loose :=
    { sound := onward.sound
      once := fun j => by
        rw [same]
        exact wired.once j
      loose_once := once
      free := fun s held => by
        rw [only s held, same]
        exact ⟨opens, fun j waits => absent (wired.sound.waiting j slot waits)⟩
      waits := fun s open_ handsOut => by
        rw [same]
        rcases origin s none open_ with old | ⟨rfl, _⟩
        · exact .inr ((wired.waits s old (handed s old handsOut)).resolve_left List.not_mem_nil)
        · exact .inl (out handsOut) }
  refine ⟨extended, fun s t => ⟨fun edge => ?_, ?_⟩, by simp, by simp, keeps, fun F => onward.endsAs⟩
  · rcases origin s _ edge with old | ⟨_, none⟩
    · exact .inl old
    · cases none
  · rintro (old | linked)
    · exact edges s _ old
    · cases linked

/-- A node that is new has no edges yet but its next, which is loose if it goes on by itself. -/
theorem grown (wired : w.Wired []) {n : Node} {g : Graph} (grown : w.graph.Grown n g)
    (bare : n.transitions = {}) :
    Wired { w with graph := g }
        (if n.kind.isTerminal || n.kind.isBranching then [] else [.next n.serial]) ∧
      Links w { w with graph := g } [] := by
  have sound := wired.sound
  have onward := onward_grown sound grown
  have stays {m : Node} (member : m ∈ w.graph.toList) : m ∈ g.toList := by
    rw [grown.toList]
    exact List.mem_append_left _ member
  have there : n ∈ g.toList := by
    rw [grown.toList]
    exact List.mem_append_right _ (List.mem_singleton_self n)
  have origin (s : Slot) (x : Option String) (edge : g.Edge s x) :
      w.graph.Edge s x ∨ s = .next n.serial ∧ x = none := by
    obtain ⟨m, member, here, read⟩ := edge
    rw [grown.toList, List.mem_append, List.mem_singleton] at member
    rcases member with old | rfl
    · exact .inl ⟨m, old, here, read⟩
    · rw [bare] at read
      cases s with
      | next => exact .inr ⟨congrArg Slot.next here.symm, (Option.some.inj read).symm⟩
      | condition => cases read
      | error => cases read
  have absent : ¬ w.graph.Edge (.next n.serial) none := by
    rintro ⟨m, member, here, _⟩
    have below := sound.tidy.counted m member
    have same : m.serial = n.serial := here
    rw [same, grown.serial] at below
    exact Nat.lt_irrefl _ below
  have handed (s : Slot) (old : w.graph.Edge s none) (handsOut : g.HandsOut s) :
      w.graph.HandsOut s := by
    cases s with
    | next serial =>
      obtain ⟨m, member, here, kinds⟩ := handsOut
      obtain ⟨m', member', here', _⟩ := old
      have same := Graph.eq_of_serial onward.sound.tidy member (stays member')
        (here.trans here'.symm)
      exact ⟨m, same ▸ member', here, kinds⟩
    | condition => trivial
    | error => trivial
  refine wired.of_extended onward rfl (fun s x edge => ?_) origin ⟨n, there, rfl, by rw [bare]; rfl⟩
    absent handed (fun m member => ⟨m, stays member, rfl⟩) ?_ (fun s among => ?_) fun handsOut => ?_
  · obtain ⟨m, member, rest⟩ := edge
    exact ⟨m, stays member, rest⟩
  · split
    · exact List.nodup_nil
    · exact List.nodup_singleton _
  · split at among
    · cases among
    · exact List.mem_singleton.1 among
  · obtain ⟨m, member, here, nonterminal, nonbranching⟩ := handsOut
    obtain rfl := Graph.eq_of_serial onward.sound.tidy member there here
    simp [nonterminal, nonbranching]

/-- A node gets one edge more, which is loose. -/
theorem modifyNode (wired : w.Wired []) {f : Node → Node} {n : Node} {slot : Slot}
    (adds : Graph.AddsSlot f n slot) (member : n ∈ w.graph.toList) :
    Wired (w.modifyNode n.serial f) [slot] ∧ Links w (w.modifyNode n.serial f) [] := by
  have sound := wired.sound
  have onward := onward_modifyNode sound adds.toAddsEdges n.serial
  have changed := Graph.changed_modifyNode w.graph n.serial f
  have back {m : Node} (inside : m ∈ (w.graph.modifyNode n.serial f).toList) :
      (m ∈ w.graph.toList ∧ m.serial ≠ n.serial) ∨ m = f n := by
    rw [changed.toList] at inside
    obtain ⟨m', inside', rfl⟩ := List.mem_map.1 inside
    by_cases same : m'.serial = n.serial
    · rw [if_pos same, Graph.eq_of_serial sound.tidy inside' member same]
      exact .inr rfl
    · rw [if_neg same]
      exact .inl ⟨inside', same⟩
  have origin (s : Slot) (x : Option String) (edge' : (w.graph.modifyNode n.serial f).Edge s x) :
      w.graph.Edge s x ∨ s = slot ∧ x = none := by
    obtain ⟨m, inside, serial, read⟩ := edge'
    rcases back inside with ⟨old, _⟩ | rfl
    · exact .inl ⟨m, old, serial, read⟩
    · rw [adds.serial] at serial
      rcases adds.only s x serial.symm read with before | rfl
      · exact .inl ⟨n, member, serial, before⟩
      · exact .inr ⟨rfl, Option.some.inj (read.symm.trans adds.opens)⟩
  have handed (s : Slot) (out : (w.graph.modifyNode n.serial f).HandsOut s) : w.graph.HandsOut s := by
    cases s with
    | next serial =>
      obtain ⟨m, inside, serial', nonterminal, nonbranching⟩ := out
      rcases back inside with ⟨still, _⟩ | rfl
      · exact ⟨m, still, serial', nonterminal, nonbranching⟩
      · rw [adds.kind] at nonterminal nonbranching
        exact ⟨n, member, (adds.serial n).symm.trans serial', nonterminal, nonbranching⟩
    | condition => trivial
    | error => trivial
  refine wired.of_extended onward rfl (fun s x edge => edge.modifyNode adds.toAddsEdges n.serial)
    origin (adds.edge member) (adds.new sound.tidy member none) (fun s _ => handed s)
    (fun m inside => ?_) (List.nodup_singleton _) (fun s => List.mem_singleton.1)
    fun _ => List.mem_singleton_self slot
  refine ⟨_, changed.toList ▸ List.mem_map_of_mem inside, ?_⟩
  split
  · exact adds.serial m
  · rfl

/-- What is loose begins to wait at a new join point. -/
theorem fresh (wired : w.Wired loose) :
    Wired (w.freshJoin loose).2 [] ∧ Links w (w.freshJoin loose).2 [] := by
  have onward := onward_fresh wired.sound wired.free
  have get := get_freshJoin w loose
  constructor
  · refine ⟨onward.sound, fun i => ?_, List.nodup_nil, by simp, fun s open_ handsOut => .inr ?_⟩
    · rw [get]
      split
      · exact wired.loose_once
      · exact wired.once i
    · rcases wired.waits s open_ handsOut with now | ⟨i, waits⟩
      · exact ⟨w.joins.size, by rw [get, if_pos rfl]; exact now⟩
      · have below : i ≠ w.joins.size := by
          rintro rfl
          simp [Joins.get_above (Nat.le_refl _)] at waits
        exact ⟨i, by rwa [get, if_neg below]⟩
  · exact ⟨fun s t => (or_iff_left List.not_mem_nil).symm, by simp, by simp,
      fun n member => ⟨n, member, rfl⟩, fun F => onward.endsAs⟩

/-- Edges that are linked to a target wait no more. -/
theorem of_assignAll (wired : w.Wired loose) {slots : List Slot} {target : String} {js : Joins Slot}
    (sound : Sound { w with graph := w.graph.assignAll slots target, joins := js })
    (once : ∀ i, (js.get i).waiting.Nodup) (linked : slots.Nodup)
    (waited : ∀ s ∈ slots, ∃ i, s ∈ (w.joins.get i).waiting)
    (stays : ∀ i, ∀ s ∈ (w.joins.get i).waiting, s ∉ slots → ∃ i', s ∈ (js.get i').waiting)
    (still : ∀ i, ∀ s ∈ (js.get i).waiting, ∃ i', s ∈ (w.joins.get i').waiting)
    (ends : ∀ F, EndsAs { w with graph := w.graph.assignAll slots target, joins := js } F →
      w.EndsAs F) :
    Wired { w with graph := w.graph.assignAll slots target, joins := js } loose ∧
      Links w { w with graph := w.graph.assignAll slots target, joins := js }
        (slots.map (·, target)) := by
  have tidy := wired.sound.tidy
  have open_ {s : Slot} (among : s ∈ slots) : w.graph.Edge s none := by
    obtain ⟨i, waits⟩ := waited s among
    exact wired.sound.waiting i s waits
  have held {s : Slot} (among : s ∈ loose) : s ∉ slots := fun both => by
    obtain ⟨i, waits⟩ := waited s both
    exact (wired.free s among).2 i waits
  constructor
  · refine ⟨sound, once, wired.loose_once, fun s among => ⟨?_, fun i waits => ?_⟩, fun s edge out => ?_⟩
    · have edge := (wired.free s among).1.assignAll slots target
      rwa [if_neg (held among)] at edge
    · obtain ⟨i', before⟩ := still i s waits
      exact (wired.free s among).2 i' before
    · obtain ⟨x, old, same⟩ := edge.of_assignAll tidy
      by_cases among : s ∈ slots
      · rw [if_pos among] at same
        cases same
      · rw [if_neg among] at same
        subst same
        rcases wired.waits s old (out.relinked (w.graph.relinked_assignAll slots target)) with
          loose | ⟨i, waits⟩
        · exact .inl loose
        · exact .inr (stays i s waits among)
  · refine ⟨fun s t => ⟨fun edge => ?_, ?_⟩, ?_, by simpa [Function.comp_def] using linked,
      fun n member => ?_, ends⟩
    · obtain ⟨x, old, same⟩ := edge.of_assignAll tidy
      by_cases among : s ∈ slots
      · rw [if_pos among] at same
        cases same
        exact .inr (List.mem_map_of_mem among)
      · rw [if_neg among] at same
        subst same
        exact .inl old
    · rintro (old | now)
      · have free : s ∉ slots := fun among => by cases old.unique tidy (open_ among)
        have edge := old.assignAll slots target
        rwa [if_neg free] at edge
      · obtain ⟨_, among, same⟩ := List.mem_map.1 now
        cases same
        have edge := (open_ among).assignAll slots target
        rwa [if_pos among] at edge
    · intro s t u now old
      obtain ⟨_, among, same⟩ := List.mem_map.1 now
      cases same
      cases old.unique tidy (open_ among)
    · obtain ⟨n', member', alike⟩ := (w.graph.relinked_assignAll slots target).alike member
      exact ⟨n', member', alike.serial⟩

/-- The edges that wait at one join point are linked, and none waits there any more. -/
theorem of_emptied (wired : w.Wired loose) {target : String} {js : Joins Slot}
    {nodes builders sets joins : List Nat}
    (onward : Onward nodes builders sets joins w
      { w with graph := w.graph.assignAll (w.joins.get j).waiting target, joins := js })
    (here : (js.get j).waiting = []) (other : ∀ i, i ≠ j → js.get i = w.joins.get i) :
    Wired { w with graph := w.graph.assignAll (w.joins.get j).waiting target, joins := js } loose ∧
      Links w { w with graph := w.graph.assignAll (w.joins.get j).waiting target, joins := js }
        ((w.joins.get j).waiting.map (·, target)) := by
  have still {i : Nat} {s : Slot} (waits : s ∈ (js.get i).waiting) :
      s ∈ (w.joins.get i).waiting := by
    by_cases same : i = j
    · rw [same, here] at waits
      cases waits
    · rwa [other i same] at waits
  refine wired.of_assignAll onward.sound (fun i => ?_) (wired.once j) (fun s among => ⟨j, among⟩)
    (fun i s waits free => ?_) (fun i s waits => ⟨i, still waits⟩) fun F => onward.endsAs
  · by_cases same : i = j
    · rw [same, here]
      exact List.nodup_nil
    · rw [other i same]
      exact wired.once i
  · have apart : i ≠ j := fun same => free (same ▸ waits)
    exact ⟨i, by rwa [other i apart]⟩

theorem resolve (wired : w.Wired loose) (open_ : w.joins.IsOpen j) (target : String) :
    Wired (w.resolve j target) loose ∧
      Links w (w.resolve j target) (w.joins.resolve j target).2 := by
  have onward := onward_resolve wired.sound open_ target
  have get (i : Nat) := get_resolve open_.below target i
  have same : w.resolve j target =
      { w with graph := w.graph.assignAll (w.joins.get j).waiting target
               joins := (w.joins.resolve j target).1 } :=
    link_eq wired.sound.attached _ _ target
  rw [same] at onward get
  rw [same]
  exact wired.of_emptied onward (by rw [get, if_pos rfl]) fun i apart => by rw [get, if_neg apart]

theorem forward (wired : w.Wired loose) (open_ : w.joins.IsOpen j) (earlier : k < j) :
    Wired (w.forward j k) loose ∧ Links w (w.forward j k) (w.joins.forward j k).2 := by
  have sound := wired.sound
  have onward := onward_forward sound open_ earlier
  obtain ⟨e, before, _, ⟨t, _, linked⟩ | ⟨_, _, none, added⟩⟩ :=
    Joins.forward_cases sound.descends open_ earlier
  · have get (i : Nat) := Joins.get_modify w.joins
      (fun join => { join with waiting := [], forward := some k }) open_.below i
    have same : w.forward j k =
        { w with graph := w.graph.assignAll (w.joins.get j).waiting t
                 joins := (w.joins.forward j k).1 } := by
      rw [Workspace.forward, linked]
      exact link_eq sound.attached _ _ t
    rw [same, linked] at onward
    rw [same, linked]
    exact wired.of_emptied onward (by rw [get, if_pos rfl]) fun i apart => by rw [get, if_neg apart]
  · have same : w.forward j k =
        { w with graph := w.graph.assignAll [] "", joins := (w.joins.forward j k).1 } := by
      have pair : w.joins.forward j k = ((w.joins.forward j k).1, []) := by rw [← none]
      rw [Workspace.forward, pair]
      exact link_eq sound.attached _ [] ""
    rw [same] at onward
    rw [same, none]
    -- no edge is linked: what waited at `j` waits at `e`, where none of it waited before
    refine wired.of_assignAll onward.sound (fun i => ?_) List.nodup_nil (by simp) ?_ ?_
      fun F => onward.endsAs
    · rw [added]
      split
      · refine List.nodup_append.2 ⟨wired.once e, wired.once j, ?_⟩
        rintro s old _ moved rfl
        exact Nat.ne_of_lt before (sound.apart e j s old moved)
      · split
        · exact List.nodup_nil
        · exact wired.once i
    · intro i s waits _
      by_cases here : i = e
      · subst here
        exact ⟨i, by rw [added, if_pos rfl]; exact List.mem_append_left _ waits⟩
      · by_cases moved : i = j
        · subst moved
          exact ⟨e, by rw [added, if_pos rfl]; exact List.mem_append_right _ waits⟩
        · exact ⟨i, by rwa [added, if_neg here, if_neg moved]⟩
    · intro i s waits
      rw [added] at waits
      split at waits
      · rcases List.mem_append.1 waits with old | moved
        · exact ⟨e, old⟩
        · exact ⟨j, moved⟩
      · split at waits
        · cases waits
        · exact ⟨i, waits⟩

end Wired

end Workspace

end ContactFlow
