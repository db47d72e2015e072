import ContactFlow.Proofs.Conditions
import ContactFlow.Proofs.Waiting

/-!
Where the edges of a flow under construction lead. An edge is linked to a node that was appended or to
the argument of a jump. The next of a node waits for a target only if the node goes on by itself, so
that terminal and branching nodes never have one.
-/

namespace ContactFlow

theorem mem_modify {α : Type} {l : List α} {i : Nat} {f : α → α} {b : α} (among : b ∈ l.modify i f) :
    b ∈ l ∨ ∃ a ∈ l, b = f a := by
  obtain ⟨j, found⟩ := List.mem_iff_getElem?.1 among
  rw [List.getElem?_modify] at found
  obtain ⟨a, there, rfl⟩ := Option.map_eq_some_iff.1 found
  have member := List.mem_of_getElem? there
  split
  · exact .inr ⟨a, member, rfl⟩
  · exact .inl member

namespace Transitions

theorem mem_targets {t : Transitions} {x : String} :
    x ∈ t.targets ↔ t.next = some x ∨ (∃ e ∈ t.conditions, e.target = some x) ∨
      ∃ e ∈ t.errors, e.target = some x := by
  simp [targets]

end Transitions

namespace Slot

theorem mem_targets_assignIn {s : Slot} {t : Transitions} {target x : String}
    (among : x ∈ (s.assignIn t target).targets) : x ∈ t.targets ∨ x = target := by
  rw [Transitions.mem_targets] at among ⊢
  cases s with
  | next =>
    rcases among with next | rest
    · exact .inr (Option.some.inj next).symm
    · exact .inl (.inr rest)
  | condition _ i =>
    rcases among with next | ⟨e, member, leads⟩ | error
    · exact .inl (.inl next)
    · rcases mem_modify member with old | ⟨e', _, rfl⟩
      · exact .inl (.inr (.inl ⟨e, old, leads⟩))
      · exact .inr (Option.some.inj leads).symm
    · exact .inl (.inr (.inr error))
  | error _ i =>
    rcases among with next | condition | ⟨e, member, leads⟩
    · exact .inl (.inl next)
    · exact .inl (.inr (.inl condition))
    · rcases mem_modify member with old | ⟨e', _, rfl⟩
      · exact .inl (.inr (.inr ⟨e, old, leads⟩))
      · exact .inr (Option.some.inj leads).symm

end Slot

/-! ### Join points -/

namespace Joins

variable {ℓ : Type} {js : Joins ℓ} {P P' : String → Prop} {H H' : ℓ → Prop} {j k : Nat}

/-- Join points at which only certain edges wait, and which have only certain targets. -/
structure Allows (P : String → Prop) (H : ℓ → Prop) (js : Joins ℓ) : Prop where
  target : ∀ j t, (js.get j).target = some t → P t
  waiting : ∀ j, ∀ s ∈ (js.get j).waiting, H s

/-- What an operation comes to, when the edges that it says are to be linked are such ones, too. -/
structure Passes (P : String → Prop) (H : ℓ → Prop) (r : Joins ℓ × List (ℓ × String)) : Prop where
  joins : r.1.Allows P H
  links : ∀ l ∈ r.2, H l.1 ∧ P l.2

theorem Allows.mono (allows : js.Allows P H) (targets : ∀ t, P t → P' t) (slots : ∀ s, H s → H' s) :
    js.Allows P' H' :=
  ⟨fun j t found => targets t (allows.target j t found),
    fun j s waits => slots s (allows.waiting j s waits)⟩

theorem Allows.fresh (allows : js.Allows P H) {waiting : List ℓ} (handed : ∀ s ∈ waiting, H s) :
    (js.fresh waiting).2.Allows P H := by
  refine ⟨fun j t found => ?_, fun j s waits => ?_⟩
  · rw [Joins.fresh, get_push] at found
    split at found
    · cases found
    · exact allows.target j t found
  · rw [Joins.fresh, get_push] at waits
    split at waits
    · exact handed s waits
    · exact allows.waiting j s waits

theorem Allows.modify (allows : js.Allows P H) {f : Join ℓ → Join ℓ}
    (target : ∀ t, (f (js.get j)).target = some t → P t) (waiting : ∀ s ∈ (f (js.get j)).waiting, H s) :
    Allows P H (Array.modify js j f) := by
  by_cases below : j < js.size
  · refine ⟨fun k t found => ?_, fun k s waits => ?_⟩
    · rw [get_modify js f below] at found
      split at found
      · exact target t found
      · exact allows.target k t found
    · rw [get_modify js f below] at waits
      split at waits
      · exact waiting s waits
      · exact allows.waiting k s waits
  · have same : Array.modify js j f = js := by
      refine Array.ext_getElem? fun i => ?_
      rw [Array.getElem?_modify]
      split
      · rename_i here
        subst here
        simp [Array.getElem?_eq_none (Nat.le_of_not_lt below)]
      · rfl
    rwa [same]

theorem Allows.resolve (allows : js.Allows P H) (j : Nat) {target : String} (known : P target) :
    Passes P H (js.resolve j target) where
  joins := by
    refine allows.modify (f := fun join => { join with waiting := [], target := some target })
      (fun t found => ?_) (by simp)
    cases found
    exact known
  links := by
    intro l among
    obtain ⟨s, waits, rfl⟩ := List.mem_map.1 among
    exact ⟨allows.waiting j s waits, known⟩

theorem Allows.add (allows : js.Allows P H) (j : Nat) {link : ℓ} (handed : H link) :
    Passes P H (js.add j link) := by
  unfold Joins.add
  cases js.settle (js.size + 1) j with
  | none => exact ⟨allows, by simp⟩
  | some k =>
    simp only
    cases found : (js.get k).target with
    | some target =>
      refine ⟨allows, fun l among => ?_⟩
      rw [List.mem_singleton.1 among]
      exact ⟨handed, allows.target k target found⟩
    | none =>
      have more := allows.modify (j := k) (f := fun join =>
        { join with waiting := join.waiting ++ [link] }) (fun t given => allows.target k t given)
        fun s waits => ?_
      · exact ⟨more, by simp⟩
      rcases List.mem_append.1 waits with old | new
      · exact allows.waiting k s old
      · rw [List.mem_singleton.1 new]
        exact handed

theorem Allows.addAll (allows : js.Allows P H) (j : Nat) {links : List ℓ}
    (handed : ∀ s ∈ links, H s) : Passes P H (js.addAll j links) := by
  induction links generalizing js with
  | nil => exact ⟨allows, by simp [Joins.addAll]⟩
  | cons link rest ih =>
    have first := allows.add j (handed link List.mem_cons_self)
    have later := ih first.joins fun s among => handed s (List.mem_cons_of_mem _ among)
    refine ⟨later.joins, fun l among => ?_⟩
    rcases List.mem_append.1 among with now | after
    · exact first.links l now
    · exact later.links l after

theorem Allows.forward (allows : js.Allows P H) (j k : Nat) : Passes P H (js.forward j k) :=
  (allows.modify (f := fun join => { join with waiting := [], forward := some k })
    (fun t found => allows.target j t found) (by simp)).addAll k (allows.waiting j)

end Joins

/-! ### Graphs -/

namespace Graph

variable {g g' : Graph} {P P' : String → Prop} {s : Slot}

/-- The targets of a graph are such ones, and nothing follows its terminal and branching nodes by
itself. -/
structure LeadsTo (P : String → Prop) (g : Graph) : Prop where
  targets : ∀ n ∈ g.toList, ∀ t ∈ n.transitions.targets, P t
  ends : ∀ n ∈ g.toList, n.kind.isTerminal ∨ n.kind.isBranching → n.transitions.next = none

theorem LeadsTo.mono (leads : g.LeadsTo P) (more : ∀ t, P t → P' t) : g.LeadsTo P' :=
  ⟨fun n member t among => more t (leads.targets n member t among), leads.ends⟩

theorem HandsOut.kept {f : Node → Node} (changed : Changed f g g')
    (same : ∀ n, (f n).serial = n.serial ∧ (f n).kind = n.kind) (handsOut : g.HandsOut s) :
    g'.HandsOut s := by
  cases s with
  | next serial =>
    obtain ⟨n, member, here, nonterminal, nonbranching⟩ := handsOut
    refine ⟨f n, ?_, (same n).1.trans here, ?_, ?_⟩
    · rw [changed.toList]
      exact List.mem_map_of_mem member
    · rwa [(same n).2]
    · rwa [(same n).2]
  | condition => trivial
  | error => trivial

theorem HandsOut.grown {n : Node} (grown : g.Grown n g') (handsOut : g.HandsOut s) :
    g'.HandsOut s := by
  cases s with
  | next serial =>
    obtain ⟨m, member, rest⟩ := handsOut
    refine ⟨m, ?_, rest⟩
    rw [grown.toList]
    exact List.mem_append_left _ member
  | condition => trivial
  | error => trivial

theorem LeadsTo.assign (leads : g.LeadsTo P) (tidy : g.Tidy) (handsOut : g.HandsOut s)
    {target : String} (known : P target) :
    (g.modifyNode s.node (s.assign target)).LeadsTo P := by
  have changed := changed_modifyNode g s.node (s.assign target)
  refine ⟨fun m member t among => ?_, fun m member stops => ?_⟩
  · obtain ⟨n, inside, rfl⟩ := List.mem_map.1 (changed.toList ▸ member)
    split at among
    · rcases Slot.mem_targets_assignIn among with old | rfl
      · exact leads.targets n inside t old
      · exact known
    · exact leads.targets n inside t among
  · obtain ⟨n, inside, rfl⟩ := List.mem_map.1 (changed.toList ▸ member)
    by_cases here : n.serial = s.node
    · rw [if_pos here] at stops ⊢
      rw [(s.assign_alike target n).kind] at stops
      cases s with
      | next serial =>
        -- the edge waits only if its node goes on by itself
        obtain ⟨k, there, serial', nonterminal, nonbranching⟩ := handsOut
        rw [eq_of_serial tidy there inside (serial'.trans here.symm)] at nonterminal nonbranching
        exact absurd stops (not_or.2 ⟨nonterminal, nonbranching⟩)
      | condition => exact leads.ends n inside stops
      | error => exact leads.ends n inside stops
    · rw [if_neg here] at stops ⊢
      exact leads.ends n inside stops

theorem LeadsTo.grown (leads : g.LeadsTo P) {n : Node} (grown : g.Grown n g')
    (bare : n.transitions = {}) : g'.LeadsTo P := by
  refine ⟨fun m member t among => ?_, fun m member stops => ?_⟩
  · rw [grown.toList, List.mem_append, List.mem_singleton] at member
    rcases member with old | rfl
    · exact leads.targets m old t among
    · simp [bare, Transitions.targets] at among
  · rw [grown.toList, List.mem_append, List.mem_singleton] at member
    rcases member with old | rfl
    · exact leads.ends m old stops
    · rw [bare]

/-- Nodes may get edges that lead nowhere yet. -/
theorem LeadsTo.extended (leads : g.LeadsTo P) {f : Node → Node} (changed : Changed f g g')
    (same : ∀ n, (f n).kind = n.kind ∧ (f n).transitions.next = n.transitions.next ∧
      (f n).transitions.targets = n.transitions.targets) : g'.LeadsTo P := by
  refine ⟨fun m member t among => ?_, fun m member stops => ?_⟩
  · obtain ⟨n, inside, rfl⟩ := List.mem_map.1 (changed.toList ▸ member)
    rw [(same n).2.2] at among
    exact leads.targets n inside t among
  · obtain ⟨n, inside, rfl⟩ := List.mem_map.1 (changed.toList ▸ member)
    rw [(same n).1] at stops
    rw [(same n).2.1]
    exact leads.ends n inside stops

/-- What a target is: an identifier in the graph, or the argument of a jump. -/
def Names (g : Graph) (jumps : List String) (t : String) : Prop := t ∈ g.keys ∨ t ∈ jumps

theorem Names.grown {jumps : List String} {t : String} {n : Node} (grown : g.Grown n g')
    (named : g.Names jumps t) : g'.Names jumps t := by
  refine named.imp_left fun among => ?_
  rw [grown.keys]
  exact List.mem_append_left _ among

end Graph

namespace Workspace

variable {w w' : Workspace} {loops : List OpenLoop} {jumps : List String} {b : Nat}

/-- What holds of the targets of a flow, those that it has and those that it may get. -/
structure Leads (w : Workspace) (jumps : List String) : Prop where
  joins : w.joins.Allows (w.graph.Names jumps) w.graph.HandsOut
  graph : w.graph.LeadsTo (w.graph.Names jumps)

/-- Nothing but the graph and the join points counts. -/
theorem Leads.congr (leads : w.Leads jumps) (graph : w'.graph = w.graph) (joins : w'.joins = w.joins) :
    w'.Leads jumps := by
  obtain ⟨allows, led⟩ := leads
  exact ⟨by rwa [graph, joins], by rwa [graph]⟩

theorem Leads.link (leads : w.Leads jumps) (tidy : w.graph.Tidy)
    {r : Joins Slot × List (Slot × String)}
    (passes : Joins.Passes (w.graph.Names jumps) w.graph.HandsOut r) : (w.link r).Leads jumps := by
  obtain ⟨allows, each⟩ := passes
  have step (links : List (Slot × String)) (w : Workspace) (leads : w.Leads jumps)
      (tidy : w.graph.Tidy)
      (each : ∀ l ∈ links, w.graph.HandsOut l.1 ∧ w.graph.Names jumps l.2) :
      (links.foldl (fun w l => w.modifyNode l.1.node (l.1.assign l.2)) w).Leads jumps := by
    induction links generalizing w with
    | nil => exact leads
    | cons l rest ih =>
      obtain ⟨handsOut, known⟩ := each l List.mem_cons_self
      have changed := Graph.changed_modifyNode w.graph l.1.node (l.1.assign l.2)
      have relinked := w.graph.relinked_assign l.1 l.2
      have same (n : Node) : (if n.serial = l.1.node then l.1.assign l.2 n else n).serial = n.serial ∧
          (if n.serial = l.1.node then l.1.assign l.2 n else n).kind = n.kind := by
        split
        · exact ⟨(l.1.assign_alike l.2 n).serial, (l.1.assign_alike l.2 n).kind⟩
        · exact ⟨rfl, rfl⟩
      have names (t : String) (named : w.graph.Names jumps t) :
          (w.graph.modifyNode l.1.node (l.1.assign l.2)).Names jumps t := by
        unfold Graph.Names at named ⊢
        rwa [changed.keys]
      refine ih _ ⟨leads.joins.mono names fun s => .kept changed same,
        (leads.graph.assign tidy handsOut known).mono names⟩ (relinked.tidy tidy) fun l' among => ?_
      obtain ⟨handsOut', known'⟩ := each l' (List.mem_cons_of_mem _ among)
      exact ⟨handsOut'.kept changed same, names _ known'⟩
  rw [link_foldl]
  exact step r.2 { w with joins := r.1 } ⟨allows, leads.graph⟩ tidy each

theorem Leads.resolve (leads : w.Leads jumps) (tidy : w.graph.Tidy) (j : Nat) {target : String}
    (known : w.graph.Names jumps target) : (w.resolve j target).Leads jumps :=
  leads.link tidy (leads.joins.resolve j known)

theorem Leads.freshJoin (leads : w.Leads jumps) (waiting : List Slot)
    (handed : ∀ s ∈ waiting, w.graph.HandsOut s) : (w.freshJoin waiting).2.Leads jumps :=
  ⟨leads.joins.fresh handed, leads.graph⟩

theorem Leads.extended (leads : w.Leads jumps) {f : Node → Node}
    (changed : w.graph.Changed f w'.graph) (joins : w'.joins = w.joins)
    (same : ∀ n, (f n).serial = n.serial ∧ (f n).kind = n.kind ∧
      (f n).transitions.next = n.transitions.next ∧
      (f n).transitions.targets = n.transitions.targets) : w'.Leads jumps := by
  have names (t : String) (named : w.graph.Names jumps t) : w'.graph.Names jumps t := by
    unfold Graph.Names at named ⊢
    rwa [changed.keys]
  have extended := leads.graph.extended changed fun n => (same n).2
  refine ⟨?_, extended.mono names⟩
  rw [joins]
  exact leads.joins.mono names fun s => .kept changed fun n => ⟨(same n).1, (same n).2.1⟩

theorem Leads.addCondition (leads : w.Leads jumps) (node : Nat) (guard : Guard) :
    (w.addCondition node guard).2.Leads jumps := by
  refine leads.extended (w.changed_addCondition node guard) rfl fun n => ?_
  split
  · exact ⟨rfl, rfl, rfl, by simp [Node.plusCondition, Transitions.targets]⟩
  · exact ⟨rfl, rfl, rfl, rfl⟩

theorem Leads.addError (leads : w.Leads jumps) (node : Nat) (kind : ErrorKind) :
    (w.addError node kind).2.Leads jumps := by
  refine leads.extended (w.changed_addError node kind) rfl fun n => ?_
  split
  · exact ⟨rfl, rfl, rfl, by simp [Node.plusError, Transitions.targets]⟩
  · exact ⟨rfl, rfl, rfl, rfl⟩

theorem Leads.withCondition (leads : w.Leads jumps) (node : Nat) (guard : Guard) (join : Nat) :
    (w.withCondition node guard join).Leads jumps := by
  have opened := (leads.addCondition node guard).freshJoin
    [(w.addCondition node guard).1] (by
      intro s among
      rw [List.mem_singleton.1 among]
      trivial)
  exact opened.congr rfl rfl

theorem Leads.withError (leads : w.Leads jumps) (node : Nat) (kind : ErrorKind)
    (join : Option Nat) : (w.withError node kind join).Leads jumps := by
  have opened := (leads.addError node kind).freshJoin [(w.addError node kind).1] (by
      intro s among
      rw [List.mem_singleton.1 among]
      trivial)
  exact opened.congr rfl rfl

/-! ### Calls -/

theorem Leads.placeNew (leads : w.Leads jumps) (orderly : w.Orderly) {d : Draft} {n : Node}
    {g : Graph} {hint id : Value} (made : w.graph.newNode d.kind hint d.parameters id = .ok (n, g)) :
    (w.placeNew b d n g).Leads jumps := by
  obtain ⟨start, kind, _, bare⟩ := Graph.newNode_ok orderly.tidy made
  let g' := g.modifyNode n.serial (complete d)
  have grown : w.graph.Grown (complete d n) g' := start.modifyNode orderly.tidy _ ⟨rfl, rfl⟩
  let w₀ := w.withNode g' n.id
  have there : complete d n ∈ g'.toList := by
    rw [grown.toList]
    exact List.mem_append_right _ (List.mem_singleton_self _)
  have names (t : String) : w.graph.Names jumps t → g'.Names jumps t := .grown grown
  have tidy : w₀.graph.Tidy := grown.tidy orderly.tidy
  have added : w₀.Leads jumps :=
    ⟨leads.joins.mono names fun _ => .grown grown, (leads.graph.grown grown bare).mono names⟩
  have known : w₀.graph.Names jumps n.id := by
    refine .inl ?_
    change n.id ∈ g'.keys
    rw [grown.keys]
    exact List.mem_append_right _ (List.mem_singleton_self _)
  have linked := added.resolve tidy (w₀.builder b).cursor known
  have moved := linked.freshJoin
    (if d.kind.isTerminal || d.kind.isBranching then [] else [.next n.serial]) (by
      intro s among
      split at among
      · cases among
      · rename_i goes
        rw [List.mem_singleton.1 among]
        obtain ⟨f, changed, alike⟩ :=
          (relinked_link w₀ (w₀.joins.resolve (w₀.builder b).cursor n.id)).graph
        have out : w₀.graph.HandsOut (.next n.serial) := by
          refine ⟨complete d n, there, rfl, ?_⟩
          have same : (complete d n).kind = d.kind := kind
          rw [same]
          simpa [not_or] using goes
        exact out.kept changed fun m => ⟨(alike m).serial, (alike m).kind⟩)
  exact moved.congr rfl rfl

theorem Leads.append (leads : w.Leads jumps) (orderly : w.Orderly) (a : Action) (label id : Value) :
    (Builder.append b a label id w).2.Leads jumps := by
  rcases Builder.append_apply b a label id w with ⟨e, failed⟩ | ⟨d, n, g, _, _, made, done⟩
  · rw [failed]
    exact leads
  · rw [done]
    exact leads.placeNew orderly made

theorem Leads.appendBranching (leads : w.Leads jumps) (orderly : w.Orderly) (a : Action)
    (label id : Value) : (Builder.appendBranching b a label id w).2.Leads jumps := by
  have appended := leads.append (b := b) orderly a label id
  rw [Builder.appendBranching_apply]
  generalize Builder.append b a label id w = r at appended
  obtain ⟨result, w'⟩ := r
  cases result with
  | error e => exact appended
  | ok node => exact appended.congr rfl rfl

theorem Leads.openError (leads : w.Leads jumps) (node : Handle) (join : Option Nat)
    (kind : ErrorKind) : (Builder.openError node join kind w).2.Leads jumps := by
  rcases Builder.openError_apply node join kind w with ⟨e, failed⟩ | ⟨_, done⟩
  · rw [failed]
    exact leads
  · rw [done]
    exact leads.withError node.serial kind join

theorem Leads.openBranch (leads : w.Leads jumps) (i : Nat) (branch : Branch) :
    (Builder.openBranch i branch w).2.Leads jumps := by
  rcases Builder.openBranch_apply i branch w with ⟨e, failed⟩ | ⟨opening, set, _, done⟩
  · rw [failed]
    exact leads
  · rw [done]
    have same (s : BranchSet) : (w.setBranches i s).Leads jumps := leads.congr rfl rfl
    cases opening with
    | error kind => exact (same set).openError ..
    | condition guard key =>
      simp only
      rcases Builder.openCondition_apply i guard key (w.setBranches i set) with
        ⟨e, failed⟩ | ⟨_, done⟩
      · rw [failed]
        exact same set
      · rw [done, setBranches_twice]
        exact (same _).withCondition _ guard _

theorem Leads.openHandler (leads : w.Leads jumps) (b : Nat) (name : ErrorName) :
    (Builder.openHandler b name w).2.Leads jumps := by
  rcases Builder.openHandler_apply b name w with ⟨e, failed⟩ | ⟨node, kind, _, _, done⟩
  · rw [failed]
    exact leads
  · rw [done]
    exact leads.openError ..

theorem Leads.openLoop (leads : w.Leads jumps) (orderly : w.Orderly) {times label id : Value}
    {node : Handle} {o : OpenBranch}
    (opened : Builder.openLoop b times label id w = (.ok (node, o), w')) : w'.Leads jumps := by
  obtain ⟨w₁, appended, _, rfl⟩ := Builder.openLoop_ok opened
  have placed := leads.append (b := b) orderly (.loop times) label id
  have tidy := (orderly.append (b := b) (.loop times) label id).tidy
  rw [appended] at placed tidy
  obtain ⟨⟨n, member, _, name, _⟩, _⟩ := append_node orderly appended
  have known : w₁.graph.Names jumps node.id := .inl ((Graph.mem_keys tidy).2 ⟨n, member, name⟩)
  have began : (w₁.freshJoin []).2.Leads jumps := placed.freshJoin [] (by simp)
  have led : ((w₁.freshJoin []).2.resolve w₁.joins.size node.id).Leads jumps :=
    began.resolve tidy _ known
  exact (led.withCondition node.serial _ w₁.joins.size).congr rfl rfl

theorem Leads.withExit (leads : w.Leads jumps) (b node : Nat) : (w.withExit b node).Leads jumps := by
  have moved := (leads.addCondition node (.equals Builder.doneLooping)).freshJoin
    [(w.addCondition node (.equals Builder.doneLooping)).1] (by
      intro s among
      rw [List.mem_singleton.1 among]
      trivial)
  exact moved.congr rfl rfl

theorem Leads.continued (leads : w.Leads jumps) (tidy : w.graph.Tidy) (b join : Nat) :
    (w.continued b join).Leads jumps :=
  (leads.link tidy (leads.joins.forward (w.builder b).cursor join)).congr rfl rfl

theorem Leads.thenContinue (leads : w.Leads jumps) (tidy : w.graph.Tidy) (b : Nat) :
    (Builder.thenContinue b w).2.Leads jumps := by
  rcases Builder.thenContinue_apply b w with ⟨e, failed⟩ | ⟨join, _, _, done⟩
  · rw [failed]
    exact leads
  · rw [done]
    exact leads.continued tidy b join

theorem Leads.closeLoop (leads : w.Leads jumps) (tidy : w.graph.Tidy) (b : Nat) (node : Handle)
    (o : OpenBranch) : (Builder.closeLoop b node o w).2.Leads jumps := by
  rcases Builder.closeLoop_apply b node o w with ⟨e, failed⟩ | ⟨_, done⟩ | ⟨join, _, _, done⟩
  · rw [failed]
    exact leads
  · rw [done]
    exact leads.withExit b node.serial
  · rw [done]
    exact (leads.continued tidy o.builder join).withExit b node.serial

theorem Leads.mono {more : List String} (leads : w.Leads jumps) (subset : jumps ⊆ more) :
    w.Leads more := by
  have names (t : String) (named : w.graph.Names jumps t) : w.graph.Names more t :=
    named.imp_right (subset ·)
  exact ⟨leads.joins.mono names fun _ => id, leads.graph.mono names⟩

theorem Leads.jumpTo (leads : w.Leads jumps) (tidy : w.graph.Tidy) (b : Nat) (target : Value) :
    (Builder.jumpTo b target w).2.Leads (target.display :: jumps) := by
  have more : w.Leads (target.display :: jumps) := leads.mono (List.subset_cons_self _ _)
  rcases Builder.jumpTo_apply b target w with ⟨e, failed⟩ | ⟨_, done⟩
  · rw [failed]
    exact more
  · rw [done]
    have known : w.graph.Names (target.display :: jumps) target.display := .inr List.mem_cons_self
    have led := (more.resolve tidy (w.builder b).cursor known).freshJoin [] (by simp)
    exact led.congr rfl rfl

/-- Whatever is called, edges lead to nodes and to where jumps go. -/
theorem Calls.leads (calls : Calls w loops jumps) : w.Leads jumps := by
  induction calls with
  | start started =>
    rw [start_eq started]
    refine ⟨⟨fun j t found => ?_, fun j s waits => ?_⟩, by simp [Graph.toList], by simp [Graph.toList]⟩
    · cases j <;> simp [Joins.get] at found
    · cases j <;> simp [Joins.get] at waits
  | append calls _ _ _ label id ih => exact ih.append calls.tracked.orderly _ label id
  | appendBranching calls _ _ _ label id ih =>
    exact ih.appendBranching calls.tracked.orderly _ label id
  | openBranch _ _ _ ih => exact ih.openBranch _ _
  | openHandler _ _ name ih => exact ih.openHandler _ name
  | openLoop calls _ opened ih => exact ih.openLoop calls.tracked.orderly opened
  | closeLoop calls _ ih => exact ih.closeLoop calls.tracked.orderly.tidy _ _ _
  | jumpTo calls _ target ih => exact ih.jumpTo calls.tracked.orderly.tidy _ target
  | thenContinue calls _ ih => exact ih.thenContinue calls.tracked.orderly.tidy _

end Workspace

/-! ### Under construction

What holds of the graph of a flow under construction. Any calls may come in any order, and any of them
may fail.
-/

namespace Graph

structure Upheld (g : Graph) (jumps : List String) : Prop where
  named : ∀ e ∈ g.nodes, e.1 = e.2.id
  distinct : g.keys.Nodup
  used : g.allocator.used = g.keys
  /-- The nodes are listed as they were appended, and the first one is the entry. -/
  order : g.toList.map (·.serial) = List.range g.count
  entry : g.entry = g.toList.head?.map (·.id)
  ends : ∀ n ∈ g.toList, n.kind.isTerminal ∨ n.kind.isBranching → n.transitions.next = none
  errors : ∀ n ∈ g.toList, n.transitions.kinds.Nodup
  conditions : ∀ n ∈ g.toList, n.transitions.guards.Nodup
  inputs : ∀ n ∈ g.toList, n.kind = .collectInput →
    n.transitions.guards.Pairwise fun g g' => ¬ g.Shares g'
  targets : ∀ n ∈ g.toList, ∀ t ∈ n.transitions.targets, t ∈ g.keys ∨ t ∈ jumps

end Graph

namespace Workspace

variable {w : Workspace} {loops : List OpenLoop} {jumps : List String}

/-- Whatever is called, and whether it fails or not, the graph is upheld. -/
theorem upheld_of_calls (calls : Calls w loops jumps) : w.graph.Upheld jumps := by
  obtain ⟨orderly, inOrder, _⟩ := calls.tracked
  have filed := calls.filed
  have leads := calls.leads
  exact
    { named := orderly.tidy.named
      distinct := orderly.tidy.distinct
      used := inOrder.used
      order := inOrder.serials
      entry := by rw [inOrder.entry, Graph.keys_eq orderly.tidy, List.head?_map]
      ends := leads.graph.ends
      errors := fun n member => (orderly.proper n member).once
      conditions := fun n member => (filed.clear n member).distinct
      inputs := fun n member _ => (filed.clear n member).apart
      targets := leads.graph.targets }

namespace Menu

def opening : Workspace :=
  { flow := "menu", graph := { name := "menu" }, joins := #[{}], builders := #[{ cursor := 0 }] }

/-- A menu with a jump to an action that is never appended. The same digit is refused the second time,
and so is an action after the jump. -/
def jumped : Workspace :=
  let w := (Builder.appendBranching 0 (.collectInput { prompt := .text "Press 1." }) .null .null
    opening).2
  let w := (Builder.openBranch 0 (.digits (.text "1")) w).2
  let w := (Builder.jumpTo 1 (.text "later") w).2
  let w := (Builder.append 1 .disconnect .null .null w).2
  let w := (Builder.openBranch 0 (.digits (.text "1")) w).2
  (Builder.openBranch 0 .timeout w).2

def workspace : Workspace := (Builder.openLoop 2 (.scalar (.int 2)) .null .null jumped).2

theorem calls_jumped : Calls jumped [] ["later"] := by
  have begun : Calls opening [] [] := .named (by decide +kernel)
  have asked := begun.appendBranching (b := 0) (by decide +kernel)
    (a := .collectInput { prompt := .text "Press 1." }) (by decide) trivial .null .null
  have chosen := asked.openBranch (i := 0) (by decide +kernel) (c := .digits (.text "1")) rfl
  have left := chosen.jumpTo (b := 1) (by decide +kernel) (.text "later")
  have closed := left.append (b := 1) (by decide +kernel) (a := .disconnect) rfl
    ActionKind.noConfusion .null .null
  have refused := closed.openBranch (i := 0) (by decide +kernel) (c := .digits (.text "1")) rfl
  exact refused.openBranch (i := 0) (by decide +kernel) (c := .timeout) trivial

/-- The loop stays open. -/
theorem calls : Calls workspace [⟨2, ⟨"loop", 1⟩, ⟨3, "loop body"⟩, false⟩] ["later"] := by
  have opened : (Builder.openLoop 2 (.scalar (.int 2)) .null .null jumped).1.toOption =
      some (⟨"loop", 1⟩, ⟨3, "loop body"⟩) := by decide +kernel
  have ran : Builder.openLoop 2 (.scalar (.int 2)) .null .null jumped =
      (.ok (⟨"loop", 1⟩, ⟨3, "loop body"⟩), workspace) := by
    rw [← Results.toOption_eq_some.1 opened, workspace]
  exact calls_jumped.openLoop (by decide +kernel) ran

end Menu

/-- The jump leads to no node, and everything else is as it should be. -/
theorem upheld_menu : Menu.workspace.graph.Upheld ["later"] ∧
    Menu.workspace.graph.keys = ["collect_input", "loop"] :=
  ⟨upheld_of_calls Menu.calls, by decide +kernel⟩

end Workspace

end ContactFlow
