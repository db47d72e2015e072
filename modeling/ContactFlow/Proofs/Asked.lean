import ContactFlow.Proofs.Built

/-!
What the nodes of a flow were asked for, whatever was called. Every node has the kind and the
parameters of the draft of an action. A loop has a condition for another round, and one for the way
out once its body is closed.
-/

namespace ContactFlow

namespace Node

/-- The node is one that an action asked for. -/
def Asked (asks : Action → Prop) (n : Node) : Prop :=
  ∃ a d, asks a ∧ a.draft = .ok d ∧ n.kind = a.kind ∧ n.parameters = d.parameters

/-- The second node is the first one with other targets, and perhaps with more edges. -/
structure Widened (n m : Node) : Prop where
  serial : m.serial = n.serial
  kind : m.kind = n.kind
  parameters : m.parameters = n.parameters
  guards : n.transitions.guards ⊆ m.transitions.guards

variable {n m k : Node} {asks : Action → Prop}

theorem Widened.refl (n : Node) : Widened n n := ⟨rfl, rfl, rfl, List.Subset.refl _⟩

theorem Widened.trans (first : Widened n m) (second : Widened m k) : Widened n k where
  serial := second.serial.trans first.serial
  kind := second.kind.trans first.kind
  parameters := second.parameters.trans first.parameters
  guards := List.Subset.trans first.guards second.guards

theorem Alike.widened (alike : Alike m n) : Widened n m where
  serial := alike.serial
  kind := alike.kind
  parameters := alike.parameters
  guards := by
    rw [alike.guards]
    exact List.Subset.refl _

theorem widened_plusCondition (guard : Guard) (n : Node) : Widened n (n.plusCondition guard) where
  serial := rfl
  kind := rfl
  parameters := rfl
  guards := by
    rw [guards_plusCondition]
    exact List.subset_append_left _ _

theorem widened_plusError (kind : ErrorKind) (n : Node) : Widened n (n.plusError kind) :=
  ⟨rfl, rfl, rfl, List.Subset.refl _⟩

theorem Asked.widened (asked : n.Asked asks) (widened : Widened n m) : m.Asked asks := by
  obtain ⟨a, d, among, drafted, kind, parameters⟩ := asked
  exact ⟨a, d, among, drafted, widened.kind.trans kind, widened.parameters.trans parameters⟩

end Node

namespace Graph

/-- The second graph is the first one with other targets, and perhaps with more edges. -/
def Widens (g g' : Graph) : Prop := ∃ f, Changed f g g' ∧ ∀ n, Node.Widened n (f n)

variable {g g' g'' : Graph} {n m : Node}

theorem Widens.refl (g : Graph) : Widens g g := ⟨id, ⟨by simp, rfl, rfl, rfl⟩, Node.Widened.refl⟩

theorem Widens.trans (first : Widens g g') (second : Widens g' g'') : Widens g g'' := by
  obtain ⟨f, changed, widened⟩ := first
  obtain ⟨f', changed', widened'⟩ := second
  refine ⟨f' ∘ f, ⟨?_, ?_, ?_, ?_⟩, fun n => (widened n).trans (widened' (f n))⟩
  · rw [changed'.nodes, changed.nodes, List.map_map]
    rfl
  · rw [changed'.allocator, changed.allocator]
  · rw [changed'.count, changed.count]
  · rw [changed'.entry, changed.entry]

theorem Relinked.widens (relinked : g.Relinked g') : g.Widens g' := by
  obtain ⟨f, changed, alike⟩ := relinked
  exact ⟨f, changed, fun n => (alike n).widened⟩

theorem Widens.kept (widens : g.Widens g') (member : n ∈ g.toList) :
    ∃ m ∈ g'.toList, Node.Widened n m := by
  obtain ⟨f, changed, widened⟩ := widens
  exact ⟨f n, changed.toList ▸ List.mem_map_of_mem member, widened n⟩

theorem Widens.origin (widens : g.Widens g') (member : m ∈ g'.toList) :
    ∃ n ∈ g.toList, Node.Widened n m := by
  obtain ⟨f, changed, widened⟩ := widens
  rw [changed.toList] at member
  obtain ⟨n, inside, rfl⟩ := List.mem_map.1 member
  exact ⟨n, inside, widened n⟩

end Graph

namespace Workspace

variable {w w' : Workspace} {b : Nat} {loops loops' : List OpenLoop} {asks : Action → Prop}

theorem widens_addCondition (w : Workspace) (node : Nat) (guard : Guard) :
    w.graph.Widens (w.addCondition node guard).2.graph := by
  refine ⟨_, w.changed_addCondition node guard, fun n => ?_⟩
  split
  · exact Node.widened_plusCondition guard n
  · exact .refl n

theorem widens_addError (w : Workspace) (node : Nat) (kind : ErrorKind) :
    w.graph.Widens (w.addError node kind).2.graph := by
  refine ⟨_, w.changed_addError node kind, fun n => ?_⟩
  split
  · exact Node.widened_plusError kind n
  · exact .refl n

theorem widens_openError (w : Workspace) (node : Handle) (join : Option Nat) (kind : ErrorKind) :
    w.graph.Widens (Builder.openError node join kind w).2.graph := by
  rcases Builder.openError_apply node join kind w with ⟨e, failed⟩ | ⟨_, done⟩
  · rw [failed]
    exact .refl _
  · rw [done]
    exact w.widens_addError node.serial kind

theorem widens_openBranch (w : Workspace) (i : Nat) (branch : Branch) :
    w.graph.Widens (Builder.openBranch i branch w).2.graph := by
  rcases Builder.openBranch_apply i branch w with ⟨e, failed⟩ | ⟨opening, set, _, done⟩
  · rw [failed]
    exact .refl _
  · rw [done]
    cases opening with
    | error kind => exact (w.setBranches i set).widens_openError set.node (some set.join) kind
    | condition guard key =>
      simp only
      rcases Builder.openCondition_apply i guard key (w.setBranches i set) with
        ⟨e, failed⟩ | ⟨_, done⟩
      · rw [failed]
        exact .refl _
      · rw [done]
        exact Workspace.widens_addCondition _ _ guard

theorem widens_openHandler (w : Workspace) (b : Nat) (name : ErrorName) :
    w.graph.Widens (Builder.openHandler b name w).2.graph := by
  rcases Builder.openHandler_apply b name w with ⟨e, failed⟩ | ⟨node, kind, _, _, done⟩
  · rw [failed]
    exact .refl _
  · rw [done]
    exact w.widens_openError node _ kind

theorem widens_jumpTo (w : Workspace) (b : Nat) (target : Value) :
    w.graph.Widens (Builder.jumpTo b target w).2.graph := by
  rcases Builder.jumpTo_apply b target w with ⟨e, failed⟩ | ⟨_, done⟩
  · rw [failed]
    exact .refl _
  · rw [done]
    exact (w.relinked_link _).graph.widens

theorem widens_continued (w : Workspace) (b join : Nat) :
    w.graph.Widens (w.continued b join).graph :=
  (w.relinked_link _).graph.widens

theorem widens_thenContinue (w : Workspace) (b : Nat) :
    w.graph.Widens (Builder.thenContinue b w).2.graph := by
  rcases Builder.thenContinue_apply b w with ⟨e, failed⟩ | ⟨join, _, _, done⟩
  · rw [failed]
    exact .refl _
  · rw [done]
    exact w.widens_continued b join

/-- An action that is appended leaves the nodes that were there, and adds at most its own. -/
theorem append_origin (orderly : w.Orderly) {a : Action} (asked : asks a) (label id : Value) :
    (∀ n ∈ w.graph.toList, ∃ m ∈ (Builder.append b a label id w).2.graph.toList,
      Node.Widened n m) ∧
    ∀ m ∈ (Builder.append b a label id w).2.graph.toList,
      (∃ n ∈ w.graph.toList, Node.Widened n m) ∨
        m.Asked asks ∧ m.kind = a.kind ∧ m.serial = w.graph.count := by
  rcases Builder.append_apply b a label id w with ⟨e, failed⟩ | ⟨d, n, g, drafted, _, made, done⟩
  · rw [failed]
    exact ⟨fun n member => ⟨n, member, .refl n⟩, fun m member => .inl ⟨m, member, .refl m⟩⟩
  · rw [done]
    obtain ⟨start, kind, parameters, _⟩ := Graph.newNode_ok orderly.tidy made
    obtain ⟨⟨g', grown, relinked⟩, _, _⟩ := placeNew_spec (b := b) orderly.tidy made
    have kind : n.kind = a.kind := kind.trans (Action.draft_kind drafted)
    constructor
    · intro m member
      refine relinked.widens.kept ?_
      rw [grown.toList]
      exact List.mem_append_left _ member
    · intro m member
      obtain ⟨k, inside, widened⟩ := relinked.widens.origin member
      rw [grown.toList, List.mem_append, List.mem_singleton] at inside
      rcases inside with old | rfl
      · exact .inl ⟨k, old, widened⟩
      · have asked : (complete d n).Asked asks := ⟨a, d, asked, drafted, kind, parameters⟩
        exact .inr ⟨asked.widened widened, widened.kind.trans kind,
          widened.serial.trans start.serial⟩

/-- A loop stays one where every node is kept. -/
theorem still_loop (kept : ∀ n ∈ w.graph.toList, ∃ m ∈ w'.graph.toList, Node.Widened n m)
    {serial : Nat} (loop : ∃ n ∈ w.graph.toList, n.serial = serial ∧ n.kind = .loop) :
    ∃ n ∈ w'.graph.toList, n.serial = serial ∧ n.kind = .loop := by
  obtain ⟨n, member, here, kind⟩ := loop
  obtain ⟨m, inside, widened⟩ := kept n member
  exact ⟨m, inside, widened.serial.trans here, widened.kind.trans kind⟩

/-- A set of branches changes no node. -/
theorem graph_appendBranching (b : Nat) (a : Action) (label id : Value) (w : Workspace) :
    (Builder.appendBranching b a label id w).2.graph = (Builder.append b a label id w).2.graph := by
  rw [Builder.appendBranching_apply]
  obtain ⟨result, w'⟩ := Builder.append b a label id w
  cases result <;> rfl

/-- A loop goes on for another round, and has a way out unless its body is still open. -/
def Rounds (loops : List OpenLoop) (n : Node) : Prop :=
  .equals Builder.continueLooping ∈ n.transitions.guards ∧
    (.equals Builder.doneLooping ∈ n.transitions.guards ∨ ∃ l ∈ loops, l.node.serial = n.serial)

theorem Rounds.widened {n m : Node} (rounds : Rounds loops n) (widened : Node.Widened n m)
    (more : loops ⊆ loops') : Rounds loops' m := by
  obtain ⟨again, out⟩ := rounds
  refine ⟨widened.guards again, ?_⟩
  rcases out with done | ⟨l, among, here⟩
  · exact .inl (widened.guards done)
  · exact .inr ⟨l, more among, here.trans widened.serial.symm⟩

/-- What holds of a flow while it is made. -/
structure Fit (asks : Action → Prop) (w : Workspace) (loops : List OpenLoop) : Prop where
  orderly : w.Orderly
  asked : ∀ n ∈ w.graph.toList, n.Asked asks
  open_loops : ∀ l ∈ loops, ∃ n ∈ w.graph.toList, n.serial = l.node.serial ∧ n.kind = .loop
  rounds : ∀ n ∈ w.graph.toList, n.kind = .loop → Rounds loops n

theorem Fit.widens (fit : Fit asks w loops) (orderly : w'.Orderly)
    (widens : w.graph.Widens w'.graph) : Fit asks w' loops where
  orderly := orderly
  asked := fun m member => by
    obtain ⟨n, inside, widened⟩ := widens.origin member
    exact (fit.asked n inside).widened widened
  open_loops := fun l among => still_loop (fun _ => widens.kept) (fit.open_loops l among)
  rounds := fun m member loop => by
    obtain ⟨n, inside, widened⟩ := widens.origin member
    exact (fit.rounds n inside (widened.kind.symm.trans loop)).widened widened (List.Subset.refl _)

theorem Fit.append (fit : Fit asks w loops) {a : Action} (asked : asks a) (other : a.kind ≠ .loop)
    (label id : Value) : Fit asks (Builder.append b a label id w).2 loops := by
  obtain ⟨kept, origin⟩ := append_origin (b := b) fit.orderly asked label id
  refine ⟨fit.orderly.append a label id, fun m member => ?_,
    fun l among => still_loop kept (fit.open_loops l among), fun m member loop => ?_⟩
  · rcases origin m member with ⟨n, inside, widened⟩ | ⟨new, _⟩
    · exact (fit.asked n inside).widened widened
    · exact new
  · rcases origin m member with ⟨n, inside, widened⟩ | ⟨_, kind⟩
    · exact (fit.rounds n inside (widened.kind.symm.trans loop)).widened widened
        (List.Subset.refl _)
    · exact absurd (kind.1.symm.trans loop) other

theorem Fit.appendBranching (fit : Fit asks w loops) {a : Action} (asked : asks a)
    (offers : a.offer ≠ .nothing) (label id : Value) :
    Fit asks (Builder.appendBranching b a label id w).2 loops := by
  have other : a.kind ≠ .loop := by
    rintro loop
    cases a with
    | loop times => exact offers rfl
    | _ => cases loop
  have appended := fit.append (b := b) asked other label id
  have orderly := fit.orderly.appendBranching b a label id
  exact appended.widens orderly (graph_appendBranching b a label id w ▸ .refl _)

/-! ### Loops -/

theorem append_serial (orderly : w.Orderly) {a : Action} {label id : Value} {node : Handle}
    (appended : Builder.append b a label id w = (.ok node, w')) : node.serial = w.graph.count := by
  obtain ⟨d, n, g, _, _, _, _, made, rfl, _⟩ := Builder.append_ok appended
  obtain ⟨start, _⟩ := Graph.newNode_ok orderly.tidy made
  exact start.serial

theorem widens_withBody (w : Workspace) (node : Handle) :
    w.graph.Widens (w.withBody node).graph := by
  have linked : w.graph.Relinked ((w.freshJoin []).2.resolve w.joins.size node.id).graph :=
    (relinked_link (w.freshJoin []).2 _).graph
  exact linked.widens.trans (widens_addCondition _ node.serial _)

theorem widens_withExit (w : Workspace) (b node : Nat) :
    w.graph.Widens (w.withExit b node).graph :=
  w.widens_addCondition node _

/-- The node that a condition is added to has it. -/
theorem guard_addCondition (w : Workspace) (node : Nat) (guard : Guard) {m : Node}
    (member : m ∈ (w.addCondition node guard).2.graph.toList) (here : m.serial = node) :
    guard ∈ m.transitions.guards := by
  rw [(w.changed_addCondition node guard).toList] at member
  obtain ⟨n, inside, rfl⟩ := List.mem_map.1 member
  by_cases same : n.serial = node
  · rw [if_pos same, Node.guards_plusCondition]
    exact List.mem_append_right _ (List.mem_singleton_self guard)
  · rw [if_neg same] at here
    exact absurd here same

theorem Fit.openLoop (fit : Fit asks w loops) {times label id : Value} (asked : asks (.loop times))
    {node : Handle} {o : OpenBranch}
    (opened : Builder.openLoop b times label id w = (.ok (node, o), w')) :
    Fit asks w' (⟨b, node, o, false⟩ :: loops) := by
  have orderly := fit.orderly.openLoop b times label id
  obtain ⟨w₁, appended, rfl, rfl⟩ := Builder.openLoop_ok opened
  rw [opened] at orderly
  have serial := append_serial fit.orderly appended
  obtain ⟨kept, origin⟩ := append_origin (b := b) fit.orderly asked label id
  obtain ⟨⟨k, inside, here, _, loop, _⟩, _⟩ := append_node fit.orderly appended
  rw [appended] at kept origin
  have widens := w₁.widens_withBody node
  have traced {m : Node} (member : m ∈ (w₁.withBody node).graph.toList) :
      (∃ n ∈ w.graph.toList, Node.Widened n m) ∨
        m.Asked asks ∧ .equals Builder.continueLooping ∈ m.transitions.guards ∧
          m.serial = node.serial := by
    obtain ⟨k, inside, widened⟩ := widens.origin member
    rcases origin k inside with ⟨n, old, before⟩ | ⟨new, _, last⟩
    · exact .inl ⟨n, old, before.trans widened⟩
    · have here : m.serial = node.serial := widened.serial.trans (last.trans serial.symm)
      exact .inr ⟨new.widened widened, guard_addCondition _ node.serial _ member here, here⟩
  refine ⟨orderly, fun m member => ?_, fun l among => ?_, fun m member loop => ?_⟩
  · rcases traced member with ⟨n, old, widened⟩ | ⟨new, _, _⟩
    · exact (fit.asked n old).widened widened
    · exact new
  · rcases List.mem_cons.1 among with rfl | before
    · exact still_loop (fun _ => widens.kept) ⟨k, inside, here, loop⟩
    · exact still_loop (fun _ => widens.kept) (still_loop kept (fit.open_loops l before))
  · rcases traced member with ⟨n, old, widened⟩ | ⟨_, again, here⟩
    · exact (fit.rounds n old (widened.kind.symm.trans loop)).widened widened
        (List.subset_cons_self _ _)
    · exact ⟨again, .inr ⟨_, List.mem_cons_self, here.symm⟩⟩

theorem Fit.closeLoop (fit : Fit asks w loops) {l : OpenLoop} (among : l ∈ loops)
    (closed : Builder.closeLoop l.builder l.node l.body w = (.ok (), w')) :
    Fit asks w' (loops.erase l) := by
  obtain ⟨k, inside, serial, kind⟩ := fit.open_loops l among
  have other : w.IsOther l.node.serial := fun n member here => by
    rw [Graph.eq_of_serial fit.orderly.tidy member inside (here.trans serial.symm), kind]
    exact ActionKind.noConfusion
  have orderly := fit.orderly.closeLoop l.builder l.body other
  rw [closed] at orderly
  obtain ⟨widens, out⟩ : w.graph.Widens w'.graph ∧ ∀ m ∈ w'.graph.toList,
      m.serial = l.node.serial → .equals Builder.doneLooping ∈ m.transitions.guards := by
    rcases Builder.closeLoop_ok closed with ⟨_, rfl⟩ | ⟨join, _, _, rfl⟩
    · exact ⟨w.widens_withExit l.builder l.node.serial,
        fun m member here => guard_addCondition _ l.node.serial _ member here⟩
    · exact ⟨(w.widens_continued l.body.builder join).trans (widens_withExit _ l.builder _),
        fun m member here => guard_addCondition _ l.node.serial _ member here⟩
  obtain ⟨_, asked, open_loops, rounds⟩ := fit.widens orderly widens
  refine ⟨orderly, asked, fun l' still => open_loops l' (List.mem_of_mem_erase still),
    fun m member loop => ?_⟩
  obtain ⟨again, done | ⟨l', still, here⟩⟩ := rounds m member loop
  · exact ⟨again, .inl done⟩
  · by_cases same : l' = l
    · subst same
      exact ⟨again, .inl (out m member here.symm)⟩
    · exact ⟨again, .inr ⟨l', (List.mem_erase_of_ne same).2 still, here⟩⟩

/-! ### Flows of any calls -/

/-- The flows that come of calls in which such actions are asked for, with the loops that are not
closed. The calls come in any order and on any builder: while the body of a loop is filled, the builder
that the loop was appended to may be called as well. -/
inductive Composed (asks : Action → Prop) : Workspace → List OpenLoop → Prop
  | start {flow : String} {w : Workspace} (started : Workspace.start flow = .ok w) :
      Composed asks w []
  | append {w : Workspace} {loops : List OpenLoop} (composed : Composed asks w loops) {b : Nat}
      (known : b < w.builders.size) {a : Action} (asked : asks a) (plain : a.offer = .nothing)
      (other : a.kind ≠ .loop) (label id : Value) :
      Composed asks (Builder.append b a label id w).2 loops
  | appendBranching {w : Workspace} {loops : List OpenLoop} (composed : Composed asks w loops)
      {b : Nat} (known : b < w.builders.size) {a : Action} (asked : asks a)
      (offers : a.offer ≠ .nothing) (label id : Value) :
      Composed asks (Builder.appendBranching b a label id w).2 loops
  | openBranch {w : Workspace} {loops : List OpenLoop} (composed : Composed asks w loops) {i : Nat}
      (known : i < w.sets.size) (branch : Branch) :
      Composed asks (Builder.openBranch i branch w).2 loops
  | openHandler {w : Workspace} {loops : List OpenLoop} (composed : Composed asks w loops) {b : Nat}
      (known : b < w.builders.size) (name : ErrorName) :
      Composed asks (Builder.openHandler b name w).2 loops
  | openLoop {w w' : Workspace} {loops : List OpenLoop} (composed : Composed asks w loops) {b : Nat}
      (known : b < w.builders.size) {times : Value} (asked : asks (.loop times))
      {label id : Value} {node : Handle} {o : OpenBranch}
      (opened : Builder.openLoop b times label id w = (.ok (node, o), w')) :
      Composed asks w' (⟨b, node, o, false⟩ :: loops)
  | closeLoop {w w' : Workspace} {loops : List OpenLoop} (composed : Composed asks w loops)
      {l : OpenLoop} (among : l ∈ loops)
      (closed : Builder.closeLoop l.builder l.node l.body w = (.ok (), w')) :
      Composed asks w' (loops.erase l)
  | giveUp {w : Workspace} {loops : List OpenLoop} (composed : Composed asks w loops)
      {l : OpenLoop} (among : l ∈ loops) :
      Composed asks w ({ l with givenUp := true } :: loops.erase l)
  | jumpTo {w : Workspace} {loops : List OpenLoop} (composed : Composed asks w loops) {b : Nat}
      (known : b < w.builders.size) (target : Value) :
      Composed asks (Builder.jumpTo b target w).2 loops
  | thenContinue {w : Workspace} {loops : List OpenLoop} (composed : Composed asks w loops) {b : Nat}
      (known : b < w.builders.size) : Composed asks (Builder.thenContinue b w).2 loops

/-- A session is a way to call: it only keeps off the builders around the bodies of loops. -/
theorem Session.composed (session : Session asks w loops) : Composed asks w loops := by
  induction session with
  | start started => exact .start started
  | append _ known _ asked plain other label id ih =>
    exact .append ih known asked plain other label id
  | appendBranching _ known _ asked offers label id ih =>
    exact .appendBranching ih known asked offers label id
  | openBranch _ known branch ih => exact .openBranch ih known branch
  | openHandler _ known _ name ih => exact .openHandler ih known name
  | openLoop _ known _ asked opened ih => exact .openLoop ih known asked opened
  | closeLoop _ among _ _ closed ih => exact .closeLoop ih among closed
  | giveUp _ among ih => exact .giveUp ih among
  | jumpTo _ known _ target ih => exact .jumpTo ih known target
  | thenContinue _ known _ ih => exact .thenContinue ih known

theorem Fit.giveUp (fit : Fit asks w loops) {l : OpenLoop} (among : l ∈ loops) :
    Fit asks w ({ l with givenUp := true } :: loops.erase l) where
  orderly := fit.orderly
  asked := fit.asked
  open_loops := fun l' still => by
    rcases List.mem_cons.1 still with rfl | before
    · exact fit.open_loops l among
    · exact fit.open_loops l' (List.mem_of_mem_erase before)
  rounds := fun n member loop => by
    obtain ⟨again, done | ⟨l', still, here⟩⟩ := fit.rounds n member loop
    · exact ⟨again, .inl done⟩
    · by_cases same : l' = l
      · subst same
        exact ⟨again, .inr ⟨_, List.mem_cons_self, here⟩⟩
      · exact ⟨again, .inr ⟨l', List.mem_cons_of_mem _ ((List.mem_erase_of_ne same).2 still),
          here⟩⟩

/-- Whatever is called, the flow fits. -/
theorem Composed.fit (composed : Composed asks w loops) : Fit asks w loops := by
  induction composed with
  | start started =>
    have orderly := Orderly.start started
    rw [start_eq started] at orderly ⊢
    exact ⟨orderly, by simp [Graph.toList], by simp, by simp [Graph.toList]⟩
  | append _ _ asked _ other label id ih => exact ih.append asked other label id
  | appendBranching _ _ asked offers label id ih => exact ih.appendBranching asked offers label id
  | openBranch _ known branch ih =>
    exact ih.widens (ih.orderly.openBranch known branch) (widens_openBranch _ _ branch)
  | openHandler _ _ name ih =>
    exact ih.widens (ih.orderly.openHandler _ name) (widens_openHandler _ _ name)
  | openLoop _ _ asked opened ih => exact ih.openLoop asked opened
  | closeLoop _ among closed ih => exact ih.closeLoop among closed
  | giveUp _ among ih => exact ih.giveUp among
  | jumpTo _ _ target ih =>
    exact ih.widens (ih.orderly.jumpTo _ target) (widens_jumpTo _ _ target)
  | thenContinue _ _ ih =>
    exact ih.widens (ih.orderly.thenContinue _) (widens_thenContinue _ _)

theorem Session.fit (session : Session asks w loops) : Fit asks w loops := session.composed.fit

end Workspace

end ContactFlow
