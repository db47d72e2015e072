import ContactFlow.Proofs.Asked

/-!
All the calls that there are. They come in any order, on any of the builders and the sets of branches,
whether they succeed or fail, and whatever the handlers of branches and the bodies of loops do with the
builders around them. Only what the types of the arguments rule out is left out: an input that is not
valid, and a branch for input that names neither digits nor an intent.

The graph lists its nodes in the order in which they were appended, and the identifiers in use are
theirs.
-/

namespace ContactFlow

namespace Action

def Sound : Action → Prop
  | .collectSequential spec => spec.Valid
  | _ => True

end Action

namespace Branch

def Given : Branch → Prop
  | .digits v | .intent v => BranchSet.isGiven v
  | _ => True

end Branch

namespace Workspace

/-- The flows that come of calls, with the loops whose bodies are not closed and the arguments of the
jumps. A loop that is refused leaves everything as it is; a body is closed once, unless its handler
fails. -/
inductive Calls : Workspace → List OpenLoop → List String → Prop
  | start {flow : String} {w : Workspace} (started : Workspace.start flow = .ok w) : Calls w [] []
  | append {w : Workspace} {loops : List OpenLoop} {jumps : List String} (calls : Calls w loops jumps)
      {b : Nat} (known : b < w.builders.size) {a : Action} (plain : a.offer = .nothing)
      (other : a.kind ≠ .loop) (label id : Value) :
      Calls (Builder.append b a label id w).2 loops jumps
  | appendBranching {w : Workspace} {loops : List OpenLoop} {jumps : List String}
      (calls : Calls w loops jumps) {b : Nat} (known : b < w.builders.size) {a : Action}
      (offers : a.offer ≠ .nothing) (sound : a.Sound) (label id : Value) :
      Calls (Builder.appendBranching b a label id w).2 loops jumps
  | openBranch {w : Workspace} {loops : List OpenLoop} {jumps : List String}
      (calls : Calls w loops jumps) {i : Nat} (known : i < w.sets.size) {c : Branch}
      (given : c.Given) : Calls (Builder.openBranch i c w).2 loops jumps
  | openHandler {w : Workspace} {loops : List OpenLoop} {jumps : List String}
      (calls : Calls w loops jumps) {b : Nat} (known : b < w.builders.size) (name : ErrorName) :
      Calls (Builder.openHandler b name w).2 loops jumps
  | openLoop {w w' : Workspace} {loops : List OpenLoop} {jumps : List String}
      (calls : Calls w loops jumps) {b : Nat} (known : b < w.builders.size) {times label id : Value}
      {node : Handle} {o : OpenBranch}
      (opened : Builder.openLoop b times label id w = (.ok (node, o), w')) :
      Calls w' (⟨b, node, o, false⟩ :: loops) jumps
  | closeLoop {w : Workspace} {loops : List OpenLoop} {jumps : List String}
      (calls : Calls w loops jumps) {l : OpenLoop} (among : l ∈ loops) :
      Calls (Builder.closeLoop l.builder l.node l.body w).2 (loops.erase l) jumps
  | jumpTo {w : Workspace} {loops : List OpenLoop} {jumps : List String}
      (calls : Calls w loops jumps) {b : Nat} (known : b < w.builders.size) (target : Value) :
      Calls (Builder.jumpTo b target w).2 loops (target.display :: jumps)
  | thenContinue {w : Workspace} {loops : List OpenLoop} {jumps : List String}
      (calls : Calls w loops jumps) {b : Nat} (known : b < w.builders.size) :
      Calls (Builder.thenContinue b w).2 loops jumps

theorem Calls.named {flow : String} (named : Text.blank flow = false) :
    Calls { flow, graph := { name := flow }, joins := #[{}], builders := #[{ cursor := 0 }] } [] [] :=
  .start (start_named named)

end Workspace

namespace Graph

/-- The nodes are listed in the order in which they were added, and only their identifiers are in
use. -/
structure InOrder (g : Graph) : Prop where
  used : g.allocator.used = g.keys
  entry : g.entry = g.keys.head?
  serials : g.toList.map (·.serial) = List.range g.count

variable {g g' : Graph}

theorem inOrder_empty (name : String) : InOrder { name } := ⟨rfl, rfl, rfl⟩

theorem InOrder.widens (ordered : g.InOrder) (widens : g.Widens g') : g'.InOrder := by
  obtain ⟨f, changed, widened⟩ := widens
  refine ⟨?_, ?_, ?_⟩
  · rw [changed.allocator, changed.keys, ordered.used]
  · rw [changed.entry, changed.keys, ordered.entry]
  · rw [changed.toList, changed.count, List.map_map, ← ordered.serials]
    exact List.map_congr_left fun n _ => (widened n).serial

theorem InOrder.grown (ordered : g.InOrder) {n : Node} (grown : g.Grown n g') : g'.InOrder := by
  refine ⟨?_, ?_, ?_⟩
  · rw [grown.used, grown.keys, ordered.used]
  · rw [grown.entry, grown.keys, ordered.entry]
    cases g.keys <;> rfl
  · rw [grown.toList, grown.count, List.map_append, ordered.serials, List.range_succ]
    simp [grown.serial]

end Graph

namespace Workspace

variable {w w' : Workspace} {loops : List OpenLoop} {jumps : List String} {b : Nat}

/-- The flow is in order, and the loops whose bodies are open are in it. -/
structure Tracked (w : Workspace) (loops : List OpenLoop) : Prop where
  orderly : w.Orderly
  inOrder : w.graph.InOrder
  loops : ∀ l ∈ loops, ∃ n ∈ w.graph.toList, n.serial = l.node.serial ∧ n.kind = .loop

theorem Tracked.widens (tracked : w.Tracked loops) (orderly : w'.Orderly)
    (widens : w.graph.Widens w'.graph) : w'.Tracked loops where
  orderly := orderly
  inOrder := tracked.inOrder.widens widens
  loops := fun l among => still_loop (fun _ => widens.kept) (tracked.loops l among)

theorem Tracked.isOther (tracked : w.Tracked loops) {l : OpenLoop} (among : l ∈ loops) :
    w.IsOther l.node.serial := by
  intro n member here
  obtain ⟨m, inside, serial, kind⟩ := tracked.loops l among
  rw [Graph.eq_of_serial tracked.orderly.tidy member inside (here.trans serial.symm), kind]
  exact ActionKind.noConfusion

/-- An action that is appended comes last. -/
theorem grown_append (orderly : w.Orderly) (b : Nat) (a : Action) (label id : Value) :
    w.graph.Widens (Builder.append b a label id w).2.graph ∨
      ∃ n g, w.graph.Grown n g ∧ g.Widens (Builder.append b a label id w).2.graph := by
  rcases Builder.append_apply b a label id w with ⟨e, failed⟩ | ⟨d, n, g, _, _, made, done⟩
  · rw [failed]
    exact .inl (.refl _)
  · rw [done]
    obtain ⟨⟨g', grown, relinked⟩, _⟩ := placeNew_spec (b := b) orderly.tidy made
    exact .inr ⟨complete d n, g', grown, relinked.widens⟩

theorem Tracked.append (tracked : w.Tracked loops) (a : Action) (label id : Value) :
    (Builder.append b a label id w).2.Tracked loops := by
  have orderly := tracked.orderly.append (b := b) a label id
  rcases grown_append tracked.orderly b a label id with widens | ⟨n, g, grown, widens⟩
  · exact tracked.widens orderly widens
  · refine ⟨orderly, (tracked.inOrder.grown grown).widens widens, fun l among => ?_⟩
    refine still_loop (fun m member => ?_) (tracked.loops l among)
    refine widens.kept ?_
    rw [grown.toList]
    exact List.mem_append_left _ member

theorem widens_closeLoop (w : Workspace) (b : Nat) (node : Handle) (o : OpenBranch) :
    w.graph.Widens (Builder.closeLoop b node o w).2.graph := by
  rcases Builder.closeLoop_apply b node o w with ⟨e, failed⟩ | ⟨_, done⟩ | ⟨join, _, _, done⟩
  · rw [failed]
    exact .refl _
  · rw [done]
    exact w.widens_withExit b node.serial
  · rw [done]
    exact (w.widens_continued o.builder join).trans (widens_withExit _ b node.serial)

theorem Tracked.openLoop (tracked : w.Tracked loops) {times label id : Value} {node : Handle}
    {o : OpenBranch} (opened : Builder.openLoop b times label id w = (.ok (node, o), w')) :
    w'.Tracked (⟨b, node, o, false⟩ :: loops) := by
  have orderly := tracked.orderly.openLoop b times label id
  obtain ⟨w₁, appended, rfl, rfl⟩ := Builder.openLoop_ok opened
  rw [opened] at orderly
  have placed := tracked.append (b := b) (.loop times) label id
  rw [appended] at placed
  obtain ⟨⟨n, member, serial, _, kind, _⟩, _⟩ := append_node tracked.orderly appended
  have widens := w₁.widens_withBody node
  obtain ⟨_, inOrder, kept⟩ := placed.widens orderly widens
  refine ⟨orderly, inOrder, fun l among => ?_⟩
  rcases List.mem_cons.1 among with rfl | before
  · exact still_loop (fun _ => widens.kept) ⟨n, member, serial, kind⟩
  · exact kept l before

theorem Tracked.appendBranching (tracked : w.Tracked loops) (a : Action) (label id : Value) :
    (Builder.appendBranching b a label id w).2.Tracked loops := by
  have appended := tracked.append (b := b) a label id
  refine appended.widens (tracked.orderly.appendBranching b a label id) ?_
  rw [graph_appendBranching]
  exact .refl _

theorem Tracked.openBranch (tracked : w.Tracked loops) {i : Nat} (known : i < w.sets.size)
    (branch : Branch) : (Builder.openBranch i branch w).2.Tracked loops :=
  tracked.widens (tracked.orderly.openBranch known branch) (widens_openBranch _ _ _)

theorem Tracked.openHandler (tracked : w.Tracked loops) (b : Nat) (name : ErrorName) :
    (Builder.openHandler b name w).2.Tracked loops :=
  tracked.widens (tracked.orderly.openHandler b name) (widens_openHandler _ _ name)

theorem Tracked.closeLoop (tracked : w.Tracked loops) {l : OpenLoop} (among : l ∈ loops) :
    (Builder.closeLoop l.builder l.node l.body w).2.Tracked (loops.erase l) := by
  have orderly := tracked.orderly.closeLoop l.builder l.body (tracked.isOther among)
  have closed := tracked.widens orderly (w.widens_closeLoop l.builder l.node l.body)
  exact ⟨closed.orderly, closed.inOrder, fun l still => closed.loops l (List.mem_of_mem_erase still)⟩

theorem Tracked.jumpTo (tracked : w.Tracked loops) (b : Nat) (target : Value) :
    (Builder.jumpTo b target w).2.Tracked loops :=
  tracked.widens (tracked.orderly.jumpTo b target) (widens_jumpTo _ _ target)

theorem Tracked.thenContinue (tracked : w.Tracked loops) (b : Nat) :
    (Builder.thenContinue b w).2.Tracked loops :=
  tracked.widens (tracked.orderly.thenContinue b) (widens_thenContinue _ _)

/-- Whatever is called, the flow stays in order. -/
theorem Calls.tracked (calls : Calls w loops jumps) : w.Tracked loops := by
  induction calls with
  | @start flow w started =>
    refine ⟨.start started, ?_, by simp⟩
    rw [start_eq started]
    exact Graph.inOrder_empty flow
  | append _ _ _ _ label id ih => exact ih.append _ label id
  | appendBranching _ _ _ _ label id ih => exact ih.appendBranching _ label id
  | openBranch _ known _ ih => exact ih.openBranch known _
  | openHandler _ _ name ih => exact ih.openHandler _ name
  | openLoop _ _ opened ih => exact ih.openLoop opened
  | closeLoop _ among ih => exact ih.closeLoop among
  | jumpTo _ _ target ih => exact ih.jumpTo _ target
  | thenContinue _ _ ih => exact ih.thenContinue _

end Workspace

end ContactFlow
