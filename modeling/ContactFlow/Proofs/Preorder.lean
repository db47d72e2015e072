import ContactFlow.Proofs.Laid
import ContactFlow.Proofs.Moves
import ContactFlow.Proofs.Outline
import ContactFlow.Proofs.Readings

/-!
Steps are appended in preorder. While steps are appended, their nodes are added one after another as
the outline of the steps lists them, and a node gets the edges of its step in the order of the
branches and the error handlers, no matter what is added in between.
-/

namespace ContactFlow

namespace Workspace

variable {w w' w'' : Workspace} {b s k : Nat} {builders sets builders' sets' : List Nat}
  {es es' : List Exit} {items items' : List Item}

/-- Other builders than those listed have appended what they had appended before, and other sets of
branches than those listed are as they were. -/
structure Minds (builders sets : List Nat) (w w' : Workspace) : Prop where
  numbered : w'.graph.Numbered
  builders_grow : w.builders.size ≤ w'.builders.size
  sets_grow : w.sets.size ≤ w'.sets.size
  last : ∀ i < w.builders.size, i ∉ builders → (w'.builder i).last = (w.builder i).last
  set : ∀ i < w.sets.size, i ∉ sets → w'.branches i = w.branches i

theorem Minds.refl (numbered : w.graph.Numbered) : Minds builders sets w w :=
  ⟨numbered, Nat.le_refl _, Nat.le_refl _, fun _ _ _ => rfl, fun _ _ _ => rfl⟩

/-- Builders and sets that are new in between do not count. -/
theorem Minds.trans (first : Minds builders sets w w') (second : Minds builders' sets' w' w'')
    (busy : ∀ i ∈ builders', i < w.builders.size → i ∈ builders)
    (open_ : ∀ i ∈ sets', i < w.sets.size → i ∈ sets) : Minds builders sets w w'' where
  numbered := second.numbered
  builders_grow := Nat.le_trans first.builders_grow second.builders_grow
  sets_grow := Nat.le_trans first.sets_grow second.sets_grow
  last := fun i known other =>
    (second.last i (Nat.lt_of_lt_of_le known first.builders_grow)
      fun among => other (busy i among known)).trans (first.last i known other)
  set := fun i known other =>
    (second.set i (Nat.lt_of_lt_of_le known first.sets_grow)
      fun among => other (open_ i among known)).trans (first.set i known other)

theorem minds_same (numbered : w'.graph.Numbered) (same : w'.builders = w.builders)
    (sets_same : w'.sets = w.sets) : Minds builders sets w w' where
  numbered := numbered
  builders_grow := Nat.le_of_eq (congrArg Array.size same.symm)
  sets_grow := Nat.le_of_eq (congrArg Array.size sets_same.symm)
  last := fun i _ _ => by rw [builder, builder, same]
  set := fun i _ _ => by rw [branches, branches, sets_same]

theorem minds_set (numbered : w'.graph.Numbered) {x : Builder}
    (set : w'.builders = w.builders.setIfInBounds b x) (sets_same : w'.sets = w.sets) :
    Minds [b] [] w w' where
  numbered := numbered
  builders_grow := by simp [set]
  sets_grow := Nat.le_of_eq (congrArg Array.size sets_same.symm)
  last := fun i _ other => by
    have apart : b ≠ i := fun here => other (List.mem_singleton.2 here.symm)
    rw [builder, builder, set]
    simp [apart]
  set := fun i _ _ => by rw [branches, branches, sets_same]

/-- A builder may change besides. -/
theorem minds_still (numbered : w'.graph.Numbered) {x : Builder}
    (set : w'.builders = w.builders.setIfInBounds b x) (last : x.last = (w.builder b).last)
    (sets_same : w'.sets = w.sets) : Minds [] [] w w' where
  numbered := numbered
  builders_grow := by simp [set]
  sets_grow := Nat.le_of_eq (congrArg Array.size sets_same.symm)
  last := fun i known _ => by
    rw [builder, set]
    by_cases here : b = i
    · subst here
      simp [known, last]
    · simp [here, builder]
  set := fun i _ _ => by rw [branches, branches, sets_same]

theorem minds_push (numbered : w'.graph.Numbered) {x : Builder}
    (push : w'.builders = w.builders.push x) (sets_same : w'.sets = w.sets) :
    Minds [] [] w w' where
  numbered := numbered
  builders_grow := by simp [push]
  sets_grow := Nat.le_of_eq (congrArg Array.size sets_same.symm)
  last := fun i known _ => by
    rw [builder_push push, if_neg (Nat.ne_of_lt known)]
  set := fun i _ _ => by rw [branches, branches, sets_same]

theorem minds_setBranches (numbered : w.graph.Numbered) (s : Nat) (x : BranchSet) :
    Minds [] [s] w (w.setBranches s x) where
  numbered := numbered
  builders_grow := Nat.le_refl _
  sets_grow := by simp [setBranches]
  last := fun _ _ _ => rfl
  set := fun i _ other => by
    have apart : s ≠ i := fun here => other (List.mem_singleton.2 here.symm)
    simp [branches, setBranches, apart]

theorem minds_pushSet (numbered : w.graph.Numbered) (x : BranchSet) :
    Minds [] [] w { w with sets := w.sets.push x } where
  numbered := numbered
  builders_grow := Nat.le_refl _
  sets_grow := by simp
  last := fun _ _ _ => rfl
  set := fun i known _ => by
    simp [branches, Array.getElem?_push, Nat.ne_of_lt known]

/-! ### Nodes that are listed -/

/-- The node numbered so has got the edges listed, and the nodes that the items ask for were added. -/
structure Enlists (builders sets : List Nat) (k : Nat) (es : List Exit) (items : List Item)
    (w w' : Workspace) : Prop extends Minds builders sets w w' where
  faces : ∃ more, w'.graph.faces = w.graph.faces.modify k (·.plus es) ++ more ∧
    List.Forall₂ Face.Shows more items

theorem Enlists.refl (numbered : w.graph.Numbered) : Enlists builders sets k [] [] w w :=
  ⟨.refl numbered, [], by rw [Face.modify_nil, List.append_nil], .nil⟩

theorem Minds.enlists (minds : Minds builders sets w w') (same : w'.graph.faces = w.graph.faces) :
    Enlists builders sets k [] [] w w' :=
  ⟨minds, [], by rw [Face.modify_nil, List.append_nil, same], .nil⟩

theorem Minds.gains (minds : Minds builders sets w w') {exit : Exit}
    (faces : w'.graph.faces = w.graph.faces.modify k (·.plus [exit])) :
    Enlists builders sets k [exit] [] w w' :=
  ⟨minds, [], by rw [faces, List.append_nil], .nil⟩

theorem Enlists.grows (enlists : Enlists builders sets k es items w w') :
    w.graph.faces.length ≤ w'.graph.faces.length := by
  obtain ⟨more, faces, _⟩ := enlists.faces
  simp [faces]

theorem Enlists.trans (first : Enlists builders sets k es items w w')
    (second : Enlists builders' sets' k es' items' w' w'')
    (busy : ∀ i ∈ builders', i < w.builders.size → i ∈ builders)
    (open_ : ∀ i ∈ sets', i < w.sets.size → i ∈ sets)
    (known : es' = [] ∨ k < w.graph.faces.length) :
    Enlists builders sets k (es ++ es') (items ++ items') w w'' := by
  obtain ⟨more, faces, shown⟩ := first.faces
  obtain ⟨more', faces', shown'⟩ := second.faces
  refine ⟨first.toMinds.trans second.toMinds busy open_, more ++ more', ?_, List.rel_append shown shown'⟩
  rw [faces', faces, ← List.append_assoc]
  rcases known with rfl | known
  · rw [Face.modify_nil, List.append_nil]
  · rw [Face.modify_append known]

/-- What is appended to a builder that is new lists only its own nodes. -/
theorem Enlists.filled (first : Enlists builders sets k es items w w')
    (second : Enlists [w.builders.size] [] k [] items' w' w'') :
    Enlists builders sets k es (items ++ items') w w'' := by
  have busy : ∀ i ∈ [w.builders.size], i < w.builders.size → i ∈ builders := by
    intro i among below
    rw [List.mem_singleton.1 among] at below
    exact absurd below (Nat.lt_irrefl _)
  have all := first.trans second busy (by simp) (.inl rfl)
  rwa [List.append_nil] at all

/-! ### What the builder's operations list -/

/-- A node without edges was added for an action. -/
structure Enters (b : Nat) (kind : ActionKind) (given : Option String) (node : Handle)
    (w w' : Workspace) : Prop extends Minds [b] [] w w' where
  faces : ∃ id, (∀ own, given = some own → id = own) ∧
    w'.graph.faces = w.graph.faces ++ [⟨id, kind, [], []⟩]
  serial : node.serial = w.graph.faces.length
  latest : (w'.builder b).last = some node

theorem builders_placeNew (known : b < w.builders.size) (d : Draft) (n : Node) (g : Graph) :
    ∃ x : Builder, x.last = some n.handle ∧
      (w.placeNew b d n g).builders = w.builders.setIfInBounds b x := by
  let v := w.withNode (g.modifyNode n.serial (complete d)) n.id
  have here : b < v.builders.size := known
  have placed := congrArg Workspace.builders (place_eq here n.handle d.kind)
  rw [builders_leave] at placed
  exact ⟨_, rfl, placed⟩

theorem enters_append (numbered : w.graph.Numbered) (known : b < w.builders.size) {a : Action}
    {frame : Frame} {node : Handle}
    (appended : Builder.append b a (.orNull frame.label) (.orNull frame.id) w = (.ok node, w')) :
    Enters b a.kind frame.id node w w' := by
  obtain ⟨d, n, g, _, drafted, _, _, made, rfl, rfl⟩ := Builder.append_ok appended
  obtain ⟨grown₀, kind, _, bare⟩ := Graph.newNode_ok numbered.tidy made
  obtain ⟨⟨g', grown, relinked⟩, _, sets_same⟩ := placeNew_spec (b := b) numbered.tidy made
  obtain ⟨numbered₁, faces₁⟩ := numbered.grown grown
  obtain ⟨numbered₂, faces₂⟩ := numbered₁.relinked relinked
  obtain ⟨x, last, builders_set⟩ := builders_placeNew known d n g
  refine
    { toMinds := minds_set numbered₂ builders_set sets_same
      faces := ⟨n.id, ?_, ?_⟩
      serial := ?_
      latest := ?_ }
  · intro own given
    have named := Graph.newNode_name made
    simp only [Frame.name, given] at named
    exact (congrArg Prod.fst named).symm
  · have asked : n.kind = a.kind := kind.trans (Action.draft_kind drafted)
    rw [faces₂, faces₁]
    simp [Node.face, complete, bare, asked, Transitions.guards, Transitions.kinds]
  · rw [numbered.length]
    exact grown₀.serial
  · rw [builder, builders_set]
    simp [known, last]

theorem Enters.inside {kind : ActionKind} {given : Option String} {node : Handle}
    (enters : Enters b kind given node w w') : node.serial < w'.graph.faces.length := by
  obtain ⟨id, _, faces⟩ := enters.faces
  simp [faces, enters.serial]

/-- A node that gets all its edges is the one that was asked for. -/
theorem Enters.enlists {i : Item} {node : Handle} (enters : Enters b i.kind i.id node w w')
    (rest : Enlists builders sets node.serial i.exits items w' w'')
    (busy : ∀ i ∈ builders, i < w.builders.size → i ∈ [b])
    (open_ : ∀ i ∈ sets, i < w.sets.size → i ∈ []) :
    Enlists [b] [] k [] (i :: items) w w'' := by
  obtain ⟨id, named, faces⟩ := enters.faces
  obtain ⟨more, faces', shown⟩ := rest.faces
  let f : Face := ⟨id, i.kind, [], []⟩
  have shows : (f.plus i.exits).Shows i := ⟨named, rfl, List.nil_append _, List.nil_append _⟩
  refine ⟨enters.toMinds.trans rest.toMinds busy open_, f.plus i.exits :: more, ?_,
    .cons shows shown⟩
  rw [faces', faces, enters.serial, Face.modify_last, Face.modify_nil, List.append_assoc]
  rfl

theorem enlists_withCondition (numbered : w.graph.Numbered) (node : Nat) (guard : Guard)
    (join : Nat) :
    Enlists [] [] node [.condition guard] [] w (w.withCondition node guard join) := by
  obtain ⟨after, faces⟩ := numbered.plus (changed_addCondition w node guard) (fun _ => rfl)
    (Node.face_plusCondition guard)
  have minds : Minds [] [] w (w.withCondition node guard join) := minds_push after rfl rfl
  exact minds.gains faces

theorem enlists_withError (numbered : w.graph.Numbered) (node : Nat) (kind : ErrorKind)
    (join : Option Nat) :
    Enlists [] [] node [.error kind] [] w (w.withError node kind join) := by
  obtain ⟨after, faces⟩ := numbered.plus (changed_addError w node kind) (fun _ => rfl)
    (Node.face_plusError kind)
  have minds : Minds [] [] w (w.withError node kind join) := minds_push after rfl rfl
  exact minds.gains faces

theorem enlists_withBody (numbered : w.graph.Numbered) {node : Handle}
    (known : node.serial < w.graph.faces.length) :
    Enlists [] [] node.serial [.condition (.equals Builder.continueLooping)] [] w
      (w.withBody node) := by
  have linked := (w.freshJoin []).2.relinked_link
    ((w.freshJoin []).2.joins.resolve w.joins.size node.id)
  obtain ⟨back, same⟩ := numbered.relinked linked.graph
  have minds : Minds [] [] w (w.withBack node.id) :=
    minds_same back linked.builders linked.sets
  have opened := enlists_withCondition back node.serial (.equals Builder.continueLooping) w.joins.size
  exact (minds.enlists same).trans opened (by simp) (by simp) (.inr known)

theorem enlists_withExit (numbered : w.graph.Numbered) (b node : Nat) :
    Enlists [] [] node [.condition (.equals Builder.doneLooping)] [] w (w.withExit b node) := by
  obtain ⟨after, faces⟩ := numbered.plus
    (changed_addCondition w node (.equals Builder.doneLooping)) (fun _ => rfl)
    (Node.face_plusCondition _)
  have minds : Minds [] [] w (w.withExit b node) := minds_still (b := b) after rfl rfl rfl
  exact minds.gains faces

theorem enlists_continued (numbered : w.graph.Numbered) (b join : Nat) :
    Enlists [] [] k [] [] w (w.continued b join) := by
  have linked := w.relinked_link (w.joins.forward (w.builder b).cursor join)
  obtain ⟨after, faces⟩ := numbered.relinked linked.graph
  have set : (w.continued b join).builders =
      w.builders.setIfInBounds b { w.builder b with status := .closed .continued } :=
    congrArg (Array.setIfInBounds · b _) linked.builders
  have minds : Minds [] [] w (w.continued b join) := minds_still after set rfl linked.sets
  exact minds.enlists faces

theorem enlists_jumped (numbered : w.graph.Numbered) (known : b < w.builders.size)
    (target : String) : Enlists [] [] k [] [] w (w.jumped b target) := by
  have linked := w.relinked_link (w.joins.resolve (w.builder b).cursor target)
  obtain ⟨after, faces⟩ := numbered.relinked linked.graph
  have set := congrArg Workspace.builders (jumped_eq known target)
  rw [builders_leave] at set
  have minds : Minds [] [] w (w.jumped b target) := minds_still after set rfl linked.sets
  exact minds.enlists faces

end Workspace

/-- The share that a node has given out. Only splits give out shares. -/
def Offer.share : Offer → Scalar
  | .percent allocated => allocated
  | _ => .int 0

/-- Nothing is given out before a branch is opened. -/
theorem Action.share_offer (a : Action) : a.offer.share = .int 0 := by cases a <;> rfl

def Opening.exit : Opening → Exit
  | .condition guard _ => .condition guard
  | .error kind => .error kind

namespace BranchSet

variable {s : BranchSet}

/-- A branch that is opened adds its edge. -/
def Adds (s : BranchSet) (which : Branch) (r : Opening × BranchSet) : Prop :=
  r.1.exit = which.exit (which.share s.offer.share) ∧ r.2.node = s.node ∧
    r.2.offer.share = which.share s.offer.share

theorem entry_of_entered {v : Value} {s : Option Scalar} (given : entered v = .ok s) :
    Branch.entry v = s := by
  obtain ⟨key, found, rfl⟩ := Results.map_eq_ok.1 given
  cases v with
  | scalar _ =>
    cases Results.ok_of_mapError found
    cases key <;> rfl
  | _ => cases found

theorem Catches.exit {offer : Offer} {b : Branch} {kind : ErrorKind} (catches : Catches offer b kind)
    (share : Scalar) : b.exit share = .error kind ∧ b.share share = share := by
  cases catches <;> exact ⟨rfl, rfl⟩

theorem Fixes.exit {offer : Offer} {b : Branch} {operator : String} {operands key : List Scalar}
    (fixes : Fixes offer b operator operands key) (share : Scalar) :
    b.exit share = .condition (.compare operator operands) ∧ b.share share = share := by
  cases fixes <;> exact ⟨rfl, rfl⟩

theorem adds_opening (s : BranchSet) (which : Branch) : Yields (s.Adds which) (s.opening which) := by
  intro r made
  cases opened_of_opening s which r made with
  | error catches =>
    obtain ⟨exit, share⟩ := catches.exit s.offer.share
    exact ⟨by rw [share, exit]; rfl, rfl, share.symm⟩
  | fixed fixes =>
    obtain ⟨exit, share⟩ := fixes.exit s.offer.share
    exact ⟨by rw [share, exit]; rfl, rfl, share.symm⟩
  | digits _ _ read =>
    refine ⟨?_, rfl, rfl⟩
    rw [Branch.exit, entry_of_entered read]
    rfl
  | intent _ _ read =>
    refine ⟨?_, rfl, rfl⟩
    rw [Branch.exit, entry_of_entered read]
    rfl
  | input _ _ _ _ read read' =>
    refine ⟨?_, rfl, rfl⟩
    rw [Branch.exit, entry_of_entered read, entry_of_entered read']
    rfl
  | compare _ named written =>
    refine ⟨?_, rfl, rfl⟩
    rw [Branch.exit, named, Value.eq_of_written written]
    rfl
  | @bucket allocated percent sum offered granted =>
    have share : (Branch.bucket (.scalar percent)).share s.offer.share = sum := by
      rw [offered]
      simp [Branch.share, Offer.share, plus_of_withBucket granted]
    exact ⟨by rw [share]; rfl, rfl, share.symm⟩

end BranchSet

namespace Workspace

variable {w w' w'' : Workspace} {b s k : Nat} {builders sets : List Nat} {items : List Item}

theorem enlists_openError (numbered : w.graph.Numbered) {node : Handle} {join : Option Nat}
    {kind : ErrorKind} {o : OpenBranch}
    (opened : Builder.openError node join kind w = (.ok o, w')) :
    Enlists [] [] node.serial [.error kind] [] w w' ∧ w'.sets = w.sets := by
  rcases Builder.openError_apply node join kind w with ⟨e, failed⟩ | ⟨_, done⟩
  · rw [failed] at opened
    cases opened
  · rw [done] at opened
    cases opened
    exact ⟨enlists_withError numbered node.serial kind join, rfl⟩

theorem enlists_openCondition (numbered : w.graph.Numbered) (known : s < w.sets.size)
    (inside : (w.branches s).node.serial < w.graph.faces.length) {guard : Guard} {key : List Scalar}
    {o : OpenBranch} (opened : Builder.openCondition s guard key w = (.ok o, w')) :
    Enlists [] [s] (w.branches s).node.serial [.condition guard] [] w w' ∧
      w'.branches s = (w.branches s).take [key] := by
  rcases Builder.openCondition_apply s guard key w with ⟨e, failed⟩ | ⟨_, done⟩
  · rw [failed] at opened
    cases opened
  · rw [done] at opened
    cases opened
    have taken := minds_setBranches numbered s ((w.branches s).take [key])
    have added := enlists_withCondition taken.numbered (w.branches s).node.serial guard
      (w.branches s).join
    exact ⟨(taken.enlists rfl).trans added (by simp) (by simp) (.inr inside),
      branches_setBranches known _⟩

/-- A branch is opened with an edge of its own, and its set goes on with what is given out then. -/
theorem enlists_openBranch (numbered : w.graph.Numbered) (known : s < w.sets.size)
    (inside : (w.branches s).node.serial < w.graph.faces.length) {which : Branch}
    {o : OpenBranch} (opened : Builder.openBranch s which w = (.ok o, w')) :
    let share := which.share (w.branches s).offer.share
    Enlists [] [s] (w.branches s).node.serial [which.exit share] [] w w' ∧
      (w'.branches s).node = (w.branches s).node ∧ (w'.branches s).offer.share = share := by
  intro share
  rcases Builder.openBranch_apply s which w with ⟨e, failed⟩ | ⟨opening, set, offered, done⟩
  · rw [failed] at opened
    cases opened
  obtain ⟨exit, node, given⟩ := BranchSet.adds_opening _ _ _ offered
  have taken := minds_setBranches numbered s set
  have here := branches_setBranches known set
  have known' : s < (w.setBranches s set).sets.size := Nat.lt_of_lt_of_le known taken.sets_grow
  rw [done] at opened
  rw [← show opening.exit = which.exit share from exit, ← node]
  rw [← node] at inside
  cases opening with
  | condition guard key =>
    have inside' : ((w.setBranches s set).branches s).node.serial < w.graph.faces.length := by
      rwa [here]
    obtain ⟨added, after⟩ := enlists_openCondition taken.numbered known' inside' opened
    rw [here] at added after
    rw [after]
    exact ⟨(taken.enlists rfl).trans added (by simp) (by simp) (.inr inside), rfl, given⟩
  | error kind =>
    obtain ⟨added, same⟩ := enlists_openError taken.numbered opened
    have after : w'.branches s = set := by
      rw [branches, same]
      exact here
    rw [after]
    exact ⟨(taken.enlists rfl).trans added (by simp) (by simp) (.inr inside), rfl, given⟩

theorem enlists_openHandler (numbered : w.graph.Numbered) {node : Handle}
    (last : (w.builder b).last = some node) {kind : ErrorKind} {o : OpenBranch}
    (opened : Builder.openHandler b (.kind kind) w = (.ok o, w')) :
    Enlists [] [] node.serial [.error kind] [] w w' := by
  rcases Builder.openHandler_apply b (.kind kind) w with
    ⟨e, failed⟩ | ⟨node', kind', last', resolved, done⟩
  · rw [failed] at opened
    cases opened
  · rw [last] at last'
    cases last'
    cases resolved
    rw [done] at opened
    exact (enlists_openError numbered opened).1

/-- A set is opened for the branches of an action that was appended. -/
theorem enters_appendBranching (numbered : w.graph.Numbered) (known : b < w.builders.size)
    {a : Action} {frame : Frame}
    (appended : Builder.appendBranching b a (.orNull frame.label) (.orNull frame.id) w =
      (.ok s, w')) :
    Enters b a.kind frame.id (w'.branches s).node w w' ∧ w.sets.size ≤ s ∧ s < w'.sets.size ∧
      (w'.branches s).offer = a.offer := by
  obtain ⟨node, v, placed, rfl, rfl⟩ := Builder.appendBranching_ok appended
  have enters := enters_append numbered known placed
  let x : BranchSet := { builder := b, node, join := (v.builder b).cursor, offer := a.offer }
  have pushed := minds_pushSet enters.numbered x
  have here : branches { v with sets := v.sets.push x } v.sets.size = x := by simp [branches]
  refine ⟨?_, enters.sets_grow, by simp, ?_⟩
  · rw [here]
    exact ⟨enters.toMinds.trans pushed (by simp) (by simp), enters.faces, enters.serial,
      enters.latest⟩
  · rw [here]

end Workspace

/-! ### Appending steps -/

namespace Step

open Workspace

variable {h : Handlers} {w w' : Workspace} {b s k : Nat} {head : Head} {frame : Frame}
  {branches : List (Branch × List Step)} {errors : List (String × List Step)}

/-- The builder that the steps are appended to has no nodes changed. -/
def EnlistsSteps (h : Handlers) (steps : List Step) : Prop :=
  ∀ {w w' : Workspace} {b : Nat}, w.graph.Numbered → b < w.builders.size →
    appendAll h b steps w = (.ok (), w') → ∀ k, Enlists [b] [] k [] (outline steps) w w'

def EnlistsBranches (h : Handlers) (branches : List (Branch × List Step)) : Prop :=
  ∀ {w w' : Workspace} {s : Nat}, w.graph.Numbered → s < w.sets.size →
    (w.branches s).node.serial < w.graph.faces.length →
    placeBranches h s branches w = (.ok (), w') →
    Enlists [] [s] (w.branches s).node.serial
      (Branch.exits (w.branches s).offer.share (branches.map (·.1))) (branchItems branches) w w'

def EnlistsErrors (h : Handlers) (errors : List (String × List Step)) : Prop :=
  ∀ {w w' : Workspace} {b : Nat} {node : Handle}, w.graph.Numbered → b < w.builders.size →
    (w.builder b).last = some node → node.serial < w.graph.faces.length →
    placeErrors h b errors w = (.ok (), w') →
    Enlists [] [] node.serial (Item.errorExits (errors.map (·.1))) (errorItems errors) w w'

/-- The steps of a branch are appended to a builder that is new. -/
theorem enlists_fill {opened : BuildM UsageError OpenBranch} {steps : List Step}
    (opens : Builder.Opens opened w) (inside : EnlistsSteps h steps)
    (ran : Builder.fill DefinitionError.usage opened (fun inner => appendAll h inner steps) w =
      (.ok (), w')) :
    ∃ o w₁, opened w = (.ok o, w₁) ∧ (w₁.graph.Numbered →
      ∀ k, Enlists [w.builders.size] [] k [] (outline steps) w₁ w') := by
  obtain ⟨o, w₁, first, filled⟩ := fill_ok ran
  obtain ⟨_, new⟩ := opens
  rw [first] at new
  obtain ⟨fresh, known⟩ := new o rfl
  refine ⟨o, w₁, first, fun numbered k => ?_⟩
  rw [← fresh]
  exact inside numbered known filled k

theorem enlistsBranches_cons {which : Branch} {steps : List Step} (inside : EnlistsSteps h steps)
    (after : EnlistsBranches h branches) : EnlistsBranches h ((which, steps) :: branches) := by
  intro w w' s numbered known own ran
  obtain ⟨w₂, filled, ran⟩ := placeBranches_cons ran
  obtain ⟨o, w₁, opened, filled⟩ := enlists_fill (Builder.opens_openBranch s which w) inside filled
  obtain ⟨added, node, share⟩ := enlists_openBranch numbered known own opened
  have body := filled added.numbered (w.branches s).node.serial
  have first := added.filled body
  -- what is appended to the branch leaves the set as it is
  have same : w₂.branches s = w₁.branches s :=
    body.set s (Nat.lt_of_lt_of_le known added.sets_grow) (by simp)
  have own' : (w₂.branches s).node.serial < w₂.graph.faces.length := by
    rw [same, node]
    exact Nat.lt_of_lt_of_le own first.grows
  have later := after body.numbered (Nat.lt_of_lt_of_le known first.sets_grow) own' ran
  rw [same, node, share] at later
  exact first.trans later (by simp) (fun _ among _ => among) (.inr own)

theorem named_of_errorKind {name : String} {kind : ErrorKind} (resolved : errorKind name = .ok kind) :
    ErrorKind.ofName? name = some kind := by
  unfold errorKind at resolved
  split at resolved
  · rename_i here
    rw [here, Except.ok.inj resolved]
  · cases resolved

theorem enlistsErrors_cons {name : String} {steps : List Step} (inside : EnlistsSteps h steps)
    (after : EnlistsErrors h errors) : EnlistsErrors h ((name, steps) :: errors) := by
  intro w w' b node numbered known last own ran
  obtain ⟨kind, w₂, resolved, filled, others⟩ := placeErrors_cons ran
  obtain ⟨o, v, opened, filled⟩ :=
    enlists_fill (Builder.opens_openHandler b (.kind kind) w) inside filled
  have added := enlists_openHandler numbered last opened
  have body := filled added.numbered node.serial
  have first := added.filled body
  have last' : (w₂.builder b).last = some node := (first.last b known (by simp)).trans last
  have later := after body.numbered (Nat.lt_of_lt_of_le known first.builders_grow) last'
    (Nat.lt_of_lt_of_le own first.grows) others
  have exits : Item.errorExits (((name, steps) :: errors).map (·.1)) =
      .error kind :: Item.errorExits (errors.map (·.1)) := by
    simp [Item.errorExits, named_of_errorKind resolved]
  rw [exits]
  exact first.trans later (by simp) (by simp) (.inr own)

/-- The flow goes on at the second edge of a loop, whether its body was left otherwise or is led back.
-/
theorem enlists_closeLoop {node : Handle} {o : OpenBranch} (numbered : w.graph.Numbered)
    (known : node.serial < w.graph.faces.length)
    (closed : Builder.closeLoop b node o w = (.ok (), w')) :
    Enlists [] [] node.serial [.condition (.equals Builder.doneLooping)] [] w w' := by
  rcases Builder.closeLoop_ok closed with ⟨_, rfl⟩ | ⟨join, _, _, rfl⟩
  · exact enlists_withExit numbered b node.serial
  · have back := enlists_continued (k := node.serial) numbered o.builder join
    exact back.trans (enlists_withExit back.numbered b node.serial) (by simp) (by simp) (.inr known)

/-- The body of a loop comes between its two edges. -/
theorem enlists_loop {times : Value} {body : List Step} (inside : EnlistsSteps h body)
    (numbered : w.graph.Numbered) (known : b < w.builders.size)
    (ran : Builder.loop DefinitionError.usage b times (.orNull frame.label) (.orNull frame.id)
      (fun inner => appendAll h inner body) w = (.ok (), w')) :
    ∃ node v, Enters b .loop frame.id node w v ∧
      Enlists [] [] node.serial [.condition (.equals Builder.continueLooping),
        .condition (.equals Builder.doneLooping)] (outline body) v w' := by
  obtain ⟨node, _, _, w₂, opened, filled, closed⟩ := loop_ok ran
  obtain ⟨v, appended, rfl, rfl⟩ := Builder.openLoop_ok opened
  have enters := enters_append numbered known appended
  have own := enters.inside
  have start := enlists_withBody enters.numbered own
  have new : v.builders.size < (v.withBody node).builders.size := by
    rw [size_withBody]
    exact Nat.lt_succ_self _
  have body := inside start.numbered new filled node.serial
  have filling := start.filled body
  have leaving := enlists_closeLoop body.numbered (Nat.lt_of_lt_of_le own filling.grows) closed
  have all := filling.trans leaving (by simp) (by simp) (.inr own)
  simp only [List.nil_append, List.append_nil] at all
  exact ⟨node, v, enters, all⟩

theorem kind_of_resolve {a : Action} (resolved : head.resolve = .ok a) : a.kind = head.kind := by
  cases head with
  | action asked =>
    dsimp only [Head.resolve] at resolved
    split at resolved
    · cases resolved
    · cases resolved
      cases asked <;> rfl
  | staged =>
    dsimp only [Head.resolve] at resolved
    split at resolved
    · cases resolved
      rfl
    · cases resolved

/-- A node is followed by the nodes of its branches, whose sets are new. -/
theorem enlists_action (suits : head.Suits branches) (inside : EnlistsBranches h branches)
    (bodies : ∀ e ∈ branches.head?, EnlistsSteps h e.2)
    (numbered : w.graph.Numbered) (known : b < w.builders.size)
    (placed : place h b (.action head frame branches errors) w = (.ok (), w')) :
    ∃ node v sets, Enters b head.kind frame.id node w v ∧ (∀ i ∈ sets, w.sets.size ≤ i) ∧
      Enlists [] sets node.serial (Item.branchExits head.kind (branches.map (·.1)))
        (branchItems branches) v w' := by
  obtain ⟨a, resolved, does⟩ := does_of_place placed
  obtain ⟨_, allows⟩ := suits a resolved
  have kind := kind_of_resolve resolved
  rw [Item.branchExits, ← kind]
  cases does with
  | @plain _ node offers other appended =>
    have none := Action.none_of_allows allows other offers
    subst none
    have done : Item.doneExits a.kind = [] := by
      cases a with
      | loop => exact absurd rfl other
      | _ => rfl
    have enters := enters_append numbered known appended
    rw [done]
    exact ⟨node, w', [], enters, nofun, .refl enters.numbered⟩
  | @branching _ s v offers appended filled =>
    have done : Item.doneExits a.kind = [] := by
      cases a with
      | loop => exact absurd rfl offers
      | _ => rfl
    obtain ⟨enters, new, there, offer⟩ := enters_appendBranching numbered known appended
    have listed := inside enters.numbered there enters.inside filled
    rw [offer, a.share_offer] at listed
    rw [done, List.append_nil]
    exact ⟨_, v, [s], enters, by simpa using new, listed⟩
  | @loop times looped =>
    obtain ⟨body, rfl⟩ := allows
    rw [placeLoop] at looped
    obtain ⟨node, v, enters, listed⟩ :=
      enlists_loop (bodies (.body, body) rfl) numbered known looped
    refine ⟨node, v, [], enters, nofun, ?_⟩
    rw [branchItems, branchItems, List.append_nil]
    exact listed

/-- A step is listed with all that is nested in it. -/
theorem enlists_place (suits : head.Suits branches) (inside : EnlistsBranches h branches)
    (bodies : ∀ e ∈ branches.head?, EnlistsSteps h e.2) (handlers : EnlistsErrors h errors)
    (numbered : w.graph.Numbered) (known : b < w.builders.size) {w₁ : Workspace}
    (placed : place h b (.action head frame branches errors) w = (.ok (), w₁))
    (handled : placeHandlers h b (.action head frame branches errors) w₁ = (.ok (), w')) :
    Enlists [b] [] k [] (items (.action head frame branches errors)) w w' := by
  obtain ⟨node, v, sets, enters, new, listed⟩ :=
    enlists_action suits inside bodies numbered known placed
  have known' : b < v.builders.size := Nat.lt_of_lt_of_le known enters.builders_grow
  have last := (listed.last b known' (by simp)).trans enters.latest
  rw [placeHandlers] at handled
  have later := handlers listed.numbered (Nat.lt_of_lt_of_le known' listed.builders_grow) last
    (Nat.lt_of_lt_of_le enters.inside listed.grows) handled
  have both := listed.trans later (by simp) (by simp) (.inr enters.inside)
  exact enters.enlists both (by simp) fun i among below =>
    absurd below (Nat.not_lt.2 (new i among))

theorem enlists_resume (numbered : w.graph.Numbered)
    (resumed : Builder.thenContinue b w = (.ok (), w')) : Enlists [b] [] k [] [] w w' := by
  rcases Builder.thenContinue_apply b w with ⟨e, failed⟩ | ⟨join, _, _, done⟩
  · rw [failed] at resumed
    cases resumed
  · rw [done] at resumed
    cases resumed
    exact (Enlists.refl numbered).trans (enlists_continued numbered b join) (by simp) (by simp)
      (.inl rfl)

theorem enlists_jump (numbered : w.graph.Numbered) (known : b < w.builders.size) {target : String}
    (jumped : Builder.jumpTo b (.text target) w = (.ok (), w')) :
    Enlists [b] [] k [] [] w w' := by
  obtain ⟨_, rfl⟩ := Builder.jumpTo_ok jumped
  exact (Enlists.refl numbered).trans (enlists_jumped numbered known _) (by simp) (by simp)
    (.inl rfl)

mutual

/-- Steps are appended as their outline lists them, whichever builder they are appended to. -/
theorem enlists_step : (s : Step) → s.Sane → ∀ {w w₁ w' : Workspace} {b : Nat},
    w.graph.Numbered → b < w.builders.size → place h b s w = (.ok (), w₁) →
    placeHandlers h b s w₁ = (.ok (), w') → ∀ k, Enlists [b] [] k [] (items s) w w'
  | .action _ _ branches errors, sane, _, _, _, _ => fun numbered known placed handled k => by
    cases sane with
    | action suits inside handlers =>
      exact enlists_place suits (enlists_branches branches inside) (enlists_body branches inside)
        (enlists_errors errors handlers) numbered known placed handled
  | .resume _, _, _, _, _, _ => fun numbered _ placed handled _ => by
    cases handled
    exact enlists_resume numbered (resumed_of_place placed)
  | .jump target _, _, _, _, _, _ => fun numbered known placed handled _ => by
    cases handled
    exact enlists_jump numbered known (BuildM.mapError_ok placed)

theorem enlists_body : (branches : List (Branch × List Step)) →
    (∀ e ∈ branches, ∀ s ∈ e.2, s.Sane) → ∀ e ∈ branches.head?, EnlistsSteps h e.2
  | [], _ => fun _ among => nomatch among
  | (_, steps) :: _, sane => fun _ among => by
    cases among
    exact enlists_all steps (sane _ List.mem_cons_self)

theorem enlists_branches : (branches : List (Branch × List Step)) →
    (∀ e ∈ branches, ∀ s ∈ e.2, s.Sane) → EnlistsBranches h branches
  | [], _ => fun numbered _ _ ran => by
    cases ran
    exact .refl numbered
  | (_, steps) :: rest, sane =>
    enlistsBranches_cons (enlists_all steps (sane _ List.mem_cons_self))
      (enlists_branches rest fun e among => sane e (List.mem_cons_of_mem _ among))

theorem enlists_errors : (errors : List (String × List Step)) →
    (∀ e ∈ errors, ∀ s ∈ e.2, s.Sane) → EnlistsErrors h errors
  | [], _ => fun numbered _ _ _ ran => by
    cases ran
    exact .refl numbered
  | (_, steps) :: rest, sane =>
    enlistsErrors_cons (enlists_all steps (sane _ List.mem_cons_self))
      (enlists_errors rest fun e among => sane e (List.mem_cons_of_mem _ among))

theorem enlists_all : (steps : List Step) → AllSane steps → EnlistsSteps h steps
  | [], _ => fun numbered _ ran k => by
    cases ran
    exact .refl numbered
  | s :: rest, sane => fun numbered known ran k => by
    obtain ⟨w₁, w₂, placed, handled, appending⟩ := appendAll_cons ran
    have one := enlists_step s (sane s List.mem_cons_self) numbered known placed handled k
    have others := enlists_all rest (fun s among => sane s (List.mem_cons_of_mem _ among))
      one.numbered (Nat.lt_of_lt_of_le known one.builders_grow) appending k
    exact one.trans others (fun _ among _ => among) (by simp) (.inl rfl)

end

end Step

/-- The nodes of a flow are those that the outline of its steps lists. -/
theorem FlowDefinition.shown_of_build {f : FlowDefinition} (sane : Step.AllSane f.steps)
    {name : String} {w : Workspace} (built : f.build name = .ok w) :
    List.Forall₂ Face.Shows w.graph.faces (Step.outline f.steps) := by
  obtain ⟨v, started, appended⟩ := f.appended_of_build built
  have start := Workspace.start_eq started
  have numbered : v.graph.Numbered := by
    rw [start]
    exact Graph.numbered_empty name
  have one : 0 < v.builders.size := by
    rw [start]
    exact Nat.zero_lt_one
  obtain ⟨more, faces, shown⟩ := (Step.enlists_all f.steps sane numbered one appended 0).faces
  have empty : v.graph.faces = [] := by
    rw [start]
    rfl
  rw [faces, empty]
  exact shown

end ContactFlow
