import ContactFlow.Proofs.Asked

/-!
The history of a flow under construction: which branches were opened, how the builders left the join
points at which they stood, and which edges were linked. A call with the builder is a move or two, and
each move says what it adds to the history.
-/

namespace ContactFlow

/-- A branch has an owner, the builder that stands or stood at the join point to which the branch may
return. A builder leaves its own join point for a target, or returns to an outer one, and takes the
edges along that wait. -/
inductive Event
  | opened (branch owner join : Nat)
  | left (builder join : Nat) (target : String)
  | returned (builder join outer : Nat)
  | looped (join : Nat) (target : String)
  | passed (edge : Slot) (builder : Nat)
  | linked (edge : Slot) (target : String)
  deriving DecidableEq, Repr

namespace Event

/-- The join point that is resolved or forwarded. -/
def used? : Event → Option Nat
  | .left _ j _ | .returned _ j _ | .looped j _ => some j
  | _ => none

def linked? : Event → Option Slot
  | .linked s _ => some s
  | _ => none

def links (l : List (Slot × String)) : List Event := l.map fun e => .linked e.1 e.2

end Event

namespace Workspace

open Event (links)

/-- What a call comes down to. While the body of a loop is filled, the builder of the loop makes no
moves. -/
inductive Move (loops : List OpenLoop) (w : Workspace) : Workspace → List Event → Prop
  | place {b : Nat} (known : b < w.builders.size) (free : Free loops b)
      (opened : (w.builder b).status = .opened) {d : Draft} {n : Node} {g : Graph} {hint id : Value}
      (made : w.graph.newNode d.kind hint d.parameters id = .ok (n, g)) :
      Move loops w (w.placeNew b d n g)
        (.left b (w.builder b).cursor n.id :: links (w.joins.resolve (w.builder b).cursor n.id).2)
  | jump {b : Nat} (known : b < w.builders.size) (free : Free loops b)
      (opened : (w.builder b).status = .opened) (target : String) :
      Move loops w (w.jumped b target)
        (.left b (w.builder b).cursor target :: links (w.joins.resolve (w.builder b).cursor target).2)
  | goBack {b k : Nat} (known : b < w.builders.size) (free : Free loops b)
      (opened : (w.builder b).status = .opened) (scope : (w.builder b).scope = .branch (some k)) :
      Move loops w (w.continued b k)
        (.returned b (w.builder b).cursor k ::
          ((w.joins.get (w.builder b).cursor).waiting.map (.passed · b) ++
            links (w.joins.forward (w.builder b).cursor k).2))
  | offer {b : Nat} (known : b < w.builders.size) (free : Free loops b) {s : BranchSet}
      (owner : s.builder = b) (join : s.join = (w.builder b).cursor) :
      Move loops w { w with sets := w.sets.push s } []
  | take {i : Nat} (known : i < w.sets.size) {s : BranchSet}
      (owner : s.builder = (w.branches i).builder) (join : s.join = (w.branches i).join) :
      Move loops w (w.setBranches i s) []
  | condition {i : Nat} (known : i < w.sets.size) {n : Node} (member : n ∈ w.graph.toList)
      (guard : Guard) :
      Move loops w (w.withCondition n.serial guard (w.branches i).join)
        [.opened w.builders.size (w.branches i).builder (w.branches i).join]
  | error {i : Nat} (known : i < w.sets.size) {n : Node} (member : n ∈ w.graph.toList)
      (kind : ErrorKind) :
      Move loops w (w.withError n.serial kind (some (w.branches i).join))
        [.opened w.builders.size (w.branches i).builder (w.branches i).join]
  | handler {b : Nat} (known : b < w.builders.size) (free : Free loops b) {n : Node}
      (member : n ∈ w.graph.toList) (kind : ErrorKind) :
      Move loops w (w.withError n.serial kind (some (w.builder b).cursor))
        [.opened w.builders.size b (w.builder b).cursor]
  | lastHandler {n : Node} (member : n ∈ w.graph.toList) (kind : ErrorKind) :
      Move loops w (w.withError n.serial kind none) []

/-- Any number of moves, one after the other. -/
inductive Moves (loops : List OpenLoop) (w : Workspace) : Workspace → Prop
  | none : Moves loops w w
  | more {w' w'' : Workspace} {es : List Event} (moves : Moves loops w w')
      (move : Move loops w' w'' es) : Moves loops w w''

/-- The history of a flow. A loop's body is opened as soon as the loop has been placed. -/
inductive History : Workspace → List OpenLoop → List Event → Prop
  | start {flow : String} {w : Workspace} (started : Workspace.start flow = .ok w) : History w [] []
  | move {w w' : Workspace} {loops : List OpenLoop} {log es : List Event}
      (history : History w loops log) (move : Move loops w w' es) : History w' loops (log ++ es)
  | openLoop {w : Workspace} {loops : List OpenLoop} {log : List Event}
      (history : History w loops log) {b : Nat} (known : b < w.builders.size) (free : Free loops b)
      (opened : (w.builder b).status = .opened) {d : Draft} {n : Node} {g : Graph} {hint id : Value}
      (made : w.graph.newNode d.kind hint d.parameters id = .ok (n, g)) (o : OpenBranch) :
      History ((w.placeNew b d n g).withBody n.handle) (⟨b, n.handle, o, false⟩ :: loops)
        (log ++ (.left b (w.builder b).cursor n.id ::
            links (w.joins.resolve (w.builder b).cursor n.id).2) ++
          [.looped (w.placeNew b d n g).joins.size n.id])
  | closeLoop {w : Workspace} {loops : List OpenLoop} {log : List Event}
      (history : History w loops log) {l : OpenLoop} (among : l ∈ loops)
      (current : l.givenUp = false) {n : Node} (member : n ∈ w.graph.toList)
      (here : n.serial = l.node.serial) :
      History (w.withExit l.builder l.node.serial) (loops.erase l) log
  | giveUp {w : Workspace} {loops : List OpenLoop} {log : List Event}
      (history : History w loops log) {l : OpenLoop} (among : l ∈ loops) :
      History w ({ l with givenUp := true } :: loops.erase l) log

/-! ### Calls are made of moves -/

variable {asks : Action → Prop} {w w' : Workspace} {loops : List OpenLoop} {log es : List Event}
  {b : Nat}

theorem Move.moves (move : Move loops w w' es) : Moves loops w w' := .more .none move

theorem moves_append (known : b < w.builders.size) (free : Free loops b) (a : Action)
    (label id : Value) : Moves loops w (Builder.append b a label id w).2 := by
  rcases Builder.append_apply b a label id w with ⟨e, failed⟩ | ⟨d, n, g, _, open_, made, done⟩
  · rw [failed]
    exact .none
  · rw [done]
    exact (Move.place known free (opened_of_refusal open_) made).moves

theorem builders_append (b : Nat) (a : Action) (label id : Value) (w : Workspace) :
    (Builder.append b a label id w).2.builders.size = w.builders.size := by
  rcases Builder.append_apply b a label id w with ⟨e, failed⟩ | ⟨d, n, g, _, _, _, done⟩
  · rw [failed]
  · rw [done]
    let w₀ := w.withNode (g.modifyNode n.serial (complete d)) n.id
    have linked := w₀.relinked_link (w₀.joins.resolve (w₀.builder b).cursor n.handle.id)
    have same : (w₀.resolve (w₀.builder b).cursor n.handle.id).builders.size = w.builders.size :=
      congrArg Array.size linked.builders
    simpa [placeNew, place, moveCursor, setBuilder, freshJoin] using same

theorem moves_appendBranching (known : b < w.builders.size) (free : Free loops b) (a : Action)
    (label id : Value) : Moves loops w (Builder.appendBranching b a label id w).2 := by
  have appended := moves_append known free a label id
  have size := builders_append b a label id w
  rw [Builder.appendBranching_apply]
  generalize Builder.append b a label id w = r at appended size
  obtain ⟨result, w'⟩ := r
  cases result with
  | error e => exact appended
  | ok node =>
    have known : b < w'.builders.size := Nat.lt_of_lt_of_eq known size.symm
    exact .more appended (.offer known free rfl rfl)

theorem moves_openBranch (orderly : w.Orderly) {i : Nat} (known : i < w.sets.size)
    (branch : Branch) : Moves loops w (Builder.openBranch i branch w).2 := by
  have found := branches_found known
  obtain ⟨n, member, here, _⟩ := orderly.owned i _ found
  rcases Builder.openBranch_apply i branch w with ⟨e, failed⟩ | ⟨opening, s, opened, done⟩
  · rw [failed]
    exact .none
  · rw [done]
    have opens := BranchSet.opens_opening (w.branches i) branch _ opened
    have known' (s : BranchSet) : i < (w.setBranches i s).sets.size :=
      Nat.lt_of_lt_of_eq known (Array.size_setIfInBounds).symm
    cases opening with
    | error kind =>
      have unchanged : s = w.branches i := opens
      subst unchanged
      have taken : Moves loops w (w.setBranches i (w.branches i)) := (Move.take known rfl rfl).moves
      simp only
      rcases Builder.openError_apply (w.branches i).node (some (w.branches i).join) kind
        (w.setBranches i (w.branches i)) with ⟨e, failed⟩ | ⟨_, done⟩
      · rw [failed]
        exact taken
      · rw [done, ← here]
        have move : Move loops _ _ _ := .error (known' (w.branches i)) member kind
        rw [branches_setBranches known] at move
        exact .more taken move
    | condition guard key =>
      have lets : (w.branches i).Lets guard key s := opens
      simp only
      rcases Builder.openCondition_apply i guard key (w.setBranches i s) with
        ⟨e, failed⟩ | ⟨_, done⟩
      · rw [failed]
        exact (Move.take known lets.builder lets.join).moves
      · rw [branches_setBranches known] at done
        rw [done, setBranches_twice, lets.node, ← here]
        have taken : Moves loops w (w.setBranches i (s.take [key])) :=
          .more .none (.take known lets.builder lets.join)
        have move : Move loops _ _ _ := .condition (known' (s.take [key])) member guard
        rw [branches_setBranches known] at move
        exact .more taken move

theorem moves_openHandler (known : b < w.builders.size) (free : Free loops b)
    (last : ∀ node, (w.builder b).last = some node → ∃ n ∈ w.graph.toList, n.serial = node.serial)
    (name : ErrorName) : Moves loops w (Builder.openHandler b name w).2 := by
  rcases Builder.openHandler_apply b name w with ⟨e, failed⟩ | ⟨node, kind, found, _, done⟩
  · rw [failed]
    exact .none
  · obtain ⟨n, member, here⟩ := last node found
    rw [done]
    rcases Builder.openError_apply node
      (if (w.builder b).isTerminated then none else some (w.builder b).cursor) kind w with
      ⟨e, failed⟩ | ⟨_, done⟩
    · rw [failed]
      exact .none
    · rw [done, ← here]
      split
      · exact (Move.lastHandler member kind).moves
      · exact (Move.handler known free member kind).moves

theorem moves_jumpTo (known : b < w.builders.size) (free : Free loops b) (target : Value) :
    Moves loops w (Builder.jumpTo b target w).2 := by
  rcases Builder.jumpTo_apply b target w with ⟨e, failed⟩ | ⟨open_, done⟩
  · rw [failed]
    exact .none
  · rw [done]
    exact (Move.jump known free (opened_of_refusal open_) target.display).moves

theorem moves_thenContinue (known : b < w.builders.size) (free : Free loops b) :
    Moves loops w (Builder.thenContinue b w).2 := by
  rcases Builder.thenContinue_apply b w with ⟨e, failed⟩ | ⟨join, opened, scope, done⟩
  · rw [failed]
    exact .none
  · rw [done]
    exact (Move.goBack known free opened scope).moves

/-! ### Every session has a history -/

theorem History.moves (history : History w loops log) (moves : Moves loops w w') :
    ∃ log', History w' loops log' := by
  induction moves with
  | none => exact ⟨log, history⟩
  | more _ move ih =>
    obtain ⟨log', before⟩ := ih
    exact ⟨_, before.move move⟩

theorem History.openLoop_call (history : History w loops log) (known : b < w.builders.size)
    (free : Free loops b) {times label id : Value} {node : Handle} {o : OpenBranch}
    (opened : Builder.openLoop b times label id w = (.ok (node, o), w')) :
    ∃ log', History w' (⟨b, node, o, false⟩ :: loops) log' := by
  obtain ⟨w₁, appended, rfl, rfl⟩ := Builder.openLoop_ok opened
  obtain ⟨d, n, g, _, _, _, open_, made, rfl, rfl⟩ := Builder.append_ok appended
  exact ⟨_, history.openLoop known free (opened_of_refusal open_) made _⟩

/-- Only a branch may rejoin the flow. -/
theorem known_of_scope {k : Nat} (scope : (w.builder b).scope = .branch (some k)) :
    b < w.builders.size := by
  by_contra above
  have none : w.builders[b]? = none := Array.getElem?_eq_none (Nat.le_of_not_lt above)
  simp [Workspace.builder, none] at scope

theorem History.closeLoop_call (history : History w loops log) {l : OpenLoop} (among : l ∈ loops)
    (current : l.givenUp = false) (free : Free loops l.body.builder)
    {n : Node} (member : n ∈ w.graph.toList) (here : n.serial = l.node.serial)
    (closed : Builder.closeLoop l.builder l.node l.body w = (.ok (), w')) :
    ∃ log', History w' (loops.erase l) log' := by
  rcases Builder.closeLoop_ok closed with ⟨_, rfl⟩ | ⟨join, opened, scope, rfl⟩
  · exact ⟨_, history.closeLoop among current member here⟩
  · have known := known_of_scope scope
    obtain ⟨n', member', widened⟩ := (w.widens_continued l.body.builder join).kept member
    have returned := history.move (.goBack known free opened scope)
    exact ⟨_, returned.closeLoop among current member' (widened.serial.trans here)⟩

end Workspace

end ContactFlow
