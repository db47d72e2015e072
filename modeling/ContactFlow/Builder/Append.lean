import ContactFlow.Builder.Workspace

/-!
Appending to a flow. A builder's next action becomes the target of the edges that wait at its
cursor. After a terminal action, a jump or a return to the flow, a builder takes no more.
-/

namespace ContactFlow

namespace Workspace

/-- What keeps a builder from appending. -/
def refusal? (w : Workspace) (b : Nat) : Option UsageError :=
  match (w.builder b).status with
  | .opened => none
  | .terminated node => some (.afterTerminal w.flow node)
  | .closed why => some (.afterClosing w.flow why)

/-- The hint for an identifier is the label or, when that counts as false, that of the draft. -/
def hintFor (label : Value) (fallback : String) : Value :=
  if label.isTruthy then label else .text fallback

/-- Places a new node at a builder's cursor. -/
def place (w : Workspace) (b : Nat) (node : Handle) (kind : ActionKind) : Workspace :=
  let w := w.resolve (w.builder b).cursor node.id
  let w := w.moveCursor b
    (if kind.isTerminal || kind.isBranching then [] else [.next node.serial])
  let x := w.builder b
  w.setBuilder b
    { x with
      last := some node, status := if kind.isTerminal then .terminated node.id else x.status }

/-- What a draft asks for besides the kind and the parameters of its node. -/
def complete (d : Draft) (n : Node) : Node :=
  { n with
    mode := d.mode, spec := d.spec
    retry := match d.retry with
      | .good retry => retry
      | .bad _ => none }

/-- The workspace with the node of a draft added at a builder's cursor, and the node. -/
def appendDraft (w : Workspace) (b : Nat) (d : Draft) (label id : Value) :
    Except UsageError (Handle × Workspace) := do
  let (node, graph) ← w.graph.newNode d.kind (hintFor label d.hint) d.parameters id
  let w := w.withNode (graph.modifyNode node.serial (complete d)) node.id
  pure (node.handle, w.place b node.handle d.kind)

end Workspace

namespace Builder

/-- Refuses when the builder takes no more. -/
def ensureOpen (b : Nat) : BuildM UsageError Unit := fun w =>
  match w.refusal? b with
  | some e => (.error e, w)
  | none => (.ok (), w)

/-- Appends an action and gives its node. -/
def append (b : Nat) (a : Action) (label id : Value) : BuildM UsageError Handle := do
  let draft ← BuildM.ofExcept a.draft
  ensureOpen b
  let w ← BuildM.read
  let (node, w) ← BuildM.ofExcept (w.appendDraft b draft label id)
  BuildM.change fun _ => w
  match draft.retry with
  | .good _ => return node
  | .bad faults => BuildM.fail (.badRetry faults)

/-- Appends an action and opens the set of its branches. -/
def appendBranching (b : Nat) (a : Action) (label id : Value) : BuildM UsageError Nat := do
  let node ← append b a label id
  BuildM.step fun w =>
    let set : BranchSet := { builder := b, node, join := (w.builder b).cursor, offer := a.offer }
    (w.sets.size, { w with sets := w.sets.push set })

/-- Leads the open edges to a node named by hand, which may be added later or never. -/
def jumpTo (b : Nat) (target : Value) : BuildM UsageError Unit := do
  ensureOpen b
  if !target.isTruthy then BuildM.fail .noJumpTarget
  else
    let target := target.display
    BuildM.change fun w =>
      let w := (w.resolve (w.builder b).cursor target).moveCursor b []
      w.setBuilder b { w.builder b with status := .closed (.jumped target) }

/-- Leads the open edges of a branch back to the flow it left. -/
def thenContinue (b : Nat) : BuildM UsageError Unit := do
  let x := (← BuildM.read).builder b
  match x.status, x.scope with
  | _, .root => BuildM.fail .notABranch
  | .closed .continued, _ => BuildM.fail .continuedTwice
  | .terminated node, _ => BuildM.fail (.continueAfterTerminal node)
  | .closed why, _ => BuildM.fail (.continueAfterClosing why)
  | .opened, .branch none => BuildM.fail .nothingToContinue
  | .opened, .branch (some join) => BuildM.change fun w =>
    (w.forward x.cursor join).setBuilder b { x with status := .closed .continued }

end Builder

end ContactFlow
