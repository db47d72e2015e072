import ContactFlow.Builder.Branching
import ContactFlow.Definition.Build
import ContactFlow.Proofs.Results

/-!
What each operation of the builder does to the workspace. An operation that fails leaves it as it
was, but for a set of branches whose place is given out before its key is found to be taken, and for
an input whose retries turn out to be faulty after it was added.
-/

namespace ContactFlow

namespace BuildM

variable {ε ε' α β : Type}

theorem bind_apply (x : BuildM ε α) (f : α → BuildM ε β) (w : Workspace) :
    (x >>= f) w = match x w with
      | (.ok a, w) => f a w
      | (.error e, w) => (.error e, w) := rfl

theorem read_apply (w : Workspace) : (read : BuildM ε Workspace) w = (.ok w, w) := rfl

theorem change_apply (f : Workspace → Workspace) (w : Workspace) :
    (change f : BuildM ε Unit) w = (.ok (), f w) := rfl

theorem ofExcept_apply (x : Except ε α) (w : Workspace) : (ofExcept x) w = (x, w) := by
  cases x <;> rfl

theorem mapError_apply (f : ε → ε') (x : BuildM ε α) (w : Workspace) :
    (x.mapError f) w = ((x w).1.mapError f, (x w).2) := by
  unfold mapError
  split
  · rename_i ran
    rw [ran]
    rfl
  · rename_i ran
    rw [ran]
    rfl

/-- A step that comes through goes by a first part that comes through. -/
theorem bind_ok {x : BuildM ε α} {f : α → BuildM ε β} {w w' : Workspace} {b : β}
    (ran : (x >>= f) w = (.ok b, w')) : ∃ a w₁, x w = (.ok a, w₁) ∧ f a w₁ = (.ok b, w') := by
  rw [bind_apply] at ran
  split at ran
  · rename_i a w₁ first
    exact ⟨a, w₁, first, ran⟩
  · cases ran

theorem mapError_ok {f : ε → ε'} {x : BuildM ε α} {w w' : Workspace} {a : α}
    (ran : (x.mapError f) w = (.ok a, w')) : x w = (.ok a, w') := by
  rw [mapError_apply, Prod.mk.injEq] at ran
  exact Prod.ext (Results.ok_of_mapError ran.1) ran.2

theorem ofExcept_ok {x : Except ε α} {w w' : Workspace} {a : α}
    (ran : (ofExcept x) w = (.ok a, w')) : x = .ok a ∧ w' = w := by
  rw [ofExcept_apply, Prod.mk.injEq] at ran
  exact ⟨ran.1, ran.2.symm⟩

end BuildM

namespace Workspace

theorem opened_of_refusal {w : Workspace} {b : Nat} (open_ : w.refusal? b = none) :
    (w.builder b).status = .opened := by
  unfold refusal? at open_
  split at open_
  · assumption
  · cases open_
  · cases open_

/-- The workspace with a new node placed at a builder's cursor. -/
def placeNew (w : Workspace) (b : Nat) (d : Draft) (n : Node) (g : Graph) : Workspace :=
  (w.withNode (g.modifyNode n.serial (complete d)) n.id).place b n.handle d.kind

/-- The workspace with a branch for an edge added to a node. -/
def withCondition (w : Workspace) (node : Nat) (guard : Guard) (join : Nat) : Workspace :=
  ((w.addCondition node guard).2.openBuilder (w.addCondition node guard).1 (some join)).2

def withError (w : Workspace) (node : Nat) (kind : ErrorKind) (join : Option Nat) : Workspace :=
  ((w.addError node kind).2.openBuilder (w.addError node kind).1 join).2

/-- The workspace with a builder's open edges led to a target. -/
def jumped (w : Workspace) (b : Nat) (target : String) : Workspace :=
  let w := (w.resolve (w.builder b).cursor target).moveCursor b []
  w.setBuilder b { w.builder b with status := .closed (.jumped target) }

/-- The workspace with a branch's open edges led back to a join point. -/
def continued (w : Workspace) (b join : Nat) : Workspace :=
  (w.forward (w.builder b).cursor join).setBuilder b
    { w.builder b with status := .closed .continued }

end Workspace

namespace Builder

open BuildM

variable {w w' : Workspace} {b : Nat}

theorem ensureOpen_apply (b : Nat) (w : Workspace) :
    ensureOpen b w = match w.refusal? b with
      | some e => (.error e, w)
      | none => (.ok (), w) := rfl

theorem append_apply (b : Nat) (a : Action) (label id : Value) (w : Workspace) :
    (∃ e, append b a label id w = (.error e, w)) ∨
    ∃ d n g, a.draft = .ok d ∧ w.refusal? b = none ∧
      w.graph.newNode d.kind (Workspace.hintFor label d.hint) d.parameters id = .ok (n, g) ∧
      append b a label id w =
        ((match d.retry with
          | .good _ => .ok n.handle
          | .bad faults => .error (.badRetry faults)), w.placeNew b d n g) := by
  unfold append
  simp only [bind_apply, ofExcept_apply, ensureOpen_apply, read_apply, change_apply]
  cases drafted : a.draft with
  | error e => exact .inl ⟨e, rfl⟩
  | ok d =>
    simp only
    cases refused : w.refusal? b with
    | some e => exact .inl ⟨e, by simp only⟩
    | none =>
      cases made : w.graph.newNode d.kind (Workspace.hintFor label d.hint) d.parameters id with
      | error e => exact .inl ⟨e, by simp only [Workspace.appendDraft, made, Results.error_bind]⟩
      | ok added =>
        obtain ⟨n, g⟩ := added
        refine .inr ⟨d, n, g, rfl, rfl, made, ?_⟩
        simp only [Workspace.appendDraft, made, Results.ok_bind, Results.pure_eq]
        cases d.retry <;> rfl

/-- A call that returned a node has placed it. -/
theorem append_ok {a : Action} {label id : Value} {node : Handle}
    (appended : append b a label id w = (.ok node, w')) :
    ∃ d n g retry, a.draft = .ok d ∧ d.retry = .good retry ∧ w.refusal? b = none ∧
      w.graph.newNode d.kind (Workspace.hintFor label d.hint) d.parameters id = .ok (n, g) ∧
      node = n.handle ∧ w' = w.placeNew b d n g := by
  rcases append_apply b a label id w with ⟨e, failed⟩ | ⟨d, n, g, drafted, free, made, done⟩
  · rw [failed] at appended
    cases appended
  · rw [done, Prod.mk.injEq] at appended
    obtain ⟨result, rfl⟩ := appended
    split at result
    · rename_i retry good
      exact ⟨d, n, g, retry, drafted, good, free, made, (Except.ok.inj result).symm, rfl⟩
    · cases result

theorem appendBranching_apply (b : Nat) (a : Action) (label id : Value) (w : Workspace) :
    appendBranching b a label id w =
      match append b a label id w with
      | (.ok node, w) =>
        (.ok w.sets.size, { w with
          sets := w.sets.push { builder := b, node, join := (w.builder b).cursor, offer := a.offer } })
      | (.error e, w) => (.error e, w) := by
  unfold appendBranching
  rw [bind_apply]
  obtain ⟨result, w⟩ := append b a label id w
  cases result <;> rfl

/-- A call that returned a set of branches has placed its node. -/
theorem appendBranching_ok {a : Action} {label id : Value} {s : Nat}
    (appended : appendBranching b a label id w = (.ok s, w')) :
    ∃ node v, append b a label id w = (.ok node, v) ∧ s = v.sets.size ∧
      w' = { v with
        sets := v.sets.push { builder := b, node, join := (v.builder b).cursor, offer := a.offer } } := by
  rw [appendBranching_apply] at appended
  split at appended
  · rename_i node v placed
    cases appended
    exact ⟨node, v, placed, rfl, rfl⟩
  · cases appended

theorem jumpTo_apply (b : Nat) (target : Value) (w : Workspace) :
    (∃ e, jumpTo b target w = (.error e, w)) ∨
    w.refusal? b = none ∧ jumpTo b target w = (.ok (), w.jumped b target.display) := by
  unfold jumpTo
  rw [bind_apply, ensureOpen_apply]
  cases refused : w.refusal? b with
  | some e => exact .inl ⟨e, rfl⟩
  | none =>
    cases target.isTruthy with
    | false => exact .inl ⟨_, rfl⟩
    | true => exact .inr ⟨rfl, rfl⟩

theorem jumpTo_ok {target : Value} (jumped : jumpTo b target w = (.ok (), w')) :
    w.refusal? b = none ∧ w' = w.jumped b target.display := by
  rcases jumpTo_apply b target w with ⟨e, failed⟩ | ⟨free, done⟩
  · rw [failed] at jumped
    cases jumped
  · rw [done] at jumped
    cases jumped
    exact ⟨free, rfl⟩

theorem thenContinue_apply (b : Nat) (w : Workspace) :
    (∃ e, thenContinue b w = (.error e, w)) ∨
    ∃ join, (w.builder b).status = .opened ∧ (w.builder b).scope = .branch (some join) ∧
      thenContinue b w = (.ok (), w.continued b join) := by
  unfold thenContinue
  rw [bind_apply, read_apply]
  simp only
  cases scope : (w.builder b).scope with
  | root => exact .inl ⟨.notABranch, by cases (w.builder b).status <;> rfl⟩
  | branch join? =>
    cases status : (w.builder b).status with
    | terminated node => exact .inl ⟨.continueAfterTerminal node, rfl⟩
    | closed why => cases why <;> exact .inl ⟨_, rfl⟩
    | opened =>
      cases join? with
      | none => exact .inl ⟨.nothingToContinue, rfl⟩
      | some join =>
        refine .inr ⟨join, rfl, rfl, ?_⟩
        simp only [change_apply, Workspace.continued, scope]

/-- A branch that came back to the flow goes on at the join point that it was opened for. -/
theorem thenContinue_ok (resumed : thenContinue b w = (.ok (), w')) :
    ∃ k, (w.builder b).status = .opened ∧ (w.builder b).scope = .branch (some k) ∧
      w' = w.continued b k := by
  rcases thenContinue_apply b w with ⟨e, failed⟩ | ⟨k, opened, scope, done⟩
  · rw [failed] at resumed
    cases resumed
  · rw [done] at resumed
    cases resumed
    exact ⟨k, opened, scope, rfl⟩

theorem openError_apply (node : Handle) (join : Option Nat) (kind : ErrorKind) (w : Workspace) :
    (∃ e, openError node join kind w = (.error e, w)) ∨
    w.handles node.serial kind = false ∧
      openError node join kind w = (.ok ⟨w.builders.size, kind.wire ++ " handler"⟩,
        w.withError node.serial kind join) := by
  unfold openError
  rw [bind_apply, read_apply]
  simp only
  cases handled : w.handles node.serial kind with
  | true => exact .inl ⟨_, rfl⟩
  | false => exact .inr ⟨rfl, rfl⟩

theorem openHandler_apply (b : Nat) (name : ErrorName) (w : Workspace) :
    (∃ e, openHandler b name w = (.error e, w)) ∨
    ∃ node kind, (w.builder b).last = some node ∧ name.resolve = .ok kind ∧
      openHandler b name w = openError node
        (if (w.builder b).isTerminated then none else some (w.builder b).cursor) kind w := by
  unfold openHandler
  rw [bind_apply, read_apply]
  simp only
  cases last : (w.builder b).last with
  | none => exact .inl ⟨_, rfl⟩
  | some node =>
    simp only [bind_apply, ofExcept_apply]
    cases resolved : name.resolve with
    | error e => exact .inl ⟨e, rfl⟩
    | ok kind => exact .inr ⟨node, kind, rfl, rfl, rfl⟩

theorem openCondition_apply (s : Nat) (guard : Guard) (key : List Scalar) (w : Workspace) :
    (∃ e, openCondition s guard key w = (.error e, w)) ∨
    (w.branches s).requireFree key = .ok () ∧
      openCondition s guard key w =
        (.ok ⟨w.builders.size, "branch " ++ Text.parenthesized (key.map Scalar.inner)⟩,
          (w.setBranches s ((w.branches s).take [key])).withCondition (w.branches s).node.serial
            guard (w.branches s).join) := by
  unfold openCondition
  rw [bind_apply, read_apply]
  simp only [bind_apply, ofExcept_apply]
  cases free : (w.branches s).requireFree key with
  | error e => exact .inl ⟨e, rfl⟩
  | ok _ => exact .inr ⟨rfl, rfl⟩

theorem openBranch_apply (s : Nat) (branch : Branch) (w : Workspace) :
    (∃ e, openBranch s branch w = (.error e, w)) ∨
    ∃ opening set, (w.branches s).opening branch = .ok (opening, set) ∧
      openBranch s branch w =
        match opening with
        | .condition guard key => openCondition s guard key (w.setBranches s set)
        | .error kind => openError set.node (some set.join) kind (w.setBranches s set) := by
  unfold openBranch
  rw [bind_apply, read_apply]
  simp only [bind_apply, ofExcept_apply, change_apply]
  cases opened : (w.branches s).opening branch with
  | error e => exact .inl ⟨e, rfl⟩
  | ok result =>
    obtain ⟨opening, set⟩ := result
    refine .inr ⟨opening, set, rfl, ?_⟩
    cases opening <;> rfl

theorem closeBranch_apply (o : OpenBranch) (w : Workspace) :
    (∃ e, closeBranch o w = (.error e, w)) ∨
    (w.builder o.builder).isEmpty = false ∧ closeBranch o w = (.ok (), w) := by
  unfold closeBranch
  rw [bind_apply, read_apply]
  simp only
  cases empty : (w.builder o.builder).isEmpty with
  | true => exact .inl ⟨_, rfl⟩
  | false => exact .inr ⟨rfl, rfl⟩

end Builder

/-! ### Steps

Steps that were appended without an error were appended one by one,
each with its branches and its handlers, and every call of the builder for them came through.
-/

theorem Action.eq_loop {a : Action} (loop : a.kind = .loop) : ∃ times, a = .loop times := by
  cases a with
  | loop times => exact ⟨times, rfl⟩
  | _ => cases loop

namespace Step

variable {h : Handlers} {w w' : Workspace} {b : Nat} {head : Head} {frame : Frame}
  {branches : List (Branch × List Step)} {errors : List (String × List Step)}

/-- A branch that was filled had been opened before. -/
theorem fill_ok {opened : BuildM UsageError OpenBranch} {handler : Nat → Building Unit}
    (ran : Builder.fill DefinitionError.usage opened handler w = (.ok (), w')) :
    ∃ o w₁, opened w = (.ok o, w₁) ∧ handler o.builder w₁ = (.ok (), w') := by
  obtain ⟨o, w₁, first, ran⟩ := BuildM.bind_ok ran
  obtain ⟨_, w₂, filled, closed⟩ := BuildM.bind_ok ran
  have closed := BuildM.mapError_ok closed
  rcases Builder.closeBranch_apply o w₂ with ⟨e, failed⟩ | ⟨_, done⟩
  · rw [failed] at closed
    cases closed
  · rw [done] at closed
    cases closed
    exact ⟨o, w₁, BuildM.mapError_ok first, filled⟩

/-- A loop was opened before its body was filled, and closed after it. -/
theorem loop_ok {times label id : Value} {body : Nat → Building Unit}
    (ran : Builder.loop DefinitionError.usage b times label id body w = (.ok (), w')) :
    ∃ node o w₁ w₂, Builder.openLoop b times label id w = (.ok (node, o), w₁) ∧
      body o.builder w₁ = (.ok (), w₂) ∧ Builder.closeLoop b node o w₂ = (.ok (), w') := by
  obtain ⟨⟨node, o⟩, w₁, opened, ran⟩ := BuildM.bind_ok ran
  obtain ⟨_, w₂, filled, closed⟩ := BuildM.bind_ok ran
  exact ⟨node, o, w₁, w₂, BuildM.mapError_ok opened, filled, BuildM.mapError_ok closed⟩

/-- The branches of a set are filled one after another. -/
theorem placeBranches_cons {s : Nat} {which : Branch} {steps : List Step}
    (ran : placeBranches h s ((which, steps) :: branches) w = (.ok (), w')) :
    ∃ w₁, Builder.fill DefinitionError.usage (Builder.openBranch s which)
        (fun inner => appendAll h inner steps) w = (.ok (), w₁) ∧
      placeBranches h s branches w₁ = (.ok (), w') := by
  rw [placeBranches] at ran
  obtain ⟨_, w₁, filled, ran⟩ := BuildM.bind_ok ran
  exact ⟨w₁, filled, ran⟩

/-- The handlers of a node are filled one after another, each for an error that is known. -/
theorem placeErrors_cons {name : String} {steps : List Step}
    (ran : placeErrors h b ((name, steps) :: errors) w = (.ok (), w')) :
    ∃ kind w₁, errorKind name = .ok kind ∧
      Builder.fill DefinitionError.usage (Builder.openHandler b (.kind kind))
        (fun inner => appendAll h inner steps) w = (.ok (), w₁) ∧
      placeErrors h b errors w₁ = (.ok (), w') := by
  rw [placeErrors] at ran
  obtain ⟨kind, v, known, placed⟩ := BuildM.bind_ok ran
  obtain ⟨named, rfl⟩ := BuildM.ofExcept_ok known
  obtain ⟨_, w₁, filled, ran⟩ := BuildM.bind_ok placed
  exact ⟨kind, w₁, named, filled, ran⟩

theorem resumeFlow_apply (b : Nat) (w : Workspace) :
    resumeFlow b w = match (w.builder b).scope with
      | .root => (.error .continueOutside, w)
      | .branch _ => (Builder.thenContinue b).mapError .usage w := by
  rw [resumeFlow, BuildM.bind_apply, BuildM.read_apply]
  dsimp only
  cases (w.builder b).scope <;> rfl

/-- A step that returned to the flow that its branch had left. -/
theorem resumed_of_place (placed : place h b (.resume frame) w = (.ok (), w')) :
    Builder.thenContinue b w = (.ok (), w') := by
  rw [place, resumeFlow_apply] at placed
  split at placed
  · cases placed
  · exact BuildM.mapError_ok placed

/-- What a builder did for an action that it placed. -/
inductive Does (h : Handlers) (b : Nat) (frame : Frame) (branches : List (Branch × List Step))
    (w w' : Workspace) : Action → Prop
  | plain {a : Action} {node : Handle} (offers : a.offer = .nothing) (other : a.kind ≠ .loop)
      (appended : Builder.append b a (.orNull frame.label) (.orNull frame.id) w = (.ok node, w')) :
      Does h b frame branches w w' a
  | branching {a : Action} {s : Nat} {v : Workspace} (offers : a.offer ≠ .nothing)
      (appended : Builder.appendBranching b a (.orNull frame.label) (.orNull frame.id) w = (.ok s, v))
      (filled : placeBranches h s branches v = (.ok (), w')) : Does h b frame branches w w' a
  | loop {times : Value} (looped : placeLoop h b times frame branches w = (.ok (), w')) :
      Does h b frame branches w w' (.loop times)

/-- What a builder does for an action, once it is known. -/
def placeAction (h : Handlers) (b : Nat) (frame : Frame) (branches : List (Branch × List Step)) :
    Action → Building Unit
  | .loop times => placeLoop h b times frame branches
  | a =>
    if a.offer = .nothing then do
      let _ ← (Builder.append b a (.orNull frame.label) (.orNull frame.id)).mapError .usage
    else do
      let set ← (Builder.appendBranching b a (.orNull frame.label)
        (.orNull frame.id)).mapError .usage
      placeBranches h set branches

theorem place_action : place h b (.action head frame branches errors) =
    BuildM.ofExcept head.resolve >>= placeAction h b frame branches := by
  rw [place]
  congr 1

theorem placeAction_other {a : Action} (other : a.kind ≠ .loop) :
    placeAction h b frame branches a = (if a.offer = .nothing then do
        let _ ← (Builder.append b a (.orNull frame.label) (.orNull frame.id)).mapError .usage
      else do
        let set ← (Builder.appendBranching b a (.orNull frame.label)
          (.orNull frame.id)).mapError .usage
        placeBranches h set branches : Building Unit) := by
  cases a with
  | loop => exact absurd rfl other
  | _ => rfl

theorem does_of_place (placed : place h b (.action head frame branches errors) w = (.ok (), w')) :
    ∃ a, head.resolve = .ok a ∧ Does h b frame branches w w' a := by
  rw [place_action] at placed
  obtain ⟨a, v, taken, acted⟩ := BuildM.bind_ok placed
  obtain ⟨resolved, rfl⟩ := BuildM.ofExcept_ok taken
  refine ⟨a, resolved, ?_⟩
  by_cases loop : a.kind = .loop
  · obtain ⟨times, rfl⟩ := Action.eq_loop loop
    exact .loop acted
  · rw [placeAction_other loop] at acted
    by_cases offers : a.offer = .nothing
    · rw [if_pos offers] at acted
      obtain ⟨node, u, appended, done⟩ := BuildM.bind_ok acted
      cases done
      exact .plain offers loop (BuildM.mapError_ok appended)
    · rw [if_neg offers] at acted
      obtain ⟨set, u, appended, filled⟩ := BuildM.bind_ok acted
      exact .branching offers (BuildM.mapError_ok appended) filled

/-- The steps of a list are appended one after another. -/
theorem appendAll_cons {s : Step} {rest : List Step}
    (ran : appendAll h b (s :: rest) w = (.ok (), w')) :
    ∃ w₁ w₂, place h b s w = (.ok (), w₁) ∧ placeHandlers h b s w₁ = (.ok (), w₂) ∧
      appendAll h b rest w₂ = (.ok (), w') := by
  rw [appendAll] at ran
  obtain ⟨_, u, checked, accepting⟩ := BuildM.bind_ok ran
  obtain ⟨_, rfl⟩ := BuildM.ofExcept_ok checked
  obtain ⟨_, v, accepted, placing⟩ := BuildM.bind_ok accepting
  obtain ⟨_, rfl⟩ := BuildM.ofExcept_ok accepted
  obtain ⟨_, w₁, placed, handling⟩ := BuildM.bind_ok placing
  obtain ⟨_, w₂, handled, appending⟩ := BuildM.bind_ok handling
  exact ⟨w₁, w₂, placed, handled, appending⟩

end Step

/-- The steps of a flow were appended to an empty workspace. -/
theorem FlowDefinition.appended_of_build {f : FlowDefinition} {name : String} {w : Workspace}
    (built : f.build name = .ok w) :
    ∃ v, Workspace.start name = .ok v ∧ Step.appendAll {} 0 f.steps v = (.ok (), w) := by
  obtain ⟨v, started, appended⟩ := Results.bind_eq_ok.1 built
  refine ⟨v, Results.ok_of_mapError started, ?_⟩
  split at appended
  · rename_i ran
    cases appended
    exact ran
  · cases appended

end ContactFlow
