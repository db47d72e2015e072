import ContactFlow.Proofs.Calls
import ContactFlow.Proofs.JoinPoints

/-!
Builders that are closed. An action, a jump or a return that is refused leaves no trace in the flow. A
builder that has ended, jumped or returned stays closed: whatever is called afterwards, and on which
builders, it takes nothing more, and the nodes and the links that were there by then stay.
-/

namespace ContactFlow

/-- What extends the chain of a builder or ends it. -/
inductive Extension
  | append (a : Action) (label id : Value)
  | appendBranching (a : Action) (label id : Value)
  | jumpTo (target : Value)
  | thenContinue

namespace Extension

open Workspace

def run (b : Nat) : Extension → Workspace → Except UsageError Unit × Workspace
  | .append a label id, w =>
    ((Builder.append b a label id w).1.map fun _ => (), (Builder.append b a label id w).2)
  | .appendBranching a label id, w =>
    ((Builder.appendBranching b a label id w).1.map fun _ => (),
      (Builder.appendBranching b a label id w).2)
  | .jumpTo target, w => Builder.jumpTo b target w
  | .thenContinue, w => Builder.thenContinue b w

/-- It is the last thing that the builder does. -/
def closes : Extension → Bool
  | .append a _ _ => a.kind.isTerminal
  | .appendBranching .. => false
  | .jumpTo _ | .thenContinue => true

variable {w : Workspace} {loops : List OpenLoop} {b : Nat}

/-! ### Refusals -/

/-- An action that is refused is not there, unless only its retries turned out to be faulty. -/
theorem append_refused {a : Action} {label id : Value} {e : UsageError}
    (refused : (Builder.append b a label id w).1 = .error e) (proper : e.isForeign = false) :
    Builder.append b a label id w = (.error e, w) := by
  rcases Builder.append_apply b a label id w with ⟨e', failed⟩ | ⟨d, n, g, _, _, _, done⟩
  · rw [failed] at refused
    exact failed.trans (congrArg (·, w) refused)
  · rw [done] at refused
    simp only at refused
    split at refused
    · cases refused
    · cases refused
      cases proper

/-- What is refused, for whatever reason has to do with the flow, changes nothing. -/
theorem run_refused (c : Extension) {e : UsageError} (refused : (c.run b w).1 = .error e)
    (proper : e.isForeign = false) : (c.run b w).2 = w := by
  cases c with
  | append a label id =>
    have appended : (Builder.append b a label id w).1 = .error e := by
      rw [run] at refused
      generalize (Builder.append b a label id w).1 = result at refused ⊢
      cases result with
      | ok node => cases refused
      | error e' =>
        cases refused
        rfl
    rw [run, append_refused appended proper]
  | appendBranching a label id =>
    have appended : (Builder.append b a label id w).1 = .error e := by
      rw [run, Builder.appendBranching_apply] at refused
      generalize Builder.append b a label id w = r at refused ⊢
      obtain ⟨result, w'⟩ := r
      cases result with
      | ok node => cases refused
      | error e' =>
        cases refused
        rfl
    rw [run, Builder.appendBranching_apply, append_refused appended proper]
  | jumpTo target =>
    rcases Builder.jumpTo_apply b target w with ⟨e', failed⟩ | ⟨_, done⟩
    · rw [run, failed]
    · rw [run, done] at refused
      cases refused
  | thenContinue =>
    rcases Builder.thenContinue_apply b w with ⟨e', failed⟩ | ⟨_, _, _, done⟩
    · rw [run, failed]
    · rw [run, done] at refused
      cases refused

/-- A builder that is closed refuses everything. -/
theorem run_closed (c : Extension) (closed : (w.builder b).status ≠ .opened) :
    ∃ e, c.run b w = (.error e, w) := by
  have append_closed (a : Action) (label id : Value) :
      ∃ e, Builder.append b a label id w = (.error e, w) := by
    rcases Builder.append_apply b a label id w with failed | ⟨_, _, _, _, open_, _⟩
    · exact failed
    · exact absurd (opened_of_refusal open_) closed
  cases c with
  | append a label id =>
    obtain ⟨e, failed⟩ := append_closed a label id
    exact ⟨e, by rw [run, failed]; rfl⟩
  | appendBranching a label id =>
    obtain ⟨e, failed⟩ := append_closed a label id
    exact ⟨e, by rw [run, Builder.appendBranching_apply, failed]; rfl⟩
  | jumpTo target =>
    rcases Builder.jumpTo_apply b target w with failed | ⟨open_, _⟩
    · exact failed
    · exact absurd (opened_of_refusal open_) closed
  | thenContinue =>
    rcases Builder.thenContinue_apply b w with failed | ⟨_, opened, _⟩
    · exact failed
    · exact absurd opened closed

/-- Once a builder has ended, jumped or returned it is closed. -/
theorem closed_run (known : b < w.builders.size) (c : Extension) (done : (c.run b w).1 = .ok ())
    (closes : c.closes = true) : ((c.run b w).2.builder b).status ≠ .opened := by
  cases c with
  | append a label id =>
    rcases Builder.append_apply b a label id w with
      ⟨e, failed⟩ | ⟨d, n, g, drafted, _, _, appended⟩
    · rw [run, failed] at done
      cases done
    · have ends : d.kind.isTerminal = true := by rwa [Action.draft_kind drafted]
      let w₀ := w.withNode (g.modifyNode n.serial (complete d)) n.id
      have known₀ : b < w₀.builders.size := known
      have placed : (w.placeNew b d n g).builders = _ :=
        (congrArg Workspace.builders (place_eq known₀ n.handle d.kind)).trans
          (w₀.builders_leave b n.handle.id _ _)
      rw [run, appended]
      simp only
      rw [builder_set known₀ placed, if_pos rfl]
      simp [ends]
  | appendBranching a label id => cases closes
  | jumpTo target =>
    rcases Builder.jumpTo_apply b target w with ⟨e, failed⟩ | ⟨_, jumped⟩
    · rw [run, failed] at done
      cases done
    · rw [run, jumped, jumped_eq known,
        builder_set known (w.builders_leave b target.display [] _), if_pos rfl]
      exact nofun
  | thenContinue =>
    rcases Builder.thenContinue_apply b w with ⟨e, failed⟩ | ⟨join, _, _, returned⟩
    · rw [run, failed] at done
      cases done
    · have linked := (w.relinked_link (w.joins.forward (w.builder b).cursor join)).builders
      have builders : (w.continued b join).builders = w.builders.setIfInBounds b _ :=
        congrArg (Array.setIfInBounds · b _) linked
      rw [run, returned, builder_set known builders, if_pos rfl]
      exact nofun

/-! ### Extensions are moves -/

theorem moves_run (known : b < w.builders.size) (free : Free loops b) (c : Extension) :
    Moves loops w (c.run b w).2 := by
  cases c with
  | append a label id => exact moves_append known free a label id
  | appendBranching a label id => exact moves_appendBranching known free a label id
  | jumpTo target => exact moves_jumpTo known free target
  | thenContinue => exact moves_thenContinue known free

theorem tracked_run (tracked : w.Tracked loops) (c : Extension) :
    (c.run b w).2.Tracked loops := by
  cases c with
  | append a label id => exact tracked.append a label id
  | appendBranching a label id => exact tracked.appendBranching a label id
  | jumpTo target => exact tracked.jumpTo b target
  | thenContinue => exact tracked.thenContinue b

end Extension

namespace Workspace

variable {w w' : Workspace} {loops loops' : List OpenLoop} {jumps : List String} {b : Nat}

/-! ### What is called afterwards -/

/-- One more call on a flow in which the bodies of some loops are open. -/
inductive Call (w : Workspace) (loops : List OpenLoop) : Workspace → List OpenLoop → Prop
  | extend {b : Nat} (known : b < w.builders.size) (c : Extension) :
      Call w loops (c.run b w).2 loops
  | openBranch {i : Nat} (known : i < w.sets.size) (branch : Branch) :
      Call w loops (Builder.openBranch i branch w).2 loops
  | openHandler {b : Nat} (known : b < w.builders.size) (name : ErrorName) :
      Call w loops (Builder.openHandler b name w).2 loops
  | openLoop {w' : Workspace} {b : Nat} (known : b < w.builders.size) {times label id : Value}
      {node : Handle} {o : OpenBranch}
      (opened : Builder.openLoop b times label id w = (.ok (node, o), w')) :
      Call w loops w' (⟨b, node, o, false⟩ :: loops)
  | closeLoop {l : OpenLoop} (among : l ∈ loops) :
      Call w loops (Builder.closeLoop l.builder l.node l.body w).2 (loops.erase l)

/-- Any number of calls, one after the other. -/
inductive Further (w : Workspace) (loops : List OpenLoop) : Workspace → List OpenLoop → Prop
  | none : Further w loops w loops
  | more {w' w'' : Workspace} {loops' loops'' : List OpenLoop} (further : Further w loops w' loops')
      (call : Call w' loops' w'' loops'') : Further w loops w'' loops''

/-- The flow is in order, each of its builders stands somewhere, and the loops are theirs. -/
structure Grounded (w : Workspace) (loops : List OpenLoop) : Prop where
  tracked : w.Tracked loops
  footing : w.Footing
  known : ∀ l ∈ loops, l.builder < w.builders.size

theorem Grounded.further_known (grounded : w.Grounded loops) (lasts : Lasts w w') :
    ∀ l ∈ loops, l.builder < w'.builders.size :=
  fun l among => Nat.lt_of_lt_of_le (grounded.known l among) lasts.builders

theorem Grounded.start {flow : String} (started : Workspace.start flow = .ok w) : w.Grounded [] where
  tracked := (Calls.start started).tracked
  footing := (told_start started).kept.footing
  known := fun _ among => absurd among List.not_mem_nil

/-- A call that neither opens nor closes the body of a loop is made of moves. -/
theorem Grounded.moves (grounded : w.Grounded loops) (moves : Moves [] w w')
    (tracked : w'.Tracked loops) : w'.Grounded loops ∧ Lasts w w' := by
  obtain ⟨footing, lasts⟩ := grounded.footing.moves moves
  exact ⟨⟨tracked, footing, grounded.further_known lasts⟩, lasts⟩

theorem Grounded.extend (grounded : w.Grounded loops) (known : b < w.builders.size) (c : Extension) :
    (c.run b w).2.Grounded loops ∧ Lasts w (c.run b w).2 :=
  grounded.moves (c.moves_run known (free_nil b)) (c.tracked_run grounded.tracked)

theorem Grounded.openLoop (grounded : w.Grounded loops) (known : b < w.builders.size)
    {times label id : Value} {node : Handle} {o : OpenBranch}
    (opened : Builder.openLoop b times label id w = (.ok (node, o), w')) :
    w'.Grounded (⟨b, node, o, false⟩ :: loops) ∧ Lasts w w' := by
  have tracked := grounded.tracked.openLoop opened
  obtain ⟨w₁, appended, rfl, rfl⟩ := Builder.openLoop_ok opened
  have moves : Moves [] w w₁ := by
    have moves := moves_append known (free_nil b) (.loop times) label id
    rwa [appended] at moves
  obtain ⟨⟨n, member, serial, name, _⟩, _⟩ := append_node grounded.tracked.orderly appended
  obtain rfl : n.handle = node := by
    rw [Node.handle, serial, name]
  obtain ⟨footing, lasts⟩ := grounded.footing.moves moves
  obtain ⟨footing', lasts'⟩ := footing.body member
  have lasts := lasts.trans lasts'
  refine ⟨⟨tracked, footing', fun l among => ?_⟩, lasts⟩
  rcases List.mem_cons.1 among with rfl | before
  · exact Nat.lt_of_lt_of_le known lasts.builders
  · exact grounded.further_known lasts l before

theorem Grounded.closeLoop (grounded : w.Grounded loops) {l : OpenLoop} (among : l ∈ loops) :
    (Builder.closeLoop l.builder l.node l.body w).2.Grounded (loops.erase l) ∧
      Lasts w (Builder.closeLoop l.builder l.node l.body w).2 := by
  have known := grounded.known l among
  obtain ⟨n, member, here, _⟩ := grounded.tracked.loops l among
  obtain ⟨footing, lasts⟩ : (Builder.closeLoop l.builder l.node l.body w).2.Footing ∧
      Lasts w (Builder.closeLoop l.builder l.node l.body w).2 := by
    rcases Builder.closeLoop_apply l.builder l.node l.body w with
      ⟨e, failed⟩ | ⟨_, done⟩ | ⟨join, opened, scope, done⟩
    · rw [failed]
      exact ⟨grounded.footing, .refl w⟩
    · rw [done, ← here]
      exact grounded.footing.exit known member
    · have returned : Moves [] w (w.continued l.body.builder join) :=
        (Move.goBack (known_of_scope scope) (free_nil _) opened scope).moves
      obtain ⟨n', member', widened⟩ := (w.widens_continued l.body.builder join).kept member
      obtain ⟨footing, lasts⟩ := grounded.footing.moves returned
      rw [done, ← here, ← widened.serial]
      obtain ⟨footing', lasts'⟩ := footing.exit (Nat.lt_of_lt_of_le known lasts.builders) member'
      exact ⟨footing', lasts.trans lasts'⟩
  exact ⟨⟨grounded.tracked.closeLoop among, footing,
    fun l' still => grounded.further_known lasts l' (List.mem_of_mem_erase still)⟩, lasts⟩

theorem Grounded.call (grounded : w.Grounded loops) (call : Call w loops w' loops') :
    w'.Grounded loops' ∧ Lasts w w' := by
  cases call with
  | extend known c => exact grounded.extend known c
  | openBranch known branch =>
    exact grounded.moves (moves_openBranch grounded.tracked.orderly known branch)
      (grounded.tracked.openBranch known branch)
  | openHandler known name =>
    exact grounded.moves (moves_openHandler known (free_nil _) (grounded.footing.last _) name)
      (grounded.tracked.openHandler _ name)
  | openLoop known opened => exact grounded.openLoop known opened
  | closeLoop among => exact grounded.closeLoop among

theorem Grounded.further (grounded : w.Grounded loops) (further : Further w loops w' loops') :
    w'.Grounded loops' ∧ Lasts w w' := by
  induction further with
  | none => exact ⟨grounded, .refl w⟩
  | more _ call ih =>
    obtain ⟨before, lasts⟩ := ih
    obtain ⟨after, lasts'⟩ := before.call call
    exact ⟨after, lasts.trans lasts'⟩

theorem Calls.grounded (calls : Calls w loops jumps) : w.Grounded loops := by
  induction calls with
  | start started => exact .start started
  | append _ known _ _ label id ih => exact (ih.extend known (.append _ label id)).1
  | appendBranching _ known _ _ label id ih => exact (ih.extend known (.appendBranching _ label id)).1
  | openBranch _ known _ ih => exact (ih.call (.openBranch known _)).1
  | openHandler _ known name ih => exact (ih.call (.openHandler known name)).1
  | openLoop _ known opened ih => exact (ih.openLoop known opened).1
  | closeLoop _ among ih => exact (ih.closeLoop among).1
  | jumpTo _ known target ih => exact (ih.extend known (.jumpTo target)).1
  | thenContinue _ known ih => exact (ih.extend known .thenContinue).1

/-! ### Main result -/

/-- A call on a builder that is refused changes nothing. After one that ends the builder, whatever is
called, the builder refuses everything, and what was there stays. -/
theorem closed_for_good (calls : Calls w loops jumps) (known : b < w.builders.size) (c : Extension) :
    (∀ e, (c.run b w).1 = .error e → e.isForeign = false → (c.run b w).2 = w) ∧
    ((c.run b w).1 = .ok () → c.closes = true →
      ∀ w' loops', Further (c.run b w).2 loops w' loops' →
        (∀ c' : Extension, ∃ e, c'.run b w' = (.error e, w')) ∧ Lasts (c.run b w).2 w') := by
  refine ⟨fun e => c.run_refused, fun done closes w' loops' further => ?_⟩
  obtain ⟨grounded, before⟩ := calls.grounded.extend known c
  obtain ⟨_, lasts⟩ := grounded.further further
  have closed := c.closed_run known done closes
  refine ⟨fun c' => c'.run_closed ?_, lasts⟩
  rw [(lasts.closed b (Nat.lt_of_lt_of_le known before.builders) closed).1]
  exact closed

namespace Hours

/-- A branch for the hours in which the office is open. -/
def branched : Workspace :=
  let w := (Builder.appendBranching 0 (.checkHours (.text "MainHours")) .null .null opening).2
  (Builder.openBranch 0 .inHours w).2

def returned : Workspace := (Extension.thenContinue.run 1 branched).2

def holding : Extension := .append (.hold (.scalar (.int 5))) .null .null

/-- An action in the branch is refused, and the flow ends. -/
def ended : Workspace :=
  ((Extension.append .disconnect .null .null).run 0 (holding.run 1 returned).2).2

theorem calls_branched : Calls branched [] [] := by
  have begun : Calls opening [] [] := .named (by decide +kernel)
  have asked := begun.appendBranching (b := 0) (by decide +kernel)
    (a := .checkHours (.text "MainHours")) (by decide) trivial .null .null
  exact asked.openBranch (i := 0) (by decide +kernel) (c := .inHours) trivial

theorem further_ended : Further returned [] ended [] :=
  .more (.more .none (.extend (b := 1) (by decide +kernel) holding))
    (.extend (b := 0) (by decide +kernel) (.append .disconnect .null .null))

end Hours

/-- The branch that has returned takes nothing more, then and later. -/
theorem closed_after_return :
    (Hours.holding.run 1 Hours.returned).2 = Hours.returned ∧
    (∀ c : Extension, ∃ e, c.run 1 Hours.ended = (.error e, Hours.ended)) ∧
    (Hours.ended.builder 1).status = .closed .continued := by
  have known : 1 < Hours.branched.builders.size := by decide +kernel
  obtain ⟨refused, _⟩ := closed_for_good (Hours.calls_branched.thenContinue known) (b := 1)
    (by decide +kernel) Hours.holding
  obtain ⟨_, final⟩ := closed_for_good Hours.calls_branched known .thenContinue
  obtain ⟨refuses, lasts⟩ := final (by decide +kernel) rfl _ _ Hours.further_ended
  obtain ⟨status, _⟩ := lasts.closed 1 (by decide +kernel) (by decide +kernel)
  have unchanged := refused (.afterClosing "hours" .continued) (by decide +kernel) rfl
  exact ⟨unchanged, refuses, status.trans (by decide +kernel)⟩

end Workspace

end ContactFlow
