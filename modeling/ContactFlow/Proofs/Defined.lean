import ContactFlow.Proofs.Asked
import ContactFlow.Proofs.Keeping
import ContactFlow.Proofs.Operations
import ContactFlow.Proofs.Wiring

/-!
Flows built of definitions. All steps of a definition are appended in one session with the builder:
each list by the builder of the branch that it is nested in, and the body of a loop is closed before
the builder that the loop was appended to goes on.
-/

namespace ContactFlow

namespace Workspace

variable {asks : Action → Prop} {w w' : Workspace} {loops : List OpenLoop}

/-- The builders of the loops that are not closed are there, with those of their bodies. -/
def Knows (w : Workspace) (loops : List OpenLoop) : Prop :=
  ∀ l ∈ loops, l.builder < w.builders.size ∧ l.body.builder < w.builders.size

theorem Knows.keeps (knows : w.Knows loops) (keeps : w.Keeps w') : w'.Knows loops := fun l among =>
  (knows l among).imp (Nat.lt_of_lt_of_le · keeps.builders) (Nat.lt_of_lt_of_le · keeps.builders)

/-- What is built in a session is built with the builder. -/
theorem Session.built_knows (session : Session asks w loops) : w.Built ∧ w.Knows loops := by
  induction session with
  | start started => exact ⟨.start started, nofun⟩
  | append _ known _ _ _ _ label id ih =>
    exact ⟨ih.1.append known _ label id, ih.2.keeps (Builder.keeps_append ..)⟩
  | appendBranching _ known _ _ _ label id ih =>
    exact ⟨ih.1.appendBranching known _ label id, ih.2.keeps (Builder.keeps_appendBranching ..).1⟩
  | openBranch _ known which ih =>
    exact ⟨ih.1.openBranch known which, ih.2.keeps (Builder.opens_openBranch ..).1⟩
  | openHandler _ known _ name ih =>
    exact ⟨ih.1.openHandler known name, ih.2.keeps (Builder.opens_openHandler ..).1⟩
  | @openLoop w w' loops _ b known _ times _ label id node o opened ih =>
    obtain ⟨kept, fresh⟩ := Builder.keeps_openLoop b times label id w
    have built := ih.1.openLoop known times label id
    rw [opened] at kept fresh built
    refine ⟨built, fun l among => ?_⟩
    rcases List.mem_cons.1 among with rfl | before
    · exact ⟨Nat.lt_of_lt_of_le known kept.builders, (fresh node o rfl).2⟩
    · exact ih.2.keeps kept l before
  | @closeLoop w w' loops session l among _ _ closed ih =>
    obtain ⟨built, knows⟩ := ih
    obtain ⟨n, member, serial, loop⟩ := session.fit.open_loops l among
    have found : w.node? l.node.serial = some n :=
      (node?_eq_some session.fit.orderly.tidy session.fit.orderly.attached).2 ⟨member, serial⟩
    have kept := Builder.keeps_closeLoop l.builder l.node l.body w
    -- the loop is closed on the node that it was opened with
    have built := built.closeLoop (knows l among).1 found loop (knows l among).2
    rw [closed] at kept built
    exact ⟨built, fun l' still => knows.keeps kept l' (List.mem_of_mem_erase still)⟩
  | @giveUp _ _ _ l among ih =>
    refine ⟨ih.1, fun l' still => ?_⟩
    rcases List.mem_cons.1 still with rfl | before
    · exact ih.2 l among
    · exact ih.2 l' (List.mem_of_mem_erase before)
  | jumpTo _ known _ target ih =>
    exact ⟨ih.1.jumpTo known target, ih.2.keeps (Builder.keeps_jumpTo ..)⟩
  | thenContinue _ known _ ih =>
    exact ⟨ih.1.thenContinue known, ih.2.keeps (Builder.keeps_thenContinue ..)⟩

theorem Session.built (session : Session asks w loops) : w.Built := session.built_knows.1

/-- No loop was appended by a builder that is still to come. -/
theorem Session.free_of_new (session : Session asks w loops) {b : Nat} (new : w.builders.size ≤ b) :
    Free loops b := fun l among here => by
  have known := (session.built_knows.2 l among).1
  rw [here] at known
  exact absurd known (Nat.not_lt.2 new)

end Workspace

/-! ### Appending steps -/

namespace Step

open Workspace

variable {h : Handlers} {w w' : Workspace} {loops : List OpenLoop} {b s : Nat} {head : Head}
  {frame : Frame} {branches : List (Branch × List Step)} {errors : List (String × List Step)}

/-- A session in which the builder may go on. -/
structure Going (w : Workspace) (loops : List OpenLoop) (b : Nat) : Prop where
  session : Session (fun _ => True) w loops
  known : b < w.builders.size
  free : Free loops b

/-- The session goes on from the first workspace to the second. -/
structure Goes (loops : List OpenLoop) (w w' : Workspace) : Prop where
  session : Session (fun _ => True) w' loops
  keeps : w.Keeps w'

theorem Goes.trans {w'' : Workspace} (first : Goes loops w w') (second : Goes loops w' w'') :
    Goes loops w w'' := ⟨second.session, first.keeps.trans second.keeps⟩

theorem Going.goes (going : Going w loops b) (goes : Goes loops w w') : Going w' loops b :=
  ⟨goes.session, Nat.lt_of_lt_of_le going.known goes.keeps.builders, going.free⟩

/-- The session goes on while the steps are appended. -/
def Appends (h : Handlers) (steps : List Step) : Prop :=
  ∀ {w w' : Workspace} {loops : List OpenLoop} {b : Nat}, Going w loops b →
    appendAll h b steps w = (.ok (), w') → Goes loops w w'

def FillsBranches (h : Handlers) (branches : List (Branch × List Step)) : Prop :=
  ∀ {w w' : Workspace} {loops : List OpenLoop} {s : Nat}, Session (fun _ => True) w loops →
    s < w.sets.size → placeBranches h s branches w = (.ok (), w') → Goes loops w w'

def FillsErrors (h : Handlers) (errors : List (String × List Step)) : Prop :=
  ∀ {w w' : Workspace} {loops : List OpenLoop} {b : Nat}, Going w loops b →
    placeErrors h b errors w = (.ok (), w') → Goes loops w w'

/-- A branch is filled by a builder of its own. -/
theorem goes_of_fill {opened : BuildM UsageError OpenBranch} {steps : List Step}
    (session : Session (fun _ => True) w loops) (opens : Builder.Opens opened w)
    (after : Session (fun _ => True) (opened w).2 loops) (inside : Appends h steps)
    (ran : Builder.fill DefinitionError.usage opened (fun inner => appendAll h inner steps) w =
      (.ok (), w')) : Goes loops w w' := by
  obtain ⟨o, w₁, first, filled⟩ := fill_ok ran
  obtain ⟨keeps, new⟩ := opens
  rw [first] at keeps new after
  obtain ⟨fresh, known⟩ := new o rfl
  have free : Free loops o.builder := session.free_of_new (Nat.le_of_eq fresh.symm)
  have goes := inside ⟨after, known, free⟩ filled
  exact ⟨goes.session, keeps.trans goes.keeps⟩

theorem fillsBranches_cons {which : Branch} {steps : List Step} (inside : Appends h steps)
    (after : FillsBranches h branches) : FillsBranches h ((which, steps) :: branches) := by
  intro w w' loops s session known ran
  obtain ⟨w₁, filled, ran⟩ := placeBranches_cons ran
  have opens := Builder.opens_openBranch s which w
  have first := goes_of_fill session opens (session.openBranch known which) inside filled
  exact first.trans (after first.session (Nat.lt_of_lt_of_le known first.keeps.sets) ran)

theorem fillsErrors_cons {name : String} {steps : List Step} (inside : Appends h steps)
    (after : FillsErrors h errors) : FillsErrors h ((name, steps) :: errors) := by
  intro w w' loops b going ran
  obtain ⟨kind, w₁, _, filled, others⟩ := placeErrors_cons ran
  have opens := Builder.opens_openHandler b (.kind kind) w
  have after' := going.session.openHandler going.known going.free (.kind kind)
  have first := goes_of_fill going.session opens after' inside filled
  exact first.trans (after (going.goes first) others)

/-- The body of a loop is filled and closed before anything else is appended. -/
theorem goes_of_loop {times : Value} {body : List Step} (going : Going w loops b)
    (inside : Appends h body) {label id : Value}
    (ran : Builder.loop DefinitionError.usage b times label id
      (fun inner => appendAll h inner body) w = (.ok (), w')) : Goes loops w w' := by
  obtain ⟨node, o, w₁, w₂, opened, filled, closed⟩ := loop_ok ran
  obtain ⟨keeps, new⟩ := Builder.keeps_openLoop b times label id w
  have closes := Builder.keeps_closeLoop b node o w₂
  rw [opened] at keeps new
  rw [closed] at closes
  obtain ⟨fresh, known⟩ := new node o rfl
  -- the builder of the body is new, so it has appended no loop
  have free : Free (⟨b, node, o, false⟩ :: loops) o.builder := by
    intro l among here
    rcases List.mem_cons.1 among with rfl | before
    · exact absurd (here ▸ going.known) (Nat.not_lt.2 fresh)
    · exact going.session.free_of_new fresh l before here
  have first := going.session.openLoop going.known going.free trivial opened
  have second := inside ⟨first, known, free⟩ filled
  have third := second.session.closeLoop List.mem_cons_self rfl free closed
  rw [List.erase_cons_head] at third
  exact ⟨third, (keeps.trans second.keeps).trans closes⟩

theorem goes_of_action (going : Going w loops b) (inside : FillsBranches h branches)
    (bodies : ∀ e ∈ branches.head?, Appends h e.2)
    (placed : place h b (.action head frame branches errors) w = (.ok (), w')) :
    Goes loops w w' := by
  obtain ⟨a, _, does⟩ := does_of_place placed
  cases does with
  | plain offers other appended =>
    have after := going.session.append going.known going.free (a := a) trivial offers other
      (.orNull frame.label) (.orNull frame.id)
    have keeps := Builder.keeps_append b a (.orNull frame.label) (.orNull frame.id) w
    rw [appended] at after keeps
    exact ⟨after, keeps⟩
  | @branching _ s v offers appended filled =>
    have after := going.session.appendBranching going.known going.free (a := a) trivial offers
      (.orNull frame.label) (.orNull frame.id)
    obtain ⟨keeps, known⟩ :=
      Builder.keeps_appendBranching b a (.orNull frame.label) (.orNull frame.id) w
    rw [appended] at after keeps known
    have goes := inside after (known s rfl).1 filled
    exact ⟨goes.session, keeps.trans goes.keeps⟩
  | @loop times looped =>
    cases branches with
    | nil =>
      rw [placeLoop] at looped
      cases looped
      exact ⟨going.session, .refl w⟩
    | cons first rest =>
      rw [placeLoop] at looped
      exact goes_of_loop going (bodies first rfl) looped

/-- The session goes on while a step is placed. -/
def Places (h : Handlers) (s : Step) : Prop :=
  ∀ {w w₁ w' : Workspace} {loops : List OpenLoop} {b : Nat}, Going w loops b →
    place h b s w = (.ok (), w₁) → placeHandlers h b s w₁ = (.ok (), w') → Goes loops w w'

theorem places_action (inside : FillsBranches h branches) (handlers : FillsErrors h errors)
    (bodies : ∀ e ∈ branches.head?, Appends h e.2) :
    Places h (.action head frame branches errors) := by
  intro w w₁ w' loops b going placed handled
  have first := goes_of_action going inside bodies placed
  rw [placeHandlers] at handled
  exact first.trans (handlers (going.goes first) handled)

theorem places_resume (frame : Frame) : Places h (.resume frame) := by
  intro w w₁ w' loops b going placed handled
  cases handled
  have after := going.session.thenContinue going.known going.free
  have keeps := Builder.keeps_thenContinue b w
  rw [resumed_of_place placed] at after keeps
  exact ⟨after, keeps⟩

theorem places_jump (target : String) (frame : Frame) : Places h (.jump target frame) := by
  intro w w₁ w' loops b going placed handled
  cases handled
  have jumped : Builder.jumpTo b (.text target) w = (.ok (), w₁) := BuildM.mapError_ok placed
  have after := going.session.jumpTo going.known going.free (.text target)
  have keeps := Builder.keeps_jumpTo b (.text target) w
  rw [jumped] at after keeps
  exact ⟨after, keeps⟩

theorem appends_cons {first : Step} {rest : List Step} (places : Places h first)
    (after : Appends h rest) : Appends h (first :: rest) := by
  intro w w' loops b going ran
  obtain ⟨w₁, w₂, placed, handled, appending⟩ := appendAll_cons ran
  have goes := places going placed handled
  exact goes.trans (after (going.goes goes) appending)

mutual

theorem places : (s : Step) → Places h s
  | .action _ _ branches errors =>
    places_action (fillsBranches branches) (fillsErrors errors) (appends_body branches)
  | .resume frame => places_resume frame
  | .jump target frame => places_jump target frame

theorem appends_body : (branches : List (Branch × List Step)) → ∀ e ∈ branches.head?, Appends h e.2
  | [] => fun _ among => nomatch among
  | (_, steps) :: _ => fun _ among => by
    cases among
    exact appends steps

theorem fillsBranches : (branches : List (Branch × List Step)) → FillsBranches h branches
  | [] => fun session _ ran => by
    cases ran
    exact ⟨session, .refl _⟩
  | (_, steps) :: rest => fillsBranches_cons (appends steps) (fillsBranches rest)

theorem fillsErrors : (errors : List (String × List Step)) → FillsErrors h errors
  | [] => fun going ran => by
    cases ran
    exact ⟨going.session, .refl _⟩
  | (_, steps) :: rest => fillsErrors_cons (appends steps) (fillsErrors rest)

theorem appends : (steps : List Step) → Appends h steps
  | [] => fun going ran => by
    cases ran
    exact ⟨going.session, .refl _⟩
  | first :: rest => appends_cons (places first) (appends rest)

end

end Step

/-- A flow that is built of a definition comes of a session with the builder, in which all loops are
closed. -/
theorem FlowDefinition.session_of_build {f : FlowDefinition} {name : String} {w : Workspace}
    (built : f.build name = .ok w) : Workspace.Session (fun _ => True) w [] := by
  obtain ⟨v, started, appended⟩ := f.appended_of_build built
  have one : v.builders.size = 1 := by rw [Workspace.start_eq started]; rfl
  have going : Step.Going v [] 0 :=
    ⟨.start started, Nat.lt_of_lt_of_eq Nat.zero_lt_one one.symm, nofun⟩
  exact (Step.appends f.steps going appended).session

theorem FlowDefinition.built_of_build {f : FlowDefinition} {name : String} {w : Workspace}
    (built : f.build name = .ok w) : w.Built := (session_of_build built).built

end ContactFlow
