import ContactFlow.Proofs.Built
import ContactFlow.Proofs.Operations

/-!
What no operation of the builder takes away: the builders with the places at which they rejoin the
flow, and the sets of branches with what they offer. It stays whether an operation fails or not, and
so it stays while steps are appended, however far they come.
-/

namespace ContactFlow

/-- The same offer. In place of a share that is a number, another one may be given out. -/
inductive Offer.Stays : Offer → Offer → Prop
  | refl (o : Offer) : Stays o o
  | percent {a b : Scalar} (number : a.isNumber → b.isNumber) : Stays (.percent a) (.percent b)

theorem Offer.Stays.trans {o o' o'' : Offer} (first : Stays o o') (second : Stays o' o'') :
    Stays o o'' := by
  cases first with
  | refl => exact second
  | percent number =>
    cases second with
    | refl => exact .percent number
    | percent number' => exact .percent fun given => number' (number given)

namespace BranchSet

variable {s : BranchSet}

/-- The branch that is opened leaves the offer as it is. -/
def Retains (s : BranchSet) (r : Opening × BranchSet) : Prop := s.offer.Stays r.2.offer

theorem isNumber_of_plus {a b c : Scalar} (sum : a.plus? b = some c) : c.isNumber := by
  unfold Scalar.plus? at sum
  split at sum
  · obtain ⟨y, _, rfl⟩ := Option.map_eq_some_iff.1 sum
    rfl
  · obtain ⟨x, _, rfl⟩ := Option.map_eq_some_iff.1 sum
    rfl
  · obtain ⟨m, _, sum⟩ := Option.bind_eq_some_iff.1 sum
    obtain ⟨n, _, sum⟩ := Option.bind_eq_some_iff.1 sum
    cases sum
    rfl

theorem number_withBucket (allocated percent : Scalar) :
    Yields (fun sum => sum.isNumber = true) (withBucket allocated percent) :=
  fun _ given => isNumber_of_plus (plus_of_withBucket given)

theorem retains_opening (s : BranchSet) (which : Branch) : Yields s.Retains (s.opening which) := by
  intro r made
  cases opened_of_opening s which r made with
  | bucket offered granted =>
    rw [Retains, offered]
    exact .percent fun _ => number_withBucket _ _ _ granted
  | _ => exact .refl _

end BranchSet

namespace Workspace

variable {w w' w'' : Workspace} {b : Nat}

/-- No builder and no set of branches is taken away; builders rejoin the flow where they did, and
sets offer what they did. -/
structure Keeps (w w' : Workspace) : Prop where
  builders : w.builders.size ≤ w'.builders.size
  sets : w.sets.size ≤ w'.sets.size
  scope : ∀ b < w.builders.size, (w'.builder b).scope = (w.builder b).scope
  offer : ∀ s < w.sets.size, (w.branches s).offer.Stays (w'.branches s).offer

theorem Keeps.refl (w : Workspace) : w.Keeps w :=
  ⟨Nat.le_refl _, Nat.le_refl _, fun _ _ => rfl, fun _ _ => .refl _⟩

theorem Keeps.trans (first : w.Keeps w') (second : w'.Keeps w'') : w.Keeps w'' where
  builders := Nat.le_trans first.builders second.builders
  sets := Nat.le_trans first.sets second.sets
  scope := fun b known => (second.scope b (Nat.lt_of_lt_of_le known first.builders)).trans
    (first.scope b known)
  offer := fun s known => (first.offer s known).trans
    (second.offer s (Nat.lt_of_lt_of_le known first.sets))

/-- Where builders and sets of branches are the same, nothing was taken away. -/
theorem keeps_of_same (builders : w'.builders = w.builders) (sets : w'.sets = w.sets) :
    w.Keeps w' where
  builders := Nat.le_of_eq (congrArg Array.size builders.symm)
  sets := Nat.le_of_eq (congrArg Array.size sets.symm)
  scope := fun b _ => by rw [builder, builders, builder]
  offer := fun s _ => by rw [branches, branches, sets]; exact .refl _

theorem keeps_link (w : Workspace) (r : Joins Slot × List (Slot × String)) : w.Keeps (w.link r) :=
  keeps_of_same (w.relinked_link r).builders (w.relinked_link r).sets

theorem keeps_setBuilder (w : Workspace) {b : Nat} {x : Builder}
    (scope : x.scope = (w.builder b).scope) : w.Keeps (w.setBuilder b x) where
  builders := by simp [setBuilder]
  sets := Nat.le_refl _
  scope := fun i known => by
    by_cases here : b = i
    · subst here
      rw [← scope]
      simp [builder, setBuilder, known]
    · simp [builder, setBuilder, here]
  offer := fun _ _ => .refl _

theorem keeps_setBranches (w : Workspace) {s : Nat} {x : BranchSet}
    (offer : (w.branches s).offer.Stays x.offer) : w.Keeps (w.setBranches s x) where
  builders := Nat.le_refl _
  sets := by simp [setBranches]
  scope := fun _ _ => rfl
  offer := fun i known => by
    by_cases here : s = i
    · subst here
      have set : (w.setBranches s x).branches s = x := by simp [branches, setBranches, known]
      exact set.symm ▸ offer
    · have kept : (w.setBranches s x).branches i = w.branches i := by
        simp [branches, setBranches, here]
      exact kept.symm ▸ .refl _

theorem keeps_push (w : Workspace) {x : Builder} (builders : w'.builders = w.builders.push x)
    (sets : w'.sets = w.sets) : w.Keeps w' where
  builders := by simp [builders]
  sets := Nat.le_of_eq (congrArg Array.size sets.symm)
  scope := fun i known => by
    unfold builder
    rw [builders, Array.getD_eq_getD_getElem?, Array.getD_eq_getD_getElem?,
      Array.getElem?_push, if_neg (Nat.ne_of_lt known)]
  offer := fun s _ => by rw [branches, branches, sets]; exact .refl _

theorem keeps_moveCursor (w : Workspace) (b : Nat) (waiting : List Slot) :
    w.Keeps (w.moveCursor b waiting) :=
  have fresh : w.Keeps (w.freshJoin waiting).2 := keeps_of_same rfl rfl
  fresh.trans (keeps_setBuilder _ rfl)

theorem keeps_placeNew (w : Workspace) (b : Nat) (d : Draft) (n : Node) (g : Graph) :
    w.Keeps (w.placeNew b d n g) :=
  have added : w.Keeps (w.withNode (g.modifyNode n.serial (complete d)) n.id) :=
    keeps_of_same rfl rfl
  ((added.trans (keeps_link ..)).trans (keeps_moveCursor ..)).trans (keeps_setBuilder _ rfl)

theorem keeps_jumped (w : Workspace) (b : Nat) (target : String) : w.Keeps (w.jumped b target) :=
  ((keeps_link ..).trans (keeps_moveCursor ..)).trans (keeps_setBuilder _ rfl)

theorem keeps_continued (w : Workspace) (b join : Nat) : w.Keeps (w.continued b join) := by
  have linked := w.keeps_link (w.joins.forward (w.builder b).cursor join)
  have same := (w.relinked_link (w.joins.forward (w.builder b).cursor join)).builders
  refine linked.trans (keeps_setBuilder _ ?_)
  rw [builder, builder]
  exact congrArg (fun a => (Array.getD a b default).scope) same.symm

theorem keeps_withExit (w : Workspace) (b node : Nat) : w.Keeps (w.withExit b node) :=
  have added : w.Keeps (w.addCondition node (.equals Builder.doneLooping)).2 :=
    keeps_of_same rfl rfl
  added.trans (keeps_moveCursor ..)

theorem keeps_withCondition (w : Workspace) (node : Nat) (guard : Guard) (join : Nat) :
    w.Keeps (w.withCondition node guard join) := keeps_push w rfl rfl

theorem keeps_withError (w : Workspace) (node : Nat) (kind : ErrorKind) (join : Option Nat) :
    w.Keeps (w.withError node kind join) := keeps_push w rfl rfl

/-- A loop's body has a builder of its own. -/
theorem size_withBody (w : Workspace) (node : Handle) :
    (w.withBody node).builders.size = w.builders.size + 1 := by
  have linked := (w.freshJoin []).2.relinked_link
    ((w.freshJoin []).2.joins.resolve w.joins.size node.id)
  exact (Array.size_push _).trans (congrArg (Array.size · + 1) linked.builders)

theorem keeps_withBody (w : Workspace) (node : Handle) : w.Keeps (w.withBody node) :=
  have fresh : w.Keeps (w.freshJoin []).2 := keeps_of_same rfl rfl
  (fresh.trans (keeps_link _ ((w.freshJoin []).2.joins.resolve w.joins.size node.id))).trans
    (keeps_withCondition ..)

end Workspace

namespace Builder

open Workspace

variable {w w' : Workspace} {b : Nat}

theorem keeps_append (b : Nat) (a : Action) (label id : Value) (w : Workspace) :
    w.Keeps (append b a label id w).2 := by
  rcases append_apply b a label id w with ⟨e, failed⟩ | ⟨d, n, g, _, _, _, done⟩
  · rw [failed]
    exact .refl w
  · rw [done]
    exact keeps_placeNew ..

/-- The branches of an action that was appended get a set of their own. -/
theorem keeps_appendBranching (b : Nat) (a : Action) (label id : Value) (w : Workspace) :
    w.Keeps (appendBranching b a label id w).2 ∧ ∀ s, (appendBranching b a label id w).1 = .ok s →
      s < (appendBranching b a label id w).2.sets.size ∧
        ((appendBranching b a label id w).2.branches s).offer = a.offer := by
  have kept := keeps_append b a label id w
  rw [appendBranching_apply]
  split
  · rename_i node w₁ appended
    rw [appended] at kept
    refine ⟨kept.trans ⟨Nat.le_refl _, ?_, fun _ _ => rfl, fun s known => ?_⟩, fun s made => ?_⟩
    · simp
    · rw [branches, branches, Array.getD_eq_getD_getElem?, Array.getD_eq_getD_getElem?,
        Array.getElem?_push, if_neg (Nat.ne_of_lt known)]
      exact .refl _
    · cases made
      simp [branches]
  · rename_i e w₁ failed
    rw [failed] at kept
    refine ⟨kept, fun s made => ?_⟩
    cases made

/-- Opens a branch with a new builder, unless it fails. -/
def Opens (x : BuildM UsageError OpenBranch) (w : Workspace) : Prop :=
  w.Keeps (x w).2 ∧ ∀ o, (x w).1 = .ok o →
    o.builder = w.builders.size ∧ o.builder < (x w).2.builders.size

theorem opens_openCondition (s : Nat) (guard : Guard) (key : List Scalar) (w : Workspace) :
    Opens (openCondition s guard key) w := by
  unfold Opens
  rcases openCondition_apply s guard key w with ⟨e, failed⟩ | ⟨_, done⟩
  · rw [failed]
    exact ⟨.refl w, nofun⟩
  · rw [done]
    have taken : w.Keeps (w.setBranches s ((w.branches s).take [key])) :=
      keeps_setBranches w (.refl _)
    refine ⟨taken.trans (keeps_withCondition ..), fun o made => ?_⟩
    cases made
    exact ⟨rfl, Nat.lt_of_lt_of_eq (Nat.lt_succ_self _) (Array.size_push _).symm⟩

theorem opens_openError (node : Handle) (join : Option Nat) (kind : ErrorKind) (w : Workspace) :
    Opens (openError node join kind) w := by
  unfold Opens
  rcases openError_apply node join kind w with ⟨e, failed⟩ | ⟨_, done⟩
  · rw [failed]
    exact ⟨.refl w, nofun⟩
  · rw [done]
    refine ⟨keeps_withError .., fun o made => ?_⟩
    cases made
    exact ⟨rfl, Nat.lt_of_lt_of_eq (Nat.lt_succ_self _) (Array.size_push _).symm⟩

theorem opens_openBranch (s : Nat) (which : Branch) (w : Workspace) :
    Opens (openBranch s which) w := by
  rcases openBranch_apply s which w with ⟨e, failed⟩ | ⟨opening, x, offered, done⟩
  · unfold Opens
    rw [failed]
    exact ⟨.refl w, nofun⟩
  · have taken := w.keeps_setBranches (BranchSet.retains_opening _ _ _ offered)
    unfold Opens
    rw [done]
    cases opening with
    | condition guard key =>
      obtain ⟨kept, fresh⟩ := opens_openCondition s guard key (w.setBranches s x)
      exact ⟨taken.trans kept, fresh⟩
    | error kind =>
      obtain ⟨kept, fresh⟩ := opens_openError x.node (some x.join) kind (w.setBranches s x)
      exact ⟨taken.trans kept, fresh⟩

theorem opens_openHandler (b : Nat) (name : ErrorName) (w : Workspace) :
    Opens (openHandler b name) w := by
  unfold Opens
  rcases openHandler_apply b name w with ⟨e, failed⟩ | ⟨node, kind, _, _, done⟩
  · rw [failed]
    exact ⟨.refl w, nofun⟩
  · rw [done]
    exact opens_openError ..

theorem keeps_openLoop (b : Nat) (times label id : Value) (w : Workspace) :
    w.Keeps (openLoop b times label id w).2 ∧ ∀ node o,
      (openLoop b times label id w).1 = .ok (node, o) →
      w.builders.size ≤ o.builder ∧ o.builder < (openLoop b times label id w).2.builders.size := by
  rcases openLoop_apply b times label id w with ⟨e, failed⟩ | ⟨node, w₁, appended, done⟩
  · rw [failed]
    exact ⟨.refl w, nofun⟩
  · have placed := keeps_append b (.loop times) label id w
    rw [appended] at placed
    rw [done]
    refine ⟨placed.trans (keeps_withBody ..), fun node o made => ?_⟩
    cases made
    exact ⟨placed.builders, Nat.lt_of_lt_of_eq (Nat.lt_succ_self _) (size_withBody ..).symm⟩

theorem keeps_closeLoop (b : Nat) (node : Handle) (o : OpenBranch) (w : Workspace) :
    w.Keeps (closeLoop b node o w).2 := by
  rcases closeLoop_apply b node o w with ⟨e, failed⟩ | ⟨_, done⟩ | ⟨join, _, _, done⟩
  · rw [failed]
    exact .refl w
  · rw [done]
    exact keeps_withExit ..
  · rw [done]
    exact (keeps_continued ..).trans (keeps_withExit ..)

theorem keeps_jumpTo (b : Nat) (target : Value) (w : Workspace) : w.Keeps (jumpTo b target w).2 := by
  rcases jumpTo_apply b target w with ⟨e, failed⟩ | ⟨_, done⟩
  · rw [failed]
    exact .refl w
  · rw [done]
    exact keeps_jumped ..

theorem keeps_thenContinue (b : Nat) (w : Workspace) : w.Keeps (thenContinue b w).2 := by
  rcases thenContinue_apply b w with ⟨e, failed⟩ | ⟨join, _, _, done⟩
  · rw [failed]
    exact .refl w
  · rw [done]
    exact keeps_continued ..

theorem keeps_closeBranch (o : OpenBranch) (w : Workspace) : w.Keeps (closeBranch o w).2 := by
  rcases closeBranch_apply o w with ⟨e, failed⟩ | ⟨_, done⟩
  · rw [failed]
    exact .refl w
  · rw [done]
    exact .refl w

end Builder

/-! ### Steps -/

namespace BuildM

variable {ε ε' α β : Type}

/-- Takes nothing away, whatever it comes to. -/
def Keeping (x : BuildM ε α) : Prop := ∀ w : Workspace, w.Keeps (x w).2

theorem Keeping.ofExcept (x : Except ε α) : Keeping (BuildM.ofExcept x) := fun w => by
  rw [ofExcept_apply]
  exact .refl w

theorem Keeping.bind {x : BuildM ε α} {f : α → BuildM ε β} (first : Keeping x)
    (rest : ∀ a, Keeping (f a)) : Keeping (x >>= f) := fun w => by
  have kept := first w
  rw [bind_apply]
  split
  · rename_i a w₁ ran
    rw [ran] at kept
    exact kept.trans (rest a w₁)
  · rename_i e w₁ ran
    rw [ran] at kept
    exact kept

theorem Keeping.mapError {x : BuildM ε α} (keeping : Keeping x) (f : ε → ε') :
    Keeping (x.mapError f) := fun w => by
  rw [mapError_apply]
  exact keeping w

end BuildM

namespace Step

open BuildM

variable {h : Handlers} {b : Nat}

theorem keeping_fill {opened : BuildM UsageError OpenBranch} {handler : Nat → Building Unit}
    (opens : ∀ w, Builder.Opens opened w) (filled : ∀ inner, Keeping (handler inner)) :
    Keeping (Builder.fill DefinitionError.usage opened handler) :=
  .bind (Keeping.mapError (fun w => (opens w).1) _) fun o =>
    .bind (filled o.builder) fun _ => Keeping.mapError (Builder.keeps_closeBranch o) _

theorem keeping_loop {times label id : Value} {body : Nat → Building Unit}
    (filled : ∀ inner, Keeping (body inner)) :
    Keeping (Builder.loop DefinitionError.usage b times label id body) :=
  .bind (Keeping.mapError (fun w => (Builder.keeps_openLoop b times label id w).1) _) fun (node, o) =>
    .bind (filled o.builder) fun _ => Keeping.mapError (Builder.keeps_closeLoop b node o) _

theorem keeping_resume : Keeping (resumeFlow b) := fun w => by
  rw [resumeFlow_apply]
  split
  · exact .refl w
  · exact Keeping.mapError (Builder.keeps_thenContinue b) _ w

theorem keeping_branch (set : Nat) (which : Branch) {handler : Nat → Building Unit}
    (filled : ∀ inner, Keeping (handler inner)) :
    Keeping (Builder.branch DefinitionError.usage set which handler) :=
  keeping_fill (Builder.opens_openBranch set which) filled

theorem keeping_onError {name : ErrorName} {handler : Nat → Building Unit}
    (filled : ∀ inner, Keeping (handler inner)) :
    Keeping (Builder.onError DefinitionError.usage b name handler) :=
  keeping_fill (Builder.opens_openHandler b name) filled

theorem keeping_placeAction {a : Action} {frame : Frame} {branches : List (Branch × List Step)}
    (loops : ∀ times, Keeping (placeLoop h b times frame branches))
    (filled : ∀ set, Keeping (placeBranches h set branches)) :
    Keeping (placeAction h b frame branches a) := by
  by_cases loop : a.kind = .loop
  · obtain ⟨times, rfl⟩ := Action.eq_loop loop
    exact loops times
  · rw [placeAction_other loop]
    split
    · exact .bind (Keeping.mapError (Builder.keeps_append b a _ _) _) fun _ w => .refl w
    · exact .bind (Keeping.mapError (fun w => (Builder.keeps_appendBranching b a _ _ w).1) _) filled

mutual

theorem keeping_place (b : Nat) : (s : Step) → Keeping (place h b s)
  | .resume _ => by
    rw [place]
    exact keeping_resume
  | .jump target _ => by
    rw [place]
    exact Keeping.mapError (Builder.keeps_jumpTo b _) _
  | .action head frame branches _ => by
    rw [place_action]
    exact .bind (.ofExcept _) fun a =>
      keeping_placeAction (fun times => keeping_placeLoop b times frame branches) fun set =>
        keeping_placeBranches set branches

theorem keeping_placeLoop (b : Nat) (times : Value) (frame : Frame) :
    (branches : List (Branch × List Step)) → Keeping (placeLoop h b times frame branches)
  | [] => fun w => by
    rw [placeLoop]
    exact .refl w
  | (_, body) :: _ => by
    rw [placeLoop]
    exact keeping_loop fun inner => keeping_appendAll inner body

theorem keeping_placeBranches (set : Nat) :
    (branches : List (Branch × List Step)) → Keeping (placeBranches h set branches)
  | [] => fun w => by
    rw [placeBranches]
    exact .refl w
  | (which, steps) :: rest => by
    rw [placeBranches]
    exact .bind (keeping_branch set which fun inner => keeping_appendAll inner steps) fun _ =>
      keeping_placeBranches set rest

theorem keeping_placeErrors (b : Nat) :
    (errors : List (String × List Step)) → Keeping (placeErrors h b errors)
  | [] => fun w => by
    rw [placeErrors]
    exact .refl w
  | (_, steps) :: rest => by
    rw [placeErrors]
    exact .bind (.ofExcept _) fun kind => .bind (keeping_onError fun inner =>
      keeping_appendAll inner steps) fun _ => keeping_placeErrors b rest

theorem keeping_placeHandlers (b : Nat) : (s : Step) → Keeping (placeHandlers h b s)
  | .resume _ => fun w => by
    rw [placeHandlers]
    · exact .refl w
    · simp
  | .jump .. => fun w => by
    rw [placeHandlers]
    · exact .refl w
    · simp
  | .action _ _ _ errors => by
    rw [placeHandlers]
    exact keeping_placeErrors b errors

/-- Appending steps takes nothing away, however far it comes. -/
theorem keeping_appendAll (b : Nat) : (steps : List Step) → Keeping (appendAll h b steps)
  | [] => fun w => by
    rw [appendAll]
    exact .refl w
  | s :: rest => by
    rw [appendAll]
    exact .bind (.ofExcept _) fun _ => .bind (.ofExcept _) fun _ => .bind (keeping_place b s)
      fun _ => .bind (keeping_placeHandlers b s) fun _ => keeping_appendAll b rest

end

end Step

end ContactFlow
