import ContactFlow.Proofs.Readings

/-!
What building a flow of a definition fails for. Either the flow misuses the builder, and then the flow
is named; or an action that one of its steps asks for is faulty in itself. A flow without faulty
actions is built, or it is refused under its name.
-/

namespace ContactFlow

/-- A misuse of the builder, which the flow is blamed for. -/
def DefinitionError.IsMisuse : DefinitionError → Prop
  | .usage e => e.Proper
  | .misplacedContinue | .continueOutside | .unknownErrorKind _ => True
  | _ => False

namespace Head

variable {head : Head} {a : Action}

/-- What is wrong with the action that a step asks for, however it is used: stages that do not go
together, values that are in themselves, and numbers that are too long. -/
inductive Faulty : Head → DefinitionError → Prop
  | stages {primary : PrimaryInput} {fallback : Option FallbackInput} {triggers : List String}
      {enableFallback : Bool} {e : SpecError}
      (refused : InputSpec.check { primary, fallback, triggers := Trigger.known triggers,
                                   enableFallback } = .error e) :
      Faulty (.staged primary fallback triggers enableFallback) (.input e)
  | endless {a : Action} (inside : a.values.isEndless = true) : Faulty (.action a) .endless
  | long {head : Head} {a : Action} (resolved : head.resolve = .ok a)
      (long : a.draft = .error .longNumber) : Faulty head (.usage .longNumber)

/-- A head asks for an action unless it is faulty. -/
theorem refuses_resolve (head : Head) : Refuses head.Faulty head.resolve := by
  cases head with
  | action a => exact .ite (fun inside => .error (.endless inside)) fun _ => .ok
  | staged primary fallback triggers enableFallback =>
    unfold resolve
    dsimp only
    split
    · exact .ok
    · rename_i refused
      exact .error (.stages refused)

/-- A faulty head asks for no action, or for one with a number that is too long. -/
theorem faulty_iff {e : DefinitionError} : head.Faulty e ↔ head.resolve = .error e ∨
    e = .usage .longNumber ∧ ∃ a, head.resolve = .ok a ∧ a.draft = .error .longNumber := by
  constructor
  · intro faulty
    cases faulty with
    | stages refused =>
      refine .inl ?_
      unfold resolve
      dsimp only
      rw [refused]
    | endless inside => exact .inl (if_pos inside)
    | long resolved long => exact .inr ⟨rfl, _, resolved, long⟩
  · rintro (refused | ⟨rfl, a, resolved, long⟩)
    · exact head.refuses_resolve e refused
    · exact .long resolved long

/-- Once an action is asked for, it is only faulty for a number in it. -/
theorem faulty_of_resolved (resolved : head.resolve = .ok a) (e : DefinitionError) :
    head.Faulty e ↔ e = .usage .longNumber ∧ a.draft = .error .longNumber := by
  rw [faulty_iff, resolved]
  simp

end Head

/-- An action that is faulty is asked for somewhere in a step. -/
inductive Step.Faulty : Step → DefinitionError → Prop
  | here {head : Head} {e : DefinitionError} (faulty : head.Faulty e) (frame : Frame)
    (branches : List (Branch × List Step)) (errors : List (String × List Step)) :
    Faulty (.action head frame branches errors) e
  | branch {branches : List (Branch × List Step)} {c : Branch × List Step} {s : Step}
    {e : DefinitionError} (among : c ∈ branches) (inside : s ∈ c.2) (faulty : Faulty s e) (head : Head)
    (frame : Frame) (errors : List (String × List Step)) :
    Faulty (.action head frame branches errors) e
  | handler {errors : List (String × List Step)} {c : String × List Step} {s : Step}
    {e : DefinitionError} (among : c ∈ errors) (inside : s ∈ c.2) (faulty : Faulty s e) (head : Head)
    (frame : Frame) (branches : List (Branch × List Step)) :
    Faulty (.action head frame branches errors) e

namespace Step

/-- The faults of the actions among some steps. -/
def Faults (steps : List Step) (e : DefinitionError) : Prop := ∃ s ∈ steps, s.Faulty e

/-- The faults of the actions in nested lists of steps. -/
def NestedFaults {κ : Type} (nested : List (κ × List Step)) (e : DefinitionError) : Prop :=
  ∃ c ∈ nested, Faults c.2 e

theorem faulty_action {head : Head} {frame : Frame} {branches : List (Branch × List Step)}
    {errors : List (String × List Step)} {e : DefinitionError} :
    (Step.action head frame branches errors).Faulty e ↔
      (head.Faulty e ∨ NestedFaults branches e) ∨ NestedFaults errors e := by
  constructor
  · intro faulty
    cases faulty with
    | here faulty => exact .inl (.inl faulty)
    | branch among inside faulty => exact .inl (.inr ⟨_, among, _, inside, faulty⟩)
    | handler among inside faulty => exact .inr ⟨_, among, _, inside, faulty⟩
  · rintro ((faulty | ⟨c, among, s, inside, faulty⟩) | ⟨c, among, s, inside, faulty⟩)
    · exact .here faulty ..
    · exact .branch among inside faulty ..
    · exact .handler among inside faulty ..

theorem nestedFaults_cons {κ : Type} {c : κ × List Step} {rest : List (κ × List Step)}
    {e : DefinitionError} :
    NestedFaults (c :: rest) e ↔ Faults c.2 e ∨ NestedFaults rest e := List.exists_mem_cons_iff ..

theorem faults_cons {s : Step} {rest : List Step} {e : DefinitionError} :
    Faults (s :: rest) e ↔ s.Faulty e ∨ Faults rest e := List.exists_mem_cons_iff ..

end Step

namespace BuildM

variable {α β : Type} {F G : DefinitionError → Prop} {w : Workspace}

/-- A step of construction that fails only for a misuse or for one of some faults, and that never
comes through when there is a fault. -/
structure Judges (F : DefinitionError → Prop) (x : BuildM DefinitionError α) (w : Workspace) : Prop where
  fails : x.Fails (fun e => e.IsMisuse ∨ F e) w
  clean : ∀ a w', x w = (.ok a, w') → ∀ e, ¬ F e

namespace Judges

theorem congr {x : BuildM DefinitionError α} (judges : Judges F x w) (same : ∀ e, G e ↔ F e) :
    Judges G x w where
  fails := judges.fails.mono fun e => Or.imp_right (same e).2
  clean := fun a w' ran e fault => judges.clean a w' ran e ((same e).1 fault)

theorem of_misuse {x : BuildM DefinitionError α} (fails : x.Fails DefinitionError.IsMisuse w) :
    Judges (fun _ => False) x w where
  fails := fails.mono fun _ => .inl
  clean := fun _ _ _ _ fault => fault

theorem pure {a : α} : Judges (fun _ => False) (Pure.pure a : BuildM DefinitionError α) w :=
  .of_misuse (.of_ok rfl)

theorem bind {x : BuildM DefinitionError α} {f : α → BuildM DefinitionError β}
    (first : Judges F x w) (rest : ∀ a w₁, x w = (.ok a, w₁) → Judges G (f a) w₁) :
    Judges (fun e => F e ∨ G e) (x >>= f) w where
  fails := .bind (first.fails.mono fun _ => Or.imp_right .inl) fun a w₁ ran =>
    (rest a w₁ ran).fails.mono fun _ => Or.imp_right .inr
  clean := fun b w' came e fault => by
    obtain ⟨a, w₁, ran, came⟩ := bind_ok came
    exact fault.elim (first.clean a w₁ ran e) ((rest a w₁ ran).clean b w' came e)

/-- A part that can only be misused is at no fault. -/
theorem after {x : BuildM DefinitionError α} {f : α → BuildM DefinitionError β}
    (first : x.Fails DefinitionError.IsMisuse w)
    (rest : ∀ a w₁, x w = (.ok a, w₁) → Judges G (f a) w₁) : Judges G (x >>= f) w :=
  ((of_misuse first).bind rest).congr fun _ => (false_or _).symm.to_iff

theorem before {x : BuildM DefinitionError α} {f : α → BuildM DefinitionError β}
    (first : Judges F x w)
    (rest : ∀ a w₁, x w = (.ok a, w₁) → (f a).Fails DefinitionError.IsMisuse w₁) :
    Judges F (x >>= f) w :=
  (first.bind fun a w₁ ran => of_misuse (rest a w₁ ran)).congr fun _ => (or_false _).symm.to_iff

end Judges

end BuildM

theorem Workspace.scope_withCondition (w : Workspace) (node : Nat) (guard : Guard) (join : Nat) :
    ((w.withCondition node guard join).builder w.builders.size).scope = .branch (some join) := by
  simp [withCondition, addCondition, openBuilder, freshJoin, modifyNode, builder]

namespace Builder

open BuildM

variable {a : Action} {w : Workspace}

/-- Whatever the builder is misused for, the flow is blamed. -/
theorem fails_misuse {α : Type} {x : BuildM UsageError α} (fails : x.Fails UsageError.Proper w) :
    (x.mapError DefinitionError.usage).Fails DefinitionError.IsMisuse w :=
  .mapError (fails.mono fun _ proper => proper)

/-- The fault of an action that was asked for. -/
def Long (a : Action) (e : DefinitionError) : Prop :=
  e = .usage .longNumber ∧ a.draft = .error .longNumber

theorem judges_of_unappendable {α : Type} {x : BuildM UsageError α}
    (fails : x.Fails (Unappendable a) w) (drafted : ∀ r w', x w = (.ok r, w') → ∃ d, a.draft = .ok d) :
    Judges (Long a) (x.mapError .usage) w where
  fails := .mapError (fails.mono fun e refused => refused.imp id fun ⟨long, drafting⟩ =>
    ⟨congrArg _ long, drafting⟩)
  clean := fun r w' ran e ⟨_, long⟩ => by
    obtain ⟨d, done⟩ := drafted r w' (mapError_ok ran)
    cases long.symm.trans done

theorem drafted_of_append {b : Nat} {label id : Value} {node : Handle} {w' : Workspace}
    (appended : append b a label id w = (.ok node, w')) : ∃ d, a.draft = .ok d := by
  obtain ⟨d, _, _, _, drafted, _⟩ := append_ok appended
  exact ⟨d, drafted⟩

theorem judges_append (sensible : a.Sensible) (b : Nat) (label id : Option String)
    (w : Workspace) :
    Judges (Long a) ((append b a (.orNull label) (.orNull id)).mapError .usage) w :=
  judges_of_unappendable (fails_append sensible b label id w) fun _ _ => drafted_of_append

theorem judges_appendBranching (sensible : a.Sensible) (b : Nat) (label id : Option String)
    (w : Workspace) :
    Judges (Long a) ((appendBranching b a (.orNull label) (.orNull id)).mapError .usage) w :=
  judges_of_unappendable (fails_appendBranching sensible b label id w) fun _ _ ran => by
    obtain ⟨_, _, appended, _⟩ := bind_ok ran
    exact drafted_of_append appended

theorem judges_openLoop {times : Value} (sensible : (Action.loop times).Sensible) (b : Nat)
    (label id : Option String) (w : Workspace) :
    Judges (Long (.loop times))
      ((openLoop b times (.orNull label) (.orNull id)).mapError .usage) w :=
  judges_of_unappendable (fails_openLoop sensible b label id w) fun _ _ ran => by
    obtain ⟨_, _, appended, _⟩ := bind_ok ran
    exact drafted_of_append appended

/-- The builder of a loop's body can return to the loop. -/
theorem scope_openLoop {b : Nat} {times label id : Value} {node : Handle} {o : OpenBranch}
    {w' : Workspace} (opened : openLoop b times label id w = (.ok (node, o), w')) :
    ∃ join, (w'.builder o.builder).scope = .branch join := by
  obtain ⟨w₁, _, rfl, rfl⟩ := openLoop_ok opened
  have same : ((w₁.freshJoin []).2.resolve w₁.joins.size node.id).builders = w₁.builders :=
    (Workspace.relinked_link (w₁.freshJoin []).2 _).builders
  refine ⟨some w₁.joins.size, ?_⟩
  rw [← same]
  exact Workspace.scope_withCondition ..

end Builder

namespace BuildM

theorem bind_assoc {ε α β γ : Type} (x : BuildM ε α) (f : α → BuildM ε β) (g : β → BuildM ε γ) :
    x >>= f >>= g = x >>= fun a => f a >>= g := by
  funext w
  simp only [bind_apply]
  cases x w with
  | mk result w₁ => cases result <;> rfl

end BuildM

namespace Step

open BuildM

variable {b : Nat} {w : Workspace} {F : DefinitionError → Prop}

theorem judges_fill {opened : BuildM UsageError OpenBranch} {handler : Nat → Building Unit}
    (opens : opened.Fails UsageError.Proper w) (filled : ∀ inner w, Judges F (handler inner) w) :
    Judges F (Builder.fill DefinitionError.usage opened handler) w :=
  .after (Builder.fails_misuse opens) fun o w₁ _ => .before (filled o.builder w₁) fun _ w₂ _ =>
    Builder.fails_misuse (Builder.fails_closeBranch o w₂)

theorem judges_loop {times : Value} {label id : Option String} {body : Nat → Building Unit}
    (sensible : (Action.loop times).Sensible) (filled : ∀ inner w, Judges F (body inner) w)
    (keeping : ∀ inner, Keeping (body inner)) :
    Judges (fun e => Builder.Long (.loop times) e ∨ F e)
      (Builder.loop DefinitionError.usage b times (.orNull label) (.orNull id) body) w := by
  refine (Builder.judges_openLoop sensible b label id w).bind fun (node, o) w₁ opened => ?_
  refine .before (filled o.builder w₁) fun _ w₂ ran => Builder.fails_misuse ?_
  have opened := mapError_ok opened
  have known := (Builder.keeps_openLoop b times (.orNull label) (.orNull id) w).2 node o
  rw [opened] at known
  obtain ⟨join, scope⟩ := Builder.scope_openLoop opened
  have kept := (keeping o.builder w₁).scope o.builder (known rfl).2
  rw [ran] at kept
  exact Builder.fails_closeLoop (kept.trans scope)

/-- The steps are judged by the faults of the actions among them, wherever they are appended. -/
def Judged (steps : List Step) : Prop := ∀ b w, Judges (Faults steps) (appendAll {} b steps) w

theorem judges_placeBranches {set : Nat} {branches : List (Branch × List Step)}
    (judged : ∀ c ∈ branches, Judged c.2) (known : set < w.sets.size)
    (fits : ∀ c ∈ branches, c.1.Fits (w.branches set).offer) :
    Judges (NestedFaults branches) (placeBranches {} set branches) w := by
  induction branches generalizing w with
  | nil =>
    rw [placeBranches]
    exact Judges.pure.congr fun _ => by simp [NestedFaults]
  | cons c rest ih =>
    obtain ⟨which, steps⟩ := c
    obtain ⟨first, others⟩ := List.forall_mem_cons.1 judged
    obtain ⟨offered, more⟩ := List.forall_mem_cons.1 fits
    rw [placeBranches]
    refine Judges.congr (.bind (judges_fill (Builder.fails_openBranch offered) first)
      fun _ w₁ ran => ?_) fun _ => nestedFaults_cons
    have filled (inner : Nat) : Keeping (appendAll {} inner steps) := keeping_appendAll inner steps
    have kept := keeping_branch set which filled w
    rw [ran] at kept
    exact ih others (Nat.lt_of_lt_of_le known kept.sets)
      fun c among => (more c among).stays (kept.offer set known)

theorem judges_placeErrors {errors : List (String × List Step)}
    (judged : ∀ c ∈ errors, Judged c.2) (b : Nat) (w : Workspace) :
    Judges (NestedFaults errors) (placeErrors {} b errors) w := by
  induction errors generalizing w with
  | nil =>
    rw [placeErrors]
    exact Judges.pure.congr fun _ => by simp [NestedFaults]
  | cons c rest ih =>
    obtain ⟨name, steps⟩ := c
    obtain ⟨first, others⟩ := List.forall_mem_cons.1 judged
    rw [placeErrors]
    refine .after (.ofExcept ?_) fun kind w₁ _ => ?_
    · unfold errorKind
      split
      · exact .ok
      · exact .error trivial
    · exact Judges.congr (.bind (judges_fill (Builder.fails_openHandler b kind w₁) first)
        fun _ w₂ _ => ih others w₂) fun _ => nestedFaults_cons

/-- An action that makes sense and offers its branches is only at fault for a number in it, or for
what is nested in it. -/
theorem judges_placeAction {a : Action} {branches : List (Branch × List Step)}
    (sensible : a.Sensible) (allows : a.Allows branches) (judged : ∀ c ∈ branches, Judged c.2)
    (frame : Frame) :
    Judges (fun e => Builder.Long a e ∨ NestedFaults branches e)
      (placeAction {} b frame branches a) w := by
  by_cases loop : a.kind = .loop
  · obtain ⟨times, rfl⟩ := Action.eq_loop loop
    obtain ⟨body, rfl⟩ := allows
    rw [placeAction, placeLoop]
    refine Judges.congr (judges_loop sensible (judged (.body, body) List.mem_cons_self)
      fun inner => keeping_appendAll inner body) fun e => ?_
    simp [NestedFaults]
  have fits : ∀ c ∈ branches, c.1.Fits a.offer := by
    cases a with
    | loop => exact absurd rfl loop
    | _ => exact allows
  rw [placeAction_other loop]
  by_cases offers : a.offer = .nothing
  · rw [if_pos offers]
    have none : branches = [] := List.eq_nil_iff_forall_not_mem.2 fun c among => by
      have fit := fits c among
      rw [offers] at fit
      generalize c.1 = which at fit
      cases fit
    subst none
    refine Judges.congr (.before (Builder.judges_append sensible b _ _ w) fun _ _ _ => .of_ok rfl)
      fun e => ?_
    simp [NestedFaults]
  · rw [if_neg offers]
    refine (Builder.judges_appendBranching sensible b _ _ w).bind fun set w₁ ran => ?_
    have made := (Builder.keeps_appendBranching b a (.orNull frame.label) (.orNull frame.id) w).2 set
    rw [mapError_ok ran] at made
    obtain ⟨known, offer⟩ := made rfl
    exact judges_placeBranches judged known (offer ▸ fits)

theorem fails_resume (b : Nat) (w : Workspace) :
    (resumeFlow b).Fails DefinitionError.IsMisuse w := by
  intro e w' failed
  rw [resumeFlow_apply] at failed
  split at failed
  · cases failed
    trivial
  · rename_i join scope
    exact Builder.fails_misuse (Builder.fails_thenContinue scope) e w' failed

/-- The step is judged by the faults of the actions in it, wherever it is appended. -/
def JudgedAlone (s : Step) : Prop :=
  ∀ b w, Judges s.Faulty (place {} b s >>= fun _ => placeHandlers {} b s) w

theorem judgedAlone_action {head : Head} {branches : List (Branch × List Step)}
    {errors : List (String × List Step)} (suits : head.Suits branches)
    (bodies : ∀ c ∈ branches, Judged c.2) (handled : ∀ c ∈ errors, Judged c.2) (frame : Frame) :
    (Step.action head frame branches errors).JudgedAlone := by
  intro b w
  rw [place_action, placeHandlers]
  refine Judges.congr (.bind (F := fun e => head.Faulty e ∨ NestedFaults branches e) ?_
    fun _ w₁ _ => judges_placeErrors handled b w₁) fun _ => faulty_action
  cases resolved : head.resolve with
  | error e =>
    refine ⟨fun e' w' failed => ?_, fun a w' ran => ?_⟩
    · cases failed
      exact .inr (.inl (head.refuses_resolve e resolved))
    · cases ran
  | ok a =>
    obtain ⟨sensible, allows⟩ := suits a resolved
    exact (judges_placeAction sensible allows bodies frame).congr fun e =>
      or_congr_left (head.faulty_of_resolved resolved e)

theorem judgedAlone_resume (frame : Frame) : (Step.resume frame).JudgedAlone := by
  intro b w
  rw [place, placeHandlers]
  · exact (Judges.after (fails_resume b w) fun _ _ _ => .pure).congr fun e => ⟨nofun, nofun⟩
  · simp

theorem judgedAlone_jump (target : String) (frame : Frame) : (Step.jump target frame).JudgedAlone := by
  intro b w
  rw [place, placeHandlers]
  · exact (Judges.after (Builder.fails_misuse (Builder.fails_jumpTo b target w))
      fun _ _ _ => .pure).congr fun e => ⟨nofun, nofun⟩
  · simp

theorem append_of_long {a : Action} (long : a.draft = .error .longNumber) (b : Nat)
    (label id : Value) (w : Workspace) :
    Builder.append b a label id w = (.error .longNumber, w) := by
  unfold Builder.append
  rw [long]
  rfl

theorem placeAction_of_long {a : Action} {branches : List (Branch × List Step)}
    (allows : a.Allows branches) (long : a.draft = .error .longNumber) (b : Nat) (frame : Frame)
    (w : Workspace) :
    placeAction {} b frame branches a w = (.error (.usage .longNumber), w) := by
  have failed := append_of_long long b (.orNull frame.label) (.orNull frame.id) w
  by_cases loop : a.kind = .loop
  · obtain ⟨times, rfl⟩ := Action.eq_loop loop
    obtain ⟨body, rfl⟩ := allows
    rw [placeAction, placeLoop, Builder.loop, bind_apply, mapError_apply, Builder.openLoop,
      bind_apply, failed]
    rfl
  rw [placeAction_other loop]
  split
  · rw [bind_apply, mapError_apply, failed]
    rfl
  · rw [bind_apply, mapError_apply, Builder.appendBranching, bind_apply, failed]
    rfl

/-- A faulty action is refused where it is come upon. -/
theorem place_of_faulty {head : Head} {branches : List (Branch × List Step)}
    (suits : head.Suits branches) {e : DefinitionError} (faulty : head.Faulty e) (b : Nat)
    (frame : Frame) (errors : List (String × List Step)) (w : Workspace) :
    place {} b (.action head frame branches errors) w = (.error e, w) := by
  rw [place_action, bind_apply, ofExcept_apply]
  rcases Head.faulty_iff.1 faulty with refused | ⟨rfl, a, resolved, long⟩
  · rw [refused]
  · rw [resolved]
    exact placeAction_of_long (suits a resolved).2 long b frame w

/-- Every type of step is handled. -/
theorem accepts (s : Step) : ({} : Handlers).accept s.type.tag s = .ok () := by
  unfold Handlers.accept
  have found : ({} : Handlers).get s.type.tag = .ok s.type := by
    cases s.type <;> rfl
  rw [found, Results.ok_bind, if_pos rfl]
  rfl

/-- Only `resume` can stand in a wrong place. -/
theorem refuses_checkPlace (s : Step) (rest : List Step) :
    Refuses DefinitionError.IsMisuse (checkPlace s rest) := by
  cases s with
  | resume => exact .ite (fun _ => .ok) fun _ => .error trivial
  | _ => exact .ok

theorem judged_of_alone {steps : List Step} (alone : ∀ s ∈ steps, s.JudgedAlone) : Judged steps := by
  induction steps with
  | nil =>
    intro b w
    rw [appendAll]
    exact Judges.pure.congr fun _ => by simp [Faults]
  | cons s rest ih =>
    intro b w
    obtain ⟨first, others⟩ := List.forall_mem_cons.1 alone
    rw [appendAll, accepts]
    refine .after (.ofExcept (refuses_checkPlace s rest)) fun _ w₁ _ => ?_
    refine .after (.ofExcept .ok) fun _ w₂ _ => ?_
    rw [← bind_assoc]
    exact Judges.congr (.bind (first b w₂) fun _ w₃ _ => ih others b w₃) fun _ => faults_cons

theorem judgedAlone_of_sane {s : Step} (sane : s.Sane) : s.JudgedAlone := by
  induction sane with
  | action suits _ _ frame bodies handled =>
    exact judgedAlone_action suits (fun c among => judged_of_alone (bodies c among))
      (fun c among => judged_of_alone (handled c among)) frame
  | resume frame => exact judgedAlone_resume frame
  | jump target frame => exact judgedAlone_jump target frame

/-- Sane steps fail to be appended only for a misuse of the builder, or for the fault of an action
among them; and they do fail when there is such a fault. -/
theorem judged_of_sane {steps : List Step} (sane : AllSane steps) : Judged steps :=
  judged_of_alone fun s among => judgedAlone_of_sane (sane s among)

end Step

/-! ### Flows -/

namespace DefinitionError

theorem ofFlow_of_misuse {e : DefinitionError} (misuse : e.IsMisuse) (name : String) :
    e.ofFlow name = .flow name e := by
  refine if_neg ?_
  cases e with
  | usage u =>
    cases u <;> first | exact Bool.false_ne_true | cases misuse
  | misplacedContinue => exact Bool.false_ne_true
  | continueOutside => exact Bool.false_ne_true
  | unknownErrorKind => exact Bool.false_ne_true
  | _ => cases misuse

end DefinitionError

theorem Head.Faulty.isForeign {head : Head} {e : DefinitionError} (faulty : head.Faulty e) :
    e.isForeign = true := by
  cases faulty <;> rfl

theorem Step.Faulty.isForeign {s : Step} {e : DefinitionError} (faulty : s.Faulty e) :
    e.isForeign = true := by
  induction faulty with
  | here faulty => exact faulty.isForeign
  | branch _ _ _ _ _ _ ih => exact ih
  | handler _ _ _ _ _ _ ih => exact ih

namespace FlowDefinition

variable {f : FlowDefinition} {name : String}

theorem build_blank (blank : Text.blank name = true) :
    f.build name = .error (.usage .emptyFlowName) := by
  unfold build Workspace.start
  rw [if_pos blank]
  rfl

/-- The steps of a flow with a name are appended to an empty workspace. -/
theorem build_named (named : Text.blank name = false) :
    ∃ start, f.build name = match (Step.appendAll {} 0 f.steps start) with
      | (.ok _, w) => .ok w
      | (.error e, _) => .error (e.ofFlow name) := by
  unfold build Workspace.start
  rw [if_neg (by simp [named])]
  exact ⟨_, rfl⟩

/-- A flow that starts with a faulty action is refused for it, and not under its name. -/
theorem build_of_faulty (sane : Step.AllSane f.steps) (named : Text.blank name = false)
    {head : Head} {frame : Frame} {branches : List (Branch × List Step)}
    {errors : List (String × List Step)} {rest : List Step}
    (first : f.steps = .action head frame branches errors :: rest) {e : DefinitionError}
    (faulty : head.Faulty e) : f.build name = .error e := by
  obtain ⟨start, built⟩ := build_named (f := f) named
  rw [first] at built sane
  cases sane _ List.mem_cons_self with
  | action suits =>
    have refused := Step.place_of_faulty suits faulty 0 frame errors start
    have appended : Step.appendAll {} 0 (.action head frame branches errors :: rest) start =
        (.error e, start) := by
      rw [Step.appendAll, Step.accepts]
      simp only [BuildM.bind_apply, BuildM.ofExcept_apply, Step.checkPlace, refused]
    rw [built, appended]
    exact congrArg Except.error (if_pos faulty.isForeign)

/-- A flow with a name is built when no action of it is faulty and the builder is not misused. -/
theorem build_judged (sane : Step.AllSane f.steps) (named : Text.blank name = false) :
    match f.build name with
    | .ok _ => ∀ e, ¬ Step.Faults f.steps e
    | .error e => (∃ cause, cause.IsMisuse ∧ e = .flow name cause) ∨
        e.isForeign = true ∧ Step.Faults f.steps e := by
  obtain ⟨start, built⟩ := build_named (f := f) named
  have judged := Step.judged_of_sane sane 0 start
  rw [built]
  cases ran : Step.appendAll {} 0 f.steps start with
  | mk result w =>
    cases result with
    | ok _ => exact judged.clean _ w ran
    | error e =>
      rcases judged.fails e w ran with misuse | ⟨s, among, faulty⟩
      · exact .inl ⟨e, misuse, DefinitionError.ofFlow_of_misuse misuse name⟩
      · have foreign := faulty.isForeign
        have same : e.ofFlow name = e := if_pos foreign
        dsimp only
        rw [same]
        exact .inr ⟨foreign, s, among, faulty⟩

end FlowDefinition

namespace Definition

/-- What the flows of a definition are refused for. A flow without a name is refused as such. Any
other is built, or it is refused under its name, or for the fault of an action in it; it is not built
when there is such a fault, and a fault that it starts with is what it is refused for. -/
theorem refused_for {v : Value} {d : Definition} (read : Definition.ofValue v = .good d)
    {name : String} {f : FlowDefinition} (among : (name, f) ∈ d.flows) :
    (Text.blank name = true → f.build name = .error (.usage .emptyFlowName)) ∧
    (Text.blank name = false →
      (match f.build name with
      | .ok _ => ∀ e, ¬ Step.Faults f.steps e
      | .error e => (∃ cause, cause.IsMisuse ∧ e = .flow name cause) ∨
          e.isForeign = true ∧ Step.Faults f.steps e) ∧
      ∀ head frame branches errors rest e, f.steps = .action head frame branches errors :: rest →
        head.Faulty e → f.build name = .error e) := by
  have sane := Definition.sane_of_read read among
  refine ⟨FlowDefinition.build_blank, fun named => ⟨FlowDefinition.build_judged sane named, ?_⟩⟩
  intro head frame branches errors rest e first faulty
  exact FlowDefinition.build_of_faulty sane named first faulty

/-- A menu whose fallback is enabled but not there, and a flow whose name is blank. -/
def unfinished : Value := .record [("flows", .record [
  ("Menu", .record [("steps", .list [.record [("type", .text "sequential_input"),
    ("primary", .record [("prompt", .text "Press 1")])]])]),
  (" ", .record [("steps", .list [])])])]

theorem refused_for_unfinished : ∃ d menu blank,
    Definition.ofValue unfinished = .good d ∧ ("Menu", menu) ∈ d.flows ∧ (" ", blank) ∈ d.flows ∧
      menu.build "Menu" = .error (.input .noFallback) ∧
      blank.build " " = .error (.usage .emptyFlowName) := by
  refine ⟨_, _, _, rfl, .head _, .tail _ (.head _), ?_, ?_⟩
  · exact ((Definition.refused_for (v := unfinished) rfl (.head _)).2 rfl).2 _ _ _ _ _ _ rfl
      (.stages rfl)
  · exact (Definition.refused_for (v := unfinished) rfl (.tail _ (.head _))).1 rfl

/-- Flows of a definition that is read are not always built or refused under their names. -/
theorem refused_otherwise : ∃ d menu blank,
    Definition.ofValue unfinished = .good d ∧ ("Menu", menu) ∈ d.flows ∧ (" ", blank) ∈ d.flows ∧
      (∃ e, menu.build "Menu" = .error e ∧ ∀ cause, e ≠ .flow "Menu" cause) ∧
      ∃ e, blank.build " " = .error e ∧ ∀ cause, e ≠ .flow " " cause :=
  ⟨_, _, _, rfl, .head _, .tail _ (.head _), ⟨.input .noFallback, rfl, nofun⟩,
    .usage .emptyFlowName, rfl, nofun⟩

end Definition

end ContactFlow
