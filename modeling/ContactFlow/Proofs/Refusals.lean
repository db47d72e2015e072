import ContactFlow.Proofs.Keeping

/-!
What the operations of the builder refuse. An operation that is given texts, whole numbers and branches
that its node offers refuses only what is wrong with the flow; beyond that it may come upon a number
that is too long to be written.
-/

namespace ContactFlow

/-- Whatever error a computation comes to has a property. -/
def Refuses {ε α : Type} (Q : ε → Prop) (x : Except ε α) : Prop := ∀ e, x = .error e → Q e

namespace Refuses

variable {ε ε' α β : Type} {Q Q' : ε → Prop}

theorem ok {a : α} : Refuses Q (.ok a : Except ε α) := fun _ same => by cases same

theorem error {e : ε} (holds : Q e) : Refuses Q (.error e : Except ε α) := fun _ same => by
  cases same
  exact holds

theorem bind {x : Except ε β} {f : β → Except ε α} (first : Refuses Q x)
    (rest : ∀ b, x = .ok b → Refuses Q (f b)) : Refuses Q (x >>= f) := by
  cases ran : x with
  | error e =>
    intro e' same
    cases same
    exact first e ran
  | ok b => exact rest b ran

theorem map {x : Except ε β} {f : β → α} (first : Refuses Q x) : Refuses Q (x.map f) := by
  cases ran : x with
  | error e =>
    intro e' same
    cases same
    exact first e ran
  | ok b => exact .ok

theorem mapError {x : Except ε' α} {f : ε' → ε} (first : Refuses (Q ∘ f) x) :
    Refuses Q (x.mapError f) := by
  cases ran : x with
  | error e =>
    intro e' same
    cases same
    exact first e ran
  | ok b => exact .ok

theorem ite {c : Prop} [Decidable c] {x y : Except ε α} (first : c → Refuses Q x)
    (second : ¬ c → Refuses Q y) : Refuses Q (if c then x else y) := by
  split
  · exact first ‹_›
  · exact second ‹_›

theorem mono {x : Except ε α} (refuses : Refuses Q x) (weaker : ∀ e, Q e → Q' e) : Refuses Q' x :=
  fun e failed => weaker e (refuses e failed)

end Refuses

namespace BuildM

variable {ε ε' α β : Type} {Q Q' : ε → Prop} {w : Workspace}

/-- Whatever error a step of construction comes to has a property. -/
def Fails (Q : ε → Prop) (x : BuildM ε α) (w : Workspace) : Prop :=
  ∀ e w', x w = (.error e, w') → Q e

/-- What comes through does not fail. -/
theorem Fails.of_ok {x : BuildM ε α} {a : α} {w' : Workspace} (came : x w = (.ok a, w')) :
    x.Fails Q w := fun e w'' failed => by cases came.symm.trans failed

theorem Fails.ofExcept {x : Except ε α} (refuses : Refuses Q x) : (BuildM.ofExcept x).Fails Q w := by
  intro e w' failed
  rw [ofExcept_apply, Prod.mk.injEq] at failed
  exact refuses e failed.1

theorem Fails.bind {x : BuildM ε α} {f : α → BuildM ε β} (first : x.Fails Q w)
    (rest : ∀ a w₁, x w = (.ok a, w₁) → (f a).Fails Q w₁) : (x >>= f).Fails Q w := by
  intro e w' failed
  rw [bind_apply] at failed
  split at failed
  · rename_i a w₁ ran
    exact rest a w₁ ran e w' failed
  · rename_i e' w₁ ran
    cases failed
    exact first e w' ran

theorem Fails.mapError {x : BuildM ε' α} {f : ε' → ε} (first : x.Fails (Q ∘ f) w) :
    (x.mapError f).Fails Q w := by
  intro e w' failed
  rw [mapError_apply, Prod.mk.injEq] at failed
  have refuses : Refuses (Q ∘ f) (x w).1 := fun e same => first e (x w).2 (Prod.ext same rfl)
  exact refuses.mapError e failed.1

theorem Fails.mono {x : BuildM ε α} (fails : x.Fails Q w) (weaker : ∀ e, Q e → Q' e) :
    x.Fails Q' w := fun e w' failed => weaker e (fails e w' failed)

end BuildM

/-- A misuse of the flow, and not of the arguments of an operation. -/
def UsageError.Proper (e : UsageError) : Prop := e.isForeign = false

/-- The branch is one of those that are offered, and is chosen by values that can be compared. -/
inductive Branch.Fits : Branch → Offer → Prop
  | digits (digits : String) (modes : List InputMode) : Fits (.digits (.text digits)) (.input modes)
  | intent (intent : String) (modes : List InputMode) : Fits (.intent (.text intent)) (.input modes)
  | input (digits intent : Option String) (modes : List InputMode) :
    Fits (.input (.orNull digits) (.orNull intent)) (.input modes)
  | timeout (modes : List InputMode) : Fits .timeout (.input modes)
  | noMatch (modes : List InputMode) : Fits .noMatch (.input modes)
  | invalidInput (modes : List InputMode) : Fits .invalidInput (.input modes)
  | lowConfidence (modes : List InputMode) : Fits .lowConfidence (.input modes)
  | error (modes : List InputMode) : Fits .error (.input modes)
  | compare (operator operand : String) :
    Fits (.compare (.text operator) (.text operand)) .comparison
  | otherwise : Fits .otherwise .comparison
  | inHours : Fits .inHours .hours
  | outOfHours : Fits .outOfHours .hours
  | staffed : Fits .staffed .staffing
  | notStaffed : Fits .notStaffed .staffing
  | bucket (percent : Int) {allocated : Scalar} (number : allocated.isNumber) :
    Fits (.bucket (.int percent)) (.percent allocated)
  | rest {allocated : Scalar} : Fits .otherwise (.percent allocated)

theorem Branch.Fits.stays {which : Branch} {o o' : Offer} (fits : which.Fits o)
    (stays : o.Stays o') : which.Fits o' := by
  cases stays with
  | refl => exact fits
  | percent number =>
    cases fits with
    | bucket percent given => exact .bucket percent (number given)
    | rest => exact .rest

namespace BranchSet

variable {s : BranchSet}

theorem refuses_require (modes : List InputMode) (mode : InputMode) (call : String) :
    Refuses UsageError.Proper (s.require modes mode call) := .ite (fun _ => .ok) fun _ => .error rfl

theorem refuses_entered (v : Option String) : Refuses UsageError.Proper (entered (.orNull v)) := by
  cases v <;> exact .ok

theorem refuses_input (modes : List InputMode) (digits intent : Option String) :
    Refuses UsageError.Proper (s.openInput modes (.orNull digits) (.orNull intent)) := by
  unfold openInput
  refine .ite (fun _ => .error rfl) fun _ => ?_
  dsimp only
  split
  -- Whatever is required, the same branch is entered in the end.
  on_goal 1 => refine .bind (refuses_require _ _ _) fun _ _ => .ite (fun _ => ?_) fun _ => ?_
  on_goal 1 => refine .bind (refuses_require _ _ _) fun _ _ => ?_
  on_goal 3 => refine .ite (fun _ => .bind (refuses_require _ _ _) fun _ _ => ?_) fun _ => ?_
  all_goals
    refine .bind (refuses_entered _) fun d _ => .bind (refuses_entered _) fun i _ => ?_
    split
    · exact .error rfl
    · exact .ok

theorem refuses_comparison (operator operand : String) :
    Refuses UsageError.Proper (s.openComparison (.text operator) (.text operand)) := by
  refine .bind .ok fun _ _ => .bind ?_ fun name _ => .bind .ok fun operand _ => .ok
  cases ((Value.text operator).text?.filter comparisonOperators.contains) with
  | none => exact .error rfl
  | some name => exact .ok

theorem plus_number {a : Scalar} (number : a.isNumber) (n : Int) : ∃ c, a.plus? (.int n) = some c := by
  cases a <;> first | exact ⟨_, rfl⟩ | cases number

theorem left_number {a : Scalar} (number : a.isNumber) :
    ∃ c, a.negate?.bind (Scalar.int 100).plus? = some c := by
  cases a <;> first | exact ⟨_, rfl⟩ | cases number

theorem refuses_bucket {allocated : Scalar} (number : allocated.isNumber) (percent : Int) :
    Refuses UsageError.Proper (s.openBucket allocated (.int percent)) := by
  obtain ⟨sum, added⟩ := plus_number number percent
  obtain ⟨left, less⟩ := left_number number
  refine .bind ?_ fun _ _ => .ok
  unfold withBucket
  rw [added, less]
  refine .bind ?_ fun small _ => .bind .ok fun _ _ => .bind .ok fun _ _ =>
    .ite (fun _ => .error rfl) fun _ => .ok
  exact .ok

/-- A branch that is offered is refused only for what is wrong with the flow. -/
theorem refuses_opening {which : Branch} (fits : which.Fits s.offer) :
    Refuses UsageError.Proper (s.opening which) := by
  generalize offered : s.offer = offer at fits
  unfold opening
  rw [offered]
  cases fits with
  | digits => exact .bind (refuses_require _ _ _) fun _ _ => .bind .ok fun _ _ => .ok
  | intent => exact .bind (refuses_require _ _ _) fun _ _ => .bind .ok fun _ _ => .ok
  | input => exact refuses_input _ _ _
  | lowConfidence => exact .bind (refuses_require _ _ _) fun _ _ => .ok
  | compare => exact refuses_comparison _ _
  | bucket percent number => exact refuses_bucket number percent
  | _ => exact .ok

end BranchSet

/-- Whatever the arguments of the action are, the node that it asks for is only refused for what is
wrong with them, or for a number that is too long; and its retries make sense. -/
structure Action.Sensible (a : Action) : Prop where
  draft : Refuses (fun e => e.Proper ∨ e = .longNumber) a.draft
  retry : Yields (fun d => ∃ r, d.retry = .good r) a.draft

namespace Builder

open BuildM

variable {w : Workspace} {b : Nat}

theorem fails_ensureOpen (b : Nat) (w : Workspace) : (ensureOpen b).Fails UsageError.Proper w := by
  intro e w' failed
  rw [ensureOpen_apply] at failed
  split at failed
  · rename_i refused
    cases failed
    unfold Workspace.refusal? at refused
    split at refused
    · cases refused
    · cases refused
      rfl
    · cases refused
      rfl
  · cases failed

theorem refuses_newNode (g : Graph) (kind : ActionKind) (hint : String) (parameters : Table)
    (label id : Option String) : Refuses UsageError.Proper
      (g.newNode kind (Workspace.hintFor (.orNull label) hint) parameters (.orNull id)) := by
  have known : ∃ text, Workspace.hintFor (.orNull label) hint = .text text := by
    unfold Workspace.hintFor
    split
    · rename_i given
      cases label with
      | none => cases given
      | some label => exact ⟨label, rfl⟩
    · exact ⟨hint, rfl⟩
  obtain ⟨text, hinted⟩ := known
  rw [hinted]
  cases id with
  | none => exact .ok
  | some id =>
    refine .map (.ite (fun _ => .error rfl) fun _ => .bind .ok fun _ _ => .bind ?_ fun _ _ => .ok)
    exact .ite (fun _ => .error rfl) fun _ => .ite (fun _ => .error rfl) fun _ => .ok

/-- What appending an action is refused for. -/
def Unappendable (a : Action) (e : UsageError) : Prop :=
  e.Proper ∨ e = .longNumber ∧ a.draft = .error .longNumber

theorem fails_append {a : Action} (sensible : a.Sensible) (b : Nat) (label id : Option String)
    (w : Workspace) : (append b a (.orNull label) (.orNull id)).Fails (Unappendable a) w := by
  unfold append
  refine .bind (.ofExcept fun e refused => ?_) fun d w₁ drafted => ?_
  · exact (sensible.draft e refused).imp_right fun long => ⟨long, long ▸ refused⟩
  obtain ⟨retry, good⟩ := sensible.retry d (ofExcept_ok drafted).1
  refine .bind ((fails_ensureOpen b w₁).mono fun _ => .inl) fun _ w₂ _ => ?_
  refine .bind (.of_ok rfl) fun w₃ _ _ => ?_
  refine .bind (.ofExcept (Refuses.mono (Q := UsageError.Proper) ?_ fun _ => .inl)) fun p _ _ => ?_
  · exact .bind (refuses_newNode _ _ _ _ _ _) fun _ _ => .ok
  refine .bind (.of_ok rfl) fun _ _ _ => ?_
  rw [good]
  exact .of_ok rfl

theorem fails_appendBranching {a : Action} (sensible : a.Sensible) (b : Nat)
    (label id : Option String) (w : Workspace) :
    (appendBranching b a (.orNull label) (.orNull id)).Fails (Unappendable a) w :=
  .bind (fails_append sensible b label id w) fun _ _ _ => .of_ok rfl

theorem fails_openLoop {times : Value} (sensible : (Action.loop times).Sensible) (b : Nat)
    (label id : Option String) (w : Workspace) :
    (openLoop b times (.orNull label) (.orNull id)).Fails (Unappendable (.loop times)) w :=
  .bind (fails_append sensible b label id w) fun _ _ _ => .of_ok rfl

theorem fails_openError (node : Handle) (join : Option Nat) (kind : ErrorKind) (w : Workspace) :
    (openError node join kind).Fails UsageError.Proper w := by
  intro e w' failed
  unfold openError at failed
  rw [bind_apply, read_apply] at failed
  dsimp only at failed
  split at failed
  · cases failed
    rfl
  · cases failed

theorem fails_openCondition (s : Nat) (guard : Guard) (key : List Scalar) (w : Workspace) :
    (openCondition s guard key).Fails UsageError.Proper w := by
  refine .bind (.of_ok rfl) fun w₁ _ _ => ?_
  refine .bind (.ofExcept ?_) fun _ _ _ => .of_ok rfl
  exact .ite (fun _ => .error rfl) fun _ => .ok

theorem fails_openBranch {s : Nat} {which : Branch} (fits : which.Fits (w.branches s).offer) :
    (openBranch s which).Fails UsageError.Proper w := by
  refine .bind (.of_ok rfl) fun w₁ w₂ same => ?_
  cases same
  refine .bind (.ofExcept (BranchSet.refuses_opening fits)) fun (opening, set) w₃ _ => ?_
  refine .bind (.of_ok rfl) fun _ w₄ _ => ?_
  cases opening with
  | condition guard key => exact fails_openCondition s guard key w₄
  | error kind => exact fails_openError set.node (some set.join) kind w₄

theorem fails_openHandler (b : Nat) (kind : ErrorKind) (w : Workspace) :
    (openHandler b (.kind kind)).Fails UsageError.Proper w := by
  refine .bind (.of_ok rfl) fun w₁ w₂ _ => ?_
  dsimp only
  split
  · intro e w' failed
    cases failed
    rfl
  · exact .bind (.ofExcept .ok) fun _ _ _ => fails_openError _ _ _ _

theorem fails_closeBranch (o : OpenBranch) (w : Workspace) :
    (closeBranch o).Fails UsageError.Proper w := by
  intro e w' failed
  unfold closeBranch at failed
  rw [bind_apply, read_apply] at failed
  dsimp only at failed
  split at failed
  · cases failed
    rfl
  · cases failed

theorem fails_jumpTo (b : Nat) (target : String) (w : Workspace) :
    (jumpTo b (.text target)).Fails UsageError.Proper w := by
  refine .bind (fails_ensureOpen b w) fun _ w₁ _ e w' failed => ?_
  split at failed
  · cases failed
    rfl
  · cases failed

/-- A branch can return to the flow, unless it has ended or has been left already. -/
theorem fails_thenContinue {join : Option Nat} (scope : (w.builder b).scope = .branch join) :
    (thenContinue b).Fails UsageError.Proper w := by
  intro e w' failed
  unfold thenContinue at failed
  rw [bind_apply, read_apply] at failed
  dsimp only at failed
  rw [scope] at failed
  cases status : (w.builder b).status with
  | opened =>
    rw [status] at failed
    cases join <;> cases failed
    rfl
  | terminated node =>
    rw [status] at failed
    cases failed
    rfl
  | closed why =>
    rw [status] at failed
    cases why <;> cases failed <;> rfl

theorem fails_closeLoop {node : Handle} {o : OpenBranch} {join : Option Nat}
    (scope : (w.builder o.builder).scope = .branch join) :
    (closeLoop b node o).Fails UsageError.Proper w := by
  refine .bind (fails_closeBranch o w) fun _ w₁ closed => ?_
  have same : w₁ = w := by
    rcases closeBranch_apply o w with ⟨e, failed⟩ | ⟨_, done⟩
    · rw [failed] at closed
      cases closed
    · rw [done] at closed
      cases closed
      rfl
  subst same
  refine .bind (.of_ok rfl) fun w₂ w₃ read => ?_
  cases read
  dsimp only
  split
  · exact .bind (fails_thenContinue scope) fun _ _ _ => .of_ok rfl
  · exact .of_ok rfl

end Builder

end ContactFlow
