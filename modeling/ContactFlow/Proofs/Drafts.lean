import ContactFlow.Builder.Action
import ContactFlow.Proofs.Results

/-!
What the drafts of actions have in common: the kind of the action, and stages of input and retries
only for actions that collect input.
-/

namespace ContactFlow

/-- Whatever a computation comes to has a property. -/
def Yields {ε α : Type} (P : α → Prop) (x : Except ε α) : Prop := ∀ a, x = .ok a → P a

namespace Yields

variable {ε α β : Type} {P : α → Prop}

theorem ok {a : α} (holds : P a) : Yields P (.ok a : Except ε α) := fun _ same => by
  cases same
  exact holds

theorem error {e : ε} : Yields P (.error e) := fun _ same => by cases same

theorem bind {x : Except ε β} {f : β → Except ε α} (each : ∀ b, Yields P (f b)) :
    Yields P (x >>= f) := by
  intro a ran
  obtain ⟨b, _, rest⟩ := Results.bind_eq_ok.1 ran
  exact each b a rest

theorem map {x : Except ε β} {f : β → α} (each : ∀ b, P (f b)) : Yields P (x.map f) := by
  intro a ran
  obtain ⟨b, _, rfl⟩ := Results.map_eq_ok.1 ran
  exact each b

theorem ite {c : Prop} [Decidable c] {x y : Except ε α} (first : Yields P x) (second : Yields P y) :
    Yields P (if c then x else y) := by
  split
  · exact first
  · exact second

end Yields

namespace Checked

variable {α β : Type}

theorem seq_good {f : Checked (α → β)} {x : Checked α} {b : β} (read : f <*> x = .good b) :
    ∃ g a, f = .good g ∧ x = .good a ∧ g a = b := by
  change seq f x = .good b at read
  cases f with
  | bad faults => cases x <;> cases read
  | good g =>
    cases x with
    | bad faults => cases read
    | good a =>
      cases read
      exact ⟨g, a, rfl, rfl, rfl⟩

theorem map_good {f : α → β} {x : Checked α} {b : β} (read : f <$> x = .good b) :
    ∃ a, x = .good a ∧ f a = b := by
  change map f x = .good b at read
  cases x with
  | bad faults => cases read
  | good a =>
    cases read
    exact ⟨a, rfl, rfl⟩

end Checked

namespace Draft

/-- A draft of a kind that is no input. -/
def Plain (kind : ActionKind) (d : Draft) : Prop :=
  d.kind = kind ∧ d.mode = none ∧ d.spec = none ∧ d.retry = .good none

/-- A draft of an input with one stage. What is tried again is tried after every retryable error. -/
def Single (mode : InputMode) (d : Draft) : Prop :=
  d.kind = .collectInput ∧ d.mode = some mode ∧ d.spec = none ∧
    ∀ r, d.retry = .good (some r) → r.retryOn = ErrorKind.retryable

/-- A draft of an input in two stages. -/
def Staged (spec : InputSpec) (d : Draft) : Prop :=
  d.kind = .collectInput ∧ d.mode = some spec.primary.mode ∧ d.spec = some spec ∧
    d.retry = .good none

end Draft

namespace Action

open Draft

theorem plain_draft (kind : ActionKind) (hint : String) (parameters : Table) :
    Plain kind { kind, hint, parameters } := ⟨rfl, rfl, rfl, rfl⟩

/-- Actions that collect no input ask for nodes without stages and retries. -/
theorem draft_plain (a : Action) (kind : a.kind ≠ .collectInput) :
    Yields (Plain a.kind) a.draft := by
  cases a with
  | playPrompt text ssml =>
    simp only [draft, promptDraft]
    split
    · exact .error
    · exact .ok (plain_draft ..)
    · exact .ok (plain_draft ..)
    · exact .error
  | storeInput e =>
    exact .bind fun _ => .ite .error (.bind fun _ => .bind fun _ => .ok (plain_draft ..))
  | invokeExternal c =>
    exact .bind fun _ => .ite .error (.bind fun _ => .ite .error (.bind fun _ => .bind fun _ =>
      .ite (.bind fun _ => .ok (plain_draft ..)) (.ok (plain_draft ..))))
  | setAttributes attributes => exact .ite .error (.ok (plain_draft ..))
  | getMetrics queue => exact .map fun _ => plain_draft ..
  | hold seconds => exact .bind fun _ => .ite .error (.bind fun _ => .ok (plain_draft ..))
  | transferToQueue queue => exact .map fun _ => plain_draft ..
  | transferToFlow flow => exact .map fun _ => plain_draft ..
  | transferToExternal t => exact .ite .error (.bind fun _ => .ok (plain_draft ..))
  | disconnect => exact .ok (plain_draft ..)
  | endExecution => exact .ok (plain_draft ..)
  | collectInput input => exact absurd rfl kind
  | collectSequential spec => exact absurd rfl kind
  | checkAttribute name space =>
    exact .ite .error (.bind fun _ => .bind fun _ => .ok (plain_draft ..))
  | checkHours hours => exact .map fun _ => plain_draft ..
  | checkStaffing queue status =>
    refine .bind fun _ => ?_
    split
    · exact .ite .error (.bind fun _ => .ok (plain_draft ..))
    · exact .error
  | splitPercent => exact .ok (plain_draft ..)
  | loop times => exact .bind fun _ => .ite .error (.bind fun _ => .ok (plain_draft ..))

theorem retryOn_ofTable {attempts prompt : Value} {r : RetrySpec}
    (read : RetrySpec.ofTable [key "max_attempts" attempts, key "retry_prompt" prompt] = .good r) :
    r.retryOn = ErrorKind.retryable := by
  unfold RetrySpec.ofTable at read
  obtain ⟨f, retryOn, others, kinds, rfl⟩ := Checked.seq_good read
  obtain ⟨g, prompt, first, _, rfl⟩ := Checked.seq_good others
  obtain ⟨attempts, _, rfl⟩ := Checked.map_good first
  have absent : retryOn = ErrorKind.retryable := by
    simpa [Table.optional, Table.get?, key] using kinds.symm
  rw [absent]
  rfl

theorem draft_single (input : Collection) :
    Yields (Single input.mode) (draft (.collectInput input)) := by
  have done {ps : Table} {retry : Checked (Option RetrySpec)} (tried : retries input = .ok retry) :
      Single input.mode { kind := .collectInput, hint := "collect_input", parameters := ps,
                          mode := some input.mode, retry } := by
    refine ⟨rfl, rfl, rfl, fun r found => ?_⟩
    unfold retries at tried
    obtain ⟨more, _, tried⟩ := Results.bind_eq_ok.1 tried
    split at tried
    · cases tried
      obtain ⟨r', read, same⟩ := Checked.map_good found
      cases same
      exact retryOn_ofTable read
    · cases tried
      cases found
  have staged (base stage : Table) : Yields (Single input.mode) (do
      let retry ← retries input
      pure { kind := .collectInput, hint := "collect_input", parameters := base ++ stage,
             mode := some input.mode, retry }) := by
    intro d drafted
    obtain ⟨retry, tried, rest⟩ := Results.bind_eq_ok.1 drafted
    cases rest
    exact done tried
  refine .bind fun _ => .ite .error (.bind fun _ => .ite .error (.bind fun timeout => ?_))
  simp only
  split
  · exact .bind fun stage => staged _ stage
  · exact .bind fun stage => staged _ stage

theorem draft_staged {spec : InputSpec} {d : Draft}
    (drafted : draft (.collectSequential spec) = .ok d) : Staged spec d := by
  rw [draft, sequentialDraft] at drafted
  obtain ⟨timeout, _, rfl⟩ := Results.map_eq_ok.1 drafted
  exact ⟨rfl, rfl, rfl, rfl⟩

end Action

end ContactFlow
