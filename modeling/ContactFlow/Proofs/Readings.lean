import ContactFlow.Definition.File
import ContactFlow.Proofs.Refusals

/-!
What is read of a definition. Steps are read with actions whose arguments are texts and whole numbers,
and with branches that those actions offer; so they can only be refused for what is wrong with the
flow, or for a number that is too long to be written.
-/

namespace ContactFlow

namespace Checked

variable {α β : Type} {P : α → Prop} {Q : β → Prop}

/-- Whatever is read has a property. -/
def Gives (P : α → Prop) (x : Checked α) : Prop := ∀ a, x = .good a → P a

theorem Gives.good {a : α} (holds : P a) : Gives P (.good a) := fun _ same => by
  cases same
  exact holds

theorem Gives.bad {faults : List Fault} : Gives P (.bad faults) := fun _ same => by cases same

theorem Gives.fault {p : Problem} : Gives P (fault p) := .bad

theorem Gives.map {f : β → α} {x : Checked β} (given : Gives Q x) (each : ∀ b, Q b → P (f b)) :
    Gives P (f <$> x) := fun a read => by
  obtain ⟨b, here, rfl⟩ := map_good read
  exact each b (given b here)

theorem Gives.map_any {f : β → α} {x : Checked β} (each : ∀ b, P (f b)) : Gives P (f <$> x) :=
  .map (Q := fun _ => True) (fun _ _ => trivial) fun b _ => each b

theorem Gives.seq {f : Checked (β → α)} {x : Checked β}
    (each : Gives (fun g => ∀ b, Q b → P (g b)) f) (given : Gives Q x) : Gives P (f <*> x) :=
  fun a read => by
    obtain ⟨g, b, here, there, rfl⟩ := seq_good read
    exact each g here b (given b there)

theorem Gives.seq_any {f : Checked (β → α)} {x : Checked β}
    (each : Gives (fun g => ∀ b, P (g b)) f) : Gives P (f <*> x) :=
  .seq (Q := fun _ => True) (fun g here b _ => each g here b) fun _ _ => trivial

/-- What is read only to be there does not count. -/
theorem seqLeft_good {x : Checked α} {y : Checked β} {a : α} (read : (x <* y) = .good a) :
    x = .good a := by
  obtain ⟨g, b, left, _, rfl⟩ := seq_good (f := Function.const β <$> x) read
  obtain ⟨a, here, rfl⟩ := map_good left
  exact here

theorem Gives.seqLeft {x : Checked α} {y : Checked β} (given : Gives P x) : Gives P (x <* y) :=
  fun a read => given a (seqLeft_good read)

theorem Gives.andThen {x : Checked β} {f : β → Checked α} (each : ∀ b, x = .good b → Gives P (f b)) :
    Gives P (x.andThen f) := by
  cases x with
  | good b => exact each b rfl
  | bad faults => exact .bad

theorem Gives.under {x : Checked α} (given : Gives P x) (place : Place) :
    Gives P (x.under place) := by
  cases x with
  | good a => exact given
  | bad faults => exact .bad

theorem Gives.each {read : β → Checked α} {l : List β} (given : ∀ b ∈ l, Gives P (read b)) :
    Gives (fun as => ∀ a ∈ as, P a) (each read l) := by
  induction l with
  | nil => exact .good nofun
  | cons b rest ih =>
    intro as read
    obtain ⟨g, more, first, later, rfl⟩ := seq_good read
    obtain ⟨a, here, rfl⟩ := map_good first
    have others := ih (fun b among => given b (List.mem_cons_of_mem _ among)) more later
    exact List.forall_mem_cons.2 ⟨given b List.mem_cons_self a here, others⟩

end Checked

open Checked (Gives)

namespace Table

variable {α : Type} {P : α → Prop} {read : Value → Checked α}

theorem gives_required (t : Table) (name : String) (given : ∀ v, Gives P (read v)) :
    Gives P (t.required name read) := by
  unfold required
  split
  · exact (given _).under _
  · exact Gives.fault.under _

theorem gives_optional (t : Table) (name : String) {absent : α} (standard : P absent)
    (given : ∀ v, Gives P (read v)) : Gives P (t.optional name absent read) := by
  unfold optional
  split
  · exact (given _).under _
  · exact .good standard

theorem gives_maybe (t : Table) (name : String) (given : ∀ v, Gives P (read v)) :
    Gives (fun o => ∀ a ∈ o, P a) (t.maybe name read) := by
  refine gives_optional t name nofun fun v => ?_
  unfold Read.nullable
  split
  · exact .good nofun
  · exact (given _).map fun a holds a' same => by
      cases same
      exact holds

end Table

namespace Read

variable {α : Type} {P : α → Prop} {read : Value → Checked α}

theorem gives_eachFrom (given : ∀ v, Gives P (read v)) (i : Int) (l : List Value) :
    Gives (fun as => ∀ a ∈ as, P a) (eachFrom read i l) := by
  induction l generalizing i with
  | nil => exact .good nofun
  | cons v rest ih =>
    intro as read
    obtain ⟨g, more, first, later, rfl⟩ := Checked.seq_good read
    obtain ⟨a, here, rfl⟩ := Checked.map_good first
    exact List.forall_mem_cons.2 ⟨(given v).under _ a here, ih (i + 1) more later⟩

theorem gives_list (given : ∀ v, Gives P (read v)) (v : Value) :
    Gives (fun as => ∀ a ∈ as, P a) (list read v) := by
  unfold list
  split
  · exact gives_eachFrom given 0 _
  · exact gives_eachFrom given 0 _
  · exact .fault
  · exact .fault

theorem gives_tableOf (given : ∀ v, Gives P (read v)) (v : Value) :
    Gives (fun es => ∀ e ∈ es, P e.2) (tableOf read v) := by
  unfold tableOf
  split
  · refine .map (Gives.each (P := fun e : String × α => P e.2) fun (k, v) _ e read => ?_)
      fun found holds e among => holds e (Ordered.mem_of_mem_collect among)
    obtain ⟨g, a, _, here, rfl⟩ := Checked.seq_good read
    obtain ⟨key, _, rfl⟩ := Checked.map_good ‹_›
    exact (given v).under _ a here
  · exact .fault
  · exact .fault

theorem gives_distinct (read : Value → Checked α) (v : Value) :
    Gives (fun es => (Ordered.keys es).Nodup) (tableOf read v) := by
  unfold tableOf
  split
  · exact .map_any fun entries => Ordered.nodup_collect entries
  · exact .fault
  · exact .fault

theorem gives_record {read : Table → Checked α} (given : ∀ t, Gives P (read t)) (v : Value) :
    Gives P (record read v) := by
  unfold record
  split
  · exact given _
  · exact .fault
  · exact .fault

theorem gives_nonEmpty {l : List α} (holds : ∀ a ∈ l, P a) :
    Gives (fun as => ∀ a ∈ as, P a) (nonEmpty l) := by
  unfold nonEmpty
  split
  · exact .fault
  · exact .good holds

end Read

/-! ### Actions -/

namespace Action

/-- What a sensible action is refused for. -/
def Refusal (e : UsageError) : Prop := e.Proper ∨ e = .longNumber

theorem refuses_written (v : Value) : Refuses Refusal v.written :=
  .ite (fun _ => .ok) fun _ => .error (.inr rfl)

theorem refuses_toReference (name : String) (kind : ResourceKind) :
    Refuses Refusal ((Value.text name).toReference kind) :=
  .ite (fun _ => .error (.inl rfl)) fun _ => .ok

theorem refuses_resourceKey (name : String) (kind : ResourceKind) (resource : Option String) :
    Refuses Refusal (resourceKey name kind (.orNull resource)) := by
  cases resource with
  | none => exact .ok
  | some resource => exact .map (refuses_toReference resource kind)

theorem isAbove_int (n limit : Int) : (Value.int n).isAbove limit = .ok (decide (limit < n)) := rfl

/-- Only inputs are tried again. -/
theorem sensible_of_draft {a : Action} (other : a.kind ≠ .collectInput)
    (refuses : Refuses Refusal a.draft) : a.Sensible where
  draft := refuses
  retry := fun d drafted => ⟨none, (draft_plain a other d drafted).2.2.2⟩

theorem sensible_prompt (text ssml : Option String) :
    (playPrompt (.orNull text) (.orNull ssml)).Sensible := by
  refine sensible_of_draft nofun ?_
  rw [draft]
  unfold promptDraft
  split
  · exact .error (.inl rfl)
  · exact .ok
  · exact .ok
  · exact .error (.inl rfl)

theorem sensible_entry (prompt : String) (digits seconds : Int) (encrypt : Bool) :
    (storeInput { prompt := .text prompt, maxDigits := .int digits, timeoutSeconds := .int seconds,
                  encrypt }).Sensible := by
  refine sensible_of_draft nofun (.bind .ok fun _ _ => ?_)
  refine .ite (fun _ => .error (.inl rfl)) fun _ => ?_
  exact .bind (refuses_written _) fun _ _ => .bind (refuses_written _) fun _ _ => .ok

theorem sensible_invocation (function response : String) (parameters : Table) (seconds : Int) :
    (invokeExternal { function := .text function, parameters := .table parameters,
                      timeoutSeconds := .int seconds,
                      responseValidation := .text response }).Sensible := by
  refine sensible_of_draft nofun (.bind .ok fun _ _ => ?_)
  refine .ite (fun _ => .error (.inl rfl)) fun _ => .bind .ok fun _ _ => ?_
  refine .ite (fun _ => .error (.inl rfl)) fun _ => .bind (refuses_toReference _ _) fun r _ => ?_
  refine .bind (refuses_written _) fun written _ => ?_
  exact .ite (fun _ => .bind .ok fun _ _ => .ok) fun _ => .ok

theorem sensible_attributes (attributes : Table) : (setAttributes attributes).Sensible :=
  sensible_of_draft nofun (.ite (fun _ => .error (.inl rfl)) fun _ => .ok)

theorem sensible_metrics (queue : Option String) : (getMetrics (.orNull queue)).Sensible :=
  sensible_of_draft nofun (.map (refuses_resourceKey _ _ _))

theorem sensible_hold (seconds : Int) : (hold (.int seconds)).Sensible :=
  sensible_of_draft nofun (.bind .ok fun _ _ => .ite (fun _ => .error (.inl rfl)) fun _ =>
    .bind (refuses_written _) fun _ _ => .ok)

theorem sensible_toQueue (queue : String) : (transferToQueue (.text queue)).Sensible :=
  sensible_of_draft nofun (.map (refuses_toReference _ _))

theorem sensible_toFlow (flow : String) : (transferToFlow (.text flow)).Sensible :=
  sensible_of_draft nofun (.map (refuses_toReference _ _))

theorem sensible_external (number : String) (seconds : Int) (caller : Option String) :
    (transferToExternal { phoneNumber := .text number, timeoutSeconds := .int seconds,
                          callerId := .orNull caller }).Sensible :=
  sensible_of_draft nofun (.ite (fun _ => .error (.inl rfl)) fun _ =>
    .bind (refuses_written _) fun _ _ => .ok)

theorem sensible_disconnect : disconnect.Sensible := sensible_of_draft nofun .ok

theorem sensible_end : endExecution.Sensible := sensible_of_draft nofun .ok

theorem sensible_attribute (name space : String) :
    (checkAttribute (.text name) (.text space)).Sensible :=
  sensible_of_draft nofun (.ite (fun _ => .error (.inl rfl)) fun _ =>
    .bind (refuses_written _) fun _ _ => .bind (refuses_written _) fun _ _ => .ok)

theorem sensible_hours (hours : Option String) : (checkHours (.orNull hours)).Sensible :=
  sensible_of_draft nofun (.map (refuses_resourceKey _ _ _))

theorem sensible_staffing (queue : Option String) (status : String) :
    (checkStaffing (.orNull queue) (.text status)).Sensible :=
  sensible_of_draft nofun (.bind .ok fun _ _ => .ite (fun _ => .error (.inl rfl)) fun _ =>
    .bind (refuses_resourceKey _ _ _) fun _ _ => .ok)

theorem sensible_split : splitPercent.Sensible := sensible_of_draft nofun .ok

theorem sensible_loop (times : Int) : (loop (.int times)).Sensible :=
  sensible_of_draft nofun (.bind .ok fun _ _ => .ite (fun _ => .error (.inl rfl)) fun _ =>
    .bind (refuses_written _) fun _ _ => .ok)

theorem sensible_staged (spec : InputSpec) : (collectSequential spec).Sensible where
  draft := by
    rw [draft, sequentialDraft]
    exact .map (refuses_written _)
  retry := fun _ drafted => ⟨none, (draft_staged drafted).2.2.2⟩

/-- Several attempts make a specification of retries. -/
theorem good_retries {attempts : Int} (several : 1 < attempts) (prompt : Option String) :
    ∃ r, RetrySpec.ofTable [Draft.key "max_attempts" (.int attempts),
      Draft.key "retry_prompt" (.orNull prompt)] = .good r := by
  have enough : Table.optional [Draft.key "max_attempts" (.int attempts),
      Draft.key "retry_prompt" (.orNull prompt)] "max_attempts" 1 Read.positive =
      .good attempts := by
    change (Read.positive (.int attempts)).under _ = _
    have positive : Read.positive (.int attempts) = .good attempts := if_neg (by omega)
    rw [positive]
    rfl
  unfold RetrySpec.ofTable
  rw [enough]
  cases prompt <;> exact ⟨_, rfl⟩

/-- What is read of an input with one stage. -/
def readCollection (prompt : String) (mode : InputMode) (digits seconds : Int) (bot : Option String)
    (attempts : Int) (retryPrompt : Option String) : Collection :=
  { prompt := .text prompt, mode, maxDigits := .int digits, timeoutSeconds := .int seconds,
    lexBot := .orNull bot, maxAttempts := .int attempts, retryPrompt := .orNull retryPrompt }

theorem sensible_collection (prompt : String) (mode : InputMode) (digits seconds : Int)
    (bot : Option String) (attempts : Int) (retryPrompt : Option String) :
    (collectInput (readCollection prompt mode digits seconds bot attempts retryPrompt)).Sensible := by
  have tried : ∃ r, retries (readCollection prompt mode digits seconds bot attempts retryPrompt) =
      .ok (.good r) := by
    unfold retries readCollection
    rw [isAbove_int, Results.ok_bind]
    by_cases several : 1 < attempts
    · obtain ⟨r, good⟩ := good_retries several retryPrompt
      exact ⟨some r, by rw [if_pos (by simpa using several), good]; rfl⟩
    · exact ⟨none, if_neg (by simpa using several)⟩
  obtain ⟨r, tried⟩ := tried
  constructor
  · rw [draft, collectionDraft]
    refine .bind .ok fun _ _ => .ite (fun _ => .error (.inl rfl)) fun _ => ?_
    refine .bind .ok fun _ _ => .ite (fun _ => .error (.inl rfl)) fun _ => ?_
    refine .bind (refuses_written _) fun timeout _ => ?_
    rw [tried]
    cases mode with
    | keypad => exact .bind (.map (refuses_written _)) fun _ _ => .ok
    | speech => exact .ok
  · rw [draft, collectionDraft, tried]
    refine Yields.bind fun _ => .ite .error (.bind fun _ => .ite .error (.bind fun _ => ?_))
    cases mode with
    | keypad => exact .bind fun _ => .ok ⟨r, rfl⟩
    | speech => exact .ok ⟨r, rfl⟩

/-- The branches are among those that the action offers; a loop has one body. -/
def Allows (a : Action) (branches : Step.Branches) : Prop :=
  match a with
  | .loop _ => ∃ body, branches = [(.body, body)]
  | a => ∀ e ∈ branches, e.1.Fits a.offer

/-- An action that offers nothing has no branches, unless it is a loop. -/
theorem none_of_allows {a : Action} {branches : Step.Branches} (allows : a.Allows branches)
    (other : a.kind ≠ .loop) (offers : a.offer = .nothing) : branches = [] := by
  have unfit (which : Branch) : ¬ which.Fits .nothing := nofun
  refine List.eq_nil_iff_forall_not_mem.2 fun e among => unfit e.1 ?_
  rw [← offers]
  cases a with
  | loop => exact absurd rfl other
  | _ => exact allows e among

end Action

/-- The action that is asked for makes sense, and offers the branches. -/
def Head.Suits (head : Head) (branches : Step.Branches) : Prop :=
  Yields (fun a => a.Sensible ∧ a.Allows branches) head.resolve

theorem Head.suits_action {a : Action} {branches : Step.Branches}
    (sensible : a.withPlaceholders.Sensible) (allows : a.withPlaceholders.Allows branches) :
    (Head.action a).Suits branches :=
  Yields.ite .error (.ok ⟨sensible, allows⟩)

/-! ### Steps -/

/-- Every action that is asked for makes sense, and its branches are offered. -/
inductive Step.Sane : Step → Prop
  | action {head : Head} {branches : List (Branch × List Step)} {errors : List (String × List Step)}
    (suits : head.Suits branches) (inside : ∀ e ∈ branches, ∀ s ∈ e.2, Sane s)
    (handlers : ∀ e ∈ errors, ∀ s ∈ e.2, Sane s) (frame : Frame) :
    Sane (.action head frame branches errors)
  | resume (frame : Frame) : Sane (.resume frame)
  | jump (target : String) (frame : Frame) : Sane (.jump target frame)

namespace StepType

/-- The branches that the actions of a type of step offer. -/
def Allows (k : StepType) (branches : Step.Branches) : Prop :=
  match k with
  | .collect | .sequentialInput => ∀ modes, ∀ e ∈ branches, e.1.Fits (.input modes)
  | .checkAttribute => ∀ e ∈ branches, e.1.Fits .comparison
  | .checkHours => ∀ e ∈ branches, e.1.Fits .hours
  | .checkStaffing => ∀ e ∈ branches, e.1.Fits .staffing
  | .splitPercent => ∀ e ∈ branches, e.1.Fits (.percent (.int 0))
  | .loop => ∃ body, branches = [(.body, body)]
  | _ => branches = []

end StepType

namespace Step

theorem gives_head (k : StepType) (t : Table) :
    Gives (fun head => ∀ branches, k.Allows branches → head.Suits branches) (head k t) := by
  have plain {a : Action} (sensible : a.withPlaceholders.Sensible)
      (none : a.withPlaceholders.Allows []) (branches : Branches) (allowed : branches = []) :
      (Head.action a).Suits branches := by
    subst allowed
    exact Head.suits_action sensible none
  cases k with
  | message => exact .seq_any (.map_any fun _ _ => plain (Action.sensible_prompt ..) nofun)
  | collect =>
    refine .seq_any (.seq_any (.seq_any (.seq_any (.seq_any (.seq_any (.map_any ?_))))))
    exact fun _ _ _ _ _ _ _ _ allowed =>
      Head.suits_action (Action.sensible_collection ..) (allowed _)
  | sequentialInput =>
    refine .seq_any (.seq_any (.seq_any (.map_any fun _ _ _ _ branches allowed a resolved => ?_)))
    unfold Head.resolve at resolved
    dsimp only at resolved
    split at resolved
    · cases resolved
      exact ⟨Action.sensible_staged _, allowed _⟩
    · cases resolved
  | storeInput =>
    exact .seq_any (.seq_any (.seq_any (.map_any fun _ _ _ _ =>
      plain (Action.sensible_entry ..) nofun)))
  | invoke =>
    exact .seq_any (.seq_any (.seq_any (.map_any fun function ps seconds response =>
      plain (Action.sensible_invocation function response _ seconds) nofun)))
  | setAttributes => exact .map_any fun _ => plain (Action.sensible_attributes _) nofun
  | checkAttribute =>
    exact .seq_any (.map_any fun _ _ branches allowed =>
      Head.suits_action (Action.sensible_attribute ..) allowed)
  | checkHours =>
    exact .map_any fun _ branches allowed => Head.suits_action (Action.sensible_hours _) allowed
  | checkStaffing =>
    exact .seq_any (.map_any fun _ _ branches allowed =>
      Head.suits_action (Action.sensible_staffing ..) allowed)
  | getMetrics => exact .map_any fun _ => plain (Action.sensible_metrics _) nofun
  | splitPercent =>
    exact .good fun branches allowed => Head.suits_action Action.sensible_split allowed
  | loop =>
    exact .map_any fun _ branches allowed => Head.suits_action (Action.sensible_loop _) allowed
  | hold => exact .map_any fun _ => plain (Action.sensible_hold _) nofun
  | transferToQueue => exact .map_any fun _ => plain (Action.sensible_toQueue _) nofun
  | transferToFlow => exact .map_any fun _ => plain (Action.sensible_toFlow _) nofun
  | transferToExternal =>
    exact .seq_any (.seq_any (.map_any fun _ _ _ => plain (Action.sensible_external ..) nofun))
  | disconnect => exact .good (plain Action.sensible_disconnect nofun)
  | finish => exact .good (plain Action.sensible_end nofun)
  | resume => exact .good (plain Action.sensible_end nofun)
  | jump => exact .good (plain Action.sensible_end nofun)

/-- The branch is among those offered, and its steps are sane. -/
structure Nests (o : Offer) (e : Branch × List Step) : Prop where
  fits : e.1.Fits o
  sane : ∀ s ∈ e.2, s.Sane

variable {P : Branch × List Step → Prop} {steps : Lists}

theorem gives_concat {parts : List (Checked Branches)}
    (given : ∀ p ∈ parts, Gives (fun branches => ∀ e ∈ branches, P e) p) :
    Gives (fun branches => ∀ e ∈ branches, P e) (concat parts) :=
  .map (Gives.each given) fun found all e among => by
    obtain ⟨branches, here, inside⟩ := List.mem_flatten.1 among
    exact all branches here e inside

/-- A list of sane steps. -/
abbrev AllSane (steps : List Step) : Prop := ∀ s ∈ steps, s.Sane

theorem gives_branchAt (given : ∀ v, Gives AllSane (steps v)) (t : Table) (name : String)
    {kind : Branch} (holds : ∀ steps, AllSane steps → P (kind, steps)) :
    Gives (fun branches => ∀ e ∈ branches, P e) (branchAt steps t name kind) :=
  .map (Table.gives_maybe t name given) fun found sane e among => by
    cases found with
    | none => cases among
    | some steps =>
      cases List.mem_singleton.1 among
      exact holds steps (sane steps rfl)

/-- What is nested is read so that it is sane. -/
structure Nested.Sound (nested : Nested) : Prop where
  steps : ∀ v, Gives (fun steps => ∀ s ∈ steps, s.Sane) (nested.steps v)
  case : ∀ v, Gives (fun e => ∀ modes, Nests (.input modes) e) (nested.case v)

theorem gives_someSteps (given : ∀ v, Gives AllSane (steps v)) (v : Value) :
    Gives AllSane (someSteps steps v) :=
  .andThen fun found read => Read.gives_nonEmpty (given v found read)

theorem gives_inputCase (given : ∀ v, Gives AllSane (steps v)) (t : Table) :
    Gives (fun e => ∀ modes, Nests (.input modes) e) (inputCase steps t) := by
  refine .seqLeft (.seq (.seq_any (.map_any fun digits intent steps sane modes => ?_))
    (Table.gives_required _ _ (gives_someSteps given)))
  exact ⟨.input digits intent modes, sane⟩

theorem gives_attributeCase (given : ∀ v, Gives AllSane (steps v)) (t : Table) :
    Gives (Nests .comparison) (attributeCase steps t) := by
  refine .seqLeft (.seq (.seq_any (.map_any fun operator operand steps sane => ?_))
    (Table.gives_required _ _ (gives_someSteps given)))
  exact ⟨.compare operator operand, sane⟩

theorem gives_bucket (given : ∀ v, Gives AllSane (steps v)) (t : Table) :
    Gives (Nests (.percent (.int 0))) (bucket steps t) := by
  refine .seqLeft (.seq (.map_any fun percent steps sane => ?_)
    (Table.gives_required _ _ (gives_someSteps given)))
  exact ⟨.bucket percent rfl, sane⟩

theorem gives_tableBranches {kind : String → Branch} {x : Checked (List (String × List Step))}
    (given : Gives (fun es => ∀ e ∈ es, AllSane e.2) x)
    (fits : ∀ name modes, (kind name).Fits (.input modes)) :
    Gives (fun branches => ∀ e ∈ branches, ∀ modes, Nests (.input modes) e)
      ((·.map fun (name, steps) => (kind name, steps)) <$> x) :=
  .map given fun found sane e among modes => by
    obtain ⟨c, inside, rfl⟩ := List.mem_map.1 among
    exact ⟨fits c.1 modes, sane c inside⟩

theorem gives_inputBranches {nested : Nested} (sound : nested.Sound) (t : Table) :
    Gives (fun branches => ∀ e ∈ branches, ∀ modes, Nests (.input modes) e)
      (inputBranches nested t) := by
  have given := sound.steps
  have branch (name : String) {kind : Branch} (fits : ∀ modes, kind.Fits (.input modes)) :=
    gives_branchAt (P := fun e => ∀ modes, Nests (.input modes) e) given t name
      fun _ sane modes => ⟨fits modes, sane⟩
  have none : ∀ e ∈ ([] : List (String × List Step)), AllSane e.2 := fun _ among => nomatch among
  refine gives_concat (List.forall_mem_cons.2 ⟨?_, List.forall_mem_cons.2 ⟨?_, ?_⟩⟩)
  · refine gives_tableBranches (Table.gives_optional _ _ none fun v => ?_) fun digits =>
      .digits digits
    exact .andThen fun v _ => Read.gives_tableOf given v
  · exact gives_tableBranches (Table.gives_optional _ _ none (Read.gives_tableOf given))
      fun intent => .intent intent
  · simp only [List.forall_mem_cons, List.not_mem_nil, false_implies, implies_true, and_true]
    exact ⟨Table.gives_optional _ _ nofun (Read.gives_list sound.case), branch _ .timeout,
      branch _ .noMatch, branch _ .invalidInput, branch _ .lowConfidence, branch _ .error⟩

/-- The branches that are read with a step are those of its type, and their steps are sane. -/
theorem gives_lateBranches {k : StepType} (other : k ≠ .collect ∧ k ≠ .sequentialInput)
    (given : ∀ v, Gives AllSane (steps v)) (t : Table) :
    Gives (fun branches => k.Allows branches ∧ ∀ e ∈ branches, AllSane e.2)
      (lateBranches k steps t) := by
  have offered {o : Offer} {x : Checked Branches}
      (read : Gives (fun branches => ∀ e ∈ branches, Nests o e) x) :
      Gives (fun branches => (∀ e ∈ branches, e.1.Fits o) ∧ ∀ e ∈ branches, AllSane e.2) x :=
    fun branches found => ⟨fun e among => (read branches found e among).fits,
      fun e among => (read branches found e among).sane⟩
  have branch {o : Offer} (name : String) {kind : Branch} (fits : kind.Fits o) :=
    gives_branchAt (P := Nests o) given t name fun _ sane => ⟨fits, sane⟩
  have pair {P : Checked Branches → Prop} {x y : Checked Branches} (first : P x) (second : P y) :
      ∀ p ∈ [x, y], P p := by simp [first, second]
  cases k with
  | collect => exact absurd rfl other.1
  | sequentialInput => exact absurd rfl other.2
  | checkAttribute =>
    exact offered (gives_concat (pair (Table.gives_optional _ _ nofun
      (Read.gives_list (Read.gives_record (gives_attributeCase given)))) (branch _ .otherwise)))
  | checkHours => exact offered (gives_concat (pair (branch _ .inHours) (branch _ .outOfHours)))
  | checkStaffing => exact offered (gives_concat (pair (branch _ .staffed) (branch _ .notStaffed)))
  | splitPercent =>
    refine offered (gives_concat (pair (Table.gives_required _ _ fun v => ?_) (branch _ .rest)))
    exact .andThen fun found read =>
      Read.gives_nonEmpty (Read.gives_list (Read.gives_record (gives_bucket given)) v found read)
  | loop =>
    refine .map (Table.gives_required _ _ (gives_someSteps given)) fun body sane => ⟨⟨body, rfl⟩, ?_⟩
    exact fun e among => List.mem_singleton.1 among ▸ sane
  | _ => exact .good ⟨rfl, nofun⟩

theorem gives_branches {nested : Nested} (sound : nested.Sound) (k : StepType) (t : Table)
    {early late : Branches} (first : earlyBranches k nested t = .good early)
    (last : lateBranches k nested.steps t = .good late) :
    k.Allows (early ++ late) ∧ ∀ e ∈ early ++ late, AllSane e.2 := by
  have input (read : inputBranches nested t = .good early) (none : late = []) :
      (∀ modes, ∀ e ∈ early ++ late, e.1.Fits (.input modes)) ∧ ∀ e ∈ early ++ late, AllSane e.2 := by
    have nests := gives_inputBranches sound t early read
    rw [none, List.append_nil]
    exact ⟨fun modes e among => (nests e among modes).fits,
      fun e among => (nests e among []).sane⟩
  by_cases one : k = .collect
  · subst one
    cases last
    exact input first rfl
  by_cases two : k = .sequentialInput
  · subst two
    cases last
    exact input first rfl
  have none : early = [] := by
    cases k <;> first | exact absurd rfl one | exact absurd rfl two | exact (Checked.good.inj first).symm
  rw [none, List.nil_append]
  exact gives_lateBranches ⟨one, two⟩ sound.steps t late last

/-- An action is read part by part. -/
theorem actionOf_good {k : StepType} {nested : Nested} {t : Table} {s : Step}
    (read : actionOf k nested t = .good s) : ∃ head frame early late errors,
      s = .action head frame (early ++ late) errors ∧ Step.head k t = .good head ∧
        Step.frame t = .good frame ∧ earlyBranches k nested t = .good early ∧
        lateBranches k nested.steps t = .good late ∧
        t.optional "errors" [] (Read.tableOf nested.steps) = .good errors := by
  obtain ⟨_, late, read₅, last, rfl⟩ := Checked.seq_good (Checked.seqLeft_good read)
  obtain ⟨_, head, read₄, asked, rfl⟩ := Checked.seq_good read₅
  obtain ⟨_, _, read₃, _, rfl⟩ := Checked.seq_good read₄
  obtain ⟨_, early, read₂, first, rfl⟩ := Checked.seq_good read₃
  obtain ⟨_, errors, read₁, handlers, rfl⟩ := Checked.seq_good read₂
  obtain ⟨frame, framed, rfl⟩ := Checked.map_good read₁
  exact ⟨head, frame, early, late, errors, rfl, asked, framed, first, last, handlers⟩

theorem gives_actionOf {nested : Nested} (sound : nested.Sound) (k : StepType) (t : Table) :
    Gives Sane (actionOf k nested t) := by
  intro s read
  obtain ⟨head, frame, early, late, errors, rfl, asked, _, first, last, handlers⟩ := actionOf_good read
  obtain ⟨allowed, inside⟩ := gives_branches sound k t first last
  have none : ∀ e ∈ ([] : List (String × List Step)), AllSane e.2 := fun _ among => nomatch among
  have handled := Table.gives_optional t "errors" (P := fun es => ∀ e ∈ es, AllSane e.2) none
    (Read.gives_tableOf sound.steps) errors handlers
  exact .action (gives_head k t head asked _ allowed) inside handled frame

theorem gives_checkBody {s : Step} (sane : s.Sane) : Gives Sane (checkBody s) := by
  unfold checkBody
  split
  · split
    · exact .good sane
    · exact .fault
  · exact .good sane

/-- Steps are read so that they are sane. -/
theorem gives_ofTable {nested : Nested} (sound : nested.Sound) (k : StepType) (t : Table) :
    Gives Sane (ofTable nested k t) := by
  unfold ofTable
  split
  · exact .seqLeft (.seq_any (.map_any fun frame _ => .resume frame))
  · exact .seqLeft (.seq_any (.seq_any (.map_any fun frame _ target => .jump target frame)))
  · exact .andThen fun s read => gives_checkBody (gives_actionOf sound k t s read)

theorem gives_ofValue {read : StepType → Table → Checked Step} (given : ∀ k t, Gives Sane (read k t))
    (v : Value) : Gives Sane (ofValue read v) := by
  unfold ofValue
  split
  · split
    · exact .bad
    · split
      · exact .bad
      · exact (given _ _).under _
  · exact .bad
  · exact .bad

theorem listIn_zero : listIn 0 = Read.list (ofValue fun _ _ => .fault .tooDeep) := by
  funext v
  rw [listIn]

mutual

/-- However deep steps are nested, what is read of them is sane. -/
theorem gives_listIn : (n : Nat) → ∀ v, Gives AllSane (listIn n v)
  | 0 => by
    rw [listIn_zero]
    exact Read.gives_list (gives_ofValue fun _ _ => .bad)
  | n + 1 => by
    rw [listIn_succ]
    exact Read.gives_list (gives_ofValue (gives_ofTable (sound_nestedIn n)))

theorem sound_nestedIn : (n : Nat) → (nestedIn n).Sound
  | 0 => ⟨gives_listIn 0, fun _ => .bad⟩
  | n + 1 => ⟨gives_listIn (n + 1), Read.gives_record (gives_inputCase (gives_listIn n))⟩

end

end Step

theorem FlowDefinition.gives_allSane (t : Table) :
    Gives (fun f => Step.AllSane f.steps) (FlowDefinition.ofTable t) := by
  refine .seq (Q := Step.AllSane) (.map_any fun _ steps sane => sane) ?_
  exact Table.gives_optional _ _ (fun _ among => nomatch among) (Step.gives_listIn Step.maxDepth)

namespace Definition

/-- Flows are read with names of their own. -/
theorem distinct_of_read {v : Value} {d : Definition} (read : Definition.ofValue v = .good d) :
    (Ordered.keys d.flows).Nodup := by
  refine Read.gives_record (P := fun d => (Ordered.keys d.flows).Nodup) (fun t => ?_) v d read
  refine .seq (Q := fun flows => (Ordered.keys flows).Nodup)
    (.seq_any (.seq_any (.map_any fun _ _ _ flows distinct => distinct))) ?_
  exact Table.gives_optional _ _ List.nodup_nil (Read.gives_distinct _)

/-- The steps of the flows that are read are sane. -/
theorem sane_of_read {v : Value} {d : Definition} (read : Definition.ofValue v = .good d)
    {e : String × FlowDefinition} (among : e ∈ d.flows) : Step.AllSane e.2.steps := by
  refine Read.gives_record (P := fun d => ∀ e ∈ d.flows, Step.AllSane e.2.steps) (fun t => ?_) v d
    read e among
  refine .seq (Q := fun flows => ∀ e ∈ flows, Step.AllSane e.2.steps)
    (.seq_any (.seq_any (.map_any fun _ _ _ flows sane => sane))) ?_
  exact Table.gives_optional _ _ (fun _ among => nomatch among) (Read.gives_tableOf
    (P := fun f : FlowDefinition => Step.AllSane f.steps)
    (Read.gives_record FlowDefinition.gives_allSane))

end Definition

end ContactFlow
