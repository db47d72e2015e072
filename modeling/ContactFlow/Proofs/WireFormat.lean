import ContactFlow.Proofs.Following
import ContactFlow.Proofs.Stepping

/-!
Documents in wire format. A trace reads little of a document, and in one that is written as it should
be it can read all of that. Then it fails only by going astray: to an action that is missing, or at
an action that has no edge for the way it takes.
-/

namespace ContactFlow

open Trace

/-- The end of an edge as it is written: an identifier, or null where it was left open. -/
def IsTarget (v : Value) : Prop := ∃ id : Option String, v = .orNull id

structure WrittenCondition (c : Value) : Prop where
  target : ∃ v, field c "NextAction" = .ok v ∧ IsTarget v
  operands : ∃ guard os, field c "Condition" = .ok guard ∧ field guard "Operands" = .ok (.list os)

structure WrittenError (e : Value) : Prop where
  target : ∃ v, field e "NextAction" = .ok v ∧ IsTarget v
  type : ∃ v, field e "ErrorType" = .ok v

/-- The parameters of an action as far as a trace depends on them. -/
structure WrittenParameters (kind : ActionKind) (parameters : Value) : Prop where
  limit : kind = .loop → ∃ v n, field parameters "LoopCount" = .ok v ∧ loopCount v = .ok n
  sets : kind = .setAttributes → ∃ added, fieldOr parameters "Attributes" (.table []) =
    .ok (.table added) ∧ ∀ e ∈ added, e.2.isWritable = true
  compared : kind = .checkAttribute → ∃ path,
    fieldOr parameters "ComparisonValue" (.text "") = .ok (.text path)

structure WrittenAction (action : Value) : Prop where
  identifier : ∃ id, field action "Identifier" = .ok (.text id)
  typed : ∃ (kind : ActionKind) (parameters : Value), field action "Type" = .ok (.text kind.wire) ∧
    field action "Parameters" = .ok parameters ∧ WrittenParameters kind parameters
  next : ∃ transitions v, field action "Transitions" = .ok transitions ∧
    fieldOr transitions "NextAction" .null = .ok v ∧ IsTarget v
  conditions : ∃ cs, conditions action = .ok cs ∧ ∀ c ∈ cs, WrittenCondition c
  errors : ∃ es, errors action = .ok es ∧ ∀ e ∈ es, WrittenError e

/-- A document as it goes on the wire. What cannot be written as text has no place there. -/
structure WireFormat (document : Value) : Prop where
  start : ∃ v, field document "StartAction" = .ok v ∧ IsTarget v
  actions : ∃ l, field document "Actions" = .ok (.list l) ∧ ∀ action ∈ l, WrittenAction action

/-- The document of a graph is in wire format. -/
theorem Graph.wireFormat {g : Graph}
    (legible : ∀ n ∈ g.toList, WrittenParameters n.kind n.rendered) (version : Value)
    (more : Table) : WireFormat (Document.ofGraph g version more) := by
  constructor
  · exact ⟨_, rfl, g.entry, rfl⟩
  · refine ⟨g.toList.map Node.document, rfl, ?_⟩
    intro action member
    obtain ⟨n, inside, rfl⟩ := List.mem_map.1 member
    constructor
    · exact ⟨n.id, rfl⟩
    · exact ⟨n.kind, n.rendered, rfl, rfl, legible n inside⟩
    · exact ⟨_, _, rfl, Node.next_transitions n.transitions, n.transitions.next, rfl⟩
    · refine ⟨_, Node.conditions_document n, ?_⟩
      intro c found
      obtain ⟨e, _, rfl⟩ := List.mem_map.1 found
      constructor
      · exact ⟨_, rfl, e.target, rfl⟩
      · refine ⟨e.guard.document, e.guard.operands.map .scalar, rfl, ?_⟩
        cases e.guard <;> rfl
    · refine ⟨_, Node.errors_document n, ?_⟩
      intro e found
      obtain ⟨e, _, rfl⟩ := List.mem_map.1 found
      exact ⟨⟨_, rfl, e.target, rfl⟩, _, rfl⟩

namespace Trace

/-- Whether an error is of the way that a trace takes and not of the document it reads. -/
def isAstray : TraceError → Bool
  | .missingAction _ | .noCondition .. | .unmatchedOutcome .. | .unmatchedAttribute .. => true
  | .missingField _ | .mismatch _ | .badCount _ | .endlessCount => false

/-- A result of which something holds, or that is missing because the trace went astray. -/
def Safe {α : Type} (p : α → Prop) : Result α → Prop
  | .ok a => p a
  | .error e => isAstray e = true

theorem Safe.bind {α β : Type} {p : α → Prop} {q : β → Prop} {r : Result α} {f : α → Result β}
    (first : Safe p r) (second : ∀ a, p a → Safe q (f a)) : Safe q (r >>= f) := by
  cases r with
  | ok a => exact second a first
  | error e => exact first

variable {s : State} {key : Scalar} {action : Value}

/-! ### Edges -/

theorem conditionTarget?_written {cs : List Value} (written : ∀ c ∈ cs, WrittenCondition c)
    (operand : String) :
    ∃ found : Option Value, conditionTarget? operand cs = .ok found ∧ ∀ v ∈ found, IsTarget v := by
  induction cs with
  | nil => exact ⟨none, rfl, by simp⟩
  | cons c rest ih =>
    obtain ⟨⟨v, leads, target⟩, guard, os, guarded, operands⟩ := written c List.mem_cons_self
    have has : (Value.list os).hasText operand = .ok (os.any fun v => v.text? == some operand) := rfl
    simp only [conditionTarget?, guarded, operands, has, leads, shaped_ok, Results.ok_bind]
    split
    · exact ⟨some v, rfl, by simpa using target⟩
    · apply ih
      intro c member
      exact written c (List.mem_cons_of_mem _ member)

theorem errorTarget?_written {es : List Value} (written : ∀ e ∈ es, WrittenError e)
    (kind : ErrorKind) :
    ∃ found : Option Value, errorTarget? kind es = .ok found ∧ ∀ v ∈ found, IsTarget v := by
  induction es with
  | nil => exact ⟨none, rfl, by simp⟩
  | cons e rest ih =>
    obtain ⟨⟨v, leads, target⟩, type, typed⟩ := written e List.mem_cons_self
    simp only [errorTarget?, typed, leads, Results.ok_bind]
    split
    · exact ⟨some v, rfl, by simpa using target⟩
    · apply ih
      intro e member
      exact written e (List.mem_cons_of_mem _ member)

theorem loopTarget_safe (written : WrittenAction action) (operand : String) :
    Safe IsTarget (loopTarget operand action) := by
  obtain ⟨id, identifier⟩ := written.identifier
  obtain ⟨cs, listed, each⟩ := written.conditions
  obtain ⟨found, search, target⟩ := conditionTarget?_written each operand
  simp only [loopTarget, listed, search, identifier, Results.ok_bind]
  cases found with
  | none => rfl
  | some v => exact target v rfl

theorem route_safe (written : WrittenAction action) (outcome : String) :
    Safe IsTarget (route outcome action) := by
  obtain ⟨id, identifier⟩ := written.identifier
  obtain ⟨cs, listed, each⟩ := written.conditions
  obtain ⟨es, caught, every⟩ := written.errors
  obtain ⟨found, search, target⟩ :=
    conditionTarget?_written each ((afterPrefix? outcome outcomePrefixes).getD outcome)
  simp only [route, listed, search, caught, identifier, Results.ok_bind]
  cases found with
  | some v => exact target v rfl
  | none =>
    simp only
    split
    · rfl
    · rename_i kind _
      obtain ⟨found, search, target⟩ := errorTarget?_written every kind
      rw [search, Results.ok_bind]
      cases found with
      | none => rfl
      | some v => exact target v rfl

theorem compare_safe (written : WrittenAction action) (value : String) :
    Safe IsTarget (compare value action) := by
  obtain ⟨id, identifier⟩ := written.identifier
  obtain ⟨cs, listed, each⟩ := written.conditions
  obtain ⟨es, caught, every⟩ := written.errors
  obtain ⟨found, search, target⟩ := conditionTarget?_written each value
  obtain ⟨found', search', target'⟩ := errorTarget?_written every .noMatch
  simp only [compare, listed, search, caught, search', identifier, Results.ok_bind]
  cases found with
  | some v => exact target v rfl
  | none =>
    cases found' with
    | none => rfl
    | some v => exact target' v rfl

/-! ### Moves -/

/-- The outcomes left are texts. -/
def State.Readable (s : State) : Prop := ∀ v ∈ s.pending, ∃ o : String, v = .text o

/-- A move that ends a trace, or leads to where an edge can end. -/
def Move.Sound : Move → Prop
  | .stop _ => True
  | .go target s => IsTarget target ∧ s.Readable

theorem moveLoop_safe (written : WrittenAction action) (texts : s.Readable) {n : Int}
    (counted : limit action = .ok n) : Safe Move.Sound (moveLoop s key action) := by
  rw [moveLoop_eq, counted, Results.ok_bind]
  apply (loopTarget_safe written _).bind
  intro target written
  exact ⟨written, texts⟩

theorem moveOutcome_safe (written : WrittenAction action) (texts : s.Readable) :
    Safe Move.Sound (moveOutcome s action) := by
  unfold moveOutcome
  cases pending : s.pending with
  | nil => trivial
  | cons v rest =>
    obtain ⟨o, rfl⟩ := texts v (pending ▸ List.mem_cons_self)
    have text : shaped (Value.text o).asText = .ok o := rfl
    simp only [text, Results.ok_bind]
    apply (route_safe written o).bind
    intro target written
    refine ⟨written, ?_⟩
    intro v member
    exact texts v (pending ▸ List.mem_cons_of_mem _ member)

theorem moveNext_safe {transitions v : Value} (texts : s.Readable)
    (read : fieldOr transitions "NextAction" .null = .ok v) (target : IsTarget v) :
    Safe Move.Sound (moveNext s transitions) := by
  unfold moveNext
  rw [read, Results.ok_bind]
  split
  · trivial
  · exact ⟨target, texts⟩

theorem gathered_written {kind : ActionKind} {parameters : Value}
    (there : field action "Parameters" = .ok parameters)
    (written : WrittenParameters kind parameters) (s : State) :
    ∃ attributes, gathered s (.text kind.wire) action = .ok attributes := by
  rw [gathered, ActionKind.isKind_wire]
  by_cases sets : kind = .setAttributes
  · obtain ⟨added, read, writable⟩ := written.sets sets
    obtain ⟨attributes, recorded⟩ := Site.record_ok writable s.attributes
    refine ⟨attributes, ?_⟩
    simp only [sets, decide_true, if_true, setAttributes, there, read, Results.ok_bind]
    exact recorded
  · exact ⟨s.attributes, by simp [sets]⟩

theorem deciding_written {kind : ActionKind} {parameters : Value}
    (there : field action "Parameters" = .ok parameters)
    (written : WrittenParameters kind parameters) (attributes : List (Scalar × String)) :
    ∃ known, deciding attributes (.text kind.wire) action = .ok known := by
  rw [deciding, ActionKind.isKind_wire]
  by_cases checks : kind = .checkAttribute
  · obtain ⟨path, read⟩ := written.compared checks
    have text : shaped (Value.text path).asText = .ok path := rfl
    simp only [checks, decide_true, if_true, knownAttribute, there, read, text, Results.ok_bind]
    split
    · exact ⟨_, rfl⟩
    · exact ⟨_, rfl⟩
  · exact ⟨none, by simp [checks]⟩

theorem move_safe (written : WrittenAction action) (texts : s.Readable) :
    Safe Move.Sound (move s key action) := by
  obtain ⟨kind, parameters, typed, there, readable⟩ := written.typed
  obtain ⟨transitions, next, onward, read, target⟩ := written.next
  have headed : heading action = .ok (.text kind.wire, transitions) := by
    simp only [heading, typed, onward, Results.ok_bind]
    rfl
  rw [move_eq, headed, Results.ok_bind]
  simp only [ActionKind.isTerminalType_wire, ActionKind.isKind_wire]
  split
  · trivial
  split
  · rename_i loops
    obtain ⟨v, n, counts, count⟩ := readable.limit (of_decide_eq_true loops)
    have counted : limit action = .ok n := by
      simp only [limit, there, counts, Results.ok_bind, count]
    exact moveLoop_safe written texts counted
  · obtain ⟨attributes, gathered⟩ := gathered_written there readable s
    obtain ⟨known, decides⟩ := deciding_written there readable attributes
    rw [gathered, Results.ok_bind, decides, Results.ok_bind]
    have texts : ({ s with attributes } : State).Readable := texts
    cases known with
    | some value =>
      apply (compare_safe written value).bind
      intro target written
      exact ⟨written, texts⟩
    | none =>
      simp only [passing]
      split
      · exact moveOutcome_safe written texts
      · exact moveNext_safe texts read target

/-! ### Traces -/

theorem follow_safe {actions : List (Scalar × Value)}
    (written : ∀ e ∈ actions, WrittenAction e.2) (steps : Nat) {target : Value}
    (leads : IsTarget target) (texts : s.Readable) :
    Safe (fun _ => True) (follow actions steps target s) := by
  induction steps generalizing target s with
  | zero => trivial
  | succ steps ih =>
    obtain ⟨key, rfl⟩ : ∃ key, target = .scalar key := by
      obtain ⟨id, rfl⟩ := leads
      cases id with
      | none => exact ⟨_, rfl⟩
      | some id => exact ⟨_, rfl⟩
    rw [follow_scalar]
    cases found : find? actions key with
    | none => rfl
    | some action =>
      obtain ⟨e, first, rfl⟩ := Option.map_eq_some_iff.1 found
      have safe : Safe Move.Sound (move (s.enter key) key e.2) :=
        move_safe (written e (List.mem_of_find?_eq_some first)) texts
      simp only
      apply safe.bind
      intro m sound
      cases m with
      | stop why => trivial
      | go target s' => exact ih sound.1 sound.2

theorem actionsOf_written {l : List Value} (written : ∀ action ∈ l, WrittenAction action) :
    ∃ actions, actionsOf l = .ok actions ∧ ∀ e ∈ actions, WrittenAction e.2 := by
  induction l with
  | nil => exact ⟨[], rfl, by simp⟩
  | cons action rest ih =>
    rw [List.forall_mem_cons] at written
    obtain ⟨id, identifier⟩ := written.1.identifier
    obtain ⟨actions, listed, each⟩ := ih written.2
    refine ⟨(.text id, action) :: actions, ?_, ?_⟩
    · simp only [actionsOf, identifier, listed, Results.ok_bind]
      rfl
    · rw [List.forall_mem_cons]
      exact ⟨written.1, each⟩

/-- A trace of a document in wire format fails only by going astray. -/
theorem ofValues_safe {document : Value} (wire : WireFormat document) (outcomes : List String)
    (most : Int) :
    Safe (fun _ => True) (ofValues document (.list (outcomes.map .text)) (.int most)) := by
  obtain ⟨start, starts, target⟩ := wire.start
  obtain ⟨l, listed, written⟩ := wire.actions
  obtain ⟨actions, identified, each⟩ := actionsOf_written written
  have pending : items (.list (outcomes.map .text)) = .ok (outcomes.map .text) := rfl
  have actions_listed : items (.list l) = .ok l := rfl
  have few : stepsBelow (.int most) = .ok most.toNat := rfl
  simp only [ofValues, listed, actions_listed, identified, pending, starts, few, Results.ok_bind]
  have each : ∀ e ∈ actions.reverse, WrittenAction e.2 := by
    intro e member
    exact each e (List.mem_reverse.1 member)
  have texts : ({ pending := outcomes.map .text } : State).Readable := by
    intro v member
    obtain ⟨o, _, rfl⟩ := List.mem_map.1 member
    exact ⟨o, rfl⟩
  exact follow_safe each most.toNat target texts

end Trace

end ContactFlow
