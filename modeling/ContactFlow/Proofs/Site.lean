import ContactFlow.Document
import ContactFlow.Proofs.Results
import ContactFlow.Trace

/-!
What a node does in a trace. The tracer reads it off the node's document; a site says the same in
terms of the node itself.
-/

namespace ContactFlow

/-- How a way out of a node is chosen: by one of several operands, or by an error. -/
inductive Way
  | operands (os : List Scalar)
  | error (kind : ErrorKind)
  deriving DecidableEq, Repr

namespace Way

def takes (v : String) : Way → Bool
  | .operands os => os.contains (.text v)
  | .error _ => false

def catches (kind : ErrorKind) : Way → Bool
  | .operands _ => false
  | .error k => k == kind

variable {α β : Type}

/-- The first way for an operand. -/
def byOperand (v : String) (ways : List (Way × α)) : Option α :=
  (ways.find? fun w => w.1.takes v).map (·.2)

def byError (kind : ErrorKind) (ways : List (Way × α)) : Option α :=
  (ways.find? fun w => w.1.catches kind).map (·.2)

/-- An outcome without the prefix that it may have. -/
def bare (outcome : String) : String :=
  (Trace.afterPrefix? outcome Trace.outcomePrefixes).getD outcome

/-- The error that an outcome names. One with a prefix names none. -/
def named? (outcome : String) : Option ErrorKind :=
  if bare outcome = outcome then ErrorKind.ofName? outcome else none

/-- The way that an outcome leads: by its operand, or by the error that it names. -/
def byOutcome (outcome : String) (ways : List (Way × α)) : Option α :=
  match byOperand (bare outcome) ways with
  | some a => some a
  | none => (named? outcome).bind fun kind => byError kind ways

/-- The way that the value of an attribute leads. -/
def byAttribute (value : String) (ways : List (Way × α)) : Option α :=
  match byOperand value ways with
  | some a => some a
  | none => byError .noMatch ways

theorem byOperand_mem {v : String} {ways : List (Way × α)} {a : α}
    (found : byOperand v ways = some a) : ∃ way, (way, a) ∈ ways := by
  obtain ⟨⟨way, _⟩, there, rfl⟩ := Option.map_eq_some_iff.1 found
  exact ⟨way, List.mem_of_find?_eq_some there⟩

theorem byError_mem {kind : ErrorKind} {ways : List (Way × α)} {a : α}
    (found : byError kind ways = some a) : ∃ way, (way, a) ∈ ways := by
  obtain ⟨⟨way, _⟩, there, rfl⟩ := Option.map_eq_some_iff.1 found
  exact ⟨way, List.mem_of_find?_eq_some there⟩

theorem byOutcome_mem {o : String} {ways : List (Way × α)} {a : α}
    (found : byOutcome o ways = some a) : ∃ way, (way, a) ∈ ways := by
  unfold byOutcome at found
  split at found
  · rename_i there
    cases found
    exact byOperand_mem there
  · obtain ⟨kind, _, there⟩ := Option.bind_eq_some_iff.1 found
    exact byError_mem there

theorem byAttribute_mem {value : String} {ways : List (Way × α)} {a : α}
    (found : byAttribute value ways = some a) : ∃ way, (way, a) ∈ ways := by
  unfold byAttribute at found
  split at found
  · rename_i there
    cases found
    exact byOperand_mem there
  · exact byError_mem found

end Way

def Guard.operands : Guard → List Scalar
  | .compare _ operands => operands
  | .input digits intent => intent.toList ++ digits.toList

/-- The ways out of a node besides its next action. -/
def Transitions.ways (t : Transitions) : List (Way × Option String) :=
  t.conditions.map (fun e => (.operands e.guard.operands, e.target)) ++
    t.errors.map fun e => (.error e.kind, e.target)

/-- What a node does in a trace. A parameter that cannot be read fails the trace. -/
inductive Site
  | ends
  | goes (sets : Trace.Result Table) (next : Option String)
  | forks (about : Trace.Result (Option String)) (ways : List (Way × Option String))
  | loops (limit : Trace.Result Int) (ways : List (Way × Option String))

namespace Node

def rendered (n : Node) : Value := (Value.table n.parameters).render

/-- The attributes that a node sets. -/
def sets (n : Node) : Trace.Result Table := do
  match ← Trace.fieldOr n.rendered "Attributes" (.table []) with
  | .table added => pure added
  | _ => throw (.mismatch .property)

/-- The attribute that a node compares. -/
def compared (n : Node) : Trace.Result (Option String) := do
  let path ← Trace.fieldOr n.rendered "ComparisonValue" (.text "")
  pure (Trace.afterPrefix? (← Trace.shaped path.asText) [Trace.attributePath])

/-- How often a loop goes round. -/
def limit (n : Node) : Trace.Result Int := do
  Trace.loopCount (← Trace.field n.rendered "LoopCount")

def site (n : Node) : Site :=
  if n.kind.isTerminal then .ends
  else if n.kind = .loop then .loops n.limit n.transitions.ways
  else if n.kind.isBranching then
    .forks (if n.kind = .checkAttribute then n.compared else .ok none) n.transitions.ways
  else .goes (if n.kind = .setAttributes then n.sets else .ok []) n.transitions.next

variable {n : Node} {ways : List (Way × Option String)}

theorem next_of_goes {sets : Trace.Result Table} {next : Option String}
    (site : n.site = .goes sets next) : n.transitions.next = next := by
  unfold Node.site at site
  split at site
  · cases site
  split at site
  · cases site
  split at site
  · cases site
  · cases site
    rfl

theorem ways_of_forks {about : Trace.Result (Option String)} (site : n.site = .forks about ways) :
    n.transitions.ways = ways := by
  unfold Node.site at site
  split at site
  · cases site
  split at site
  · cases site
  split at site
  · cases site
    rfl
  · cases site

theorem ways_of_loops {limit : Trace.Result Int} (site : n.site = .loops limit ways) :
    n.transitions.ways = ways := by
  unfold Node.site at site
  split at site
  · cases site
  split at site
  · cases site
    rfl
  split at site
  · cases site
  · cases site

end Node

namespace Site

open Trace

/-- The attributes with others added, as texts. -/
def record (attributes : List (Scalar × String)) (added : Table) :
    Result (List (Scalar × String)) :=
  added.foldlM (fun attributes (k, v) =>
    if v.isWritable then pure (Ordered.put attributes k v.display)
    else throw (.badCount Numeral.unwritableMessage)) attributes

/-- The operand for another round or for the way out, and what is counted from then on. -/
def round (count limit : Int) : String × Int :=
  if count ≤ limit then ("ContinueLooping", count) else ("DoneLooping", 0)

/-- The move from a node that has just been visited. -/
def move (id : String) (s : State) : Site → Result Move
  | .ends => pure (.stop .terminal)
  | .goes sets next => do
    let attributes ← record s.attributes (← sets)
    match next with
    | none => pure (.stop .deadEnd)
    | some next => pure (.go (.text next) { s with attributes })
  | .forks about ways => do
    match (← about).bind fun name => s.attributes.lookup (.text name) with
    | some value => match Way.byAttribute value ways with
      | some target => pure (.go (.orNull target) s)
      | none => throw (.unmatchedAttribute value (.text id))
    | none => match s.pending with
      | [] => pure (.stop .awaitingInput)
      | outcome :: rest =>
        let outcome ← shaped outcome.asText
        match Way.byOutcome outcome ways with
        | some target =>
          pure (.go (.orNull target) { s with pending := rest, consumed := outcome :: s.consumed })
        | none => throw (.unmatchedOutcome outcome (.text id))
  | .loops limit ways => do
    let (operand, count) := round (countOf s.counts (.text id) + 1) (← limit)
    match Way.byOperand operand ways with
    | some target => pure (.go (.orNull target) { s with counts := (.text id, count) :: s.counts })
    | none => throw (.noCondition (.text id) operand)

end Site

namespace Trace.State

/-- The state with its next outcome taken. -/
def taken (s : State) (o : String) (rest : List Value) : State :=
  { s with pending := rest, consumed := o :: s.consumed }

/-- The state after a loop has counted. -/
def counted (s : State) (loop : String) (k : Int) : State :=
  { s with counts := (.text loop, k) :: s.counts }

end Trace.State

/-- The moves from a site, with what decides on each. -/
inductive Site.Moves (id : String) (s : Trace.State) : Site → Trace.Move → Prop
  | ends : Moves id s .ends (.stop .terminal)
  | deadEnd {added : Table} {attributes : List (Scalar × String)}
    (recorded : record s.attributes added = .ok attributes) :
    Moves id s (.goes (.ok added) none) (.stop .deadEnd)
  | goes {added : Table} {attributes : List (Scalar × String)} {next : String}
    (recorded : record s.attributes added = .ok attributes) :
    Moves id s (.goes (.ok added) (some next)) (.go (.text next) { s with attributes })
  | compared {about : Option String} {ways : List (Way × Option String)} {value : String}
    {target : Option String}
    (known : (about.bind fun name => s.attributes.lookup (.text name)) = some value)
    (led : Way.byAttribute value ways = some target) :
    Moves id s (.forks (.ok about) ways) (.go (.orNull target) s)
  | awaits {about : Option String} {ways : List (Way × Option String)}
    (unknown : (about.bind fun name => s.attributes.lookup (.text name)) = none)
    (pending : s.pending = []) : Moves id s (.forks (.ok about) ways) (.stop .awaitingInput)
  | answered {about : Option String} {ways : List (Way × Option String)} {v : Value}
    {rest : List Value} {o : String} {target : Option String}
    (unknown : (about.bind fun name => s.attributes.lookup (.text name)) = none)
    (pending : s.pending = v :: rest) (shaped : Trace.shaped v.asText = .ok o)
    (led : Way.byOutcome o ways = some target) :
    Moves id s (.forks (.ok about) ways) (.go (.orNull target) (s.taken o rest))
  | counted {k : Int} {ways : List (Way × Option String)} {target : Option String}
    (led : Way.byOperand (round (Trace.countOf s.counts (.text id) + 1) k).1 ways = some target) :
    Moves id s (.loops (.ok k) ways)
      (.go (.orNull target) (s.counted id (round (Trace.countOf s.counts (.text id) + 1) k).2))

/-- Whatever a trace does at a site is one of its moves. -/
theorem Site.moves_of_move {site : Site} {id : String} {s : Trace.State} {m : Trace.Move}
    (moved : site.move id s = .ok m) : Moves id s site m := by
  cases site with
  | ends =>
    cases moved
    exact .ends
  | goes sets next =>
    obtain ⟨added, read, moved⟩ := Results.bind_eq_ok.1 moved
    obtain ⟨attributes, recorded, moved⟩ := Results.bind_eq_ok.1 moved
    rw [read]
    cases next with
    | none =>
      cases moved
      exact .deadEnd recorded
    | some next =>
      cases moved
      exact .goes recorded
  | forks about ways =>
    obtain ⟨name, read, moved⟩ := Results.bind_eq_ok.1 moved
    rw [read]
    split at moved
    · rename_i known
      split at moved
      · rename_i led
        cases moved
        exact .compared known led
      · cases moved
    · rename_i unknown
      split at moved
      · rename_i pending
        cases moved
        exact .awaits unknown pending
      · rename_i pending
        obtain ⟨o, shaped, moved⟩ := Results.bind_eq_ok.1 moved
        split at moved
        · rename_i led
          cases moved
          exact .answered unknown pending shaped led
        · cases moved
  | loops limit ways =>
    obtain ⟨k, read, moved⟩ := Results.bind_eq_ok.1 moved
    rw [read]
    simp only at moved
    split at moved
    · rename_i led
      cases moved
      exact .counted led
    · cases moved

/-- What a move changes: the attributes, the outcomes left, or what a loop has counted. -/
theorem Site.move_go {site : Site} {id : String} {s s' : Trace.State} {target : Value}
    (moved : site.move id s = .ok (.go target s')) :
    (∃ next, target = .orNull next) ∧
    ((∃ sets next attributes, site = .goes sets next ∧ s' = { s with attributes }) ∨
      (∃ about ways, site = .forks about ways ∧ (s' = s ∨ ∃ o rest, s' = s.taken o rest)) ∨
      ∃ limit ways k, site = .loops limit ways ∧ limit = .ok k ∧
        s' = s.counted id (round (Trace.countOf s.counts (.text id) + 1) k).2) := by
  cases moves_of_move moved with
  | goes => exact ⟨⟨some _, rfl⟩, .inl ⟨_, _, _, rfl, rfl⟩⟩
  | compared => exact ⟨⟨_, rfl⟩, .inr (.inl ⟨_, _, rfl, .inl rfl⟩)⟩
  | answered => exact ⟨⟨_, rfl⟩, .inr (.inl ⟨_, _, rfl, .inr ⟨_, _, rfl⟩⟩)⟩
  | counted => exact ⟨⟨_, rfl⟩, .inr (.inr ⟨_, _, _, rfl, rfl, rfl⟩)⟩

/-- Why a trace stops at a site. -/
theorem Site.move_stop {site : Site} {id : String} {s : Trace.State} {why : End}
    (moved : site.move id s = .ok (.stop why)) :
    site = .ends ∧ why = .terminal ∨ (∃ sets, site = .goes sets none) ∧ why = .deadEnd ∨
      (∃ about ways, site = .forks about ways) ∧ why = .awaitingInput := by
  cases moves_of_move moved with
  | ends => exact .inl ⟨rfl, rfl⟩
  | deadEnd => exact .inr (.inl ⟨⟨_, rfl⟩, rfl⟩)
  | awaits => exact .inr (.inr ⟨⟨_, _, rfl⟩, rfl⟩)

/-! ### Searching documents -/

namespace Trace

@[simp] theorem shaped_ok {α : Type} (a : α) : shaped (.ok a) = .ok a := rfl

theorem hasText_operands (v : String) (os : List Scalar) :
    (Value.list (os.map .scalar)).hasText v = .ok (os.contains (.text v)) := by
  have same (o : Scalar) : ((Value.scalar o).text? == some v) = (o == Scalar.text v) := by
    cases o <;> simp [Value.text?]
  simp only [Value.hasText, List.any_map, Function.comp_def, same, List.any_beq']

theorem conditionTarget?_conditions (v : String) (es : List ConditionEdge) :
    conditionTarget? v (es.map Transitions.conditionDocument) =
      .ok ((es.find? fun e => e.guard.operands.contains (.text v)).map fun e => .orNull e.target) := by
  induction es with
  | nil => rfl
  | cons e rest ih =>
    have guarded : field (Transitions.conditionDocument e) "Condition" = .ok e.guard.document := rfl
    have target : field (Transitions.conditionDocument e) "NextAction" = .ok (.orNull e.target) := rfl
    have operands : field e.guard.document "Operands" =
        .ok (.list (e.guard.operands.map .scalar)) := by
      cases e.guard <;> rfl
    rw [List.map_cons, conditionTarget?, guarded, Results.ok_bind, operands, Results.ok_bind,
      hasText_operands, shaped_ok, Results.ok_bind]
    cases taken : e.guard.operands.contains (.text v) with
    | true =>
      rw [if_pos rfl, target]
      simp only [List.find?_cons, taken]
      rfl
    | false =>
      rw [if_neg Bool.false_ne_true, ih]
      simp only [List.find?_cons, taken]

theorem isText_wire (k kind : ErrorKind) : isText kind.wire (.text k.wire) = (k == kind) := by
  cases k <;> cases kind <;> rfl

theorem errorTarget?_errors (kind : ErrorKind) (es : List ErrorEdge) :
    errorTarget? kind (es.map Transitions.errorDocument) =
      .ok ((es.find? fun e => e.kind == kind).map fun e => .orNull e.target) := by
  induction es with
  | nil => rfl
  | cons e rest ih =>
    have type : field (Transitions.errorDocument e) "ErrorType" = .ok (.text e.kind.wire) := rfl
    have target : field (Transitions.errorDocument e) "NextAction" = .ok (.orNull e.target) := rfl
    rw [List.map_cons, errorTarget?, type, Results.ok_bind, isText_wire]
    cases caught : e.kind == kind with
    | true =>
      rw [if_pos rfl, target]
      simp only [List.find?_cons, caught]
      rfl
    | false =>
      rw [if_neg Bool.false_ne_true, ih]
      simp only [List.find?_cons, caught]

end Trace

namespace Transitions

open Trace

theorem byOperand_ways (t : Transitions) (v : String) :
    Way.byOperand v t.ways =
      (t.conditions.find? fun e => e.guard.operands.contains (.text v)).map (·.target) := by
  have untaken : (t.errors.map fun e => (Way.error e.kind, e.target)).find?
      (fun w => w.1.takes v) = none := by
    simp [Way.takes]
  rw [Way.byOperand, ways, List.find?_append, untaken, Option.or_none, List.find?_map,
    Option.map_map]
  rfl

theorem byError_ways (t : Transitions) (kind : ErrorKind) :
    Way.byError kind t.ways = (t.errors.find? fun e => e.kind == kind).map (·.target) := by
  have uncaught : (t.conditions.map fun e => (Way.operands e.guard.operands, e.target)).find?
      (fun w => w.1.catches kind) = none := by
    simp [Way.catches]
  rw [Way.byError, ways, List.find?_append, uncaught, Option.none_or, List.find?_map,
    Option.map_map]
  rfl

/-- The tracer finds in the document of a node what the node's ways say. -/
theorem conditionTarget?_ways (t : Transitions) (v : String) :
    conditionTarget? v (t.conditions.map conditionDocument) =
      .ok ((Way.byOperand v t.ways).map .orNull) := by
  rw [conditionTarget?_conditions, byOperand_ways, Option.map_map]
  rfl

theorem errorTarget?_ways (t : Transitions) (kind : ErrorKind) :
    errorTarget? kind (t.errors.map errorDocument) =
      .ok ((Way.byError kind t.ways).map .orNull) := by
  rw [errorTarget?_errors, byError_ways, Option.map_map]
  rfl

end Transitions

/-! ### Kinds by their forms in documents -/

namespace ActionKind

theorem ofWire?_wire (k : ActionKind) : ofWire? k.wire = some k := by
  cases k <;> rfl

theorem isKind_wire (k kind : ActionKind) :
    Trace.isKind (.text k.wire) kind = decide (k = kind) := by
  have apart : k.wire = kind.wire → k = kind := fun same => by
    simpa [ofWire?_wire] using congrArg ofWire? same
  by_cases same : k = kind
  · simp [Trace.isKind, same]
  · simpa [Trace.isKind, same] using fun wires => same (apart wires)

theorem isTerminalType_wire (k : ActionKind) :
    Trace.isTerminalType (.text k.wire) = k.isTerminal := by
  cases k <;> rfl

theorem takesOutcome_wire (k : ActionKind) :
    Trace.takesOutcome (.text k.wire) = (k.isBranching && k != .loop) := by
  cases k <;> rfl

end ActionKind

namespace Node

open Trace

theorem field_identifier (n : Node) : field n.document "Identifier" = .ok (.text n.id) := rfl
theorem field_type (n : Node) : field n.document "Type" = .ok (.text n.kind.wire) := rfl
theorem field_parameters (n : Node) : field n.document "Parameters" = .ok n.rendered := rfl

theorem field_transitions (n : Node) :
    field n.document "Transitions" = .ok n.transitions.document := rfl

theorem next_transitions (t : Transitions) :
    fieldOr t.document "NextAction" .null = .ok (.orNull t.next) := by
  obtain ⟨next, conditions, errors⟩ := t
  cases next <;> rfl

theorem conditions_document (n : Node) :
    Trace.conditions n.document = .ok (n.transitions.conditions.map Transitions.conditionDocument) := by
  rw [Trace.conditions, field_transitions, Results.ok_bind]
  obtain ⟨next, conditions, errors⟩ := n.transitions
  cases next <;> rfl

theorem errors_document (n : Node) :
    Trace.errors n.document = .ok (n.transitions.errors.map Transitions.errorDocument) := by
  rw [Trace.errors, field_transitions, Results.ok_bind]
  obtain ⟨next, conditions, errors⟩ := n.transitions
  cases next <;> rfl

theorem loopTarget_document (n : Node) (operand : String) :
    loopTarget operand n.document =
      match Way.byOperand operand n.transitions.ways with
      | some target => .ok (.orNull target)
      | none => .error (.noCondition (.text n.id) operand) := by
  rw [loopTarget, conditions_document, Results.ok_bind, Transitions.conditionTarget?_ways,
    Results.ok_bind]
  cases Way.byOperand operand n.transitions.ways <;> rfl

theorem route_document (n : Node) (outcome : String) :
    route outcome n.document =
      match Way.byOutcome outcome n.transitions.ways with
      | some target => .ok (.orNull target)
      | none => .error (.unmatchedOutcome outcome (.text n.id)) := by
  have bare : (afterPrefix? outcome outcomePrefixes).getD outcome = Way.bare outcome := rfl
  have named : (if Way.bare outcome = outcome then ErrorKind.ofName? outcome else none) =
      Way.named? outcome := rfl
  rw [route, conditions_document, Results.ok_bind, Transitions.conditionTarget?_ways,
    Results.ok_bind, Way.byOutcome, bare, named]
  cases Way.byOperand (Way.bare outcome) n.transitions.ways with
  | some target => rfl
  | none =>
    cases Way.named? outcome with
    | none => rfl
    | some kind =>
      simp only [Option.map_none, errors_document, Results.ok_bind,
        Transitions.errorTarget?_ways, Option.bind_some]
      cases Way.byError kind n.transitions.ways <;> rfl

theorem compare_document (n : Node) (value : String) :
    Trace.compare value n.document =
      match Way.byAttribute value n.transitions.ways with
      | some target => .ok (.orNull target)
      | none => .error (.unmatchedAttribute value (.text n.id)) := by
  rw [Trace.compare, conditions_document, Results.ok_bind, Transitions.conditionTarget?_ways,
    Results.ok_bind, Way.byAttribute]
  cases Way.byOperand value n.transitions.ways with
  | some target => rfl
  | none =>
    simp only [Option.map_none, errors_document, Results.ok_bind, Transitions.errorTarget?_ways]
    cases Way.byError .noMatch n.transitions.ways <;> rfl

theorem knownAttribute_document (n : Node) (attributes : List (Scalar × String)) :
    knownAttribute n.document attributes =
      n.compared.map fun name? => name?.bind fun name => attributes.lookup (.text name) := by
  rw [knownAttribute, compared, field_parameters, Results.ok_bind]
  cases fieldOr n.rendered "ComparisonValue" (.text "") with
  | error e => rfl
  | ok path =>
    simp only [Results.ok_bind]
    cases shaped path.asText with
    | error e => rfl
    | ok path =>
      simp only [Results.ok_bind]
      cases afterPrefix? path [attributePath] <;> rfl

theorem setAttributes_document (n : Node) (attributes : List (Scalar × String)) :
    setAttributes attributes n.document = n.sets >>= Site.record attributes := by
  rw [setAttributes, sets, field_parameters, Results.ok_bind]
  cases fieldOr n.rendered "Attributes" (.table []) with
  | error e => rfl
  | ok added => cases added <;> rfl

theorem moveLoop_document (n : Node) (s : State) :
    moveLoop s (.text n.id) n.document = Site.move n.id s (.loops n.limit n.transitions.ways) := by
  simp only [moveLoop, Site.move, limit, field_parameters, Results.ok_bind, loopTarget_document,
    Site.round]
  cases read : field n.rendered "LoopCount" with
  | error e => simp only [Results.error_bind]
  | ok value =>
    cases counted : loopCount value with
    | error e => simp only [counted, Results.ok_bind, Results.error_bind]
    | ok limit =>
      simp only [counted, Results.ok_bind]
      by_cases more : countOf s.counts (.text n.id) + 1 ≤ limit
      · simp only [if_pos more]
        cases Way.byOperand "ContinueLooping" n.transitions.ways <;> rfl
      · simp only [if_neg more]
        cases Way.byOperand "DoneLooping" n.transitions.ways <;> rfl

theorem moveOutcome_document (n : Node) (s : State) :
    moveOutcome s n.document = Site.move n.id s (.forks (.ok none) n.transitions.ways) := by
  simp only [moveOutcome, Site.move, Results.ok_bind, Option.bind_none]
  cases s.pending with
  | nil => rfl
  | cons outcome rest =>
    cases shape : shaped outcome.asText with
    | error e => simp only [shape, Results.error_bind]
    | ok outcome =>
      simp only [shape, Results.ok_bind, route_document]
      cases Way.byOutcome outcome n.transitions.ways <;> rfl

theorem moveNext_document (t : Transitions) (id : String) (s : State) :
    moveNext s t.document = Site.move id s (.goes (.ok []) t.next) := by
  rw [moveNext, next_transitions, Results.ok_bind, Site.move]
  cases t.next <;> rfl

/-- The tracer does with the document of a node what its site says. -/
theorem move_document (n : Node) (s : State) :
    Trace.move s (.text n.id) n.document = n.site.move n.id s := by
  have key : shaped (Value.text n.kind.wire).asKey = .ok (.text n.kind.wire) := rfl
  simp only [Trace.move, field_type, field_transitions, key, Results.ok_bind,
    ActionKind.isTerminalType_wire, ActionKind.isKind_wire, ActionKind.takesOutcome_wire,
    knownAttribute_document, setAttributes_document, compare_document, moveOutcome_document,
    moveLoop_document, site, decide_eq_true_eq]
  by_cases terminal : n.kind.isTerminal
  · simp only [if_pos terminal]
    rfl
  by_cases loop : n.kind = .loop
  · simp only [if_neg terminal, if_pos loop]
  by_cases branching : n.kind.isBranching
  · have setsNone : n.kind ≠ .setAttributes := by
      rintro set
      simp [set, ActionKind.isBranching] at branching
    have takes : (n.kind.isBranching && n.kind != .loop) = true := by simp [branching, loop]
    simp only [if_neg terminal, if_neg loop, if_pos branching, if_neg setsNone, takes,
      Results.pure_eq, Results.ok_bind]
    by_cases check : n.kind = .checkAttribute
    · simp only [if_pos check, Site.move]
      cases n.compared with
      | error e => rfl
      | ok name? =>
        simp only [Except.map, Results.ok_bind]
        cases name?.bind fun name => s.attributes.lookup (.text name) with
        | none => rfl
        | some value =>
          simp only
          cases Way.byAttribute value n.transitions.ways <;> rfl
    · simp only [if_neg check]
      rfl
  · have checksNone : n.kind ≠ .checkAttribute := by
      rintro check
      simp [check, ActionKind.isBranching] at branching
    have takes : ¬ (n.kind.isBranching && n.kind != .loop) = true := by simp [branching]
    simp only [if_neg terminal, if_neg loop, if_neg branching, if_neg checksNone, if_neg takes,
      Results.pure_eq, Results.ok_bind, moveNext_document _ n.id]
    by_cases set : n.kind = .setAttributes
    · simp only [if_pos set, Site.move]
      cases n.sets with
      | error e => rfl
      | ok added =>
        simp only [Results.ok_bind]
        cases Site.record s.attributes added <;> rfl
    · simp only [if_neg set]

end Node

end ContactFlow
