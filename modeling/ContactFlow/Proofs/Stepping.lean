import ContactFlow.Proofs.Site

/-!
Traces of documents of any shape, step by step. What a visit of an action can do is one relation with
a rule for each way to go on or to stop, and a trace that comes through is a run of such steps.
-/

namespace ContactFlow.Trace

variable {s s' : State} {key : Scalar} {action target : Value}

/-- The type of an action and its transitions. Nothing is done without them. -/
def heading (action : Value) : Result (Scalar × Value) := do
  let type ← field action "Type"
  let transitions ← field action "Transitions"
  pure (← shaped type.asKey, transitions)

/-- How often a loop goes round. -/
def limit (action : Value) : Result Int := do
  loopCount (← field (← field action "Parameters") "LoopCount")

/-- The attributes from a visit of an action on. -/
def gathered (s : State) (type : Scalar) (action : Value) : Result (List (Scalar × String)) :=
  if isKind type .setAttributes then setAttributes s.attributes action else pure s.attributes

/-- The value that decides a comparison. -/
def deciding (attributes : List (Scalar × String)) (type : Scalar) (action : Value) :
    Result (Option String) :=
  if isKind type .checkAttribute then knownAttribute action attributes else pure none

/-- An action that neither ends a trace nor is a loop. -/
structure Passed (s : State) (action : Value) (type : Scalar) (transitions : Value)
    (attributes : List (Scalar × String)) (known : Option String) : Prop where
  heading : heading action = .ok (type, transitions)
  lasting : isTerminalType type = false
  single : isKind type .loop = false
  gathered : gathered s type action = .ok attributes
  known : deciding attributes type action = .ok known

/-- What a visit of an action does. -/
inductive Step (s : State) (key : Scalar) (action : Value) : Move → Prop
  | terminal {type : Scalar} {transitions : Value} (read : heading action = .ok (type, transitions))
      (ends : isTerminalType type = true) : Step s key action (.stop .terminal)
  | loop {type : Scalar} {transitions target : Value} {n : Int}
      (read : heading action = .ok (type, transitions)) (lasting : isTerminalType type = false)
      (loops : isKind type .loop = true) (counted : limit action = .ok n)
      (led : loopTarget (Site.round (countOf s.counts key + 1) n).1 action = .ok target) :
      Step s key action
        (.go target { s with counts := (key, (Site.round (countOf s.counts key + 1) n).2) :: s.counts })
  | decided {type : Scalar} {transitions target : Value} {attributes : List (Scalar × String)}
      {value : String} (passed : Passed s action type transitions attributes (some value))
      (led : compare value action = .ok target) : Step s key action (.go target { s with attributes })
  | awaiting {type : Scalar} {transitions : Value} {attributes : List (Scalar × String)}
      (passed : Passed s action type transitions attributes none) (takes : takesOutcome type = true)
      (nothing : s.pending = []) : Step s key action (.stop .awaitingInput)
  | outcome {type : Scalar} {transitions target v : Value} {attributes : List (Scalar × String)}
      {o : String} {rest : List Value} (passed : Passed s action type transitions attributes none)
      (takes : takesOutcome type = true) (pending : s.pending = v :: rest)
      (text : shaped v.asText = .ok o) (led : route o action = .ok target) :
      Step s key action
        (.go target { s with attributes, pending := rest, consumed := o :: s.consumed })
  | deadEnd {type : Scalar} {transitions : Value} {attributes : List (Scalar × String)}
      (passed : Passed s action type transitions attributes none) (goes : takesOutcome type = false)
      (nothing : fieldOr transitions "NextAction" .null = .ok .null) :
      Step s key action (.stop .deadEnd)
  | next {type : Scalar} {transitions target : Value} {attributes : List (Scalar × String)}
      (passed : Passed s action type transitions attributes none) (goes : takesOutcome type = false)
      (led : fieldOr transitions "NextAction" .null = .ok target) (some : target ≠ .null) :
      Step s key action (.go target { s with attributes })

theorem moveLoop_eq (s : State) (key : Scalar) (action : Value) :
    moveLoop s key action = (do
      let n ← limit action
      let target ← loopTarget (Site.round (countOf s.counts key + 1) n).1 action
      pure (.go target
        { s with counts := (key, (Site.round (countOf s.counts key + 1) n).2) :: s.counts })) := by
  simp only [moveLoop, limit, bind_assoc]
  rfl

theorem moveLoop_ok {m : Move} : moveLoop s key action = .ok m ↔ ∃ n target, limit action = .ok n ∧
    loopTarget (Site.round (countOf s.counts key + 1) n).1 action = .ok target ∧
      m = .go target
        { s with counts := (key, (Site.round (countOf s.counts key + 1) n).2) :: s.counts } := by
  rw [moveLoop_eq]
  constructor
  · intro moved
    obtain ⟨n, read, moved⟩ := Results.bind_eq_ok.1 moved
    obtain ⟨target, led, moved⟩ := Results.bind_eq_ok.1 moved
    cases moved
    exact ⟨n, target, read, led, rfl⟩
  · rintro ⟨n, target, read, led, rfl⟩
    simp only [read, led, Results.ok_bind, Results.pure_eq]

theorem moveOutcome_ok {m : Move} : moveOutcome s action = .ok m ↔
    s.pending = [] ∧ m = .stop .awaitingInput ∨
      ∃ v rest o target, s.pending = v :: rest ∧ shaped v.asText = .ok o ∧
        route o action = .ok target ∧
          m = .go target { s with pending := rest, consumed := o :: s.consumed } := by
  unfold moveOutcome
  cases pending : s.pending with
  | nil =>
    constructor
    · intro moved
      cases moved
      exact .inl ⟨rfl, rfl⟩
    · rintro (⟨_, rfl⟩ | ⟨v, rest, o, target, here, _⟩)
      · rfl
      · cases here
  | cons v rest =>
    constructor
    · intro moved
      obtain ⟨o, text, moved⟩ := Results.bind_eq_ok.1 moved
      obtain ⟨target, led, moved⟩ := Results.bind_eq_ok.1 moved
      cases moved
      exact .inr ⟨v, rest, o, target, rfl, text, led, rfl⟩
    · rintro (⟨here, _⟩ | ⟨v, rest, o, target, here, text, led, rfl⟩)
      · cases here
      · cases here
        simp only [text, led, Results.ok_bind, Results.pure_eq]

theorem moveNext_ok {m : Move} {transitions : Value} : moveNext s transitions = .ok m ↔
    fieldOr transitions "NextAction" .null = .ok .null ∧ m = .stop .deadEnd ∨
      ∃ target, fieldOr transitions "NextAction" .null = .ok target ∧ target ≠ .null ∧
        m = .go target s := by
  unfold moveNext
  constructor
  · intro moved
    obtain ⟨target, read, moved⟩ := Results.bind_eq_ok.1 moved
    split at moved
    · cases moved
      exact .inl ⟨read, rfl⟩
    · rename_i some
      cases moved
      exact .inr ⟨target, read, some, rfl⟩
  · rintro (⟨read, rfl⟩ | ⟨target, read, some, rfl⟩)
    · rw [read]
      rfl
    · rw [read, Results.ok_bind]
      split
      · exact absurd rfl some
      · rfl

/-- The move from an action that neither ends a trace nor is a loop. -/
def passing (s : State) (action : Value) (type : Scalar) (transitions : Value) :
    Option String → Result Move
  | some value => do pure (.go (← compare value action) s)
  | none => if takesOutcome type then moveOutcome s action else moveNext s transitions

theorem move_eq (s : State) (key : Scalar) (action : Value) :
    move s key action = (do
      let (type, transitions) ← heading action
      if isTerminalType type then pure (.stop .terminal)
      else if isKind type .loop then moveLoop s key action
      else do
        let attributes ← gathered s type action
        passing { s with attributes } action type transitions
          (← deciding attributes type action)) := by
  unfold move heading
  simp only [bind_assoc, pure_bind]
  refine bind_congr fun v => bind_congr fun transitions => bind_congr fun type => ?_
  by_cases ends : isTerminalType type = true
  · simp [ends]
  by_cases loops : isKind type .loop = true
  · simp [ends, loops]
  by_cases checks : isKind type .checkAttribute = true
  · by_cases sets : isKind type .setAttributes = true
    · simp only [gathered, deciding, if_neg ends, if_neg loops, if_pos sets, if_pos checks]
      refine bind_congr fun attributes => bind_congr fun known => ?_
      cases known <;> rfl
    · simp only [gathered, deciding, if_neg ends, if_neg loops, if_neg sets, if_pos checks,
        pure_bind]
      refine bind_congr fun known => ?_
      cases known <;> rfl
  · by_cases sets : isKind type .setAttributes = true <;>
      simp [gathered, deciding, passing, ends, loops, sets, checks]

/-- The moves that come through are those of the rules. -/
theorem move_iff {m : Move} : move s key action = .ok m ↔ Step s key action m := by
  rw [move_eq]
  constructor
  · intro moved
    obtain ⟨⟨type, transitions⟩, read, moved⟩ := Results.bind_eq_ok.1 moved
    simp only at moved
    split at moved
    · rename_i ends
      cases moved
      exact .terminal read ends
    · rename_i lasting
      rw [Bool.not_eq_true] at lasting
      split at moved
      · rename_i loops
        obtain ⟨n, target, counted, led, rfl⟩ := moveLoop_ok.1 moved
        exact .loop read lasting loops counted led
      · rename_i single
        rw [Bool.not_eq_true] at single
        obtain ⟨attributes, gathered, moved⟩ := Results.bind_eq_ok.1 moved
        obtain ⟨known, decides, moved⟩ := Results.bind_eq_ok.1 moved
        have passed : Passed s action type transitions attributes known :=
          ⟨read, lasting, single, gathered, decides⟩
        cases known with
        | some value =>
          obtain ⟨target, led, moved⟩ := Results.bind_eq_ok.1 moved
          cases moved
          exact .decided passed led
        | none =>
          simp only [passing] at moved
          split at moved
          · rename_i takes
            rcases moveOutcome_ok.1 moved with ⟨nothing, rfl⟩ | ⟨v, rest, o, target, pending, text, led, rfl⟩
            · exact .awaiting passed takes nothing
            · exact .outcome passed takes pending text led
          · rename_i goes
            rw [Bool.not_eq_true] at goes
            rcases moveNext_ok.1 moved with ⟨nothing, rfl⟩ | ⟨target, led, some, rfl⟩
            · exact .deadEnd passed goes nothing
            · exact .next passed goes led some
  · intro step
    cases step with
    | terminal read ends => simp [read, ends]
    | loop read lasting loops counted led =>
      have moved := moveLoop_ok.2 ⟨_, _, counted, led, rfl⟩
      simp [read, lasting, loops, moved]
    | decided passed led =>
      obtain ⟨read, lasting, single, gathered, decides⟩ := passed
      simp [read, lasting, single, gathered, decides, passing, led]
    | awaiting passed takes nothing =>
      obtain ⟨read, lasting, single, gathered, decides⟩ := passed
      simp [read, lasting, single, gathered, decides, passing, takes]
      exact moveOutcome_ok.2 (.inl ⟨nothing, rfl⟩)
    | outcome passed takes pending text led =>
      obtain ⟨read, lasting, single, gathered, decides⟩ := passed
      simp [read, lasting, single, gathered, decides, passing, takes]
      exact moveOutcome_ok.2 (.inr ⟨_, _, _, _, pending, text, led, rfl⟩)
    | deadEnd passed goes nothing =>
      obtain ⟨read, lasting, single, gathered, decides⟩ := passed
      simp [read, lasting, single, gathered, decides, passing, goes]
      exact moveNext_ok.2 (.inl ⟨nothing, rfl⟩)
    | next passed goes led some =>
      obtain ⟨read, lasting, single, gathered, decides⟩ := passed
      simp [read, lasting, single, gathered, decides, passing, goes]
      exact moveNext_ok.2 (.inr ⟨_, led, some, rfl⟩)

/-! ### Runs -/

/-- The state with an action visited. -/
def State.enter (s : State) (key : Scalar) : State := { s with visited := key :: s.visited }

/-- A trace that comes through, from the place on at which it is taken up. -/
inductive Run (actions : List (Scalar × Value)) : Nat → Value → State → Trace → Prop
  | spent (target : Value) (s : State) : Run actions 0 target s (s.ended .maxSteps)
  | stop {steps : Nat} {key : Scalar} {action : Value} {s : State} {why : End}
      (found : find? actions key = some action)
      (step : Step (s.enter key) key action (.stop why)) :
      Run actions (steps + 1) (.scalar key) s ((s.enter key).ended why)
  | go {steps : Nat} {key : Scalar} {action target : Value} {s s' : State} {t : Trace}
      (found : find? actions key = some action)
      (step : Step (s.enter key) key action (.go target s')) (onward : Run actions steps target s' t) :
      Run actions (steps + 1) (.scalar key) s t

variable {actions : List (Scalar × Value)} {steps : Nat} {t : Trace}

theorem asKey_eq_ok {v : Value} : v.asKey = .ok key ↔ v = .scalar key := by
  cases v <;> simp [Value.asKey]

theorem follow_scalar (actions : List (Scalar × Value)) (steps : Nat) (key : Scalar) (s : State) :
    follow actions (steps + 1) (.scalar key) s =
      (match find? actions key with
      | none => .error (.missingAction key)
      | some action => do
        match ← move (s.enter key) key action with
        | .stop why => pure ((s.enter key).ended why)
        | .go target s => follow actions steps target s) := rfl

theorem follow_iff : follow actions steps target s = .ok t ↔ Run actions steps target s t := by
  constructor
  · intro followed
    induction steps generalizing target s with
    | zero =>
      cases followed
      exact .spent target s
    | succ steps ih =>
      obtain ⟨key, keyed, _⟩ := Results.bind_eq_ok.1 followed
      obtain rfl := asKey_eq_ok.1 (Results.ok_of_mapError keyed)
      rw [follow_scalar] at followed
      cases found : find? actions key with
      | none =>
        rw [found] at followed
        cases followed
      | some action =>
        simp only [found] at followed
        obtain ⟨m, moved, followed⟩ := Results.bind_eq_ok.1 followed
        have step := move_iff.1 moved
        cases m with
        | stop why =>
          cases followed
          exact .stop found step
        | go target s' => exact .go found step (ih followed)
  · intro run
    induction run with
    | spent target s => rfl
    | stop found step =>
      rw [follow_scalar, found]
      simp only [move_iff.2 step, Results.ok_bind, Results.pure_eq]
    | go found step onward ih =>
      rw [follow_scalar, found]
      simp only [move_iff.2 step, Results.ok_bind]
      exact ih

/-- The actions of a document under their identifiers, the latest first. -/
def identified (document : Value) : Result (List (Scalar × Value)) := do
  let actions ← actionsOf (← items (← field document "Actions"))
  pure actions.reverse

/-- The action that a document has under an identifier: of several the last one. -/
def actionAt? (document : Value) (key : Scalar) : Option Value :=
  (identified document).toOption.bind (find? · key)

/-- A trace of a document is a run from its start. -/
theorem ofValues_iff {document outcomes most : Value} :
    ofValues document outcomes most = .ok t ↔
      ∃ actions pending start steps, identified document = .ok actions ∧
        items outcomes = .ok pending ∧ field document "StartAction" = .ok start ∧
          stepsBelow most = .ok steps ∧ Run actions steps start { pending } t := by
  have listed : ofValues document outcomes most = (do
      let actions ← identified document
      let pending ← items outcomes
      let start ← field document "StartAction"
      follow actions (← stepsBelow most) start { pending }) := by
    simp only [ofValues, identified, bind_assoc, pure_bind]
  rw [listed]
  constructor
  · intro traced
    obtain ⟨actions, read, traced⟩ := Results.bind_eq_ok.1 traced
    obtain ⟨pending, taken, traced⟩ := Results.bind_eq_ok.1 traced
    obtain ⟨start, starts, traced⟩ := Results.bind_eq_ok.1 traced
    obtain ⟨steps, few, followed⟩ := Results.bind_eq_ok.1 traced
    exact ⟨actions, pending, start, steps, read, taken, starts, few, follow_iff.1 followed⟩
  · rintro ⟨actions, pending, start, steps, read, taken, starts, few, run⟩
    simp only [read, taken, starts, few, Results.ok_bind]
    exact follow_iff.2 run

end ContactFlow.Trace
