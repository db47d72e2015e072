import ContactFlow.Proofs.Walked
import ContactFlow.Proofs.WireFormat
import Mathlib.Data.List.Chain

/-!
Traces as paths. A trace of any document goes along transitions of its actions and takes outcomes in
their order. What is left of the outcomes and of the steps has no part in it, so that with more of
both a trace goes on from where it stopped: what was visited and consumed before stays.
-/

namespace ContactFlow.Trace

variable {actions : List (Scalar × Value)} {steps : Nat} {key : Scalar} {action target : Value}
  {s s' : State} {t t' : Trace}

/-- A transition of an action: to its next action, or along one of its conditions or errors. -/
inductive Transition (action : Value) : Value → Prop
  | next {transitions target : Value} (there : field action "Transitions" = .ok transitions)
      (led : fieldOr transitions "NextAction" .null = .ok target) (some : target ≠ .null) :
      Transition action target
  | condition {cs : List Value} {c target : Value} (there : conditions action = .ok cs)
      (member : c ∈ cs) (led : field c "NextAction" = .ok target) : Transition action target
  | error {es : List Value} {e target : Value} (there : errors action = .ok es) (member : e ∈ es)
      (led : field e "NextAction" = .ok target) : Transition action target

/-! ### The edges that are taken -/

theorem mem_of_conditionTarget? {operand : String} {cs : List Value}
    (found : conditionTarget? operand cs = .ok (some target)) :
    ∃ c ∈ cs, field c "NextAction" = .ok target := by
  induction cs with
  | nil => cases found
  | cons c rest ih =>
    obtain ⟨guard, _, found⟩ := Results.bind_eq_ok.1 found
    obtain ⟨os, _, found⟩ := Results.bind_eq_ok.1 found
    obtain ⟨has, _, found⟩ := Results.bind_eq_ok.1 found
    split at found
    · obtain ⟨v, led, found⟩ := Results.bind_eq_ok.1 found
      cases found
      exact ⟨c, List.mem_cons_self, led⟩
    · obtain ⟨c', member, led⟩ := ih found
      exact ⟨c', List.mem_cons_of_mem _ member, led⟩

theorem mem_of_errorTarget? {kind : ErrorKind} {es : List Value}
    (found : errorTarget? kind es = .ok (some target)) :
    ∃ e ∈ es, field e "NextAction" = .ok target := by
  induction es with
  | nil => cases found
  | cons e rest ih =>
    obtain ⟨type, _, found⟩ := Results.bind_eq_ok.1 found
    split at found
    · obtain ⟨v, led, found⟩ := Results.bind_eq_ok.1 found
      cases found
      exact ⟨e, List.mem_cons_self, led⟩
    · obtain ⟨e', member, led⟩ := ih found
      exact ⟨e', List.mem_cons_of_mem _ member, led⟩

namespace Transition

/-- What is found among the conditions of an action is the end of a transition. -/
theorem of_condition {operand : String} {otherwise : Result Value}
    (led : (do match ← conditionTarget? operand (← conditions action) with
      | some v => pure v
      | none => otherwise) = .ok target) : Transition action target ∨ otherwise = .ok target := by
  obtain ⟨cs, there, led⟩ := Results.bind_eq_ok.1 led
  obtain ⟨found, search, led⟩ := Results.bind_eq_ok.1 led
  cases found with
  | none => exact .inr led
  | some v =>
    cases led
    obtain ⟨c, member, led⟩ := mem_of_conditionTarget? search
    exact .inl (.condition there member led)

theorem of_error {kind : ErrorKind} {otherwise : Result Value}
    (led : (do match ← errorTarget? kind (← errors action) with
      | some v => pure v
      | none => otherwise) = .ok target) : Transition action target ∨ otherwise = .ok target := by
  obtain ⟨es, there, led⟩ := Results.bind_eq_ok.1 led
  obtain ⟨found, search, led⟩ := Results.bind_eq_ok.1 led
  cases found with
  | none => exact .inr led
  | some v =>
    cases led
    obtain ⟨e, member, led⟩ := mem_of_errorTarget? search
    exact .inl (.error there member led)

theorem not_stuck {error : Value → TraceError} :
    (do throw (error (← field action "Identifier")) : Result Value) ≠ .ok target := by
  intro stuck
  obtain ⟨id, _, stuck⟩ := Results.bind_eq_ok.1 stuck
  cases stuck

theorem of_loopTarget {operand : String} (led : loopTarget operand action = .ok target) :
    Transition action target := by
  rcases of_condition led with transition | stuck
  · exact transition
  · exact absurd stuck not_stuck

theorem of_route {outcome : String} (led : route outcome action = .ok target) :
    Transition action target := by
  rcases of_condition led with transition | led
  · exact transition
  split at led
  · exact absurd led not_stuck
  · rcases of_error led with transition | stuck
    · exact transition
    · exact absurd stuck not_stuck

theorem of_compare {value : String} (led : compare value action = .ok target) :
    Transition action target := by
  rcases of_condition led with transition | led
  · exact transition
  rcases of_error led with transition | stuck
  · exact transition
  · exact absurd stuck not_stuck

end Transition

/-! ### What a step does -/

theorem heading_ok {type : Scalar} {transitions : Value}
    (read : heading action = .ok (type, transitions)) :
    field action "Type" = .ok (.scalar type) ∧ field action "Transitions" = .ok transitions := by
  obtain ⟨v, typed, read⟩ := Results.bind_eq_ok.1 read
  obtain ⟨v', there, read⟩ := Results.bind_eq_ok.1 read
  obtain ⟨type', keyed, read⟩ := Results.bind_eq_ok.1 read
  cases read
  obtain rfl := asKey_eq_ok.1 (Results.ok_of_mapError keyed)
  exact ⟨typed, there⟩

namespace Step

theorem unique {m m' : Move} (step : Step s key action m) (other : Step s key action m') :
    m = m' := by
  have same := (move_iff.2 step).symm.trans (move_iff.2 other)
  exact Except.ok.inj same

theorem transition (step : Step s key action (.go target s')) : Transition action target := by
  cases step with
  | loop _ _ _ _ led => exact Transition.of_loopTarget led
  | decided _ led => exact Transition.of_compare led
  | outcome _ _ _ _ led => exact Transition.of_route led
  | next passed _ led some => exact .next (heading_ok passed.heading).2 led some

/-- An action of a terminal type is the end of a trace, and only such an action. -/
theorem terminal_iff {m : Move} (step : Step s key action m) :
    (∃ type, field action "Type" = .ok (.scalar type) ∧ isTerminalType type = true) ↔
      m = .stop .terminal := by
  have typed {type : Scalar} {transitions : Value} (read : heading action = .ok (type, transitions))
      (lasting : isTerminalType type = false) :
      ¬ ∃ type, field action "Type" = .ok (.scalar type) ∧ isTerminalType type = true := by
    rintro ⟨type', typed, ends⟩
    cases typed.symm.trans (heading_ok read).1
    rw [lasting] at ends
    cases ends
  cases step with
  | terminal read ends => exact ⟨fun _ => rfl, fun _ => ⟨_, (heading_ok read).1, ends⟩⟩
  | loop read lasting => simp [typed read lasting]
  | decided passed => simp [typed passed.heading passed.lasting]
  | awaiting passed => simp [typed passed.heading passed.lasting]
  | outcome passed => simp [typed passed.heading passed.lasting]
  | deadEnd passed => simp [typed passed.heading passed.lasting]
  | next passed => simp [typed passed.heading passed.lasting]

/-- A step takes the first of the outcomes left, or none. -/
theorem takes (step : Step s key action (.go target s')) : s'.visited = s.visited ∧
    ∃ taken : List String, s.pending = taken.map .text ++ s'.pending ∧
      s'.consumed.reverse = s.consumed.reverse ++ taken := by
  cases step with
  | loop _ _ _ _ _ => exact ⟨rfl, [], by simp⟩
  | decided _ _ => exact ⟨rfl, [], by simp⟩
  | @outcome _ _ _ v _ o rest _ _ pending text _ =>
    obtain rfl : v = .text o := by
      have text := Results.ok_of_mapError text
      unfold Value.asText at text
      split at text
      · cases text
        rfl
      · cases text
    exact ⟨rfl, [o], by simp [pending]⟩
  | next _ _ _ _ => exact ⟨rfl, [], by simp⟩

theorem pending_of_awaiting (step : Step s key action (.stop .awaitingInput)) : s.pending = [] := by
  cases step with
  | awaiting _ _ nothing => exact nothing

end Step

/-! ### Runs as paths -/

/-- One action has a transition to the other. -/
def Linked (at? : Scalar → Option Value) (a b : Scalar) : Prop :=
  ∃ action, at? a = some action ∧ Transition action (.scalar b)

def Final (at? : Scalar → Option Value) (key : Scalar) : Prop :=
  ∃ action type, at? key = some action ∧ field action "Type" = .ok (.scalar type) ∧
    isTerminalType type = true

/-- What a run adds to a trace: the actions visited and the outcomes taken. -/
structure Path (actions : List (Scalar × Value)) (steps : Nat) (target : Value) (s : State) (t : Trace)
    (path : List Scalar) (taken : List String) : Prop where
  visited : t.visited = s.visited.reverse ++ path
  consumed : t.consumed = s.consumed.reverse ++ taken
  few : path.length ≤ steps
  starts : ∀ key ∈ path.head?, target = .scalar key
  linked : path.IsChain (Linked (find? actions))
  pending : taken.map .text <+: s.pending
  exhausted : t.finish = .awaitingInput → taken.map .text = s.pending
  terminal : t.finish = .terminal ↔ ∃ key ∈ path.getLast?, Final (find? actions) key

theorem final_iff {m : Move} (found : find? actions key = some action)
    (step : Step s key action m) : Final (find? actions) key ↔ m = .stop .terminal := by
  rw [← step.terminal_iff]
  constructor
  · rintro ⟨action', type, found', typed, ends⟩
    cases found'.symm.trans found
    exact ⟨type, typed, ends⟩
  · rintro ⟨type, typed, ends⟩
    exact ⟨action, type, found, typed, ends⟩

theorem Run.path (run : Run actions steps target s t) :
    ∃ path taken, Path actions steps target s t path taken := by
  induction run with
  | spent target s =>
    exact ⟨[], [], by simp [State.ended], by simp [State.ended], by simp, by simp, .nil, by simp,
      by simp [State.ended], by simp [State.ended]⟩
  | @stop steps key action s why found step =>
    refine ⟨[key], [], by simp [State.ended, State.enter], by simp [State.ended, State.enter],
      by simp, by simp, .singleton key, by simp, ?_, ?_⟩
    · rintro rfl
      exact step.pending_of_awaiting.symm
    · simp [State.ended, final_iff found step]
  | @go steps key action target s s' t found step onward ih =>
    obtain ⟨path, taken, rest⟩ := ih
    obtain ⟨visited, first, pending, consumed⟩ := step.takes
    have apart : ¬ Final (find? actions) key := by simp [final_iff found step]
    refine ⟨key :: path, first ++ taken, ?_, ?_, ?_, by simp, ?_, ?_, ?_, ?_⟩
    · rw [rest.visited, visited]
      simp [State.enter]
    · rw [rest.consumed, consumed]
      simp [State.enter]
    · simpa using rest.few
    · rw [List.isChain_cons]
      refine ⟨?_, rest.linked⟩
      intro next member
      exact ⟨action, found, rest.starts next member ▸ step.transition⟩
    · rw [List.map_append]
      exact pending ▸ (List.prefix_append_right_inj _).2 rest.pending
    · intro awaits
      rw [List.map_append, rest.exhausted awaits]
      exact pending.symm
    · rw [rest.terminal]
      cases path with
      | nil => simp [apart]
      | cons next path => simp [List.getLast?_cons_cons]

/-- What every step keeps holds wherever a run visits an action. From there the run goes on where the
next step leads. -/
theorem Run.arrives {P : State → Prop}
    (keeps : ∀ {key action s target s'}, find? actions key = some action →
      Step (s.enter key) key action (.go target s') → P s → P s')
    (run : Run actions steps target s t) (begins : P s) {before after : List Scalar}
    (visits : t.visited = s.visited.reverse ++ (before ++ key :: after)) :
    ∃ s' action m, P s' ∧ s'.visited.reverse = s.visited.reverse ++ before ∧
      find? actions key = some action ∧ Step (s'.enter key) key action m ∧
      ∀ target s'', m = .go target s'' → ∀ next ∈ after.head?, target = .scalar next := by
  induction run generalizing before with
  | spent target s =>
    have length := congrArg List.length visits
    simp [State.ended] at length
  | @stop steps first action s why found step =>
    simp only [State.ended, State.enter, List.reverse_cons, List.append_cancel_left_eq] at visits
    cases before with
    | cons b rest => simp at visits
    | nil =>
      cases visits
      exact ⟨s, action, _, begins, by simp, found, step, by simp⟩
  | @go steps first action target s s' t found step onward ih =>
    obtain ⟨path, taken, rest⟩ := onward.path
    have visited : s'.visited = first :: s.visited := step.takes.1
    have split : first :: path = before ++ key :: after := by
      simpa [rest.visited, visited] using visits
    cases before with
    | nil =>
      cases split
      refine ⟨s, action, _, begins, by simp, found, step, ?_⟩
      intro target' s'' here
      cases here
      exact rest.starts
    | cons b before =>
      cases split
      obtain ⟨s'', action', m, holds, came, rest⟩ := ih (keeps found step begins) rest.visited
      refine ⟨s'', action', m, holds, ?_, rest⟩
      rw [came, visited]
      simp

/-! ### More outcomes and more steps -/

/-- The state with more outcomes after those that are left. -/
def State.plus (s : State) (more : List Value) : State := { s with pending := s.pending ++ more }

/-- The one trace is the beginning of the other. -/
structure Begins (t t' : Trace) : Prop where
  visited : t.visited <+: t'.visited
  consumed : t.consumed <+: t'.consumed

/-- A step that goes on does so whatever outcomes come later. -/
theorem Step.plus (step : Step s key action (.go target s')) (more : List Value) :
    Step (s.plus more) key action (.go target (s'.plus more)) := by
  cases step with
  | loop read lasting loops counted led => exact .loop read lasting loops counted led
  | decided passed led =>
    obtain ⟨read, lasting, single, gathered, known⟩ := passed
    exact .decided ⟨read, lasting, single, gathered, known⟩ led
  | @outcome _ _ _ v _ o rest passed takes pending text led =>
    obtain ⟨read, lasting, single, gathered, known⟩ := passed
    have first : (s.plus more).pending = v :: (rest ++ more) := by simp [State.plus, pending]
    exact .outcome ⟨read, lasting, single, gathered, known⟩ takes first text led
  | next passed goes led some =>
    obtain ⟨read, lasting, single, gathered, known⟩ := passed
    exact .next ⟨read, lasting, single, gathered, known⟩ goes led some

/-- Whatever a run comes to, it has visited and consumed what the state has. -/
theorem Run.keeps (run : Run actions steps target s t) :
    s.visited.reverse <+: t.visited ∧ s.consumed.reverse <+: t.consumed := by
  obtain ⟨path, taken, rest⟩ := run.path
  exact ⟨⟨path, rest.visited.symm⟩, ⟨taken, rest.consumed.symm⟩⟩

/-- A run with more outcomes and more steps begins with what the run without them came to. -/
theorem Run.begins {steps' : Nat} (run : Run actions steps target s t) (more : List Value)
    (enough : steps ≤ steps') (longer : Run actions steps' target (s.plus more) t') :
    Begins t t' := by
  induction run generalizing steps' with
  | spent target s => exact ⟨longer.keeps.1, longer.keeps.2⟩
  | @stop steps key action s why found step =>
    cases longer with
    | spent => omega
    | stop found' step' => exact ⟨List.prefix_rfl, List.prefix_rfl⟩
    | go found' step' onward =>
      -- the longer run has an outcome where this one waited for one
      obtain ⟨visited, taken, _, consumed⟩ := step'.takes
      obtain ⟨kept, rest⟩ := onward.keeps
      constructor
      · rw [visited] at kept
        exact kept
      · rw [consumed] at rest
        exact (List.prefix_append _ _).trans rest
  | @go steps key action target s s' t found step onward ih =>
    -- the step asks nothing of later outcomes, so the longer run takes it, too
    cases longer with
    | spent => omega
    | stop found' step' =>
      cases found'.symm.trans found
      cases step'.unique (step.plus more)
    | go found' step' onward' =>
      cases found'.symm.trans found
      cases step'.unique (step.plus more)
      exact ih (by omega) onward'

/-! ### Traces of documents -/

/-- What a trace is as a path through its document, with the outcomes and the steps given to it. -/
structure Sound (document : Value) (outcomes : List String) (most : Int) (t : Trace) : Prop where
  few : (t.visited.length : Int) ≤ max most 0
  starts : ∀ key ∈ t.visited.head?, field document "StartAction" = .ok (.scalar key)
  linked : t.visited.IsChain (Linked (actionAt? document))
  consumed : t.consumed <+: outcomes
  terminal : t.finish = .terminal ↔ ∃ key ∈ t.visited.getLast?, Final (actionAt? document) key
  exhausted : t.finish = .awaitingInput → t.consumed = outcomes

theorem text_injective : Function.Injective Value.text := by
  intro a b same
  cases same
  rfl

theorem sound_of_traced {document : Value} {outcomes : List String} {most : Int}
    (traced : ofValues document (.list (outcomes.map .text)) (.int most) = .ok t) :
    Sound document outcomes most t := by
  obtain ⟨actions, pending, start, steps, listed, given, starts, few, run⟩ := ofValues_iff.1 traced
  cases given
  cases few
  obtain ⟨path, taken, rest⟩ := run.path
  have visited : t.visited = path := rest.visited
  have consumed : t.consumed = taken := rest.consumed
  have at_eq : actionAt? document = find? actions := by
    funext key
    simp [actionAt?, listed, Except.toOption]
  constructor
  · rw [visited]
    have := rest.few
    omega
  · intro key first
    rw [visited] at first
    exact rest.starts key first ▸ starts
  · rw [visited, at_eq]
    exact rest.linked
  · rw [consumed]
    exact (List.prefix_map_iff_of_injective text_injective).1 rest.pending
  · rw [visited, at_eq]
    exact rest.terminal
  · intro awaits
    rw [consumed]
    exact text_injective.list_map (rest.exhausted awaits)

/-- A trace is a path through its document that takes outcomes in their order. With more outcomes and
a limit as high or higher the trace goes on from there, unless the longer one fails, in wire format by
going astray. -/
theorem paths_grow {document : Value} {outcomes : List String} {most : Int} {t : Trace}
    (traced : ofValues document (.list (outcomes.map .text)) (.int most) = .ok t) :
    Sound document outcomes most t ∧
    ∀ (more : List String) (most' : Int), most ≤ most' →
      (∃ e, ofValues document (.list ((outcomes ++ more).map .text)) (.int most') = .error e ∧
        (WireFormat document → isAstray e = true)) ∨
      ∃ t', ofValues document (.list ((outcomes ++ more).map .text)) (.int most') = .ok t' ∧
        Begins t t' := by
  refine ⟨sound_of_traced traced, ?_⟩
  intro more most' high
  cases longer : ofValues document (.list ((outcomes ++ more).map .text)) (.int most') with
  | error e =>
    refine .inl ⟨e, rfl, ?_⟩
    intro wire
    have safe := ofValues_safe wire (outcomes ++ more) most'
    rw [longer] at safe
    exact safe
  | ok t' =>
    refine .inr ⟨t', rfl, ?_⟩
    obtain ⟨actions, pending, start, steps, listed, given, starts, few, run⟩ := ofValues_iff.1 traced
    obtain ⟨actions', pending', start', steps', listed', given', starts', few', run'⟩ :=
      ofValues_iff.1 longer
    cases listed.symm.trans listed'
    cases starts.symm.trans starts'
    cases given
    cases given'
    cases few
    cases few'
    rw [List.map_append] at run'
    exact run.begins (more.map .text) (by omega) run'

theorem paths_grow_hours :
    ∃ document t t', WireFormat document ∧ trace document ["False"] 10 = .ok t ∧
      trace document ["False", "True"] 20 = .ok t' ∧ Sound document ["False"] 10 t ∧ Begins t t' ∧
      t.visited = ["hours", "hours"].map .text ∧
      t'.visited = ["hours", "hours", "open", "hours"].map .text := by
  have kinds : ∀ n ∈ Graph.asksHours.toList,
      n.kind = .checkHours ∨ n.kind = .message ∨ n.kind = .disconnect := by decide
  have legible : ∀ n ∈ Graph.asksHours.toList, WrittenParameters n.kind n.rendered := by
    intro n member
    rcases kinds n member with kind | kind | kind <;> rw [kind] <;> constructor <;> intro other <;>
      cases other
  have wire := Graph.wireFormat legible (.text Document.defaultVersion) []
  have traced : trace (Document.ofGraph Graph.asksHours (.text Document.defaultVersion) [])
      ["False"] 10 = .ok ⟨["hours", "hours"].map .text, ["False"], .awaitingInput⟩ := rfl
  have longer : trace (Document.ofGraph Graph.asksHours (.text Document.defaultVersion) [])
      ["False", "True"] 20 =
        .ok ⟨["hours", "hours", "open", "hours"].map .text, ["False", "True"], .awaitingInput⟩ := rfl
  obtain ⟨sound, grows⟩ := paths_grow traced
  rcases grows ["True"] 20 (by decide) with ⟨e, failed, _⟩ | ⟨t', followed, begins⟩
  · cases longer.symm.trans failed
  · cases longer.symm.trans followed
    exact ⟨_, _, _, wire, traced, longer, sound, begins, rfl, rfl⟩

end ContactFlow.Trace
