import ContactFlow.Proofs.Filing
import ContactFlow.Proofs.Prefixes
import ContactFlow.Proofs.Visits

/-!
How loops count. A loop counts its visits and starts anew when it is done, so what it has counted is
the number of its visits so far but for whole rounds. Other loops count under keys of their own, and
no step but a visit of the loop itself changes its count: in whatever order a trace comes to its loops,
each of them takes its rounds by its own visits.
-/

namespace ContactFlow

namespace Trace

variable {actions : List (Scalar × Value)} {steps : Nat} {key id : Scalar} {action target : Value}
  {s s' : State} {t : Trace} {n : Int}

/-! ### Counts -/

theorem find?_congr (same : key.sameKey id = true) (actions : List (Scalar × Value)) :
    find? actions key = find? actions id := by
  simp only [find?, Scalar.sameKey_congr same]

theorem countOf_congr (same : key.sameKey id = true) (counts : List (Scalar × Int)) :
    countOf counts key = countOf counts id := by
  simp only [countOf, Scalar.sameKey_congr same]

theorem countOf_cons (key id : Scalar) (k : Int) (counts : List (Scalar × Int)) :
    countOf ((key, k) :: counts) id = if key.sameKey id then k else countOf counts id := by
  by_cases same : key.sameKey id = true
  · simp [countOf, same]
  · simp [countOf, same]

/-- The condition that a loop with the limit `n` takes at its visit of that number. -/
def operandAt (n : Int) (visit : Nat) : String :=
  if n < 0 ∨ n + 1 ∣ (visit : Int) then "DoneLooping" else "ContinueLooping"

/-- What a loop with the limit `n` has counted after so many visits. -/
def countAt (n : Int) (visits : Nat) : Int := if n < 0 then 0 else (visits : Int) % (n + 1)

theorem round_countAt (n : Int) (visits : Nat) :
    Site.round (countAt n visits + 1) n = (operandAt n (visits + 1), countAt n (visits + 1)) := by
  by_cases never : n < 0
  · have first : ¬ (0 : Int) + 1 ≤ n := by omega
    rw [countAt, if_pos never, operandAt, if_pos (.inl never), countAt, if_pos never, Site.round,
      if_neg first]
  · have counted := Site.round_count visits (show 0 ≤ n by omega)
    have above := Int.emod_nonneg (visits : Int) (show n + 1 ≠ 0 by omega)
    rw [countAt, if_neg never, countAt, if_neg never, operandAt]
    unfold Site.round at counted ⊢
    by_cases again : (visits : Int) % (n + 1) + 1 ≤ n
    · rw [if_pos again] at counted ⊢
      have part : ¬ n + 1 ∣ ((visits + 1 : Nat) : Int) := by
        intro whole
        have none := Int.emod_eq_zero_of_dvd whole
        omega
      rw [if_neg (not_or.2 ⟨never, part⟩), ← counted]
    · rw [if_neg again] at counted ⊢
      have whole : n + 1 ∣ ((visits + 1 : Nat) : Int) := Int.dvd_of_emod_eq_zero counted.symm
      rw [if_pos (.inr whole), ← counted]

/-! ### Steps -/

/-- What a loop does when it is visited. -/
theorem Step.of_loop {m : Move} (step : Step s key action m)
    (loops : field action "Type" = .ok (.text ActionKind.loop.wire))
    (counted : limit action = .ok n) : ∃ target,
      loopTarget (Site.round (countOf s.counts key + 1) n).1 action = .ok target ∧
        m = .go target
          { s with counts := (key, (Site.round (countOf s.counts key + 1) n).2) :: s.counts } := by
  have typed {type : Scalar} {transitions : Value}
      (read : heading action = .ok (type, transitions)) : type = .text ActionKind.loop.wire := by
    cases loops.symm.trans (heading_ok read).1
    rfl
  have passes {type : Scalar} {transitions : Value} {attributes : List (Scalar × String)}
      {known : Option String} (passed : Passed s action type transitions attributes known) :
      False := by
    have single := passed.single
    rw [typed passed.heading] at single
    cases single
  cases step with
  | terminal read ends =>
    rw [typed read] at ends
    cases ends
  | loop read lasting again counted' led =>
    cases counted.symm.trans counted'
    exact ⟨_, led, rfl⟩
  | decided passed => exact (passes passed).elim
  | awaiting passed => exact (passes passed).elim
  | outcome passed => exact (passes passed).elim
  | deadEnd passed => exact (passes passed).elim
  | next passed => exact (passes passed).elim

/-- No other action changes what a loop has counted. -/
theorem Step.countOf_other (step : Step s key action (.go target s'))
    (other : key.sameKey id = false) : countOf s'.counts id = countOf s.counts id := by
  cases step with
  | loop => rw [countOf_cons, other, if_neg Bool.false_ne_true]
  | decided => rfl
  | outcome => rfl
  | next => rfl

/-- A loop has counted its visits but for whole rounds. -/
def Tallied (n : Int) (id : Scalar) (s : State) : Prop :=
  countOf s.counts id = countAt n (s.visited.countP (·.sameKey id))

theorem tallied_step {loop : Value} (there : find? actions id = some loop)
    (loops : field loop "Type" = .ok (.text ActionKind.loop.wire)) (counted : limit loop = .ok n)
    (tallied : Tallied n id s) (found : find? actions key = some action)
    (step : Step (s.enter key) key action (.go target s')) : Tallied n id s' := by
  unfold Tallied at tallied ⊢
  rw [step.takes.1, State.enter, List.countP_cons]
  -- under any key of its own the loop is found, and any other key has a count of its own
  by_cases same : key.sameKey id = true
  · rw [find?_congr same, there] at found
    cases found
    obtain ⟨target', _, gone⟩ := step.of_loop loops counted
    cases gone
    rw [countOf_cons, if_pos same, if_pos same, countOf_congr same]
    simp only [State.enter, tallied, round_countAt]
  · rw [Bool.not_eq_true] at same
    rw [step.countOf_other same, if_neg (by simp [same])]
    exact tallied

/-! ### Runs -/

/-- The `i`-th visit of a loop with the limit `n` is done looping if `n + 1` divides `i` or the limit
is negative, and it continues otherwise, however the visits of other loops come between. The trace
goes on where the condition leads. -/
theorem rounds_of_traced {document outcomes most : Value} {t : Trace}
    (traced : ofValues document outcomes most = .ok t) {loop : Value}
    (there : actionAt? document id = some loop)
    (loops : field loop "Type" = .ok (.text ActionKind.loop.wire)) (counted : limit loop = .ok n)
    {before after : List Scalar} (visits : t.visited = before ++ key :: after)
    (same : key.sameKey id = true) :
    ∃ onto, loopTarget (operandAt n (before.countP (·.sameKey id) + 1)) loop = .ok onto ∧
      ∀ next ∈ after.head?, onto = .scalar next := by
  obtain ⟨actions, pending, start, steps, listed, _, _, _, run⟩ := ofValues_iff.1 traced
  have here : find? actions id = some loop := by
    simpa [actionAt?, listed, Except.toOption] using there
  have fresh : Tallied n id { pending } := by
    simp [Tallied, countOf, countAt]
  obtain ⟨s, action, m, tallied, came, found, step, leads⟩ :=
    run.arrives (fun found step kept => tallied_step here loops counted kept found step) fresh visits
  rw [find?_congr same, here] at found
  cases found
  obtain ⟨onto, led, gone⟩ := step.of_loop loops counted
  have count : countOf s.counts key = countAt n (before.countP (·.sameKey id)) := by
    have visited : s.visited.reverse = before := came
    rw [countOf_congr same, ← visited, List.countP_reverse]
    exact tallied
  refine ⟨onto, ?_, leads onto _ gone⟩
  simpa only [State.enter, count, round_countAt] using led

/-- A loop within a loop. The inner one is entered anew in every round of the outer one. -/
def nestedLoops : Graph :=
  .ofNodes "Rounds" (some "outer")
    [("outer",
      { id := "outer", kind := .loop, parameters := [(.text "LoopCount", .int 2)]
        transitions :=
          { conditions := [⟨.equals "ContinueLooping", some "inner"⟩, ⟨.equals "DoneLooping", some "end"⟩] } }),
      ("inner",
        { id := "inner", kind := .loop, parameters := [(.text "LoopCount", .int 1)]
          transitions :=
            { conditions :=
                [⟨.equals "ContinueLooping", some "say"⟩, ⟨.equals "DoneLooping", some "outer"⟩] } }),
      ("say", { id := "say", kind := .message, transitions := { next := some "inner" } }),
      ("end", { id := "end", kind := .disconnect })]

/-- The fourth visit of the inner loop is the end of its second round. -/
theorem rounds_of_nested : ∃ t loop,
    trace (Document.ofGraph nestedLoops (.text Document.defaultVersion) []) [] 200 = .ok t ∧
    t.visited = ["outer", "inner", "say", "inner", "outer", "inner", "say", "inner", "outer",
      "end"].map .text ∧
    actionAt? (Document.ofGraph nestedLoops (.text Document.defaultVersion) []) (.text "inner") =
      some loop ∧
    limit loop = .ok 1 ∧ operandAt 1 4 = "DoneLooping" ∧
    loopTarget (operandAt 1 4) loop = .ok (.text "outer") := by
  let visited := ["outer", "inner", "say", "inner", "outer", "inner", "say"]
  have traced : trace (Document.ofGraph nestedLoops (.text Document.defaultVersion) []) [] 200 =
      .ok ⟨(visited ++ ["inner", "outer", "end"]).map .text, [], .terminal⟩ := rfl
  obtain ⟨loop, there, typed, counted⟩ : ∃ loop,
      actionAt? (Document.ofGraph nestedLoops (.text Document.defaultVersion) [])
        (.text "inner") = some loop ∧
      field loop "Type" = .ok (.text ActionKind.loop.wire) ∧ limit loop = .ok 1 := ⟨_, rfl, rfl, rfl⟩
  have visits : (visited ++ ["inner", "outer", "end"]).map Scalar.text =
      visited.map .text ++ .text "inner" :: ["outer", "end"].map .text := rfl
  obtain ⟨onto, led, leads⟩ :=
    rounds_of_traced traced there typed counted visits (Scalar.sameKey_refl _)
  obtain rfl := leads (.text "outer") rfl
  exact ⟨_, loop, traced, rfl, there, counted, by decide, led⟩

end Trace

end ContactFlow
