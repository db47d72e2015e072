import ContactFlow.Proofs.Checks
import ContactFlow.Proofs.Following
import ContactFlow.Proofs.Frames

/-!
Traces stay on the walk. A move of a node leads along one of its edges, so every node that a trace of
a graph's document visits is among those that validation reaches from the entry. What it reports as
unreachable is never visited, and a flow without a reachable terminal action never ends in one.
-/

namespace ContactFlow

open Trace (State)

theorem Value.orNull_injective {a b : Option String} (same : orNull a = orNull b) : a = b := by
  cases a <;> cases b <;> simp_all [orNull]

/-- Where a move leads: to the next action, or along one of the ways. -/
theorem Site.move_target {site : Site} {id x : String} {s s' : State}
    (moved : site.move id s = .ok (.go (.orNull (some x)) s')) :
    (∃ sets, site = .goes sets (some x)) ∨
      (∃ about ways way, site = .forks about ways ∧ (way, some x) ∈ ways) ∨
      ∃ limit ways way, site = .loops limit ways ∧ (way, some x) ∈ ways := by
  generalize here : Trace.Move.go (.orNull (some x)) s' = m at moved
  have chosen (target : Option String) {r : State}
      (here : Trace.Move.go (.orNull (some x)) s' = .go (.orNull target) r) : target = some x :=
    Value.orNull_injective (Trace.Move.go.inj here).1.symm
  cases Site.moves_of_move moved with
  | ends => cases here
  | deadEnd => cases here
  | awaits => cases here
  | goes =>
    cases chosen (some _) here
    exact .inl ⟨_, rfl⟩
  | compared _ led =>
    obtain ⟨way, among⟩ := Way.byAttribute_mem led
    exact .inr (.inl ⟨_, _, way, rfl, chosen _ here ▸ among⟩)
  | answered _ _ _ led =>
    obtain ⟨way, among⟩ := Way.byOutcome_mem led
    exact .inr (.inl ⟨_, _, way, rfl, chosen _ here ▸ among⟩)
  | counted led =>
    obtain ⟨way, among⟩ := Way.byOperand_mem led
    exact .inr (.inr ⟨_, _, way, rfl, chosen _ here ▸ among⟩)

theorem Transitions.mem_targets_of_way {t : Transitions} {way : Way} {x : String}
    (among : (way, some x) ∈ t.ways) : x ∈ t.targets := by
  rcases List.mem_append.1 among with condition | error
  · obtain ⟨e, member, here⟩ := List.mem_map.1 condition
    exact mem_targets_of_condition member (Prod.mk.inj here).2
  · obtain ⟨e, member, here⟩ := List.mem_map.1 error
    exact mem_targets_of_error member (Prod.mk.inj here).2

namespace Node

variable {n : Node} {s s' : State}

/-- A move of a node leads along one of the node's edges. -/
theorem mem_targets_of_move {x : String}
    (moved : n.site.move n.id s = .ok (.go (.orNull (some x)) s')) :
    x ∈ n.transitions.targets := by
  rcases Site.move_target moved with ⟨sets, here⟩ | ⟨about, ways, way, here, among⟩ |
    ⟨limit, ways, way, here, among⟩
  · exact Transitions.mem_targets.2 (.inl (next_of_goes here))
  · exact Transitions.mem_targets_of_way (ways_of_forks here ▸ among)
  · exact Transitions.mem_targets_of_way (ways_of_loops here ▸ among)

/-- A trace stops as terminated only at a terminal action. -/
theorem isTerminal_of_stop (moved : n.site.move n.id s = .ok (.stop .terminal)) :
    n.kind.isTerminal = true := by
  have ends : n.site = .ends := by
    rcases Site.move_stop moved with ⟨here, _⟩ | ⟨_, why⟩ | ⟨_, why⟩
    · exact here
    · cases why
    · cases why
  unfold site at ends
  split at ends
  · assumption
  · split at ends
    · cases ends
    · split at ends <;> cases ends

end Node

namespace Graph

variable {g : Graph} {t : Trace}

/-- From every key that the walk has come to, the edges that lead to keys at all lead to keys that it
has come to as well. A trace that is taken up inside such a set of keys stays inside. -/
theorem follow_inside {reached : List String} (named : ∀ e ∈ g.nodes, e.1 = e.2.id)
    (closed : ∀ n ∈ g.toList, n.id ∈ reached → ∀ x ∈ n.transitions.targets, x ∈ g.keys →
      x ∈ reached)
    {steps : Nat} {target : Option String} {s : State} (followed : g.follow steps target s = .ok t)
    (inside : ∀ id, target = some id → id ∈ g.keys → id ∈ reached)
    (before : ∀ v ∈ s.visited, ∃ id ∈ reached, v = .text id) :
    (∀ v ∈ t.visited, ∃ id ∈ reached, v = .text id) ∧
      (t.finish = .terminal → ∃ n ∈ g.toList, n.id ∈ reached ∧ n.kind.isTerminal = true) := by
  induction steps generalizing target s with
  | zero =>
    cases followed
    exact ⟨fun v visited => before v (List.mem_reverse.1 visited), fun ended => nomatch ended⟩
  | succ steps ih =>
    obtain ⟨n, member, rfl, outcome⟩ := follow_ok followed
    have key : n.id ∈ g.keys := by
      obtain ⟨e, among, rfl⟩ := List.mem_map.1 member
      exact List.mem_map.2 ⟨e, among, named e among⟩
    have here : n.id ∈ reached := inside n.id rfl key
    have visits : ∀ v ∈ (s.visit n.id).visited, ∃ id ∈ reached, v = .text id :=
      List.forall_mem_cons.2 ⟨⟨n.id, here, rfl⟩, before⟩
    rcases outcome with ⟨why, stopped, rfl⟩ | ⟨next, s', moved, followed⟩
    · refine ⟨fun v visited => visits v (List.mem_reverse.1 visited), fun ended => ?_⟩
      have ended : why = .terminal := ended
      exact ⟨n, member, here, Node.isTerminal_of_stop (ended ▸ stopped)⟩
    · refine ih followed (fun id leads key => ?_) ?_
      · exact closed n member here id (Node.mem_targets_of_move (leads ▸ moved)) key
      · rw [move_visited moved]
        exact visits

/-- In a graph whose nodes stand under their identifiers and which has its entry, a trace of the
document only visits what the walk of validation comes to. Nothing that is reported as unreachable is
visited, and where no terminal action is found to be reachable, no trace ends in one. -/
theorem visits_walked (distinct : g.keys.Nodup) (named : ∀ e ∈ g.nodes, e.1 = e.2.id)
    {first : String} (starts : g.entry = some first) (key : first ∈ g.keys)
    {version : Value} {more : Table} {outcomes limit : Value}
    (traced : Trace.ofValues (Document.ofGraph g version more) outcomes limit = .ok t) :
    (∀ v ∈ t.visited, ∃ id ∈ g.walk, v = .text id) ∧
    (∀ f ∈ Validator.reachability.run g, ∀ id, f.node = some id → .text id ∉ t.visited) ∧
    (Validator.terminalPresent.run g ≠ [] → t.finish ≠ .terminal) := by
  rw [ofValues_ofGraph] at traced
  obtain ⟨pending, _, traced⟩ := Results.bind_eq_ok.1 traced
  obtain ⟨steps, _, traced⟩ := Results.bind_eq_ok.1 traced
  have walking := walking_walk starts key
  have closed : ∀ n ∈ g.toList, n.id ∈ g.walk → ∀ x ∈ n.transitions.targets, x ∈ g.keys →
      x ∈ g.walk := fun n member walked x leads there =>
    walking.left n.id walked List.not_mem_nil x
      (mem_successors.2 ⟨n, (get?_iff named distinct).2 ⟨member, rfl⟩, leads, there⟩)
  obtain ⟨visited, terminal⟩ := follow_inside named closed traced
    (fun id here _ => by
      rw [starts] at here
      exact Option.some.inj here ▸ mem_walk_entry starts key)
    (by simp)
  refine ⟨visited, fun f found id about => ?_, fun reported ended => ?_⟩
  · obtain ⟨remark, among, rfl⟩ := List.mem_map.1 found
    obtain ⟨missed, absent, rfl⟩ := List.mem_map.1 among
    cases about
    intro there
    obtain ⟨id, walked, same⟩ := visited _ there
    cases same
    exact absurd walked (by simpa using (List.mem_filter.1 absent).2)
  · obtain ⟨n, member, walked, final⟩ := terminal ended
    have present : Check.terminalPresent g = [] := Check.terminalPresent_eq_nil.2
      ⟨n.id, walked, n, (get?_iff named distinct).2 ⟨member, rfl⟩, final⟩
    exact reported (congrArg (List.map _) present)

/-- A flow that keeps asking whether it is open. Its one terminal action is not reachable. -/
def asksHours : Graph :=
  .ofNodes "Hours" (some "hours")
    [("hours",
      { id := "hours", kind := .checkHours
        transitions :=
          { conditions := [⟨.equals "True", some "open"⟩, ⟨.equals "False", some "hours"⟩] } }),
      ("open", { id := "open", kind := .message, transitions := { next := some "hours" } }),
      ("late", { id := "late", kind := .disconnect })]

theorem visits_walked_hours :
    ∃ t, trace (Document.ofGraph asksHours (.text Document.defaultVersion) []) ["False", "True"] 10 =
        .ok t ∧
      t.visited = [.text "hours", .text "hours", .text "open", .text "hours"] ∧
      (∀ v ∈ t.visited, ∃ id ∈ asksHours.walk, v = .text id) ∧ .text "late" ∉ t.visited ∧
      t.finish ≠ .terminal := by
  have traced : trace (Document.ofGraph asksHours (.text Document.defaultVersion) [])
      ["False", "True"] 10 =
        .ok ⟨["hours", "hours", "open", "hours"].map .text, ["False", "True"], .awaitingInput⟩ := rfl
  obtain ⟨walked, unreached, endless⟩ :=
    visits_walked (by decide) (by decide) (rfl : asksHours.entry = some "hours") (by decide) traced
  exact ⟨_, traced, rfl, walked, unreached _ (.head _) "late" rfl, endless (by decide)⟩

end Graph

end ContactFlow
