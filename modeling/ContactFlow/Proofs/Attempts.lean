import ContactFlow.Proofs.Built
import ContactFlow.Proofs.Compiled
import ContactFlow.Proofs.Staging
import ContactFlow.Proofs.Visits

/-!
The budget of attempts. A failure of an input is counted by the input's loop. As long as there are
attempts left the loop leads back to the input; the last failure leads to its handler, and the count
starts anew. The way from a failure to its handler is the same whether the input has one handler or
several.
-/

namespace ContactFlow

/-- An outcome that names an error after which a node may be tried again, and its handler. -/
def Node.Fails (n : Node) (r : RetrySpec) (o h : String) : Prop :=
  ∃ kind, Way.named? o = some kind ∧ kind ∈ r.retryOn ∧
    n.transitions.errorTarget kind = some h ∧ n.transitions.conditions.find? (·.takes o) = none

namespace Way

theorem bare_of_named {o : String} {kind : ErrorKind} (names : named? o = some kind) :
    bare o = o := by
  by_contra other
  rw [named?, if_neg other] at names
  cases names

variable {t : Transitions} {o : String}

/-- An outcome that names an error is led by it, unless it is an operand. -/
theorem byOutcome_error {kind : ErrorKind} {h : String} (names : named? o = some kind)
    (other : t.conditions.find? (·.takes o) = none) (target : t.errorTarget kind = some h) :
    byOutcome o t.ways = some (some h) := by
  have none : byOperand o t.ways = none := by
    rw [Transitions.byOperand_ways]
    exact Option.map_eq_none_iff.2 other
  obtain ⟨e, found, leads⟩ := Option.bind_eq_some_iff.1 target
  rw [byOutcome, bare_of_named names, none, names]
  simp only [Option.bind_some, Transitions.byError_ways, found, Option.map_some, leads]

/-- An outcome that is an operand without its prefix is led by it. -/
theorem byOutcome_operand {target : Option String}
    (taken : (t.conditions.find? (·.takes (bare o))).map (·.target) = some target) :
    byOutcome o t.ways = some target := by
  have found : byOperand (bare o) t.ways = some target := by
    rw [Transitions.byOperand_ways]
    exact taken
  rw [byOutcome, found]

end Way

namespace Looping

variable {n : Node} {r : RetrySpec} {lead : String → String}

theorem errorTarget_redirect {kind : ErrorKind} {h : String} (tried : kind ∈ r.retryOn)
    (target : n.transitions.errorTarget kind = some h) :
    (n.redirected r lead).transitions.errorTarget kind = some (lead h) := by
  obtain ⟨e, found, leads⟩ := Option.bind_eq_some_iff.1 target
  have same : e.kind = kind := by simpa using List.find?_some found
  have retried : retries r e = true := by simp [retries, same, tried, leads]
  have kinds (e : ErrorEdge) :
      (if retries r e then { e with target := e.target.map lead } else e).kind = e.kind := by
    split <;> rfl
  simp only [Node.redirected, Transitions.errorTarget, redirect, List.find?_map, Function.comp_def,
    kinds, found, Option.map_some, Option.bind_some, retried, if_true, leads]

/-- An error that is not to be tried again keeps its handler. -/
theorem errorTarget_kept {kind : ErrorKind} {h : String} (other : kind ∉ r.retryOn)
    (target : n.transitions.errorTarget kind = some h) :
    (n.redirected r lead).transitions.errorTarget kind = some h := by
  obtain ⟨e, found, leads⟩ := Option.bind_eq_some_iff.1 target
  have same : e.kind = kind := by simpa using List.find?_some found
  have final : retries r e = false := by simp [retries, same, other]
  have kinds (e : ErrorEdge) :
      (if retries r e then { e with target := e.target.map lead } else e).kind = e.kind := by
    split <;> rfl
  simp only [Node.redirected, Transitions.errorTarget, redirect, List.find?_map, Function.comp_def,
    kinds, found, Option.map_some, Option.bind_some, final, Bool.false_eq_true, if_false, leads]

theorem handler_mem {kind : ErrorKind} {h : String} (tried : kind ∈ r.retryOn)
    (target : n.transitions.errorTarget kind = some h) :
    ∃ kind', (h, kind') ∈ handlers r n.transitions.errors := by
  obtain ⟨e, found, leads⟩ := Option.bind_eq_some_iff.1 target
  have same : e.kind = kind := by simpa using List.find?_some found
  refine (gathered_handlers r n.transitions.errors).all e (List.mem_filter.2 ⟨?_, ?_⟩) h leads
  · exact List.mem_of_find?_eq_some found
  · simp [retries, same, tried, leads]

/-- No kind of error is gathered for two handlers. -/
theorem handlers_once (once : n.transitions.kinds.Nodup) :
    ∀ a ∈ handlers r n.transitions.errors, ∀ b ∈ handlers r n.transitions.errors,
      a.2 = b.2 → a.1 = b.1 := by
  intro a first b second same
  have gathered := gathered_handlers r n.transitions.errors
  obtain ⟨e, inside, leads, kind⟩ := gathered.from_edges a first
  obtain ⟨e', inside', leads', kind'⟩ := gathered.from_edges b second
  have edge : e = e' := List.inj_on_of_nodup_map once (List.mem_of_mem_filter inside)
    (List.mem_of_mem_filter inside') (kind.trans (same.trans kind'.symm))
  rw [edge, leads'] at leads
  exact (Option.some.inj leads).symm

end Looping

namespace Graph

open Trace (State countOf)

/-- The outcomes left, and what the loops have counted. Other loops count nothing meanwhile. -/
structure Counts (loop : String) (s s' : State) (rest : List Value) (count : Int) : Prop where
  pending : s'.pending = rest
  count : countOf s'.counts (.text loop) = count
  others : ∀ id, id ≠ loop → countOf s'.counts (.text id) = countOf s.counts (.text id)

/-- A failure is counted by a loop, which leads back to the node that failed or on to its handler.
-/
structure Budget (g : Graph) (known : List String) (c loop : String) (prompts : List String)
    (limit : Int) (Fails : String → String → Prop) : Prop where
  own : c ∈ known
  apart : (loop :: prompts).Nodup
  fresh : ∀ id ∈ loop :: prompts, id ∉ known
  again : ∀ {s : State} {o h : String} {rest : List Value}, Fails o h →
    s.pending = .text o :: rest → countOf s.counts (.text loop) + 1 < limit →
    ∃ side s', g.Leads (some c) s (c :: (side ++ loop :: prompts)) (some c) s' ∧
      (∀ id ∈ side, id ∉ loop :: prompts ∧ id ∉ known) ∧
      Counts loop s s' rest (countOf s.counts (.text loop) + 1)
  done : ∀ {s : State} {o h : String} {rest : List Value}, Fails o h →
    s.pending = .text o :: rest → countOf s.counts (.text loop) + 1 = limit →
    ∃ side after s', g.Leads (some c) s (c :: (side ++ loop :: after)) (some h) s' ∧
      (∀ id ∈ side ++ after, id ∉ loop :: prompts ∧ id ∉ known) ∧ Counts loop s s' rest 0

variable {source g : Graph} {n : Node} {r : RetrySpec} {lead : String → String} {loop : String}
  {prompts : List String} {entry exit : String}

open Looping

/-- A node that was added between a node and its handlers besides the loop and the prompt. -/
def Aside (source g : Graph) (id : String) : Prop :=
  ∃ m, source.Adds g m ∧ m.id = id ∧ m.kind ≠ .loop ∧ m.kind ≠ .message

/-- A failure leads to the loop, and what is left by the exit of the loop then leads to the handler.
-/
theorem leads_failure (tidy : g.Tidy) (once : n.transitions.kinds.Nodup)
    (input : n.kind = .collectInput) (placed : n.redirected r lead ∈ g.toList)
    (exits : Exits (source.Adds g) loop (handlers r n.transitions.errors) lead exit)
    {s : State} {o h : String} {rest : List Value} (fails : n.Fails r o h)
    (pending : s.pending = .text o :: rest) :
    ∃ side s₁, g.Leads (some n.id) s (n.id :: side) (some loop) s₁ ∧ s₁.pending = rest ∧
      s₁.counts = s.counts ∧ (∀ id ∈ side, Aside source g id) ∧
      ∀ s₂ : State, s₂.attributes = s₁.attributes → ∃ after s₃,
        g.Leads (some exit) s₂ after (some h) s₃ ∧ s₃.pending = s₂.pending ∧
        s₃.counts = s₂.counts ∧ ∀ id ∈ after, Aside source g id := by
  obtain ⟨kind, names, retried, target, other⟩ := fails
  obtain ⟨kind', member⟩ := handler_mem retried target
  have taken : Way.byOutcome o (n.redirected r lead).transitions.ways = some (some (lead h)) :=
    Way.byOutcome_error names other (errorTarget_redirect retried target)
  have first : g.Leads (some n.id) s [n.id] (some (lead h)) ((s.visit n.id).taken o rest) :=
    leads_input tidy placed input pending taken
  have same := handlers_once (r := r) once
  generalize handlers r n.transitions.errors = groups at exits member same
  cases exits with
  | one =>
    obtain ⟨rfl, rfl⟩ := Prod.mk.inj (List.mem_singleton.1 member)
    exact ⟨[], _, first, rfl, rfl, nofun, fun s₂ _ => ⟨[], s₂, .here _ s₂, rfl, rfl, nofun⟩⟩
  | several marks compares =>
    have marked := marks (h, kind') member
    have onward : g.Leads (some (lead h)) ((s.visit n.id).taken o rest) [lead h] (some loop)
        ((((s.visit n.id).taken o rest).visit (lead h)).marked kind') :=
      leads_marker tidy (marked.mono fun _ added => added.1)
    refine ⟨[lead h], _, first.trans onward, rfl, rfl, ?_, fun s₂ attributes => ?_⟩
    · obtain ⟨m, added, name, set, _⟩ := marked
      intro id here
      rw [List.mem_singleton.1 here]
      exact ⟨m, added, name, by simp [set], by simp [set]⟩
    · have known : s₂.attributes.lookup (.text retryExitAttribute) = some kind'.label := by
        rw [attributes]
        exact Ordered.lookup_put_self _ _ _
      obtain ⟨d, added, name, check, rest⟩ := compares
      refine ⟨[exit], s₂.visit exit, ?_, rfl, rfl, fun id here => ?_⟩
      · exact leads_comparison tidy ⟨d, added.1, name, check, rest⟩ same member known
      · rw [List.mem_singleton.1 here]
        exact ⟨d, added, name, by simp [check], by simp [check]⟩

/-- What the expansion of retries leaves of a node is a budget of attempts. -/
theorem budget_of_tried (origin : source.Tidy) (tidy : g.Tidy) (member : n ∈ source.toList)
    (once : n.transitions.kinds.Nodup) (input : n.kind = .collectInput)
    (placed : n.redirected r lead ∈ g.toList) (more : 1 < r.maxAttempts)
    (writable : Numeral.isWritable r.maxAttempts = true)
    (tried : Tried (source.Adds g) n r lead loop prompts entry exit) :
    Budget g source.allocator.used n.id loop prompts r.maxAttempts (n.Fails r) := by
  obtain ⟨loops, back, exits⟩ := tried
  generalize r.retryPrompt = prompt at back
  have rounds := Numeral.isWritable_pred (by omega) writable
  obtain ⟨l, looped, loopId, loopKind, _⟩ := id loops
  have turn (s : State) := leads_loop (s := s) tidy (by omega) rounds
    (loops.mono fun _ _ added => added.1)
  have prompted (p : String) (among : p ∈ prompts) :
      ∃ m, source.Adds g m ∧ m.id = p ∧ m.kind = .message := by
    cases back with
    | straight => cases among
    | prompted _ added message =>
      rw [List.mem_singleton.1 among]
      exact ⟨_, added, rfl, message⟩
  have returns (s : State) : ∃ s', g.Leads (some entry) s prompts (some n.id) s' ∧
      s'.pending = s.pending ∧ s'.counts = s.counts := by
    cases back with
    | straight => exact ⟨s, .here _ s, rfl, rfl⟩
    | prompted _ added message _ next => exact ⟨_, leads_message tidy added.1 message next, rfl, rfl⟩
  have elsewhere (id : String) (aside : Aside source g id) :
      id ∉ loop :: prompts ∧ id ∉ source.allocator.used := by
    obtain ⟨m, added, rfl, noLoop, noMessage⟩ := aside
    refine ⟨fun among => ?_, added.2⟩
    rcases List.mem_cons.1 among with same | among
    · exact noLoop ((eq_of_id tidy added.1 looped.1 (same.trans loopId.symm)) ▸ loopKind)
    · obtain ⟨p, there, name, message⟩ := prompted m.id among
      exact noMessage ((eq_of_id tidy added.1 there.1 name.symm) ▸ message)
  refine
    { own := origin.used _ ((mem_keys origin).2 ⟨n, member, rfl⟩)
      apart := List.nodup_cons.2 ⟨?other, ?single⟩
      fresh := ?fresh
      again := ?again
      done := ?done }
  case other =>
    intro among
    obtain ⟨p, there, name, message⟩ := prompted loop among
    rw [eq_of_id tidy there.1 looped.1 (name.trans loopId.symm), loopKind] at message
    cases message
  case single =>
    cases back with
    | straight => exact List.nodup_nil
    | prompted => exact List.nodup_singleton _
  case fresh =>
    intro id among
    rcases List.mem_cons.1 among with rfl | among
    · exact loopId ▸ looped.2
    · obtain ⟨p, there, name, _⟩ := prompted id among
      exact name ▸ there.2
  case again =>
    intro s o h rest fails pending below
    obtain ⟨side, s₁, failed, left, counts, aside, _⟩ :=
      leads_failure tidy once input placed exits fails pending
    have round := (turn s₁).1 (by rw [counts]; omega)
    obtain ⟨s₃, again, left', counts'⟩ :=
      returns ((s₁.visit loop).counted loop (countOf s₁.counts (.text loop) + 1))
    refine ⟨side, s₃, failed.trans (round.trans again), fun id here => elsewhere id (aside id here),
      left'.trans left, ?_, fun id other => ?_⟩
    · rw [counts', ← counts]
      exact Trace.countOf_cons_self
    · rw [counts', ← counts]
      exact Trace.countOf_cons_other other
  case done =>
    intro s o h rest fails pending spent
    obtain ⟨side, s₁, failed, left, counts, aside, leaves⟩ :=
      leads_failure tidy once input placed exits fails pending
    have round := (turn s₁).2 (by rw [counts]; omega)
    obtain ⟨after, s₃, reached, left', counts', aside'⟩ :=
      leaves ((s₁.visit loop).counted loop 0) rfl
    refine ⟨side, after, s₃, failed.trans (round.trans reached), fun id here => ?_,
      left'.trans left, ?_, fun id other => ?_⟩
    · rcases List.mem_append.1 here with before | later
      · exact elsewhere id (aside id before)
      · exact elsewhere id (aside' id later)
    · rw [counts']
      exact Trace.countOf_cons_self
    · rw [counts', ← counts]
      exact Trace.countOf_cons_other other

/-! ### Rounds -/

/-- A path on which a node is tried so often, with so many prompts, and nothing else that is known
is visited. -/
structure Tries (known : List String) (c : String) (prompts path : List String)
    (tries again : Nat) : Prop where
  visits : path.count c = tries
  prompted : ∀ p ∈ prompts, path.count p = again
  others : ∀ id ∈ path, id ∈ known → id = c

namespace Tries

variable {known prompts path path' : List String} {c : String} {tries tries' again again' : Nat}

theorem append (first : Tries known c prompts path tries again)
    (second : Tries known c prompts path' tries' again') :
    Tries known c prompts (path ++ path') (tries + tries') (again + again') where
  visits := by rw [List.count_append, first.visits, second.visits]
  prompted := fun p among => by
    rw [List.count_append, first.prompted p among, second.prompted p among]
  others := fun id there => by
    rcases List.mem_append.1 there with before | later
    · exact first.others id before
    · exact second.others id later

theorem nil : Tries known c prompts [] 0 0 := ⟨by simp, by simp, by simp⟩

/-- A single visit, without a prompt. -/
theorem one (apart : c ∉ prompts) : Tries known c prompts [c] 1 0 where
  visits := List.count_singleton_self
  prompted := fun p among => by
    have other : c ≠ p := fun same => apart (same ▸ among)
    rw [List.count_cons_of_ne other, List.count_nil]
  others := fun id there _ => List.mem_singleton.1 there

end Tries

namespace Budget

variable {known : List String} {c : String} {limit : Int} {Fails : String → String → Prop}

/-- The path of one failure. -/
theorem round (budget : Budget g known c loop prompts limit Fails) {side tail : List String}
    {again : Nat} (aside : ∀ id ∈ side, id ∉ loop :: prompts ∧ id ∉ known)
    (strange : ∀ id ∈ tail, id ∉ known)
    (prompted : ∀ p ∈ prompts, tail.count p = again) :
    Tries known c prompts (c :: (side ++ loop :: tail)) 1 again := by
  obtain ⟨own, apart, fresh, _, _⟩ := budget
  have unknown (id : String) (there : id ∈ side ++ loop :: tail) : id ∉ known := by
    rcases List.mem_append.1 there with before | later
    · exact (aside id before).2
    · rcases List.mem_cons.1 later with rfl | later
      · exact fresh id List.mem_cons_self
      · exact strange id later
  have absent (id : String) (ours : id ∈ loop :: prompts) : side.count id = 0 ∧ c ≠ id :=
    ⟨List.count_eq_zero_of_not_mem fun there => (aside id there).1 ours,
      fun same => fresh id ours (same ▸ own)⟩
  refine ⟨?_, fun p among => ?_, fun id there among => ?_⟩
  · have free : c ∉ side ++ loop :: tail := fun there => unknown c there own
    rw [List.count_cons_self, List.count_eq_zero_of_not_mem free]
  · obtain ⟨aside, other⟩ := absent p (List.mem_cons_of_mem _ among)
    have apart : loop ≠ p := fun same => (List.nodup_cons.1 apart).1 (same ▸ among)
    rw [List.count_cons_of_ne other, List.count_append, aside, List.count_cons_of_ne apart,
      prompted p among, Nat.zero_add]
  · rcases List.mem_cons.1 there with here | later
    · exact here
    · exact absurd among (unknown id later)

/-- As long as there are attempts left, failures lead back to the node. -/
theorem rounds (budget : Budget g known c loop prompts limit Fails)
    {failures : List (String × String)} (fails : ∀ f ∈ failures, Fails f.1 f.2) {s : State}
    {rest : List Value} (pending : s.pending = failures.map (fun f => .text f.1) ++ rest)
    (below : countOf s.counts (.text loop) + failures.length < limit) :
    ∃ path s', g.Leads (some c) s path (some c) s' ∧
      Tries known c prompts path failures.length failures.length ∧
      Counts loop s s' rest (countOf s.counts (.text loop) + failures.length) := by
  induction failures generalizing s with
  | nil =>
    exact ⟨[], s, .here _ s, .nil, ⟨pending, by simp, fun _ _ => rfl⟩⟩
  | cons f later ih =>
    rw [List.length_cons] at below
    obtain ⟨own, apart, fresh, _, _⟩ := id budget
    obtain ⟨side, s₁, failed, aside, left, count, others⟩ :=
      budget.again (fails f List.mem_cons_self) pending (by omega)
    obtain ⟨path, s', onward, rounds, left', count', others'⟩ :=
      ih (s := s₁) (fun f' after => fails f' (List.mem_cons_of_mem _ after)) left
        (by rw [count]; push_cast at below; omega)
    have first := budget.round aside
      (fun p among => fresh p (List.mem_cons_of_mem _ among))
      (fun p among => List.count_eq_one_of_mem (List.nodup_cons.1 apart).2 among)
    refine ⟨_, s', failed.trans onward, ?_, left', ?_, fun id other => ?_⟩
    · rw [List.length_cons, Nat.add_comm]
      exact first.append rounds
    · rw [count', count, List.length_cons]
      push_cast
      omega
    · rw [others' id other, others id other]

/-- The failure that spends the last attempt leads to its handler, and the count starts anew. -/
theorem spent (budget : Budget g known c loop prompts limit Fails)
    {failures : List (String × String)} (fails : ∀ f ∈ failures, Fails f.1 f.2) {o h : String}
    (last : Fails o h) {s : State} {rest : List Value}
    (pending : s.pending = failures.map (fun f => .text f.1) ++ .text o :: rest)
    (spent : countOf s.counts (.text loop) + failures.length + 1 = limit) :
    ∃ path s', g.Leads (some c) s path (some h) s' ∧
      Tries known c prompts path (failures.length + 1) failures.length ∧
      Counts loop s s' rest 0 := by
  obtain ⟨path, s₁, failed, rounds, left, count, others⟩ :=
    budget.rounds fails pending (by omega)
  obtain ⟨side, after, s', reached, aside, left', count', others'⟩ :=
    budget.done last left (by rw [count]; exact spent)
  have final : Tries known c prompts (c :: (side ++ loop :: after)) 1 0 := budget.round
    (fun id before => aside id (List.mem_append_left _ before))
    (fun id there => (aside id (List.mem_append_right _ there)).2)
    (fun p among => List.count_eq_zero_of_not_mem fun there =>
      (aside p (List.mem_append_right _ there)).1 (List.mem_cons_of_mem _ among))
  exact ⟨_, s', failed.trans reached, rounds.append final, left', count',
    fun id other => by rw [others' id other, others id other]⟩

end Budget

/-! ### Attempts -/

/-- How many attempts are left at a node. Without a loop to count them there are all of them. -/
def Left (loop : Option String) (limit : Int) (s : State) (left : Int) : Prop :=
  match loop with
  | none => left = limit
  | some l => countOf s.counts (.text l) + left = limit

/-- Failures that are fewer than the attempts left lead back to a node, and the one that takes the
last attempt leads to its handler. -/
structure Endures (g : Graph) (known : List String) (c : String) (loop : Option String)
    (prompts : List String) (limit : Int) (Fails : String → String → Prop) : Prop where
  own : c ∈ known
  fresh : ∀ p ∈ prompts, p ∉ known
  rounds : ∀ {failures : List (String × String)} {s : State} {left : Int} {rest : List Value},
    (∀ f ∈ failures, Fails f.1 f.2) → Left loop limit s left → failures.length < left →
    s.pending = failures.map (fun f => .text f.1) ++ rest →
    ∃ path s', g.Leads (some c) s path (some c) s' ∧ s'.pending = rest ∧
      Tries known c prompts path failures.length failures.length
  spent : ∀ {failures : List (String × String)} {o h : String} {s : State} {left : Int}
    {rest : List Value},
    (∀ f ∈ failures ++ [(o, h)], Fails f.1 f.2) → Left loop limit s left →
    failures.length + 1 = left →
    s.pending = failures.map (fun f => .text f.1) ++ .text o :: rest →
    ∃ path s', g.Leads (some c) s path (some h) s' ∧ s'.pending = rest ∧
      Tries known c prompts path (failures.length + 1) failures.length ∧
      (∀ l ∈ loop, countOf s'.counts (.text l) = 0) ∧
      ∀ id, id ∉ loop → countOf s'.counts (.text id) = countOf s.counts (.text id)

theorem Budget.endures {known : List String} {c : String} {limit : Int}
    {Fails : String → String → Prop} (budget : Budget g known c loop prompts limit Fails) :
    Endures g known c (some loop) prompts limit Fails where
  own := budget.own
  fresh := fun p among => budget.fresh p (List.mem_cons_of_mem _ among)
  rounds := fun {failures s left rest} fails ready below pending => by
    have ready : countOf s.counts (.text loop) + left = limit := ready
    obtain ⟨path, s', leads, tries, counts⟩ := budget.rounds fails pending (by omega)
    exact ⟨path, s', leads, counts.pending, tries⟩
  spent := fun {failures o h s left rest} fails ready last pending => by
    have ready : countOf s.counts (.text loop) + left = limit := ready
    obtain ⟨path, s', leads, tries, counts⟩ := budget.spent
      (fun f among => fails f (List.mem_append_left _ among))
      (fails (o, h) (List.mem_append_right _ (List.mem_singleton_self _))) pending (by omega)
    refine ⟨path, s', leads, counts.pending, tries, fun l here => ?_, fun id other => ?_⟩
    · cases here
      exact counts.count
    · exact counts.others id fun same => other (same ▸ rfl)

/-- A node with a single attempt, or without any handler to be tried for, needs no loop. -/
theorem endures_once (tidy : g.Tidy) {known : List String} (own : n.id ∈ known)
    (member : n ∈ g.toList) (input : n.kind = .collectInput) {limit : Int}
    (once : limit = 1 ∨ ∀ o h, ¬ n.Fails r o h) :
    Endures g known n.id none [] limit (n.Fails r) where
  own := own
  fresh := by simp
  rounds := fun {failures s left rest} fails ready below pending => by
    have ready : left = limit := ready
    cases failures with
    | nil => exact ⟨[], s, .here _ s, pending, .nil⟩
    | cons f later =>
      rcases once with single | never
      · rw [List.length_cons] at below
        omega
      · exact absurd (fails f List.mem_cons_self) (never f.1 f.2)
  spent := fun {failures o h s left rest} fails ready last pending => by
    have ready : left = limit := ready
    have failed := fails (o, h) (List.mem_append_right _ (List.mem_singleton_self _))
    rcases once with single | never
    · have none : failures = [] := List.length_eq_zero_iff.1 (by omega)
      subst none
      obtain ⟨kind, names, _, target, other⟩ := failed
      have leads := leads_input (s := s) tidy member input pending
        (Way.byOutcome_error names other target)
      exact ⟨[n.id], _, leads, rfl, .one (by simp), by simp, fun _ _ => rfl⟩
    · exact absurd failed (never o h)

end Graph

/-! ### Attempts in a compiled flow

The attempts of an input in a compiled flow, whether a loop counts them or there is only one. What
makes an input fail and what makes it go on is told by the input as it was built.
-/

open Trace (State countOf)
open ContactFlow.Graph (Tries Left)

namespace Node

/-- An outcome that is an operand of a stage once its prefix is removed, and where it leads. -/
def Takes (n : Node) (mode : InputMode) (o : String) (target : Option String) : Prop :=
  ∃ e ∈ n.transitions.conditions,
    e.guard.key? mode = some (.text (Way.bare o)) ∧ e.target = target

/-- An outcome without a prefix that names an error and is no operand of a stage. -/
def Errs (n : Node) (mode : InputMode) (o : String) (kind : ErrorKind) : Prop :=
  Way.named? o = some kind ∧ ∀ e ∈ n.transitions.conditions, e.guard.key? mode ≠ some (.text o)

/-- An outcome that names one of some errors, and the handler of the error. -/
def Retries (n : Node) (mode : InputMode) (kinds : List ErrorKind) (o h : String) : Prop :=
  ∃ kind ∈ kinds, n.Errs mode o kind ∧ n.transitions.errorTarget kind = some h

/-- An outcome that is an operand or names any other error, and where it leads. -/
def Leaves (n : Node) (mode : InputMode) (kinds : List ErrorKind) (o : String)
    (target : Option String) : Prop :=
  n.Takes mode o target ∨
    ∃ kind h, kind ∉ kinds ∧ n.Errs mode o kind ∧ n.transitions.errorTarget kind = some h ∧
      target = some h

/-- What makes an input go on once its conditions are those of a stage. -/
def Goes (n : Node) (r : RetrySpec) (o : String) (target : Option String) : Prop :=
  (n.transitions.conditions.find? (·.takes (Way.bare o))).map (·.target) = some target ∨
    ∃ kind h, kind ∉ r.retryOn ∧ Way.named? o = some kind ∧
      n.transitions.errorTarget kind = some h ∧
      n.transitions.conditions.find? (·.takes o) = none ∧ target = some h

variable {n : Node} {mode : InputMode} {o : String}

/-- The conditions that a stage has know the operands of the input for the stage, and only them. -/
theorem Proper.takes_lowered (proper : n.Proper) (input : n.kind = .collectInput)
    {target : Option String} (takes : n.Takes mode o target) :
    ((n.transitions.conditions.filterMap (·.lowered? mode)).find?
      (·.takes (Way.bare o))).map (·.target) = some target := by
  obtain ⟨e, member, keyed, rfl⟩ := takes
  refine find?_lowered (fun e there => ?_) ?_ member keyed
  · exact proper.inputs input e.guard (List.mem_map_of_mem there)
  · exact List.pairwise_map.1 (proper.apart input)

theorem Proper.errs_lowered (proper : n.Proper) (input : n.kind = .collectInput)
    {kind : ErrorKind} (errs : n.Errs mode o kind) :
    (n.transitions.conditions.filterMap (·.lowered? mode)).find? (·.takes o) = none :=
  find?_lowered_none (fun e there => proper.inputs input e.guard (List.mem_map_of_mem there)) errs.2

end Node

/-- What the outcomes of an input lead to from a point on where it has so many attempts left. -/
structure Attempts (document : Value) (known : List String) (c : String) (prompts : List String)
    (left : Int) (Fails : String → String → Prop) (Leaves : String → Option String → Prop)
    (s : State) : Prop where
  /-- After fewer failures, an outcome that leaves the input leads where it leads. -/
  leaves : ∀ {failures : List (String × String)} {o : String} {target : Option String}
    {rest : List Value}, (∀ f ∈ failures, Fails f.1 f.2) → failures.length < left →
    Leaves o target → s.pending = failures.map (fun f => .text f.1) ++ .text o :: rest →
    ∃ path s', Document.Passes document (some c) s path target s' ∧ s'.pending = rest ∧
      Tries known c prompts path (failures.length + 1) failures.length
  /-- The last of so many failures leads to its own handler. -/
  fails : ∀ {failures : List (String × String)} {o h : String} {rest : List Value},
    (∀ f ∈ failures ++ [(o, h)], Fails f.1 f.2) → failures.length + 1 = left →
    s.pending = failures.map (fun f => .text f.1) ++ .text o :: rest →
    ∃ path s', Document.Passes document (some c) s path (some h) s' ∧ s'.pending = rest ∧
      Tries known c prompts path (failures.length + 1) failures.length

namespace Graph

/-- An input in a graph: its failures are counted up to a limit, and other outcomes lead on. -/
structure Serves (g : Graph) (known : List String) (c : String) (loop : Option String)
    (prompts : List String) (limit : Int) (Fails : String → String → Prop)
    (Leaves : String → Option String → Prop) : Prop where
  tidy : g.Tidy
  endures : g.Endures known c loop prompts limit Fails
  leaves : ∀ {o : String} {target : Option String}, Leaves o target → ∀ {s : State}
    {rest : List Value}, s.pending = .text o :: rest →
    g.Leads (some c) s [c] target ((s.visit c).taken o rest)

variable {g : Graph} {known known' : List String} {c : String} {loop : Option String}
  {prompts : List String} {limit : Int} {Fails Fails' : String → String → Prop}
  {Leaves Leaves' : String → Option String → Prop}

theorem Tries.fewer {path : List String} {tries again : Nat}
    (tried : Tries known c prompts path tries again) (less : known' ⊆ known) :
    Tries known' c prompts path tries again :=
  ⟨tried.visits, tried.prompted, fun id there among => tried.others id there (less among)⟩

/-- Less need be known, and fewer outcomes need be failures or lead on. -/
theorem Serves.weaken (serves : g.Serves known c loop prompts limit Fails Leaves)
    (own : c ∈ known') (less : known' ⊆ known) (fewer : ∀ o h, Fails' o h → Fails o h)
    (fewer' : ∀ o target, Leaves' o target → Leaves o target) :
    g.Serves known' c loop prompts limit Fails' Leaves' := by
  obtain ⟨tidy, ⟨_, fresh, rounds, spent⟩, leaves⟩ := serves
  refine ⟨tidy, ⟨own, fun p among there => fresh p among (less there), ?_, ?_⟩, ?_⟩
  · intro failures s left rest fails ready below pending
    obtain ⟨path, s', leads, left, tries⟩ :=
      rounds (fun f among => fewer _ _ (fails f among)) ready below pending
    exact ⟨path, s', leads, left, tries.fewer less⟩
  · intro failures o h s left rest fails ready last pending
    obtain ⟨path, s', leads, left, tries, counts⟩ :=
      spent (fun f among => fewer _ _ (fails f among)) ready last pending
    exact ⟨path, s', leads, left, tries.fewer less, counts⟩
  · exact fun {o target} goes => leaves (fewer' o target goes)

/-- The attempts left at an input. -/
theorem Serves.attempts (serves : g.Serves known c loop prompts limit Fails Leaves) {s : State}
    {left : Int} (ready : Left loop limit s left) (version : Value) (more : Table) :
    Attempts (Document.ofGraph g version more) known c prompts left Fails Leaves s := by
  refine ⟨?_, ?_⟩
  · intro failures o target rest fails below goes pending
    obtain ⟨path, s₁, failed, remain, tries⟩ := serves.endures.rounds fails ready below pending
    have apart : c ∉ prompts := fun among => serves.endures.fresh c among serves.endures.own
    exact ⟨_, _, (failed.trans (serves.leaves goes remain)).passes serves.tidy version more, rfl,
      tries.append (.one apart)⟩
  · intro failures o h rest fails last pending
    obtain ⟨path, s', reached, remain, tries, _⟩ :=
      serves.endures.spent fails ready last pending
    exact ⟨path, s', reached.passes serves.tidy version more, remain, tries⟩

end Graph

/-- A loop for an input, and the prompt on the way back, of which there may be none. -/
def Looping.Encloses (P : Node → Prop) (c : String) (r : RetrySpec) (loop : String)
    (prompts : List String) : Prop :=
  ∃ entry exit, Looping.Loops P (r.maxAttempts - 1) entry exit loop ∧
    Looping.Back P c r.retryPrompt prompts entry

theorem Looping.Encloses.mono {P Q : Node → Prop} {c loop : String} {r : RetrySpec}
    {prompts : List String} (serves : Looping.Encloses P c r loop prompts) (kept : ∀ m, P m → Q m) :
    Looping.Encloses Q c r loop prompts := by
  obtain ⟨entry, exit, loops, back⟩ := serves
  exact ⟨entry, exit, loops.mono fun m _ => kept m, back.mono fun m _ => kept m⟩

namespace Compiler

variable {c : Compiler} {g staged expanded : Graph} {m : Node} {r : RetrySpec} {limit : Int}

/-- Whatever an input is when the retries are expanded, it serves as many attempts as it should. -/
theorem Stages.serves (stages : Stages c g staged expanded) (tidy : staged.Tidy)
    (member : m ∈ staged.toList) (input : m.kind = .collectInput)
    (once : m.transitions.kinds.Nodup) (attempts : r.maxAttempts = limit) (positive : 1 ≤ limit)
    (retry : m.retry = if 1 < limit then some r else none) :
    ∃ loop prompts,
      expanded.Serves staged.allocator.used m.id loop prompts limit (m.Fails r) (m.Goes r) ∧
      (∀ l ∈ loop, Looping.Encloses (staged.Adds expanded) m.id r l prompts ∧
        Numeral.isWritable (r.maxAttempts - 1) = true) ∧
      (loop = none → prompts = []) ∧
      (1 < limit → Looping.handlers r m.transitions.errors ≠ [] → loop.isSome) := by
  have tidy' : expanded.Tidy := stages.expanded_eq ▸ (ExpandRetries.expanded tidy).tidy
  have own : m.id ∈ staged.allocator.used :=
    tidy.used _ ((Graph.mem_keys tidy).2 ⟨m, member, rfl⟩)
  by_cases looped : 1 < limit ∧ Looping.handlers r m.transitions.errors ≠ []
  · obtain ⟨more, handled⟩ := looped
    rw [if_pos more] at retry
    obtain ⟨writable, lead, loop, prompts, entry, exit, placed, tried⟩ :=
      ExpandRetries.tried tidy stages.retries member retry (by omega) handled
    rw [← stages.expanded_eq] at placed tried
    have budget := Graph.budget_of_tried tidy tidy' member once input placed (by omega) writable tried
    rw [attempts] at budget
    refine ⟨some loop, prompts, ⟨tidy', budget.endures, ?_⟩, ?_, nofun, fun _ _ => rfl⟩
    · intro o target goes s rest pending
      refine Graph.leads_input tidy' placed input pending ?_
      rcases goes with operand | ⟨kind, h, other, names, target, free, rfl⟩
      · exact Way.byOutcome_operand operand
      · exact Way.byOutcome_error names free (Looping.errorTarget_kept other target)
    · rintro l ⟨⟩
      exact ⟨⟨entry, exit, tried.loops, tried.back⟩,
        Numeral.isWritable_pred (by omega) writable⟩
  · have idle (r' : RetrySpec) (known : m.retry = some r') :
        r'.maxAttempts ≤ 1 ∨ Looping.handlers r' m.transitions.errors = [] := by
      rw [known] at retry
      split at retry
      · cases retry
        exact .inr (by
          by_contra handled
          exact looped ⟨‹_›, handled⟩)
      · cases retry
    have placed := ExpandRetries.other tidy stages.retries member idle
    rw [← stages.expanded_eq] at placed
    have single : limit = 1 ∨ ∀ o h, ¬ m.Fails r o h := by
      by_cases more : 1 < limit
      · refine .inr fun o h ⟨kind, _, retried, target, _⟩ => looped ⟨more, ?_⟩
        exact List.ne_nil_of_mem (Looping.handler_mem retried target).choose_spec
      · exact .inl (by omega)
    refine ⟨none, [], ⟨tidy', Graph.endures_once tidy' own placed input single, ?_⟩, nofun,
      fun _ => rfl, fun more handled => absurd ⟨more, handled⟩ looped⟩
    intro o target goes s rest pending
    refine Graph.leads_input tidy' placed input pending ?_
    rcases goes with operand | ⟨kind, h, _, names, target, free, rfl⟩
    · exact Way.byOutcome_operand operand
    · exact Way.byOutcome_error names free target

end Compiler

end ContactFlow
