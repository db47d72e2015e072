import ContactFlow.Proofs.Following
import ContactFlow.Proofs.Spelled
import ContactFlow.Proofs.Trying

/-!
Visits of the nodes that stand between an input and the handlers of its errors, and of the input
itself.
-/

namespace ContactFlow

namespace Trace

variable {counts : List (Scalar × Int)} {id id' : String} {k : Int}

@[simp] theorem countOf_cons_self : countOf ((.text id, k) :: counts) (.text id) = k := by
  simp [countOf, Scalar.sameKey_text]

theorem countOf_cons_other (other : id' ≠ id) :
    countOf ((.text id, k) :: counts) (.text id') = countOf counts (.text id') := by
  simp [countOf, Scalar.sameKey_text, other.symm]

/-- The state with a kind of error marked. -/
def State.marked (s : State) (kind : ErrorKind) : State :=
  { s with attributes := Ordered.put s.attributes (.text retryExitAttribute) kind.label }

end Trace

/-- A loop counts its visits up to the end of a round. -/
theorem Site.round_count (visits : Nat) {rounds : Int} (nonneg : 0 ≤ rounds) :
    (round ((visits : Int) % (rounds + 1) + 1) rounds).2 =
      ((visits + 1 : Nat) : Int) % (rounds + 1) := by
  have below := Int.emod_lt_of_pos (visits : Int) (show 0 < rounds + 1 by omega)
  have above := Int.emod_nonneg (visits : Int) (show rounds + 1 ≠ 0 by omega)
  have next : ((visits + 1 : Nat) : Int) % (rounds + 1) =
      ((visits : Int) % (rounds + 1) + 1) % (rounds + 1) := by
    rw [Int.emod_add_emod]
    rfl
  rw [next]
  generalize (visits : Int) % (rounds + 1) = count at below above
  by_cases again : count + 1 ≤ rounds
  · rw [round, if_pos again, Int.emod_eq_of_lt (by omega) (by omega)]
  · have whole : count + 1 = rounds + 1 := by omega
    rw [round, if_neg again, whole, Int.emod_self]

theorem Numeral.isWritable_pred {k : Int} (positive : 0 < k) (writable : isWritable k = true) :
    isWritable (k - 1) = true := by
  unfold isWritable at writable ⊢
  generalize limit = most at writable ⊢
  simp only [decide_eq_true_eq] at writable ⊢
  omega

namespace Node

open Draft

variable {n : Node}

theorem limit_loopCount {rounds : Int} (nonneg : 0 ≤ rounds)
    (writable : Numeral.isWritable rounds = true)
    (parameters : n.parameters = [textKey "LoopCount" (toString rounds)]) :
    n.limit = .ok rounds := by
  obtain ⟨k, rfl⟩ := Int.eq_ofNat_of_zero_le nonneg
  have read : Trace.field n.rendered "LoopCount" = .ok (.text (toString (k : Int))) := by
    rw [rendered, parameters]
    rfl
  have whole : Trace.loopCount (.text (toString (k : Int))) = .ok (k : Int) := by
    rw [Trace.loopCount, Spelling.whole_toString writable]
    rfl
  rw [limit, read, Results.ok_bind, whole]

theorem sets_mark {kind : ErrorKind} (parameters : n.parameters = Looping.mark kind) :
    n.sets = .ok [(.text retryExitAttribute, .text kind.label)] := by
  rw [sets, rendered, parameters]
  rfl

theorem compared_attribute (parameters : n.parameters =
    [textKey "ComparisonValue" ("$.Attributes." ++ retryExitAttribute)]) :
    n.compared = .ok (some retryExitAttribute) := by
  rw [compared, rendered, parameters]
  rfl

end Node

namespace Graph

open Trace (State)

variable {g : Graph} {n : Node} {s : State}

/-- A single visit. -/
theorem Leads.one {id : String} {s' : State} {next : Option String} (found : g.get? id = some n)
    (moved : n.site.move id (s.visit id) = .ok (.go (.orNull next) s')) :
    g.Leads (some id) s [id] next s' :=
  .visit found moved (.here next s')

theorem leads_message (tidy : g.Tidy) (member : n ∈ g.toList) (kind : n.kind = .message)
    {next : String} (goes : n.transitions.next = some next) :
    g.Leads (some n.id) s [n.id] (some next) (s.visit n.id) := by
  have site : n.site = .goes (.ok []) (some next) := by
    simp [Node.site, kind, ActionKind.isTerminal, ActionKind.isBranching, goes]
  refine .one (get?_mem tidy member) ?_
  rw [site]
  rfl

theorem leads_loop (tidy : g.Tidy) {rounds : Int} {entry exit loop : String} (nonneg : 0 ≤ rounds)
    (writable : Numeral.isWritable rounds = true)
    (loops : Looping.Loops (· ∈ g.toList) rounds entry exit loop) :
    (Trace.countOf s.counts (.text loop) + 1 ≤ rounds →
      g.Leads (some loop) s [loop] (some entry)
        ((s.visit loop).counted loop (Trace.countOf s.counts (.text loop) + 1))) ∧
    (rounds < Trace.countOf s.counts (.text loop) + 1 →
      g.Leads (some loop) s [loop] (some exit) ((s.visit loop).counted loop 0)) := by
  obtain ⟨l, member, rfl, kind, parameters, transitions⟩ := loops
  have site : l.site = .loops (.ok rounds) l.transitions.ways := by
    simp [Node.site, kind, ActionKind.isTerminal,
      Node.limit_loopCount nonneg writable parameters]
  have more : Way.byOperand "ContinueLooping" l.transitions.ways = some (some entry) := by
    rw [transitions]
    rfl
  have done : Way.byOperand "DoneLooping" l.transitions.ways = some (some exit) := by
    rw [transitions]
    rfl
  constructor
  · intro below
    refine .one (get?_mem tidy member) ?_
    have counted : Site.round (Trace.countOf (s.visit l.id).counts (.text l.id) + 1) rounds =
        ("ContinueLooping", Trace.countOf s.counts (.text l.id) + 1) := if_pos below
    simp only [site, Site.move, Results.ok_bind, counted, more]
    rfl
  · intro above
    refine .one (get?_mem tidy member) ?_
    have counted : Site.round (Trace.countOf (s.visit l.id).counts (.text l.id) + 1) rounds =
        ("DoneLooping", 0) := if_neg (Int.not_le.2 above)
    simp only [site, Site.move, Results.ok_bind, counted, done]
    rfl

theorem leads_marker (tidy : g.Tidy) {kind : ErrorKind} {id next : String}
    (marks : Looping.Marks (· ∈ g.toList) kind (some next) id) :
    g.Leads (some id) s [id] (some next) ((s.visit id).marked kind) := by
  obtain ⟨m, member, rfl, set, parameters, goes⟩ := marks
  have site : m.site = .goes m.sets (some next) := by
    simp [Node.site, set, ActionKind.isTerminal, ActionKind.isBranching, goes]
  refine .one (get?_mem tidy member) ?_
  rw [site, Node.sets_mark parameters]
  rfl

theorem label_injective {k k' : ErrorKind} (same : k.label = k'.label) : k = k' := by
  revert same
  cases k <;> cases k' <;> decide

/-- The comparison finds the handler that was marked, however often a kind is listed. -/
theorem find?_groups {groups : List (String × ErrorKind)} {h : String} {kind : ErrorKind}
    (once : ∀ a ∈ groups, ∀ b ∈ groups, a.2 = b.2 → a.1 = b.1) (member : (h, kind) ∈ groups) :
    ((groups.map fun (h, kind) => (⟨.equals kind.label, some h⟩ : ConditionEdge)).find?
      fun e => e.guard.operands.contains (.text kind.label)).map (·.target) = some (some h) := by
  have takes (k : ErrorKind) : (Guard.equals k.label).operands.contains (.text kind.label) = true ↔
      k = kind := by
    simp only [Guard.equals, Guard.operands, List.contains_cons, List.contains_nil, Bool.or_false,
      beq_iff_eq, Scalar.text.injEq]
    exact ⟨fun same => (label_injective same).symm, fun same => by rw [same]⟩
  obtain ⟨e, found⟩ : ∃ e, (groups.map fun (h, kind) =>
      (⟨.equals kind.label, some h⟩ : ConditionEdge)).find?
        (fun e => e.guard.operands.contains (.text kind.label)) = some e := by
    rw [← Option.isSome_iff_exists, List.find?_isSome]
    exact ⟨_, List.mem_map.2 ⟨(h, kind), member, rfl⟩, (takes kind).2 rfl⟩
  obtain ⟨⟨h', kind'⟩, member', rfl⟩ := List.mem_map.1 (List.mem_of_find?_eq_some found)
  have same := (takes kind').1 (List.find?_some (p := fun e : ConditionEdge =>
    e.guard.operands.contains (.text kind.label)) found)
  have here := once _ member' _ member same
  simp only at here
  rw [found, Option.map_some, here]

theorem leads_comparison (tidy : g.Tidy) {groups : List (String × ErrorKind)} {h id : String}
    {kind : ErrorKind} (compares : Looping.Compares (· ∈ g.toList) groups id)
    (once : ∀ a ∈ groups, ∀ b ∈ groups, a.2 = b.2 → a.1 = b.1) (member : (h, kind) ∈ groups)
    (marked : s.attributes.lookup (.text retryExitAttribute) = some kind.label) :
    g.Leads (some id) s [id] (some h) (s.visit id) := by
  obtain ⟨d, there, rfl, check, parameters, conditions⟩ := compares
  have site : d.site = .forks (.ok (some retryExitAttribute)) d.transitions.ways := by
    simp [Node.site, check, ActionKind.isTerminal, ActionKind.isBranching,
      Node.compared_attribute parameters]
  have known : (s.visit d.id).attributes.lookup (.text retryExitAttribute) = some kind.label :=
    marked
  have taken : Way.byAttribute kind.label d.transitions.ways = some (some h) := by
    rw [Way.byAttribute, Transitions.byOperand_ways, conditions, find?_groups once member]
  refine .one (get?_mem tidy there) ?_
  simp only [site, Site.move, Results.ok_bind, Option.bind_some, known, taken]
  rfl

/-- An input takes an outcome that leads somewhere. -/
theorem leads_input (tidy : g.Tidy) (member : n ∈ g.toList) (kind : n.kind = .collectInput)
    {o : String} {rest : List Value} {target : Option String} (pending : s.pending = .text o :: rest)
    (leads : Way.byOutcome o n.transitions.ways = some target) :
    g.Leads (some n.id) s [n.id] target ((s.visit n.id).taken o rest) := by
  have site : n.site = .forks (.ok none) n.transitions.ways := by
    simp [Node.site, kind, ActionKind.isTerminal, ActionKind.isBranching]
  have next : (s.visit n.id).pending = .text o :: rest := pending
  refine .one (get?_mem tidy member) ?_
  have text : Trace.shaped (Value.text o).asText = .ok o := rfl
  simp only [site, Site.move, Results.ok_bind, Option.bind_none, next, text, leads]
  rfl

end Graph

end ContactFlow
