import ContactFlow.Proofs.Built
import ContactFlow.Proofs.Compiled
import ContactFlow.Proofs.Plan
import ContactFlow.Proofs.Visits

/-!
What a node that was built does in the end: its references are resolved, and an input has its matches
turned into comparisons on its one stage. A node of an action does what the action asks for, and its
ways out are those of the branches that were opened.
-/

namespace ContactFlow

namespace Guard

/-- The operands of a condition once its stage is known. -/
def operandsIn (mode : InputMode) : Guard → List Scalar
  | .compare _ operands => operands
  | .input digits intent => (keyFor digits intent mode).toList

end Guard

/-- The operands of the conditions on a node that offers branches. -/
def Offer.operands : Offer → Guard → List Scalar
  | .input [mode], g => g.operandsIn mode
  | _, g => g.operands

/-- At most one stage of input is offered. -/
def Offer.IsSingle (o : Offer) : Prop := ∀ modes, o = .input modes → ∃ mode, modes = [mode]

theorem Offer.isSingle_percent (share : Scalar) : (Offer.percent share).IsSingle := nofun

namespace ConditionEdge

/-- The condition as a comparison on the stage. -/
def staged (mode : InputMode) (e : ConditionEdge) : ConditionEdge :=
  match e.guard with
  | .compare .. => e
  | .input digits intent => ⟨.compare "Equals" (Guard.keyFor digits intent mode).toList, e.target⟩

theorem operands_staged (mode : InputMode) (e : ConditionEdge) :
    (e.staged mode).guard.operands = e.guard.operandsIn mode := by
  obtain ⟨guard, target⟩ := e
  cases guard <;> rfl

theorem target_staged (mode : InputMode) (e : ConditionEdge) :
    (e.staged mode).target = e.target := by
  obtain ⟨guard, target⟩ := e
  cases guard <;> rfl

theorem lowered?_eq {mode : InputMode} {e e' : ConditionEdge} (lowered : e.lowered? mode = some e') :
    e' = e.staged mode := by
  obtain ⟨guard, target⟩ := e
  cases guard with
  | compare => exact (Option.some.inj lowered).symm
  | input digits intent =>
    obtain ⟨key, keyed, rfl⟩ := Option.map_eq_some_iff.1 lowered
    simp [staged, keyed]

end ConditionEdge

namespace Node

variable {n m : Node} {r : Registry}

/-- The node with its references resolved and its matches on input turned into comparisons. -/
def prepared (r : Registry) (n : Node) : Node :=
  if n.kind = .collectInput then
    Staging.withConditions (r.resolveNode n)
      (n.transitions.conditions.map (·.staged (n.mode.getD .keypad)))
  else r.resolveNode n

theorem kind_prepared (r : Registry) (n : Node) : (n.prepared r).kind = n.kind := by
  unfold prepared
  split <;> rfl

theorem next_prepared (r : Registry) (n : Node) :
    (n.prepared r).transitions.next = n.transitions.next := by
  unfold prepared
  split <;> rfl

theorem parameters_prepared (r : Registry) (n : Node) :
    (n.prepared r).parameters = Value.mapTableReferences r.replacement n.parameters := by
  unfold prepared
  split <;> rfl

/-- The operands of the conditions on a node. -/
def operands (n : Node) (g : Guard) : List Scalar :=
  if n.kind = .collectInput then g.operandsIn (n.mode.getD .keypad) else g.operands

theorem ways_prepared (r : Registry) (n : Node) :
    (n.prepared r).transitions.ways =
      n.transitions.conditions.map (fun e => (.operands (n.operands e.guard), e.target)) ++
        n.transitions.errors.map fun e => (.error e.kind, e.target) := by
  unfold prepared
  split
  · rename_i input
    simp only [Transitions.ways, Staging.withConditions, Registry.resolveNode, List.map_map,
      Function.comp_def, ConditionEdge.operands_staged, ConditionEdge.target_staged, operands,
      if_pos input]
  · rename_i other
    simp only [Transitions.ways, Registry.resolveNode, operands, if_neg other]

/-- The way that an operand leads is up to the conditions. -/
theorem byOperand_prepared (r : Registry) (n : Node) (v : String) :
    Way.byOperand v (n.prepared r).transitions.ways =
      (n.transitions.conditions.find? fun e => (n.operands e.guard).contains (.text v)).map
        (·.target) := by
  have untaken : (n.transitions.errors.map fun e => (Way.error e.kind, e.target)).find?
      (fun w => w.1.takes v) = none := by
    simp [Way.takes]
  rw [ways_prepared, Way.byOperand, List.find?_append, untaken, Option.or_none, List.find?_map,
    Option.map_map]
  rfl

end Node

theorem ActionKind.not_branching {k : ActionKind} (terminal : k.isTerminal) : ¬ k.isBranching := by
  cases k <;> simp [ActionKind.isTerminal, ActionKind.isBranching] at terminal ⊢

namespace Action

open Draft

variable {a : Action} {d : Draft} {n : Node} {r : Registry}

theorem offers_iff : a.offer ≠ .nothing ↔ a.kind.isBranching ∧ a.kind ≠ .loop := by
  cases a <;> simp [offer, kind, ActionKind.isBranching]

theorem nonterminal_of_offers (offers : a.offer ≠ .nothing) : ¬ a.kind.isTerminal := fun terminal =>
  ActionKind.not_branching terminal (offers_iff.1 offers).1

/-- Structured actions ask for nodes with one stage that are not tried again. -/
theorem draft_structured (structured : a.isStructured) (drafted : a.draft = .ok d) :
    d.spec = none ∧ d.retry = .good none := by
  by_cases input : a.kind = .collectInput
  · cases a with
    | collectInput c =>
      have once : c.maxAttempts.isAbove 1 = .ok false := by
        cases tries : c.maxAttempts.isAbove 1 with
        | error e => simp [isStructured, tries, Except.toOption] at structured
        | ok more => cases more <;> simp [isStructured, tries, Except.toOption] at structured ⊢
      have retry : retries c = .ok (.good none) := by
        unfold retries
        rw [once]
        rfl
      have plain (base stage : Table) : Yields (fun d => d.spec = none ∧ d.retry = .good none)
          (do pure { kind := .collectInput, hint := "collect_input", parameters := base ++ stage,
                     mode := some c.mode
                     retry := ← (.ok (.good none) : Except UsageError (Checked (Option RetrySpec))) } :
            Except UsageError Draft) := .ok ⟨rfl, rfl⟩
      have all : Yields (fun d => d.spec = none ∧ d.retry = .good none) (draft (.collectInput c)) := by
        rw [draft, collectionDraft, retry]
        refine .bind fun _ => .ite .error (.bind fun _ => .ite .error (.bind fun timeout => ?_))
        simp only
        split
        · exact .bind fun stage => plain _ stage
        · exact .bind fun stage => plain _ stage
      exact all d drafted
    | collectSequential spec => cases structured
    | _ => simp [kind] at input
  · obtain ⟨_, _, spec, retry⟩ := draft_plain a input d drafted
    exact ⟨spec, retry⟩

/-- A node of a terminal action ends a trace. -/
theorem site_ends (kind : n.kind = a.kind) (terminal : a.kind.isTerminal) :
    (n.prepared r).site = .ends := by
  rw [Node.site, Node.kind_prepared, kind, if_pos terminal]

/-- A node of an action that offers nothing sets what the action sets. -/
theorem site_goes (kind : n.kind = a.kind) (drafted : a.draft = .ok d)
    (parameters : n.parameters = d.parameters) (terminal : ¬ a.kind.isTerminal)
    (branching : ¬ a.kind.isBranching) :
    (n.prepared r).site = .goes (.ok (a.attributes r)) n.transitions.next := by
  have loop : a.kind ≠ .loop := by
    intro loop
    rw [loop] at branching
    exact branching rfl
  rw [Node.site, Node.kind_prepared, kind, if_neg terminal, if_neg loop, if_neg branching,
    Node.next_prepared]
  cases a with
  | setAttributes t =>
    rw [draft] at drafted
    split at drafted
    · cases drafted
    · cases drafted
      have sets : (setAttributes t).kind = .setAttributes := rfl
      rw [if_pos sets, Node.sets, Node.rendered, Node.parameters_prepared, parameters]
      rfl
  | _ => rfl

theorem compared_prepared (drafted : a.draft = .ok d) (parameters : n.parameters = d.parameters)
    (check : a.kind = .checkAttribute) : (n.prepared r).compared = .ok a.compared := by
  cases a with
  | checkAttribute name space =>
    rw [draft, attributeDraft] at drafted
    split at drafted
    · cases drafted
    · obtain ⟨name', named, drafted⟩ := Results.bind_eq_ok.1 drafted
      obtain ⟨space', spaced, drafted⟩ := Results.bind_eq_ok.1 drafted
      cases drafted
      have written {v : Value} {s : String} (done : v.written = .ok s) : s = v.display := by
        unfold Value.written at done
        split at done
        · exact (Except.ok.inj done).symm
        · cases done
      rw [Node.compared, Node.rendered, Node.parameters_prepared, parameters, written named,
        written spaced]
      rfl
  | _ => simp [kind] at check

/-- A node of an action that offers branches takes one of them. -/
theorem site_forks (kind : n.kind = a.kind) (drafted : a.draft = .ok d)
    (parameters : n.parameters = d.parameters) (offers : a.offer ≠ .nothing) :
    (n.prepared r).site = .forks (.ok a.compared) (n.prepared r).transitions.ways := by
  obtain ⟨branching, other⟩ := offers_iff.1 offers
  rw [Node.site, Node.kind_prepared, kind, if_neg (nonterminal_of_offers offers), if_neg other,
    if_pos branching]
  by_cases check : a.kind = .checkAttribute
  · rw [if_pos check, compared_prepared drafted parameters check]
  · rw [if_neg check]
    cases a <;> first | rfl | exact absurd rfl check

/-- A node of a loop goes round as often as the loop says. -/
theorem site_loops {times : Int} (kind : n.kind = .loop)
    (drafted : draft (.loop (.int times)) = .ok d) (parameters : n.parameters = d.parameters) :
    (n.prepared r).site = .loops (.ok times.toNat) (n.prepared r).transitions.ways := by
  have below : (Value.int times).isBelow 1 = .ok (decide (times < 1)) := rfl
  rw [draft, loopDraft, below, Results.ok_bind] at drafted
  split at drafted
  · cases drafted
  · rename_i enough
    have positive : 1 ≤ times := by simpa using enough
    obtain ⟨text, written, drafted⟩ := Results.bind_eq_ok.1 drafted
    cases drafted
    have terminal : ¬ ActionKind.loop.isTerminal := Bool.false_ne_true
    unfold Value.written at written
    split at written
    · rename_i writable
      cases written
      have nonneg : 0 ≤ times := Int.le_trans (by decide) positive
      have counts : (n.prepared r).parameters = [textKey "LoopCount" (toString times)] := by
        rw [Node.parameters_prepared, parameters]
        rfl
      have short : Numeral.isWritable times = true := writable
      rw [Node.site, Node.kind_prepared, kind, if_neg terminal, if_pos rfl,
        Node.limit_loopCount nonneg short counts, Int.toNat_of_nonneg nonneg]
    · cases written

/-- The conditions of an action's node have the operands that the action's offer gives them. -/
theorem operands_eq (kind : n.kind = a.kind) (drafted : a.draft = .ok d) (mode : n.mode = d.mode)
    (structured : a.isStructured) (g : Guard) : n.operands g = a.offer.operands g := by
  cases a with
  | collectInput c =>
    have one := (draft_single c d drafted).2.1
    have input : n.kind = .collectInput := kind
    rw [Node.operands, if_pos input, mode, one]
    rfl
  | collectSequential spec => cases structured
  | _ =>
    rw [Node.operands, if_neg (by rw [kind]; exact nofun)]
    rfl

end Action

/-! ### The ways that branches open -/

theorem Value.eq_of_written {v : Value} {text : String} (written : v.written = .ok text) :
    text = v.display := by
  unfold Value.written at written
  split at written
  · exact (Except.ok.inj written).symm
  · cases written

/-- How the edge of an opening is chosen. -/
def Opening.way (operands : Guard → List Scalar) : Opening → Way
  | .condition guard _ => .operands (operands guard)
  | .error kind => .error kind

namespace BranchSet

variable {s : BranchSet}

/-- A branch of a set is opened as its way says, and the set goes on with what is offered then. -/
structure OpensAs (s : BranchSet) (b : Branch) (r : Opening × BranchSet) : Prop where
  way : b.way? s.offer = some (r.1.way s.offer.operands, r.2.offer)
  node : r.2.node = s.node
  join : r.2.join = s.join
  operands : r.2.offer.operands = s.offer.operands
  single : r.2.offer.IsSingle

theorem OpensAs.same {b : Branch} {o : Opening} (single : s.offer.IsSingle)
    (way : b.way? s.offer = some (o.way s.offer.operands, s.offer)) : s.OpensAs b (o, s) :=
  ⟨way, rfl, rfl, rfl, single⟩

/-- What a caller enters or says for a branch is what the branch is opened for. -/
theorem given_eq {v : Value} {entry : Option Scalar} (read : entered v = .ok entry) :
    Branch.entries.given v = entry.toList := by
  rw [Branch.entries.given, read]
  rfl

theorem Catches.way {offer : Offer} {b : Branch} {kind : ErrorKind} (catches : Catches offer b kind) :
    b.way? offer = some (.error kind, offer) := by
  cases catches <;> simp [Branch.way?]

theorem Fixes.way {offer : Offer} {b : Branch} {operator : String} {operands key : List Scalar}
    (fixes : Fixes offer b operator operands key) : b.way? offer =
      some ((Opening.condition (.compare operator operands) key).way offer.operands, offer) := by
  cases fixes <;> rfl

theorem opensAs_opening (single : s.offer.IsSingle) (b : Branch) :
    Yields (s.OpensAs b) (s.opening b) := by
  intro r made
  cases opened_of_opening s b r made with
  | error catches => exact .same single catches.way
  | fixed fixes => exact .same single fixes.way
  | digits offered met read =>
    obtain ⟨mode, rfl⟩ := single _ offered
    cases List.mem_singleton.1 met
    exact .same single (by simp [offered, Branch.way?, Branch.entries, given_eq read, Opening.way,
      Offer.operands, Guard.operandsIn, Guard.keyFor])
  | intent offered met read =>
    obtain ⟨mode, rfl⟩ := single _ offered
    cases List.mem_singleton.1 met
    exact .same single (by simp [offered, Branch.way?, Branch.entries, given_eq read, Opening.way,
      Offer.operands, Guard.operandsIn, Guard.keyFor])
  | input offered _ _ _ read read' =>
    obtain ⟨mode, rfl⟩ := single _ offered
    refine ⟨?_, rfl, rfl, rfl, single⟩
    cases mode with
    | keypad => simp [offered, take, Branch.way?, Branch.entries, given_eq read, Opening.way,
        Offer.operands, Guard.operandsIn, Guard.keyFor]
    | speech => simp [offered, take, Branch.way?, Branch.entries, given_eq read', Opening.way,
        Offer.operands, Guard.operandsIn, Guard.keyFor]
  | compare offered _ written =>
    have shown := Value.eq_of_written written
    exact .same single (by simp [offered, Branch.way?, Opening.way, Offer.operands, Guard.operands,
      shown])
  | bucket offered granted =>
    have total := plus_of_withBucket granted
    refine ⟨?_, rfl, rfl, ?_, Offer.isSingle_percent _⟩
    · simp [offered, Branch.way?, total, Opening.way, Offer.operands, Guard.operands]
    · rw [offered]
      rfl

end BranchSet

end ContactFlow
