import ContactFlow.Expansion.Stage
import ContactFlow.Proofs.Expanding
import ContactFlow.Proofs.Orderly
import ContactFlow.Proofs.Site

/-!
What the expansion of inputs makes of each node: an input with one stage has its conditions lowered,
an input in two stages is split, and no other node changes.
-/

namespace ContactFlow

namespace Guard

/-- The key that a stage takes a match on input for. -/
def key? (mode : InputMode) : Guard → Option Scalar
  | .input digits intent => keyFor digits intent mode
  | .compare .. => none

end Guard

namespace ConditionEdge

/-- The condition as a stage has it. -/
def lowered? (mode : InputMode) (e : ConditionEdge) : Option ConditionEdge :=
  match e.guard with
  | .compare .. => some e
  | .input digits intent =>
    (Guard.keyFor digits intent mode).map fun key => ⟨.compare "Equals" [key], e.target⟩

end ConditionEdge

theorem lowerConditions_ok {mode : InputMode} {strict : Bool} {es lowered : List ConditionEdge}
    (done : lowerConditions mode strict es = .ok lowered) :
    lowered = es.filterMap (·.lowered? mode) ∧
      (strict = true → ∀ e ∈ es, (e.lowered? mode).isSome) := by
  induction es generalizing lowered with
  | nil =>
    cases done
    exact ⟨rfl, by simp⟩
  | cons e rest ih =>
    obtain ⟨guard, target⟩ := e
    cases guard with
    | compare operator operands =>
      obtain ⟨tail, onward, rfl⟩ := Results.map_eq_ok.1 done
      obtain ⟨rfl, all⟩ := ih onward
      refine ⟨rfl, fun strictly e member => ?_⟩
      rcases List.mem_cons.1 member with rfl | later
      · rfl
      · exact all strictly e later
    | input digits intent =>
      simp only [lowerConditions] at done
      cases keyed : Guard.keyFor digits intent mode with
      | some key =>
        rw [keyed] at done
        obtain ⟨tail, onward, rfl⟩ := Results.map_eq_ok.1 done
        obtain ⟨rfl, all⟩ := ih onward
        have here : ConditionEdge.lowered? mode ⟨.input digits intent, target⟩ =
            some ⟨.compare "Equals" [key], target⟩ := by
          simp [ConditionEdge.lowered?, keyed]
        refine ⟨by rw [List.filterMap_cons, here], fun strictly e member => ?_⟩
        rcases List.mem_cons.1 member with rfl | later
        · rw [here]
          rfl
        · exact all strictly e later
      | none =>
        rw [keyed] at done
        cases strict with
        | true => cases done
        | false =>
          obtain ⟨rfl, _⟩ := ih (by simpa using done)
          have here : ConditionEdge.lowered? mode ⟨.input digits intent, target⟩ = none := by
            simp [ConditionEdge.lowered?, keyed]
          refine ⟨by rw [List.filterMap_cons, here], fun strictly => by cases strictly⟩

/-- A stage that others complement has every condition that it can meet. -/
theorem stageConditions_eq (mode : InputMode) (es : List ConditionEdge) :
    stageConditions mode es = es.filterMap (·.lowered? mode) := by
  have never : ∃ lowered, lowerConditions mode false es = .ok lowered := by
    induction es with
    | nil => exact ⟨[], rfl⟩
    | cons e rest ih =>
      obtain ⟨lowered, done⟩ := ih
      obtain ⟨guard, target⟩ := e
      cases guard with
      | compare operator operands => exact ⟨_, by rw [lowerConditions, done]; rfl⟩
      | input digits intent =>
        simp only [lowerConditions]
        cases Guard.keyFor digits intent mode with
        | some key => exact ⟨_, by rw [done]; rfl⟩
        | none => exact ⟨lowered, by simpa using done⟩
  obtain ⟨lowered, done⟩ := never
  rw [stageConditions, done]
  exact (lowerConditions_ok done).1

namespace ConditionEdge

variable {mode : InputMode} {e : ConditionEdge}

theorem lowered?_input (input : e.guard.isInput) :
    e.lowered? mode = (e.guard.key? mode).map fun key => ⟨.compare "Equals" [key], e.target⟩ := by
  obtain ⟨guard, target⟩ := e
  cases guard with
  | compare => cases input
  | input digits intent => rfl

end ConditionEdge

/-- Matches on input that share no key have no operand in common. -/
theorem Guard.Apart.key?_ne {g g' : Guard} {mode : InputMode} {key : Scalar} (apart : g.Apart g')
    (keyed : g'.key? mode = some key) : g.key? mode ≠ some key := by
  cases g with
  | compare => exact nofun
  | input digits intent =>
    cases g' with
    | compare => cases keyed
    | input digits' intent' =>
      cases mode with
      | keypad => exact fun same => apart.1 key same keyed
      | speech => exact fun same => apart.2 key same keyed

section Lowered

variable {mode : InputMode} {es : List ConditionEdge} {v : String}

/-- The condition of a stage that takes an operand. -/
def ConditionEdge.takes (v : String) (e : ConditionEdge) : Bool := e.guard.operands.contains (.text v)

theorem takes_lowered {key : Scalar} {target : Option String} :
    ConditionEdge.takes v ⟨.compare "Equals" [key], target⟩ = (key == .text v) := by
  simp only [ConditionEdge.takes, Guard.operands, List.contains_cons, List.contains_nil, Bool.or_false]
  exact Bool.beq_comm

/-- Of the lowered conditions of an input, the one with a key is found by it. -/
theorem find?_lowered (inputs : ∀ e ∈ es, e.guard.isInput)
    (apart : es.Pairwise fun e e' => e.guard.Apart e'.guard) {e : ConditionEdge} (member : e ∈ es)
    (keyed : e.guard.key? mode = some (.text v)) :
    ((es.filterMap (·.lowered? mode)).find? (·.takes v)).map (·.target) = some e.target := by
  induction es with
  | nil => cases member
  | cons k rest ih =>
    have input := inputs k List.mem_cons_self
    obtain ⟨others, separate⟩ := List.pairwise_cons.1 apart
    rcases List.mem_cons.1 member with rfl | later
    · rw [List.filterMap_cons, ConditionEdge.lowered?_input input, keyed]
      simp [takes_lowered]
    · have onward := ih (fun e later => inputs e (List.mem_cons_of_mem _ later)) separate later
      have other := (others e later).key?_ne keyed
      rw [List.filterMap_cons, ConditionEdge.lowered?_input input]
      cases key : k.guard.key? mode with
      | none => exact onward
      | some key' =>
        have unlike : (key' == Scalar.text v) = false := by
          simpa using fun same => other (by rw [key, same])
        simp only [Option.map_some, List.find?_cons, takes_lowered, unlike]
        exact onward

/-- A text that is no key finds none of the lowered conditions. -/
theorem find?_lowered_none (inputs : ∀ e ∈ es, e.guard.isInput)
    (other : ∀ e ∈ es, e.guard.key? mode ≠ some (.text v)) :
    (es.filterMap (·.lowered? mode)).find? (·.takes v) = none := by
  refine List.find?_eq_none.2 fun e' member taken => ?_
  obtain ⟨e, inside, lowered⟩ := List.mem_filterMap.1 member
  rw [ConditionEdge.lowered?_input (inputs e inside)] at lowered
  obtain ⟨key, keyed, rfl⟩ := Option.map_eq_some_iff.1 lowered
  rw [takes_lowered, beq_iff_eq] at taken
  exact other e inside (by rw [keyed, taken])

end Lowered

namespace Staging

variable {s : Staging} {n : Node}

/-- The graph of a staging that has not failed. -/
def Fine (s : Staging) : Prop := s.failure = none

theorem expandNode_fine (done : (s.expandNode n).Fine) : s.Fine := by
  unfold Fine at done ⊢
  unfold expandNode at done
  cases failed : s.failure with
  | none => rfl
  | some e =>
    simp only [failed, Option.isSome_some, Bool.true_or, if_true] at done
    exact done

theorem graph_other (other : n.kind ≠ .collectInput) : (s.expandNode n).graph = s.graph := by
  unfold expandNode
  rw [if_pos (by simp [other])]

/-- What expanding a node comes to: it is passed over, or it turns out that it cannot be expanded, or it
is written anew, or it is split in two. -/
inductive Turn (s : Staging) (n : Node) : Staging → Prop
  | idle (passed : s.failure.isSome ∨ n.kind ≠ .collectInput) : Turn s n s
  | fails (input : n.kind = .collectInput) (e : UsageError) : Turn s n { s with failure := some e }
  | plain (input : n.kind = .collectInput) (spec : n.spec = none) {edges : List ConditionEdge}
    (lowered : lowerConditions (n.mode.getD .keypad) true n.transitions.conditions = .ok edges) :
    Turn s n (s.renew (withConditions n edges))
  | unmet {spec : InputSpec} {parameters : Table} (input : n.kind = .collectInput)
    (began : Stage.primary spec.primary = .ok parameters) (mode : InputMode) (e : UsageError) :
    Turn s n { s.write { n with parameters, mode := some mode } with failure := some e }
  | single {spec : InputSpec} {parameters : Table} {edges : List ConditionEdge}
    (input : n.kind = .collectInput) (specified : n.spec = some spec)
    (alone : spec.enableFallback = true → spec.fallback = none)
    (began : Stage.primary spec.primary = .ok parameters)
    (lowered : lowerConditions spec.primary.mode true n.transitions.conditions = .ok edges) :
    Turn s n (s.renew
      { withConditions { n with parameters, mode := some spec.primary.mode } edges with
        retry := if 1 < spec.primary.maxRetries then
          some { maxAttempts := spec.primary.maxRetries } else n.retry
        spec := none })
  | split {spec : InputSpec} {f : FallbackInput} {first second : Table}
    (input : n.kind = .collectInput)
    (specified : n.spec = some spec) (enabled : spec.enableFallback = true)
    (fallback : spec.fallback = some f) (began : Stage.primary spec.primary = .ok first)
    (fell : Stage.fallback f = .ok second) : Turn s n (s.split n spec f first second)

theorem alone_of_not_split {spec : InputSpec}
    (alone : ∀ f, spec.enableFallback = true → spec.fallback = some f → False) :
    spec.enableFallback = true → spec.fallback = none := fun enabled =>
  Option.eq_none_iff_forall_ne_some.2 fun f given => alone f enabled given

theorem turn_single {spec : InputSpec} (input : n.kind = .collectInput)
    (specified : n.spec = some spec) (alone : spec.enableFallback = true → spec.fallback = none)
    {parameters : Table} (began : Stage.primary spec.primary = .ok parameters) :
    Turn s n (s.single n spec parameters) := by
  unfold single
  cases lowered : lowerConditions spec.primary.mode true n.transitions.conditions with
  | error e =>
    simp only [lowered]
    exact .unmet input began spec.primary.mode e
  | ok edges =>
    simp only [lowered]
    exact .single input specified alone began lowered

theorem turn_expandSpec {s' : Staging} {spec : InputSpec} (input : n.kind = .collectInput)
    (specified : n.spec = some spec) (expanded : s.expandSpec n spec = .ok s') : Turn s n s' := by
  unfold expandSpec at expanded
  split at expanded
  · rename_i f enabled fallback
    obtain ⟨second, fell, expanded⟩ := Results.bind_eq_ok.1 expanded
    obtain ⟨first, began, expanded⟩ := Results.bind_eq_ok.1 expanded
    cases expanded
    exact .split input specified enabled fallback began fell
  · rename_i other
    obtain ⟨parameters, began, expanded⟩ := Results.bind_eq_ok.1 expanded
    cases expanded
    exact turn_single input specified (alone_of_not_split other) began

theorem turn_expandNode (s : Staging) (n : Node) : Turn s n (s.expandNode n) := by
  unfold expandNode
  split
  · rename_i passed
    exact .idle (by simpa using passed)
  · rename_i taken
    have input : n.kind = .collectInput := by
      by_contra other
      exact taken (by simp [other])
    split
    · rename_i spec
      unfold plain
      split
      · rename_i edges lowered
        exact .plain input spec lowered
      · exact .fails input _
    · rename_i spec specified
      split
      · rename_i expanded
        exact turn_expandSpec input specified expanded
      · exact .fails input _

/-- What an input with one stage becomes. -/
theorem expandNode_plain (input : n.kind = .collectInput) (spec : n.spec = none)
    (done : (s.expandNode n).Fine) :
    ∃ edges, lowerConditions (n.mode.getD .keypad) true n.transitions.conditions = .ok edges ∧
      (s.expandNode n).graph =
        s.graph.modifyNode n.serial fun _ => withConditions n edges := by
  have fine : s.failure = none := expandNode_fine done
  have turn := turn_expandNode s n
  generalize s.expandNode n = s' at turn done ⊢
  cases turn with
  | idle passed => simp [fine, input] at passed
  | fails => cases done
  | unmet => cases done
  | plain _ _ lowered => exact ⟨_, lowered, rfl⟩
  | single _ specified => cases spec.symm.trans specified
  | split _ specified => cases spec.symm.trans specified

theorem split_grown (tidy : s.graph.Tidy) (n : Node) (spec : InputSpec) (f : FallbackInput)
    (first second : Table) :
    ∃ added g, s.graph.Grown (secondStage n f added) g ∧ added.kind = .collectInput ∧
      (s.split n spec f first second).graph =
        g.modifyNode n.serial fun _ => firstStage n spec first added.id := by
  let a := s.graph.allocateNode .collectInput (n.id ++ "_" ++ f.mode.wire) second
  have grown : s.graph.Grown a.1 a.2 := Graph.grown_allocateNode tidy ..
  exact ⟨a.1, _, grown.modifyNode tidy (fun _ => secondStage n f a.1) ⟨rfl, rfl⟩, rfl, rfl⟩

/-- What an input in two stages becomes. -/
theorem expandNode_split (tidy : s.graph.Tidy) {spec : InputSpec} {f : FallbackInput}
    (input : n.kind = .collectInput)
    (specified : n.spec = some spec) (enabled : spec.enableFallback = true)
    (fallback : spec.fallback = some f) (done : (s.expandNode n).Fine) :
    ∃ parameters added g, s.graph.Grown (secondStage n f added) g ∧ added.kind = .collectInput ∧
      (s.expandNode n).graph =
        g.modifyNode n.serial fun _ => firstStage n spec parameters added.id := by
  have fine : s.failure = none := expandNode_fine done
  have turn := turn_expandNode s n
  generalize s.expandNode n = s' at turn done ⊢
  cases turn with
  | idle passed => simp [fine, input] at passed
  | fails => cases done
  | unmet => cases done
  | plain _ spec => cases spec.symm.trans specified
  | single _ specified' alone =>
    cases specified.symm.trans specified'
    cases (alone enabled).symm.trans fallback
  | @split _ _ first second _ specified' _ fallback' =>
    cases specified.symm.trans specified'
    cases fallback.symm.trans fallback'
    obtain ⟨added, g, grown, kind, written⟩ := split_grown tidy n spec f first second
    exact ⟨first, added, g, grown, kind, written⟩

theorem Turn.rewrites {s' : Staging} (turn : Turn s n s') (tidy : s.graph.Tidy)
    (member : n ∈ s.graph.toList) : ∃ n', Graph.Rewrites n n' s.graph s'.graph := by
  have stays {n' : Node} (id : n'.id = n.id) (serial : n'.serial = n.serial) :
      Graph.Rewrites n n' s.graph (s.write n').graph := by
    have same : (s.write n').graph = s.graph.modifyNode n.serial fun _ => n' := by
      rw [← serial]
      rfl
    rw [same]
    exact (Graph.Extends.refl tidy).rewrites tidy member n' id serial
  cases turn with
  | idle => exact ⟨n, .refl tidy member⟩
  | fails => exact ⟨n, .refl tidy member⟩
  | plain => exact ⟨_, stays rfl rfl⟩
  | unmet => exact ⟨_, stays rfl rfl⟩
  | single => exact ⟨_, stays rfl rfl⟩
  | @split spec f first second =>
    obtain ⟨added, g, grown, _, written⟩ := split_grown tidy n spec f first second
    rw [written]
    exact ⟨_, (Graph.Extends.of_grown tidy grown).rewrites tidy member _ rfl rfl⟩

/-- Inputs are expanded one after the other. -/
theorem expands : Graph.Expands Staging.graph Fine expandNode where
  sticky := fun _ _ => expandNode_fine
  rewrites := fun s n tidy member => (turn_expandNode s n).rewrites tidy member

end Staging

namespace ExpandInputs

variable {g : Graph} {n : Node}

theorem expanded (tidy : g.Tidy) : Graph.Expanded g.toList g (expandInputs g).graph :=
  Staging.expands.expanded (s := { graph := g }) tidy tidy.serials fun _ member => member

theorem other (tidy : g.Tidy) (done : (expandInputs g).failure = none) (member : n ∈ g.toList)
    (kind : n.kind ≠ .collectInput) : n ∈ (expandInputs g).graph.toList := by
  obtain ⟨s, _, there, _, _, lasting⟩ :=
    Staging.expands.visits tidy tidy.serials (fun _ member => member) done member
  refine lasting n ?_ (.inl rfl)
  rw [Staging.graph_other kind]
  exact there

theorem plain (tidy : g.Tidy) (done : (expandInputs g).failure = none) (member : n ∈ g.toList)
    (input : n.kind = .collectInput) (spec : n.spec = none) :
    ∃ edges, lowerConditions (n.mode.getD .keypad) true n.transitions.conditions = .ok edges ∧
      Staging.withConditions n edges ∈ (expandInputs g).graph.toList := by
  obtain ⟨s, tidy', there, fine, _, lasting⟩ :=
    Staging.expands.visits tidy tidy.serials (fun _ member => member) done member
  obtain ⟨edges, lowered, written⟩ := Staging.expandNode_plain input spec fine
  refine ⟨edges, lowered, lasting _ ?_ (.inl rfl)⟩
  rw [written]
  exact ((Graph.Extends.refl tidy').rewrites tidy' there (Staging.withConditions n edges) rfl
    rfl).placed

theorem split (tidy : g.Tidy) (done : (expandInputs g).failure = none) (member : n ∈ g.toList)
    {spec : InputSpec} {f : FallbackInput} (input : n.kind = .collectInput)
    (specified : n.spec = some spec) (enabled : spec.enableFallback = true)
    (fallback : spec.fallback = some f) :
    ∃ parameters added, added.kind = .collectInput ∧ added.id ∉ g.allocator.used ∧
      Staging.firstStage n spec parameters added.id ∈ (expandInputs g).graph.toList ∧
      Staging.secondStage n f added ∈ (expandInputs g).graph.toList := by
  obtain ⟨s, tidy', there, fine, used, lasting⟩ :=
    Staging.expands.visits tidy tidy.serials (fun _ member => member) done member
  obtain ⟨parameters, added, g', grown, kind, written⟩ :=
    Staging.expandNode_split tidy' input specified enabled fallback fine
  have extended := Graph.Extends.of_grown tidy' grown
  have rewritten := extended.rewrites tidy' there
    (Staging.firstStage n spec parameters added.id) rfl rfl
  refine ⟨parameters, added, kind, fun taken => grown.fresh (used taken), lasting _ ?_ (.inl rfl),
    lasting _ ?_ (.inr (Nat.le_of_eq grown.serial.symm))⟩
  · rw [written]
    exact rewritten.placed
  · rw [written, (Graph.changed_modifyNode g' n.serial _).toList]
    refine List.mem_map.2 ⟨Staging.secondStage n f added, ?_, if_neg fun same => ?_⟩
    · rw [grown.toList]
      exact List.mem_append_right _ (List.mem_singleton_self _)
    · have below := tidy'.counted n there
      rw [← same, grown.serial] at below
      exact Nat.lt_irrefl _ below

end ExpandInputs

end ContactFlow
