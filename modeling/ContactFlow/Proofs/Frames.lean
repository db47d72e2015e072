import ContactFlow.Proofs.Detours
import ContactFlow.Proofs.Splitting
import ContactFlow.Proofs.Targets

/-!
What the expansions leave as it is, and where their edges lead. A node keeps its kind and its next; what
is added leads back to the node, to what else is added for it, or to where the node led.
-/

namespace ContactFlow

/-- Nothing is left of an input to be expanded, and no error is handled twice. -/
structure Node.Lowered (n : Node) : Prop where
  spec : n.spec = none
  guards : ∀ g ∈ n.transitions.guards, g.isInput = false
  once : n.transitions.kinds.Nodup

theorem Node.Lowered.of_made {m : Node} {kind : ActionKind} {parameters : Table} {t : Transitions}
    (made : m.Made kind parameters t) (guards : ∀ g ∈ t.guards, g.isInput = false)
    (once : t.kinds.Nodup) : m.Lowered :=
  ⟨made.spec, made.transitions ▸ guards, made.transitions ▸ once⟩

namespace Transitions

variable {t : Transitions} {x : String}

theorem mem_targets_of_condition {e : ConditionEdge} (among : e ∈ t.conditions)
    (leads : e.target = some x) : x ∈ t.targets := mem_targets.2 (.inr (.inl ⟨e, among, leads⟩))

theorem mem_targets_of_error {e : ErrorEdge} (among : e ∈ t.errors) (leads : e.target = some x) :
    x ∈ t.targets := mem_targets.2 (.inr (.inr ⟨e, among, leads⟩))

end Transitions

namespace Staging

variable {n n' m : Node} {ms : List Node} {x : String}

theorem guards_lowered {mode : InputMode} {es : List ConditionEdge} {e : ConditionEdge}
    (among : e ∈ es.filterMap (·.lowered? mode)) : e.guard.isInput = false := by
  obtain ⟨e', _, lowered⟩ := List.mem_filterMap.1 among
  exact ConditionEdge.guard_lowered lowered

/-- What stands for a condition leads to where the condition led. -/
theorem targets_of_lowered {mode : InputMode} {e : ConditionEdge}
    (among : e ∈ n.transitions.conditions.filterMap (·.lowered? mode)) (leads : e.target = some x) :
    x ∈ n.transitions.targets := by
  obtain ⟨e', inside, lowered⟩ := List.mem_filterMap.1 among
  exact Transitions.mem_targets_of_condition inside
    ((ConditionEdge.target_lowered lowered).symm.trans leads)

/-- What stands for a condition that can be met leads on. -/
theorem mem_targets_lowered {mode : InputMode} {m : Node} {e : ConditionEdge}
    (conditions : m.transitions.conditions = n.transitions.conditions.filterMap (·.lowered? mode))
    (among : e ∈ n.transitions.conditions) (met : (e.lowered? mode).isSome) (leads : e.target = some x) :
    x ∈ m.transitions.targets := by
  obtain ⟨e', lowered⟩ := Option.isSome_iff_exists.1 met
  refine Transitions.mem_targets_of_condition (e := e') ?_ ?_
  · rw [conditions]
    exact List.mem_filterMap.2 ⟨e, among, lowered⟩
  · exact (ConditionEdge.target_lowered lowered).trans leads

theorem conditions_firstStage (n : Node) (spec : InputSpec) (parameters : Table) (fallback : String) :
    (firstStage n spec parameters fallback).transitions.conditions =
      n.transitions.conditions.filterMap (·.lowered? spec.primary.mode) := stageConditions_eq _ _

theorem conditions_secondStage (n : Node) (f : FallbackInput) (added : Node) :
    (secondStage n f added).transitions.conditions =
      n.transitions.conditions.filterMap (·.lowered? f.mode) := stageConditions_eq _ _

namespace Becomes

/-- A node that is no input is left alone. -/
theorem of_other (becomes : Becomes n n' ms) (other : n.kind ≠ .collectInput) : n' = n ∧ ms = [] := by
  cases becomes with
  | other => exact ⟨rfl, rfl⟩
  | plain input => exact absurd input other
  | single input => exact absurd input other
  | split input => exact absurd input other

theorem kind (becomes : Becomes n n' ms) : n'.kind = n.kind := by
  cases becomes <;> rfl

theorem next (becomes : Becomes n n' ms) : n'.transitions.next = n.transitions.next := by
  cases becomes <;> rfl

theorem input_of_added (becomes : Becomes n n' ms) (added : m ∈ ms) : m.kind = .collectInput := by
  cases becomes with
  | split input specified enabled fallback parameters kind =>
    rw [List.mem_singleton.1 added]
    exact kind
  | _ => cases added

theorem lowered (becomes : Becomes n n' ms) (ready : n.Ready) : n'.Lowered := by
  cases becomes with
  | other kind =>
    refine ⟨?_, fun g among => (ready.clear.admitted g among).2 kind, ready.proper.once⟩
    cases specified : n.spec with
    | none => rfl
    | some spec => exact absurd (ready.proper.specified spec specified).1 kind
  | plain input spec =>
    refine ⟨spec, fun g among => ?_, ready.proper.once⟩
    obtain ⟨e, inside, rfl⟩ := List.mem_map.1 among
    exact guards_lowered inside
  | single =>
    refine ⟨rfl, fun g among => ?_, ready.proper.once⟩
    obtain ⟨e, inside, rfl⟩ := List.mem_map.1 among
    exact guards_lowered inside
  | split =>
    refine ⟨rfl, fun g among => ?_, kinds_firstStage ready.proper.once⟩
    rw [Transitions.guards, conditions_firstStage] at among
    obtain ⟨e, inside, rfl⟩ := List.mem_map.1 among
    exact guards_lowered inside

theorem lowered_of_added (becomes : Becomes n n' ms) (ready : n.Ready) (added : m ∈ ms) :
    m.Lowered := by
  cases becomes with
  | split input specified enabled fallback parameters kind bare =>
    rw [List.mem_singleton.1 added]
    refine ⟨bare, fun g among => ?_, ready.proper.once⟩
    rw [Transitions.guards, conditions_secondStage] at among
    obtain ⟨e, inside, rfl⟩ := List.mem_map.1 among
    exact guards_lowered inside
  | _ => cases added

/-- A node leads to where it led, or to its second stage if some error hands over to it. -/
theorem targets (becomes : Becomes n n' ms) (leads : x ∈ n'.transitions.targets) :
    x ∈ n.transitions.targets ∨
      (∃ m ∈ ms, m.id = x) ∧ ∃ s ∈ n.spec, s.enableFallback = true ∧ s.kinds ≠ [] := by
  have kept {mode : InputMode} (leads : x ∈ (withConditions n
      (n.transitions.conditions.filterMap (·.lowered? mode))).transitions.targets) :
      x ∈ n.transitions.targets := by
    rcases Transitions.mem_targets.1 leads with next | ⟨e, among, target⟩ | ⟨e, among, target⟩
    · exact Transitions.mem_targets.2 (.inl next)
    · exact targets_of_lowered among target
    · exact Transitions.mem_targets_of_error among target
  cases becomes with
  | other => exact .inl leads
  | plain => exact .inl (kept leads)
  | single => exact .inl (kept leads)
  | split _ specified enabled =>
    rcases Transitions.mem_targets.1 leads with next | ⟨e, among, target⟩ | ⟨e, among, target⟩
    · exact .inl (Transitions.mem_targets.2 (.inl next))
    · rw [conditions_firstStage] at among
      exact .inl (targets_of_lowered among target)
    · rw [errors_firstStage] at among
      rcases List.mem_append.1 among with trigger | other
      · obtain ⟨k, hands, rfl⟩ := List.mem_map.1 trigger
        exact .inr ⟨⟨_, List.mem_singleton_self _, Option.some.inj target⟩, _, specified, enabled,
          List.ne_nil_of_mem hands⟩
      · exact .inl (Transitions.mem_targets_of_error (List.mem_filter.1 other).1 target)

/-- A second stage leads to where its input led. -/
theorem targets_of_added (becomes : Becomes n n' ms) (added : m ∈ ms)
    (leads : x ∈ m.transitions.targets) : x ∈ n.transitions.targets := by
  cases becomes with
  | split =>
    rw [List.mem_singleton.1 added] at leads
    rcases Transitions.mem_targets.1 leads with next | ⟨e, among, target⟩ | ⟨e, among, target⟩
    · cases next
    · rw [conditions_secondStage] at among
      exact targets_of_lowered among target
    · exact Transitions.mem_targets_of_error among target
  | _ => cases added

/-- Whatever a node led to, one of its stages leads to. -/
theorem onward (becomes : Becomes n n' ms) (ready : n.Ready) (leads : x ∈ n.transitions.targets) :
    ∃ m ∈ n' :: ms, x ∈ m.transitions.targets := by
  -- a single stage meets every match
  have alone {mode : InputMode} (all : ∀ e ∈ n.transitions.conditions, (e.lowered? mode).isSome) :
      x ∈ (withConditions n
        (n.transitions.conditions.filterMap (·.lowered? mode))).transitions.targets := by
    rcases Transitions.mem_targets.1 leads with next | ⟨e, among, target⟩ | ⟨e, among, target⟩
    · exact Transitions.mem_targets.2 (.inl next)
    · exact mem_targets_lowered rfl among (all e among) target
    · exact Transitions.mem_targets_of_error among target
  cases becomes with
  | other => exact ⟨_, List.mem_cons_self, leads⟩
  | plain _ _ all => exact ⟨_, List.mem_cons_self, alone all⟩
  | single _ _ _ all => exact ⟨_, List.mem_cons_self, alone all⟩
  | @split spec f input specified enabled fallback _ _ _ _ =>
    rcases Transitions.mem_targets.1 leads with next | ⟨e, among, target⟩ | ⟨e, among, target⟩
    · exact ⟨_, List.mem_cons_self, Transitions.mem_targets.2 (.inl next)⟩
    · have guard : e.guard ∈ n.transitions.guards := List.mem_map_of_mem among
      obtain ⟨mode, stage, keyed⟩ := ((ready.clear.admitted _ guard).1 input).keyed
      have met := ConditionEdge.lowered?_isSome (ready.proper.inputs input _ guard) keyed
      have modes : n.modes = [spec.primary.mode, f.mode] := by
        simp [Node.modes, specified, enabled, fallback]
      rw [modes, List.mem_cons, List.mem_singleton] at stage
      rcases stage with rfl | rfl
      · exact ⟨_, List.mem_cons_self, mem_targets_lowered (conditions_firstStage ..) among met target⟩
      · exact ⟨_, List.mem_cons_of_mem _ (List.mem_singleton_self _),
          mem_targets_lowered (conditions_secondStage ..) among met target⟩
    · exact ⟨_, List.mem_cons_of_mem _ (List.mem_singleton_self _),
        Transitions.mem_targets_of_error among target⟩

end Becomes

end Staging

namespace Looping

open Draft

variable {n n' m l : Node} {r : RetrySpec} {lead : String → String} {ms : List Node}
  {x exit loop : String} {groups : List (String × ErrorKind)} {marks : List Node}

/-- A loop leads back to a node, perhaps by way of another one. -/
def Returns (ms : List Node) (l n : Node) : Prop :=
  ∃ entry, ⟨.equals Builder.continueLooping, some entry⟩ ∈ l.transitions.conditions ∧
    (entry = n.id ∨ ∃ p ∈ ms, p.id = entry ∧ p.transitions.next = some n.id)

theorem Returns.mono {ms' : List Node} (returns : Returns ms l n) (more : ∀ m ∈ ms, m ∈ ms') :
    Returns ms' l n := by
  obtain ⟨entry, again, way⟩ := returns
  exact ⟨entry, again, way.imp_right fun ⟨p, inside, onward⟩ => ⟨p, more p inside, onward⟩⟩

theorem kinds_redirected (n : Node) (r : RetrySpec) (lead : String → String) :
    (n.redirected r lead).transitions.kinds = n.transitions.kinds := by
  simp only [Node.redirected, Transitions.kinds, redirect, List.map_map]
  refine List.map_congr_left fun e _ => ?_
  simp only [Function.comp_apply]
  split <;> rfl

theorem around_guards {entry exit : String} : ∀ g ∈ (around entry exit).guards, g.isInput = false := by
  simp [around, Transitions.guards, Guard.equals, Guard.isInput]

namespace Ring

/-- The loop of a ring leads to the exit. -/
theorem leaves (ring : Ring n r exit loop ms) :
    ∃ l ∈ ms, l.id = loop ∧ exit ∈ l.transitions.targets := by
  cases ring with
  | bare _ made =>
    refine ⟨_, List.mem_cons_self, rfl, ?_⟩
    simp [made.transitions, around, Transitions.targets]
  | prompted _ _ made _ =>
    refine ⟨_, List.mem_cons_self, rfl, ?_⟩
    simp [made.transitions, around, Transitions.targets]

theorem lowered (ring : Ring n r exit loop ms) (added : m ∈ ms) : m.Lowered := by
  cases ring with
  | bare _ made =>
    rw [List.mem_singleton.1 added]
    exact .of_made made around_guards List.nodup_nil
  | prompted _ _ made message =>
    rcases List.mem_cons.1 added with rfl | last
    · exact .of_made made around_guards List.nodup_nil
    · rw [List.mem_singleton.1 last]
      exact .of_made message (by simp [Transitions.guards]) List.nodup_nil

/-- A ring leads back to its node, and to its exit. -/
theorem targets (ring : Ring n r exit loop ms) (added : m ∈ ms)
    (leads : x ∈ m.transitions.targets) : x = n.id ∨ x = exit ∨ ∃ m' ∈ ms, m'.id = x := by
  cases ring with
  | bare _ made =>
    rw [List.mem_singleton.1 added, made.transitions] at leads
    have either : x = n.id ∨ x = exit := by simpa [around, Transitions.targets] using leads
    rcases either with rfl | rfl
    · exact .inl rfl
    · exact .inr (.inl rfl)
  | @prompted l p _ _ _ made message =>
    rcases List.mem_cons.1 added with rfl | last
    · rw [made.transitions] at leads
      have either : x = p.id ∨ x = exit := by simpa [around, Transitions.targets] using leads
      rcases either with rfl | rfl
      · exact .inr (.inr ⟨p, by simp, rfl⟩)
      · exact .inr (.inl rfl)
    · rw [List.mem_singleton.1 last, message.transitions] at leads
      have back : x = n.id := by simpa [Transitions.targets] using leads
      exact .inl back

/-- The one loop of a ring. -/
theorem loops (ring : Ring n r exit loop ms) : ∃ l, ms.filter (·.kind = .loop) = [l] ∧
    l.parameters = [textKey "LoopCount" (toString (r.maxAttempts - 1))] ∧ Returns ms l n := by
  cases ring with
  | bare _ made =>
    refine ⟨_, by simp [made.kind], made.parameters, n.id, ?_, .inl rfl⟩
    simp [made.transitions, around]
  | @prompted _ p _ _ _ made message =>
    refine ⟨_, by simp [made.kind, message.kind], made.parameters, p.id, ?_, .inr ⟨p, by simp, rfl, ?_⟩⟩
    · simp [made.transitions, around]
    · rw [message.transitions]

end Ring

/-- A marker stands for each handler. -/
theorem markerOf_mem {P : String × ErrorKind → Node → Prop} (pairs : List.Forall₂ P groups marks)
    {h : String} {kind : ErrorKind} (among : (h, kind) ∈ groups) :
    ∃ m ∈ marks, m.id = markerOf groups marks h := by
  unfold markerOf
  induction pairs with
  | nil => cases among
  | @cons group mark groups marks _ _ ih =>
    rw [List.map_cons, List.map_cons, List.zip_cons_cons, List.lookup_cons]
    by_cases here : h = group.1
    · exact ⟨mark, List.mem_cons_self, by simp [here]⟩
    · have later : (h, kind) ∈ groups := by
        rcases List.mem_cons.1 among with rfl | later
        · exact absurd rfl here
        · exact later
      obtain ⟨m, inside, name⟩ := ih later
      have other : (h == group.1) = false := beq_eq_false_iff_ne.2 here
      exact ⟨m, List.mem_cons_of_mem _ inside, by rw [other]; exact name⟩

theorem made_of_marks {P : String × ErrorKind → Node → Prop} (pairs : List.Forall₂ P groups marks)
    (added : m ∈ marks) : ∃ g ∈ groups, P g m := by
  induction pairs with
  | nil => cases added
  | @cons group mark _ _ pair _ ih =>
    rcases List.mem_cons.1 added with rfl | later
    · exact ⟨group, List.mem_cons_self, pair⟩
    · obtain ⟨g, among, holds⟩ := ih later
      exact ⟨g, List.mem_cons_of_mem _ among, holds⟩

theorem target_of_handler (known : handlers r n.transitions.errors = groups) {h : String}
    {kind : ErrorKind} (among : (h, kind) ∈ groups) : h ∈ n.transitions.targets := by
  obtain ⟨e, inside, leads, _⟩ :=
    (gathered_handlers r n.transitions.errors).from_edges (h, kind) (known ▸ among)
  exact Transitions.mem_targets_of_error (List.mem_filter.1 inside).1 leads

theorem handler_of_retried {e : ErrorEdge} (among : e ∈ n.transitions.errors)
    (retried : retries r e) (leads : e.target = some x) :
    ∃ kind, (x, kind) ∈ handlers r n.transitions.errors :=
  (gathered_handlers r n.transitions.errors).all e (List.mem_filter.2 ⟨among, retried⟩) x leads

namespace Detour

theorem handled (detour : Detour n r lead ms) : handlers r n.transitions.errors ≠ [] := by
  cases detour with
  | one known => simp [known]
  | several known starts =>
    obtain ⟨kind, inside⟩ := starts
    rw [known]
    exact List.ne_nil_of_mem inside

/-- A handler is led to what was added. -/
theorem lead_mem (detour : Detour n r lead ms) {e : ErrorEdge} (among : e ∈ n.transitions.errors)
    (retried : retries r e) (leads : e.target = some x) : ∃ m ∈ ms, m.id = lead x := by
  obtain ⟨kind, handled⟩ := handler_of_retried among retried leads
  cases detour with
  | one _ ring =>
    obtain ⟨l, inside, name, _⟩ := ring.leaves
    exact ⟨l, inside, name⟩
  | several known _ markers _ _ =>
    obtain ⟨m, inside, name⟩ := markerOf_mem markers (known ▸ handled)
    exact ⟨m, List.mem_append_left _ inside, name⟩

theorem lowered (detour : Detour n r lead ms) (added : m ∈ ms) : m.Lowered := by
  cases detour with
  | one _ ring => exact ring.lowered added
  | several _ _ markers comparison ring =>
    rcases List.mem_append.1 added with marked | rest
    · obtain ⟨g, _, made⟩ := made_of_marks markers marked
      exact .of_made made (by simp [Transitions.guards]) List.nodup_nil
    · rcases List.mem_cons.1 rest with rfl | later
      · refine .of_made comparison (fun g among => ?_) (List.nodup_singleton _)
        obtain ⟨e, inside, rfl⟩ := List.mem_map.1 among
        obtain ⟨group, _, rfl⟩ := List.mem_map.1 inside
        rfl
      · exact ring.lowered later

/-- A detour leads back to its node, and to where the node led. -/
theorem targets (detour : Detour n r lead ms) (added : m ∈ ms)
    (leads : x ∈ m.transitions.targets) :
    x = n.id ∨ x ∈ n.transitions.targets ∨ ∃ m' ∈ ms, m'.id = x := by
  cases detour with
  | one known ring =>
    rcases ring.targets added leads with back | rfl | inside
    · exact .inl back
    · exact .inr (.inl (target_of_handler known List.mem_cons_self))
    · exact .inr (.inr inside)
  | @several groups first loop marks ms d known starts markers comparison ring =>
    rcases List.mem_append.1 added with marked | rest
    · obtain ⟨g, _, made⟩ := made_of_marks markers marked
      rw [made.transitions] at leads
      have onward : x = loop := by simpa [Transitions.targets] using leads
      obtain ⟨l, inside, name, _⟩ := ring.leaves
      exact .inr (.inr ⟨l, by simp [inside], name.trans onward.symm⟩)
    · rcases List.mem_cons.1 rest with rfl | later
      · rw [comparison.transitions] at leads
        refine .inr (.inl ?_)
        rcases Transitions.mem_targets.1 leads with next | ⟨e, among, target⟩ | ⟨e, among, target⟩
        · cases next
        · obtain ⟨⟨h, kind⟩, inside, rfl⟩ := List.mem_map.1 among
          cases target
          exact target_of_handler known inside
        · rw [List.mem_singleton.1 among] at target
          cases target
          obtain ⟨kind, inside⟩ := starts
          exact target_of_handler known inside
      · rcases ring.targets later leads with back | rfl | ⟨m', inside, name⟩
        · exact .inl back
        · exact .inr (.inr ⟨d, by simp, rfl⟩)
        · exact .inr (.inr ⟨m', by simp [inside], name⟩)

/-- Every handler is led to from the detour. -/
theorem onward (detour : Detour n r lead ms) {kind : ErrorKind}
    (handled : (x, kind) ∈ handlers r n.transitions.errors) :
    ∃ m ∈ ms, x ∈ m.transitions.targets := by
  cases detour with
  | one known ring =>
    rw [known] at handled
    cases List.mem_singleton.1 handled
    obtain ⟨l, inside, _, leads⟩ := ring.leaves
    exact ⟨l, inside, leads⟩
  | @several _ _ _ _ _ d known _ _ comparison _ =>
    rw [known] at handled
    refine ⟨d, by simp, ?_⟩
    rw [comparison.transitions]
    exact Transitions.mem_targets_of_condition (List.mem_map_of_mem handled) rfl

/-- The one loop of a detour. -/
theorem loops (detour : Detour n r lead ms) : ∃ l, ms.filter (·.kind = .loop) = [l] ∧
    l.parameters = [textKey "LoopCount" (toString (r.maxAttempts - 1))] ∧ Returns ms l n := by
  cases detour with
  | one _ ring => exact ring.loops
  | @several _ _ _ marks ms d _ _ markers comparison ring =>
    obtain ⟨l, only, parameters, returns⟩ := ring.loops
    have none : marks.filter (·.kind = .loop) = [] := by
      refine List.filter_eq_nil_iff.2 fun m inside => ?_
      obtain ⟨g, _, made⟩ := made_of_marks markers inside
      simp [made.kind]
    refine ⟨l, ?_, parameters, returns.mono fun m inside => by simp [inside]⟩
    rw [List.filter_append, none, List.nil_append, List.filter_cons, if_neg (by simp [comparison.kind])]
    exact only

end Detour

namespace Becomes

theorem of_once (becomes : Becomes n n' ms) (once : n.retry = none) : n' = n ∧ ms = [] := by
  cases becomes with
  | idle => exact ⟨rfl, rfl⟩
  | tried retry =>
    rw [once] at retry
    cases retry

theorem kind (becomes : Becomes n n' ms) : n'.kind = n.kind := by
  cases becomes <;> rfl

theorem next (becomes : Becomes n n' ms) : n'.transitions.next = n.transitions.next := by
  cases becomes <;> rfl

theorem lowered (becomes : Becomes n n' ms) (lowered : n.Lowered) : n'.Lowered := by
  cases becomes with
  | idle => exact lowered
  | tried =>
    refine ⟨lowered.spec, lowered.guards, ?_⟩
    rw [kinds_redirected]
    exact lowered.once

theorem lowered_of_added (becomes : Becomes n n' ms) (added : m ∈ ms) : m.Lowered := by
  cases becomes with
  | idle => cases added
  | tried _ _ detour => exact detour.lowered added

/-- A node leads to where it led, or to its detour. -/
theorem targets (becomes : Becomes n n' ms) (leads : x ∈ n'.transitions.targets) :
    x ∈ n.transitions.targets ∨ ∃ m ∈ ms, m.id = x := by
  cases becomes with
  | idle => exact .inl leads
  | @tried r lead _ _ _ detour =>
    rcases Transitions.mem_targets.1 leads with next | condition | ⟨e', among, target⟩
    · exact .inl (Transitions.mem_targets.2 (.inl next))
    · exact .inl (Transitions.mem_targets.2 (.inr (.inl condition)))
    · obtain ⟨e, inside, rfl⟩ := List.mem_map.1 among
      split at target
      · rename_i retried
        obtain ⟨h, leads', rfl⟩ := Option.map_eq_some_iff.1 target
        exact .inr (detour.lead_mem inside retried leads')
      · exact .inl (Transitions.mem_targets_of_error inside target)

theorem targets_of_added (becomes : Becomes n n' ms) (added : m ∈ ms)
    (leads : x ∈ m.transitions.targets) :
    x = n.id ∨ x ∈ n.transitions.targets ∨ ∃ m' ∈ ms, m'.id = x := by
  cases becomes with
  | idle => cases added
  | tried _ _ detour => exact detour.targets added leads

/-- Whatever a node led to, it still leads to, or its detour does. -/
theorem onward (becomes : Becomes n n' ms) (leads : x ∈ n.transitions.targets) :
    ∃ m ∈ n' :: ms, x ∈ m.transitions.targets := by
  cases becomes with
  | idle => exact ⟨_, List.mem_cons_self, leads⟩
  | @tried r lead _ _ _ detour =>
    rcases Transitions.mem_targets.1 leads with next | condition | ⟨e, among, target⟩
    · exact ⟨_, List.mem_cons_self, Transitions.mem_targets.2 (.inl next)⟩
    · exact ⟨_, List.mem_cons_self, Transitions.mem_targets.2 (.inr (.inl condition))⟩
    · by_cases retried : retries r e = true
      · obtain ⟨kind, handled⟩ := handler_of_retried among retried target
        obtain ⟨m, added, leads⟩ := detour.onward handled
        exact ⟨m, List.mem_cons_of_mem _ added, leads⟩
      · refine ⟨_, List.mem_cons_self,
          Transitions.mem_targets_of_error (List.mem_map_of_mem among) ?_⟩
        rw [if_neg retried]
        exact target

end Becomes

/-- The retryable errors have a handler if any of them is linked. -/
theorem handlers_eq_nil {es : List ErrorEdge} : handlers r es = [] ↔ es.any (retries r) = false := by
  have gathered := gathered_handlers r es
  rw [List.any_eq_false]
  constructor
  · intro none e among retried
    have leads : e.target.isSome := by
      unfold retries at retried
      exact (Bool.and_eq_true _ _ ▸ retried).2
    obtain ⟨h, target⟩ := Option.isSome_iff_exists.1 leads
    obtain ⟨kind, handled⟩ := gathered.all e (List.mem_filter.2 ⟨among, retried⟩) h target
    rw [none] at handled
    cases handled
  · intro none
    refine List.eq_nil_iff_forall_not_mem.2 fun g handled => ?_
    obtain ⟨e, among, _⟩ := gathered.from_edges g handled
    exact none e (List.mem_filter.1 among).1 (List.mem_filter.1 among).2

end Looping

/-! ### Both expansions -/

namespace Graph

/-- What became of the nodes of a graph, first of its inputs and then of its retries. -/
structure Expansion (g : Graph) (xs ys : List Outcome) : Prop where
  tidy : g.Tidy
  ready : ∀ n ∈ g.toList, n.Ready
  inputs : Unfolds Staging.Becomes xs g g.staged
  retries : Unfolds Looping.Becomes ys g.staged g.expanded

variable {g : Graph}

theorem ComesThrough.of_writable (tidy : g.Tidy) (ready : ∀ n ∈ g.toList, n.Ready)
    (writable : ∀ n ∈ g.toList, n.Writable) : g.ComesThrough := by
  have inputs := ExpandInputs.completes ready writable
  obtain ⟨xs, unfolds⟩ := ExpandInputs.unfolds tidy inputs
  refine ⟨inputs, ExpandRetries.completes fun m member r retry => ?_⟩
  obtain ⟨x, among, here⟩ : ∃ x ∈ xs, m ∈ x.result :: x.added := by
    rcases unfolds.origin member with ⟨x, among, rfl⟩ | ⟨x, among, added⟩
    · exact ⟨x, among, List.mem_cons_self⟩
    · exact ⟨x, among, List.mem_cons_of_mem _ added⟩
  exact (unfolds.each x among).writable (writable _ (unfolds.source_mem among)) here retry

theorem ComesThrough.expansion (through : g.ComesThrough) (tidy : g.Tidy)
    (ready : ∀ n ∈ g.toList, n.Ready) : ∃ xs ys, g.Expansion xs ys := by
  obtain ⟨xs, inputs⟩ := ExpandInputs.unfolds tidy through.inputs
  obtain ⟨ys, retries⟩ := ExpandRetries.unfolds inputs.tidy through.retries
  exact ⟨xs, ys, tidy, ready, inputs, retries⟩

end Graph

theorem Workspace.Calls.ready {w : Workspace} {loops : List OpenLoop} {jumps : List String}
    (calls : w.Calls loops jumps) : ∀ n ∈ w.graph.toList, n.Ready := fun n member =>
  ⟨calls.tracked.orderly.proper n member, calls.filed.clear n member⟩

end ContactFlow
