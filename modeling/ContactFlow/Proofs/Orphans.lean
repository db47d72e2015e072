import ContactFlow.Proofs.Conservative
import ContactFlow.Proofs.Reaching

/-!
What can be reached after expansion. An edge of the flow under construction becomes a path through what
was added for its node. The one thing that a path may not come to is a second stage that no error hands
over to: only its own detour leads to it, and only it leads into that.
-/

namespace ContactFlow

/-- A second stage has an error that hands over to it. -/
def Node.Triggered (n : Node) : Prop :=
  ∀ s ∈ n.spec, s.enableFallback = true → ∃ t ∈ s.triggers, t ≠ .maxRetries

theorem Trigger.mem_all (t : Trigger) : t ∈ all := by cases t <;> decide

/-- Running out of retries is the only trigger that is no error. -/
theorem InputSpec.kinds_ne_nil {s : InputSpec} :
    s.kinds ≠ [] ↔ ∃ t ∈ s.triggers, t ≠ .maxRetries := by
  constructor
  · intro some
    obtain ⟨kind, among⟩ := List.exists_mem_of_ne_nil _ some
    obtain ⟨t, inside, sets⟩ := List.mem_filterMap.1 among
    refine ⟨t, List.contains_iff_mem.1 (List.mem_filter.1 inside).2, ?_⟩
    rintro rfl
    cases sets
  · rintro ⟨t, among, other⟩
    have sets : t.errorKind?.isSome = true := by
      cases t with
      | maxRetries => exact absurd rfl other
      | _ => rfl
    obtain ⟨kind, sets⟩ := Option.isSome_iff_exists.1 sets
    have inside : t ∈ Trigger.normalize s.triggers :=
      List.mem_filter.2 ⟨t.mem_all, List.contains_iff_mem.2 among⟩
    exact List.ne_nil_of_mem (List.mem_filterMap.2 ⟨t, inside, sets⟩)

namespace Graph

variable {g g' : Graph} {n m : Node} {xs : List Outcome} {R : Node → Node → List Node → Prop}
  {id : String}

theorem Reachable.step (tidy : g.Tidy) (member : m ∈ g.toList) (before : g.Reachable m.id)
    (leads : id ∈ m.transitions.targets) : g.Reachable id :=
  .edge before (get?_mem tidy member) leads

theorem reachable_of_walk {e : String} (starts : g.entry = some e) (key : e ∈ g.keys)
    (walked : ∀ k ∈ g.keys, k ∈ g.walk) : ∀ k ∈ g.keys, g.Reachable k := fun k among =>
  (walking_walk starts key).reached k (walked k among)

/-- From what became of a node the graph comes to all that was added for it, and to all that the node
led to. -/
def Carries (g : Graph) (n n' : Node) (ms : List Node) : Prop :=
  g.Reachable n'.id →
    (∀ m ∈ ms, g.Reachable m.id) ∧ ∀ id ∈ n.transitions.targets, g.Reachable id

theorem Carries.of_onward {n' : Node} {ms : List Node} (tidy : g.Tidy)
    (inside : ∀ m ∈ n' :: ms, m ∈ g.toList) (added : g.Reachable n'.id → ∀ m ∈ ms, g.Reachable m.id)
    (onward : ∀ id ∈ n.transitions.targets, ∃ m ∈ n' :: ms, id ∈ m.transitions.targets) :
    g.Carries n n' ms := by
  refine fun before => ⟨added before, fun id leads => ?_⟩
  obtain ⟨m, among, leads⟩ := onward id leads
  refine .step tidy (inside m among) ?_ leads
  rcases List.mem_cons.1 among with rfl | later
  · exact before
  · exact added before m later

theorem Unfolds.reachable (unfolds : Unfolds R xs g g') (tidy : g.Tidy)
    (carries : ∀ x ∈ xs, g'.Carries x.source x.result x.added) (reachable : g.Reachable id) :
    g'.Reachable id := by
  induction reachable with
  | entry starts => exact .entry (by rw [unfolds.entry (by simp [starts]), starts])
  | @edge id target n _ found leads ih =>
    obtain ⟨member, rfl⟩ := (get?_eq_some tidy).1 found
    obtain ⟨x, among, rfl⟩ := unfolds.outcome member
    rw [← unfolds.ids x among] at ih
    exact (carries x among ih).2 target leads

/-- If everything could be reached before, it can be reached after. -/
theorem Unfolds.all_reachable (unfolds : Unfolds R xs g g') (tidy : g.Tidy)
    (carries : ∀ x ∈ xs, g'.Carries x.source x.result x.added) (all : ∀ id ∈ g.keys, g.Reachable id) :
    ∀ id ∈ g'.keys, g'.Reachable id := by
  have results (x : Outcome) (among : x ∈ xs) : g'.Reachable x.result.id := by
    refine unfolds.reachable tidy carries (all _ ?_)
    rw [unfolds.ids x among]
    exact (mem_keys tidy).2 ⟨_, unfolds.source_mem among, rfl⟩
  intro id key
  obtain ⟨m, member, rfl⟩ := (mem_keys unfolds.tidy).1 key
  rcases unfolds.origin member with ⟨x, among, rfl⟩ | ⟨x, among, added⟩
  · exact results x among
  · exact (carries x among (results x among)).1 m added

end Graph

open ContactFlow.Graph (Reachable Carries)

/-! ### Through stages -/

namespace Staging

variable {g : Graph} {n n' : Node} {ms : List Node} {x : String}

namespace Becomes

/-- A trigger leads from the first stage to the second. -/
theorem handed (becomes : Becomes n n' ms) (triggered : n.Triggered) :
    ∀ m ∈ ms, m.id ∈ n'.transitions.targets := by
  intro m added
  cases becomes with
  | @split spec f _ specified enabled _ _ k _ _ =>
    obtain ⟨kind, hands⟩ := List.exists_mem_of_ne_nil _
      (InputSpec.kinds_ne_nil.2 (triggered spec specified enabled))
    rw [List.mem_singleton.1 added]
    refine Transitions.mem_targets_of_error (e := ⟨kind, some k.id⟩) ?_ rfl
    rw [errors_firstStage]
    exact List.mem_append_left _ (List.mem_map_of_mem hands)
  | _ => cases added

/-- An input whose second stage is enabled gets it. -/
theorem second (becomes : Becomes n n' ms) (ready : n.Ready) {s : InputSpec} (specified : n.spec = some s)
    (enabled : s.enableFallback = true) : ∃ f, f ∈ ms := by
  have valid := ready.clear.valid s specified
  cases becomes with
  | other other => exact absurd (ready.proper.specified s specified).1 other
  | plain _ none =>
    rw [none] at specified
    cases specified
  | single _ given alone =>
    rw [given] at specified
    cases specified
    simp [InputSpec.Valid, InputSpec.check, enabled, alone enabled] at valid
  | split => exact ⟨_, List.mem_singleton_self _⟩

theorem carries (becomes : Becomes n n' ms) (ready : n.Ready) (triggered : n.Triggered) (tidy : g.Tidy)
    (inside : ∀ m ∈ n' :: ms, m ∈ g.toList) : g.Carries n n' ms := by
  refine .of_onward tidy inside (fun before m added => ?_) fun _ => becomes.onward ready
  exact before.step tidy (inside n' List.mem_cons_self) (becomes.handed triggered m added)

end Becomes

end Staging

/-! ### Through detours -/

namespace Looping

variable {g : Graph} {n n' : Node} {r : RetrySpec} {lead : String → String} {ms : List Node}
  {x exit loop : String} {groups : List (String × ErrorKind)} {marks : List Node}

theorem Ring.reachable (ring : Ring n r exit loop ms) (tidy : g.Tidy)
    (inside : ∀ m ∈ ms, m ∈ g.toList) (before : g.Reachable loop) :
    (∀ m ∈ ms, g.Reachable m.id) ∧ g.Reachable exit := by
  cases ring with
  | @bare l _ made =>
    have member := inside l (List.mem_singleton_self l)
    refine ⟨by simpa using before, before.step tidy member ?_⟩
    simp [made.transitions, around, Transitions.targets]
  | @prompted l p _ _ _ made message =>
    have member := inside l List.mem_cons_self
    have onward : g.Reachable p.id := before.step tidy member
      (by simp [made.transitions, around, Transitions.targets])
    refine ⟨by simpa using ⟨before, onward⟩, before.step tidy member ?_⟩
    simp [made.transitions, around, Transitions.targets]

/-- Handlers have different markers. -/
theorem markerOf_marks {P : String × ErrorKind → Node → Prop} (pairs : List.Forall₂ P groups marks)
    (distinct : (groups.map (·.1)).Nodup) {m : Node} (among : m ∈ marks) :
    ∃ g ∈ groups, markerOf groups marks g.1 = m.id := by
  unfold markerOf
  induction pairs with
  | nil => cases among
  | @cons group mark groups marks _ _ ih =>
    obtain ⟨apart, distinct⟩ := List.nodup_cons.1 distinct
    rcases List.mem_cons.1 among with rfl | later
    · exact ⟨group, List.mem_cons_self, by simp⟩
    · obtain ⟨g, inside, name⟩ := ih distinct later
      refine ⟨g, List.mem_cons_of_mem _ inside, ?_⟩
      have other : (g.1 == group.1) = false :=
        beq_eq_false_iff_ne.2 fun same => apart (List.mem_map.2 ⟨g, inside, same⟩)
      rw [List.map_cons, List.map_cons, List.zip_cons_cons, List.lookup_cons, other]
      exact name

/-- Who comes to where the retried errors lead comes to all of the detour. -/
theorem Detour.reachable (detour : Detour n r lead ms) (tidy : g.Tidy)
    (inside : ∀ m ∈ ms, m ∈ g.toList)
    (before : ∀ h kind, (h, kind) ∈ handlers r n.transitions.errors → g.Reachable (lead h)) :
    ∀ m ∈ ms, g.Reachable m.id := by
  have distinct := (gathered_handlers r n.transitions.errors).distinct
  cases detour with
  | @one handler loop kind _ known ring =>
    rw [known] at before
    exact (ring.reachable tidy inside (before handler kind List.mem_cons_self)).1
  | @several groups first loop marks ms d known starts markers comparison ring =>
    rw [known] at before distinct
    have marked : ∀ m ∈ marks, g.Reachable m.id := by
      intro m among
      obtain ⟨⟨h, kind⟩, handled, name⟩ := markerOf_marks markers distinct among
      exact name ▸ before h kind handled
    have looped : g.Reachable loop := by
      obtain ⟨kind, handled⟩ := starts
      obtain ⟨m, among, _⟩ := markerOf_mem markers handled
      obtain ⟨_, _, made⟩ := made_of_marks markers among
      refine (marked m among).step tidy (inside m (List.mem_append_left _ among)) ?_
      simp [made.transitions, Transitions.targets]
    obtain ⟨members, exit⟩ := ring.reachable tidy (fun m late => inside m (by simp [late])) looped
    intro m among
    rcases List.mem_append.1 among with early | late
    · exact marked m early
    · rcases List.mem_cons.1 late with rfl | later
      · exact exit
      · exact members m later

theorem Becomes.carries (becomes : Becomes n n' ms) (tidy : g.Tidy)
    (inside : ∀ m ∈ n' :: ms, m ∈ g.toList) : g.Carries n n' ms := by
  refine .of_onward tidy inside (fun before => ?_) fun _ => becomes.onward
  cases becomes with
  | idle => exact fun m added => absurd added List.not_mem_nil
  | @tried r _ _ _ _ detour =>
    refine detour.reachable tidy (fun m added => inside m (List.mem_cons_of_mem _ added))
      fun h kind handled => ?_
    obtain ⟨e, among, target, _⟩ :=
      (gathered_handlers r n.transitions.errors).from_edges (h, kind) handled
    obtain ⟨among, retried⟩ := List.mem_filter.1 among
    refine before.step tidy (inside _ List.mem_cons_self)
      (Transitions.mem_targets_of_error (List.mem_map_of_mem among) ?_)
    rw [if_pos retried, target]
    rfl

end Looping

/-! ### A second stage that is left alone -/

namespace Graph

variable {g : Graph} {xs ys : List Outcome} {n : Node} {id : String}

namespace Expansion

/-- If every second stage has a trigger, then everything can be reached that could be. -/
theorem all_reachable (expansion : g.Expansion xs ys) (triggered : ∀ n ∈ g.toList, n.Triggered)
    (all : ∀ id ∈ g.keys, g.Reachable id) : ∀ id ∈ g.expanded.keys, g.expanded.Reachable id := by
  obtain ⟨tidy, ready, inputs, retries⟩ := expansion
  refine retries.all_reachable inputs.tidy (fun y among => ?_)
    (inputs.all_reachable tidy (fun x among => ?_) all)
  · exact (retries.each y among).carries retries.tidy fun m => retries.mem_of_outcome among
  · have member := inputs.source_mem among
    exact (inputs.each x among).carries (ready _ member) (triggered _ member) inputs.tidy
      fun m => inputs.mem_of_outcome among

/-- Nothing that is staged leads to a stage that was added, if no error hands over to it. -/
theorem not_led (expansion : g.Expansion xs ys)
    (linked : ∀ n ∈ g.toList, ∀ id ∈ n.transitions.targets, id ∈ g.keys) {x : Outcome} (among : x ∈ xs)
    {f : Node} (added : f ∈ x.added)
    (idle : ∀ s ∈ x.source.spec, s.enableFallback = true → s.kinds = []) :
    ∀ m ∈ g.staged.toList, f.id ∉ m.transitions.targets := by
  intro m member leads
  have new : f.id ∉ g.keys := expansion.inputs.not_key expansion.tidy among added
  rcases expansion.inputs.origin member with ⟨y, inside, rfl⟩ | ⟨y, inside, second⟩
  · rcases (expansion.inputs.each y inside).targets leads with
      old | ⟨⟨m', there, same⟩, s, specified, enabled, some⟩
    · exact new (linked _ (expansion.inputs.source_mem inside) _ old)
    · rw [expansion.inputs.eq_of_added inside among there added same] at specified
      exact some (idle s specified enabled)
  · exact new (linked _ (expansion.inputs.source_mem inside) _
      ((expansion.inputs.each y inside).targets_of_added second leads))

/-- A second stage that no error hands over to is led to by its own detour only, and so is that. -/
theorem orphaned (expansion : g.Expansion xs ys) (ordered : g.InOrder)
    (linked : ∀ n ∈ g.toList, ∀ id ∈ n.transitions.targets, id ∈ g.keys) {y : Outcome} (among : y ∈ ys)
    (new : y.source.id ∉ g.keys) (alone : ∀ m ∈ g.staged.toList, y.source.id ∉ m.transitions.targets)
    (reachable : g.expanded.Reachable id) : id ≠ y.source.id ∧ ∀ m ∈ y.added, m.id ≠ id := by
  have ⟨tidy, _, inputs, retries⟩ := expansion
  have key {z : Outcome} (inside : z ∈ ys) : z.source.id ∈ g.staged.keys :=
    (mem_keys inputs.tidy).2 ⟨_, retries.source_mem inside, rfl⟩
  have fresh {z : Outcome} (inside : z ∈ ys) {m : Node} (added : m ∈ z.added) :
      m.id ∉ g.staged.keys := retries.not_key inputs.tidy inside added
  -- what a staged node leads to is staged, and is not the stage that is left alone
  have old {m : Node} (member : m ∈ g.staged.toList) {t : String} (leads : t ∈ m.transitions.targets) :
      t ≠ y.source.id ∧ ∀ m ∈ y.added, m.id ≠ t := by
    refine ⟨fun same => alone m member (same ▸ leads), fun k added same => fresh among added ?_⟩
    rw [same]
    rcases expansion.targets_staged member leads with staged | ⟨n, there, leads⟩
    · exact staged
    · exact inputs.kept tidy (linked n there t leads)
  -- what is added for another node is neither the stage nor part of its detour
  have others {z : Outcome} (inside : z ∈ ys) (other : z ≠ y) {m : Node} (added : m ∈ z.added) :
      m.id ≠ y.source.id ∧ ∀ k ∈ y.added, k.id ≠ m.id := by
    refine ⟨fun same => fresh inside added (same ▸ key among), fun k there same => ?_⟩
    exact other (retries.eq_of_added inside among added there same.symm)
  induction reachable with
  | @entry id starts =>
    rw [expansion.entry ordered, ordered.entry] at starts
    have first : id ∈ g.keys := List.mem_of_mem_head? starts
    refine ⟨fun same => new (same ▸ first), fun m added same => fresh among added ?_⟩
    rw [same]
    exact inputs.kept tidy first
  | @edge id target k _ found leads ih =>
    obtain ⟨member, rfl⟩ := (get?_eq_some retries.tidy).1 found
    rcases retries.origin member with ⟨z, inside, rfl⟩ | ⟨z, inside, added⟩
    · have other : z ≠ y := by
        rintro rfl
        exact ih.1 (retries.ids z inside)
      rcases (retries.each z inside).targets leads with before | ⟨m, there, rfl⟩
      · exact old (retries.source_mem inside) before
      · exact others inside other there
    · have other : z ≠ y := by
        rintro rfl
        exact ih.2 k added rfl
      rcases (retries.each z inside).targets_of_added added leads with rfl | before | ⟨m, there, rfl⟩
      · refine ⟨fun same => other (retries.eq_of_source inputs.tidy inside among same), ?_⟩
        intro m added' same
        exact fresh among added' (same ▸ key inside)
      · exact old (retries.source_mem inside) before
      · exact others inside other there

theorem all_reachable_iff (expansion : g.Expansion xs ys) (ordered : g.InOrder)
    (linked : ∀ n ∈ g.toList, ∀ id ∈ n.transitions.targets, id ∈ g.keys)
    (all : ∀ id ∈ g.keys, g.Reachable id) :
    (∀ id ∈ g.expanded.keys, g.expanded.Reachable id) ↔ ∀ n ∈ g.toList, n.Triggered := by
  refine ⟨fun reached n member => ?_, fun triggered => expansion.all_reachable triggered all⟩
  intro s specified enabled
  rw [← InputSpec.kinds_ne_nil]
  intro idle
  have ready := expansion.ready n member
  obtain ⟨x, among, rfl⟩ := expansion.inputs.outcome member
  obtain ⟨f, added⟩ := (expansion.inputs.each x among).second ready specified enabled
  have staged := expansion.inputs.added_mem among added
  obtain ⟨y, inside, rfl⟩ := expansion.retries.outcome staged
  have new : y.source.id ∉ g.keys := expansion.inputs.not_key expansion.tidy among added
  have alone := expansion.not_led linked among added fun s' given _ => by
    rw [Option.some.inj (specified.symm.trans given)] at idle
    exact idle
  have key : y.source.id ∈ g.expanded.keys := expansion.retries.kept expansion.inputs.tidy
    ((mem_keys expansion.inputs.tidy).2 ⟨_, staged, rfl⟩)
  exact (expansion.orphaned ordered linked inside new alone (reached _ key)).1 rfl

end Expansion

end Graph

namespace Workspace

variable {w : Workspace} {loops : List OpenLoop} {jumps : List String}

/-- In a flow that is linked and can be reached in whole, the expansions leave something that cannot be
reached just in case running out of retries is all that hands over to some second stage. -/
theorem all_reachable_of_calls (calls : Calls w loops jumps) (through : w.graph.ComesThrough)
    (linked : ∀ n ∈ w.graph.toList, ∀ id ∈ n.transitions.targets, id ∈ w.graph.keys)
    (all : ∀ id ∈ w.graph.keys, w.graph.Reachable id) :
    (∀ id ∈ w.graph.expanded.keys, w.graph.expanded.Reachable id) ↔
      ∀ n ∈ w.graph.toList, ∀ s ∈ n.spec, s.enableFallback = true → ∃ t ∈ s.triggers, t ≠ .maxRetries := by
  obtain ⟨orderly, ordered, _⟩ := calls.tracked
  obtain ⟨xs, ys, expansion⟩ := through.expansion orderly.tidy calls.ready
  exact expansion.all_reachable_iff ordered linked all

end Workspace

namespace Question

/-- The question, with a second stage that is left to those who have run out of retries. -/
def patient : Workspace :=
  let w := (Builder.appendBranching 0
    (.collectSequential { spec with triggers := [.maxRetries] }) .null (.text "ask") opening).2
  let w := (Builder.openBranch 0 .timeout w).2
  (Builder.append 1 .disconnect .null .null w).2

open Workspace (Calls)

theorem calls_patient : Calls patient [] [] := by
  have begun : Calls opening [] [] := .named (by decide +kernel)
  have asked := begun.appendBranching (b := 0) (by decide +kernel)
    (a := .collectSequential { spec with triggers := [.maxRetries] }) (by decide) rfl .null
    (.text "ask")
  have silent := asked.openBranch (i := 0) (by decide +kernel) (c := .timeout) trivial
  exact silent.append (b := 1) (by decide +kernel) (a := .disconnect) rfl ActionKind.noConfusion
    .null .null

end Question

/-- All of the one question can be reached; the keypad stage of the other cannot. -/
theorem Workspace.all_reachable_questions :
    (∀ id ∈ Question.insistent.graph.expanded.keys,
      Question.insistent.graph.expanded.Reachable id) ∧
    ¬ ∀ id ∈ Question.patient.graph.expanded.keys, Question.patient.graph.expanded.Reachable id := by
  have reached : ∀ id ∈ Question.insistent.graph.keys, Question.insistent.graph.Reachable id :=
    Graph.reachable_of_walk (e := "ask") (by decide +kernel) (by decide +kernel) (by decide +kernel)
  have reached' : ∀ id ∈ Question.patient.graph.keys, Question.patient.graph.Reachable id :=
    Graph.reachable_of_walk (e := "ask") (by decide +kernel) (by decide +kernel) (by decide +kernel)
  have both := all_reachable_of_calls Question.calls_insistent ⟨by decide +kernel, by decide +kernel⟩
    (by decide +kernel) reached
  have both' := all_reachable_of_calls Question.calls_patient ⟨by decide +kernel, by decide +kernel⟩
    (by decide +kernel) reached'
  refine ⟨both.2 (by decide +kernel), fun all => ?_⟩
  have triggered := both'.1 all
  revert triggered
  decide +kernel

end ContactFlow
