import ContactFlow.Proofs.Looping

/-!
What the expansion of retries leaves of a node that may be tried again and has handlers for its
retryable errors. One handler is reached through the loop alone. Several are reached through a
marker each, the loop they share and a comparison on what was marked last.
-/

namespace ContactFlow

/-- The node with its retryable errors led elsewhere. -/
def Node.redirected (n : Node) (r : RetrySpec) (lead : String → String) : Node :=
  { n with transitions :=
    { n.transitions with errors := Looping.redirect r n.transitions.errors lead } }

namespace Looping

open Draft

/-- A comparison on the kind of error that was marked last. -/
def Compares (P : Node → Prop) (groups : List (String × ErrorKind)) (id : String) : Prop :=
  ∃ d, P d ∧ d.id = id ∧ d.kind = .checkAttribute ∧
    d.parameters = [textKey "ComparisonValue" ("$.Attributes." ++ retryExitAttribute)] ∧
    d.transitions.conditions = groups.map fun (h, kind) => ⟨.equals kind.label, some h⟩

/-- Where the errors that lead to handlers are led instead, and where the loop is left to. -/
inductive Exits (P : Node → Prop) (loop : String) :
    List (String × ErrorKind) → (String → String) → String → Prop
  | one {handler : String} {kind : ErrorKind} : Exits P loop [(handler, kind)] (fun _ => loop) handler
  | several {groups : List (String × ErrorKind)} {lead : String → String} {exit : String}
      (marks : ∀ g ∈ groups, Marks P g.2 (some loop) (lead g.1))
      (compares : Compares P groups exit) : Exits P loop groups lead exit

/-- What stands between a node and the handlers of its retryable errors. -/
structure Tried (P : Node → Prop) (n : Node) (r : RetrySpec) (lead : String → String)
    (loop : String) (prompts : List String) (entry exit : String) : Prop where
  loops : Loops P (r.maxAttempts - 1) entry exit loop
  back : Back P n.id r.retryPrompt prompts entry
  exits : Exits P loop (handlers r n.transitions.errors) lead exit

variable {s : Looping} {g : Graph} {n : Node} {r : RetrySpec}

theorem Tried.mono {P Q : Node → Prop} {lead : String → String} {loop : String}
    {prompts : List String} {entry exit : String}
    (tried : Tried P n r lead loop prompts entry exit) (kept : ∀ m, P m → Q m) :
    Tried Q n r lead loop prompts entry exit := by
  obtain ⟨loops, back, exits⟩ := tried
  generalize known : handlers r n.transitions.errors = groups at exits
  refine ⟨loops.mono fun m _ => kept m, back.mono fun m _ => kept m, ?_⟩
  rw [known]
  cases exits with
  | one => exact .one
  | several marks compares =>
    obtain ⟨d, placed, rest⟩ := compares
    exact .several (fun g member => (marks g member).mono kept) ⟨d, kept d placed, rest⟩

/-- The comparison of a node with several handlers. -/
def withComparison (s : Looping) (n : Node) (groups : List (String × ErrorKind)) (first : String) :
    String × Looping :=
  s.add .checkAttribute (n.id ++ "_retry_exit")
    [textKey "ComparisonValue" ("$.Attributes." ++ retryExitAttribute)]
    { conditions := groups.map fun (handler, kind) => ⟨.equals kind.label, some handler⟩
      errors := [⟨.noMatch, some first⟩] }

/-- The last part of the way to several handlers: the markers are led to the loop. -/
def joined (s : Looping) (n : Node) (r : RetrySpec) (markers : List (String × String))
    (loop : String) : Looping :=
  (markers.foldl (fun s m => s.setTransitions m.2 { next := some loop }) s).writeErrors n
    (redirect r n.transitions.errors fun target => (markers.lookup target).getD target)

theorem dispatch_eq (s : Looping) (n : Node) (r : RetrySpec) (groups : List (String × ErrorKind))
    (first : String) :
    s.dispatch n r groups first =
      let marked := s.addMarkers n groups
      let compared := marked.2.withComparison n groups first
      let looped := compared.2.addLoop n r compared.1
      looped.2.joined n r marked.1 looped.1 := by
  unfold dispatch withComparison joined
  generalize s.addMarkers n groups = marked
  obtain ⟨markers, s⟩ := marked
  rfl

/-- What a node with several handlers becomes. -/
theorem dispatch_spec (tidy : s.graph.Tidy) {groups : List (String × ErrorKind)}
    (known : handlers r n.transitions.errors = groups) (distinct : (groups.map (·.1)).Nodup)
    (first : String) :
    ∃ lead loop prompts entry exit g, s.graph.Extends g ∧
      Tried (s.graph.Adds g) n r lead loop prompts entry exit ∧
      (s.dispatch n r groups first).graph =
        g.modifyNode n.serial fun _ => n.redirected r lead := by
  rw [dispatch_eq]
  obtain ⟨marking, pairs⟩ := addMarkers_spec tidy n groups
  generalize s.addMarkers n groups = marked at marking pairs
  obtain ⟨markers, s₁⟩ := marked
  obtain ⟨d, grown, name, check, parameters, transitions⟩ : ∃ d,
    s₁.graph.Grown d (s₁.withComparison n groups first).2.graph ∧
    d.id = (s₁.withComparison n groups first).1 ∧ _ := add_grown marking.tidy ..
  have comparing := Graph.Extends.of_grown marking.tidy grown
  simp only
  generalize s₁.withComparison n groups first = compared at grown name comparing
  obtain ⟨exit, s₂⟩ := compared
  obtain ⟨loops, prompts, entry, looped, back⟩ := addLoop_spec comparing.tidy n r exit
  generalize s₂.addLoop n r exit = looping at loops looped back
  obtain ⟨loop, s₃⟩ := looping
  simp only at pairs grown name comparing loops looped back
  have onward := comparing.trans loops
  have whole := marking.trans onward
  have still : ∀ m, s.graph.Adds s₁.graph m → s.graph.Adds s₃.graph m :=
    fun _ added => added.before onward
  have marks {id : String} {kind : ErrorKind} (marks : Marks (s.graph.Adds s₁.graph) kind none id) :
      Marks (s.graph.Adds s₃.graph) kind none id := marks.mono still
  have marked : ∀ m ∈ markers, ∃ kind next, Marks (s.graph.Adds s₃.graph) kind next m.2 := by
    intro m member
    obtain ⟨kind, there⟩ := marker_kind
      (P := fun kind id => Marks (s.graph.Adds s₁.graph) kind none id) pairs m member
    exact ⟨kind, none, marks there⟩
  obtain ⟨joining, others, joins⟩ := wire_markers tidy whole loop marked
  have deep := marking.trans comparing
  refine ⟨fun target => (markers.lookup target).getD target, loop, prompts, entry, exit, _, joining,
    ⟨?_, ?_, ?_⟩, rfl⟩
  · exact looped.mono fun m kind added => others m (by simp [kind]) (added.after deep)
  · exact back.mono fun m kind added => others m (by simp [kind]) (added.after deep)
  · rw [known]
    refine .several ?_ ⟨d, others d (by simp [check]) ?_, name, check, parameters, by
      rw [transitions]⟩
    · rintro ⟨h, kind⟩ member
      obtain ⟨id, among, found, there⟩ := lookup_marker distinct
        (P := fun kind id => Marks (s.graph.Adds s₁.graph) kind none id) pairs member
      have led := joins kind none id (marks there)
      rw [if_pos among] at led
      simpa only [found, Option.getD_some] using led
    · exact ((Graph.Adds.of_grown grown).after marking).before loops

/-- What a node with one handler becomes. -/
theorem single_spec (tidy : s.graph.Tidy) {handler : String} {kind : ErrorKind}
    (known : handlers r n.transitions.errors = [(handler, kind)]) :
    ∃ lead loop prompts entry exit g, s.graph.Extends g ∧
      Tried (s.graph.Adds g) n r lead loop prompts entry exit ∧
      ((s.addLoop n r handler).2.writeErrors n
        (redirect r n.transitions.errors fun _ => (s.addLoop n r handler).1)).graph =
        g.modifyNode n.serial fun _ => n.redirected r lead := by
  obtain ⟨extended, prompts, entry, loops, back⟩ := addLoop_spec tidy n r handler
  exact ⟨fun _ => (s.addLoop n r handler).1, _, prompts, entry, handler, _, extended,
    ⟨loops, back, by rw [known]; exact .one⟩, rfl⟩

/-! ### What a node's expansion comes to -/

/-- The expansion has not failed. -/
def Fine (s : Looping) : Prop := s.failure = none

/-- What expanding a node comes to: it is passed over, or it turns out that its attempts cannot be
written or that it has no handlers to be tried for, or it is led to its loop. -/
inductive Attempt (s : Looping) (n : Node) : Looping → Prop
  | idle (passed : s.failure.isSome ∨ ∀ r, n.retry = some r → r.maxAttempts ≤ 1) : Attempt s n s
  | long {r : RetrySpec} (retry : n.retry = some r)
    (endless : Numeral.isWritable r.maxAttempts = false) :
    Attempt s n { s with failure := some .longNumber }
  | unhandled {r : RetrySpec} (fine : s.Fine) (retry : n.retry = some r)
    (bare : handlers r n.transitions.errors = []) :
    Attempt s n { s with reports := s.reports ++ [.idle n.id r.maxAttempts] }
  | single {r : RetrySpec} {handler : String} {kind : ErrorKind} (fine : s.Fine)
    (retry : n.retry = some r) (more : 1 < r.maxAttempts)
    (writable : Numeral.isWritable r.maxAttempts = true)
    (known : handlers r n.transitions.errors = [(handler, kind)]) :
    Attempt s n ((s.addLoop n r handler).2.writeErrors n
      (redirect r n.transitions.errors fun _ => (s.addLoop n r handler).1))
  | several {r : RetrySpec} {first : String} {kind : ErrorKind} {rest : List (String × ErrorKind)}
    (fine : s.Fine) (retry : n.retry = some r) (more : 1 < r.maxAttempts)
    (writable : Numeral.isWritable r.maxAttempts = true)
    (known : handlers r n.transitions.errors = (first, kind) :: rest) :
    Attempt s n (s.dispatch n r ((first, kind) :: rest) first)

theorem attempt_expandNode (s : Looping) (n : Node) : Attempt s n (s.expandNode n) := by
  unfold expandNode
  split
  · rename_i retry
    exact .idle (.inr fun r given => by rw [retry] at given; cases given)
  · rename_i r retry
    split
    · rename_i passed
      refine .idle ?_
      rcases Bool.or_eq_true_iff.1 passed with failed | few
      · exact .inl failed
      · refine .inr fun r' given => ?_
        rw [retry] at given
        cases given
        exact of_decide_eq_true few
    · rename_i taken
      obtain ⟨fine, more⟩ : s.Fine ∧ 1 < r.maxAttempts := by simpa [Fine] using taken
      split
      · rename_i endless
        exact .long retry (by simpa using endless)
      · rename_i short
        have writable : Numeral.isWritable r.maxAttempts = true := by simpa using short
        split
        · rename_i bare
          exact .unhandled fine retry bare
        · rename_i known
          exact .single fine retry more writable known
        · rename_i known
          exact .several fine retry more writable known

theorem expandNode_fine (done : (s.expandNode n).Fine) : s.Fine := by
  have attempt := attempt_expandNode s n
  generalize s.expandNode n = s' at done attempt
  cases attempt with
  | idle => exact done
  | long => cases done
  | unhandled fine => exact fine
  | single fine => exact fine
  | several fine => exact fine

/-- A node that is not led to its loop is left as it is. -/
theorem expandNode_cases (tidy : s.graph.Tidy) (n : Node) :
    ((s.expandNode n).graph = s.graph ∧ ((s.expandNode n).Fine → ∀ r, n.retry = some r →
      r.maxAttempts ≤ 1 ∨ handlers r n.transitions.errors = [])) ∨
    ∃ r lead loop prompts entry exit g, n.retry = some r ∧ 1 < r.maxAttempts ∧
      Numeral.isWritable r.maxAttempts = true ∧ handlers r n.transitions.errors ≠ [] ∧
      s.graph.Extends g ∧ Tried (s.graph.Adds g) n r lead loop prompts entry exit ∧
      (s.expandNode n).graph = g.modifyNode n.serial fun _ => n.redirected r lead := by
  have attempt := attempt_expandNode s n
  generalize s.expandNode n = s' at attempt
  cases attempt with
  | idle passed =>
    refine .inl ⟨rfl, fun fine r retry => .inl ?_⟩
    rcases passed with failed | few
    · rw [fine] at failed
      cases failed
    · exact few r retry
  | long => exact .inl ⟨rfl, nofun⟩
  | unhandled _ retry bare =>
    refine .inl ⟨rfl, fun _ r given => .inr ?_⟩
    rw [retry] at given
    cases given
    exact bare
  | single _ retry more writable known =>
    obtain ⟨lead, loop, prompts, entry, exit, g, led⟩ := single_spec tidy known
    exact .inr ⟨_, lead, loop, prompts, entry, exit, g, retry, more, writable, by simp [known], led⟩
  | @several r _ _ _ _ retry more writable known =>
    have distinct := (gathered_handlers r n.transitions.errors).distinct
    rw [known] at distinct
    obtain ⟨lead, loop, prompts, entry, exit, g, led⟩ := dispatch_spec tidy known distinct _
    exact .inr ⟨_, lead, loop, prompts, entry, exit, g, retry, more, writable, by simp [known], led⟩

/-- A node with handlers to be tried for is led to its loop, and its rounds can be written. -/
theorem expandNode_tried (tidy : s.graph.Tidy) (retry : n.retry = some r)
    (more : 1 < r.maxAttempts) (handled : handlers r n.transitions.errors ≠ [])
    (done : (s.expandNode n).Fine) :
    Numeral.isWritable r.maxAttempts = true ∧
    ∃ lead loop prompts entry exit g, s.graph.Extends g ∧
      Tried (s.graph.Adds g) n r lead loop prompts entry exit ∧
      (s.expandNode n).graph = g.modifyNode n.serial fun _ => n.redirected r lead := by
  rcases expandNode_cases tidy n with
    ⟨_, idle⟩ | ⟨r', lead, loop, prompts, entry, exit, g, given, _, writable, _, led⟩
  · rcases idle done r retry with few | bare
    · omega
    · exact absurd bare handled
  · rw [retry] at given
    cases given
    exact ⟨writable, lead, loop, prompts, entry, exit, g, led⟩

/-- What the expansion of a node does, one after the other: nodes are added, transitions are set, the
errors of the node are written back and reports are made. -/
inductive Steps (n : Node) (s : Looping) : Looping → Prop
  | refl : Steps n s s
  | add {t : Looping} (steps : Steps n s t) (kind : ActionKind) (hint : String) (parameters : Table)
    (plain : Value.tableReferences parameters = []) (transitions : Transitions) :
    Steps n s (t.add kind hint parameters transitions).2
  | set {t : Looping} (steps : Steps n s t) (id : String) (transitions : Transitions) :
    Steps n s (t.setTransitions id transitions)
  | write {t : Looping} (steps : Steps n s t) (errors : List ErrorEdge) :
    Steps n s (t.writeErrors n errors)
  | report {t : Looping} (steps : Steps n s t) (reports : List RetryReport) :
    Steps n s { t with reports }

namespace Steps

variable {t : Looping}

theorem failure (steps : Steps n s t) : t.failure = s.failure := by
  induction steps with
  | refl => rfl
  | add _ _ _ _ _ _ ih => exact ih
  | set _ _ _ ih => exact ih
  | write _ _ ih => exact ih
  | report _ _ ih => exact ih

theorem addLoop (steps : Steps n s t) (r : RetrySpec) (exit : String) :
    Steps n s (t.addLoop n r exit).2 := by
  have looped : Steps n s (t.withLoop n r).2 := steps.add _ _ _ rfl _
  rcases prompt_cases r with silent | ⟨prompt, given, loud⟩
  · rw [addLoop_silent t n exit silent]
    exact (looped.set ..).report _
  · rw [addLoop_prompt t n exit given loud]
    exact ((looped.add _ _ _ rfl _).set ..).report _

theorem addMarkers (steps : Steps n s t) (groups : List (String × ErrorKind)) :
    Steps n s (t.addMarkers n groups).2 := by
  induction groups generalizing t with
  | nil => exact steps
  | cons group rest ih => exact ih (steps.add _ _ _ rfl _)

theorem setAll (steps : Steps n s t) (markers : List (String × String)) (transitions : Transitions) :
    Steps n s (markers.foldl (fun t m => t.setTransitions m.2 transitions) t) := by
  induction markers generalizing t with
  | nil => exact steps
  | cons m rest ih => exact ih (steps.set ..)

theorem dispatch (steps : Steps n s t) (r : RetrySpec) (groups : List (String × ErrorKind))
    (first : String) : Steps n s (t.dispatch n r groups first) := by
  rw [dispatch_eq]
  have compared : Steps n s ((t.addMarkers n groups).2.withComparison n groups first).2 :=
    (steps.addMarkers groups).add _ _ _ rfl _
  exact ((compared.addLoop r _).setAll _ _).write _

end Steps

/-- An expansion takes its steps, unless the attempts of the node cannot be written. -/
theorem Attempt.steps {s' : Looping} (attempt : Attempt s n s') :
    Steps n s s' ∨ (∃ r, n.retry = some r ∧ Numeral.isWritable r.maxAttempts = false) ∧
      s' = { s with failure := some .longNumber } := by
  cases attempt with
  | idle => exact .inl .refl
  | long retry endless => exact .inr ⟨⟨_, retry, endless⟩, rfl⟩
  | unhandled => exact .inl (Steps.refl.report _)
  | single => exact .inl ((Steps.refl.addLoop _ _).write _)
  | several => exact .inl (Steps.refl.dispatch _ _ _)

/-- What holds of a graph after any steps holds of it after an expansion. -/
theorem Attempt.graph {s' : Looping} (attempt : Attempt s n s') :
    ∃ t, Steps n s t ∧ s'.graph = t.graph ∧ s'.created = t.created := by
  rcases attempt.steps with steps | ⟨_, rfl⟩
  · exact ⟨_, steps, rfl, rfl⟩
  · exact ⟨s, .refl, rfl, rfl⟩

theorem fine_expandNode (fine : s.Fine)
    (writable : ∀ r, n.retry = some r → Numeral.isWritable r.maxAttempts) : (s.expandNode n).Fine := by
  rcases (attempt_expandNode s n).steps with steps | ⟨⟨r, retry, endless⟩, _⟩
  · exact steps.failure.trans fine
  · rw [writable r retry] at endless
    cases endless

/-- Retries are expanded one node after the other. -/
theorem expands : Graph.Expands Looping.graph Fine expandNode where
  sticky := fun _ _ => expandNode_fine
  rewrites := by
    intro s n tidy member
    rcases expandNode_cases tidy n with
      ⟨same, _⟩ | ⟨r, lead, _, _, _, _, g, _, _, _, _, extended, _, written⟩
    · rw [same]
      exact ⟨n, .refl tidy member⟩
    · rw [written]
      exact ⟨_, extended.rewrites tidy member _ rfl rfl⟩

end Looping

namespace ExpandRetries

open Looping

variable {g : Graph} {n : Node} {r : RetrySpec}

theorem expanded (tidy : g.Tidy) : Graph.Expanded g.toList g (expandRetries g).graph :=
  Looping.expands.expanded (s := { graph := g }) tidy tidy.serials fun _ member => member

/-- A node that is not to be tried again, or for no handler, stays as it is. -/
theorem other (tidy : g.Tidy) (done : (expandRetries g).failure = none) (member : n ∈ g.toList)
    (idle : ∀ r, n.retry = some r → r.maxAttempts ≤ 1 ∨ handlers r n.transitions.errors = []) :
    n ∈ (expandRetries g).graph.toList := by
  obtain ⟨s, tidy', there, _, _, lasting⟩ :=
    Looping.expands.visits tidy tidy.serials (fun _ member => member) done member
  refine lasting n ?_ (.inl rfl)
  rcases expandNode_cases tidy' n with ⟨same, _⟩ | ⟨r, _, _, _, _, _, _, retry, more, _, handled, _⟩
  · rw [same]
    exact there
  · rcases idle r retry with few | bare
    · omega
    · exact absurd bare handled

/-- A node that is to be tried again is led to its loop. -/
theorem tried (tidy : g.Tidy) (done : (expandRetries g).failure = none) (member : n ∈ g.toList)
    (retry : n.retry = some r) (more : 1 < r.maxAttempts)
    (handled : handlers r n.transitions.errors ≠ []) :
    Numeral.isWritable r.maxAttempts = true ∧ ∃ lead loop prompts entry exit,
      n.redirected r lead ∈ (expandRetries g).graph.toList ∧
      Tried (g.Adds (expandRetries g).graph) n r lead loop prompts entry exit := by
  obtain ⟨s, tidy', there, fine, used, lasting⟩ :=
    Looping.expands.visits tidy tidy.serials (fun _ member => member) done member
  obtain ⟨writable, lead, loop, prompts, entry, exit, g', extended, tried, written⟩ :=
    expandNode_tried tidy' retry more handled fine
  have rewritten := extended.rewrites tidy' there (n.redirected r lead) rfl rfl
  refine ⟨writable, lead, loop, prompts, entry, exit, lasting _ ?_ (.inl rfl),
    tried.mono fun m added => ⟨lasting m ?_ (.inr (added.serial tidy' extended)),
      fun taken => added.2 (used taken)⟩⟩
  · rw [written]
    exact rewritten.placed
  · have above := added.serial tidy' extended
    have below := tidy'.counted n there
    rw [written, (Graph.changed_modifyNode g' n.serial _).toList]
    exact List.mem_map.2 ⟨m, added.1, if_neg (by omega)⟩

end ExpandRetries

end ContactFlow
