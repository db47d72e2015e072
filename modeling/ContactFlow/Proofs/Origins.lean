import ContactFlow.Proofs.Compiled
import ContactFlow.Proofs.Visits

/-!
Where the nodes of an expanded graph come from. A node that is no input was built as it is, but for
its references; every other node is an input, or was added between an input and the handlers of its
errors.
-/

namespace ContactFlow

namespace Graph

variable {g : Graph} {m : Node} {serial : Nat} {f : Node → Node}

theorem mem_modifyNode (member : m ∈ (g.modifyNode serial f).toList) :
    m ∈ g.toList ∨ ∃ k ∈ g.toList, k.serial = serial ∧ m = f k := by
  rw [(changed_modifyNode g serial f).toList] at member
  obtain ⟨k, inside, rfl⟩ := List.mem_map.1 member
  by_cases here : k.serial = serial
  · rw [if_pos here]
    exact .inr ⟨k, inside, here, rfl⟩
  · rw [if_neg here]
    exact .inl inside

theorem Grown.mem {g' : Graph} {n : Node} (grown : g.Grown n g') (member : m ∈ g'.toList) :
    m ∈ g.toList ∨ m = n := by
  rw [grown.toList, List.mem_append, List.mem_singleton] at member
  exact member

end Graph

namespace Staging

variable {s : Staging} {n m : Node}

theorem mem_write {g : Graph} (written : g = s.graph.modifyNode n.serial fun _ => n)
    (member : m ∈ g.toList) : m ∈ s.graph.toList ∨ m = n := by
  rw [written] at member
  rcases Graph.mem_modifyNode member with old | ⟨_, _, _, new⟩
  · exact .inl old
  · exact .inr new

/-- Only inputs are written anew, and only inputs are added. -/
theorem Turn.mem {s' : Staging} (turn : Turn s n s') (tidy : s.graph.Tidy)
    (member : m ∈ s'.graph.toList) : m ∈ s.graph.toList ∨ m.kind = .collectInput := by
  have written {n' : Node} (inside : m ∈ (s.write n').graph.toList)
      (input : n'.kind = .collectInput) : m ∈ s.graph.toList ∨ m.kind = .collectInput :=
    (mem_write rfl inside).imp_right fun new => by rw [new, input]
  cases turn with
  | idle => exact .inl member
  | fails => exact .inl member
  | plain input => exact written member input
  | unmet input => exact written member input
  | single input => exact written member input
  | @split spec f first second input =>
    obtain ⟨added, g, grown, kind, split⟩ := split_grown tidy n spec f first second
    rw [split] at member
    rcases Graph.mem_modifyNode member with there | ⟨_, _, _, rfl⟩
    · rcases grown.mem there with old | rfl
      · exact .inl old
      · exact .inr kind
    · exact .inr input

end Staging

theorem ExpandInputs.origin {g : Graph} (tidy : g.Tidy) {m : Node}
    (member : m ∈ (expandInputs g).graph.toList) : m ∈ g.toList ∨ m.kind = .collectInput := by
  have all := Staging.expands.induction (s := { graph := g }) tidy tidy.serials
    (fun _ inside => inside)
    (P := fun s => ∀ m ∈ s.graph.toList, m ∈ g.toList ∨ m.kind = .collectInput)
  refine all ?_ ?_ m member
  · exact fun m inside => .inl inside
  · intro s n _ tidy' _ origins m inside
    rcases (Staging.turn_expandNode s n).mem tidy' inside with old | new
    · exact origins m old
    · exact .inr new

namespace Looping

open Draft

/-- A node that stands between an input and the handlers of its errors. -/
inductive Between (m : Node) : Prop
  | prompt (kind : m.kind = .message) (next : m.transitions.next ≠ none)
  | marker (kind : m.kind = .setAttributes) (failed : ErrorKind) (parameters : m.parameters = mark failed)
    (next : m.transitions.next ≠ none)
  | comparison (kind : m.kind = .checkAttribute)
    (parameters : m.parameters = [textKey "ComparisonValue" ("$.Attributes." ++ retryExitAttribute)])
  | loop (kind : m.kind = .loop) (rounds : Int) (entry exit : String) (positive : 0 < rounds)
    (writable : Numeral.isWritable rounds = true)
    (parameters : m.parameters = [textKey "LoopCount" (toString rounds)])
    (transitions : m.transitions = around entry exit)

variable {s : Looping} {n m : Node} {r : RetrySpec}

theorem mem_setTransitions (tidy : s.graph.Tidy) {id : String} {t : Transitions}
    (member : m ∈ (s.setTransitions id t).graph.toList) :
    m ∈ s.graph.toList ∧ m.id ≠ id ∨
      ∃ k ∈ s.graph.toList, k.id = id ∧ m = { k with transitions := t } := by
  rw [(changed_setTransitions tidy id t).toList] at member
  obtain ⟨k, inside, rfl⟩ := List.mem_map.1 member
  by_cases here : k.id = id
  · rw [if_pos here]
    exact .inr ⟨k, inside, here, rfl⟩
  · rw [if_neg here]
    exact .inl ⟨inside, here⟩

/-- The loop of a node and its retry prompt are all that is added with them. -/
theorem mem_addLoop (tidy : s.graph.Tidy) (more : 1 < r.maxAttempts)
    (writable : Numeral.isWritable r.maxAttempts = true) {exit : String}
    (member : m ∈ (s.addLoop n r exit).2.graph.toList) : m ∈ s.graph.toList ∨ Between m := by
  obtain ⟨l, grown, loop, kind, parameters, _⟩ : ∃ l, s.graph.Grown l (s.withLoop n r).2.graph ∧
    l.id = (s.withLoop n r).1 ∧ _ := add_grown tidy ..
  have tidy' := grown.tidy tidy
  have placed : l ∈ (s.withLoop n r).2.graph.toList := by
    rw [grown.toList]
    exact List.mem_append_right _ (List.mem_singleton_self l)
  have between (entry : String) : Between { l with transitions := around entry exit } :=
    .loop kind (r.maxAttempts - 1) entry exit (by omega)
      (Numeral.isWritable_pred (by omega) writable) parameters rfl
  -- the loop is told from the others by its identifier when it is wired up
  have wired {s' : Looping} (after : s'.graph.Tidy) (there : l ∈ s'.graph.toList) {entry : String}
      (member : m ∈ (s'.wired n r (s.withLoop n r).1 entry exit).2.graph.toList) :
      m ∈ s'.graph.toList ∧ m ≠ l ∨ Between m := by
    have set : m ∈ (s'.setTransitions (s.withLoop n r).1 (around entry exit)).graph.toList := member
    rcases mem_setTransitions after set with ⟨old, other⟩ | ⟨k, inside, here, rfl⟩
    · refine .inl ⟨old, ?_⟩
      rintro rfl
      exact other loop
    · rw [Graph.eq_of_id after inside there (here.trans loop.symm)]
      exact .inr (between entry)
  have old {k : Node} (inside : k ∈ (s.withLoop n r).2.graph.toList) (other : k ≠ l) :
      k ∈ s.graph.toList := (grown.mem inside).resolve_right other
  by_cases silent : r.retryPrompt.getD "" = ""
  · rw [addLoop_silent s n exit silent] at member
    rcases wired tidy' placed member with ⟨inside, other⟩ | between
    · exact .inl (old inside other)
    · exact .inr between
  · obtain ⟨prompt, given⟩ : ∃ prompt, r.retryPrompt = some prompt := by
      cases given : r.retryPrompt with
      | none => exact absurd (by rw [given]; rfl) silent
      | some prompt => exact ⟨prompt, rfl⟩
    have loud : prompt ≠ "" := by rwa [given, Option.getD_some] at silent
    obtain ⟨p, grown', _, message, _, transitions⟩ : ∃ p, (s.withLoop n r).2.graph.Grown p
      ((s.withLoop n r).2.withPrompt n prompt).2.graph ∧
      p.id = ((s.withLoop n r).2.withPrompt n prompt).1 ∧ _ := add_grown tidy' ..
    have still : l ∈ ((s.withLoop n r).2.withPrompt n prompt).2.graph.toList := by
      rw [grown'.toList]
      exact List.mem_append_left _ placed
    rw [addLoop_prompt s n exit given loud] at member
    rcases wired (grown'.tidy tidy') still member with ⟨inside, other⟩ | between
    · rcases grown'.mem inside with before | rfl
      · exact .inl (old before other)
      · exact .inr (.prompt message (by rw [transitions]; exact Option.some_ne_none _))
    · exact .inr between

/-- Markers are all that is added for several handlers. -/
theorem mem_addMarkers (tidy : s.graph.Tidy) {groups : List (String × ErrorKind)}
    (member : m ∈ (s.addMarkers n groups).2.graph.toList) :
    m ∈ s.graph.toList ∨ m.id ∈ (s.addMarkers n groups).1.map (·.2) := by
  induction groups generalizing s with
  | nil => exact .inl member
  | cons group rest ih =>
    obtain ⟨handler, kind⟩ := group
    obtain ⟨k, grown, name, _⟩ : ∃ k, s.graph.Grown k (s.withMarker n kind).2.graph ∧
      k.id = (s.withMarker n kind).1 ∧ _ := add_grown tidy ..
    rw [addMarkers_cons] at member ⊢
    rcases ih (grown.tidy tidy) member with before | later
    · rcases grown.mem before with old | rfl
      · exact .inl old
      · exact .inr (List.mem_cons.2 (.inl name))
    · exact .inr (List.mem_cons_of_mem _ later)

/-- Setting the transitions of some nodes leaves the others as they are. -/
theorem mem_setAll (tidy : s.graph.Tidy) (t : Transitions) {markers : List (String × String)}
    (member : m ∈ (markers.foldl (fun s k => s.setTransitions k.2 t) s).graph.toList) :
    ∃ k ∈ s.graph.toList, k.id ∈ markers.map (·.2) ∧ m = { k with transitions := t } ∨
      k.id ∉ markers.map (·.2) ∧ m = k := by
  induction markers generalizing s with
  | nil => exact ⟨m, member, .inr ⟨List.not_mem_nil, rfl⟩⟩
  | cons first rest ih =>
    have changed := changed_setTransitions tidy first.2 t
    have tidy' := changed.tidy (Graph.keeps_if fun _ _ _ => ⟨rfl, rfl⟩) tidy
    obtain ⟨k, inside, after⟩ := ih tidy' member
    rw [List.map_cons]
    rcases mem_setTransitions tidy inside with ⟨old, other⟩ | ⟨k, old, here, rfl⟩
    · refine ⟨k, old, ?_⟩
      rcases after with ⟨later, rfl⟩ | ⟨never, rfl⟩
      · exact .inl ⟨List.mem_cons_of_mem _ later, rfl⟩
      · refine .inr ⟨fun among => ?_, rfl⟩
        exact (List.mem_cons.1 among).elim other never
    · refine ⟨k, old, .inl ⟨here ▸ List.mem_cons_self, ?_⟩⟩
      rcases after with ⟨_, rfl⟩ | ⟨_, rfl⟩
      · rfl
      · rfl

theorem mem_dispatch (tidy : s.graph.Tidy) (more : 1 < r.maxAttempts)
    (writable : Numeral.isWritable r.maxAttempts = true) {groups : List (String × ErrorKind)}
    {first : String} (member : m ∈ (s.dispatch n r groups first).graph.toList) :
    m ∈ s.graph.toList ∨ (∃ errors, m = { n with transitions := { n.transitions with errors } }) ∨
      Between m := by
  rw [dispatch_eq] at member
  obtain ⟨marking, pairs⟩ := addMarkers_spec tidy n groups
  have marked {k : Node} : k ∈ (s.addMarkers n groups).2.graph.toList →
      k ∈ s.graph.toList ∨ k.id ∈ (s.addMarkers n groups).1.map (·.2) := mem_addMarkers tidy
  generalize s.addMarkers n groups = marking' at member marking pairs marked
  obtain ⟨markers, s₁⟩ := marking'
  obtain ⟨d, grown, _, check, parameters, _⟩ : ∃ d,
    s₁.graph.Grown d (s₁.withComparison n groups first).2.graph ∧
    d.id = (s₁.withComparison n groups first).1 ∧ _ := add_grown marking.tidy ..
  have comparing := Graph.Extends.of_grown marking.tidy grown
  simp only at member
  generalize s₁.withComparison n groups first = compared at grown comparing member
  obtain ⟨exit, s₂⟩ := compared
  obtain ⟨loops, _⟩ := addLoop_spec comparing.tidy n r exit
  have looped {k : Node} : k ∈ (s₂.addLoop n r exit).2.graph.toList →
      k ∈ s₂.graph.toList ∨ Between k := mem_addLoop comparing.tidy more writable
  generalize s₂.addLoop n r exit = looping at loops looped member
  obtain ⟨loop, s₃⟩ := looping
  simp only at pairs grown comparing loops looped marked member
  rcases Graph.mem_modifyNode member with there | ⟨_, _, _, rfl⟩
  · obtain ⟨k, inside, ⟨among, rfl⟩ | ⟨other, rfl⟩⟩ := mem_setAll loops.tidy { next := some loop } there
    · -- a node that goes by the identifier of a marker is that marker
      obtain ⟨marker, listed, here⟩ := List.mem_map.1 among
      obtain ⟨kind, ⟨k', added, name, set, parameters, _⟩⟩ := marker_kind
        (P := fun kind id => Marks (s.graph.Adds s₁.graph) kind none id) pairs marker listed
      have still := (comparing.trans loops).kept k' added.1
      have same := Graph.eq_of_id loops.tidy inside still (here.symm.trans name.symm)
      rw [same]
      exact .inr (.inr (.marker set kind parameters (Option.some_ne_none loop)))
    · rcases looped inside with before | between
      · rcases grown.mem before with earlier | rfl
        · exact .inl ((marked earlier).resolve_right other)
        · exact .inr (.inr (.comparison check parameters))
      · exact .inr (.inr between)
  · exact .inr (.inl ⟨_, rfl⟩)

/-- Only a node that may be tried again is written anew. -/
theorem mem_expandNode (tidy : s.graph.Tidy) (member : m ∈ (s.expandNode n).graph.toList) :
    m ∈ s.graph.toList ∨ n.retry ≠ none ∧ m.kind = n.kind ∨ Between m := by
  have attempt := attempt_expandNode s n
  generalize s.expandNode n = s' at member attempt
  cases attempt with
  | idle => exact .inl member
  | long => exact .inl member
  | unhandled => exact .inl member
  | @single r _ _ _ retry more writable =>
    have again : n.retry ≠ none := by rw [retry]; exact Option.some_ne_none r
    rcases Graph.mem_modifyNode member with there | ⟨_, _, _, rfl⟩
    · rcases mem_addLoop tidy more writable there with old | between
      · exact .inl old
      · exact .inr (.inr between)
    · exact .inr (.inl ⟨again, rfl⟩)
  | @several r _ _ _ _ retry more writable =>
    have again : n.retry ≠ none := by rw [retry]; exact Option.some_ne_none r
    rcases mem_dispatch tidy more writable member with old | ⟨_, rfl⟩ | between
    · exact .inl old
    · exact .inr (.inl ⟨again, rfl⟩)
    · exact .inr (.inr between)

end Looping

theorem ExpandRetries.origin {g : Graph} (tidy : g.Tidy)
    (inputs : ∀ n ∈ g.toList, n.retry ≠ none → n.kind = .collectInput) {m : Node}
    (member : m ∈ (expandRetries g).graph.toList) :
    m ∈ g.toList ∨ m.kind = .collectInput ∨ Looping.Between m := by
  have all := Looping.expands.induction (s := { graph := g }) tidy tidy.serials
    (fun _ inside => inside)
    (P := fun s => ∀ m ∈ s.graph.toList, m ∈ g.toList ∨ m.kind = .collectInput ∨ Looping.Between m)
  refine all ?_ ?_ m member
  · exact fun m inside => .inl inside
  · intro s n listed tidy' _ origins m inside
    rcases Looping.mem_expandNode tidy' inside with old | ⟨again, kind⟩ | between
    · exact origins m old
    · exact .inr (.inl (kind.trans (inputs n listed again)))
    · exact .inr (.inr between)

namespace Compiler

/-- A node of an expanded graph that is no input was built, or stands between an input and the
handlers of its errors. -/
theorem Stages.origin {c : Compiler} {g staged expanded : Graph} (stages : Stages c g staged expanded)
    (tidy : g.Tidy) (proper : ∀ n ∈ g.toList, n.Proper) {m : Node} (member : m ∈ expanded.toList) :
    (∃ n ∈ g.toList, n.kind ≠ .collectInput ∧ m = c.registry.resolveNode n) ∨
      m.kind = .collectInput ∨ Looping.Between m := by
  have resolved := (c.registry.changed_resolvedGraph g).tidy (c.registry.keeps_resolveNode g) tidy
  have built {k : Node} (inside : k ∈ staged.toList) :
      (∃ n ∈ g.toList, k = c.registry.resolveNode n) ∨ k.kind = .collectInput := by
    rw [stages.staged_eq] at inside
    rcases ExpandInputs.origin resolved inside with old | input
    · rw [(c.registry.changed_resolvedGraph g).toList] at old
      obtain ⟨n, there, rfl⟩ := List.mem_map.1 old
      exact .inl ⟨n, there, rfl⟩
    · exact .inr input
  have inputs : ∀ k ∈ staged.toList, k.retry ≠ none → k.kind = .collectInput := by
    intro k inside again
    rcases built inside with ⟨n, there, rfl⟩ | input
    · obtain ⟨r, retry⟩ := Option.ne_none_iff_exists'.1 again
      exact ((proper n there).retried r retry).1
    · exact input
  rw [stages.expanded_eq] at member
  rcases ExpandRetries.origin (stages.tidy_staged tidy) inputs member with old | input | between
  · by_cases input : m.kind = .collectInput
    · exact .inr (.inl input)
    · obtain ⟨n, there, rfl⟩ := (built old).resolve_right input
      exact .inl ⟨n, there, input, rfl⟩
  · exact .inr (.inl input)
  · exact .inr (.inr between)

/-- A node that was built and is no input is there as it was, but for its references. -/
theorem Stages.kept {c : Compiler} {g staged expanded : Graph} (stages : Stages c g staged expanded)
    (tidy : g.Tidy) (proper : ∀ n ∈ g.toList, n.Proper) {n : Node} (member : n ∈ g.toList)
    (other : n.kind ≠ .collectInput) : c.registry.resolveNode n ∈ expanded.toList := by
  have resolved := (c.registry.changed_resolvedGraph g).tidy (c.registry.keeps_resolveNode g) tidy
  have staged_there := ExpandInputs.other resolved stages.inputs (Stages.mem_resolved member)
    (n := c.registry.resolveNode n) other
  rw [← stages.staged_eq] at staged_there
  rw [stages.expanded_eq]
  refine ExpandRetries.other (stages.tidy_staged tidy) stages.retries staged_there ?_
  intro r retry
  exact absurd ((proper n member).retried r retry).1 other

end Compiler

end ContactFlow
