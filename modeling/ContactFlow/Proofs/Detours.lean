import ContactFlow.Proofs.Expanding
import ContactFlow.Proofs.Trying

/-!
What the expansion of retries leaves in a graph, exactly: the nodes that there were, each in its place,
and a detour for each that is tried again for some handler. A detour is a loop with its retry prompt; in
front of the loop of several handlers stand a marker for each and the comparison on what was marked.
-/

namespace ContactFlow

/-- A node that an expansion adds: nothing of it is to be expanded. -/
structure Node.Made (m : Node) (kind : ActionKind) (parameters : Table) (transitions : Transitions) :
    Prop where
  kind : m.kind = kind
  parameters : m.parameters = parameters
  transitions : m.transitions = transitions
  retry : m.retry = none
  spec : m.spec = none

theorem Node.Made.led {m : Node} {kind : ActionKind} {parameters : Table} {transitions : Transitions}
    (made : m.Made kind parameters transitions) (t : Transitions) :
    Made { m with transitions := t } kind parameters t :=
  ⟨made.kind, made.parameters, rfl, made.retry, made.spec⟩

namespace Looping

open Draft

/-- The loop of a node and its retry prompt, if it has one. -/
inductive Ring (n : Node) (r : RetrySpec) (exit : String) : String → List Node → Prop
  | bare {l : Node} (silent : r.retryPrompt.getD "" = "")
    (loop : l.Made .loop [textKey "LoopCount" (toString (r.maxAttempts - 1))] (around n.id exit)) :
    Ring n r exit l.id [l]
  | prompted {l p : Node} {prompt : String} (given : r.retryPrompt = some prompt)
    (loud : prompt ≠ "")
    (loop : l.Made .loop [textKey "LoopCount" (toString (r.maxAttempts - 1))] (around p.id exit))
    (message : p.Made .message [textKey "Text" prompt] { next := some n.id }) :
    Ring n r exit l.id [l, p]

/-- The marker of a handler, by the handler. -/
def markerOf (groups : List (String × ErrorKind)) (marks : List Node) (handler : String) : String :=
  (((groups.map (·.1)).zip (marks.map (·.id))).lookup handler).getD handler

/-- What stands between a node and the handlers of its retryable errors, and where the errors that
lead to the handlers are led instead. -/
inductive Detour (n : Node) (r : RetrySpec) : (String → String) → List Node → Prop
  | one {handler loop : String} {kind : ErrorKind} {ms : List Node}
    (known : handlers r n.transitions.errors = [(handler, kind)]) (ring : Ring n r handler loop ms) :
    Detour n r (fun _ => loop) ms
  | several {groups : List (String × ErrorKind)} {first loop : String} {marks ms : List Node}
    {d : Node} (known : handlers r n.transitions.errors = groups)
    (starts : ∃ kind, (first, kind) ∈ groups)
    (markers : List.Forall₂ (fun g m => m.Made .setAttributes (mark g.2) { next := some loop })
      groups marks)
    (comparison : d.Made .checkAttribute
      [textKey "ComparisonValue" ("$.Attributes." ++ retryExitAttribute)]
      { conditions := groups.map fun (h, kind) => ⟨.equals kind.label, some h⟩
        errors := [⟨.noMatch, some first⟩] })
    (ring : Ring n r d.id loop ms) : Detour n r (markerOf groups marks) (marks ++ d :: ms)

/-- What becomes of a node. -/
inductive Becomes (n : Node) : Node → List Node → Prop
  | idle (idle : ∀ r, n.retry = some r →
      r.maxAttempts ≤ 1 ∨ handlers r n.transitions.errors = []) : Becomes n n []
  | tried {r : RetrySpec} {lead : String → String} {ms : List Node} (retry : n.retry = some r)
    (more : 1 < r.maxAttempts) (detour : Detour n r lead ms) : Becomes n (n.redirected r lead) ms

variable {s : Looping} {g : Graph} {n : Node} {r : RetrySpec} {ms : List Node}

theorem grownBy_add (tidy : s.graph.Tidy) (kind : ActionKind) (hint : String) (parameters : Table)
    (transitions : Transitions) :
    ∃ m, s.graph.GrownBy [m] (s.add kind hint parameters transitions).2.graph ∧
      m.id = (s.add kind hint parameters transitions).1 ∧ m.Made kind parameters transitions := by
  let a := s.graph.allocateNode kind hint parameters
  have grown : s.graph.Grown a.1 a.2 := Graph.grown_allocateNode tidy ..
  have led := grown.modifyNode tidy (fun _ => { a.1 with transitions }) ⟨rfl, rfl⟩
  exact ⟨_, .of_grown tidy led, rfl, rfl, rfl, rfl, rfl, rfl⟩

/-- The transitions of added nodes may be set. -/
theorem grownBy_setTransitions (tidy : g.Tidy) (grown : g.GrownBy ms s.graph) {id : String}
    (fresh : id ∉ g.allocator.used) (t : Transitions) :
    g.GrownBy (ms.map fun m => if m.id = id then { m with transitions := t } else m)
      (s.setTransitions id t).graph := by
  refine grown.changed (changed_setTransitions grown.tidy id t) (Graph.keeps_if fun _ _ _ => ⟨rfl, rfl⟩)
    fun m member => if_neg fun same => ?_
  exact fresh (same ▸ tidy.used _ ((Graph.mem_keys tidy).2 ⟨m, member, rfl⟩))

theorem grownBy_setAll (tidy : g.Tidy) {ids : List String} (fresh : ∀ id ∈ ids, id ∉ g.allocator.used)
    (grown : g.GrownBy ms s.graph) (t : Transitions) :
    g.GrownBy (ms.map fun m => if m.id ∈ ids then { m with transitions := t } else m)
      (ids.foldl (fun s id => s.setTransitions id t) s).graph := by
  induction ids generalizing s ms with
  | nil => simpa using grown
  | cons id rest ih =>
    have first := grownBy_setTransitions tidy grown (fresh id List.mem_cons_self) t
    have onward := ih (fun id later => fresh id (List.mem_cons_of_mem _ later)) first
    rw [List.map_map] at onward
    refine (List.map_congr_left fun m _ => ?_) ▸ onward
    simp only [Function.comp_apply, List.mem_cons]
    by_cases here : m.id = id
    · simp [here]
    · simp [here]

/-! ### Rings -/

theorem ring_of_addLoop (tidy : s.graph.Tidy) (n : Node) (r : RetrySpec) (exit : String) :
    ∃ ms, s.graph.GrownBy ms (s.addLoop n r exit).2.graph ∧
      Ring n r exit (s.addLoop n r exit).1 ms := by
  obtain ⟨l, grown, loop, made⟩ : ∃ l, s.graph.GrownBy [l] (s.withLoop n r).2.graph ∧
    l.id = (s.withLoop n r).1 ∧ _ := grownBy_add tidy ..
  have fresh : l.id ∉ s.graph.allocator.used := grown.fresh l (List.mem_singleton_self l)
  rcases prompt_cases r with silent | ⟨prompt, given, loud⟩
  · rw [addLoop_silent s n exit silent, ← loop]
    have led := grownBy_setTransitions tidy grown fresh (around n.id exit)
    simp only [List.map_cons, List.map_nil, if_true] at led
    exact ⟨_, led, .bare (l := { l with transitions := around n.id exit }) silent (made.led _)⟩
  · obtain ⟨p, grown', entry, message⟩ : ∃ p, (s.withLoop n r).2.graph.GrownBy [p]
      ((s.withLoop n r).2.withPrompt n prompt).2.graph ∧
      p.id = ((s.withLoop n r).2.withPrompt n prompt).1 ∧ _ := grownBy_add grown.tidy ..
    have both := grown.trans grown'
    have apart : p.id ≠ l.id := by
      have free := grown'.fresh p (List.mem_singleton_self p)
      rw [grown.used] at free
      intro same
      exact free (by simp [same])
    rw [addLoop_prompt s n exit given loud, ← loop, ← entry]
    have led := grownBy_setTransitions tidy both fresh (around p.id exit)
    simp only [List.cons_append, List.nil_append, List.map_cons, List.map_nil, if_true,
      if_neg apart] at led
    exact ⟨_, led, .prompted (l := { l with transitions := around p.id exit }) given loud (made.led _)
      message⟩

/-! ### Markers -/

theorem marks_of_addMarkers (tidy : s.graph.Tidy) (n : Node) (groups : List (String × ErrorKind)) :
    ∃ marks, s.graph.GrownBy marks (s.addMarkers n groups).2.graph ∧
      List.Forall₂ (fun g m => m.Made .setAttributes (mark g.2) {}) groups marks ∧
      (s.addMarkers n groups).1 = (groups.map (·.1)).zip (marks.map (·.id)) := by
  induction groups generalizing s with
  | nil => exact ⟨[], .refl tidy, .nil, rfl⟩
  | cons group rest ih =>
    obtain ⟨handler, kind⟩ := group
    obtain ⟨m, grown, name, made⟩ : ∃ m, s.graph.GrownBy [m] (s.withMarker n kind).2.graph ∧
      m.id = (s.withMarker n kind).1 ∧ _ := grownBy_add tidy ..
    obtain ⟨marks, grown', pairs, listed⟩ := ih grown.tidy
    rw [addMarkers_cons, listed]
    exact ⟨m :: marks, grown.trans grown', .cons made pairs, by simp [name]⟩

/-- The markers may all be led on, and what was added after them stays. -/
theorem grownBy_led (tidy : g.Tidy) {g' : Graph} {marks rest : List Node} (marking : g.GrownBy marks g')
    (onward : g'.GrownBy rest s.graph) (t : Transitions) :
    g.GrownBy (marks.map (fun m => { m with transitions := t }) ++ rest)
      ((marks.map (·.id)).foldl (fun s id => s.setTransitions id t) s).graph := by
  have fresh : ∀ id ∈ marks.map (·.id), id ∉ g.allocator.used := by
    intro id among
    obtain ⟨m, member, rfl⟩ := List.mem_map.1 among
    exact marking.fresh m member
  -- the markers are told from what was added after them
  have later : ∀ m ∈ rest, m.id ∉ marks.map (·.id) := by
    intro m member among
    refine onward.fresh m member ?_
    rw [marking.used]
    exact List.mem_append_right _ among
  have led := grownBy_setAll tidy fresh (marking.trans onward) t
  have ends : rest.map (fun m => if m.id ∈ marks.map (·.id) then { m with transitions := t } else m) =
      rest := (List.map_congr_left fun m member => if_neg (later m member)).trans (List.map_id _)
  have fronts : marks.map (fun m => if m.id ∈ marks.map (·.id) then
      { m with transitions := t } else m) = marks.map fun m => { m with transitions := t } :=
    List.map_congr_left fun m member => if_pos (List.mem_map_of_mem member)
  rwa [List.map_append, ends, fronts] at led

theorem markers_ids {groups : List (String × ErrorKind)} {marks : List Node}
    {P : String × ErrorKind → Node → Prop} (pairs : List.Forall₂ P groups marks) :
    ((groups.map (·.1)).zip (marks.map (·.id))).map (·.2) = marks.map (·.id) := by
  rw [List.map_snd_zip]
  simp [pairs.length_eq]

theorem detour_of_dispatch (tidy : s.graph.Tidy) {groups : List (String × ErrorKind)}
    (known : handlers r n.transitions.errors = groups) {first : String}
    (starts : ∃ kind, (first, kind) ∈ groups) :
    ∃ lead ms g, Detour n r lead ms ∧ s.graph.GrownBy ms g ∧
      (s.dispatch n r groups first).graph =
        g.modifyNode n.serial fun _ => n.redirected r lead := by
  rw [dispatch_eq]
  obtain ⟨marks, marking, pairs, listed⟩ := marks_of_addMarkers tidy n groups
  generalize s.addMarkers n groups = marked at marking listed
  obtain ⟨markers, s₁⟩ := marked
  obtain ⟨d, comparing, exit, made⟩ : ∃ d,
    s₁.graph.GrownBy [d] (s₁.withComparison n groups first).2.graph ∧
    d.id = (s₁.withComparison n groups first).1 ∧ _ := grownBy_add marking.tidy ..
  simp only at listed marking ⊢
  generalize s₁.withComparison n groups first = compared at comparing exit
  obtain ⟨exit', s₂⟩ := compared
  simp only at comparing exit ⊢
  subst exit
  obtain ⟨ms, looping, ring⟩ := ring_of_addLoop comparing.tidy n r d.id
  generalize s₂.addLoop n r d.id = looped at looping ring
  obtain ⟨loop, s₃⟩ := looped
  simp only at looping ring
  have led := grownBy_led tidy marking (comparing.trans looping) { next := some loop }
  have joined : List.Forall₂ (fun g m => m.Made .setAttributes (mark g.2) { next := some loop })
      groups (marks.map fun m => { m with transitions := { next := some loop } }) := by
    rw [List.forall₂_map_right_iff]
    exact pairs.imp fun _ _ made => made.led _
  refine ⟨_, _, _, .several known starts joined made ring, led, ?_⟩
  have same : (markers.foldl (fun s m => s.setTransitions m.2 { next := some loop }) s₃) =
      (marks.map (·.id)).foldl (fun s id => s.setTransitions id { next := some loop }) s₃ := by
    have ids : marks.map (·.id) = markers.map (·.2) := by rw [listed, markers_ids pairs]
    rw [ids, List.foldl_map]
  unfold Looping.joined
  rw [same, listed]
  have ids : (marks.map fun m => { m with transitions := { next := some loop } }).map (·.id) =
      marks.map (·.id) := by simp [Function.comp_def]
  unfold markerOf
  rw [ids]
  rfl

/-! ### Nodes -/

theorem becomes (tidy : s.graph.Tidy) (member : n ∈ s.graph.toList) (done : (s.expandNode n).Fine) :
    ∃ n' ms, Becomes n n' ms ∧ Graph.Replaces n n' ms s.graph (s.expandNode n).graph := by
  have stays (idle : ∀ r, n.retry = some r →
      r.maxAttempts ≤ 1 ∨ handlers r n.transitions.errors = []) :
      ∃ n' ms, Becomes n n' ms ∧ Graph.Replaces n n' ms s.graph s.graph :=
    ⟨n, [], .idle idle, Graph.replaces_self tidy member⟩
  have attempt := attempt_expandNode s n
  generalize s.expandNode n = s' at done attempt ⊢
  cases attempt with
  | idle passed =>
    rcases passed with failed | few
    · rw [done] at failed
      cases failed
    · exact stays fun r retry => .inl (few r retry)
  | long => cases done
  | unhandled _ retry bare =>
    refine stays fun r given => .inr ?_
    rw [retry] at given
    cases given
    exact bare
  | @single r handler _ _ retry more _ known =>
    obtain ⟨ms, grown, ring⟩ := ring_of_addLoop tidy n r handler
    exact ⟨_, ms, .tried retry more (.one known ring), grown.replaces tidy member _ rfl rfl⟩
  | several _ retry more _ known =>
    obtain ⟨lead, ms, g, detour, grown, written⟩ :=
      detour_of_dispatch tidy known ⟨_, List.mem_cons_self⟩
    rw [written]
    exact ⟨_, ms, .tried retry more detour, grown.replaces tidy member _ rfl rfl⟩

end Looping

namespace ExpandRetries

variable {g : Graph}

/-- Every node of the graph has an outcome. -/
theorem unfolds (tidy : g.Tidy) (done : (expandRetries g).failure = none) :
    ∃ xs, Graph.Unfolds Looping.Becomes xs g (expandRetries g).graph :=
  Graph.unfolds Looping.graph { graph := g } (fun _ _ => Looping.expandNode_fine)
    (fun _ _ => Looping.becomes) tidy done

theorem completes
    (writable : ∀ n ∈ g.toList, ∀ r, n.retry = some r → Numeral.isWritable r.maxAttempts) :
    (expandRetries g).failure = none := by
  have start : Looping.Fine { graph := g } := rfl
  exact List.foldlRecOn g.toList Looping.expandNode start fun _ fine n member =>
    Looping.fine_expandNode fine (writable n member)

end ExpandRetries

end ContactFlow
