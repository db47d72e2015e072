import ContactFlow.Proofs.Frames

/-!
What the expansions leave of a flow under construction. Whatever was built stays where it was, and the
flow has nothing more to be expanded. There is one loop more for each node that is tried again for some
handler, second stages included.
-/

namespace ContactFlow

namespace Node

/-- A node that gets a loop: it is tried again, and one of the errors it is tried again for is linked. -/
def triesAgain (n : Node) : Bool :=
  n.retry.any fun r => decide (1 < r.maxAttempts) && n.transitions.errors.any (Looping.retries r)

/-- The edge of an error stays as it is, unless the node is tried again for the error. -/
def Redirects (n : Node) (e e' : ErrorEdge) : Prop :=
  e'.kind = e.kind ∧
    (e' = e ∨ ∃ r, n.retry = some r ∧ 1 < r.maxAttempts ∧ Looping.retries r e = true)

end Node

namespace Graph

/-- A loop counts the attempts of a node but the first, and leads back to it. -/
structure LoopOf (g : Graph) (n l : Node) : Prop where
  counts : ∃ r, n.retry = some r ∧
    l.parameters = [Draft.textKey "LoopCount" (toString (r.maxAttempts - 1))]
  returns : Looping.Returns g.toList l n

/-- The last graph has what the first one has, and nothing of it is left to be expanded. -/
structure Conservative (g staged expanded : Graph) : Prop where
  entry : expanded.entry = g.entry
  named : ∀ e ∈ expanded.nodes, e.1 = e.2.id
  distinct : expanded.keys.Nodup
  kept : ∀ n ∈ g.toList, ∃ m, expanded.get? n.id = some m ∧ m.kind = n.kind ∧
    m.transitions.next = n.transitions.next
  others : ∀ n ∈ g.toList, n.kind ≠ .collectInput → expanded.get? n.id = some n
  lowered : ∀ m ∈ expanded.toList, m.Lowered
  loops : List.Forall₂ expanded.LoopOf (staged.toList.filter Node.triesAgain)
    (expanded.toList.filter fun m => m.kind = .loop ∧ m.id ∉ g.keys)
  errors : ∀ n ∈ staged.toList, ∃ m, expanded.get? n.id = some m ∧
    List.Forall₂ n.Redirects n.transitions.errors m.transitions.errors
  targets : ∀ m ∈ expanded.toList, ∀ t ∈ m.transitions.targets, t ∈ expanded.keys ∨
    t ∉ g.keys ∧ ∃ n ∈ g.toList, t ∈ n.transitions.targets

end Graph

namespace Looping

open Draft

variable {n n' : Node} {ms : List Node}

namespace Becomes

/-- A node gets a loop if it is tried again for some handler, and then only one. -/
theorem loops (becomes : Becomes n n' ms) :
    n.triesAgain = false ∧ ms = [] ∨ n.triesAgain = true ∧ ∃ l,
      ms.filter (·.kind = .loop) = [l] ∧ Returns ms l n ∧ ∃ r, n.retry = some r ∧
        l.parameters = [textKey "LoopCount" (toString (r.maxAttempts - 1))] := by
  cases becomes with
  | idle idle =>
    refine .inl ⟨?_, rfl⟩
    cases retry : n.retry with
    | none => simp [Node.triesAgain, retry]
    | some r =>
      rcases idle r retry with few | none
      · have last : ¬ 1 < r.maxAttempts := by omega
        simp [Node.triesAgain, retry, last]
      · simp [Node.triesAgain, retry, handlers_eq_nil.1 none]
  | @tried r lead _ retry more detour =>
    refine .inr ⟨?_, ?_⟩
    · have linked : n.transitions.errors.any (retries r) = true := by
        rw [← Bool.not_eq_false]
        exact fun none => detour.handled (handlers_eq_nil.2 none)
      simp [Node.triesAgain, retry, more, linked]
    · obtain ⟨l, only, counts, returns⟩ := detour.loops
      exact ⟨l, only, returns, r, retry, counts⟩

theorem errors (becomes : Becomes n n' ms) :
    List.Forall₂ n.Redirects n.transitions.errors n'.transitions.errors := by
  cases becomes with
  | idle => exact List.forall₂_same.2 fun e _ => ⟨rfl, .inl rfl⟩
  | @tried r lead _ retry more detour =>
    refine List.forall₂_map_right_iff.2 (List.forall₂_same.2 fun e _ => ?_)
    split
    · rename_i retried
      exact ⟨rfl, .inr ⟨r, retry, more, retried⟩⟩
    · exact ⟨rfl, .inl rfl⟩

end Becomes

end Looping

namespace Graph

variable {g : Graph} {xs ys : List Outcome} {n m : Node} {id : String}

namespace Expansion

theorem entry (expansion : g.Expansion xs ys) (ordered : g.InOrder) : g.expanded.entry = g.entry := by
  cases starts : g.entry with
  | some id =>
    have first := expansion.inputs.entry (by simp [starts])
    have second := expansion.retries.entry (by simp [first, starts])
    rw [second, first, starts]
  | none =>
    -- nothing was appended, and nothing is expanded
    have empty : g.nodes = [] := by
      have bare := ordered.entry
      rw [starts] at bare
      simpa [keys, Ordered.keys] using bare.symm
    simp [expanded, staged, expandInputs, expandRetries, toList, empty, starts]

/-- What became of a node in the end. -/
theorem kept (expansion : g.Expansion xs ys) (member : n ∈ g.toList) :
    ∃ m ∈ g.expanded.toList, m.id = n.id ∧ m.kind = n.kind ∧
      m.transitions.next = n.transitions.next := by
  obtain ⟨x, among, rfl⟩ := expansion.inputs.outcome member
  obtain ⟨y, inside, same⟩ := expansion.retries.outcome (expansion.inputs.result_mem among)
  have first := expansion.inputs.each x among
  have second := same ▸ expansion.retries.each y inside
  have id : y.source.id = x.source.id := same ▸ expansion.inputs.ids x among
  exact ⟨y.result, expansion.retries.result_mem inside, (expansion.retries.ids y inside).trans id,
    second.kind.trans first.kind, second.next.trans first.next⟩

/-- A node that is no input stays as it is. -/
theorem other (expansion : g.Expansion xs ys) (member : n ∈ g.toList) (other : n.kind ≠ .collectInput) :
    n ∈ g.expanded.toList := by
  have proper := (expansion.ready n member).proper
  have once : n.retry = none := by
    cases retry : n.retry with
    | none => rfl
    | some r => exact absurd (proper.retried r retry).1 other
  obtain ⟨x, among, rfl⟩ := expansion.inputs.outcome member
  have same := ((expansion.inputs.each x among).of_other other).1
  obtain ⟨y, inside, here⟩ := expansion.retries.outcome (expansion.inputs.result_mem among)
  have stays := ((expansion.retries.each y inside).of_once (by rw [here, same, once])).1
  have there := expansion.retries.result_mem inside
  rwa [stays, here, same] at there

theorem lowered_staged (expansion : g.Expansion xs ys) (member : m ∈ g.staged.toList) : m.Lowered := by
  rcases expansion.inputs.origin member with ⟨x, among, rfl⟩ | ⟨x, among, added⟩
  · exact (expansion.inputs.each x among).lowered
      (expansion.ready _ (expansion.inputs.source_mem among))
  · exact (expansion.inputs.each x among).lowered_of_added
      (expansion.ready _ (expansion.inputs.source_mem among)) added

theorem lowered (expansion : g.Expansion xs ys) (member : m ∈ g.expanded.toList) : m.Lowered := by
  rcases expansion.retries.origin member with ⟨y, among, rfl⟩ | ⟨y, among, added⟩
  · exact (expansion.retries.each y among).lowered
      (expansion.lowered_staged (expansion.retries.source_mem among))
  · exact (expansion.retries.each y among).lowered_of_added added

theorem targets_staged (expansion : g.Expansion xs ys) (member : m ∈ g.staged.toList)
    (leads : id ∈ m.transitions.targets) :
    id ∈ g.staged.keys ∨ ∃ n ∈ g.toList, id ∈ n.transitions.targets := by
  rcases expansion.inputs.origin member with ⟨x, among, rfl⟩ | ⟨x, among, added⟩
  · rcases (expansion.inputs.each x among).targets leads with old | ⟨⟨m', added, rfl⟩, _⟩
    · exact .inr ⟨x.source, expansion.inputs.source_mem among, old⟩
    · exact .inl (expansion.inputs.key_of_added among added)
  · exact .inr ⟨x.source, expansion.inputs.source_mem among,
      (expansion.inputs.each x among).targets_of_added added leads⟩

theorem targets (expansion : g.Expansion xs ys) (member : m ∈ g.expanded.toList)
    (leads : id ∈ m.transitions.targets) :
    id ∈ g.expanded.keys ∨ id ∉ g.keys ∧ ∃ n ∈ g.toList, id ∈ n.transitions.targets := by
  have staged {k : Node} (inside : k ∈ g.staged.toList) (leads : id ∈ k.transitions.targets) :
      id ∈ g.expanded.keys ∨ id ∉ g.keys ∧ ∃ n ∈ g.toList, id ∈ n.transitions.targets := by
    by_cases key : id ∈ g.staged.keys
    · exact .inl (expansion.retries.kept expansion.inputs.tidy key)
    · exact .inr ⟨fun old => key (expansion.inputs.kept expansion.tidy old),
        (expansion.targets_staged inside leads).resolve_left key⟩
  rcases expansion.retries.origin member with ⟨y, among, rfl⟩ | ⟨y, among, added⟩
  · rcases (expansion.retries.each y among).targets leads with old | ⟨m', added, rfl⟩
    · exact staged (expansion.retries.source_mem among) old
    · exact .inl (expansion.retries.key_of_added among added)
  · rcases (expansion.retries.each y among).targets_of_added added leads with rfl | old | ⟨m', there, rfl⟩
    · exact .inl (expansion.retries.kept expansion.inputs.tidy
        ((mem_keys expansion.inputs.tidy).2 ⟨_, expansion.retries.source_mem among, rfl⟩))
    · exact staged (expansion.retries.source_mem among) old
    · exact .inl (expansion.retries.key_of_added among there)

theorem errors (expansion : g.Expansion xs ys) (member : n ∈ g.staged.toList) :
    ∃ m, g.expanded.get? n.id = some m ∧
      List.Forall₂ n.Redirects n.transitions.errors m.transitions.errors := by
  obtain ⟨y, among, rfl⟩ := expansion.retries.outcome member
  refine ⟨y.result, ?_, (expansion.retries.each y among).errors⟩
  rw [← expansion.retries.ids y among]
  exact get?_mem expansion.retries.tidy (expansion.retries.result_mem among)

/-- The loops that are not in the flow under construction are those that the retries have added. -/
theorem new_loops (expansion : g.Expansion xs ys) :
    (g.expanded.toList.filter fun m => m.kind = .loop ∧ m.id ∉ g.keys) =
      ys.flatMap fun y => y.added.filter (·.kind = .loop) := by
  have old : (ys.map (·.result)).filter (fun m => m.kind = .loop ∧ m.id ∉ g.keys) = [] := by
    refine List.filter_eq_nil_iff.2 fun m inside => ?_
    obtain ⟨y, among, rfl⟩ := List.mem_map.1 inside
    have kind := (expansion.retries.each y among).kind
    have id := expansion.retries.ids y among
    rcases expansion.inputs.origin (expansion.retries.source_mem among) with
      ⟨x, there, same⟩ | ⟨x, there, added⟩
    · have key : y.result.id ∈ g.keys := by
        rw [id, same, expansion.inputs.ids x there]
        exact (mem_keys expansion.tidy).2 ⟨_, expansion.inputs.source_mem there, rfl⟩
      simp [key]
    · have input := (expansion.inputs.each x there).input_of_added added
      simp [kind, input]
  rw [expansion.retries.nodes, List.filter_append, old, List.nil_append, List.filter_flatMap]
  refine List.flatMap_congr fun y among => List.filter_congr fun m inside => ?_
  have new : m.id ∉ g.keys := fun key =>
    expansion.retries.not_key expansion.inputs.tidy among inside
      (expansion.inputs.kept expansion.tidy key)
  simp [new]

theorem loops (expansion : g.Expansion xs ys) :
    List.Forall₂ g.expanded.LoopOf (g.staged.toList.filter Node.triesAgain)
      (g.expanded.toList.filter fun m => m.kind = .loop ∧ m.id ∉ g.keys) := by
  rw [expansion.new_loops, ← expansion.retries.sources]
  have part (l : List Outcome) (inside : ∀ y ∈ l, y ∈ ys) :
      List.Forall₂ g.expanded.LoopOf ((l.map (·.source)).filter Node.triesAgain)
        (l.flatMap fun y => y.added.filter (·.kind = .loop)) := by
    induction l with
    | nil => exact .nil
    | cons y rest ih =>
      have here := inside y List.mem_cons_self
      have onward := ih fun y later => inside y (List.mem_cons_of_mem _ later)
      rw [List.map_cons, List.flatMap_cons]
      rcases (expansion.retries.each y here).loops with
        ⟨once, none⟩ | ⟨again, l, only, returns, counts⟩
      · simpa [once, none] using onward
      · rw [List.filter_cons_of_pos again, only]
        exact .cons ⟨counts, returns.mono fun m => expansion.retries.added_mem here⟩ onward
  exact part ys fun _ => id

theorem conservative (expansion : g.Expansion xs ys) (ordered : g.InOrder) :
    g.Conservative g.staged g.expanded := by
  have tidy := expansion.retries.tidy
  exact
    { entry := expansion.entry ordered
      named := tidy.named
      distinct := tidy.distinct
      kept := fun n member => by
        obtain ⟨m, there, id, kind, next⟩ := expansion.kept member
        exact ⟨m, id ▸ get?_mem tidy there, kind, next⟩
      others := fun n member other => get?_mem tidy (expansion.other member other)
      lowered := fun m => expansion.lowered
      loops := expansion.loops
      errors := fun n => expansion.errors
      targets := fun m member t => expansion.targets member }

end Expansion

end Graph

namespace Workspace

variable {w : Workspace} {loops : List OpenLoop} {jumps : List String}

/-- The expansions come through whatever was called, if only the amounts can be written, and all they do
is to extend the flow. -/
theorem conservative_of_calls (calls : Calls w loops jumps) :
    ((∀ n ∈ w.graph.toList, n.Writable) → w.graph.ComesThrough) ∧
      (w.graph.ComesThrough → w.graph.Conservative w.graph.staged w.graph.expanded) := by
  obtain ⟨orderly, inOrder, _⟩ := calls.tracked
  refine ⟨.of_writable orderly.tidy calls.ready, fun through => ?_⟩
  obtain ⟨xs, ys, expansion⟩ := through.expansion orderly.tidy calls.ready
  exact expansion.conservative inOrder

end Workspace

namespace Question

/-- The question with another end for callers who are not understood. -/
def insistent : Workspace :=
  let w := (Builder.openBranch 0 .noMatch workspace).2
  (Builder.append 3 .disconnect .null (.text "goodbye") w).2

open Workspace (Calls)

theorem calls : Calls workspace [] [] := by
  have begun : Calls opening [] [] := .named (by decide +kernel)
  have asked := begun.appendBranching (b := 0) (by decide +kernel) (a := .collectSequential spec)
    (by decide) rfl .null (.text "ask")
  have chosen := asked.openBranch (i := 0) (by decide +kernel)
    (c := .input (.text "1") (.text "Yes")) trivial
  have answered := chosen.append (b := 1) (by decide +kernel) (a := .endExecution) rfl
    ActionKind.noConfusion .null .null
  have silent := answered.openBranch (i := 0) (by decide +kernel) (c := .timeout) trivial
  exact silent.append (b := 2) (by decide +kernel) (a := .disconnect) rfl ActionKind.noConfusion
    .null .null

theorem calls_insistent : Calls insistent [] [] := by
  have unclear := calls.openBranch (i := 0) (by decide +kernel) (c := .noMatch) trivial
  exact unclear.append (b := 3) (by decide +kernel) (a := .disconnect) rfl ActionKind.noConfusion
    .null (.text "goodbye")

theorem writable : ∀ n ∈ insistent.graph.toList, n.Writable := by decide +kernel

end Question

/-- Both stages of the question get a loop, and the second one a dispatch to the two ends. -/
theorem Workspace.conservative_insistent :
    Question.insistent.graph.Conservative Question.insistent.graph.staged
        Question.insistent.graph.expanded ∧
      Question.insistent.graph.expanded.keys = Question.insistent.graph.keys ++ ["ask_dtmf",
        "ask_retry", "ask_dtmf_failed_timeout", "ask_dtmf_failed_no_match", "ask_dtmf_retry_exit",
        "ask_dtmf_retry"] := by
  obtain ⟨through, conservative⟩ := conservative_of_calls Question.calls_insistent
  exact ⟨conservative (through Question.writable), by decide +kernel⟩

end ContactFlow
