import ContactFlow.Proofs.Appending
import ContactFlow.Proofs.Threads

/-!
Stretches of a flow whose steps are threaded. The steps that a builder has appended begin where it
stood before and go on to where it stands then, and the edges of their branches come to lead to where
the branches begin, whatever the flow comes to in the end. So it is with every step that is appended,
of whatever kind.
-/

namespace ContactFlow

open Step (outline branchItems begins Threads)

namespace Workspace

variable {w w₁ w₂ w₃ w₄ w₅ v u w' w'' : Workspace} {b back : Nat} {n : Node}

theorem Enlists.count {builders sets : List Nat} {k : Nat} {es : List Exit} {items : List Item}
    (enlists : Enlists builders sets k es items w w') (numbered : w.graph.Numbered) :
    w'.graph.count = w.graph.count + items.length := by
  obtain ⟨more, faces, shown⟩ := enlists.faces
  have lengths := congrArg List.length faces
  rwa [enlists.numbered.length, List.length_append, List.length_modify, numbered.length,
    shown.length_eq] at lengths

theorem Enters.count {kind : ActionKind} {given : Option String} {node : Handle}
    (enters : Enters b kind given node w w') (numbered : w.graph.Numbered) :
    w'.graph.count = w.graph.count + 1 := by
  obtain ⟨id, _, faces⟩ := enters.faces
  have lengths := congrArg List.length faces
  rwa [enters.numbered.length, List.length_append, numbered.length] at lengths

/-! ### Lists of steps -/

/-- A builder has appended steps. Whatever the flow comes to, they begin where it stood before, their
end leads to where it stands then, and every one of them is wired. -/
structure Lays (b : Nat) (w w' : Workspace) (steps : List Step) : Prop where
  advances : Advances b w w'
  numbered : w'.graph.Numbered
  count : w'.graph.count = w.graph.count + (outline steps).length
  laid : ∀ F ends, F.graph.Numbered → Settles w w' [(w'.builder b).cursor] F →
    ((w'.builder b).status = .opened → F.leads (w'.builder b).cursor = ends) →
    F.leads (w.builder b).cursor =
        begins F.graph w.graph.count ends (F.resumes (w.builder b).scope) steps ∧
      Threads F.graph w.graph.count ends (F.resumes (w.builder b).scope) steps

namespace Lays

variable {s : Step} {rest : List Step}

theorem nil (sound : w.Sound) (numbered : w.graph.Numbered) (ready : w.Ready b) : Lays b w w [] where
  advances := .refl sound ready
  numbered := numbered
  count := rfl
  laid := fun _ _ _ _ leads => ⟨leads ready.opened, fun _ _ _ occurs => nomatch occurs⟩

theorem cons (sound : w.Sound) (first : Lays b w w' [s]) (second : Lays b w' w'' rest) :
    Lays b w w'' (s :: rest) where
  advances := first.advances.trans sound second.advances
  numbered := second.numbered
  count := by
    rw [second.count, first.count]
    simp [outline, Nat.add_assoc]
  laid := fun F ends numbered settles leads => by
    obtain ⟨onward, threads⟩ :=
      second.laid F ends numbered (settles.later first.advances.onward) leads
    have count : w'.graph.count = w.graph.count + (Step.items s).length := by
      simpa [outline] using first.count
    rw [first.advances.scope, count] at onward threads
    -- the first step goes on to where the other steps begin
    obtain ⟨starts, threads'⟩ := first.laid F _ numbered
      (settles.front first.advances second.advances) fun _ => onward
    refine ⟨starts.trans (by cases s <;> rfl), fun s' i after occurs => ?_⟩
    cases occurs with
    | first inside => exact threads' s' i after (.first inside)
    | later occurs => exact threads s' i after occurs

end Lays

/-! ### The branches of a node -/

/-- Branches have been opened on a node and filled. Their edges lead to where their steps begin. -/
structure Forked (node : Nat) (join : Option Nat) (sets : List Nat) (w w' : Workspace)
    (exits : List Exit) (bodies : List (List Step)) : Prop where
  onward : Onward [node] [] sets [] w w'
  grown : ∀ n ∈ w.graph.toList, n.serial = node → ∃ n' ∈ w'.graph.toList,
    n'.Gains n (exits.filterMap Exit.guard?) (exits.filterMap Exit.kind?)
  numbered : w'.graph.Numbered
  count : w'.graph.count = w.graph.count + (bodies.flatMap outline).length
  laid : ∀ n ∈ w.graph.toList, n.serial = node → ∀ F, F.graph.Numbered → Settles w w' [] F →
    Routes F.graph node (F.resumes (.branch join)) w.graph.count n.transitions.conditions.length exits
      bodies

namespace Forked

variable {node : Nat} {join : Option Nat} {sets : List Nat} {exits exits' : List Exit}
  {bodies bodies' : List (List Step)} {steps : List Step}

theorem refl (sound : w.Sound) (numbered : w.graph.Numbered) :
    Forked node join sets w w [] [] where
  onward := .refl sound
  grown := fun n member _ => ⟨n, member, .of_alike (.refl n)⟩
  numbered := numbered
  count := rfl
  laid := fun _ _ _ _ _ _ => .done _ _

theorem trans (sound : w.Sound) (first : Forked node join sets w w' exits bodies)
    (second : Forked node join sets w' w'' exits' bodies') :
    Forked node join sets w w'' (exits ++ exits') (bodies ++ bodies') where
  onward := first.onward.trans second.onward
  grown := fun n member serial => by
    obtain ⟨n', member', gains⟩ := first.grown n member serial
    obtain ⟨n'', member'', more⟩ := second.grown n' member' (gains.serial.trans serial)
    exact ⟨n'', member'', by simpa [List.filterMap_append] using more.trans gains⟩
  numbered := second.numbered
  count := by
    rw [second.count, first.count]
    simp [Nat.add_assoc]
  laid := fun n member serial F numbered settles => by
    obtain ⟨n', member', gains⟩ := first.grown n member serial
    have known : node < w.graph.count := serial ▸ sound.tidy.counted n member
    have before : Settles w w' [] F :=
      settles.earlier first.onward.sound second.onward (by simpa using known) (by simp) (by simp)
    have leads := first.laid n member serial F numbered before
    have more := second.laid n' member' (gains.serial.trans serial) F numbered
      (settles.later first.onward)
    rw [gains.conditions_length, first.count] at more
    exact leads.append more

theorem weaken (forked : Forked node join [] w w' exits bodies) (sound : w.Sound) :
    Forked node join sets w w' exits bodies where
  onward := forked.onward.weaken sound (fun _ among _ => among) (by simp) (by simp) (by simp)
  grown := forked.grown
  numbered := forked.numbered
  count := forked.count
  laid := forked.laid

/-- Taking a place in a set changes nothing but the set. -/
theorem of_setBranches {s : Nat} {x : BranchSet} (sound : w.Sound)
    (forked : Forked node join [] (w.setBranches s x) w' exits bodies) :
    Forked node join [s] w w' exits bodies where
  onward := by
    have set : Onward [node] [] [s] [] w (w.setBranches s x) :=
      (onward_setBranches sound s x).weaken sound (by simp) (by simp) (fun _ among _ => among) (by simp)
    exact set.chain sound forked.onward (fun _ among _ => among) (by simp) (by simp) (by simp)
  grown := forked.grown
  numbered := forked.numbered
  count := forked.count
  laid := fun n member serial F numbered settles =>
    forked.laid n member serial F numbered ⟨settles.tidy, settles.becomes⟩

/-- A branch that was opened and filled. If it is left open, its end is a dead end. -/
theorem single (sound : w.Sound) (member : n ∈ w.graph.toList) {o : Opening}
    (opened : Opened n.serial join o.extend (o.slot n) w w')
    (same : w'.graph.count = w.graph.count) (lays : Lays w.builders.size w' w'' steps) :
    Forked n.serial join [] w w'' [o.exit] [steps] where
  onward := opened.filled sound lays.advances
  grown := fun m there serial => by
    obtain ⟨n'', member'', alike⟩ := opened.grown lays.advances m there serial
    have gains := o.gains alike
    exact ⟨n'', member'', by cases o <;> exact gains⟩
  numbered := lays.numbered
  count := by
    rw [lays.count, same]
    simp
  laid := fun m there serial F numbered settles => by
    have eq : m = n := Graph.eq_of_serial sound.tidy there member serial
    subst eq
    obtain ⟨starts, threads⟩ := lays.laid F none numbered
      ((settles.later opened.onward).more (by simp)) (opened.idle lays.advances settles)
    rw [opened.cursor_eq, opened.scope_eq, same] at starts
    rw [opened.scope_eq, same] at threads
    have waits := opened.edge lays.advances settles
    rw [starts] at waits
    cases o with
    | condition guard key => exact .condition waits threads (.done _ _)
    | error kind => exact .error threads (.done _ _)

end Forked

/-! ### Steps -/

section Action

variable {head : Head} {frame : Frame} {branches : List (Branch × List Step)} {body : List Step}
  {which : Branch} {errors : List (String × List Step)} {sets : List Nat}

/-- A node that was placed is listed under the number that was the next one. -/
theorem Settles.listed {F : Future} {live : List Nat} (settles : Settles w w' live F)
    (numbered : F.graph.Numbered) (placed : Placed b w w₁ n) {guards : List Guard}
    {kinds : List ErrorKind} (grown : ∃ n' ∈ w'.graph.toList, n'.Gains n guards kinds) :
    ∃ m ∈ F.graph.toList, F.graph.toList[w.graph.count]? = some m ∧
      F.graph.idAt w.graph.count = some n.id ∧ m.Gains n guards kinds := by
  obtain ⟨m, member, gains⟩ := settles.gains placed grown
  have serial : m.serial = w.graph.count := gains.serial.trans placed.serial
  refine ⟨m, member, ?_, ?_, gains⟩
  · rw [← serial]
    exact numbered.found member
  · rw [← serial, numbered.idAt member, gains.id]

/-- An action that was placed, with its branches and its error handlers. -/
theorem Lays.forks (sound : w.Sound) (ready : w.Ready b) (placed : Placed b w w₁ n)
    (bare : n.transitions = {}) (kind : n.kind = head.kind) (other : head.kind ≠ .loop)
    (straight : n.kind.isTerminal → branches = []) (opened : Onward [] [] [] [] w₁ v)
    (one : v.graph.count = w.graph.count + 1) (sets_new : ∀ i ∈ sets, w.sets.size ≤ i)
    (inner : Forked n.serial (some w.joins.size) sets v w₂
      (Branch.exits (.int 0) (branches.map (·.1))) (branches.map (·.2)))
    (handlers : Forked n.serial (if n.kind.isTerminal then none else some w.joins.size) [] w₂ w'
      (Item.errorExits (errors.map (·.1))) (errors.map (·.2))) :
    Lays b w w' [.action head frame branches errors] := by
  have onward : Onward [n.serial] [] sets [] w₁ w' := by
    have start : Onward [n.serial] [] sets [] w₁ v :=
      opened.weaken placed.onward.sound (by simp) (by simp) (by simp) (by simp)
    exact (start.trans inner.onward).trans (handlers.weaken inner.onward.sound).onward
  have stays := stays_of_forked ready placed onward
  refine ⟨.of_placed sound placed stays.onward sets_new (by rw [stays.builder])
    (Nat.le_of_eq stays.cursor.symm) stays.ready, handlers.numbered, ?_,
    fun F next numbered settles leads => ?_⟩
  · rw [handlers.count, inner.count, one]
    simp [outline, Step.items, Step.branchItems_eq, Step.errorItems_eq]
    omega
  rw [stays.cursor] at settles leads
  -- the node has all its edges before the flow goes on
  obtain ⟨n₀, member₀, alike₀⟩ := placed.there
  obtain ⟨n₁, member₁, alike₁⟩ := opened.kept n₀ member₀ (by simp)
  have alike := alike₁.trans alike₀
  obtain ⟨n₂, member₂, gains₂⟩ := inner.grown n₁ member₁ alike.serial
  have serial₂ : n₂.serial = n.serial := gains₂.serial.trans alike.serial
  obtain ⟨n₃, member₃, gains₃⟩ := handlers.grown n₂ member₂ serial₂
  obtain ⟨m, member, found, name, gains⟩ := settles.listed numbered placed
    ⟨n₃, member₃, (gains₃.trans gains₂).trans (.of_alike alike)⟩
  have now : Settles v w' [] F := ((settles.later placed.onward).later opened).more
    (by simpa using Nat.lt_of_lt_of_le placed.cursor.below opened.joins_grow)
  have inside : Settles v w₂ [] F := now.earlier inner.onward.sound handlers.onward
    (by simpa using Nat.lt_of_lt_of_le placed.known opened.count) (by simp) (by simp)
  have before := inner.laid n₁ member₁ alike.serial F numbered inside
  have after := handlers.laid n₂ member₂ serial₂ F numbered (now.later inner.onward)
  have none : n₁.transitions.conditions.length = 0 := by
    rw [(Node.Gains.of_alike alike).conditions_length, bare]
    rfl
  rw [none, one] at before
  rw [inner.count, one, ← Step.branchItems_eq] at after
  -- the branches and the handlers return to where the flow goes on, unless it ends here
  have rejoins (nonterminal : ¬ n.kind.isTerminal) : F.leads w.joins.size = next :=
    leads (by rw [stays.builder, placed.builder]; exact if_neg nonterminal)
  have routes : Routes F.graph n.serial next (w.graph.count + 1) 0
      (Branch.exits (.int 0) (branches.map (·.1))) (branches.map (·.2)) := by
    by_cases terminal : n.kind.isTerminal
    · rw [straight terminal]
      exact .done _ _
    · rw [← rejoins terminal]
      exact before
  have returns : F.resumes (.branch (if n.kind.isTerminal then Option.none else some w.joins.size)) =
      if head.kind.isTerminal then Option.none else next := by
    rw [← kind]
    by_cases terminal : n.kind.isTerminal
    · rw [if_pos terminal, if_pos terminal]
      rfl
    · rw [if_neg terminal, if_neg terminal]
      exact rejoins terminal
  rw [returns] at after
  have edges := routes.edges_eq settles.tidy member gains.serial (by
    rw [List.drop_zero, gains.guards, bare, Item.guards_errorExits]
    simp [Transitions.guards])
  have starts := (settles.placed placed stays.onward).becomes.resolved _ _ placed.target
  exact ⟨starts.trans name.symm, .action other (fun _ => ⟨m, found, edges⟩) routes.wired after.wired⟩

/-- A loop that was placed, with its body and its error handlers. -/
theorem Lays.loops (sound : w.Sound) (ready : w.Ready b) (placed : Placed b w w₁ n)
    (kind : n.kind = head.kind) (loop : head.kind = .loop) (opened : Onward [] [] [] [] w₁ v)
    (one : u.graph.count = w.graph.count + 1) (target : (v.joins.get back).target = some n.id)
    {n₁ : Node} (member₁ : n₁ ∈ v.graph.toList) (alike : n₁.Alike n) {guard guard' : Guard}
    {slot slot' : Slot}
    (branch : Opened n₁.serial (some back) (Node.plusCondition guard) slot v u)
    (inside : Lays v.builders.size u w₃ body) (turned : Turned v.builders.size back w₃ w₄)
    (led : Led b n.serial guard' slot' w₄ w₅) (same : w₅.graph.count = w₃.graph.count)
    (handlers : Forked n.serial (some w₄.joins.size) [] w₅ w'
      (Item.errorExits (errors.map (·.1))) (errors.map (·.2))) :
    Lays b w w' [.action head frame [(which, body)] errors] := by
  have closed := turned.after opened.sound branch inside.advances
  have around : Onward [n.serial] [] [] [] w₁ w₄ := by
    have start : Onward [n.serial] [] [] [] w₁ v :=
      opened.weaken placed.onward.sound (by simp) (by simp) (by simp) (by simp)
    exact start.trans (alike.serial ▸ closed)
  have leaves := goesOn_of_led ready placed around led handlers.onward
  have cursor : (w'.builder b).cursor = w₄.joins.size := by rw [leaves.builder]
  have nonterminal : ¬ n.kind.isTerminal := by
    rw [kind, loop]
    exact Bool.false_ne_true
  have count : w₅.graph.count = w.graph.count + 1 + (outline body).length := by
    rw [same, inside.count, one]
  refine ⟨.of_placed sound placed leaves.onward (by simp) (by rw [leaves.builder])
    (by rw [cursor]; exact leaves.grew) leaves.ready, handlers.numbered, ?_,
    fun F next numbered settles leads => ?_⟩
  · rw [handlers.count, count]
    simp [outline, Step.items, branchItems, Step.errorItems_eq]
    omega
  rw [cursor] at settles leads
  obtain ⟨n₃, member₃, alike₃⟩ := branch.grown inside.advances n₁ member₁ rfl
  obtain ⟨n₄, member₄, alike₄⟩ := turned.onward.kept n₃ member₃ (by simp)
  have gains₄ := Node.Gains.of_condition (alike₄.trans alike₃)
  have serial₄ : n₄.serial = n.serial := gains₄.serial.trans alike.serial
  obtain ⟨n₅, member₅, alike₅⟩ := led.node n₄ member₄ serial₄
  have serial₅ : n₅.serial = n.serial := alike₅.serial.trans serial₄
  obtain ⟨n₆, member₆, gains₆⟩ := handlers.grown n₅ member₅ serial₅
  obtain ⟨_, _, _, name, _⟩ := settles.listed numbered placed ⟨n₆, member₆,
    ((gains₆.trans (.of_condition alike₅)).trans gains₄).trans (.of_alike alike)⟩
  have before : Settles v w₄ [] F := by
    refine ((settles.later placed.onward).later opened).earlier around.sound leaves.rest
      (by simpa using Nat.lt_of_lt_of_le placed.known opened.count) (by simp) fun j among below => ?_
    rw [List.mem_singleton.1 among] at below
    exact absurd below (Nat.lt_irrefl _)
  -- the body returns to the loop, and so does an end of it that is left open
  have returns : F.leads back = some n.id := by
    have there : back < v.joins.size := by
      by_contra above
      simp [Joins.get_above (Nat.le_of_not_lt above)] at target
    refine before.becomes.resolved _ _ ?_
    rw [(closed.join back there (by simp)).1, target]
  have filled : Settles v w₃ [(w₃.builder v.builders.size).cursor] F :=
    before.earlier (branch.filled opened.sound inside.advances).sound turned.onward (by simp) (by simp)
      (by simp)
  obtain ⟨_, threads⟩ := inside.laid F (some n.id) numbered (filled.later branch.onward)
    fun open_ => (turned.leads before.becomes open_).trans returns
  have resumes : F.resumes (u.builder v.builders.size).scope = some n.id := by
    rw [branch.scope_eq]
    exact returns
  rw [resumes, one, ← name] at threads
  have onward : Onward [n.serial] [b] [] [] w₁ w₅ :=
    (around.weaken placed.onward.sound (fun _ among _ => among) (by simp) (by simp) (by simp)).trans
      led.onward
  have after := handlers.laid n₅ member₅ serial₅ F numbered
    (((settles.later placed.onward).later onward).more (by simpa using led.cursor.below))
  have rejoins : F.resumes (.branch (some w₄.joins.size)) = next :=
    leads (by rw [leaves.builder, placed.builder]; exact if_neg nonterminal)
  rw [count, rejoins] at after
  have starts := (settles.placed placed leaves.onward).becomes.resolved _ _ placed.target
  exact ⟨starts.trans name.symm, .loop loop threads after.wired⟩

theorem Lays.resume {k : Nat} (scope : (w.builder b).scope = .branch (some k))
    (returned : Returned b k w w') (numbered : w'.graph.Numbered)
    (same : w'.graph.count = w.graph.count) :
    Lays b w w' [.resume frame] where
  advances :=
    ⟨returned.onward, by rw [returned.builder], .inl (by rw [returned.builder]),
      fun opened => by rw [returned.builder] at opened; cases opened⟩
  numbered := numbered
  count := same
  laid := fun F _ _ settles _ => by
    rw [scope]
    refine ⟨settles.becomes.forwarded _ _ returned.target returned.forward,
      fun s' i after occurs => ?_⟩
    cases occurs with
    | later occurs => cases occurs
    | first inside =>
      cases inside
      trivial

theorem Lays.jump (sound : w.Sound) (ready : w.Ready b) (target : String)
    (numbered : (w.jumped b target).graph.Numbered)
    (same : (w.jumped b target).graph.count = w.graph.count) :
    Lays b w (w.jumped b target) [.jump target frame] := by
  let x : Builder := { w.builder b with cursor := w.joins.size, status := .closed (.jumped target) }
  have left : w.jumped b target = w.leave b target [] x := jumped_eq ready.below target
  rw [left] at numbered same ⊢
  have onward : Onward [] [b] [] [(w.builder b).cursor] w (w.leave b target [] x) :=
    onward_leave sound ready.cursor (by simp)
  have builder : (w.leave b target [] x).builder b = x := by
    rw [builder_set ready.below (builders_leave w b target [] x), if_pos rfl]
  refine ⟨⟨onward, by rw [builder], .inr (Nat.le_of_eq (by rw [builder])), fun opened => ?_⟩, numbered,
    same, fun F _ _ settles _ => ⟨?_, fun s' i after occurs => ?_⟩⟩
  · rw [builder] at opened
    cases opened
  · refine settles.becomes.resolved _ _ ?_
    rw [get_leave ready.cursor.below, if_neg (Nat.ne_of_lt ready.cursor.below), if_pos rfl]
  · cases occurs with
    | later occurs => cases occurs
    | first inside =>
      cases inside
      trivial

end Action

end Workspace

namespace Step

open Workspace

variable {h : Handlers} {w w₁ w' : Workspace} {b : Nat} {head : Head} {frame : Frame}
  {branches : List (Branch × List Step)} {errors : List (String × List Step)}

/-- The steps are laid out, wherever they are appended. -/
def LaysSteps (h : Handlers) (steps : List Step) : Prop :=
  ∀ {w w' : Workspace} {b : Nat}, w.Sound → w.graph.Numbered → w.Ready b →
    appendAll h b steps w = (.ok (), w') → Lays b w w' steps

/-- The branches are forked off, whatever node they are placed on. -/
def ForksBranches (h : Handlers) (branches : List (Branch × List Step)) : Prop :=
  ∀ {w w' : Workspace} {s : Nat} {n : Node}, w.Sound → w.graph.Numbered → s < w.sets.size →
    (w.branches s).join < w.joins.size → n ∈ w.graph.toList →
    (w.branches s).node.serial = n.serial → placeBranches h s branches w = (.ok (), w') →
    Forked n.serial (some (w.branches s).join) [s] w w'
      (Branch.exits (w.branches s).offer.share (branches.map (·.1))) (branches.map (·.2))

/-- The error handlers are forked off, whatever node they are placed on. -/
def ForksErrors (h : Handlers) (errors : List (String × List Step)) : Prop :=
  ∀ {w w' : Workspace} {b : Nat} {node : Handle} {n : Node}, w.Sound → w.graph.Numbered →
    b < w.builders.size → (w.builder b).last = some node → (w.builder b).cursor < w.joins.size →
    n ∈ w.graph.toList → node.serial = n.serial → placeErrors h b errors w = (.ok (), w') →
    Forked n.serial (w.rejoin b) [] w w' (Item.errorExits (errors.map (·.1))) (errors.map (·.2))

theorem forksBranches_cons {which : Branch} {steps : List Step} {rest : List (Branch × List Step)}
    (inside : LaysSteps h steps) (after : ForksBranches h rest) :
    ForksBranches h ((which, steps) :: rest) := by
  intro w w' s n sound numbered known join member serial ran
  obtain ⟨w₂, first, ran⟩ := placeBranches_cons ran
  obtain ⟨o, w₁, opened, filled⟩ := fill_ok first
  have own : (w.branches s).node.serial < w.graph.faces.length := by
    rw [serial, numbered.length]
    exact sound.tidy.counted n member
  obtain ⟨added, _⟩ := enlists_openBranch numbered known own opened
  obtain ⟨opening, x, keys, made, node, joined, here, opened⟩ :=
    openBranch_made sound known member serial opened
  obtain ⟨exit, _, share⟩ := BranchSet.adds_opening _ which _ made
  have there := (onward_setBranches sound s (x.take keys)).sound
  have ready := opened.ready fun k same => by
    cases same
    exact join
  rw [here] at filled
  have one := Forked.single there member opened (added.count numbered)
    (inside opened.onward.sound added.numbered ready filled)
  -- filling the branch has left the set as it was when the branch was opened
  have known' : s < (w.setBranches s (x.take keys)).sets.size := by simpa [setBranches] using known
  have set : w₂.branches s = x.take keys := by
    rw [one.onward.set s known' (by simp), branches_setBranches known]
  obtain ⟨n', member', gains⟩ := one.grown n member rfl
  have serial' : (w₂.branches s).node.serial = n'.serial := by
    rw [set, gains.serial, ← serial, ← node]
    rfl
  have more := after one.onward.sound one.numbered
    (Nat.lt_of_lt_of_le known' one.onward.sets_grow)
    (by rw [set]; exact Nat.lt_of_lt_of_le (joined ▸ join) one.onward.joins_grow) member' serial' ran
  have taken : (x.take keys).join = (w.branches s).join ∧
      (x.take keys).offer.share = which.share (w.branches s).offer.share := ⟨joined, share⟩
  rw [set, taken.1, taken.2, gains.serial] at more
  rw [exit] at one
  exact (Forked.of_setBranches sound one).trans sound more

theorem forksErrors_cons {name : String} {steps : List Step} {rest : List (String × List Step)}
    (inside : LaysSteps h steps) (after : ForksErrors h rest) :
    ForksErrors h ((name, steps) :: rest) := by
  intro w w' b node n sound numbered below last cursor member serial ran
  obtain ⟨kind, w₂, named, first, others⟩ := placeErrors_cons ran
  obtain ⟨o, w₁, opened, filled⟩ := fill_ok first
  have added := enlists_openHandler numbered last opened
  obtain ⟨here, opened⟩ := openHandler_opened sound last member serial opened
  have ready := opened.ready fun k same => below_of_rejoin cursor same
  rw [here] at filled
  have one : Forked n.serial (w.rejoin b) [] w w₂ [.error kind] [steps] :=
    .single sound member opened (added.count numbered)
      (inside opened.onward.sound added.numbered ready filled)
  have builder := one.onward.builder b below (by simp)
  obtain ⟨n', member', gains⟩ := one.grown n member rfl
  have more := after one.onward.sound one.numbered
    (Nat.lt_of_lt_of_le below one.onward.builders_grow) (by rw [builder]; exact last)
    (by rw [builder]; exact Nat.lt_of_lt_of_le cursor one.onward.joins_grow) member'
    (serial.trans gains.serial.symm) others
  -- the builder stands where it stood, so the other handlers rejoin there too
  have rejoins : w₂.rejoin b = w.rejoin b := by rw [rejoin, rejoin, builder]
  rw [rejoins, gains.serial] at more
  have exits : Item.errorExits (((name, steps) :: rest).map (·.1)) =
      [.error kind] ++ Item.errorExits (rest.map (·.1)) := by
    simp [Item.errorExits, named_of_errorKind named]
  rw [exits]
  exact one.trans sound more

theorem lays_action {u v : Workspace} {n : Node} {sets : List Nat} (inside : ForksErrors h errors)
    (sound : w.Sound) (ready : w.Ready b) (placed : Placed b w u n) (bare : n.transitions = {})
    (kind : n.kind = head.kind) (other : head.kind ≠ .loop)
    (straight : n.kind.isTerminal → branches = []) (opened : Onward [] [] [] [] u v)
    (one : v.graph.count = w.graph.count + 1) (sets_new : ∀ i ∈ sets, w.sets.size ≤ i)
    (inner : Forked n.serial (some w.joins.size) sets v w₁
      (Branch.exits (.int 0) (branches.map (·.1))) (branches.map (·.2)))
    (ran : placeErrors h b errors w₁ = (.ok (), w')) :
    Lays b w w' [.action head frame branches errors] := by
  have below : b < u.builders.size := Nat.lt_of_lt_of_le ready.below placed.onward.builders_grow
  have below' : b < v.builders.size := Nat.lt_of_lt_of_le below opened.builders_grow
  have builder : w₁.builder b = u.builder b :=
    (inner.onward.builder b below' (by simp)).trans (opened.builder b below (by simp))
  have cursor : (w₁.builder b).cursor = w.joins.size := by rw [builder, placed.builder]
  have rejoins : w₁.rejoin b = if n.kind.isTerminal then none else some w.joins.size := by
    rw [rejoin, cursor, builder, placed.builder]
    by_cases terminal : n.kind.isTerminal
    · rw [if_pos terminal, if_pos terminal]
      rfl
    · rw [if_neg terminal, if_neg terminal]
      rfl
  obtain ⟨n₀, member₀, alike₀⟩ := placed.there
  obtain ⟨n₁, member₁, alike₁⟩ := opened.kept n₀ member₀ (by simp)
  obtain ⟨n₂, member₂, gains⟩ := inner.grown n₁ member₁ (alike₁.trans alike₀).serial
  have serial : n₂.serial = n.serial := gains.serial.trans (alike₁.trans alike₀).serial
  have known : (w₁.builder b).cursor < w₁.joins.size := by
    rw [cursor]
    exact Nat.lt_of_lt_of_le (Nat.lt_of_lt_of_le placed.cursor.below opened.joins_grow)
      inner.onward.joins_grow
  have handlers := inside inner.onward.sound inner.numbered
    (Nat.lt_of_lt_of_le below' inner.onward.builders_grow)
    (by rw [builder, placed.builder]) known member₂ serial.symm ran
  rw [rejoins, serial] at handlers
  exact .forks sound ready placed bare kind other straight opened one sets_new inner handlers

theorem lays_loop {times : Value} {which : Branch} {body : List Step} (inside : LaysSteps h body)
    (handlers : ForksErrors h errors) (loop : head.kind = .loop) (sound : w.Sound)
    (numbered : w.graph.Numbered) (ready : w.Ready b)
    (looped : Builder.loop DefinitionError.usage b times (.orNull frame.label) (.orNull frame.id)
      (fun inner => appendAll h inner body) w = (.ok (), w₁))
    (ran : placeErrors h b errors w₁ = (.ok (), w')) :
    Lays b w w' [.action head frame [(which, body)] errors] := by
  obtain ⟨d, n, u, w₃, added, placed, drawn, filled, closed⟩ := looped_ok sound ready looped
  obtain ⟨n₁, member, alike, inner, branch⟩ := withBack_opened placed drawn.bare
  -- the join point to which the body returns leads back to the loop
  let v := u.withBack n.id
  have opened : Onward [] [] [] [] u v := onward_withBack placed.onward.sound n.id
  have target : (v.joins.get u.joins.size).target = some n.id := by rw [get_withBack, if_pos rfl]
  have enters := enters_append numbered ready.below added
  have begun := enlists_withBody enters.numbered enters.inside
  have lays := inside branch.onward.sound begun.numbered inner filled
  have leaving := enlists_closeLoop lays.numbered (by
    rw [lays.numbered.length]
    exact Nat.lt_of_lt_of_le placed.known (Nat.le_trans opened.count
      (Nat.le_trans branch.onward.count lays.advances.onward.count))) closed
  have scope : (w₃.builder v.builders.size).scope = .branch (some u.joins.size) := by
    rw [lays.advances.scope, branch.builder]
  obtain ⟨w₄, turned, rfl⟩ := closeLoop_turned (o := ⟨v.builders.size, "loop body"⟩)
    lays.advances.onward.sound lays.advances.ready scope closed
  have around := turned.after opened.sound branch lays.advances
  obtain ⟨n₃, member₃, alike₃⟩ := branch.grown lays.advances n₁ member rfl
  obtain ⟨n₄, member₄, alike₄⟩ := turned.onward.kept n₃ member₃ (by simp)
  have serial : n₄.serial = n.serial := (alike₄.trans alike₃).serial.trans alike.serial
  have below : b < u.builders.size := Nat.lt_of_lt_of_le ready.below placed.onward.builders_grow
  have below₁ : b < v.builders.size := Nat.lt_of_lt_of_le below opened.builders_grow
  have below₄ : b < w₄.builders.size := Nat.lt_of_lt_of_le below₁ around.builders_grow
  -- the builder of the loop goes on from the second condition
  have led : Led b n.serial (.equals Builder.doneLooping)
      (.condition n.serial n₄.transitions.conditions.length) w₄ (w₄.withExit b n.handle.serial) := by
    have led := led_condition around.sound below₄ member₄ (.equals Builder.doneLooping)
    rwa [serial] at led
  have nonterminal : ¬ n.kind.isTerminal := by
    rw [drawn.kind]
    exact Bool.false_ne_true
  have builder : (w₄.withExit b n.handle.serial).builder b =
      { cursor := w₄.joins.size, last := some n.handle, scope := (w.builder b).scope } := by
    rw [led.builder, around.builder b below₁ (by simp), opened.builder b below (by simp),
      placed.builder, if_neg nonterminal]
  obtain ⟨n₅, member₅, alike₅⟩ := led.node n₄ member₄ serial
  have serial₅ : n₅.serial = n.serial := alike₅.serial.trans serial
  have handled := handlers led.onward.sound leaving.numbered
    (Nat.lt_of_lt_of_le below₄ led.onward.builders_grow) (by rw [builder])
    (by rw [builder]; exact led.cursor.below) member₅ serial₅.symm ran
  have rejoins : (w₄.withExit b n.handle.serial).rejoin b = some w₄.joins.size := by
    rw [rejoin, builder]
    rfl
  rw [rejoins, serial₅] at handled
  have one : (u.withBody n.handle).graph.count = w.graph.count + 1 :=
    (begun.count enters.numbered).trans (enters.count numbered)
  exact .loops sound ready placed (drawn.kind.trans loop.symm) loop opened one target member alike
    branch lays turned led (leaving.count lays.numbered) handled

theorem lays_place (suits : head.Suits branches) (inside : ForksBranches h branches)
    (bodies : ∀ e ∈ branches.head?, LaysSteps h e.2) (handlers : ForksErrors h errors)
    (sound : w.Sound) (numbered : w.graph.Numbered) (ready : w.Ready b)
    (placed : place h b (.action head frame branches errors) w = (.ok (), w₁))
    (handled : placeHandlers h b (.action head frame branches errors) w₁ = (.ok (), w')) :
    Lays b w w' [.action head frame branches errors] := by
  obtain ⟨a, resolved, does⟩ := does_of_place placed
  obtain ⟨_, allows⟩ := suits a resolved
  have kind := kind_of_resolve resolved
  rw [placeHandlers] at handled
  cases does with
  | plain offers other appended =>
    have none : branches = [] := Action.none_of_allows allows other offers
    subst none
    have enters := enters_append numbered ready.below appended
    obtain ⟨d, n, rfl, placed, drawn⟩ := append_placed sound ready appended
    have inner : Forked n.serial (some w.joins.size) [] w₁ w₁ [] [] :=
      .refl placed.onward.sound enters.numbered
    exact lays_action handlers sound ready placed drawn.bare (drawn.kind.trans kind) (kind ▸ other)
      (fun _ => rfl) (.refl placed.onward.sound) (enters.count numbered) (by simp) inner handled
  | @branching _ s v offers appended filled =>
    obtain ⟨enters, new, there, offer⟩ := enters_appendBranching numbered ready.below appended
    obtain ⟨node, u, added, rfl, rfl⟩ := Builder.appendBranching_ok appended
    obtain ⟨d, n, rfl, placed, drawn⟩ := append_placed sound ready added
    -- the set of the node, whose branches rejoin where the builder stands now
    let x : BranchSet :=
      { builder := b, node := n.handle, join := (u.builder b).cursor, offer := a.offer }
    have opened : Onward [] [] [] [] u { u with sets := u.sets.push x } :=
      onward_pushSet placed.onward.sound x
    have set : Workspace.branches { u with sets := u.sets.push x } u.sets.size = x := by
      simp [Workspace.branches]
    have join : x.join = w.joins.size := congrArg Builder.cursor placed.builder
    obtain ⟨n₁, member, alike⟩ := placed.there
    have inner := inside opened.sound enters.numbered there
      (by rw [set, join]; exact placed.cursor.below) member (by rw [set]; exact alike.serial.symm) filled
    rw [offer, a.share_offer, set, join, alike.serial] at inner
    have nonterminal : ¬ n.kind.isTerminal := by
      rw [drawn.kind]
      exact Action.nonterminal_of_offers offers
    have other : head.kind ≠ .loop := kind ▸ (Action.offers_iff.1 offers).2
    exact lays_action handlers sound ready placed drawn.bare (drawn.kind.trans kind) other
      (fun ends => absurd ends nonterminal) opened (enters.count numbered) (by simpa using new) inner
      handled
  | loop looped =>
    obtain ⟨body, rfl⟩ := allows
    rw [placeLoop] at looped
    exact lays_loop (bodies _ rfl) handlers kind.symm sound numbered ready looped handled

theorem bodied_of_sane {s : Step} (sane : s.Sane) : s.Bodied := by
  cases sane with
  | action suits =>
    intro times resolved
    obtain ⟨body, rfl⟩ := (suits _ resolved).2
    exact List.cons_ne_nil _ _
  | resume => trivial
  | jump => trivial

theorem lays_resume (sound : w.Sound) (numbered : w.graph.Numbered) (ready : w.Ready b)
    (placed : place h b (.resume frame) w = (.ok (), w')) : Lays b w w' [.resume frame] := by
  obtain ⟨k, _, scope, rfl⟩ := Builder.thenContinue_ok (resumed_of_place placed)
  have listed : Enlists [] [] 0 [] [] w (w.continued b k) := enlists_continued numbered b k
  exact .resume scope (returned_continued sound ready scope) listed.numbered (listed.count numbered)

theorem lays_jump {target : String} (sound : w.Sound) (numbered : w.graph.Numbered)
    (ready : w.Ready b) (placed : place h b (.jump target frame) w = (.ok (), w')) :
    Lays b w w' [.jump target frame] := by
  have jumped : Builder.jumpTo b (.text target) w = (.ok (), w') := BuildM.mapError_ok placed
  obtain ⟨_, rfl⟩ := Builder.jumpTo_ok jumped
  have listed : Enlists [] [] 0 [] [] w (w.jumped b target) :=
    enlists_jumped numbered ready.below target
  exact .jump sound ready target listed.numbered (listed.count numbered)

/-- A step is laid out with all that is nested in it. -/
def LaysStep (h : Handlers) (s : Step) : Prop :=
  ∀ {w w₁ w' : Workspace} {b : Nat}, w.Sound → w.graph.Numbered → w.Ready b →
    place h b s w = (.ok (), w₁) → placeHandlers h b s w₁ = (.ok (), w') → Lays b w w' [s]

theorem laysSteps_cons {s : Step} {rest : List Step} (sane : AllSane rest) (first : LaysStep h s)
    (after : LaysSteps h rest) : LaysSteps h (s :: rest) := by
  intro w w' b sound numbered ready ran
  obtain ⟨w₁, w₂, placed, handled, appending⟩ := appendAll_cons ran
  have one := first sound numbered ready placed handled
  by_cases opened : (w₂.builder b).status = .opened
  · exact one.cons sound (after one.advances.onward.sound one.numbered (one.advances.ready opened)
      appending)
  · -- a builder that takes no more refuses any step, so this one is the last
    cases rest with
    | nil =>
      cases appending
      exact one
    | cons s' rest' =>
      obtain ⟨_, _, placed, _⟩ := appendAll_cons appending
      have bodied := bodied_of_sane (sane s' List.mem_cons_self)
      exact absurd (opened_of_place bodied placed) opened

mutual

theorem lays_step : (s : Step) → s.Sane → LaysStep h s
  | .action _ _ branches errors, sane => fun sound numbered ready placed handled => by
    cases sane with
    | action suits inside handlers =>
      exact lays_place suits (forks_branches branches inside) (lays_body branches inside)
        (forks_errors errors handlers) sound numbered ready placed handled
  | .resume _, _ => fun sound numbered ready placed handled => by
    cases handled
    exact lays_resume sound numbered ready placed
  | .jump .., _ => fun sound numbered ready placed handled => by
    cases handled
    exact lays_jump sound numbered ready placed

theorem lays_body : (branches : List (Branch × List Step)) →
    (∀ e ∈ branches, ∀ s ∈ e.2, s.Sane) → ∀ e ∈ branches.head?, LaysSteps h e.2
  | [], _ => fun _ among => nomatch among
  | (_, steps) :: _, sane => fun _ among => by
    cases among
    exact lays_all steps (sane _ List.mem_cons_self)

theorem forks_branches : (branches : List (Branch × List Step)) →
    (∀ e ∈ branches, ∀ s ∈ e.2, s.Sane) → ForksBranches h branches
  | [], _ => fun sound numbered _ _ _ _ ran => by
    cases ran
    exact .refl sound numbered
  | (_, steps) :: rest, sane =>
    forksBranches_cons (lays_all steps (sane _ List.mem_cons_self))
      (forks_branches rest fun e among => sane e (List.mem_cons_of_mem _ among))

theorem forks_errors : (errors : List (String × List Step)) →
    (∀ e ∈ errors, ∀ s ∈ e.2, s.Sane) → ForksErrors h errors
  | [], _ => fun sound numbered _ _ _ _ _ ran => by
    cases ran
    exact .refl sound numbered
  | (_, steps) :: rest, sane =>
    forksErrors_cons (lays_all steps (sane _ List.mem_cons_self))
      (forks_errors rest fun e among => sane e (List.mem_cons_of_mem _ among))

/-- Steps are laid out as they stand, whichever builder they are appended to. -/
theorem lays_all : (steps : List Step) → AllSane steps → LaysSteps h steps
  | [], _ => fun sound numbered ready ran => by
    cases ran
    exact .nil sound numbered ready
  | s :: rest, sane =>
    have after := fun s among => sane s (List.mem_cons_of_mem _ among)
    laysSteps_cons after (lays_step s (sane s List.mem_cons_self)) (lays_all rest after)

end

end Step

/-- Every step of a flow is wired in the flow that is built of it. -/
theorem FlowDefinition.threads_of_build {f : FlowDefinition} (sane : Step.AllSane f.steps)
    {name : String} {w : Workspace} (built : f.build name = .ok w) :
    Threads w.graph 0 none none f.steps := by
  obtain ⟨v, started, appended⟩ := f.appended_of_build built
  have start := Workspace.start_eq started
  have numbered : v.graph.Numbered := by
    rw [start]
    exact Graph.numbered_empty name
  have lays := Step.lays_all f.steps sane (Workspace.sound_start started) numbered
    (Workspace.ready_start started) appended
  have sound := lays.advances.onward.sound
  have settles : Workspace.Settles v w [(w.builder 0).cursor] w.present :=
    ⟨sound.tidy, (Workspace.becomes_present sound).mono (by simp) (by simp)⟩
  -- where the flow still stands open, it leads nowhere
  obtain ⟨_, threads⟩ := lays.laid w.present none lays.numbered settles fun opened => by
    have open_ := (lays.advances.ready opened).cursor
    exact Workspace.present_open open_.target open_.forward
  have scope : (v.builder 0).scope = .root := by rw [start]; rfl
  have count : v.graph.count = 0 := by rw [start]
  rw [scope, count] at threads
  exact threads

end ContactFlow
