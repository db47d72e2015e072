import ContactFlow.Proofs.Built
import ContactFlow.Proofs.Operations
import ContactFlow.Proofs.Spanning

/-!
Appending steps. Each of them is a stretch of the flow, whatever its branches and handlers are, and
so are the lists of steps that they are nested in.
-/

namespace ContactFlow

namespace Workspace

open Plan

variable {w w' : Workspace} {b s : Nat} {r : Registry} {n : Node}

/-! ### Opening branches -/

/-- A branch that was opened on the node of a set, which may have taken more keys then. -/
theorem openBranch_made (sound : w.Sound) (known : s < w.sets.size)
    (member : n ∈ w.graph.toList) (serial : (w.branches s).node.serial = n.serial)
    {which : Branch} {o : OpenBranch} (ran : Builder.openBranch s which w = (.ok o, w')) :
    ∃ opening x keys, (w.branches s).opening which = .ok (opening, x) ∧
      x.node = (w.branches s).node ∧ x.join = (w.branches s).join ∧ o.builder = w.builders.size ∧
      Opened n.serial (some (w.branches s).join) opening.extend (opening.slot n)
        (w.setBranches s (x.take keys)) w' := by
  rcases Builder.openBranch_apply s which w with ⟨e, failed⟩ | ⟨opening, x, made, done⟩
  · rw [failed] at ran
    cases ran
  rw [done] at ran
  have opens := BranchSet.opens_opening _ which _ made
  have there (x : BranchSet) : (w.setBranches s x).Sound := (onward_setBranches sound s x).sound
  have stays (x : BranchSet) : n ∈ (w.setBranches s x).graph.toList := member
  cases opening with
  | condition guard key =>
    have lets : (w.branches s).Lets guard key x := opens
    have ran : Builder.openCondition s guard key (w.setBranches s x) = (.ok o, w') := ran
    rcases Builder.openCondition_apply s guard key (w.setBranches s x) with ⟨e, failed⟩ | ⟨_, opened⟩
    · rw [failed] at ran
      cases ran
    rw [opened, branches_setBranches known, setBranches_twice, lets.node, serial, lets.join] at ran
    obtain ⟨result, rfl⟩ := Prod.ext_iff.1 ran
    cases result
    exact ⟨.condition guard key, x, [key], made, lets.node, lets.join, rfl,
      opened_condition (there _) (stays _) guard _⟩
  | error kind =>
    have same : x = w.branches s := opens
    subst same
    have ran : Builder.openError (w.branches s).node (some (w.branches s).join) kind
        (w.setBranches s (w.branches s)) = (.ok o, w') := ran
    rcases Builder.openError_apply (w.branches s).node (some (w.branches s).join) kind
      (w.setBranches s (w.branches s)) with ⟨e, failed⟩ | ⟨_, opened⟩
    · rw [failed] at ran
      cases ran
    have taken : (w.branches s).take [] = w.branches s := by simp [BranchSet.take]
    rw [opened, serial] at ran
    obtain ⟨result, rfl⟩ := Prod.ext_iff.1 ran
    cases result
    refine ⟨.error kind, _, [], made, rfl, rfl, rfl, ?_⟩
    rw [taken]
    exact opened_error (there _) (stays _) kind _

/-- A branch that was opened on the node of a set with one stage. -/
theorem openBranch_opened (sound : w.Sound) (known : s < w.sets.size)
    (member : n ∈ w.graph.toList) (serial : (w.branches s).node.serial = n.serial)
    (single : (w.branches s).offer.IsSingle) {which : Branch} {o : OpenBranch}
    (ran : Builder.openBranch s which w = (.ok o, w')) :
    ∃ opening x, (w.branches s).OpensAs which (opening, x) ∧ o.builder = w.builders.size ∧
      Opened n.serial (some (w.branches s).join) opening.extend (opening.slot n)
        (w.setBranches s x) w' := by
  obtain ⟨opening, x, keys, made, _, _, builder, opened⟩ :=
    openBranch_made sound known member serial ran
  have opens := BranchSet.opensAs_opening single which _ made
  exact ⟨opening, x.take keys, ⟨opens.way, opens.node, opens.join, opens.operands, opens.single⟩,
    builder, opened⟩

/-- Where the error handlers of a builder's last action rejoin the flow. -/
def rejoin (w : Workspace) (b : Nat) : Option Nat :=
  if (w.builder b).isTerminated then none else some (w.builder b).cursor

theorem below_of_rejoin (below : (w.builder b).cursor < w.joins.size) {k : Nat}
    (same : w.rejoin b = some k) : k < w.joins.size := by
  unfold rejoin at same
  split at same
  · cases same
  · cases same
    exact below

/-- An error handler that was opened on the last action of a builder. -/
theorem openHandler_opened (sound : w.Sound) {node : Handle} (last : (w.builder b).last = some node)
    (member : n ∈ w.graph.toList) (serial : node.serial = n.serial) {kind : ErrorKind}
    {o : OpenBranch} (ran : Builder.openHandler b (.kind kind) w = (.ok o, w')) :
    o.builder = w.builders.size ∧
      Opened n.serial (w.rejoin b) (Opening.error kind).extend ((Opening.error kind).slot n) w w' := by
  rcases Builder.openHandler_apply b (.kind kind) w with
    ⟨e, failed⟩ | ⟨node', kind', last', same, done⟩
  · rw [failed] at ran
    cases ran
  cases same
  cases last.symm.trans last'
  rcases Builder.openError_apply node (w.rejoin b) kind w with ⟨e, failed⟩ | ⟨_, opened⟩
  · rw [done] at ran
    cases failed.symm.trans ran
  · have result := (done.trans opened).symm.trans ran
    rw [serial] at result
    obtain ⟨first, rfl⟩ := Prod.ext_iff.1 result
    cases first
    exact ⟨rfl, opened_error sound member kind _⟩

/-- Taking a place in a set changes nothing but the set. -/
theorem Forks.of_setBranches {join : Option Nat} {operands : Guard → List Scalar} {x : BranchSet}
    {ways : List (Way × Plan)} {guards : List Guard} {kinds : List ErrorKind} {node : Nat}
    (sound : w.Sound) (forks : Forks r node join operands [] (w.setBranches s x) w' ways guards kinds) :
    Forks r node join operands [s] w w' ways guards kinds where
  onward := by
    have set : Onward [node] [] [s] [] w (w.setBranches s x) :=
      (onward_setBranches sound s x).weaken sound (by simp) (by simp) (fun _ among _ => among) (by simp)
    exact set.chain sound forks.onward (fun _ among _ => among) (by simp) (by simp) (by simp)
  grown := forks.grown
  fresh := forks.fresh
  laid := fun n member serial F settles =>
    forks.laid n member serial F ⟨settles.tidy, settles.becomes⟩

end Workspace

namespace Step

open Workspace Plan

variable {h : Handlers} {r : Registry}

/-- The steps do what their plan says, wherever they are appended. -/
def Mean (h : Handlers) (r : Registry) (steps : List Step) : Prop :=
  areStructured steps → ∀ {w w' : Workspace} {b : Nat}, w.Sound → w.Ready b →
    appendAll h b steps w = (.ok (), w') → ∃ front,
      planAll r w.graph.allocator steps = some (front .finish, w'.graph.allocator) ∧
      Spans r b w w' front

/-- The branches do what their plans say, whatever node they are placed on. -/
def BranchesMean (h : Handlers) (r : Registry) (branches : List (Branch × List Step)) : Prop :=
  areBranchesStructured branches → ∀ {w w' : Workspace} {s : Nat} {n : Node}, w.Sound →
    s < w.sets.size → (w.branches s).offer.IsSingle → (w.branches s).join < w.joins.size →
    n ∈ w.graph.toList → (w.branches s).node.serial = n.serial →
    placeBranches h s branches w = (.ok (), w') → ∃ ways guards kinds,
      planBranches r w.graph.allocator (w.branches s).offer branches =
        some (ways, w'.graph.allocator) ∧
      Forks r n.serial (some (w.branches s).join) (w.branches s).offer.operands [s] w w' ways
        guards kinds

/-- The error handlers do what their plans say, whatever node they are placed on. -/
def ErrorsMean (h : Handlers) (r : Registry) (errors : List (String × List Step)) : Prop :=
  areErrorsStructured errors → ∀ {w w' : Workspace} {b : Nat} {node : Handle} {n : Node}
    (operands : Guard → List Scalar), w.Sound → b < w.builders.size →
    (w.builder b).last = some node → (w.builder b).cursor < w.joins.size → n ∈ w.graph.toList →
    node.serial = n.serial → placeErrors h b errors w = (.ok (), w') → ∃ ways kinds,
      planErrors r w.graph.allocator errors = some (ways, w'.graph.allocator) ∧
      Forks r n.serial (w.rejoin b) operands [] w w' ways [] kinds

theorem branches_nil : BranchesMean h r [] := by
  intro _ w w' s n sound _ _ _ _ _ ran
  cases ran
  exact ⟨[], [], [], rfl, .refl sound⟩

theorem branches_cons {which : Branch} {steps : List Step} {rest : List (Branch × List Step)}
    (inside : Mean h r steps) (after : BranchesMean h r rest) :
    BranchesMean h r ((which, steps) :: rest) := by
  intro structured w w' s n sound known single join member serial ran
  rw [areBranchesStructured, Bool.and_eq_true] at structured
  obtain ⟨w₂, first, ran⟩ := placeBranches_cons ran
  obtain ⟨o, w₁, opened, filled⟩ := fill_ok first
  obtain ⟨opening, x, opens, here, opened⟩ :=
    openBranch_opened sound known member serial single opened
  have there : (w.setBranches s x).Sound := (onward_setBranches sound s x).sound
  have ready := opened.ready fun k same => by
    cases same
    exact join
  rw [here] at filled
  obtain ⟨front, plan, spans⟩ := inside structured.1 opened.onward.sound ready filled
  have one : Forks r n.serial (some (w.branches s).join) (w.branches s).offer.operands []
      (w.setBranches s x) w₂ _ _ _ := Forks.single there member opened spans
  -- filling the branch has left the set as it was when the branch was opened
  have known' : s < (w.setBranches s x).sets.size := by simpa [setBranches] using known
  have set : w₂.branches s = x := by
    rw [one.onward.set s known' (by simp), branches_setBranches known]
  obtain ⟨n', member', gains⟩ := one.grown n member rfl
  have serial' : (w₂.branches s).node.serial = n'.serial := by
    rw [set, opens.node, serial, gains.serial]
  obtain ⟨ways, guards, kinds, plans, more⟩ := after structured.2 one.onward.sound
    (Nat.lt_of_lt_of_le known' one.onward.sets_grow) (by rw [set]; exact opens.single)
    (by rw [set, opens.join]; exact Nat.lt_of_lt_of_le join one.onward.joins_grow) member' serial' ran
  rw [set, opens.join, opens.operands, gains.serial] at more
  rw [set] at plans
  refine ⟨_, _, _, ?_, (Forks.of_setBranches sound one).trans sound more⟩
  have allocator : w₁.graph.allocator = w.graph.allocator := opened.allocator
  rw [allocator] at plan
  rw [planBranches, opens.way]
  simp only [Option.bind_eq_bind, Option.bind_some, plan, plans]
  rfl

theorem errors_nil : ErrorsMean h r [] := by
  intro _ w w' b node n operands sound _ _ _ _ _ ran
  cases ran
  exact ⟨[], [], rfl, .refl sound⟩

theorem errors_cons {name : String} {steps : List Step} {rest : List (String × List Step)}
    (inside : Mean h r steps) (after : ErrorsMean h r rest) :
    ErrorsMean h r ((name, steps) :: rest) := by
  intro structured w w' b node n operands sound below last cursor member serial ran
  rw [areErrorsStructured, Bool.and_eq_true] at structured
  obtain ⟨kind, w₂, named, first, others⟩ := placeErrors_cons ran
  obtain ⟨o, w₁, opened, filled⟩ := fill_ok first
  obtain ⟨here, opened⟩ := openHandler_opened sound last member serial opened
  have ready := opened.ready fun k same => below_of_rejoin cursor same
  rw [here] at filled
  obtain ⟨front, plan, spans⟩ := inside structured.1 opened.onward.sound ready filled
  have one : Forks r n.serial (w.rejoin b) operands [] w w₂ _ _ _ :=
    Forks.single sound member opened spans
  have builder := one.onward.builder b below (by simp)
  obtain ⟨n', member', gains⟩ := one.grown n member rfl
  obtain ⟨ways, kinds, plans, more⟩ := after structured.2 operands one.onward.sound
    (Nat.lt_of_lt_of_le below one.onward.builders_grow) (by rw [builder]; exact last)
    (by rw [builder]; exact Nat.lt_of_lt_of_le cursor one.onward.joins_grow) member'
    (serial.trans gains.serial.symm) others
  -- the builder stands where it stood, so the other handlers rejoin there too
  have rejoins : w₂.rejoin b = w.rejoin b := by rw [rejoin, rejoin, builder]
  rw [rejoins, gains.serial] at more
  refine ⟨_, _, ?_, one.trans sound more⟩
  have allocator : w₁.graph.allocator = w.graph.allocator := opened.allocator
  rw [allocator] at plan
  rw [planErrors, named]
  simp only [Except.toOption, Option.bind_eq_bind, Option.bind_some, plan, plans]
  rfl

/-! ### Steps -/

/-- A step does what its plan says, wherever it is appended. -/
def Means (h : Handlers) (r : Registry) (s : Step) : Prop :=
  s.isStructured → ∀ {w w₁ w' : Workspace} {b : Nat}, w.Sound → w.Ready b →
    place h b s w = (.ok (), w₁) → placeHandlers h b s w₁ = (.ok (), w') → ∃ front,
      s.plan r w.graph.allocator = some (front, w'.graph.allocator) ∧ Spans r b w w' front

theorem resume_means (frame : Frame) : Means h r (.resume frame) := by
  intro _ w w₁ w' b sound ready placed handled
  cases handled
  obtain ⟨k, _, scope, rfl⟩ := Builder.thenContinue_ok (resumed_of_place placed)
  have returned := returned_continued sound ready scope
  refine ⟨_, ?_, .resume scope returned⟩
  rw [Step.plan, returned.allocator]

section Action

variable {head : Head} {frame : Frame} {branches : List (Branch × List Step)}
  {errors : List (String × List Step)} {a : Action} {d : Draft} {w w₁ w' : Workspace} {b : Nat}
  {n : Node}

/-- Placeholders in its values make no other action of an action. -/
theorem structured_resolve (structured : head.isStructured) (resolved : head.resolve = .ok a) :
    a.isStructured ∧ (head.type = .loop ↔ a.kind = .loop) := by
  cases head with
  | staged => cases structured
  | action a₀ =>
    rw [Head.resolve] at resolved
    split at resolved
    · cases resolved
    · cases resolved
      have same : a₀.withPlaceholders.isStructured = a₀.isStructured := by cases a₀ <;> rfl
      refine ⟨same.trans structured, ?_⟩
      cases a₀ <;> simp [Action.withPlaceholders, Head.type, Action.kind]

/-- The error handlers of an action that was placed. -/
theorem handled (inside : ErrorsMean h r errors) (structured : areErrorsStructured errors)
    (ready : w.Ready b) (placed : Placed b w w₁ n) (operands : Guard → List Scalar)
    (ran : placeErrors h b errors w₁ = (.ok (), w')) : ∃ ways kinds,
      planErrors r w₁.graph.allocator errors = some (ways, w'.graph.allocator) ∧
      Forks r n.serial (w₁.rejoin b) operands [] w₁ w' ways [] kinds := by
  obtain ⟨n', member, alike⟩ := placed.there
  obtain ⟨ways, kinds, plan, forks⟩ := inside structured operands placed.onward.sound
    (Nat.lt_of_lt_of_le ready.below placed.onward.builders_grow) (by rw [placed.builder])
    (by rw [placed.builder]; exact placed.cursor.below) member alike.serial.symm ran
  exact ⟨ways, kinds, plan, alike.serial ▸ forks⟩

theorem plan_other (other : a.kind ≠ .loop) (resolved : head.resolve = .ok a)
    (drafted : a.draft = .ok d) {alloc alloc' : Allocator} {id : String}
    (name : frame.name d alloc = (id, alloc')) :
    (Step.action head frame branches errors).plan r alloc =
      if a.offer = .nothing then (planErrors r alloc' errors).bind fun handlers =>
        some (if a.kind.isTerminal then fun _ => .stops id else .goes id (a.attributes r), handlers.2)
      else (planBranches r alloc' a.offer branches).bind fun ways =>
        (planErrors r ways.2 errors).bind fun handlers =>
          some (.forks id a.compared (ways.1 ++ handlers.1), handlers.2) := by
  rw [Step.plan, resolved]
  simp only [Except.toOption, drafted, Option.bind_eq_bind, Option.bind_some, name]
  cases a with
  | loop => exact absurd rfl other
  | _ => rfl

/-- An action that offers no branches. -/
theorem plain_means (inside : ErrorsMean h r errors) (structured : a.isStructured)
    (errors_structured : areErrorsStructured errors) (offers : a.offer = .nothing)
    (other : a.kind ≠ .loop) (resolved : head.resolve = .ok a) (sound : w.Sound)
    (ready : w.Ready b) {node : Handle}
    (appended : Builder.append b a (.orNull frame.label) (.orNull frame.id) w = (.ok node, w₁))
    (ran : placeErrors h b errors w₁ = (.ok (), w')) : ∃ front,
      (Step.action head frame branches errors).plan r w.graph.allocator =
        some (front, w'.graph.allocator) ∧ Spans r b w w' front := by
  obtain ⟨d, n, rfl, placed, appended⟩ := append_placed sound ready appended
  obtain ⟨ways, kinds, plan, forks⟩ := handled inside errors_structured ready placed
    Guard.operands ran
  have planned : (Step.action head frame branches errors).plan r w.graph.allocator =
      some (if a.kind.isTerminal then fun _ => .stops n.id else .goes n.id (a.attributes r),
        w'.graph.allocator) := by
    rw [plan_other other resolved appended.drafted appended.name, if_pos offers, plan]
    rfl
  refine ⟨_, planned, ?_⟩
  by_cases terminal : a.kind.isTerminal
  · rw [if_pos terminal]
    exact .stops sound ready placed appended structured terminal forks
  · rw [if_neg terminal]
    exact .goes sound ready placed appended structured terminal
      (fun branching => Action.offers_iff.2 ⟨branching, other⟩ offers) forks

theorem loop_structured (structured : a.isStructured) (loop : a.kind = .loop) :
    ∃ times, a = .loop (.int times) := by
  cases a with
  | loop times =>
    cases times with
    | scalar t =>
      cases t with
      | int times => exact ⟨times, rfl⟩
      | _ => cases structured
    | _ => cases structured
  | _ => cases loop

theorem single_structured (structured : a.isStructured) : a.offer.IsSingle := by
  intro modes offers
  cases a with
  | collectInput c =>
    cases offers
    exact ⟨c.mode, rfl⟩
  | collectSequential spec => cases structured
  | _ => cases offers

/-- An action that offers branches. -/
theorem branching_means (inside : BranchesMean h r branches) (handlers : ErrorsMean h r errors)
    (structured : a.isStructured) (branches_structured : areBranchesStructured branches)
    (errors_structured : areErrorsStructured errors) (offers : a.offer ≠ .nothing)
    (resolved : head.resolve = .ok a) (sound : w.Sound) (ready : w.Ready b) {s : Nat}
    {v : Workspace}
    (appended : Builder.appendBranching b a (.orNull frame.label) (.orNull frame.id) w = (.ok s, v))
    (filled : placeBranches h s branches v = (.ok (), w₁))
    (ran : placeErrors h b errors w₁ = (.ok (), w')) : ∃ front,
      (Step.action head frame branches errors).plan r w.graph.allocator =
        some (front, w'.graph.allocator) ∧ Spans r b w w' front := by
  obtain ⟨node, u, added, rfl, rfl⟩ := Builder.appendBranching_ok appended
  obtain ⟨d, n, rfl, placed, drawn⟩ := append_placed sound ready added
  -- the set of the node, whose branches rejoin where the builder stands now
  let x : BranchSet :=
    { builder := b, node := n.handle, join := (u.builder b).cursor, offer := a.offer }
  let v : Workspace := { u with sets := u.sets.push x }
  have opened : Onward [] [] [] [] u v := onward_pushSet placed.onward.sound x
  have set : v.branches u.sets.size = x := by simp [v, Workspace.branches]
  have join : x.join = w.joins.size := congrArg Builder.cursor placed.builder
  obtain ⟨n₁, member, alike⟩ := placed.there
  obtain ⟨ways, guards, kinds, plan, forks⟩ := inside branches_structured (s := u.sets.size) (n := n₁)
    opened.sound (by simp [v]) (by rw [set]; exact single_structured structured)
    (by rw [set, join]; exact placed.cursor.below) member
    (by rw [set]; exact alike.serial.symm) filled
  rw [set, alike.serial, join] at forks
  rw [set] at plan
  have nonterminal : ¬ n.kind.isTerminal := by
    rw [drawn.kind]
    exact Action.nonterminal_of_offers offers
  have below : b < v.builders.size := Nat.lt_of_lt_of_le ready.below placed.onward.builders_grow
  have builder : w₁.builder b =
      { cursor := w.joins.size, last := some n.handle, scope := (w.builder b).scope } := by
    rw [forks.onward.builder b below (by simp)]
    exact placed.builder.trans (by rw [if_neg nonterminal])
  have rejoins : w₁.rejoin b = some w.joins.size := by
    rw [rejoin, builder]
    rfl
  -- the handlers come after the branches, on the same node
  obtain ⟨n₂, member₂, gains⟩ := forks.grown n₁ member alike.serial
  have serial : n₂.serial = n.serial := gains.serial.trans alike.serial
  obtain ⟨ways', kinds', plan', more⟩ := handlers errors_structured a.offer.operands
    forks.onward.sound (Nat.lt_of_lt_of_le below forks.onward.builders_grow) (by rw [builder])
    (by rw [builder]; exact Nat.lt_of_lt_of_le placed.cursor.below forks.onward.joins_grow) member₂
    serial.symm ran
  rw [rejoins, serial] at more
  have all := forks.trans opened.sound (more.weaken forks.onward.sound)
  have new : ∀ i ∈ [u.sets.size], w.sets.size ≤ i := by simp [placed.sets]
  refine ⟨_, ?_, .forks sound ready placed drawn structured offers opened new all⟩
  have other : a.kind ≠ .loop := (Action.offers_iff.1 offers).2
  have plan : planBranches r u.graph.allocator a.offer branches =
      some (ways, w₁.graph.allocator) := plan
  rw [plan_other other resolved drawn.drafted drawn.name, if_neg offers, plan, Option.bind_some, plan']
  rfl

theorem plan_loop {times : Int} {which : Branch} {body : List Step}
    (resolved : head.resolve = .ok (.loop (.int times)))
    (drafted : (Action.loop (.int times)).draft = .ok d) {alloc alloc' : Allocator} {id : String}
    (name : frame.name d alloc = (id, alloc')) :
    (Step.action head frame [(which, body)] errors).plan r alloc =
      (planAll r alloc' body).bind fun body => (planErrors r body.2 errors).bind fun handlers =>
        some (.loops id times.toNat body.1, handlers.2) := by
  rw [Step.plan, resolved]
  simp only [Except.toOption, drafted, Option.bind_eq_bind, Option.bind_some, name]
  rfl

/-- A loop that was appended had its node placed, its body filled and its body closed. -/
theorem looped_ok {times : Value} {fill : Nat → Building Unit} (sound : w.Sound) (ready : w.Ready b)
    (looped : Builder.loop DefinitionError.usage b times (.orNull frame.label) (.orNull frame.id) fill
      w = (.ok (), w')) :
    ∃ d n u w₃, Builder.append b (.loop times) (.orNull frame.label) (.orNull frame.id) w =
        (.ok n.handle, u) ∧ Placed b w u n ∧
      Appended (.loop times) frame d n u.graph.allocator w.graph.allocator ∧
      let v := u.withBack n.id
      fill v.builders.size (v.withCondition n.serial (.equals Builder.continueLooping) u.joins.size) =
        (.ok (), w₃) ∧
      Builder.closeLoop b n.handle ⟨v.builders.size, "loop body"⟩ w₃ = (.ok (), w') := by
  obtain ⟨node, _, _, w₃, first, filled, closed⟩ := loop_ok looped
  obtain ⟨u, added, rfl, rfl⟩ := Builder.openLoop_ok first
  obtain ⟨d, n, rfl, placed, drawn⟩ := append_placed sound ready added
  obtain ⟨_, builders, _⟩ := relinked_withBack u n.id
  rw [← builders] at filled closed
  exact ⟨d, n, u, w₃, added, placed, drawn, filled, closed⟩

/-- The body of a loop is opened at the first condition of its node. -/
theorem withBack_opened {u : Workspace} (placed : Placed b w u n) (bare : n.transitions = {}) :
    let v := u.withBack n.id
    let w₂ := v.withCondition n.serial (.equals Builder.continueLooping) u.joins.size
    ∃ n₁ ∈ v.graph.toList, n₁.Alike n ∧ w₂.Ready v.builders.size ∧
      Opened n₁.serial (some u.joins.size) (Node.plusCondition (.equals Builder.continueLooping))
        (.condition n₁.serial 0) v w₂ := by
  intro v w₂
  have opened : Onward [] [] [] [] u v := onward_withBack placed.onward.sound n.id
  have known : u.joins.size < v.joins.size :=
    Nat.lt_of_lt_of_eq (Nat.lt_succ_self _) (u.joins_withBack n.id).symm
  obtain ⟨n₀, member₀, alike₀⟩ := placed.there
  obtain ⟨n₁, member, alike₁⟩ := opened.kept n₀ member₀ (by simp)
  have alike := alike₁.trans alike₀
  have empty : n₁.transitions.conditions.length = 0 := by
    rw [(Node.Gains.of_alike alike).conditions_length, bare]
    rfl
  have branch := opened_condition opened.sound member (.equals Builder.continueLooping) u.joins.size
  rw [empty, alike.serial] at branch
  refine ⟨n₁, member, alike, branch.ready fun k same => ?_, alike.serial ▸ branch⟩
  cases same
  exact known

/-- The body of a loop was closed, and the builder of the loop goes on where it is done. -/
theorem closeLoop_turned {w₃ : Workspace} {node : Handle} {o : OpenBranch} {back : Nat}
    (sound : w₃.Sound) (ready : (w₃.builder o.builder).status = .opened → w₃.Ready o.builder)
    (scope : (w₃.builder o.builder).scope = .branch (some back))
    (ran : Builder.closeLoop b node o w₃ = (.ok (), w')) :
    ∃ w₄, Turned o.builder back w₃ w₄ ∧ w' = w₄.withExit b node.serial := by
  rcases Builder.closeLoop_ok ran with ⟨closed, rfl⟩ | ⟨join, opened, there, rfl⟩
  · exact ⟨w₃, .stays sound closed, rfl⟩
  · cases scope.symm.trans there
    exact ⟨_, (returned_continued sound (ready opened) scope).turned, rfl⟩

/-- A loop. -/
theorem loop_means {times : Int} {which : Branch} {body : List Step} (inside : Mean h r body)
    (handlers : ErrorsMean h r errors) (body_structured : areStructured body)
    (errors_structured : areErrorsStructured errors)
    (resolved : head.resolve = .ok (.loop (.int times))) (sound : w.Sound) (ready : w.Ready b)
    (looped : Builder.loop DefinitionError.usage b (.int times) (.orNull frame.label)
      (.orNull frame.id) (fun inner => appendAll h inner body) w = (.ok (), w₁))
    (ran : placeErrors h b errors w₁ = (.ok (), w')) : ∃ front,
      (Step.action head frame [(which, body)] errors).plan r w.graph.allocator =
        some (front, w'.graph.allocator) ∧ Spans r b w w' front := by
  obtain ⟨d, n, u, w₃, _, placed, drawn, body_filled, closed⟩ := looped_ok sound ready looped
  obtain ⟨n₁, member, alike, inner, branch⟩ := withBack_opened placed drawn.bare
  -- the join point to which the body returns leads back to the loop
  let v := u.withBack n.id
  have opened : Onward [] [] [] [] u v := onward_withBack placed.onward.sound n.id
  obtain ⟨alloc, _⟩ := relinked_withBack u n.id
  have target : (v.joins.get u.joins.size).target = some n.id := by rw [get_withBack, if_pos rfl]
  obtain ⟨front, plan, spans⟩ := inside body_structured branch.onward.sound inner body_filled
  have scope : (w₃.builder v.builders.size).scope = .branch (some u.joins.size) := by
    rw [spans.advances.scope, branch.builder]
  obtain ⟨w₄, turned, rfl⟩ := closeLoop_turned (o := ⟨v.builders.size, "loop body"⟩)
    spans.advances.onward.sound spans.advances.ready scope closed
  have round := round_of_turned opened.sound member branch spans turned
  obtain ⟨n₄, member₄, gains⟩ := round.grown
  have serial : n₄.serial = n.serial := gains.serial.trans alike.serial
  have below : b < u.builders.size := Nat.lt_of_lt_of_le ready.below placed.onward.builders_grow
  have below₄ : b < w₄.builders.size :=
    Nat.lt_of_lt_of_le (Nat.lt_of_lt_of_le below opened.builders_grow) round.onward.builders_grow
  -- the builder of the loop goes on from the second condition
  have led : Led b n₄.serial (.equals Builder.doneLooping)
      (.condition n₄.serial n₄.transitions.conditions.length) w₄ (w₄.withExit b n₄.serial) :=
    led_condition round.onward.sound below₄ member₄ (.equals Builder.doneLooping)
  have exit : w₄.withExit b n.handle.serial = w₄.withExit b n₄.serial := by
    rw [serial]
    rfl
  rw [exit] at ran
  have around : Onward [n₁.serial] [] [] [] u w₄ :=
    (opened.weaken placed.onward.sound (by simp) (by simp) (by simp) (by simp)).trans round.onward
  have last : (w₄.builder b).last = some n.handle := by
    rw [around.builder b below (by simp), placed.builder]
  obtain ⟨n₅, member₅, alike₅⟩ := led.node n₄ member₄ rfl
  obtain ⟨ways, kinds, plan', forks⟩ := handlers errors_structured Guard.operands led.onward.sound
    (Nat.lt_of_lt_of_le below₄ led.onward.builders_grow) (by rw [led.builder, last])
    (by rw [led.builder]; exact led.cursor.below) member₅ (alike₅.serial.trans serial).symm ran
  rw [alike₅.serial.trans serial] at forks
  refine ⟨_, ?_, .loops sound ready placed drawn opened target alike round member₄ serial led forks⟩
  have alloc₂ : u.graph.allocator =
      (v.withCondition n.serial (.equals Builder.continueLooping) u.joins.size).graph.allocator :=
    (branch.allocator.trans alloc).symm
  rw [plan_loop resolved drawn.drafted drawn.name, alloc₂, plan, Option.bind_some, ← turned.allocator,
    ← led.allocator, plan']
  rfl

/-- The one body of a loop. -/
theorem loop_body (structured : (Step.action head frame branches errors).isStructured)
    {times : Value} (resolved : head.resolve = .ok (.loop times)) :
    ∃ rounds which body, times = .int rounds ∧ branches = [(which, body)] := by
  simp only [isStructured, Bool.and_eq_true] at structured
  obtain ⟨⟨⟨head_structured, _⟩, _⟩, one⟩ := structured
  obtain ⟨known, type⟩ := structured_resolve head_structured resolved
  obtain ⟨rounds, same⟩ := loop_structured known rfl
  cases same
  have single : branches.length = 1 := by simpa [type.2 rfl] using one
  obtain ⟨⟨which, body⟩, rfl⟩ := List.length_eq_one_iff.1 single
  exact ⟨rounds, which, body, rfl, rfl⟩

/-- An action does what its plan says, with all that is nested in it. -/
theorem action_means (inside : BranchesMean h r branches) (handlers : ErrorsMean h r errors)
    (bodies : ∀ e ∈ branches.head?, Mean h r e.2) :
    Means h r (.action head frame branches errors) := by
  intro structured w w₁ w' b sound ready placed handled
  obtain ⟨a, resolved, does⟩ := does_of_place placed
  have one {times : Value} (known : head.resolve = .ok (.loop times)) := loop_body structured known
  simp only [isStructured, Bool.and_eq_true] at structured
  obtain ⟨⟨⟨head_structured, branches_structured⟩, errors_structured⟩, _⟩ := structured
  obtain ⟨known, _⟩ := structured_resolve head_structured resolved
  rw [placeHandlers] at handled
  cases does with
  | plain offers other appended =>
    exact plain_means handlers known errors_structured offers other resolved sound ready appended
      handled
  | branching offers appended filled =>
    exact branching_means inside handlers known branches_structured errors_structured offers
      resolved sound ready appended filled handled
  | loop looped =>
    obtain ⟨rounds, which, body, rfl, rfl⟩ := one resolved
    rw [areBranchesStructured, Bool.and_eq_true] at branches_structured
    rw [placeLoop] at looped
    exact loop_means (bodies _ rfl) handlers branches_structured.1 errors_structured resolved sound
      ready looped handled

/-- Loops have bodies. -/
def Bodied : Step → Prop
  | .action head _ branches _ => ∀ times, head.resolve = .ok (.loop times) → branches ≠ []
  | .resume _ | .jump .. => True

theorem bodied_of_structured {s : Step} (structured : s.isStructured) : s.Bodied := by
  cases s with
  | action head frame branches errors =>
    intro times resolved
    obtain ⟨_, which, body, _, rfl⟩ := loop_body structured resolved
    exact List.cons_ne_nil _ _
  | resume => trivial
  | jump => trivial

theorem opened_of_append {node : Handle} {label id : Value}
    (appended : Builder.append b a label id w = (.ok node, w')) : (w.builder b).status = .opened := by
  obtain ⟨_, _, _, _, _, _, free, _⟩ := Builder.append_ok appended
  exact opened_of_refusal free

/-- A builder that takes no more places no action. -/
theorem opened_of_action (bodied : (Step.action head frame branches errors).Bodied)
    (placed : place h b (.action head frame branches errors) w = (.ok (), w')) :
    (w.builder b).status = .opened := by
  obtain ⟨a, resolved, does⟩ := does_of_place placed
  cases does with
  | plain _ _ appended => exact opened_of_append appended
  | branching _ appended _ =>
    obtain ⟨_, _, added, _⟩ := Builder.appendBranching_ok appended
    exact opened_of_append added
  | @loop times looped =>
    obtain ⟨⟨which, body⟩, more, rfl⟩ := List.exists_cons_of_ne_nil (bodied times resolved)
    rw [placeLoop] at looped
    obtain ⟨_, _, _, _, first, _⟩ := loop_ok looped
    obtain ⟨_, added, _⟩ := Builder.openLoop_ok first
    exact opened_of_append added

end Action

/-! ### Lists of steps -/

theorem nil_mean : Mean h r [] := by
  intro _ w w' b sound ready ran
  cases ran
  exact ⟨id, rfl, .refl sound ready⟩

/-- A builder that takes no more places no step. -/
theorem opened_of_place {s : Step} {w w' : Workspace} {b : Nat} (bodied : s.Bodied)
    (placed : place h b s w = (.ok (), w')) : (w.builder b).status = .opened := by
  cases s with
  | jump target frame =>
    have jumped : Builder.jumpTo b (.text target) w = (.ok (), w') := BuildM.mapError_ok placed
    exact opened_of_refusal (Builder.jumpTo_ok jumped).1
  | resume =>
    obtain ⟨_, opened, _⟩ := Builder.thenContinue_ok (resumed_of_place placed)
    exact opened
  | action head frame branches errors =>
    exact opened_of_action bodied placed

theorem cons_mean {s : Step} {rest : List Step} (first : Means h r s) (after : Mean h r rest) :
    Mean h r (s :: rest) := by
  intro structured w w' b sound ready ran
  rw [areStructured, Bool.and_eq_true] at structured
  obtain ⟨w₁, w₂, placed, handled, appending⟩ := appendAll_cons ran
  obtain ⟨front, plan, spans⟩ := first structured.1 sound ready placed handled
  rw [planAll, plan]
  simp only [Option.bind_eq_bind, Option.bind_some]
  by_cases opened : (w₂.builder b).status = .opened
  · obtain ⟨front', plan', spans'⟩ := after structured.2 spans.advances.onward.sound
      (spans.advances.ready opened) appending
    rw [plan']
    exact ⟨front ∘ front', rfl, spans.trans sound spans'⟩
  · -- a builder that takes no more refuses any step, so this one is the last
    cases rest with
    | nil =>
      cases appending
      exact ⟨front, rfl, spans⟩
    | cons s' rest' =>
      rw [areStructured, Bool.and_eq_true] at structured
      obtain ⟨_, _, placed, _⟩ := appendAll_cons appending
      exact absurd (opened_of_place (bodied_of_structured structured.2.1) placed) opened

mutual

theorem step_means : (s : Step) → Means h r s
  | .action _ _ branches errors =>
    action_means (branches_mean branches) (errors_mean errors) (body_means branches)
  | .resume frame => resume_means frame
  | .jump .. => fun structured => nomatch structured

theorem body_means : (branches : List (Branch × List Step)) → ∀ e ∈ branches.head?, Mean h r e.2
  | [] => fun _ among => nomatch among
  | (_, steps) :: _ => fun _ among => by
    cases among
    exact steps_mean steps

theorem branches_mean : (branches : List (Branch × List Step)) → BranchesMean h r branches
  | [] => branches_nil
  | (_, steps) :: rest => branches_cons (steps_mean steps) (branches_mean rest)

theorem errors_mean : (errors : List (String × List Step)) → ErrorsMean h r errors
  | [] => errors_nil
  | (_, steps) :: rest => errors_cons (steps_mean steps) (errors_mean rest)

theorem steps_mean : (steps : List Step) → Mean h r steps
  | [] => nil_mean
  | s :: rest => cons_mean (step_means s) (steps_mean rest)

end

end Step

end ContactFlow
