import ContactFlow.Proofs.Moves

/-!
Where builders stand. Each builder stands at a join point of its own, and one that takes more stands at
an open one; every move keeps it so. Therefore what is linked stays linked, whatever moves are made,
and a builder that takes no more is left alone by the moves of the others.
-/

namespace ContactFlow

/-! ### Nodes stay where they are -/

namespace Graph

variable {g g' : Graph} {id : String} {n m : Node}

theorem Widens.get? (widens : g.Widens g') (found : g.get? id = some n) :
    ∃ n', g'.get? id = some n' ∧ Node.Widened n n' := by
  obtain ⟨f, changed, widened⟩ := widens
  refine ⟨f n, ?_, widened n⟩
  rw [Graph.get?] at found ⊢
  rw [changed.nodes, Ordered.lookup_map, found]
  rfl

theorem Grown.get? (grown : Grown m g g') (found : g.get? id = some n) : g'.get? id = some n := by
  rw [Graph.get?] at found ⊢
  rw [grown.nodes, List.lookup_append, found]
  rfl

end Graph

namespace Workspace

variable {w w' w'' : Workspace} {free : Nat → Prop} {es : List Event} {loops : List OpenLoop} {b : Nat}

/-! ### One join point for each builder -/

/-- Each builder stands at a join point of its own, and what it appended last is in the graph. -/
structure Footing (w : Workspace) : Prop where
  standing : w.Standing
  apart : ∀ b < w.builders.size, ∀ b' < w.builders.size,
    (w.builder b').cursor = (w.builder b).cursor → b' = b
  last : ∀ b node, (w.builder b).last = some node → ∃ n ∈ w.graph.toList, n.serial = node.serial

theorem Footing.standing_shift (footing : w.Footing) (shift : Shift free w w' es)
    (marks : Marks w w' es) : w'.Standing := by
  have standing := footing.standing
  have joins := shift.joins
  refine
    { wired := marks.wired
      below := ?below
      ready := ?ready
      earlier := ?earlier
      offered := ?offered }
  case below =>
    intro b known
    rcases shift.stands b known with ⟨before, same⟩ | ⟨_, open_⟩
    · have below := standing.below b before
      omega
    · exact open_.below
  case ready =>
    intro b known still
    rcases shift.stands b known with ⟨before, same⟩ | ⟨_, open_⟩
    · rw [same]
      have open_ := standing.ready b before (shift.closed b before still)
      -- only the builder that stands at a join point uses it up, and this one has not
      have alone := footing.apart b before
      have below := open_.below
      refine ⟨by omega, ?_, ?_⟩
      · rw [Option.eq_none_iff_forall_ne_some]
        intro t target
        rcases (shift.target _ t).1 target with old | ⟨b', left⟩ | looped
        · rw [open_.target] at old
          cases old
        · obtain ⟨before', _, here, moved⟩ := shift.left b' _ t left
          rw [alone b' before' here] at moved
          exact moved same
        · exact absurd below (Nat.not_lt.2 (shift.looped _ t looped).1)
      · rw [Option.eq_none_iff_forall_ne_some]
        intro k forward
        rcases (shift.forward _ k).1 forward with old | ⟨b', returned⟩
        · rw [open_.forward] at old
          cases old
        · obtain ⟨before', _, here, done, _⟩ := shift.returned b' _ k returned
          rw [alone b' before' here] at done
          exact done still
    · exact open_
  case earlier =>
    intro c known k scope
    rcases Nat.lt_or_ge c w.builders.size with before | new
    · rw [shift.scope c before] at scope
      have earlier := standing.earlier c before k scope
      have below := standing.below c before
      rcases shift.stands c known with ⟨_, same⟩ | ⟨above, _⟩
      · rw [same]
        exact earlier
      · omega
    · exact (shift.rejoins c new known k scope).1
  case offered =>
    intro b j offers
    rcases shift.given b j (.inl offers) with old | ⟨known, _, rfl⟩
    · exact Nat.lt_of_lt_of_le (standing.offered b j old) joins
    · exact Nat.lt_of_lt_of_le (standing.below b known) joins

theorem Footing.shift (footing : w.Footing) (shift : Shift free w w' es) (marks : Marks w w' es) :
    w'.Footing where
  standing := footing.standing_shift shift marks
  apart := by
    intro b known b' known' alike
    rcases shift.stands b known with ⟨before, same⟩ | ⟨above, _⟩
    · rcases shift.stands b' known' with ⟨before', same'⟩ | ⟨above', _⟩
      · exact footing.apart b before b' before' (same'.symm.trans (alike.trans same))
      · exact (shift.apart b' known' above' b known alike.symm).symm
    · exact shift.apart b known above b' known' alike
  last := by
    intro b node found
    rcases shift.last b node found with old | there
    · obtain ⟨n, member, here⟩ := footing.last b node old
      obtain ⟨n', member', here'⟩ := marks.nodes n member
      exact ⟨n', member', here'.trans here⟩
    · exact there

/-! ### What lasts -/

/-- What stays as it is: nodes keep their identifiers, kinds and parameters, linked edges their
targets, and builders that take no more their status and what they appended last. -/
structure Lasts (w w' : Workspace) : Prop where
  builders : w.builders.size ≤ w'.builders.size
  nodes : ∀ id n, w.graph.get? id = some n →
    ∃ n', w'.graph.get? id = some n' ∧ Node.Widened n n'
  edges : ∀ s t, w.graph.Edge s (some t) → w'.graph.Edge s (some t)
  closed : ∀ b < w.builders.size, (w.builder b).status ≠ .opened →
    (w'.builder b).status = (w.builder b).status ∧ (w'.builder b).last = (w.builder b).last

theorem Lasts.refl (w : Workspace) : Lasts w w :=
  ⟨Nat.le_refl _, fun _ n found => ⟨n, found, .refl n⟩, fun _ _ => id, fun _ _ _ => ⟨rfl, rfl⟩⟩

theorem Lasts.trans (first : Lasts w w') (second : Lasts w' w'') : Lasts w w'' where
  builders := Nat.le_trans first.builders second.builders
  nodes := by
    intro id n found
    obtain ⟨m, found', widened⟩ := first.nodes id n found
    obtain ⟨k, found'', widened'⟩ := second.nodes id m found'
    exact ⟨k, found'', widened.trans widened'⟩
  edges := fun s t edge => second.edges s t (first.edges s t edge)
  closed := by
    intro b known closed
    obtain ⟨status, last⟩ := first.closed b known closed
    obtain ⟨status', last'⟩ := second.closed b (Nat.lt_of_lt_of_le known first.builders)
      (status ▸ closed)
    exact ⟨status'.trans status, last'.trans last⟩

theorem lasts_of_shift (shift : Shift free w w' es) (marks : Marks w w' es)
    (nodes : ∀ id n, w.graph.get? id = some n →
      ∃ n', w'.graph.get? id = some n' ∧ Node.Widened n n')
    (closed : ∀ b < w.builders.size, (w.builder b).status ≠ .opened →
      (w'.builder b).status = (w.builder b).status ∧ (w'.builder b).last = (w.builder b).last) :
    Lasts w w' :=
  ⟨shift.builders, nodes, fun s t edge => (marks.edge s t).2 (.inl edge), closed⟩

/-- A move leaves the nodes where they are. -/
theorem Move.nodes (tidy : w.graph.Tidy) (move : Move loops w w' es) {id : String} {n : Node}
    (found : w.graph.get? id = some n) : ∃ n', w'.graph.get? id = some n' ∧ Node.Widened n n' := by
  cases move with
  | @place b known _ _ d _ _ _ _ made =>
    obtain ⟨⟨g', grown, relinked⟩, _⟩ := placeNew_spec (b := b) tidy made
    exact relinked.widens.get? (grown.get? found)
  | jump => exact (w.relinked_link _).graph.widens.get? found
  | goBack => exact (w.widens_continued _ _).get? found
  | offer => exact ⟨n, found, .refl n⟩
  | take => exact ⟨n, found, .refl n⟩
  | condition => exact (w.widens_addCondition _ _).get? found
  | error => exact (w.widens_addError _ _).get? found
  | handler => exact (w.widens_addError _ _).get? found
  | lastHandler => exact (w.widens_addError _ _).get? found

theorem builder_setBuilder_other {b' : Nat} (other : b' ≠ b) (w : Workspace) (x : Builder) :
    (w.setBuilder b x).builder b' = w.builder b' := by
  simp [setBuilder, builder, Ne.symm other]

theorem builder_pushed (known : b < w.builders.size) {x : Builder}
    (builders : w'.builders = w.builders.push x) : w'.builder b = w.builder b := by
  rw [builder_push builders, if_neg (Nat.ne_of_lt known)]

/-- Only builders that take more make moves. -/
theorem Move.builder_eq (move : Move loops w w' es) (known : b < w.builders.size)
    (closed : (w.builder b).status ≠ .opened) : w'.builder b = w.builder b := by
  have other {b' : Nat} (opened : (w.builder b').status = .opened) : b ≠ b' :=
    fun same => closed (same ▸ opened)
  cases move with
  | place _ _ opened _ =>
    rw [placeNew, Workspace.place, builder_setBuilder_other (other opened), moveCursor,
      builder_setBuilder_other (other opened)]
    exact builder_link _ _ b
  | jump _ _ opened _ =>
    rw [jumped, builder_setBuilder_other (other opened), moveCursor,
      builder_setBuilder_other (other opened)]
    exact builder_link _ _ b
  | goBack _ _ opened _ =>
    rw [continued, builder_setBuilder_other (other opened)]
    exact builder_link _ _ b
  | offer => rfl
  | take => rfl
  | condition => exact builder_pushed known rfl
  | error => exact builder_pushed known rfl
  | handler => exact builder_pushed known rfl
  | lastHandler => exact builder_pushed known rfl

theorem Footing.moves (footing : w.Footing) (moves : Moves loops w w') :
    w'.Footing ∧ Lasts w w' := by
  induction moves with
  | none => exact ⟨footing, .refl w⟩
  | @more w' w'' es _ move ih =>
    obtain ⟨footing, before⟩ := ih
    obtain ⟨shift, marks⟩ := move.shift footing.standing footing.last
    refine ⟨footing.shift shift marks, before.trans (lasts_of_shift shift marks ?_ ?_)⟩
    · exact fun _ _ => move.nodes footing.standing.wired.sound.tidy
    · intro b known closed
      rw [move.builder_eq known closed]
      exact ⟨rfl, rfl⟩

theorem Footing.body (footing : w.Footing) {n : Node} (member : n ∈ w.graph.toList) :
    (w.withBody n.handle).Footing ∧ Lasts w (w.withBody n.handle) := by
  obtain ⟨shift, marks⟩ : Shift (fun _ => False) w (w.withBody n.handle) _ ∧
      Marks w (w.withBody n.handle) _ := footing.standing.body member
  refine ⟨footing.shift shift marks, lasts_of_shift shift marks ?_ ?_⟩
  · exact fun _ _ => (w.widens_withBody n.handle).get?
  · intro b known _
    rw [builder_pushed known (builders_withBody w n.handle)]
    exact ⟨rfl, rfl⟩

/-- The builder of a loop that takes no more goes on standing still, though at another join point. -/
theorem Footing.exit (footing : w.Footing) (known : b < w.builders.size) {n : Node}
    (member : n ∈ w.graph.toList) :
    (w.withExit b n.serial).Footing ∧ Lasts w (w.withExit b n.serial) := by
  obtain ⟨shift, marks⟩ : Shift (fun _ => False) w (w.withExit b n.serial) [] ∧
      Marks w (w.withExit b n.serial) [] := footing.standing.exit known id member
  have builders : (w.withExit b n.serial).builders =
      w.builders.setIfInBounds b { w.builder b with cursor := w.joins.size } := rfl
  refine ⟨footing.shift shift marks, lasts_of_shift shift marks ?_ ?_⟩
  · exact fun _ _ => (w.widens_withExit b n.serial).get?
  · intro i _ _
    exact ⟨builder_same (·.status) known builders rfl i, builder_same (·.last) known builders rfl i⟩

end Workspace

end ContactFlow
