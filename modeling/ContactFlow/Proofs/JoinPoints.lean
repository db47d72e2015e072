import ContactFlow.Proofs.Footing
import Mathlib.Logic.Relation

/-!
Join points neither lose nor overwrite an edge. Whatever the order of the calls, every join point is
used up once, every edge is linked once, and the edges that a branch takes back to its owner are linked
to the target for which the owner leaves the join point, now or later.
-/

namespace ContactFlow

/-- The target for which a builder leaves a join point, as the history has it. A builder that returns
to an outer join point leaves as the owner of that one does, or goes round a loop. -/
inductive Leaves (log : List Event) : Nat → Nat → String → Prop
  | onward {b j : Nat} {t : String} (left : .left b j t ∈ log) : Leaves log b j t
  | outward {b j owner k : Nat} {t : String} (returned : .returned b j k ∈ log)
      (opened : .opened b owner k ∈ log) (leaves : Leaves log owner k t) : Leaves log b j t
  | around {b j k : Nat} {t : String} (returned : .returned b j k ∈ log)
      (looped : .looped k t ∈ log) : Leaves log b j t

namespace Workspace

variable {w w' : Workspace} {free : Nat → Prop} {log es : List Event} {loops : List OpenLoop} {b : Nat}

theorem endsAs_present (sound : w.Sound) : w.EndsAs w.present :=
  ⟨[], [], becomes_present sound⟩

/-! ### What the history tells -/

/-- No builder but this one stands or stood at the join point. -/
structure Stood (w : Workspace) (log : List Event) (b j : Nat) : Prop where
  known : b < w.builders.size
  below : j < w.joins.size
  alone : ∀ b' < w.builders.size, (w.builder b').cursor = j → b' = b
  left : ∀ b' t, .left b' j t ∈ log → b' = b
  returned : ∀ b' k, .returned b' j k ∈ log → b' = b
  looped : ∀ t, .looped j t ∉ log

/-- The join points at which branches may rejoin the flow, with the builders that own them. -/
def Given (w : Workspace) (log : List Event) (b j : Nat) : Prop :=
  w.Offers b j ∨ ∃ c, .opened c b j ∈ log

/-- The history of a flow tells all about its builders, its join points and its edges. -/
structure Kept (w : Workspace) (log : List Event) : Prop where
  standing : w.Standing
  cursors : ∀ b < w.builders.size, Stood w log b (w.builder b).cursor
  given : ∀ b j, w.Given log b j → Stood w log b j
  target : ∀ j t, (w.joins.get j).target = some t ↔ (∃ b, .left b j t ∈ log) ∨ .looped j t ∈ log
  forward : ∀ j k, (w.joins.get j).forward = some k ↔ ∃ b, .returned b j k ∈ log
  settled : ∀ j k, (w.joins.get j).forward = some k → (w.joins.get j).target = none
  used : (log.filterMap Event.used?).Nodup
  rejoins : ∀ c < w.builders.size, ∀ k, (w.builder c).scope = .branch (some k) →
    (∃ t, .looped k t ∈ log) ∨ ∃ b, .opened c b k ∈ log
  branches : ∀ c b k, .opened c b k ∈ log →
    c < w.builders.size ∧ (w.builder c).scope = .branch (some k)
  returned : ∀ b j k, .returned b j k ∈ log →
    b < w.builders.size ∧ (w.builder b).scope = .branch (some k)
  edge : ∀ s t, w.graph.Edge s (some t) ↔ .linked s t ∈ log
  linked : (log.filterMap Event.linked?).Nodup
  passed : ∀ s b, .passed s b ∈ log → ∃ j k, .returned b j k ∈ log ∧
    ∀ F, w.EndsAs F → F.graph.Edge s (F.leads k)
  last : ∀ b node, (w.builder b).last = some node → ∃ n ∈ w.graph.toList, n.serial = node.serial

namespace Kept

/-- A join point that the history has used up has a target or is forwarded. -/
theorem done (kept : w.Kept log) {j : Nat} (used : j ∈ log.filterMap Event.used?) :
    (w.joins.get j).target.isSome ∨ (w.joins.get j).forward.isSome := by
  obtain ⟨e, among, same⟩ := List.mem_filterMap.1 used
  cases e with
  | left b i t =>
    obtain rfl : i = j := Option.some.inj same
    exact .inl (by rw [(kept.target i t).2 (.inl ⟨b, among⟩)]; rfl)
  | returned b i k =>
    obtain rfl : i = j := Option.some.inj same
    exact .inr (by rw [(kept.forward i k).2 ⟨b, among⟩]; rfl)
  | looped i t =>
    obtain rfl : i = j := Option.some.inj same
    exact .inl (by rw [(kept.target i t).2 (.inr among)]; rfl)
  | opened => cases same
  | passed => cases same
  | linked => cases same

theorem below_of_used (kept : w.Kept log) {j : Nat} (used : j ∈ log.filterMap Event.used?) :
    j < w.joins.size := by
  by_contra above
  have done := kept.done used
  simp [Joins.get_above (Nat.le_of_not_lt above)] at done

theorem footing (kept : w.Kept log) : w.Footing :=
  ⟨kept.standing, fun b known => (kept.cursors b known).alone, kept.last⟩

theorem not_open_of_used (kept : w.Kept log) {j : Nat} (used : j ∈ log.filterMap Event.used?) :
    ¬ w.joins.IsOpen j := by
  rintro ⟨_, target, forward⟩
  have done := kept.done used
  simp [target, forward] at done

end Kept

/-! ### A move keeps it so -/

/-- A builder that stood somewhere before a move is still the only one. -/
theorem Stood.shift {j : Nat} (stood : Stood w log b j) (shift : Shift free w w' es) :
    Stood w' (log ++ es) b j := by
  have builders := shift.builders
  have joins := shift.joins
  obtain ⟨known, below, alone, left, returned, looped⟩ := stood
  refine
    { known := by omega
      below := by omega
      alone := ?alone
      left := ?left
      returned := ?returned
      looped := ?looped }
  case alone =>
    intro b' known' here
    rcases shift.stands b' known' with ⟨before, same⟩ | ⟨above, _⟩
    · exact alone b' before (same.symm.trans here)
    · omega
  case left =>
    intro b' t among
    rcases List.mem_append.1 among with old | new
    · exact left b' t old
    · obtain ⟨before, _, here, _⟩ := shift.left b' j t new
      exact alone b' before here
  case returned =>
    intro b' k among
    rcases List.mem_append.1 among with old | new
    · exact returned b' k old
    · obtain ⟨before, _, here, _⟩ := shift.returned b' j k new
      exact alone b' before here
  case looped =>
    intro t among
    rcases List.mem_append.1 among with old | new
    · exact looped t old
    · exact absurd below (Nat.not_lt.2 (shift.looped j t new).1)

/-- A builder that goes to a new join point is the only one there. -/
theorem Kept.stood_fresh (kept : w.Kept log) (shift : Shift free w w' es)
    (known : b < w'.builders.size) (above : w.joins.size ≤ (w'.builder b).cursor)
    (open_ : w'.joins.IsOpen (w'.builder b).cursor) :
    Stood w' (log ++ es) b (w'.builder b).cursor := by
  have unused : (w'.builder b).cursor ∉ log.filterMap Event.used? := fun used =>
    Nat.not_lt.2 above (kept.below_of_used used)
  have mentions {e : Event} (old : e ∈ log) : e.used? ≠ some (w'.builder b).cursor := fun same =>
    unused (List.mem_filterMap.2 ⟨e, old, same⟩)
  refine
    { known := known
      below := open_.below
      alone := fun b' known' => shift.apart b known above b' known'
      left := ?left
      returned := ?returned
      looped := ?looped }
  case left =>
    intro b' t among
    rcases List.mem_append.1 among with old | new
    · exact absurd rfl (mentions old)
    · obtain ⟨before, _, here, _⟩ := shift.left b' _ t new
      have below := kept.standing.below b' before
      omega
  case returned =>
    intro b' k among
    rcases List.mem_append.1 among with old | new
    · exact absurd rfl (mentions old)
    · obtain ⟨before, _, here, _⟩ := shift.returned b' _ k new
      have below := kept.standing.below b' before
      omega
  case looped =>
    intro t among
    rcases List.mem_append.1 among with old | new
    · exact absurd rfl (mentions old)
    · exact (shift.looped _ t new).2 b known rfl

theorem Kept.cursors_shift (kept : w.Kept log) (shift : Shift free w w' es) :
    ∀ b < w'.builders.size, Stood w' (log ++ es) b (w'.builder b).cursor := by
  intro b known
  rcases shift.stands b known with ⟨before, same⟩ | ⟨above, open_⟩
  · rw [same]
    exact (kept.cursors b before).shift shift
  · exact kept.stood_fresh shift known above open_

theorem Kept.given_shift (kept : w.Kept log) (shift : Shift free w w' es) {j : Nat}
    (given : w'.Given (log ++ es) b j) : Stood w' (log ++ es) b j := by
  have either : w.Given log b j ∨ b < w.builders.size ∧ free b ∧ (w.builder b).cursor = j := by
    rcases given with offers | ⟨c, among⟩
    · exact (shift.given b j (.inl offers)).imp_left .inl
    · rcases List.mem_append.1 among with old | new
      · exact .inl (.inr ⟨c, old⟩)
      · exact (shift.given b j (.inr ⟨c, new⟩)).imp_left .inl
  rcases either with old | ⟨known, _, rfl⟩
  · exact (kept.given b j old).shift shift
  · exact (kept.cursors b known).shift shift

/-- A move uses up join points that are open or new. -/
theorem Kept.used_shift (kept : w.Kept log) (shift : Shift free w w' es) :
    ((log ++ es).filterMap Event.used?).Nodup := by
  have standing := kept.standing
  rw [List.filterMap_append, List.nodup_append]
  refine ⟨kept.used, ?_, ?_⟩
  · have short := shift.used
    generalize es.filterMap Event.used? = l at short
    match l, short with
    | [], _ => exact List.nodup_nil
    | [j], _ => exact List.nodup_singleton j
  · rintro j old _ new rfl
    obtain ⟨e, among, same⟩ := List.mem_filterMap.1 new
    cases e with
    | left b i t =>
      obtain rfl : i = j := Option.some.inj same
      obtain ⟨known, opened, rfl, _⟩ := shift.left b i t among
      exact kept.not_open_of_used old (standing.ready b known opened)
    | returned b i k =>
      obtain rfl : i = j := Option.some.inj same
      obtain ⟨known, opened, rfl, _⟩ := shift.returned b i k among
      exact kept.not_open_of_used old (standing.ready b known opened)
    | looped i t =>
      obtain rfl : i = j := Option.some.inj same
      exact Nat.not_lt.2 (shift.looped i t among).1 (kept.below_of_used old)
    | opened => cases same
    | passed => cases same
    | linked => cases same

theorem Kept.settled_shift (kept : w.Kept log) (shift : Shift free w w' es) {j k : Nat}
    (forward : (w'.joins.get j).forward = some k) : (w'.joins.get j).target = none := by
  have standing := kept.standing
  rw [Option.eq_none_iff_forall_ne_some]
  intro t target
  rcases (shift.forward j k).1 forward with old | ⟨b, returned⟩
  · have below : j < w.joins.size := by
      by_contra above
      simp [Joins.get_above (Nat.le_of_not_lt above)] at old
    rcases (shift.target j t).1 target with old' | ⟨b, left⟩ | looped
    · rw [kept.settled j k old] at old'
      cases old'
    · obtain ⟨known, opened, rfl, _⟩ := shift.left b j t left
      rw [(standing.ready b known opened).forward] at old
      cases old
    · exact Nat.not_lt.2 (shift.looped j t looped).1 below
  · obtain ⟨known, opened, rfl, _, stays, _⟩ := shift.returned b j k returned
    have open_ := standing.ready b known opened
    rcases (shift.target _ t).1 target with old | ⟨b', left⟩ | looped
    · rw [open_.target] at old
      cases old
    · obtain ⟨known', _, here, moved⟩ := shift.left b' _ t left
      rw [(kept.cursors b known).alone b' known' here] at moved
      exact moved stays
    · exact Nat.not_lt.2 (shift.looped _ t looped).1 open_.below

theorem Kept.shift (kept : w.Kept log) (shift : Shift free w w' es) (marks : Marks w w' es) :
    w'.Kept (log ++ es) where
  standing := kept.footing.standing_shift shift marks
  cursors := kept.cursors_shift shift
  given := fun b j given => kept.given_shift shift given
  target := fun j t => by
    simp only [shift.target, kept.target, List.mem_append, exists_or]
    tauto
  forward := fun j k => by
    simp only [shift.forward, kept.forward, List.mem_append, exists_or]
  settled := fun j k forward => kept.settled_shift shift forward
  used := kept.used_shift shift
  rejoins := fun c known k scope => by
    simp only [List.mem_append, exists_or]
    rcases Nat.lt_or_ge c w.builders.size with before | new
    · rw [shift.scope c before] at scope
      exact (kept.rejoins c before k scope).imp .inl .inl
    · exact (shift.rejoins c new known k scope).2.imp .inr .inr
  branches := fun c b k among => by
    rcases List.mem_append.1 among with old | new
    · obtain ⟨known, scope⟩ := kept.branches c b k old
      exact ⟨Nat.lt_of_lt_of_le known shift.builders, (shift.scope c known).trans scope⟩
    · exact (shift.branches c b k new).2
  returned := fun b j k among => by
    have before : b < w.builders.size ∧ (w.builder b).scope = .branch (some k) := by
      rcases List.mem_append.1 among with old | new
      · exact kept.returned b j k old
      · obtain ⟨known, _, _, _, _, scope⟩ := shift.returned b j k new
        exact ⟨known, scope⟩
    exact ⟨Nat.lt_of_lt_of_le before.1 shift.builders, (shift.scope b before.1).trans before.2⟩
  edge := fun s t => by
    rw [marks.edge, kept.edge, List.mem_append]
  linked := by
    rw [List.filterMap_append, List.nodup_append]
    refine ⟨kept.linked, marks.once, ?_⟩
    rintro s old _ new rfl
    obtain ⟨e, among, same⟩ := List.mem_filterMap.1 old
    obtain ⟨e', among', same'⟩ := List.mem_filterMap.1 new
    cases e with
    | linked s' t =>
      obtain rfl : s' = s := Option.some.inj same
      cases e' with
      | linked s'' t' =>
        obtain rfl : s'' = s' := Option.some.inj same'
        exact marks.new s'' t' t among' ((kept.edge s'' t).2 among)
      | _ => cases same'
    | _ => cases same
  passed := fun s b among => by
    rcases List.mem_append.1 among with old | new
    · obtain ⟨j, k, returned, linked⟩ := kept.passed s b old
      exact ⟨j, k, List.mem_append_left _ returned, fun F ends => linked F (marks.endsAs F ends)⟩
    · obtain ⟨j, k, returned, linked⟩ := marks.passed s b new
      exact ⟨j, k, List.mem_append_right _ returned, linked⟩
  last := (kept.footing.shift shift marks).last

/-! ### Owners -/

/-- Where no builder is free, no more branches can be opened. -/
theorem Given.of_shift {j : Nat} (given : w'.Given (log ++ es) b j)
    (shift : Shift (fun _ => False) w w' es) : w.Given log b j := by
  rcases given with offers | ⟨c, among⟩
  · exact .inl ((shift.given b j (.inl offers)).resolve_right fun ⟨_, idle, _⟩ => idle)
  · rcases List.mem_append.1 among with old | new
    · exact .inr ⟨c, old⟩
    · exact .inl ((shift.given b j (.inr ⟨c, new⟩)).resolve_right fun ⟨_, idle, _⟩ => idle)

/-- The owner of a join point stands there and is free to go on, or it has left or returned. -/
def Waited (free : Nat → Prop) (w : Workspace) (log : List Event) : Prop :=
  ∀ b j, w.Given log b j → (free b ∧ (w.builder b).cursor = j) ∨ (∃ t, .left b j t ∈ log) ∨
    ∃ k, .returned b j k ∈ log

theorem Waited.mono {free' : Nat → Prop} (waited : Waited free w log) (more : ∀ b, free b → free' b) :
    Waited free' w log := by
  intro b j given
  exact (waited b j given).imp_left fun ⟨idle, here⟩ => ⟨more b idle, here⟩

theorem Waited.shift (waited : Waited free w log) (kept : w.Kept log)
    (shift : Shift free w w' es) : Waited free w' (log ++ es) := by
  intro b j given
  have stands : b < w.builders.size → free b → (w.builder b).cursor = j →
      (free b ∧ (w'.builder b).cursor = j) ∨ ∃ t, .left b j t ∈ es := by
    rintro known idle rfl
    exact (shift.stays b known idle).imp_left fun same => ⟨idle, same⟩
  have before : w.Given log b j ∨ b < w.builders.size ∧ free b ∧ (w.builder b).cursor = j := by
    rcases given with offers | ⟨c, among⟩
    · exact (shift.given b j (.inl offers)).imp_left .inl
    · rcases List.mem_append.1 among with old | new
      · exact .inl (.inr ⟨c, old⟩)
      · exact (shift.given b j (.inr ⟨c, new⟩)).imp_left .inl
  simp only [List.mem_append, exists_or]
  rcases before with old | ⟨known, idle, here⟩
  · rcases waited b j old with ⟨idle, here⟩ | left | returned
    · rcases stands (kept.given b j old).known idle here with now | left
      · exact .inl now
      · exact .inr (.inl (.inr left))
    · exact .inr (.inl (.inl left))
    · exact .inr (.inr (.inl returned))
  · rcases stands known idle here with now | left
    · exact .inl now
    · exact .inr (.inl (.inr left))

/-- What the history of a flow tells, with the loops that are not closed. -/
structure Told (w : Workspace) (loops : List OpenLoop) (log : List Event) : Prop where
  kept : w.Kept log
  waited : Waited (Free loops) w log
  known : ∀ l ∈ loops, l.builder < w.builders.size

theorem told_start {flow : String} (started : Workspace.start flow = .ok w) : w.Told [] [] := by
  have sound := sound_start started
  have made := start_eq started
  have builder (i : Nat) : w.builder i = { cursor := 0 } := by
    rw [made]
    rcases i with _ | i
    · rfl
    · rfl
  have get (i : Nat) : w.joins.get i = {} := by
    rw [made]
    rcases i with _ | i
    · rfl
    · exact Joins.get_above (Nat.succ_le_succ (Nat.zero_le i))
  have builders : w.builders.size = 1 := by rw [made]; rfl
  have joins : w.joins.size = 1 := by rw [made]; rfl
  have sets : w.sets.size = 0 := by rw [made]; rfl
  have nodes : w.graph.toList = [] := by rw [made]; rfl
  have none (b j : Nat) : ¬ w.Given [] b j := by
    rintro (⟨i, below, _⟩ | ⟨c, among⟩)
    · omega
    · cases among
  have empty (s : Slot) (x : Option String) : ¬ w.graph.Edge s x := by
    rintro ⟨n, member, _⟩
    rw [nodes] at member
    cases member
  have wired : w.Wired [] :=
    ⟨sound, by simp [get], List.nodup_nil, by simp, fun s edge => absurd edge (empty s _)⟩
  have stood : Stood w [] 0 0 :=
    ⟨by omega, by omega, fun b' known _ => by omega, by simp, by simp, by simp⟩
  have unscoped (b k : Nat) : (w.builder b).scope ≠ .branch (some k) := by
    rw [builder]
    nofun
  have standing : w.Standing :=
    { wired := wired
      below := fun b _ => by rw [builder, joins]; exact Nat.zero_lt_one
      ready := fun b _ _ => by
        rw [builder]
        exact ⟨Nat.lt_of_lt_of_eq Nat.zero_lt_one joins.symm, by rw [get], by rw [get]⟩
      earlier := fun b _ k scope => absurd scope (unscoped b k)
      offered := fun b j offers => absurd (.inl offers) (none b j) }
  have kept : w.Kept [] :=
    { standing := standing
      cursors := fun b below => by
        obtain rfl : b = 0 := by omega
        rw [builder]
        exact stood
      given := fun b j given => absurd given (none b j)
      target := by simp [get]
      forward := by simp [get]
      settled := by simp [get]
      used := List.nodup_nil
      rejoins := fun c _ k scope => absurd scope (unscoped c k)
      branches := by simp
      returned := by simp
      edge := by simp [empty]
      linked := List.nodup_nil
      passed := by simp
      last := fun b node last => by
        rw [builder] at last
        cases last }
  exact ⟨kept, fun b j given => absurd given (none b j), by simp⟩

theorem Told.move (told : w.Told loops log) (move : Move loops w w' es) :
    w'.Told loops (log ++ es) := by
  obtain ⟨kept, waited, known⟩ := told
  obtain ⟨shift, marks⟩ := move.shift kept.standing kept.last
  exact ⟨kept.shift shift marks, waited.shift kept shift,
    fun l among => Nat.lt_of_lt_of_le (known l among) shift.builders⟩

/-- A builder stands no more at a join point that was given before it moved on and opened the body of
a loop. -/
theorem Kept.moved_on (kept : w.Kept log) {w₁ : Workspace} {es' : List Event} {j : Nat} {t : String}
    (known : b < w.builders.size) (left : .left b (w.builder b).cursor t ∈ es)
    (first : ∀ free, Shift free w w₁ es) (second : ∀ free, Shift free w₁ w' es')
    (given : w'.Given (log ++ es ++ es') b j) : (w'.builder b).cursor ≠ j := by
  intro here
  have before := (given.of_shift (second _)).of_shift (first _)
  have below := (kept.given b j before).below
  have first := first fun _ => False
  have second := second fun _ => False
  have moved := (first.left b _ t left).2.2.2
  have grow := first.builders
  have joins := first.joins
  have more := second.builders
  -- it stands where it went to, or farther on
  rcases second.stands b (by omega) with ⟨_, same⟩ | ⟨above, _⟩
  · rcases first.stands b (by omega) with ⟨_, same'⟩ | ⟨above, _⟩
    · exact absurd same' moved
    · omega
  · omega

theorem Told.openLoop (told : w.Told loops log) (known : b < w.builders.size)
    (opened : (w.builder b).status = .opened) {d : Draft} {n : Node} {g : Graph} {hint id : Value}
    (made : w.graph.newNode d.kind hint d.parameters id = .ok (n, g)) (o : OpenBranch) :
    ((w.placeNew b d n g).withBody n.handle).Told (⟨b, n.handle, o, false⟩ :: loops)
      (log ++ (.left b (w.builder b).cursor n.id ::
          Event.links (w.joins.resolve (w.builder b).cursor n.id).2) ++
        [.looped (w.placeNew b d n g).joins.size n.id]) := by
  obtain ⟨kept, waited, known'⟩ := told
  have tidy := kept.standing.wired.sound.tidy
  -- the node that was placed, as it is when the body is opened
  obtain ⟨⟨g', grown, f, changed, alike⟩, _⟩ := placeNew_spec (b := b) tidy made
  have member : f (complete d n) ∈ (w.placeNew b d n g).graph.toList := by
    rw [changed.toList, grown.toList]
    exact List.mem_map_of_mem (List.mem_append_right _ (List.mem_singleton_self _))
  have handle : (f (complete d n)).handle = n.handle := by
    simp only [Node.handle, (alike _).id, (alike _).serial, complete]
  have name : (f (complete d n)).id = n.id := (alike _).id
  let w₁ := w.placeNew b d n g
  have placed (idle : Nat → Prop) : Shift idle w w₁ _ ∧ Marks w w₁ _ :=
    kept.standing.place known opened made
  have first (idle : Nat → Prop) := (placed idle).1
  have kept₁ := kept.shift (first (Free loops)) (placed (Free loops)).2
  have entered (idle : Nat → Prop) : Shift idle w₁ (w₁.withBody n.handle) [.looped w₁.joins.size n.id] ∧
      Marks w₁ (w₁.withBody n.handle) [.looped w₁.joins.size n.id] := by
    have body : Shift idle w₁ _ _ ∧ Marks w₁ _ _ := kept₁.standing.body member
    rwa [handle, name] at body
  have second (idle : Nat → Prop) := (entered idle).1
  have grow := Nat.le_trans (first (Free loops)).builders (second (Free loops)).builders
  refine ⟨kept₁.shift (second (Free loops)) (entered (Free loops)).2, ?_, ?_⟩
  · -- the builder of the loop is not free, but nothing returns to where it stands
    have waited₂ := (waited.shift kept (first (Free loops))).shift kept₁ (second (Free loops))
    intro b' j given
    refine (waited₂ b' j given).imp_left ?_
    rintro ⟨idle, here⟩
    refine ⟨fun l among => ?_, here⟩
    rcases List.mem_cons.1 among with rfl | before
    · rintro rfl
      exact absurd here (kept.moved_on known List.mem_cons_self first second given)
    · exact idle l before
  · intro l among
    rcases List.mem_cons.1 among with rfl | before
    · exact Nat.lt_of_lt_of_le known grow
    · exact Nat.lt_of_lt_of_le (known' l before) grow

theorem Told.closeLoop (told : w.Told loops log) {l : OpenLoop} (among : l ∈ loops)
    (current : l.givenUp = false) {n : Node} (member : n ∈ w.graph.toList)
    (here : n.serial = l.node.serial) :
    (w.withExit l.builder l.node.serial).Told (loops.erase l) log := by
  obtain ⟨kept, waited, known⟩ := told
  have busy : ¬ Free loops l.builder := fun idle => by
    have givenUp := idle l among rfl
    rw [current] at givenUp
    cases givenUp
  obtain ⟨shift, marks⟩ := kept.standing.exit (known l among) busy member
  rw [here] at shift marks
  have kept' := kept.shift shift marks
  have waited' := waited.shift kept shift
  rw [List.append_nil] at kept' waited'
  refine ⟨kept', waited'.mono fun b idle l' still => idle l' (List.mem_of_mem_erase still),
    fun l' still => ?_⟩
  exact Nat.lt_of_lt_of_le (known l' (List.mem_of_mem_erase still)) shift.builders

theorem Told.giveUp (told : w.Told loops log) {l : OpenLoop} (among : l ∈ loops) :
    w.Told ({ l with givenUp := true } :: loops.erase l) log := by
  obtain ⟨kept, waited, known⟩ := told
  refine ⟨kept, waited.mono fun b idle l' still => ?_, fun l' still => ?_⟩
  · rcases List.mem_cons.1 still with rfl | before
    · exact fun _ => rfl
    · exact idle l' (List.mem_of_mem_erase before)
  · rcases List.mem_cons.1 still with rfl | before
    · exact known l among
    · exact known l' (List.mem_of_mem_erase before)

theorem told_of_history (history : History w loops log) : w.Told loops log := by
  induction history with
  | start started => exact told_start started
  | move _ move told => exact told.move move
  | openLoop _ known _ opened made o told => exact told.openLoop known opened made o
  | closeLoop _ among current member here told => exact told.closeLoop among current member here
  | giveUp _ among told => exact told.giveUp among

/-! ### Main result -/

theorem Kept.leads (kept : w.Kept log) {j : Nat} {t : String} (leaves : Leaves log b j t) :
    w.present.leads j = some t := by
  have descends := kept.standing.wired.sound.descends
  induction leaves with
  | @onward b j t left => exact present_target ((kept.target j t).2 (.inl ⟨b, left⟩))
  | @outward b j owner k t returned _ _ ih =>
    have forward := (kept.forward j k).2 ⟨b, returned⟩
    rw [present_forward descends (kept.settled j k forward) forward, ih]
  | @around b j k t returned looped =>
    have forward := (kept.forward j k).2 ⟨b, returned⟩
    rw [present_forward descends (kept.settled j k forward) forward]
    exact present_target ((kept.target k t).2 (.inr looped))

theorem Kept.leaves (kept : w.Kept log) {j : Nat} (stood : Stood w log b j) {t : String}
    (leads : w.present.leads j = some t) : Leaves log b j t := by
  have descends := kept.standing.wired.sound.descends
  induction j using Nat.strongRecOn generalizing b with
  | ind j ih =>
    cases target : (w.joins.get j).target with
    | some t' =>
      rw [present_target target] at leads
      cases leads
      rcases (kept.target j t).1 target with ⟨b', left⟩ | looped
      · obtain rfl := stood.left b' t left
        exact .onward left
      · exact absurd looped (stood.looped t)
    | none =>
      cases forward : (w.joins.get j).forward with
      | none =>
        rw [present_open target forward] at leads
        cases leads
      | some k =>
        rw [present_forward descends target forward] at leads
        obtain ⟨b', returned⟩ := (kept.forward j k).1 forward
        obtain rfl := stood.returned b' k returned
        obtain ⟨known, scope⟩ := kept.returned b' j k returned
        rcases kept.rejoins b' known k scope with ⟨t', looped⟩ | ⟨owner, opened⟩
        · rw [present_target ((kept.target k t').2 (.inr looped))] at leads
          cases leads
          exact .around returned looped
        · have outer := kept.given owner k (.inr ⟨b', opened⟩)
          exact .outward returned opened (ih k (descends j k forward) outer leads)

/-- The edges that a branch takes back to its owner are linked to what the owner leaves for. -/
theorem Kept.rejoined (kept : w.Kept log) {c k : Nat} (opened : .opened c b k ∈ log) {s : Slot}
    (passed : .passed s c ∈ log) (t : String) : w.graph.Edge s (some t) ↔ Leaves log b k t := by
  have sound := kept.standing.wired.sound
  obtain ⟨j, k', returned, linked⟩ := kept.passed s c passed
  have scope := (kept.returned c j k' returned).2
  rw [(kept.branches c b k opened).2] at scope
  obtain rfl : k = k' := by simpa using scope
  have edge : w.graph.Edge s (w.present.leads k) := linked _ (endsAs_present sound)
  -- the owner alone decides where its join point leads
  have stood := kept.given b k (.inr ⟨c, opened⟩)
  constructor
  · intro now
    exact kept.leaves stood (edge.unique sound.tidy now)
  · intro leaves
    rwa [kept.leads leaves] at edge

theorem acyclic_forwards (descends : w.joins.Descends) (j : Nat) :
    ¬ Relation.TransGen (fun i k => (w.joins.get i).forward = some k) j j := by
  have lower {i k : Nat}
      (onward : Relation.TransGen (fun i k => (w.joins.get i).forward = some k) i k) : k < i := by
    induction onward with
    | single forward => exact descends _ _ forward
    | tail _ forward ih => exact Nat.lt_trans (descends _ _ forward) ih
  exact fun circle => Nat.lt_irrefl j (lower circle)

/-- However a session goes, it has a history. -/
theorem Session.history {asks : Action → Prop} (session : Session asks w loops) :
    ∃ log, History w loops log := by
  induction session with
  | start started => exact ⟨[], .start started⟩
  | append _ known free _ _ _ label id ih =>
    obtain ⟨log, history⟩ := ih
    exact history.moves (moves_append known free _ label id)
  | appendBranching _ known free _ _ label id ih =>
    obtain ⟨log, history⟩ := ih
    exact history.moves (moves_appendBranching known free _ label id)
  | openBranch session known branch ih =>
    obtain ⟨log, history⟩ := ih
    exact history.moves (moves_openBranch session.fit.orderly known branch)
  | openHandler _ known free name ih =>
    obtain ⟨log, history⟩ := ih
    exact history.moves (moves_openHandler known free ((told_of_history history).kept.last _) name)
  | openLoop _ known free _ opened ih =>
    obtain ⟨log, history⟩ := ih
    exact history.openLoop_call known free opened
  | closeLoop session among current free closed ih =>
    obtain ⟨log, history⟩ := ih
    obtain ⟨n, member, here, _⟩ := session.fit.open_loops _ among
    exact history.closeLoop_call among current free member here closed
  | giveUp _ among ih =>
    obtain ⟨log, history⟩ := ih
    exact ⟨log, history.giveUp among⟩
  | jumpTo _ known free target ih =>
    obtain ⟨log, history⟩ := ih
    exact history.moves (moves_jumpTo known free target)
  | thenContinue _ known free ih =>
    obtain ⟨log, history⟩ := ih
    exact history.moves (moves_thenContinue known free)

/-- Every session has a history, and whatever it is: a join point is resolved or forwarded once, and
forwards do not run in a circle; an edge is linked once, and one that is handed out waits at one join
point until then; the owner of a join point to which a branch may return stands there or has left it,
and the edges that the branch takes back are linked to the target for which the owner leaves it. -/
theorem joinPoints_of_session {asks : Action → Prop} (session : Session asks w loops) :
    (∃ log, History w loops log) ∧ ∀ log, History w loops log →
      ((log.filterMap Event.used?).Nodup ∧
        ∀ j, ¬ Relation.TransGen (fun i k => (w.joins.get i).forward = some k) j j) ∧
      ((log.filterMap Event.linked?).Nodup ∧
        (∀ s t, .linked s t ∈ log ↔ w.graph.Edge s (some t)) ∧
        ∀ s, w.graph.Edge s none → w.graph.HandsOut s → ∃! j, s ∈ (w.joins.get j).waiting) ∧
      ∀ c b k, .opened c b k ∈ log →
        ((w.builder b).cursor = k ∨ (∃ t, .left b k t ∈ log) ∨ ∃ j, .returned b k j ∈ log) ∧
        ∀ s, .passed s c ∈ log → ∀ t, w.graph.Edge s (some t) ↔ Leaves log b k t := by
  refine ⟨session.history, fun log history => ?_⟩
  obtain ⟨kept, waited, _⟩ := told_of_history history
  have wired := kept.standing.wired
  refine ⟨⟨kept.used, acyclic_forwards wired.sound.descends⟩,
    ⟨kept.linked, fun s t => (kept.edge s t).symm, ?_⟩, ?_⟩
  · intro s open_ handsOut
    obtain ⟨j, waits⟩ := (wired.waits s open_ handsOut).resolve_left List.not_mem_nil
    exact ⟨j, waits, fun j' waits' => wired.sound.apart j' j s waits' waits⟩
  · intro c b k opened
    exact ⟨(waited b k (.inr ⟨c, opened⟩)).imp_left And.right,
      fun s passed t => kept.rejoined opened passed t⟩

namespace Hours

def opening : Workspace :=
  { flow := "hours", graph := { name := "hours" }, joins := #[{}], builders := #[{ cursor := 0 }] }

/-- Two branches that return to the flow, the second one after the flow has gone on. -/
def workspace : Workspace :=
  let w := (Builder.appendBranching 0 (.checkHours (.text "MainHours")) .null .null opening).2
  let w := (Builder.openBranch 0 .inHours w).2
  let w := (Builder.thenContinue 1 w).2
  let w := (Builder.append 0 .disconnect .null .null w).2
  let w := (Builder.openBranch 0 .outOfHours w).2
  (Builder.thenContinue 2 w).2

theorem session : Session (fun _ => True) workspace [] := by
  have started : Workspace.start "hours" = .ok opening := Workspace.start_named (by decide +kernel)
  have begun : Session (fun _ => True) opening [] := .start started
  have asked := begun.appendBranching (by decide +kernel) (free_nil 0)
    (a := .checkHours (.text "MainHours")) trivial (by decide) .null .null
  have early := asked.openBranch (i := 0) (by decide +kernel) .inHours
  have returned := early.thenContinue (by decide +kernel) (free_nil 1)
  have ended := returned.append (by decide +kernel) (free_nil 0) (a := .disconnect) trivial rfl
    ActionKind.noConfusion .null .null
  have late := ended.openBranch (i := 0) (by decide +kernel) .outOfHours
  exact late.thenContinue (by decide +kernel) (free_nil 2)

end Hours

/-- Both branches lead to where the call ends. -/
theorem joinPoints_of_hours : ∃ log, History Hours.workspace [] log ∧
    (log.filterMap Event.used?).Nodup ∧ (log.filterMap Event.linked?).Nodup ∧
    .linked (.condition 0 0) "disconnect" ∈ log ∧ .linked (.condition 0 1) "disconnect" ∈ log := by
  obtain ⟨⟨log, history⟩, told⟩ := joinPoints_of_session Hours.session
  obtain ⟨⟨used, _⟩, ⟨linked, edges, _⟩, _⟩ := told log history
  have leads (i : Nat) (below : i < 2) :
      ∃ n ∈ Hours.workspace.graph.toList, n.serial = 0 ∧
        (n.transitions.conditions[i]?.map (·.target)) = some (some "disconnect") := by
    revert i
    decide +kernel
  exact ⟨log, history, used, linked, (edges _ _).2 (leads 0 (by decide)),
    (edges _ _).2 (leads 1 (by decide))⟩

end Workspace

end ContactFlow
