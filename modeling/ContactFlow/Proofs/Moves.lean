import ContactFlow.Proofs.History
import ContactFlow.Proofs.Waiting

/-!
What a move does. Every move shifts the builders and the join points in the same few ways: a builder
goes to a new join point, a builder returns to an outer one, or a branch is opened at a new one.
-/

namespace ContactFlow

namespace Event

variable {l : List (Slot × String)}

@[simp] theorem mem_links {e : Event} : e ∈ links l ↔ ∃ s t, (s, t) ∈ l ∧ .linked s t = e := by
  simp [links]

theorem used_links (l : List (Slot × String)) : (links l).filterMap used? = [] := by
  simp [links, used?]

theorem linked_links (l : List (Slot × String)) : (links l).filterMap linked? = l.map Prod.fst := by
  induction l with
  | nil => rfl
  | cons e rest ih => exact congrArg (e.1 :: ·) ih

end Event

namespace Workspace

open Event (links)

variable {w w' : Workspace} {free : Nat → Prop} {es : List Event} {b : Nat}

/-- A set of branches rejoins the flow at a join point of the builder. -/
def Offers (w : Workspace) (b j : Nat) : Prop :=
  ∃ i < w.sets.size, (w.branches i).builder = b ∧ (w.branches i).join = j

/-- What a move does to the builders and the join points, and what it adds to the history. -/
structure Shift (free : Nat → Prop) (w w' : Workspace) (es : List Event) : Prop where
  builders : w.builders.size ≤ w'.builders.size
  joins : w.joins.size ≤ w'.joins.size
  scope : ∀ b < w.builders.size, (w'.builder b).scope = (w.builder b).scope
  closed : ∀ b < w.builders.size, (w'.builder b).status = .opened → (w.builder b).status = .opened
  stands : ∀ b < w'.builders.size,
    (b < w.builders.size ∧ (w'.builder b).cursor = (w.builder b).cursor) ∨
      w.joins.size ≤ (w'.builder b).cursor ∧ w'.joins.IsOpen (w'.builder b).cursor
  apart : ∀ b < w'.builders.size, w.joins.size ≤ (w'.builder b).cursor →
    ∀ b' < w'.builders.size, (w'.builder b').cursor = (w'.builder b).cursor → b' = b
  rejoins : ∀ c, w.builders.size ≤ c → c < w'.builders.size →
    ∀ k, (w'.builder c).scope = .branch (some k) →
      k < (w'.builder c).cursor ∧ ((∃ t, .looped k t ∈ es) ∨ ∃ b, .opened c b k ∈ es)
  branches : ∀ c b k, .opened c b k ∈ es → w.builders.size ≤ c ∧ c < w'.builders.size ∧
    (w'.builder c).scope = .branch (some k)
  given : ∀ b j, (w'.Offers b j ∨ ∃ c, .opened c b j ∈ es) →
    w.Offers b j ∨ b < w.builders.size ∧ free b ∧ (w.builder b).cursor = j
  left : ∀ b j t, .left b j t ∈ es → b < w.builders.size ∧ (w.builder b).status = .opened ∧
    (w.builder b).cursor = j ∧ (w'.builder b).cursor ≠ j
  returned : ∀ b j k, .returned b j k ∈ es → b < w.builders.size ∧
    (w.builder b).status = .opened ∧ (w.builder b).cursor = j ∧
    (w'.builder b).status ≠ .opened ∧ (w'.builder b).cursor = j ∧
    (w.builder b).scope = .branch (some k)
  looped : ∀ j t, .looped j t ∈ es → w.joins.size ≤ j ∧
    ∀ b < w'.builders.size, (w'.builder b).cursor ≠ j
  used : (es.filterMap Event.used?).length ≤ 1
  target : ∀ j t, (w'.joins.get j).target = some t ↔
    (w.joins.get j).target = some t ∨ (∃ b, .left b j t ∈ es) ∨ .looped j t ∈ es
  forward : ∀ j k, (w'.joins.get j).forward = some k ↔
    (w.joins.get j).forward = some k ∨ ∃ b, .returned b j k ∈ es
  stays : ∀ b < w.builders.size, free b → (w'.builder b).cursor = (w.builder b).cursor ∨
    ∃ t, .left b (w.builder b).cursor t ∈ es
  last : ∀ b node, (w'.builder b).last = some node →
    (w.builder b).last = some node ∨ ∃ n ∈ w'.graph.toList, n.serial = node.serial

/-- What a move does to the edges: those that it links, it links once and for all. -/
structure Marks (w w' : Workspace) (es : List Event) : Prop where
  wired : w'.Wired []
  edge : ∀ s t, w'.graph.Edge s (some t) ↔ w.graph.Edge s (some t) ∨ .linked s t ∈ es
  new : ∀ s t u, .linked s t ∈ es → ¬ w.graph.Edge s (some u)
  once : (es.filterMap Event.linked?).Nodup
  nodes : ∀ n ∈ w.graph.toList, ∃ n' ∈ w'.graph.toList, n'.serial = n.serial
  endsAs : ∀ F, w'.EndsAs F → w.EndsAs F
  passed : ∀ s b, .passed s b ∈ es → ∃ j k, .returned b j k ∈ es ∧
    ∀ F, w'.EndsAs F → F.graph.Edge s (F.leads k)

/-! ### Builders and join points -/

theorem builder_set (known : b < w.builders.size) {x : Builder}
    (builders : w'.builders = w.builders.setIfInBounds b x) (i : Nat) :
    w'.builder i = if i = b then x else w.builder i := by
  unfold builder
  rw [builders]
  by_cases here : i = b
  · subst here
    simp [known]
  · simp [here, Ne.symm here]

/-- What the new state of a builder has of the old one is the same for all builders. -/
theorem builder_same {α : Type} (f : Builder → α) (known : b < w.builders.size) {x : Builder}
    (builders : w'.builders = w.builders.setIfInBounds b x) (same : f x = f (w.builder b)) (i : Nat) :
    f (w'.builder i) = f (w.builder i) := by
  rw [builder_set known builders]
  split
  · rename_i here
    rw [here, same]
  · rfl

/-- A builder that is set to a new join point stands there alone. -/
theorem stands_moved (below : ∀ i < w.builders.size, (w.builder i).cursor < w.joins.size)
    (known : b < w.builders.size) {x : Builder}
    (builders : w'.builders = w.builders.setIfInBounds b x) (cursor : x.cursor = w.joins.size)
    (open_ : w'.joins.IsOpen w.joins.size) :
    (∀ i < w'.builders.size, (i < w.builders.size ∧ (w'.builder i).cursor = (w.builder i).cursor) ∨
      w.joins.size ≤ (w'.builder i).cursor ∧ w'.joins.IsOpen (w'.builder i).cursor) ∧
    ∀ i < w'.builders.size, w.joins.size ≤ (w'.builder i).cursor →
      ∀ i' < w'.builders.size, (w'.builder i').cursor = (w'.builder i).cursor → i' = i := by
  have builder := builder_set known builders
  have here : w'.builder b = x := by rw [builder, if_pos rfl]
  have same : w'.builders.size = w.builders.size := by
    rw [builders, Array.size_setIfInBounds]
  rw [same]
  constructor
  · intro i known'
    rw [builder]
    split
    · rw [cursor]
      exact .inr ⟨Nat.le_refl _, open_⟩
    · exact .inl ⟨known', rfl⟩
  · intro i known' above i' known'' alike
    by_cases moved : i = b
    · -- no other builder stands at a join point that was not there
      subst moved
      by_contra other
      rw [here, cursor, builder, if_neg other] at alike
      exact absurd alike (Nat.ne_of_lt (below i' known''))
    · rw [builder, if_neg moved] at above
      exact absurd (below i known') (Nat.not_lt.2 above)

theorem offers_same (sets : w'.sets = w.sets) {j : Nat} (offers : w'.Offers b j) : w.Offers b j := by
  unfold Offers Workspace.branches at offers ⊢
  rwa [sets] at offers

theorem builder_push {x : Builder} (builders : w'.builders = w.builders.push x) (i : Nat) :
    w'.builder i = if i = w.builders.size then x else w.builder i := by
  unfold builder
  rw [builders]
  by_cases here : i = w.builders.size
  · subst here
    simp
  · simp [Array.getElem?_push, here]

/-- A builder is set, and no branch is opened. -/
theorem shift_set (known : b < w.builders.size) {x : Builder}
    (builders : w'.builders = w.builders.setIfInBounds b x) (scope : x.scope = (w.builder b).scope)
    (status : x.status = .opened → (w.builder b).status = .opened)
    (last : ∀ node, x.last = some node →
      (w.builder b).last = some node ∨ ∃ n ∈ w'.graph.toList, n.serial = node.serial)
    (sets : w'.sets = w.sets) (joins : w.joins.size ≤ w'.joins.size)
    (stands : ∀ i < w'.builders.size,
      (i < w.builders.size ∧ (w'.builder i).cursor = (w.builder i).cursor) ∨
        w.joins.size ≤ (w'.builder i).cursor ∧ w'.joins.IsOpen (w'.builder i).cursor)
    (apart : ∀ i < w'.builders.size, w.joins.size ≤ (w'.builder i).cursor →
      ∀ i' < w'.builders.size, (w'.builder i').cursor = (w'.builder i).cursor → i' = i)
    (unopened : ∀ c i k, .opened c i k ∉ es) (unlooped : ∀ j t, .looped j t ∉ es)
    (left : ∀ i j t, .left i j t ∈ es →
      i = b ∧ (w.builder b).status = .opened ∧ (w.builder b).cursor = j ∧ x.cursor ≠ j)
    (returned : ∀ i j k, .returned i j k ∈ es →
      i = b ∧ (w.builder b).status = .opened ∧ (w.builder b).cursor = j ∧ x.status ≠ .opened ∧
        x.cursor = j ∧ (w.builder b).scope = .branch (some k))
    (used : (es.filterMap Event.used?).length ≤ 1)
    (target : ∀ j t, (w'.joins.get j).target = some t ↔
      (w.joins.get j).target = some t ∨ ∃ i, .left i j t ∈ es)
    (forward : ∀ j k, (w'.joins.get j).forward = some k ↔
      (w.joins.get j).forward = some k ∨ ∃ i, .returned i j k ∈ es)
    (stays : free b → x.cursor = (w.builder b).cursor ∨
      ∃ t, .left b (w.builder b).cursor t ∈ es) : Shift free w w' es := by
  have builder := builder_set known builders
  have here : w'.builder b = x := by rw [builder, if_pos rfl]
  have same : w'.builders.size = w.builders.size := by
    rw [builders, Array.size_setIfInBounds]
  refine
    { builders := Nat.le_of_eq same.symm
      joins := joins
      scope := fun i _ => builder_same (·.scope) known builders scope i
      closed := ?closed
      stands := stands
      apart := apart
      rejoins := ?rejoins
      branches := fun c i k among => absurd among (unopened c i k)
      given := ?given
      left := ?left
      returned := ?returned
      looped := fun j t among => absurd among (unlooped j t)
      used := used
      target := ?target
      forward := forward
      stays := ?stays
      last := ?last }
  case closed =>
    intro i _ still
    rw [builder] at still
    split at still
    · rename_i same
      rw [same]
      exact status still
    · exact still
  case rejoins =>
    intro c above known' k _
    omega
  case given =>
    rintro i j (offers | ⟨c, among⟩)
    · exact .inl (offers_same sets offers)
    · exact absurd among (unopened c i j)
  case left =>
    intro i j t among
    obtain ⟨rfl, opened, cursor, gone⟩ := left i j t among
    rw [here]
    exact ⟨known, opened, cursor, gone⟩
  case returned =>
    intro i j k among
    obtain ⟨rfl, opened, cursor, status, cursor', scope⟩ := returned i j k among
    rw [here]
    exact ⟨known, opened, cursor, status, cursor', scope⟩
  case target =>
    intro j t
    simp [target, unlooped]
  case stays =>
    intro i _ idle
    rw [builder]
    split
    · rename_i same
      subst same
      exact stays idle
    · exact .inl rfl
  case last =>
    intro i node found
    rw [builder] at found
    split at found
    · rename_i same
      subst same
      exact last node found
    · exact .inl found

/-- A builder goes to a new join point, and leads what waits at the old one to a target. -/
theorem shift_left (below : ∀ i < w.builders.size, (w.builder i).cursor < w.joins.size)
    (known : b < w.builders.size) (opened : (w.builder b).status = .opened)
    (open_ : w.joins.IsOpen (w.builder b).cursor) {x : Builder} {target : String}
    {waiting : List Slot} (builders : w'.builders = w.builders.setIfInBounds b x)
    (cursor : x.cursor = w.joins.size) (scope : x.scope = (w.builder b).scope)
    (size : w'.joins.size = w.joins.size + 1)
    (get : ∀ i, w'.joins.get i = if i = w.joins.size then { waiting } else
      if i = (w.builder b).cursor then
        { w.joins.get (w.builder b).cursor with waiting := [], target := some target }
      else w.joins.get i)
    (sets : w'.sets = w.sets)
    (last : ∀ node, x.last = some node → ∃ n ∈ w'.graph.toList, n.serial = node.serial)
    (l : List (Slot × String)) :
    Shift free w w' (.left b (w.builder b).cursor target :: links l) := by
  have fresh : w'.joins.get w.joins.size = { waiting } := by rw [get, if_pos rfl]
  obtain ⟨stands, apart⟩ := stands_moved below known builders cursor
    ⟨by omega, by rw [fresh], by rw [fresh]⟩
  refine shift_set known builders scope (fun _ => opened) (fun node found => .inr (last node found))
    sets (by omega) stands apart (by simp) (by simp) ?left (by simp) ?used ?target ?forward
    fun _ => .inr ⟨target, List.mem_cons_self⟩
  case left =>
    intro i j t among
    obtain ⟨rfl, rfl, rfl⟩ : i = b ∧ j = (w.builder b).cursor ∧ t = target := by simpa using among
    rw [cursor]
    exact ⟨rfl, opened, rfl, Nat.ne_of_gt (below i known)⟩
  case used =>
    simp [Event.used?, Event.used_links]
  case target =>
    intro j t
    rw [get]
    split
    · rename_i new
      subst new
      have apart := Nat.ne_of_gt (below b known)
      simp [Joins.get_above (Nat.le_refl _), apart]
    · split
      · rename_i used
        subst used
        simp [open_.target, eq_comm]
      · rename_i apart
        simp [apart]
  case forward =>
    intro j k
    rw [get]
    split
    · rename_i new
      subst new
      simp [Joins.get_above (Nat.le_refl _)]
    · split
      · rename_i used
        subst used
        simp
      · simp

/-- A builder goes to a new join point, and leaves the old one as it is. -/
theorem shift_moved (below : ∀ i < w.builders.size, (w.builder i).cursor < w.joins.size)
    (known : b < w.builders.size) (busy : ¬ free b) {x : Builder} {waiting : List Slot}
    (builders : w'.builders = w.builders.setIfInBounds b x) (cursor : x.cursor = w.joins.size)
    (scope : x.scope = (w.builder b).scope) (status : x.status = (w.builder b).status)
    (last : x.last = (w.builder b).last) (joins : w'.joins = w.joins.push { waiting })
    (sets : w'.sets = w.sets) : Shift free w w' [] := by
  have size : w'.joins.size = w.joins.size + 1 := by rw [joins, Array.size_push]
  have fresh : w'.joins.get w.joins.size = { waiting } := by rw [joins, Joins.get_push, if_pos rfl]
  obtain ⟨stands, apart⟩ := stands_moved below known builders cursor
    ⟨by omega, by rw [fresh], by rw [fresh]⟩
  refine shift_set known builders scope (fun still => status.symm.trans still)
    (fun node found => .inl (last.symm.trans found)) sets (by omega) stands apart (by simp) (by simp)
    (by simp) (by simp) (by simp) ?target ?forward fun idle => absurd idle busy
  case target =>
    intro j t
    simp [joins, (Joins.kept_push w.joins waiting j).1]
  case forward =>
    intro j k
    simp [joins, (Joins.kept_push w.joins waiting j).2]

/-- A builder returns to an outer join point. -/
theorem shift_returned (below : ∀ i < w.builders.size, (w.builder i).cursor < w.joins.size)
    (known : b < w.builders.size) (opened : (w.builder b).status = .opened) {k : Nat}
    (scope : (w.builder b).scope = .branch (some k)) {x : Builder}
    (builders : w'.builders = w.builders.setIfInBounds b x)
    (cursor : x.cursor = (w.builder b).cursor) (scope' : x.scope = (w.builder b).scope)
    (status : x.status ≠ .opened) (last : x.last = (w.builder b).last)
    (size : w'.joins.size = w.joins.size)
    (target : ∀ i, (w'.joins.get i).target = (w.joins.get i).target)
    (forward : ∀ i, (w'.joins.get i).forward =
      if i = (w.builder b).cursor then some k else (w.joins.get i).forward)
    (stays : (w.joins.get (w.builder b).cursor).forward = none)
    (sets : w'.sets = w.sets) (along : List Slot) (l : List (Slot × String)) :
    Shift free w w' (.returned b (w.builder b).cursor k :: (along.map (.passed · b) ++ links l)) := by
  have same : w'.builders.size = w.builders.size := by
    rw [builders, Array.size_setIfInBounds]
  have cursor' (i : Nat) : (w'.builder i).cursor = (w.builder i).cursor :=
    builder_same (·.cursor) known builders cursor i
  refine shift_set known builders scope' (fun still => absurd still status)
    (fun node found => .inl (last.symm.trans found)) sets (Nat.le_of_eq size.symm) ?stands ?apart
    (by simp) (by simp) (by simp) ?returned ?used ?target ?forward fun _ => .inl cursor
  case stands =>
    intro i known'
    exact .inl ⟨same ▸ known', cursor' i⟩
  case apart =>
    intro i known' above
    rw [cursor'] at above
    exact absurd (below i (same ▸ known')) (Nat.not_lt.2 above)
  case returned =>
    intro i j k' among
    obtain ⟨rfl, rfl, rfl⟩ : i = b ∧ j = (w.builder b).cursor ∧ k' = k := by simpa using among
    exact ⟨rfl, opened, rfl, status, cursor, scope⟩
  case used =>
    have silent : (along.map (Event.passed · b)).filterMap Event.used? = [] := by
      simp [Event.used?]
    simp [List.filterMap_append, silent, Event.used_links, Event.used?]
  case target =>
    intro j t
    simp [target]
  case forward =>
    intro j k'
    rw [forward]
    split
    · rename_i used
      subst used
      simp [stays, eq_comm]
    · rename_i apart
      simp [apart]

/-- A branch is opened, with a builder at a new join point. Its join point is one that was offered, or
a new one that leads back to a loop. -/
theorem shift_branch (below : ∀ i < w.builders.size, (w.builder i).cursor < w.joins.size)
    {x : Builder} (builders : w'.builders = w.builders.push x) (last : x.last = none)
    (sets : w'.sets = w.sets) (grow : w.joins.size < w'.joins.size)
    (fresh : w.joins.size ≤ x.cursor) (open_ : w'.joins.IsOpen x.cursor)
    (scope : ∀ k, x.scope = .branch (some k) → k < x.cursor ∧
      ((∃ t, .looped k t ∈ es) ∨ ∃ b, .opened w.builders.size b k ∈ es))
    (opened : ∀ c b k, .opened c b k ∈ es → c = w.builders.size ∧ x.scope = .branch (some k) ∧
      (w.Offers b k ∨ b < w.builders.size ∧ free b ∧ (w.builder b).cursor = k))
    (left : ∀ b j t, .left b j t ∉ es) (returned : ∀ b j k, .returned b j k ∉ es)
    (looped : ∀ j t, .looped j t ∈ es → w.joins.size ≤ j ∧ x.cursor ≠ j)
    (used : (es.filterMap Event.used?).length ≤ 1)
    (target : ∀ j t, (w'.joins.get j).target = some t ↔
      (w.joins.get j).target = some t ∨ .looped j t ∈ es)
    (forward : ∀ j, (w'.joins.get j).forward = (w.joins.get j).forward) : Shift free w w' es := by
  have builder := builder_push builders
  have size : w'.builders.size = w.builders.size + 1 := by rw [builders, Array.size_push]
  have here : w'.builder w.builders.size = x := by rw [builder, if_pos rfl]
  have old {i : Nat} (known : i < w.builders.size) : w'.builder i = w.builder i := by
    rw [builder, if_neg (Nat.ne_of_lt known)]
  have either {i : Nat} (known : i < w'.builders.size) : i < w.builders.size ∨ i = w.builders.size := by
    omega
  refine
    { builders := by omega
      joins := Nat.le_of_lt grow
      scope := ?scope
      closed := ?closed
      stands := ?stands
      apart := ?apart
      rejoins := ?rejoins
      branches := ?branches
      given := ?given
      left := ?left
      returned := ?returned
      looped := ?looped
      used := used
      target := ?target
      forward := ?forward
      stays := fun i known _ => .inl (by rw [old known])
      last := ?last }
  case scope =>
    intro i known
    rw [old known]
  case closed =>
    intro i known still
    rwa [old known] at still
  case stands =>
    intro i known
    rcases either known with before | rfl
    · exact .inl ⟨before, by rw [old before]⟩
    · rw [here]
      exact .inr ⟨fresh, open_⟩
  case apart =>
    intro i known above i' known' alike
    rcases either known with before | rfl
    · rw [old before] at above
      exact absurd (below i before) (Nat.not_lt.2 above)
    · rcases either known' with before | rfl
      · rw [old before, here] at alike
        have := below i' before
        omega
      · rfl
  case rejoins =>
    intro c above known k found
    rcases either known with before | rfl
    · exact absurd before (Nat.not_lt.2 above)
    · rw [here] at found ⊢
      exact scope k found
  case branches =>
    intro c i k among
    obtain ⟨rfl, found, _⟩ := opened c i k among
    rw [here]
    exact ⟨Nat.le_refl _, by omega, found⟩
  case given =>
    rintro i j (offers | ⟨c, among⟩)
    · exact .inl (offers_same sets offers)
    · exact (opened c i j among).2.2
  case left =>
    intro i j t among
    exact absurd among (left i j t)
  case returned =>
    intro i j k among
    exact absurd among (returned i j k)
  case looped =>
    intro j t among
    obtain ⟨above, apart⟩ := looped j t among
    refine ⟨above, fun i known => ?_⟩
    rcases either known with before | rfl
    · rw [old before]
      have := below i before
      omega
    · rwa [here]
  case target =>
    intro j t
    simp [target, left]
  case forward =>
    intro j k
    simp [forward, returned]
  case last =>
    intro i node found
    rw [builder] at found
    split at found
    · rw [last] at found
      cases found
    · exact .inl found

/-- Sets of branches may be added and changed, if they keep their join points. -/
theorem shift_sets (builders : w'.builders = w.builders) (joins : w'.joins = w.joins)
    (offers : ∀ b j, w'.Offers b j →
      w.Offers b j ∨ b < w.builders.size ∧ free b ∧ (w.builder b).cursor = j)
    (below : ∀ i < w.builders.size, (w.builder i).cursor < w.joins.size) : Shift free w w' [] := by
  have builder (i : Nat) : w'.builder i = w.builder i := by
    unfold Workspace.builder
    rw [builders]
  have size : w'.builders.size = w.builders.size := by rw [builders]
  refine
    { builders := Nat.le_of_eq size.symm
      joins := Nat.le_of_eq (by rw [joins])
      scope := ?scope
      closed := ?closed
      stands := ?stands
      apart := ?apart
      rejoins := ?rejoins
      branches := by simp
      given := ?given
      left := by simp
      returned := by simp
      looped := by simp
      used := by simp
      target := ?target
      forward := ?forward
      stays := fun i _ _ => .inl (by rw [builder])
      last := ?last }
  case scope =>
    intro i _
    rw [builder]
  case closed =>
    intro i _ still
    rwa [builder] at still
  case stands =>
    intro i known
    exact .inl ⟨size ▸ known, by rw [builder]⟩
  case apart =>
    intro i known above
    rw [builder] at above
    exact absurd (below i (size ▸ known)) (Nat.not_lt.2 above)
  case rejoins =>
    intro c above known
    omega
  case given =>
    intro i j given
    exact offers i j (by simpa using given)
  case target =>
    simp [joins]
  case forward =>
    simp [joins]
  case last =>
    intro i node found
    rw [builder] at found
    exact .inl found

/-! ### The moves -/

/-- What holds between moves: edges wait, and a builder that takes more stands at an open join point,
behind the one that it may return to. -/
structure Standing (w : Workspace) : Prop where
  wired : w.Wired []
  below : ∀ b < w.builders.size, (w.builder b).cursor < w.joins.size
  ready : ∀ b < w.builders.size, (w.builder b).status = .opened → w.joins.IsOpen (w.builder b).cursor
  earlier : ∀ b < w.builders.size, ∀ k, (w.builder b).scope = .branch (some k) →
    k < (w.builder b).cursor
  offered : ∀ b j, w.Offers b j → j < w.joins.size

theorem Links.marks {l : List (Slot × String)} (linked : Links w w' l) (wired : w'.Wired [])
    (told : ∀ s t, .linked s t ∈ es ↔ (s, t) ∈ l)
    (once : es.filterMap Event.linked? = l.map Prod.fst)
    (passed : ∀ s b, .passed s b ∈ es → ∃ j k, .returned b j k ∈ es ∧
      ∀ F, w'.EndsAs F → F.graph.Edge s (F.leads k)) : Marks w w' es where
  wired := wired
  edge := fun s t => (linked.edge s t).trans (or_congr_right (told s t).symm)
  new := fun s t u among => linked.new s t u ((told s t).1 among)
  once := by
    rw [once]
    exact linked.once
  nodes := linked.nodes
  endsAs := linked.endsAs
  passed := passed

/-- Edges that are linked after a builder has left its join point. -/
theorem Links.marks_left {l : List (Slot × String)} (linked : Links w w' l) (wired : w'.Wired [])
    (b j : Nat) (target : String) : Marks w w' (.left b j target :: links l) := by
  refine linked.marks wired (by simp) ?_ (by simp)
  rw [List.filterMap_cons_none rfl, Event.linked_links]

theorem Wired.leave {target : String} {waiting : List Slot} {x : Builder} (wired : w.Wired waiting) (open_ : w.joins.IsOpen (w.builder b).cursor) :
    Wired (w.leave b target waiting x) [] ∧
      Links w (w.leave b target waiting x) (w.joins.resolve (w.builder b).cursor target).2 := by
  obtain ⟨resolved, linked⟩ := wired.resolve open_ target
  obtain ⟨fresh, linked'⟩ := resolved.fresh
  have both := linked.trans linked'
  rw [List.append_nil] at both
  exact ⟨fresh.congr rfl rfl rfl, both.congr rfl rfl⟩

/-! ### Edges for branches -/

section Branch

variable {n : Node}

/-- An edge that is added to a node waits for the first action of its branch. -/
theorem Wired.branch (wired : w.Wired []) {f : Node → Node} {slot : Slot}
    (adds : Graph.AddsSlot f n slot) (member : n ∈ w.graph.toList) :
    Wired ((w.modifyNode n.serial f).freshJoin [slot]).2 [] ∧
      Links w ((w.modifyNode n.serial f).freshJoin [slot]).2 [] := by
  obtain ⟨added, linked⟩ := wired.modifyNode adds member
  obtain ⟨fresh, linked'⟩ := added.fresh
  exact ⟨fresh, linked.trans linked'⟩

theorem Wired.condition (wired : w.Wired []) (member : n ∈ w.graph.toList) (guard : Guard) :
    Wired ((w.addCondition n.serial guard).2.freshJoin [(w.addCondition n.serial guard).1]).2 [] ∧
      Links w ((w.addCondition n.serial guard).2.freshJoin [(w.addCondition n.serial guard).1]).2
        [] := by
  rw [addCondition_eq wired.sound member]
  exact wired.branch (Graph.addsSlot_plusCondition guard n) member

theorem Wired.error (wired : w.Wired []) (member : n ∈ w.graph.toList) (kind : ErrorKind) :
    Wired ((w.addError n.serial kind).2.freshJoin [(w.addError n.serial kind).1]).2 [] ∧
      Links w ((w.addError n.serial kind).2.freshJoin [(w.addError n.serial kind).1]).2 [] := by
  rw [addError_eq wired.sound member]
  exact wired.branch (Graph.addsSlot_plusError kind n) member

end Branch

/-! ### The body of a loop -/

section Body

theorem joins_withBody (w : Workspace) (node : Handle) :
    (w.withBody node).joins.size = w.joins.size + 2 :=
  (Array.size_push _).trans (congrArg (· + 1) (w.joins_withBack node.id))

theorem get_withBody (w : Workspace) (node : Handle) : ∃ slot, ∀ i,
    (w.withBody node).joins.get i = if i = w.joins.size + 1 then { waiting := [slot] }
      else if i = w.joins.size then { target := some node.id } else w.joins.get i := by
  let v := w.withBack node.id
  refine ⟨(v.addCondition node.serial (.equals Builder.continueLooping)).1, fun i => ?_⟩
  rw [← get_withBack w node.id, ← joins_withBack w node.id]
  exact get_freshJoin v _ i

theorem builders_withBody (w : Workspace) (node : Handle) : (w.withBody node).builders =
    w.builders.push { cursor := w.joins.size + 1, scope := .branch (some w.joins.size) } := by
  rw [← joins_withBack w node.id]
  exact congrArg (Array.push · _) (w.relinked_withBack node.id).2.1

theorem Wired.body (wired : w.Wired []) {n : Node} (member : n ∈ w.graph.toList) :
    (w.withBody n.handle).Wired [] ∧ Links w (w.withBody n.handle) [] := by
  have fresh : (w.freshJoin []).2.joins.get w.joins.size = {} := by
    rw [get_freshJoin, if_pos rfl]
  obtain ⟨wired₁, links₁⟩ := wired.fresh
  obtain ⟨wired₂, links₂⟩ := wired₁.resolve (w.isOpen_freshJoin []) n.id
  have silent : ((w.freshJoin []).2.joins.resolve w.joins.size n.id).2 = [] := by
    simp [Joins.resolve, fresh]
  rw [silent] at links₂
  obtain ⟨n₂, member₂, here⟩ := (links₁.trans links₂).nodes n member
  obtain ⟨wired₃, links₃⟩ := wired₂.condition member₂ (.equals Builder.continueLooping)
  rw [here] at wired₃ links₃
  exact ⟨wired₃.congr rfl rfl rfl, ((links₁.trans links₂).trans links₃).congr rfl rfl⟩

end Body

namespace Standing

theorem place (standing : w.Standing) (known : b < w.builders.size)
    (opened : (w.builder b).status = .opened) {d : Draft} {n : Node} {g : Graph} {hint id : Value}
    (made : w.graph.newNode d.kind hint d.parameters id = .ok (n, g)) :
    let es := .left b (w.builder b).cursor n.id ::
      links (w.joins.resolve (w.builder b).cursor n.id).2
    Shift free w (w.placeNew b d n g) es ∧ Marks w (w.placeNew b d n g) es := by
  have wired := standing.wired
  have open_ := standing.ready b known opened
  obtain ⟨grown, kind, _, bare⟩ := Graph.newNode_ok wired.sound.tidy made
  have grown := grown.modifyNode wired.sound.tidy (complete d) ⟨rfl, rfl⟩
  let g' := g.modifyNode n.serial (complete d)
  let w₀ : Workspace := { w with graph := g' }
  have added : w.withNode g' n.id = w₀ := withNode_grown (n := complete d n) wired.sound.tidy grown
  have known₀ : b < w₀.builders.size := known
  have open₀ : w₀.joins.IsOpen (w₀.builder b).cursor := open_
  obtain ⟨wired₀, linked₀⟩ := wired.grown grown bare
  have kind' : (complete d n).kind = d.kind := kind
  rw [kind'] at wired₀
  rw [placeNew, added, place_eq known₀]
  obtain ⟨left, linked⟩ := wired₀.leave open₀
  constructor
  · have builders := builders_leave w₀ b n.id
      (if d.kind.isTerminal || d.kind.isBranching then [] else [.next n.serial])
      { cursor := w₀.joins.size, last := some n.handle
        status := if d.kind.isTerminal then .terminated n.id else (w₀.builder b).status
        scope := (w₀.builder b).scope }
    refine shift_left standing.below known opened open_ builders rfl rfl
      (joins_leave w₀ ..) (get_leave open₀.below) (sets_leave w₀ ..) ?_ _
    intro node same
    obtain ⟨n', member, here⟩ := linked.nodes (complete d n) (by
      rw [show w₀.graph = g' from rfl, grown.toList]
      exact List.mem_append_right _ (List.mem_singleton_self _))
    cases same
    exact ⟨n', member, here⟩
  · have both := linked₀.trans linked
    exact both.marks_left left _ _ _

theorem jump (standing : w.Standing) (known : b < w.builders.size)
    (opened : (w.builder b).status = .opened)
    (last : ∀ node, (w.builder b).last = some node → ∃ n ∈ w.graph.toList, n.serial = node.serial)
    (target : String) :
    let es := .left b (w.builder b).cursor target ::
      links (w.joins.resolve (w.builder b).cursor target).2
    Shift free w (w.jumped b target) es ∧ Marks w (w.jumped b target) es := by
  have open_ := standing.ready b known opened
  obtain ⟨left, linked⟩ := standing.wired.leave open_
  rw [jumped_eq known]
  constructor
  · have builders := builders_leave w b target []
      { w.builder b with cursor := w.joins.size, status := .closed (.jumped target) }
    refine shift_left standing.below known opened open_ builders rfl rfl
      (joins_leave w ..) (get_leave open_.below) (sets_leave w ..) ?_ _
    intro node found
    obtain ⟨n, member, here⟩ := last node found
    obtain ⟨n', member', here'⟩ := linked.nodes n member
    exact ⟨n', member', here'.trans here⟩
  · exact linked.marks_left left _ _ _

/-- A branch is opened at a new join point. Nothing is linked. -/
theorem branch (standing : w.Standing) (linked : Links w w' []) (wired : w'.Wired []) {slot : Slot}
    {join : Option Nat} (joins : w'.joins = w.joins.push { waiting := [slot] })
    (builders : w'.builders =
      w.builders.push { cursor := w.joins.size, scope := .branch join })
    (sets : w'.sets = w.sets)
    (opens : (join = none ∧ es = []) ∨ ∃ k owner, join = some k ∧ k < w.joins.size ∧
      es = [.opened w.builders.size owner k] ∧
        (w.Offers owner k ∨ owner < w.builders.size ∧ free owner ∧ (w.builder owner).cursor = k)) :
    Shift free w w' es ∧ Marks w w' es := by
  have size : w'.joins.size = w.joins.size + 1 := by rw [joins, Array.size_push]
  have get (i : Nat) : w'.joins.get i =
      if i = w.joins.size then { waiting := [slot] } else w.joins.get i := by
    rw [joins]
    exact Joins.get_push w.joins _ i
  have fresh : w'.joins.get w.joins.size = { waiting := [slot] } := by rw [get, if_pos rfl]
  have open_ : w'.joins.IsOpen w.joins.size := ⟨by omega, by rw [fresh], by rw [fresh]⟩
  have alike (j : Nat) : (w'.joins.get j).target = (w.joins.get j).target ∧
      (w'.joins.get j).forward = (w.joins.get j).forward := by
    rw [joins]
    exact Joins.kept_push w.joins [slot] j
  have marked (told : ∀ s t, .linked s t ∉ es) (once : es.filterMap Event.linked? = [])
      (passed : ∀ s b, .passed s b ∉ es) : Marks w w' es :=
    linked.marks wired (by simp [told]) (by simp [once]) fun s b among => absurd among (passed s b)
  rcases opens with ⟨rfl, rfl⟩ | ⟨k, owner, rfl, before, rfl, known⟩
  · refine ⟨?_, marked (by simp) rfl (by simp)⟩
    exact shift_branch standing.below builders rfl sets (by omega) (Nat.le_refl _) open_ (by simp)
      (by simp) (by simp) (by simp) (by simp) (by simp) (fun j t => by simp [(alike j).1])
      fun j => (alike j).2
  · refine ⟨?_, marked (by simp) rfl (by simp)⟩
    refine shift_branch standing.below builders rfl sets (by omega) (Nat.le_refl _) open_ ?_ ?_
      (by simp) (by simp) (by simp) (Nat.zero_le 1) (fun j t => by simp [(alike j).1])
      fun j => (alike j).2
    · intro k' scope
      obtain rfl : k = k' := by simpa using scope
      exact ⟨before, .inr ⟨owner, List.mem_singleton_self _⟩⟩
    · intro c b k' among
      obtain ⟨rfl, rfl, rfl⟩ : c = w.builders.size ∧ b = owner ∧ k' = k := by simpa using among
      exact ⟨rfl, rfl, known⟩

theorem goBack (standing : w.Standing) (known : b < w.builders.size)
    (opened : (w.builder b).status = .opened) {k : Nat}
    (scope : (w.builder b).scope = .branch (some k)) :
    let es := .returned b (w.builder b).cursor k ::
      ((w.joins.get (w.builder b).cursor).waiting.map (.passed · b) ++
        links (w.joins.forward (w.builder b).cursor k).2)
    Shift free w (w.continued b k) es ∧ Marks w (w.continued b k) es := by
  have open_ := standing.ready b known opened
  obtain ⟨wired, linked⟩ := standing.wired.forward open_ (standing.earlier b known k scope)
  have wired : (w.continued b k).Wired [] := wired.congr rfl rfl rfl
  have linked : Links w (w.continued b k) (w.joins.forward (w.builder b).cursor k).2 :=
    linked.congr rfl rfl
  have joins : (w.continued b k).joins = (w.joins.forward (w.builder b).cursor k).1 :=
    joins_link w _
  have builders : (w.continued b k).builders = w.builders.setIfInBounds b
      { w.builder b with status := .closed .continued } :=
    congrArg (Array.setIfInBounds · b _) (relinked_link w _).builders
  have handed := w.joins.get_forward open_.below k
  constructor
  · refine shift_returned standing.below known opened scope builders rfl rfl (by simp) rfl ?_ ?_ ?_
      open_.forward (relinked_link w _).sets _ _
    · rw [joins, Joins.size_forward]
    · intro i
      rw [joins, (handed i).1]
    · intro i
      rw [joins, (handed i).2]
  · refine linked.marks wired (by simp) ?_ ?_
    · have silent : ((w.joins.get (w.builder b).cursor).waiting.map (Event.passed · b)).filterMap
          Event.linked? = [] := by
        simp [Event.linked?]
      rw [List.filterMap_cons_none rfl, List.filterMap_append, silent, Event.linked_links,
        List.nil_append]
    · intro s b' among
      obtain ⟨waits, rfl⟩ : s ∈ (w.joins.get (w.builder b).cursor).waiting ∧ b = b' := by
        simpa using among
      refine ⟨_, k, List.mem_cons_self, fun F ends => ?_⟩
      obtain ⟨growing, live, before⟩ := linked.endsAs F ends
      obtain ⟨growing', live', after⟩ := ends
      -- whatever the flow comes to, the join point leads where the outer one does
      have same : F.leads (w.builder b).cursor = F.leads k := by
        refine after.forwarded _ k ?_ ?_
        · rw [joins, (handed _).1, open_.target]
        · rw [joins, (handed _).2, if_pos rfl]
      rw [← same]
      exact before.waiting _ s waits

/-- The body of a loop is opened, with a join point that leads back to the loop. -/
theorem body (standing : w.Standing) {n : Node} (member : n ∈ w.graph.toList) :
    Shift free w (w.withBody n.handle) [.looped w.joins.size n.id] ∧
      Marks w (w.withBody n.handle) [.looped w.joins.size n.id] := by
  obtain ⟨slot, get⟩ := get_withBody w n.handle
  have size := joins_withBody w n.handle
  have fresh : (w.withBody n.handle).joins.get (w.joins.size + 1) = { waiting := [slot] } := by
    rw [get, if_pos rfl]
  have open_ : (w.withBody n.handle).joins.IsOpen (w.joins.size + 1) :=
    ⟨by omega, by rw [fresh], by rw [fresh]⟩
  constructor
  · refine shift_branch standing.below (builders_withBody w n.handle) rfl (w.relinked_withBack n.id).2.2
      (by omega) (Nat.le_succ _) open_ ?_ (by simp) (by simp) (by simp) ?_ (Nat.le_refl 1) ?_ ?_
    · intro k scope
      obtain rfl : w.joins.size = k := by simpa using scope
      exact ⟨Nat.lt_succ_self _, .inl ⟨n.id, List.mem_singleton_self _⟩⟩
    · intro j t among
      obtain ⟨rfl, -⟩ : j = w.joins.size ∧ t = n.id := by simpa using among
      exact ⟨Nat.le_refl _, Nat.succ_ne_self _⟩
    · intro j t
      rw [get]
      split
      · rename_i new
        subst new
        simp [Joins.get_above (Nat.le_succ _)]
      · split
        · rename_i again
          subst again
          simp [Joins.get_above (Nat.le_refl _), Node.handle, eq_comm]
        · rename_i apart
          simp [apart]
    · intro j
      rw [get]
      split
      · rename_i new
        subst new
        rw [Joins.get_above (Nat.le_succ _)]
      · split
        · rename_i again
          subst again
          rw [Joins.get_above (Nat.le_refl _)]
        · rfl
  · obtain ⟨wired, linked⟩ := standing.wired.body member
    exact linked.marks wired (by simp) rfl (by simp)

/-- The builder of a loop goes to the way out of the loop. -/
theorem exit (standing : w.Standing) (known : b < w.builders.size) (busy : ¬ free b) {n : Node}
    (member : n ∈ w.graph.toList) :
    Shift free w (w.withExit b n.serial) [] ∧ Marks w (w.withExit b n.serial) [] := by
  obtain ⟨wired, linked⟩ := standing.wired.condition member (.equals Builder.doneLooping)
  have wired : (w.withExit b n.serial).Wired [] := wired.congr rfl rfl rfl
  have linked : Links w (w.withExit b n.serial) [] := linked.congr rfl rfl
  refine ⟨?_, linked.marks wired (by simp) rfl (by simp)⟩
  have builders : (w.withExit b n.serial).builders =
      w.builders.setIfInBounds b { w.builder b with cursor := w.joins.size } := rfl
  exact shift_moved standing.below known busy builders rfl rfl rfl rfl rfl rfl

end Standing

/-- What each move does. -/
theorem Move.shift {loops : List OpenLoop} (standing : w.Standing)
    (last : ∀ b node, (w.builder b).last = some node → ∃ n ∈ w.graph.toList, n.serial = node.serial)
    (move : Move loops w w' es) : Shift (Free loops) w w' es ∧ Marks w w' es := by
  have linked := Links.refl w
  cases move with
  | place known _ opened made => exact standing.place known opened made
  | jump known _ opened target => exact standing.jump known opened (last _) target
  | goBack known _ opened scope => exact standing.goBack known opened scope
  | @offer b known free s owner join =>
    have wired : Wired { w with sets := w.sets.push s } [] := standing.wired.congr rfl rfl rfl
    have linked : Links w { w with sets := w.sets.push s } [] := linked.congr rfl rfl
    refine ⟨shift_sets rfl rfl ?_ standing.below, linked.marks wired (by simp) rfl (by simp)⟩
    rintro b' j ⟨i, below, builder, join'⟩
    rw [Array.size_push] at below
    -- the new set rejoins where its owner stands, and its owner is free
    rcases Nat.lt_succ_iff_lt_or_eq.1 below with before | rfl
    · refine .inl ⟨i, before, ?_⟩
      simpa [branches, Array.getElem?_push, Nat.ne_of_lt before] using And.intro builder join'
    · have here : branches { w with sets := w.sets.push s } w.sets.size = s := by simp [branches]
      rw [here] at builder join'
      rw [← builder, owner, ← join', join]
      exact .inr ⟨known, free, rfl⟩
  | @take i known s owner join =>
    have wired : (w.setBranches i s).Wired [] := standing.wired.congr rfl rfl rfl
    have linked : Links w (w.setBranches i s) [] := linked.congr rfl rfl
    refine ⟨shift_sets rfl rfl ?_ standing.below, linked.marks wired (by simp) rfl (by simp)⟩
    rintro b' j ⟨i', below, builder, join'⟩
    have below : i' < w.sets.size := Nat.lt_of_lt_of_eq below Array.size_setIfInBounds
    refine .inl ⟨i', below, ?_⟩
    by_cases same : i' = i
    · subst same
      rw [branches_setBranches known] at builder join'
      exact ⟨owner.symm.trans builder, join.symm.trans join'⟩
    · simpa [branches, setBranches, Ne.symm same] using And.intro builder join'
  | @condition i known n member guard =>
    obtain ⟨wired, linked⟩ := standing.wired.condition member guard
    have offers : w.Offers (w.branches i).builder (w.branches i).join := ⟨i, known, rfl, rfl⟩
    exact standing.branch (linked.congr rfl rfl) (wired.congr rfl rfl rfl) rfl rfl rfl
      (.inr ⟨_, _, rfl, standing.offered _ _ offers, rfl, .inl offers⟩)
  | @error i known n member kind =>
    obtain ⟨wired, linked⟩ := standing.wired.error member kind
    have offers : w.Offers (w.branches i).builder (w.branches i).join := ⟨i, known, rfl, rfl⟩
    exact standing.branch (linked.congr rfl rfl) (wired.congr rfl rfl rfl) rfl rfl rfl
      (.inr ⟨_, _, rfl, standing.offered _ _ offers, rfl, .inl offers⟩)
  | @handler b known free n member kind =>
    obtain ⟨wired, linked⟩ := standing.wired.error member kind
    exact standing.branch (linked.congr rfl rfl) (wired.congr rfl rfl rfl) rfl rfl rfl
      (.inr ⟨_, _, rfl, standing.below b known, rfl, .inr ⟨known, free, rfl⟩⟩)
  | lastHandler member kind =>
    obtain ⟨wired, linked⟩ := standing.wired.error member kind
    exact standing.branch (linked.congr rfl rfl) (wired.congr rfl rfl rfl) rfl rfl rfl
      (.inl ⟨rfl, rfl⟩)

end Workspace

end ContactFlow
