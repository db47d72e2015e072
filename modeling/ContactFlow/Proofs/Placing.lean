import ContactFlow.Proofs.Rewiring

/-!
Where a builder stands after each step of construction. A builder that is open stands at a join point
that is still open; placing a node leads the edges there to the node, and its own edges wait at the
join point that comes next.
-/

namespace ContactFlow.Workspace

variable {w w' w'' : Workspace} {b j : Nat}

theorem joins_link (w : Workspace) (r : Joins Slot × List (Slot × String)) :
    (w.link r).joins = r.1 := by
  have each (links : List (Slot × String)) (w : Workspace) :
      (links.foldl (fun w l => w.modifyNode l.1.node (l.1.assign l.2)) w).joins = w.joins := by
    induction links generalizing w with
    | nil => rfl
    | cons l rest ih => exact ih _
  rw [link_foldl]
  exact each r.2 { w with joins := r.1 }

theorem builder_link (w : Workspace) (r : Joins Slot × List (Slot × String)) (i : Nat) :
    (w.link r).builder i = w.builder i := by
  rw [builder, (relinked_link w r).builders]
  rfl

theorem builder_setBuilder (below : b < w.builders.size) (x : Builder) :
    (w.setBuilder b x).builder b = x := by
  simp [builder, setBuilder, below]

/-- A builder that takes more stands at an open join point, and rejoins the flow at an earlier one. -/
structure Ready (w : Workspace) (b : Nat) : Prop where
  below : b < w.builders.size
  opened : (w.builder b).status = .opened
  cursor : w.joins.IsOpen (w.builder b).cursor
  scope : ∀ k, (w.builder b).scope = .branch (some k) → k < (w.builder b).cursor

theorem ready_start {flow : String} (started : Workspace.start flow = .ok w) : w.Ready 0 := by
  have made := start_eq started
  subst made
  refine ⟨Nat.zero_lt_one, rfl, ⟨Nat.zero_lt_one, rfl, rfl⟩, nofun⟩

/-- A builder that has moved on to a new join point takes more if it did not end. -/
theorem Ready.moved (ready : w.Ready b) (grows : w.builders.size ≤ w'.builders.size)
    (opened : (w'.builder b).status = .opened) (cursor : w'.joins.IsOpen (w'.builder b).cursor)
    (scope : (w'.builder b).scope = (w.builder b).scope)
    (new : w.joins.size ≤ (w'.builder b).cursor) : w'.Ready b where
  below := Nat.lt_of_lt_of_le ready.below grows
  opened := opened
  cursor := cursor
  scope := fun k at_ => by
    rw [scope] at at_
    exact Nat.lt_of_lt_of_le (Nat.lt_trans (ready.scope k at_) ready.cursor.below) new

/-- The builder goes on in its scope, at the same join point or at a new one. -/
structure Advances (b : Nat) (w w' : Workspace) : Prop where
  onward : Onward [] [b] [] [(w.builder b).cursor] w w'
  scope : (w'.builder b).scope = (w.builder b).scope
  cursor : (w'.builder b).cursor = (w.builder b).cursor ∨ w.joins.size ≤ (w'.builder b).cursor
  ready : (w'.builder b).status = .opened → w'.Ready b

theorem Advances.refl (sound : w.Sound) (ready : w.Ready b) : Advances b w w :=
  ⟨.refl sound, rfl, .inl rfl, fun _ => ready⟩

theorem Advances.trans (sound : w.Sound) (first : Advances b w w') (second : Advances b w' w'') :
    Advances b w w'' where
  onward := by
    refine first.onward.chain sound second.onward (by simp) (fun _ among _ => among) (by simp)
      fun k among below => ?_
    rw [List.mem_singleton.1 among] at below ⊢
    rcases first.cursor with same | above
    · exact List.mem_singleton.2 same
    · exact absurd below (Nat.not_lt.2 above)
  scope := second.scope.trans first.scope
  cursor := by
    rcases second.cursor with same | above
    · rw [same]
      exact first.cursor
    · exact .inr (Nat.le_trans first.onward.joins_grow above)
  ready := second.ready

/-! ### Leaving a join point -/

theorem get_resolve (below : j < w.joins.size) (target : String) (k : Nat) :
    (w.resolve j target).joins.get k =
      if k = j then { w.joins.get j with waiting := [], target := some target }
      else w.joins.get k := by
  rw [resolve, joins_link]
  exact Joins.get_modify _ _ below k

theorem get_freshJoin (w : Workspace) (waiting : List Slot) (k : Nat) :
    (w.freshJoin waiting).2.joins.get k = if k = w.joins.size then { waiting } else w.joins.get k :=
  Joins.get_push w.joins _ k

/-- The workspace with a builder's open edges led to a target, and the builder at a new join point. -/
def leave (w : Workspace) (b : Nat) (target : String) (waiting : List Slot) (x : Builder) :
    Workspace :=
  ((w.resolve (w.builder b).cursor target).freshJoin waiting).2.setBuilder b x

section Leave

variable {target : String} {waiting : List Slot} {x : Builder}

theorem builders_leave (w : Workspace) (b : Nat) (target : String) (waiting : List Slot)
    (x : Builder) : (w.leave b target waiting x).builders = w.builders.setIfInBounds b x := by
  have linked := (relinked_link w (w.joins.resolve (w.builder b).cursor target)).builders
  exact congrArg (Array.setIfInBounds · b x) linked

theorem sets_leave (w : Workspace) (b : Nat) (target : String) (waiting : List Slot)
    (x : Builder) : (w.leave b target waiting x).sets = w.sets :=
  (relinked_link w (w.joins.resolve (w.builder b).cursor target)).sets

theorem joins_leave (w : Workspace) (b : Nat) (target : String) (waiting : List Slot)
    (x : Builder) : (w.leave b target waiting x).joins.size = w.joins.size + 1 := by
  have resolved : (w.resolve (w.builder b).cursor target).joins.size = w.joins.size := by
    simp [resolve, joins_link, Joins.resolve]
  exact (Array.size_push _).trans (congrArg (· + 1) resolved)

theorem get_leave (below : (w.builder b).cursor < w.joins.size) (i : Nat) :
    (w.leave b target waiting x).joins.get i = if i = w.joins.size then { waiting } else
      if i = (w.builder b).cursor then
        { w.joins.get (w.builder b).cursor with waiting := [], target := some target }
      else w.joins.get i := by
  have resolved : (w.resolve (w.builder b).cursor target).joins.size = w.joins.size := by
    simp [resolve, joins_link, Joins.resolve]
  have get := get_freshJoin (w.resolve (w.builder b).cursor target) waiting i
  rw [resolved, get_resolve below] at get
  exact get

/-- A builder whose edges are resolved and that moves on has left its join point. -/
theorem leave_eq (known : b < w.builders.size) (target : String) (waiting : List Slot)
    (f : Builder → Builder) :
    let v := (w.resolve (w.builder b).cursor target).moveCursor b waiting
    v.setBuilder b (f (v.builder b)) =
      w.leave b target waiting (f { w.builder b with cursor := w.joins.size }) := by
  let w₁ := w.resolve (w.builder b).cursor target
  have builder : w₁.builder b = w.builder b := builder_link w _ b
  have size : w₁.joins.size = w.joins.size := by
    simp [w₁, resolve, joins_link, Joins.resolve]
  have known' : b < (w₁.freshJoin waiting).2.builders.size :=
    Nat.lt_of_lt_of_eq known (congrArg Array.size (relinked_link w _).builders).symm
  have moved : w₁.moveCursor b waiting =
      (w₁.freshJoin waiting).2.setBuilder b { w.builder b with cursor := w.joins.size } := by
    rw [← size, ← builder]
    rfl
  change (w₁.moveCursor b waiting).setBuilder b (f ((w₁.moveCursor b waiting).builder b)) = _
  rw [moved, builder_setBuilder known']
  simp only [setBuilder, Array.setIfInBounds_setIfInBounds]
  rfl

theorem jumped_eq (known : b < w.builders.size) (target : String) : w.jumped b target =
    w.leave b target []
      { w.builder b with cursor := w.joins.size, status := .closed (.jumped target) } :=
  leave_eq known target [] fun x => { x with status := .closed (.jumped target) }

theorem place_eq (known : b < w.builders.size) (node : Handle) (kind : ActionKind) :
    w.place b node kind = w.leave b node.id
      (if kind.isTerminal || kind.isBranching then [] else [.next node.serial])
      { cursor := w.joins.size, last := some node
        status := if kind.isTerminal then .terminated node.id else (w.builder b).status
        scope := (w.builder b).scope } :=
  leave_eq known node.id _ fun x =>
    { x with
      last := some node, status := if kind.isTerminal then .terminated node.id else x.status }

/-- The edges that wait at the new join point did not wait anywhere before. -/
theorem onward_leave (sound : w.Sound) (open_ : w.joins.IsOpen (w.builder b).cursor)
    (free : ∀ s ∈ waiting, w.graph.Edge s none ∧ ∀ i, s ∉ (w.joins.get i).waiting) :
    Onward [] [b] [] [(w.builder b).cursor] w (w.leave b target waiting x) := by
  let cursor := (w.builder b).cursor
  let w₁ := w.resolve cursor target
  have first : Onward [] [] [] [cursor] w w₁ := onward_resolve sound open_ target
  have free₁ : ∀ s ∈ waiting, w₁.graph.Edge s none ∧ ∀ i, s ∉ (w₁.joins.get i).waiting := by
    intro s among
    obtain ⟨edge, new⟩ := free s among
    constructor
    · have onward := edge.assignAll (w.joins.get cursor).waiting target
      rw [if_neg (new cursor)] at onward
      have linked : w₁.graph = w.graph.assignAll (w.joins.get cursor).waiting target :=
        congrArg Workspace.graph (link_eq sound.attached _ _ target)
      rw [linked]
      exact onward
    · intro i
      rw [get_resolve open_.below]
      split
      · exact List.not_mem_nil
      · exact new i
  let w₂ := (w₁.freshJoin waiting).2
  have second : Onward [] [] [] [] w₁ w₂ := onward_fresh first.sound free₁
  have third : Onward [] [b] [] [] w₂ (w₂.setBuilder b x) := onward_setBuilder second.sound b x
  have joined : Onward [] [] [] [cursor] w w₂ :=
    first.chain sound second (by simp) (by simp) (by simp) (by simp)
  have start : Onward [] [b] [] [cursor] w w₂ :=
    joined.weaken sound (by simp) (by simp) (by simp) fun _ among _ => among
  exact start.chain sound third (by simp) (fun _ among _ => among) (by simp) (by simp)

end Leave

/-! ### Placing a node -/

/-- A node has been placed at a builder's cursor. -/
structure Placed (b : Nat) (w w' : Workspace) (n : Node) : Prop where
  onward : Onward [] [b] [] [(w.builder b).cursor] w w'
  serial : n.serial = w.graph.count
  fresh : n.id ∉ w.graph.allocator.used
  used : n.id ∈ w'.graph.allocator.used
  entry : w.graph.entry = none → w'.graph.entry = some n.id
  there : ∃ n' ∈ w'.graph.toList, n'.Alike n
  sets : w'.sets = w.sets
  builder : w'.builder b =
    { cursor := w.joins.size, last := some n.handle
      status := if n.kind.isTerminal then .terminated n.id else .opened
      scope := (w.builder b).scope }
  cursor : w'.joins.IsOpen w.joins.size
  target : (w'.joins.get (w.builder b).cursor).target = some n.id
  waits : ¬ n.kind.isTerminal → ¬ n.kind.isBranching →
    .next n.serial ∈ (w'.joins.get w.joins.size).waiting

theorem withNode_grown (tidy : w.graph.Tidy) {n : Node} {g : Graph} (grown : w.graph.Grown n g) :
    w.withNode g n.id = { w with graph := g } := by
  simp [withNode, grown.vacant tidy]

theorem placed_place (sound : w.Sound) (ready : w.Ready b) {n : Node} {g : Graph}
    (grown : w.graph.Grown n g) (bare : n.transitions = {}) :
    Placed b w ((w.withNode g n.id).place b n.handle n.kind) n := by
  let w₀ : Workspace := { w with graph := g }
  have first : Onward [] [] [] [] w w₀ := onward_grown sound grown
  have here : n ∈ w₀.graph.toList := by
    rw [show w₀.graph = g from rfl, grown.toList]
    exact List.mem_append_right _ (List.mem_singleton_self n)
  have open_ : w₀.joins.IsOpen (w₀.builder b).cursor := ready.cursor
  let waiting : List Slot :=
    if n.kind.isTerminal || n.kind.isBranching then [] else [.next n.serial]
  have free : ∀ s ∈ waiting, w₀.graph.Edge s none ∧ ∀ i, s ∉ (w₀.joins.get i).waiting := by
    intro s among
    have next : s = .next n.serial := by
      simp only [waiting] at among
      split at among
      · cases among
      · simpa using among
    subst next
    refine ⟨⟨n, here, rfl, by rw [bare]; rfl⟩, fun i waits => ?_⟩
    obtain ⟨m, member, serial, _⟩ := sound.waiting i _ waits
    have below := sound.tidy.counted m member
    have same : m.serial = n.serial := serial
    rw [same, grown.serial] at below
    exact Nat.lt_irrefl _ below
  let x : Builder :=
    { cursor := w.joins.size, last := some n.handle
      status := if n.kind.isTerminal then .terminated n.id else .opened
      scope := (w.builder b).scope }
  have result : (w.withNode g n.id).place b n.handle n.kind = w₀.leave b n.id waiting x := by
    have known : b < w₀.builders.size := ready.below
    have opened : (w₀.builder b).status = .opened := ready.opened
    rw [withNode_grown sound.tidy grown, place_eq known, opened]
    rfl
  have second : Onward [] [b] [] [(w.builder b).cursor] w₀ (w₀.leave b n.id waiting x) :=
    onward_leave first.sound open_ free
  have get (i : Nat) : (w₀.leave b n.id waiting x).joins.get i = if i = w.joins.size then { waiting }
      else if i = (w.builder b).cursor then
        { w.joins.get (w.builder b).cursor with waiting := [], target := some n.id }
      else w.joins.get i := get_leave open_.below i
  have there : (w₀.leave b n.id waiting x).joins.get w.joins.size = { waiting } := by
    rw [get, if_pos rfl]
  rw [result]
  refine
    { onward := ?onward
      serial := grown.serial
      fresh := grown.fresh
      used := ?used
      entry := ?entry
      there := ?there
      sets := sets_leave w₀ ..
      builder := ?builder
      cursor := ?cursor
      target := ?target
      waits := ?waits }
  case onward =>
    have start : Onward [] [b] [] [(w.builder b).cursor] w w₀ :=
      first.weaken sound (by simp) (by simp) (by simp) (by simp)
    exact start.trans second
  case used =>
    refine second.used ?_
    rw [show w₀.graph = g from rfl, grown.used]
    exact List.mem_append_right _ (List.mem_singleton_self _)
  case entry =>
    intro none
    refine second.entry _ ?_
    rw [show w₀.graph = g from rfl, grown.entry, none, Option.getD_none]
  case there =>
    obtain ⟨n', member, alike⟩ := second.kept n here (by simp)
    exact ⟨n', member, alike⟩
  case builder =>
    rw [builder, builders_leave]
    simp [w₀, ready.below, x]
  case cursor =>
    refine ⟨?_, by rw [there], by rw [there]⟩
    rw [joins_leave]
    exact Nat.lt_succ_self _
  case target =>
    rw [get, if_neg (Nat.ne_of_lt ready.cursor.below), if_pos rfl]
  case waits =>
    intro nonterminal nonbranching
    rw [there]
    simp [waiting, nonterminal, nonbranching]

/-! ### Join points that lead back -/

theorem isOpen_freshJoin (w : Workspace) (waiting : List Slot) :
    (w.freshJoin waiting).2.joins.IsOpen w.joins.size := by
  have there := get_freshJoin w waiting w.joins.size
  rw [if_pos rfl] at there
  exact ⟨Nat.lt_of_lt_of_eq (Nat.lt_succ_self _) (Array.size_push _).symm, by rw [there],
    by rw [there]⟩

/-- The workspace with a join point at which edges are led back to a node. -/
def withBack (w : Workspace) (id : String) : Workspace := (w.freshJoin []).2.resolve w.joins.size id

theorem onward_withBack (sound : w.Sound) (id : String) :
    Onward [] [] [] [] w (w.withBack id) := by
  have first : Onward [] [] [] [] w (w.freshJoin []).2 := onward_fresh sound (by simp)
  have open_ := w.isOpen_freshJoin []
  exact first.chain sound (onward_resolve first.sound open_ id) (by simp) (by simp) (by simp)
    (by simp)

theorem get_withBack (w : Workspace) (id : String) (i : Nat) : (w.withBack id).joins.get i =
    if i = w.joins.size then { target := some id } else w.joins.get i := by
  rw [withBack, get_resolve (w.isOpen_freshJoin []).below, get_freshJoin, if_pos rfl, get_freshJoin]
  split
  · rfl
  · rfl

theorem joins_withBack (w : Workspace) (id : String) :
    (w.withBack id).joins.size = w.joins.size + 1 := by
  rw [withBack, resolve, joins_link]
  exact Array.size_modify.trans (Array.size_push _)

theorem relinked_withBack (w : Workspace) (id : String) :
    (w.withBack id).graph.allocator = w.graph.allocator ∧
      (w.withBack id).builders = w.builders ∧ (w.withBack id).sets = w.sets := by
  have relinked :=
    relinked_link (w.freshJoin []).2 (Joins.resolve (w.freshJoin []).2.joins w.joins.size id)
  obtain ⟨f, changed, _⟩ := relinked.graph
  exact ⟨changed.allocator, relinked.builders, relinked.sets⟩

/-! ### Opening a branch -/

/-- An edge was added to a node, and waits at a new join point. -/
structure Awaits (node : Nat) (builders : List Nat) (f : Node → Node) (slot : Slot)
    (w w' : Workspace) : Prop where
  onward : Onward [node] builders [] [] w w'
  node : ∀ n ∈ w.graph.toList, n.serial = node → ∃ n' ∈ w'.graph.toList, n'.Alike (f n)
  allocator : w'.graph.allocator = w.graph.allocator
  sets : w'.sets = w.sets
  cursor : w'.joins.IsOpen w.joins.size
  waits : slot ∈ (w'.joins.get w.joins.size).waiting

theorem awaits_edge (sound : w.Sound) {f : Node → Node} {n : Node} {slot : Slot}
    (adds : Graph.AddsSlot f n slot) (member : n ∈ w.graph.toList) :
    Awaits n.serial [] f slot w ((w.modifyNode n.serial f).freshJoin [slot]).2 := by
  let w₁ := w.modifyNode n.serial f
  have first : Onward [n.serial] [] [] [] w w₁ := onward_modifyNode sound adds.toAddsEdges n.serial
  have second : Onward [] [] [] [] w₁ (w₁.freshJoin [slot]).2 := by
    refine onward_fresh first.sound fun s among => ?_
    rw [List.mem_singleton.1 among]
    exact ⟨adds.edge member,
      fun i waits => adds.new sound.tidy member none (sound.waiting i slot waits)⟩
  have there : (w₁.freshJoin [slot]).2.joins.get w.joins.size = { waiting := [slot] } := by
    rw [get_freshJoin]
    exact if_pos rfl
  refine ⟨first.chain sound second (by simp) (by simp) (by simp) (by simp), ?_, rfl, rfl,
    w₁.isOpen_freshJoin [slot],
    (congrArg (slot ∈ ·.waiting) there).mpr (List.mem_singleton_self slot)⟩
  intro m inside serial
  refine ⟨f m, ?_, .refl _⟩
  have changed := Graph.changed_modifyNode w.graph n.serial f
  have placed : f m ∈ (w.graph.modifyNode n.serial f).toList := by
    rw [changed.toList]
    exact List.mem_map.2 ⟨m, inside, if_pos serial⟩
  exact placed

theorem addCondition_eq (sound : w.Sound) {n : Node} (member : n ∈ w.graph.toList) (guard : Guard) :
    w.addCondition n.serial guard = (.condition n.serial n.transitions.conditions.length,
      w.modifyNode n.serial (Node.plusCondition guard)) := by
  rw [addCondition, (node?_eq_some sound.tidy sound.attached).2 ⟨member, rfl⟩]
  rfl

theorem addError_eq (sound : w.Sound) {n : Node} (member : n ∈ w.graph.toList) (kind : ErrorKind) :
    w.addError n.serial kind = (.error n.serial n.transitions.errors.length,
      w.modifyNode n.serial (Node.plusError kind)) := by
  rw [addError, (node?_eq_some sound.tidy sound.attached).2 ⟨member, rfl⟩]
  rfl

/-- A branch has been opened at an edge that was added to a node. -/
structure Opened (node : Nat) (join : Option Nat) (f : Node → Node) (slot : Slot)
    (w w' : Workspace) : Prop extends Awaits node [] f slot w w' where
  below : w.builders.size < w'.builders.size
  builder : w'.builder w.builders.size = { cursor := w.joins.size, scope := .branch join }

theorem Opened.ready {node : Nat} {join : Option Nat} {f : Node → Node} {slot : Slot}
    (opened : Opened node join f slot w w') (known : ∀ k, join = some k → k < w.joins.size) :
    w'.Ready w.builders.size where
  below := opened.below
  opened := by rw [opened.builder]
  cursor := by rw [opened.builder]; exact opened.cursor
  scope := by
    rw [opened.builder]
    intro k scope
    exact known k (by simpa using scope)

theorem opened_edge (sound : w.Sound) {f : Node → Node} {n : Node} {slot : Slot}
    (adds : Graph.AddsSlot f n slot) (member : n ∈ w.graph.toList) (join : Option Nat) :
    Opened n.serial join f slot w ((w.modifyNode n.serial f).openBuilder slot join).2 := by
  have awaits := awaits_edge sound adds member
  have pushed := onward_pushBuilder awaits.onward.sound
    { cursor := w.joins.size, scope := .branch join }
  exact ⟨⟨awaits.onward.chain sound pushed (by simp) (by simp) (by simp) (by simp), awaits.node,
    rfl, rfl, awaits.cursor, awaits.waits⟩,
    Nat.lt_of_lt_of_eq (Nat.lt_succ_self _) (Array.size_push _).symm,
    by simp [Workspace.builder, openBuilder, freshJoin, Joins.fresh, modifyNode]⟩

theorem opened_condition (sound : w.Sound) {n : Node} (member : n ∈ w.graph.toList)
    (guard : Guard) (join : Nat) :
    Opened n.serial (some join) (Node.plusCondition guard)
      (.condition n.serial n.transitions.conditions.length) w
      (w.withCondition n.serial guard join) := by
  rw [withCondition, addCondition_eq sound member]
  exact opened_edge sound (Graph.addsSlot_plusCondition guard n) member (some join)

theorem opened_error (sound : w.Sound) {n : Node} (member : n ∈ w.graph.toList)
    (kind : ErrorKind) (join : Option Nat) :
    Opened n.serial join (Node.plusError kind) (.error n.serial n.transitions.errors.length) w
      (w.withError n.serial kind join) := by
  rw [withError, addError_eq sound member]
  exact opened_edge sound (Graph.addsSlot_plusError kind n) member join

/-- A builder goes on at a condition that was added to a node. -/
structure Led (b node : Nat) (guard : Guard) (slot : Slot) (w w' : Workspace) : Prop
    extends Awaits node [b] (Node.plusCondition guard) slot w w' where
  builder : w'.builder b = { w.builder b with cursor := w.joins.size }

theorem led_condition (sound : w.Sound) (below : b < w.builders.size) {n : Node}
    (member : n ∈ w.graph.toList) (guard : Guard) :
    Led b n.serial guard (.condition n.serial n.transitions.conditions.length) w
      ((w.addCondition n.serial guard).2.moveCursor b [(w.addCondition n.serial guard).1]) := by
  have awaits := awaits_edge sound (Graph.addsSlot_plusCondition guard n) member
  let x : Builder := { w.builder b with cursor := w.joins.size }
  have set := onward_setBuilder awaits.onward.sound b x
  have onward : Onward [n.serial] [b] [] [] w _ :=
    (awaits.onward.weaken sound (fun _ among _ => among) (by simp) (by simp) (by simp)).chain sound set
      (by simp) (fun _ among _ => among) (by simp) (by simp)
  rw [addCondition_eq sound member]
  exact ⟨⟨onward, awaits.node, rfl, rfl, awaits.cursor, awaits.waits⟩, builder_setBuilder below x⟩

/-! ### Returning to the flow -/

/-- A builder has returned to the flow at a join point. -/
structure Returned (b k : Nat) (w w' : Workspace) : Prop where
  onward : Onward [] [b] [] [(w.builder b).cursor] w w'
  allocator : w'.graph.allocator = w.graph.allocator
  builder : w'.builder b = { w.builder b with status := .closed .continued }
  target : (w'.joins.get (w.builder b).cursor).target = none
  forward : (w'.joins.get (w.builder b).cursor).forward = some k

theorem returned_continued (sound : w.Sound) (ready : w.Ready b) {k : Nat}
    (scope : (w.builder b).scope = .branch (some k)) : Returned b k w (w.continued b k) := by
  have earlier := ready.scope k scope
  have first := onward_forward sound ready.cursor earlier
  have known : b < (w.forward (w.builder b).cursor k).builders.size := by
    rw [forward, (relinked_link w _).builders]
    exact ready.below
  have second := onward_setBuilder first.sound b { w.builder b with status := .closed .continued }
  obtain ⟨target, handed⟩ := w.joins.get_forward ready.cursor.below k (w.builder b).cursor
  have joins : (w.continued b k).joins = (w.joins.forward (w.builder b).cursor k).1 :=
    joins_link w _
  refine
    { onward := ?onward
      allocator := ?allocator
      builder := builder_setBuilder known _
      target := ?target
      forward := ?forward }
  case onward =>
    have handed : Onward [] [b] [] [(w.builder b).cursor] w (w.forward (w.builder b).cursor k) :=
      first.weaken sound (by simp) (by simp) (by simp) fun _ among _ => among
    exact handed.chain sound second (by simp) (fun _ among _ => among) (by simp) (by simp)
  case allocator =>
    obtain ⟨f, changed, _⟩ := (relinked_link w (w.joins.forward (w.builder b).cursor k)).graph
    exact changed.allocator
  case target =>
    rw [joins, target]
    exact ready.cursor.target
  case forward =>
    rw [joins, handed, if_pos rfl]

end ContactFlow.Workspace
