import ContactFlow.Proofs.Layout

/-!
The stretch of a single step. Whatever a step appends, with its branches and its error handlers, does
what the step's plan says. The body of a loop is a branch whose end leads back to the loop, whether it
returns there or is only left open; the flow goes on at the condition by which the loop is done.
-/

namespace ContactFlow.Workspace

open Plan

variable {w w₁ v w' : Workspace} {b : Nat} {r : Registry} {n : Node}

/-- A branch that returns to the flow. -/
theorem Spans.resume {k : Nat} (scope : (w.builder b).scope = .branch (some k))
    (returned : Returned b k w w') :
    Spans r b w w' fun _ => .resume where
  advances :=
    ⟨returned.onward, by rw [returned.builder], .inl (by rw [returned.builder]),
      fun opened => by rw [returned.builder] at opened; cases opened⟩
  onward := fun _ _ => rfl
  closes := fun _ _ => rfl
  fresh := fun _ _ among => nomatch among
  starts := fun _ root => by rw [scope] at root; cases root
  laid := fun F q e settles _ _ => by
    rw [scope]
    exact ⟨settles.becomes.forwarded _ _ returned.target returned.forward, .resume⟩

/-- A node was placed, and its branches and error handlers were added. -/
theorem Advances.of_placed (sound : w.Sound) (placed : Placed b w w₁ n) {sets : List Nat}
    (onward : Onward [n.serial] [b] sets [] w₁ w') (sets_new : ∀ i ∈ sets, w.sets.size ≤ i)
    (scope : (w'.builder b).scope = (w₁.builder b).scope)
    (cursor : w.joins.size ≤ (w'.builder b).cursor)
    (ready : (w'.builder b).status = .opened → w'.Ready b) : Advances b w w' := by
  refine ⟨placed.onward.chain sound onward ?_ (fun _ among _ => among) ?_ (by simp), ?_, .inr cursor,
    ready⟩
  · intro i among below
    rw [List.mem_singleton.1 among, placed.serial] at below
    exact absurd below (Nat.lt_irrefl _)
  · intro i among below
    exact absurd below (Nat.not_lt.2 (sets_new i among))
  · rw [scope, placed.builder]

theorem Placed.known (placed : Placed b w w₁ n) : n.serial < w₁.graph.count := by
  obtain ⟨n', member, alike⟩ := placed.there
  exact alike.serial ▸ placed.onward.sound.tidy.counted n' member

/-- What the branches add to a node is not there when it is placed. -/
theorem Settles.placed {F : Future} {live sets : List Nat} (settles : Settles w w' live F)
    (placed : Placed b w w₁ n) (onward : Onward [n.serial] [b] sets [] w₁ w') :
    Settles w₁ w₁ live F :=
  (settles.later placed.onward).earlier placed.onward.sound onward (by simpa using placed.known)
    (by simp) fun _ among _ => .inr among

/-- A node was placed, and its branches and error handlers were added. What it does is up to them. -/
theorem Spans.of_placed (sound : w.Sound) (placed : Placed b w w₁ n) {sets : List Nat}
    (onward : Onward [n.serial] [b] sets [] w₁ w') (sets_new : ∀ i ∈ sets, w.sets.size ≤ i)
    (scope : (w'.builder b).scope = (w₁.builder b).scope)
    (cursor : w.joins.size ≤ (w'.builder b).cursor)
    (ready : (w'.builder b).status = .opened → w'.Ready b) {front : Plan → Plan}
    (begins : ∀ q e c, (front q).entry e c = some n.id)
    (unfinished : ∀ q, q.finishes = false → (front q).finishes = false)
    (closes : (w'.builder b).status ≠ .opened → ∀ q, (front q).finishes = false)
    (fresh : ∀ q, ∀ l ∈ (front q).loopIds, l ∈ q.loopIds ∨ l ∉ w.graph.allocator.used)
    (laid : ∀ F q e c, Settles w w' [(w'.builder b).cursor] F →
      Settles w₁ w₁ [(w'.builder b).cursor] F → F.leads (w'.builder b).cursor = q.entry e c →
      Laid (F.Has r) e c q → Laid (F.Has r) e c (front q)) : Spans r b w w' front where
  advances := .of_placed sound placed onward sets_new scope cursor ready
  onward := unfinished
  closes := closes
  fresh := fresh
  starts := fun none _ => .inr ⟨n.id, onward.entry _ (placed.entry none), begins⟩
  laid := fun F q e settles leads after => by
    have here := settles.placed placed onward
    refine ⟨?_, laid F q e _ settles here leads after⟩
    rw [begins]
    exact here.becomes.resolved _ _ placed.target

/-- While branches and handlers are added to its node, a builder stays at the join point that comes
after the node. -/
structure Stays (b : Nat) (w w₁ w' : Workspace) (n : Node) (sets : List Nat) : Prop where
  onward : Onward [n.serial] [b] sets [] w₁ w'
  builder : w'.builder b = w₁.builder b
  cursor : (w'.builder b).cursor = w.joins.size
  ready : (w'.builder b).status = .opened → w'.Ready b
  closed : (w'.builder b).status ≠ .opened → n.kind.isTerminal

theorem stays_of_forked (ready : w.Ready b) (placed : Placed b w w₁ n) {sets : List Nat}
    (onward : Onward [n.serial] [] sets [] w₁ w') : Stays b w w₁ w' n sets := by
  have below : b < w₁.builders.size := Nat.lt_of_lt_of_le ready.below placed.onward.builders_grow
  have builder : w'.builder b = w₁.builder b := onward.builder b below (by simp)
  have cursor : (w'.builder b).cursor = w.joins.size := by rw [builder, placed.builder]
  refine ⟨onward.weaken placed.onward.sound (fun _ among _ => among) (by simp)
    (fun _ among _ => among) (by simp), builder, cursor, fun opened => ?_, fun closed => ?_⟩
  · refine ready.moved (Nat.le_trans placed.onward.builders_grow onward.builders_grow) opened ?_
      (by rw [builder, placed.builder]) (Nat.le_of_eq cursor.symm)
    rw [cursor]
    exact onward.isOpen (by simp) placed.cursor
  · rw [builder, placed.builder] at closed
    by_contra nonterminal
    simp [nonterminal] at closed

theorem Spans.of_forked (sound : w.Sound) (ready : w.Ready b) (placed : Placed b w w₁ n)
    {sets : List Nat} (onward : Onward [n.serial] [] sets [] w₁ w')
    (sets_new : ∀ i ∈ sets, w.sets.size ≤ i) {front : Plan → Plan}
    (begins : ∀ q e c, (front q).entry e c = some n.id)
    (unfinished : ∀ q, q.finishes = false → (front q).finishes = false)
    (closes : n.kind.isTerminal → ∀ q, (front q).finishes = false)
    (fresh : ∀ q, ∀ l ∈ (front q).loopIds, l ∈ q.loopIds ∨ l ∉ w.graph.allocator.used)
    (laid : ∀ F q e c, Settles w w' [w.joins.size] F → Settles w₁ w₁ [w.joins.size] F →
      F.leads w.joins.size = q.entry e c → Laid (F.Has r) e c q → Laid (F.Has r) e c (front q)) :
    Spans r b w w' front := by
  have stays := stays_of_forked ready placed onward
  exact Spans.of_placed sound placed stays.onward sets_new (by rw [stays.builder])
    (Nat.le_of_eq stays.cursor.symm) stays.ready begins unfinished
    (fun closed => closes (stays.closed closed)) fresh (by rw [stays.cursor]; exact laid)

/-- A node of a flow that comes to be. -/
theorem Settles.gains {F : Future} {live : List Nat} (settles : Settles w w' live F)
    (placed : Placed b w w₁ n) {guards : List Guard} {kinds : List ErrorKind}
    (grown : ∃ n' ∈ w'.graph.toList, n'.Gains n guards kinds) :
    ∃ m ∈ F.graph.toList, m.Gains n guards kinds := by
  obtain ⟨n', member, gains⟩ := grown
  have new : w.graph.count ≤ n'.serial := Nat.le_of_eq (gains.serial.trans placed.serial).symm
  obtain ⟨m, there, alike⟩ := settles.node member new
  exact ⟨m, there, by simpa using (Node.Gains.of_alike alike).trans gains⟩

section Appended

variable {a : Action} {frame : Frame} {d : Draft} {a' alloc : Allocator} {join : Option Nat}
  {operands : Guard → List Scalar} {sets : List Nat} {ways : List (Way × Plan)}
  {guards : List Guard} {kinds : List ErrorKind} {F : Future} {m : Node}

theorem Appended.has (appended : Appended a frame d n a' alloc) (structured : a.isStructured)
    (member : m ∈ F.graph.toList) (gains : m.Gains n guards kinds) {site : Site}
    (does : (m.prepared r).site = site) : F.Has r n.id site := by
  obtain ⟨spec, retry⟩ := Action.draft_structured structured appended.drafted
  refine ⟨m, member, gains.id, ?_, ?_, does⟩
  · rw [gains.spec, appended.spec, spec]
  · have same := appended.retry
    rw [retry] at same
    rw [gains.retry]
    exact (Checked.good.inj same).symm

theorem Forks.gains (forks : Forks r n.serial join operands sets w w' ways guards kinds)
    (there : ∃ n' ∈ w.graph.toList, n'.Alike n) :
    ∃ n' ∈ w'.graph.toList, n'.Gains n guards kinds := by
  obtain ⟨n₁, member, alike⟩ := there
  obtain ⟨n', member', more⟩ := forks.grown n₁ member alike.serial
  exact ⟨n', member', by simpa using more.trans (.of_alike alike)⟩

/-- A step that ends the flow. -/
theorem Spans.stops (sound : w.Sound) (ready : w.Ready b) (placed : Placed b w w₁ n)
    (appended : Appended a frame d n a' alloc) (structured : a.isStructured)
    (terminal : a.kind.isTerminal)
    (forks : Forks r n.serial join operands [] w₁ w' ways guards kinds) :
    Spans r b w w' fun _ => .stops n.id := by
  refine Spans.of_forked sound ready placed forks.onward (by simp) (fun _ _ _ => rfl) (fun _ _ => rfl)
    (fun _ _ => rfl) (fun _ _ among => nomatch among) fun F q e c settles _ _ _ => .stops ?_
  obtain ⟨m, member, gains⟩ := settles.gains placed (forks.gains placed.there)
  exact appended.has structured member gains
    (Action.site_ends (gains.kind.trans appended.kind) terminal)

/-- A step from which the flow goes on, whatever its error handlers are. -/
theorem Spans.goes (sound : w.Sound) (ready : w.Ready b) (placed : Placed b w w₁ n)
    (appended : Appended a frame d n a' alloc) (structured : a.isStructured)
    (terminal : ¬ a.kind.isTerminal) (branching : ¬ a.kind.isBranching)
    (forks : Forks r n.serial join operands [] w₁ w' ways guards kinds) :
    Spans r b w w' (.goes n.id (a.attributes r)) := by
  have straight : ¬ n.kind.isTerminal ∧ ¬ n.kind.isBranching := by
    rw [appended.kind]
    exact ⟨terminal, branching⟩
  refine Spans.of_forked sound ready placed forks.onward (by simp) (fun _ _ _ => rfl)
    (fun _ unfinished => unfinished) (fun ends => absurd ends straight.1) (fun _ _ among => .inl among)
    fun F q e c settles here leads laid => .goes ?_ laid
  obtain ⟨m, member, gains⟩ := settles.gains placed (forks.gains placed.there)
  refine appended.has structured member gains ?_
  have edge := here.becomes.waiting _ _ (placed.waits straight.1 straight.2)
  have next : m.transitions.next = F.leads w.joins.size :=
    Option.some.inj (edge.read settles.tidy member gains.serial)
  rw [Action.site_goes (gains.kind.trans appended.kind) appended.drafted
    (gains.parameters.trans appended.parameters) terminal branching, next, leads]

/-- A step that takes one of its branches. -/
theorem Spans.forks (sound : w.Sound) (ready : w.Ready b) (placed : Placed b w w₁ n)
    (appended : Appended a frame d n a' alloc) (structured : a.isStructured)
    (offers : a.offer ≠ .nothing) {v : Workspace} (opened : Onward [] [] [] [] w₁ v)
    (sets_new : ∀ i ∈ sets, w.sets.size ≤ i)
    (forks : Forks r n.serial (some w.joins.size) a.offer.operands sets v w' ways guards kinds) :
    Spans r b w w' (.forks n.id a.compared ways) := by
  have nonterminal : ¬ n.kind.isTerminal := by
    rw [appended.kind]
    exact Action.nonterminal_of_offers offers
  have onward : Onward [n.serial] [] sets [] w₁ w' := by
    have start : Onward [n.serial] [] sets [] w₁ v :=
      opened.weaken placed.onward.sound (by simp) (by simp) (by simp) (by simp)
    exact start.trans forks.onward
  have there : ∃ n' ∈ v.graph.toList, n'.Alike n := by
    obtain ⟨n₁, member, alike⟩ := placed.there
    obtain ⟨n', member', alike'⟩ := opened.kept n₁ member (by simp)
    exact ⟨n', member', alike'.trans alike⟩
  refine Spans.of_forked sound ready placed onward sets_new (fun _ _ _ => rfl)
    (fun _ unfinished => unfinished) (fun ends => absurd ends nonterminal) (fun q l among => ?_)
    fun F q e c settles here leads laid => ?_
  · rcases List.mem_append.1 among with inside | after
    · exact .inr fun used => forks.fresh l inside (opened.used (placed.onward.used used))
    · exact .inl after
  · obtain ⟨n', member', alike⟩ := there
    have rejoins : F.resumes (.branch (some w.joins.size)) = q.entry e c := leads
    have known : w.joins.size < v.joins.size :=
      Nat.lt_of_lt_of_le placed.cursor.below opened.joins_grow
    have now : Settles v w' [] F :=
      ((settles.later placed.onward).later opened).more (by simpa using known)
    -- the branches rejoin the flow where the builder stands, which leads to what comes next
    obtain ⟨attached, bodies⟩ := forks.laid n' member' alike.serial F now
    rw [rejoins] at attached bodies
    refine .forks ?_ bodies laid
    obtain ⟨m, member, gains⟩ := settles.gains placed (forks.gains ⟨n', member', alike⟩)
    refine appended.has structured member gains ?_
    have kind := gains.kind.trans appended.kind
    have bare : n'.transitions.conditions.length = 0 ∧ n'.transitions.errors.length = 0 := by
      have first := Node.Gains.of_alike alike
      rw [first.conditions_length, first.errors_length, appended.bare]
      exact ⟨rfl, rfl⟩
    rw [bare.1, bare.2] at attached
    -- the node had no edges, so those that it ends up with are all attached
    have edges := attached.edges_eq settles.tidy member gains.serial
      (by rw [List.drop_zero, gains.guards, appended.bare]; rfl)
      (by rw [List.drop_zero, gains.kinds, appended.bare]; rfl)
    rw [Action.site_forks kind appended.drafted (gains.parameters.trans appended.parameters) offers,
      Node.ways_prepared, ← edges]
    simp only [List.drop_zero,
      Action.operands_eq kind appended.drafted (gains.mode.trans appended.mode) structured]

end Appended

/-! ### Loops -/

section Loops

variable {w₂ w₃ w₄ w₅ : Workspace} {i back : Nat}

/-- The builder of a branch has come to its end, and returned to a join point if it had stayed open.
-/
structure Turned (i back : Nat) (w w' : Workspace) : Prop where
  onward : Onward [] [i] [] [(w.builder i).cursor] w w'
  allocator : w'.graph.allocator = w.graph.allocator
  returns : (w.builder i).status = .opened →
    (w'.joins.get (w.builder i).cursor).target = none ∧
      (w'.joins.get (w.builder i).cursor).forward = some back

theorem Returned.turned (returned : Returned i back w w') : Turned i back w w' :=
  ⟨returned.onward, returned.allocator, fun _ => ⟨returned.target, returned.forward⟩⟩

theorem Turned.stays (sound : w.Sound) (closed : (w.builder i).status ≠ .opened) :
    Turned i back w w :=
  ⟨.refl sound, rfl, fun opened => absurd opened closed⟩

/-- The body of a loop was opened and filled before it came to its end. -/
theorem Turned.after {node : Nat} {join : Option Nat} {f : Node → Node} {slot : Slot}
    (turned : Turned v.builders.size back w₃ w₄) (sound : v.Sound)
    (opened : Opened node join f slot v w₂) (advances : Advances v.builders.size w₂ w₃) :
    Onward [node] [] [] [] v w₄ := by
  refine (opened.filled sound advances).chain sound turned.onward (by simp) (by simp) (by simp)
    fun j among below => ?_
  rw [List.mem_singleton.1 among] at below
  exact absurd below (Nat.not_lt.2 (opened.new advances))

/-- The end of a body that was left open leads where the loop has its body return. -/
theorem Turned.leads {F : Future} {growing live : List Nat} (turned : Turned i back w w')
    (becomes : w'.Becomes F growing live) (open_ : (w.builder i).status = .opened) :
    F.leads (w.builder i).cursor = F.leads back := by
  obtain ⟨target, forward⟩ := turned.returns open_
  exact becomes.forwarded _ _ target forward

/-- The body of a loop was filled and closed. -/
structure Round (r : Registry) (back : Nat) (n : Node) (v w' : Workspace) (body : Plan) :
    Prop where
  onward : Onward [n.serial] [] [] [] v w'
  fresh : ∀ l ∈ body.loopIds, l ∉ v.graph.allocator.used
  grown : ∃ n' ∈ w'.graph.toList, n'.Gains n [.equals Builder.continueLooping] []
  laid : ∀ F id, Settles v w' [] F → F.leads back = some id →
    F.graph.Edge (.condition n.serial 0) (body.entry (some id) (some id)) ∧
      Laid (F.Has r) (some id) (some id) body

theorem round_of_turned (sound : v.Sound) (member : n ∈ v.graph.toList)
    (opened : Opened n.serial (some back) (Node.plusCondition (.equals Builder.continueLooping))
      (.condition n.serial 0) v w₂) {front : Plan → Plan}
    (spans : Spans r v.builders.size w₂ w₃ front) (turned : Turned v.builders.size back w₃ w₄) :
    Round r back n v w₄ (front .finish) := by
  have closed := turned.after sound opened spans.advances
  refine ⟨closed, fun l among => ?_, ?_, fun F id settles leads => ?_⟩
  · rcases spans.fresh .finish l among with none | fresh
    · cases none
    · rwa [opened.allocator] at fresh
  · obtain ⟨n₃, member₃, alike⟩ := opened.grown spans.advances n member rfl
    obtain ⟨n₄, member₄, alike'⟩ := turned.onward.kept n₃ member₃ (by simp)
    exact ⟨n₄, member₄, .of_condition (alike'.trans alike)⟩
  · have before : Settles v w₃ [(w₃.builder v.builders.size).cursor] F :=
      settles.earlier (opened.filled sound spans.advances).sound turned.onward (by simp) (by simp)
        (by simp)
    obtain ⟨begins, body⟩ := spans.laid F .finish (F.leads (w₃.builder v.builders.size).cursor)
      (before.later opened.onward) rfl .finish
    have resumes : F.resumes (w₂.builder v.builders.size).scope = some id := by
      rw [opened.scope_eq]
      exact leads
    rw [opened.cursor_eq, resumes] at begins
    rw [resumes] at body
    have waits : F.graph.Edge (.condition n.serial 0) (F.leads v.joins.size) := by
      have start : Settles v w₂ [v.joins.size, (w₃.builder v.builders.size).cursor] F :=
        before.earlier opened.onward.sound spans.advances.onward (by simp) (by simp [opened.cursor_eq])
          (by simp)
      exact start.becomes.waiting _ _ opened.waits
    rw [begins] at waits
    -- an end that is left open is led back to the loop; another one is never reached
    by_cases open_ : (w₃.builder v.builders.size).status = .opened
    · rw [turned.leads settles.becomes open_, leads] at waits body
      exact ⟨waits, body⟩
    · have unfinished := spans.closes open_ .finish
      rw [entry_unfinished unfinished _ (some id)] at waits
      exact ⟨waits, body.unfinished unfinished _⟩

/-- While error handlers are added to a loop, its builder stays where the loop is done. -/
structure GoesOn (b : Nat) (w w₁ w₄ w' : Workspace) (n : Node) : Prop where
  rest : Onward [n.serial] [b] [] [] w₄ w'
  onward : Onward [n.serial] [b] [] [] w₁ w'
  builder : w'.builder b = { w₁.builder b with cursor := w₄.joins.size }
  grew : w.joins.size ≤ w₄.joins.size
  ready : (w'.builder b).status = .opened → w'.Ready b

theorem goesOn_of_led {guard : Guard} {slot : Slot} (ready : w.Ready b) (placed : Placed b w w₁ n)
    (around : Onward [n.serial] [] [] [] w₁ w₄) (led : Led b n.serial guard slot w₄ w₅)
    (after : Onward [n.serial] [] [] [] w₅ w') : GoesOn b w w₁ w₄ w' n := by
  have below : b < w₁.builders.size := Nat.lt_of_lt_of_le ready.below placed.onward.builders_grow
  have rest : Onward [n.serial] [b] [] [] w₄ w' :=
    led.onward.trans
      (after.weaken led.onward.sound (fun _ among _ => among) (by simp) (by simp) (by simp))
  have onward : Onward [n.serial] [b] [] [] w₁ w' :=
    (around.weaken placed.onward.sound (fun _ among _ => among) (by simp) (by simp) (by simp)).trans rest
  have builder : w'.builder b = { w₁.builder b with cursor := w₄.joins.size } := by
    have known := Nat.lt_of_lt_of_le below around.builders_grow
    rw [after.builder b (Nat.lt_of_lt_of_le known led.onward.builders_grow) (by simp), led.builder,
      around.builder b below (by simp)]
  have cursor : (w'.builder b).cursor = w₄.joins.size := by rw [builder]
  have grew : w.joins.size ≤ w₄.joins.size :=
    Nat.le_trans placed.onward.joins_grow around.joins_grow
  refine ⟨rest, onward, builder, grew, fun opened => ?_⟩
  refine ready.moved (Nat.le_trans placed.onward.builders_grow onward.builders_grow) opened ?_
    (by rw [builder, placed.builder]) (by rw [cursor]; exact grew)
  rw [cursor]
  exact after.isOpen (by simp) led.cursor

/-- The ways of a loop are those of its two conditions. -/
theorem byOperand_loop {m : Node} (loop : m.kind = .loop)
    (guards : m.transitions.guards =
      [.equals Builder.continueLooping, .equals Builder.doneLooping]) {s : Nat}
    {x y : Option String} (first : Slot.read (.condition s 0) m.transitions = some x)
    (second : Slot.read (.condition s 1) m.transitions = some y) :
    Way.byOperand Builder.continueLooping (m.prepared r).transitions.ways = some x ∧
      Way.byOperand Builder.doneLooping (m.prepared r).transitions.ways = some y := by
  have operands (g : Guard) : m.operands g = g.operands := if_neg (by rw [loop]; exact nofun)
  simp only [Node.byOperand_prepared, operands]
  unfold Transitions.guards at guards
  obtain ⟨e, rest, conditions, one, guards⟩ := List.map_eq_cons_iff.1 guards
  obtain ⟨e', rest', conditions', two, _⟩ := List.map_eq_cons_iff.1 guards
  simp only [Slot.read, conditions, conditions', List.getElem?_cons_zero, List.getElem?_cons_succ,
    Option.map_some, Option.some.injEq] at first second
  rw [conditions, conditions', ← first, ← second]
  constructor
  · rw [List.find?_cons_of_pos (by rw [one]; decide)]
    rfl
  · rw [List.find?_cons_of_neg (by rw [one]; decide), List.find?_cons_of_pos (by rw [two]; decide)]
    rfl

/-- A step that goes round its body. -/
theorem Spans.loops {times : Int} {frame : Frame} {d : Draft} {a' alloc : Allocator}
    {join : Option Nat} {operands : Guard → List Scalar} {ways : List (Way × Plan)}
    {kinds : List ErrorKind} {body : Plan} (sound : w.Sound) (ready : w.Ready b)
    (placed : Placed b w w₁ n) (appended : Appended (.loop (.int times)) frame d n a' alloc)
    (opened : Onward [] [] [] [] w₁ v) (target : (v.joins.get back).target = some n.id)
    {n₁ n₄ : Node} (alike : n₁.Alike n) (round : Round r back n₁ v w₄ body)
    (member : n₄ ∈ w₄.graph.toList) (serial : n₄.serial = n.serial)
    (led : Led b n₄.serial (.equals Builder.doneLooping)
      (.condition n₄.serial n₄.transitions.conditions.length) w₄ w₅)
    (forks : Forks r n.serial join operands [] w₅ w' ways [] kinds) :
    Spans r b w w' (.loops n.id times.toNat body) := by
  have around : Onward [n.serial] [] [] [] w₁ w₄ := by
    have start : Onward [n.serial] [] [] [] w₁ v :=
      opened.weaken placed.onward.sound (by simp) (by simp) (by simp) (by simp)
    exact start.trans (alike.serial ▸ round.onward)
  -- the node has one condition when the body is closed
  have gains₄ : n₄.Gains n [.equals Builder.continueLooping] [] := by
    obtain ⟨n', there, gains⟩ := round.grown
    have same : n₄ = n' := Graph.eq_of_serial around.sound.tidy member there
      (serial.trans (gains.serial.trans alike.serial).symm)
    simpa [same] using gains.trans (.of_alike alike)
  have length : n₄.transitions.conditions.length = 1 := by
    rw [gains₄.conditions_length, appended.bare]
    rfl
  rw [length, serial] at led
  have leaves := goesOn_of_led ready placed around led forks.onward
  have cursor : (w'.builder b).cursor = w₄.joins.size := by rw [leaves.builder]
  have gains' : ∃ n' ∈ w'.graph.toList,
      n'.Gains n [.equals Builder.continueLooping, .equals Builder.doneLooping] kinds := by
    obtain ⟨n₅, member₅, alike₅⟩ := led.node n₄ member serial
    obtain ⟨n', member', more⟩ := forks.grown n₅ member₅ (alike₅.serial.trans serial)
    exact ⟨n', member', by simpa using more.trans ((Node.Gains.of_condition alike₅).trans gains₄)⟩
  refine Spans.of_placed sound placed leaves.onward (by simp) (by rw [leaves.builder])
    (by rw [cursor]; exact leaves.grew) leaves.ready (fun _ _ _ => rfl) (fun _ unfinished => unfinished)
    (fun closed => ?_) (fun q l among => ?_) fun F q e c settles here leads laid => ?_
  · rw [leaves.builder, placed.builder, appended.kind] at closed
    exact absurd rfl closed
  · rcases List.mem_cons.1 among with rfl | among
    · exact .inr placed.fresh
    rcases List.mem_append.1 among with inside | after
    · exact .inr fun used => round.fresh l inside (opened.used (placed.onward.used used))
    · exact .inl after
  · rw [cursor] at settles leads
    have known := placed.known
    obtain ⟨m, member', gains⟩ := settles.gains placed gains'
    -- the flow is led out of the loop where it goes on
    have done : F.graph.Edge (.condition n.serial 1) (F.leads w₄.joins.size) := by
      have before : Settles w₁ w₅ [w₄.joins.size] F :=
        (settles.later placed.onward).earlier led.onward.sound forks.onward (by simpa using known)
          (by simp) (by simp)
      exact before.becomes.waiting _ _ led.waits
    have inside : Settles v w₄ [] F := by
      refine ((settles.later placed.onward).later opened).earlier around.sound leaves.rest
        (by simpa using Nat.lt_of_lt_of_le known opened.count) (by simp) fun j among below => ?_
      rw [List.mem_singleton.1 among] at below
      exact absurd below (Nat.lt_irrefl _)
    have returns : F.leads back = some n.id := by
      have there : back < v.joins.size := by
        by_contra above
        simp [Joins.get_above (Nat.le_of_not_lt above)] at target
      refine inside.becomes.resolved _ _ ?_
      rw [(round.onward.join back there (by simp)).1, target]
    obtain ⟨more, body_laid⟩ := round.laid F n.id inside returns
    rw [alike.serial] at more
    obtain ⟨first, second⟩ := byOperand_loop (r := r) (gains.kind.trans appended.kind)
      (by rw [gains.guards, appended.bare]; rfl)
      (more.read settles.tidy member' gains.serial) (done.read settles.tidy member' gains.serial)
    refine .loops (appended.has rfl member' gains (Action.site_loops (gains.kind.trans appended.kind)
      appended.drafted (gains.parameters.trans appended.parameters))) first ?_ (fun among => ?_)
      body_laid laid
    · rw [second, leads]
    · exact round.fresh n.id among (opened.used placed.used)

end Loops

end ContactFlow.Workspace
