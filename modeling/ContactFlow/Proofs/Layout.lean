import ContactFlow.Proofs.Laid

/-!
Stretches of a flow under construction. The steps that a builder appends make a stretch of the flow,
from the join point at which the builder stood to the one at which it stands then. What the stretch
does before it goes on to a plan is laid there, whatever the flow comes to in the end.
-/

namespace ContactFlow

namespace Node

/-- A node as it was, but for its targets and for the conditions and errors it has got. -/
structure Gains (n m : Node) (guards : List Guard) (kinds : List ErrorKind) : Prop where
  id : n.id = m.id
  serial : n.serial = m.serial
  kind : n.kind = m.kind
  parameters : n.parameters = m.parameters
  retry : n.retry = m.retry
  spec : n.spec = m.spec
  mode : n.mode = m.mode
  guards : n.transitions.guards = m.transitions.guards ++ guards
  kinds : n.transitions.kinds = m.transitions.kinds ++ kinds

namespace Gains

variable {n m k : Node} {guards guards' : List Guard} {kinds kinds' : List ErrorKind}

theorem trans (second : n.Gains m guards' kinds') (first : m.Gains k guards kinds) :
    n.Gains k (guards ++ guards') (kinds ++ kinds') where
  id := second.id.trans first.id
  serial := second.serial.trans first.serial
  kind := second.kind.trans first.kind
  parameters := second.parameters.trans first.parameters
  retry := second.retry.trans first.retry
  spec := second.spec.trans first.spec
  mode := second.mode.trans first.mode
  guards := by rw [second.guards, first.guards, List.append_assoc]
  kinds := by rw [second.kinds, first.kinds, List.append_assoc]

theorem of_alike (alike : n.Alike m) : n.Gains m [] [] :=
  ⟨alike.id, alike.serial, alike.kind, alike.parameters, alike.retry, alike.spec, alike.mode,
    by rw [alike.guards, List.append_nil], by rw [alike.kinds, List.append_nil]⟩

theorem of_condition {guard : Guard} (alike : n.Alike (m.plusCondition guard)) :
    n.Gains m [guard] [] :=
  ⟨alike.id, alike.serial, alike.kind, alike.parameters, alike.retry, alike.spec, alike.mode,
    alike.guards.trans (guards_plusCondition guard m), by rw [alike.kinds, List.append_nil]; rfl⟩

theorem of_error {kind : ErrorKind} (alike : n.Alike (m.plusError kind)) : n.Gains m [] [kind] :=
  ⟨alike.id, alike.serial, alike.kind, alike.parameters, alike.retry, alike.spec, alike.mode,
    by rw [alike.guards, List.append_nil]; rfl, alike.kinds.trans (kinds_plusError kind m)⟩

theorem conditions_length (gains : n.Gains m guards kinds) :
    n.transitions.conditions.length = m.transitions.conditions.length + guards.length := by
  have lengths := congrArg List.length gains.guards
  simpa [Transitions.guards] using lengths

theorem errors_length (gains : n.Gains m guards kinds) :
    n.transitions.errors.length = m.transitions.errors.length + kinds.length := by
  have lengths := congrArg List.length gains.kinds
  simpa [Transitions.kinds] using lengths

end Gains

end Node

namespace Opening

def guards : Opening → List Guard
  | .condition guard _ => [guard]
  | .error _ => []

def kinds : Opening → List ErrorKind
  | .condition .. => []
  | .error kind => [kind]

/-- The node with the edge of an opening, which comes after those it has. -/
def extend : Opening → Node → Node
  | .condition guard _ => Node.plusCondition guard
  | .error kind => Node.plusError kind

def slot (n : Node) : Opening → Slot
  | .condition .. => .condition n.serial n.transitions.conditions.length
  | .error _ => .error n.serial n.transitions.errors.length

theorem gains {o : Opening} {n m : Node} (alike : n.Alike (o.extend m)) :
    n.Gains m o.guards o.kinds := by
  cases o with
  | condition guard key => exact .of_condition alike
  | error kind => exact .of_error alike

end Opening

namespace Workspace

open Plan

variable {w w' w'' : Workspace} {b : Nat} {r : Registry}

/-- Where a builder of a scope goes on that returns to the flow. -/
def Future.resumes (F : Future) : Scope → Option String
  | .branch (some k) => F.leads k
  | _ => none

/-! ### What comes of a stretch -/

/-- The second workspace comes to what it is, but for the nodes and join points that the first one
had, and the join points given. -/
structure Settles (w w' : Workspace) (live : List Nat) (F : Future) : Prop where
  tidy : F.graph.Tidy
  becomes : w'.Becomes F (List.range w.graph.count) (live ++ List.range w.joins.size)

namespace Settles

variable {F : Future} {live live' nodes builders sets joins : List Nat}

theorem later (settles : Settles w w'' live F) (onward : Onward nodes builders sets joins w w') :
    Settles w' w'' live F := by
  refine ⟨settles.tidy, settles.becomes.mono (fun i among => ?_) fun j among => ?_⟩
  · exact List.mem_range.2 (Nat.lt_of_lt_of_le (List.mem_range.1 among) onward.count)
  · rcases List.mem_append.1 among with here | among
    · exact List.mem_append_left _ here
    · exact List.mem_append_right _
        (List.mem_range.2 (Nat.lt_of_lt_of_le (List.mem_range.1 among) onward.joins_grow))

/-- Other join points may be live too, and those that were there before need not be given. -/
theorem more (settles : Settles w w' live F) (lives : ∀ j ∈ live, j < w.joins.size ∨ j ∈ live') :
    Settles w w' live' F := by
  refine ⟨settles.tidy, settles.becomes.mono (fun _ among => among) fun j among => ?_⟩
  rw [List.mem_append, List.mem_range] at among ⊢
  rcases among with here | old
  · exact (lives j here).symm
  · exact .inr old

/-- What the rest of a stretch changes was there before or is live. -/
theorem earlier (settles : Settles w w'' live F) (sound : w'.Sound)
    (onward : Onward nodes builders sets joins w' w'') (changed : ∀ i ∈ nodes, i < w.graph.count)
    (moved : ∀ j ∈ joins, j < w.joins.size ∨ j ∈ live')
    (known : ∀ j ∈ live, j < w'.joins.size → j < w.joins.size ∨ j ∈ live') :
    Settles w w' live' F := by
  have more : w''.Becomes F (List.range w.graph.count) ((live ++ List.range w.joins.size) ++ live') :=
    settles.becomes.mono (fun _ among => among) fun _ among => List.mem_append_left _ among
  -- going back over the stretch needs more join points live than are live before it
  have before := onward.back F _ _ (fun i among => List.mem_range.2 (changed i among))
    (fun j among => ?_) more
  · refine ⟨settles.tidy, before.restrict sound (fun _ among _ => among) fun j among below => ?_⟩
    rw [List.mem_append, List.mem_append, List.mem_range] at among
    rw [List.mem_append, List.mem_range, or_comm]
    rcases among with (among | old) | among
    · exact known j among below
    · exact .inl old
    · exact .inr among
  · rw [List.mem_append, List.mem_append, List.mem_range]
    rcases moved j among with old | among
    · exact .inl (.inr old)
    · exact .inr among

/-- A node that was not there before has its last conditions and errors. -/
theorem node (settles : Settles w w' live F) {n : Node} (member : n ∈ w'.graph.toList)
    (new : w.graph.count ≤ n.serial) : ∃ m ∈ F.graph.toList, m.Alike n :=
  settles.becomes.nodes n member fun among => Nat.not_lt.2 new (List.mem_range.1 among)

/-- A join point that is neither live nor was there before leads nowhere if it is open. -/
theorem idle (settles : Settles w w' live F) {j : Nat} (open_ : w'.joins.IsOpen j)
    (new : w.joins.size ≤ j) (apart : j ∉ live) : F.leads j = none := by
  refine settles.becomes.idle j open_ fun among => ?_
  rcases List.mem_append.1 among with here | old
  · exact apart here
  · exact Nat.not_lt.2 new (List.mem_range.1 old)

/-- The first of two stretches settles where its builder stands between them. -/
theorem front (settles : Settles w w'' [(w''.builder b).cursor] F) (first : Advances b w w')
    (second : Advances b w' w'') : Settles w w' [(w'.builder b).cursor] F := by
  refine settles.earlier first.onward.sound second.onward (by simp) (fun j among => .inr among)
    fun j among below => ?_
  rw [List.mem_singleton.1 among] at below ⊢
  rcases second.cursor with same | above
  · exact .inr (List.mem_singleton.2 same)
  · exact absurd below (Nat.not_lt.2 above)

end Settles

/-- A builder has appended a stretch of the flow, which does what the plan says before it goes on to
a plan that comes next. -/
structure Spans (r : Registry) (b : Nat) (w w' : Workspace) (front : Plan → Plan) : Prop where
  advances : Advances b w w'
  onward : ∀ q, q.finishes = false → (front q).finishes = false
  closes : (w'.builder b).status ≠ .opened → ∀ q, (front q).finishes = false
  fresh : ∀ q, ∀ l ∈ (front q).loopIds, l ∈ q.loopIds ∨ l ∉ w.graph.allocator.used
  starts : w.graph.entry = none → (w.builder b).scope = .root →
    w'.graph = w.graph ∧ (∀ q, front q = q) ∨
      ∃ id, w'.graph.entry = some id ∧ ∀ q e c, (front q).entry e c = some id
  laid : ∀ F q e, Settles w w' [(w'.builder b).cursor] F →
    F.leads (w'.builder b).cursor = q.entry e (F.resumes (w.builder b).scope) →
    Laid (F.Has r) e (F.resumes (w.builder b).scope) q →
    F.leads (w.builder b).cursor = (front q).entry e (F.resumes (w.builder b).scope) ∧
      Laid (F.Has r) e (F.resumes (w.builder b).scope) (front q)

namespace Spans

variable {front front' : Plan → Plan}

theorem refl (sound : w.Sound) (ready : w.Ready b) : Spans r b w w id where
  advances := .refl sound ready
  onward := fun _ unfinished => unfinished
  closes := fun closed => absurd ready.opened closed
  fresh := fun _ _ among => .inl among
  starts := fun _ _ => .inl ⟨rfl, fun _ => rfl⟩
  laid := fun _ _ _ _ leads laid => ⟨leads, laid⟩

theorem trans (sound : w.Sound) (first : Spans r b w w' front) (second : Spans r b w' w'' front') :
    Spans r b w w'' (front ∘ front') where
  advances := first.advances.trans sound second.advances
  onward := fun q unfinished => first.onward _ (second.onward q unfinished)
  closes := fun closed q => first.onward _ (second.closes closed q)
  fresh := fun q l among => by
    rcases first.fresh _ l among with among | new
    · rcases second.fresh q l among with among | new
      · exact .inl among
      · exact .inr fun used => new (first.advances.onward.used used)
    · exact .inr new
  starts := fun none root => by
    rcases first.starts none root with ⟨still, same⟩ | ⟨id, entry, begins⟩
    · simp only [Function.comp, same]
      rw [← still]
      exact second.starts (still ▸ none) (first.advances.scope.trans root)
    · exact .inr ⟨id, second.advances.onward.entry id entry, fun q => begins (front' q)⟩
  laid := fun F q e settles leads laid => by
    have scope := first.advances.scope
    have before := settles.front first.advances second.advances
    -- the second stretch goes on to `q`, and what it does is what the first one goes on to
    have after := second.laid F q e (settles.later first.advances.onward)
    rw [scope] at after
    obtain ⟨begins, onward⟩ := after leads laid
    exact first.laid F (front' q) e before begins onward

end Spans

/-! ### The branches of a node -/

namespace Opened

variable {node : Nat} {join : Option Nat} {f : Node → Node} {slot : Slot} {F : Future}

theorem cursor_eq (opened : Opened node join f slot w w') :
    (w'.builder w.builders.size).cursor = w.joins.size := by
  rw [opened.builder]

theorem scope_eq (opened : Opened node join f slot w w') :
    (w'.builder w.builders.size).scope = .branch join := by
  rw [opened.builder]

/-- A branch is filled, and nothing that was there before changes but its node. -/
theorem filled (opened : Opened node join f slot w w') (sound : w.Sound)
    (advances : Advances w.builders.size w' w'') : Onward [node] [] [] [] w w'' := by
  refine opened.onward.chain sound advances.onward (by simp) (fun i among below => ?_) (by simp)
    fun j among below => ?_
  · exact absurd below (by simp [List.mem_singleton.1 among])
  · exact absurd below (by simp [List.mem_singleton.1 among, opened.cursor_eq])

theorem grown (opened : Opened node join f slot w w') (advances : Advances w.builders.size w' w'')
    (n : Node) (member : n ∈ w.graph.toList) (serial : n.serial = node) :
    ∃ n' ∈ w''.graph.toList, n'.Alike (f n) := by
  obtain ⟨n', member', alike⟩ := opened.node n member serial
  obtain ⟨n'', member'', alike'⟩ := advances.onward.kept n' member' (by simp)
  exact ⟨n'', member'', alike'.trans alike⟩

/-- The builder of a branch stands at none of the join points that were there before. -/
theorem new (opened : Opened node join f slot w w') (advances : Advances w.builders.size w' w'') :
    w.joins.size ≤ (w''.builder w.builders.size).cursor := by
  rcases advances.cursor with same | above
  · exact Nat.le_of_eq (same.trans opened.cursor_eq).symm
  · exact Nat.le_trans opened.onward.joins_grow above

/-- The end of a branch that is left open leads nowhere. -/
theorem idle (opened : Opened node join f slot w w') (advances : Advances w.builders.size w' w'')
    (settles : Settles w w'' [] F) (open_ : (w''.builder w.builders.size).status = .opened) :
    F.leads (w''.builder w.builders.size).cursor = none :=
  settles.idle (advances.ready open_).cursor (opened.new advances) (by simp)

/-- The edge of a branch leads to where its first action is. -/
theorem edge (opened : Opened node join f slot w w') (advances : Advances w.builders.size w' w'')
    (settles : Settles w w'' [] F) : F.graph.Edge slot (F.leads w.joins.size) := by
  have before : Settles w w' [w.joins.size] F :=
    settles.earlier opened.onward.sound advances.onward (by simp) (by simp [opened.cursor_eq]) (by simp)
  exact before.becomes.waiting _ _ opened.waits

end Opened

/-- Branches have been opened on a node and filled, one for each way, and the node has the guards and
the kinds of errors by which they are chosen. -/
structure Forks (r : Registry) (node : Nat) (join : Option Nat) (operands : Guard → List Scalar)
    (sets : List Nat) (w w' : Workspace) (ways : List (Way × Plan)) (guards : List Guard)
    (kinds : List ErrorKind) : Prop where
  onward : Onward [node] [] sets [] w w'
  grown : ∀ n ∈ w.graph.toList, n.serial = node → ∃ n' ∈ w'.graph.toList, n'.Gains n guards kinds
  fresh : ∀ l ∈ wayLoopIds ways, l ∉ w.graph.allocator.used
  laid : ∀ n ∈ w.graph.toList, n.serial = node → ∀ F, Settles w w' [] F →
    Attached F.graph.Edge operands node (F.resumes (.branch join)) n.transitions.conditions.length
      n.transitions.errors.length ways guards kinds ∧
    ∀ way ∈ ways, Laid (F.Has r) none (F.resumes (.branch join)) way.2

namespace Forks

variable {node : Nat} {join : Option Nat} {operands : Guard → List Scalar} {sets : List Nat}
  {ways ways' : List (Way × Plan)} {guards guards' : List Guard} {kinds kinds' : List ErrorKind}

theorem refl (sound : w.Sound) : Forks r node join operands sets w w [] [] [] where
  onward := .refl sound
  grown := fun n member _ => ⟨n, member, .of_alike (.refl n)⟩
  fresh := fun _ among => nomatch among
  laid := fun _ _ _ _ _ => ⟨.done _ _, fun _ among => nomatch among⟩

theorem trans (sound : w.Sound) (first : Forks r node join operands sets w w' ways guards kinds)
    (second : Forks r node join operands sets w' w'' ways' guards' kinds') :
    Forks r node join operands sets w w'' (ways ++ ways') (guards ++ guards') (kinds ++ kinds') where
  onward := first.onward.trans second.onward
  grown := fun n member serial => by
    obtain ⟨n', member', gains⟩ := first.grown n member serial
    obtain ⟨n'', member'', more⟩ := second.grown n' member' (gains.serial.trans serial)
    exact ⟨n'', member'', more.trans gains⟩
  fresh := fun l among => by
    obtain ⟨way, among, inside⟩ := mem_wayLoopIds.1 among
    rcases List.mem_append.1 among with here | there
    · exact first.fresh l (mem_wayLoopIds.2 ⟨way, here, inside⟩)
    · exact fun used =>
        second.fresh l (mem_wayLoopIds.2 ⟨way, there, inside⟩) (first.onward.used used)
  laid := fun n member serial F settles => by
    obtain ⟨n', member', gains⟩ := first.grown n member serial
    have known : node < w.graph.count := serial ▸ sound.tidy.counted n member
    have before : Settles w w' [] F :=
      settles.earlier first.onward.sound second.onward (by simpa using known) (by simp) (by simp)
    obtain ⟨attached, bodies⟩ := first.laid n member serial F before
    obtain ⟨more, others⟩ := second.laid n' member' (gains.serial.trans serial) F
      (settles.later first.onward)
    -- the edges of the later branches come after those that the node has gained
    rw [gains.conditions_length, gains.errors_length] at more
    refine ⟨attached.append more, fun way among => ?_⟩
    rcases List.mem_append.1 among with here | there
    · exact bodies way here
    · exact others way there

theorem weaken (forks : Forks r node join operands [] w w' ways guards kinds) (sound : w.Sound) :
    Forks r node join operands sets w w' ways guards kinds where
  onward := forks.onward.weaken sound (fun _ among _ => among) (by simp) (by simp) (by simp)
  grown := forks.grown
  fresh := forks.fresh
  laid := forks.laid

/-- A branch that was opened and filled. If it is left open, its end is a dead end. -/
theorem single (sound : w.Sound) {n : Node} (member : n ∈ w.graph.toList) {o : Opening}
    (opened : Opened n.serial join o.extend (o.slot n) w w') {front : Plan → Plan}
    (spans : Spans r w.builders.size w' w'' front) :
    Forks r n.serial join operands [] w w'' [(o.way operands, front .finish)] o.guards o.kinds where
  onward := opened.filled sound spans.advances
  grown := fun m there serial => by
    obtain ⟨n'', member'', alike⟩ := opened.grown spans.advances m there serial
    exact ⟨n'', member'', o.gains alike⟩
  fresh := fun l among => by
    obtain ⟨way, among, inside⟩ := mem_wayLoopIds.1 among
    rw [List.mem_singleton.1 among] at inside
    rcases spans.fresh .finish l inside with none | new
    · cases none
    · rwa [opened.allocator] at new
  laid := fun m there serial F settles => by
    have same : m = n := Graph.eq_of_serial sound.tidy there member serial
    subst same
    let inner := w''.builder w.builders.size
    obtain ⟨begins, body⟩ := spans.laid F .finish (F.leads inner.cursor)
      ((settles.later opened.onward).more (by simp)) rfl .finish
    rw [opened.cursor_eq] at begins
    rw [opened.scope_eq] at begins body
    have leads : F.leads w.joins.size = (front .finish).entry none (F.resumes (.branch join)) ∧
        Laid (F.Has r) none (F.resumes (.branch join)) (front .finish) := by
      -- an end that is left open leads nowhere, and a branch that was closed does not come to its end
      by_cases open_ : inner.status = .opened
      · rw [opened.idle spans.advances settles open_] at begins body
        exact ⟨begins, body⟩
      · have unfinished := spans.closes open_ .finish
        exact ⟨begins.trans (entry_unfinished unfinished ..), body.unfinished unfinished none⟩
    have waits := opened.edge spans.advances settles
    rw [leads.1] at waits
    refine ⟨?_, by simpa using leads.2⟩
    cases o with
    | condition guard key => exact .condition waits (.done _ _)
    | error kind => exact .error waits (.done _ _)

end Forks

end Workspace

end ContactFlow
