import ContactFlow.Builder.Branching
import ContactFlow.Proofs.Keys
import ContactFlow.Proofs.Site
import ContactFlow.Proofs.Tidy

/-!
Following a graph. A trace of a graph's document goes from node to node as their sites say. The ways
that parts of traces take are kept apart from how many steps there are left: a part that leads from
one target to another is the beginning of every trace that has steps enough.
-/

namespace ContactFlow

/-- The state after a visit. -/
def Trace.State.visit (s : Trace.State) (id : String) : Trace.State :=
  { s with visited := .text id :: s.visited }

namespace Graph

open Trace (State)

/-- The actions of a graph's document, the latest first. -/
def actions (g : Graph) : List (Scalar × Value) :=
  (g.toList.map fun n => (Scalar.text n.id, n.document)).reverse

/-- Follows a graph's document from a target on. -/
def follow (g : Graph) (steps : Nat) (target : Option String) (s : State) : Trace.Result Trace :=
  Trace.follow g.actions steps (.orNull target) s

/-- Stops where a move says so, or follows it. -/
def proceed (g : Graph) (steps : Nat) (s : State) : Trace.Move → Trace.Result Trace
  | .stop why => .ok (s.ended why)
  | .go target s => Trace.follow g.actions steps target s

variable {g : Graph}

theorem actionsOf_documents (ns : List Node) :
    Trace.actionsOf (ns.map Node.document) =
      .ok (ns.map fun n => (Scalar.text n.id, n.document)) := by
  induction ns with
  | nil => rfl
  | cons n rest ih =>
    have key : Trace.shaped (Value.text n.id).asKey = .ok (.text n.id) := rfl
    rw [List.map_cons, Trace.actionsOf, Node.field_identifier, Results.ok_bind, key,
      Results.ok_bind, ih]
    rfl

/-- A trace of a graph's document follows the graph from its entry. -/
theorem ofValues_ofGraph (g : Graph) (version : Value) (more : Table) (outcomes limit : Value) :
    Trace.ofValues (Document.ofGraph g version more) outcomes limit = (do
      let pending ← Trace.items outcomes
      let steps ← Trace.stepsBelow limit
      g.follow steps g.entry { pending }) := by
  have actions : Trace.field (Document.ofGraph g version more) "Actions" =
      .ok (.list (g.toList.map Node.document)) := rfl
  have start : Trace.field (Document.ofGraph g version more) "StartAction" =
      .ok (.orNull g.entry) := rfl
  have listed (l : List Value) : Trace.items (.list l) = .ok l := rfl
  rw [Trace.ofValues, actions, Results.ok_bind, listed, Results.ok_bind, actionsOf_documents,
    Results.ok_bind, start]
  rfl

theorem trace_ofGraph (g : Graph) (version : Value) (more : Table) (outcomes : List String)
    (maxSteps : Nat) :
    trace (Document.ofGraph g version more) outcomes maxSteps =
      g.follow maxSteps g.entry { pending := outcomes.map .text } := by
  rw [trace, ofValues_ofGraph]
  rfl

theorem find?_actions (tidy : g.Tidy) (id : String) :
    Trace.find? g.actions (.text id) = (g.get? id).map Node.document := by
  have searched : g.actions.find? (fun e => e.1.sameKey (.text id)) =
      (g.toList.reverse.find? fun n => n.id == id).map fun n => (Scalar.text n.id, n.document) := by
    rw [actions, ← List.map_reverse, List.find?_map]
    simp only [Function.comp_def, Scalar.sameKey_text]
  rw [Trace.find?, searched, Option.map_map]
  have found : g.toList.reverse.find? (fun n => n.id == id) = g.get? id := by
    refine Option.ext fun n => ?_
    rw [get?_eq_some tidy]
    constructor
    · intro found
      exact ⟨List.mem_reverse.1 (List.mem_of_find?_eq_some found),
        by simpa using List.find?_some found⟩
    · rintro ⟨member, rfl⟩
      obtain ⟨m, first⟩ : ∃ m, g.toList.reverse.find? (fun m => m.id == n.id) = some m :=
        Option.isSome_iff_exists.1 (List.find?_isSome.2 ⟨n, List.mem_reverse.2 member, by simp⟩)
      have inside := List.mem_reverse.1 (List.mem_of_find?_eq_some first)
      have same : m.id = n.id := by simpa using List.find?_some first
      rw [first, eq_of_id tidy inside member same]
  rw [found]
  rfl

theorem follow_zero (g : Graph) (target : Option String) (s : State) :
    g.follow 0 target s = .ok (s.ended .maxSteps) := rfl

/-- What follows a visit of a node is up to its site. -/
theorem follow_succ (tidy : g.Tidy) {id : String} {n : Node} (found : g.get? id = some n)
    (steps : Nat) (s : State) :
    g.follow (steps + 1) (some id) s =
      n.site.move id (s.visit id) >>= g.proceed steps (s.visit id) := by
  have key : Trace.shaped (Value.orNull (some id)).asKey = .ok (.text id) := rfl
  obtain ⟨_, rfl⟩ := (get?_eq_some tidy).1 found
  rw [follow, Trace.follow, key, Results.ok_bind, find?_actions tidy, found, Option.map_some,
    ← Node.move_document]
  refine bind_congr fun move => ?_
  cases move <;> rfl

/-- What is found among the actions of a graph is the document of one of its nodes. -/
theorem find?_actions_mem {key : Scalar} {action : Value}
    (found : Trace.find? g.actions key = some action) :
    ∃ n ∈ g.toList, key = .text n.id ∧ action = n.document := by
  obtain ⟨⟨k, _⟩, first, rfl⟩ := Option.map_eq_some_iff.1 found
  obtain ⟨n, member, here⟩ := List.mem_map.1 (List.mem_reverse.1 (List.mem_of_find?_eq_some first))
  cases here
  have same := List.find?_some (p := fun e : Scalar × Value => e.1.sameKey key) first
  refine ⟨n, member, Eq.symm ?_, rfl⟩
  simpa [Scalar.sameKey, Scalar.integer?, Scalar.instant?] using same

/-- A trace that comes through visits a node, and stops there or goes on. -/
theorem follow_ok {target : Option String} {steps : Nat} {s : State} {t : Trace}
    (followed : g.follow (steps + 1) target s = .ok t) :
    ∃ n ∈ g.toList, target = some n.id ∧
      ((∃ why, n.site.move n.id (s.visit n.id) = .ok (.stop why) ∧ t = (s.visit n.id).ended why) ∨
        ∃ next s', n.site.move n.id (s.visit n.id) = .ok (.go (.orNull next) s') ∧
          g.follow steps next s' = .ok t) := by
  rw [follow, Trace.follow] at followed
  obtain ⟨key, keyed, followed⟩ := Results.bind_eq_ok.1 followed
  cases found : Trace.find? g.actions key with
  | none =>
    rw [found] at followed
    cases followed
  | some action =>
    obtain ⟨n, member, rfl, rfl⟩ := find?_actions_mem found
    have here : target = some n.id := by
      cases target with
      | none => cases keyed
      | some id =>
        cases keyed
        rfl
    simp only [found, Node.move_document] at followed
    obtain ⟨move, moved, followed⟩ := Results.bind_eq_ok.1 followed
    refine ⟨n, member, here, ?_⟩
    cases move with
    | stop why =>
      cases followed
      exact .inl ⟨why, moved, rfl⟩
    | go next s' =>
      obtain ⟨⟨next, rfl⟩, _⟩ := Site.move_go moved
      exact .inr ⟨next, s', moved, followed⟩

/-- A trace comes from one target to another by the visits of a path. -/
inductive Leads (g : Graph) : Option String → State → List String → Option String → State → Prop
  | here (target : Option String) (s : State) : Leads g target s [] target s
  | visit {id : String} {n : Node} {s s' s'' : State} {next target : Option String}
      {path : List String} (found : g.get? id = some n)
      (moved : n.site.move id (s.visit id) = .ok (.go (.orNull next) s'))
      (onward : Leads g next s' path target s'') : Leads g (some id) s (id :: path) target s''

namespace Leads

variable {s s' s'' : State} {t t' t'' : Option String} {path more : List String}

theorem trans (first : g.Leads t s path t' s') (second : g.Leads t' s' more t'' s'') :
    g.Leads t s (path ++ more) t'' s'' := by
  induction first with
  | here => exact second
  | visit found moved _ ih => exact .visit found moved (ih second)

/-- A trace that has steps enough for the path comes to the end of it. -/
theorem follow (tidy : g.Tidy) (leads : g.Leads t s path t' s') (steps : Nat) :
    g.follow (path.length + steps) t s = g.follow steps t' s' := by
  induction leads with
  | here => rw [List.length_nil, Nat.zero_add]
  | @visit id n s s' s'' next target path found moved _ ih =>
    rw [List.length_cons, show path.length + 1 + steps = path.length + steps + 1 by omega,
      follow_succ tidy found, moved, Results.ok_bind]
    exact ih

end Leads

end Graph

/-! ### Progress

Where every way out of a node leads to a node that is there, and the node's parameters can
be read, a trace goes on until it ends. It only gets stuck at an outcome, or at the value of an
attribute, that none of the ways out of a node takes.
-/

open Trace (State)

namespace Site

/-- The ways out of a node all lead somewhere. -/
def Lead (there : String → Prop) (ways : List (Way × Option String)) : Prop :=
  ∀ way ∈ ways, ∃ id, way.2 = some id ∧ there id

/-- A site whose parameters can be read, and whose ways all lead somewhere. A loop has a way for
another round and a way out. -/
inductive Sturdy (there : String → Prop) : Site → Prop
  | ends : Sturdy there .ends
  | goes {sets : Table} {next : Option String}
      (writable : ∀ e ∈ sets, e.2.isWritable = true) (leads : ∀ id, next = some id → there id) :
      Sturdy there (.goes (.ok sets) next)
  | forks {about : Option String} {ways : List (Way × Option String)} (lead : Lead there ways) :
      Sturdy there (.forks (.ok about) ways)
  | loops {limit : Int} {ways : List (Way × Option String)} (lead : Lead there ways)
      (more : Way.byOperand Builder.continueLooping ways ≠ none)
      (done : Way.byOperand Builder.doneLooping ways ≠ none) :
      Sturdy there (.loops (.ok limit) ways)

/-- None of the ways takes the next outcome, or the value that the attribute in question has. -/
inductive Stuck (id : String) (s : State) : Site → TraceError → Prop
  | outcome {about : Option String} {ways : List (Way × Option String)} {o : String}
      {rest : List Value}
      (unknown : (about.bind fun name => s.attributes.lookup (.text name)) = none)
      (pending : s.pending = .text o :: rest) (untaken : Way.byOutcome o ways = none) :
      Stuck id s (.forks (.ok about) ways) (.unmatchedOutcome o (.text id))
  | attribute {name value : String} {ways : List (Way × Option String)}
      (known : s.attributes.lookup (.text name) = some value)
      (untaken : Way.byAttribute value ways = none) :
      Stuck id s (.forks (.ok (some name)) ways) (.unmatchedAttribute value (.text id))

theorem record_ok {added : Table} (writable : ∀ e ∈ added, e.2.isWritable = true)
    (attributes : List (Scalar × String)) :
    ∃ attributes', record attributes added = .ok attributes' := by
  induction added generalizing attributes with
  | nil => exact ⟨attributes, rfl⟩
  | cons e rest ih =>
    obtain ⟨k, v⟩ := e
    rw [List.forall_mem_cons] at writable
    obtain ⟨first, others⟩ := writable
    obtain ⟨attributes', recorded⟩ := ih others (Ordered.put attributes k v.display)
    have step : record attributes ((k, v) :: rest) =
        record (Ordered.put attributes k v.display) rest := by
      simp only [record, List.foldlM_cons, if_pos first, Results.pure_eq, Results.ok_bind]
    exact ⟨attributes', step.trans recorded⟩

variable {site : Site} {id : String} {s : State} {there : String → Prop}
  {ways : List (Way × Option String)}

theorem Lead.byOperand {v : String} {target : Option String} (lead : Lead there ways)
    (taken : Way.byOperand v ways = some target) : ∃ id, target = some id ∧ there id := by
  obtain ⟨way, found, rfl⟩ := Option.map_eq_some_iff.1 taken
  exact lead way (List.mem_of_find?_eq_some found)

theorem Lead.byError {kind : ErrorKind} {target : Option String} (lead : Lead there ways)
    (taken : Way.byError kind ways = some target) : ∃ id, target = some id ∧ there id := by
  obtain ⟨way, found, rfl⟩ := Option.map_eq_some_iff.1 taken
  exact lead way (List.mem_of_find?_eq_some found)

theorem Lead.byOutcome {o : String} {target : Option String} (lead : Lead there ways)
    (taken : Way.byOutcome o ways = some target) : ∃ id, target = some id ∧ there id := by
  unfold Way.byOutcome at taken
  split at taken
  · rename_i operand
    cases taken
    exact lead.byOperand operand
  · obtain ⟨kind, _, caught⟩ := Option.bind_eq_some_iff.1 taken
    exact lead.byError caught

theorem Lead.byAttribute {value : String} {target : Option String} (lead : Lead there ways)
    (taken : Way.byAttribute value ways = some target) : ∃ id, target = some id ∧ there id := by
  unfold Way.byAttribute at taken
  split at taken
  · rename_i operand
    cases taken
    exact lead.byOperand operand
  · exact lead.byError taken

/-- A visit of a sturdy site ends the trace, leads to a node that is there, or is stuck. -/
theorem Sturdy.move (sturdy : site.Sturdy there) (texts : ∀ v ∈ s.pending, ∃ o, v = .text o) :
    (∃ why, site.move id s = .ok (.stop why)) ∨
    (∃ next s', there next ∧ site.move id s = .ok (.go (.text next) s') ∧
      s'.pending ⊆ s.pending) ∨
    ∃ e, site.Stuck id s e ∧ site.move id s = .error e := by
  cases sturdy with
  | ends => exact .inl ⟨.terminal, rfl⟩
  | @goes sets next writable leads =>
    obtain ⟨attributes, recorded⟩ := record_ok writable s.attributes
    simp only [Site.move, Results.ok_bind, recorded]
    cases next with
    | none => exact .inl ⟨.deadEnd, rfl⟩
    | some next =>
      exact .inr (.inl ⟨next, { s with attributes }, leads next rfl, rfl, List.Subset.refl _⟩)
  | @forks about ways lead =>
    simp only [Site.move, Results.ok_bind]
    cases known : about.bind fun name => s.attributes.lookup (.text name) with
    | some value =>
      obtain ⟨name, rfl, value_known⟩ := Option.bind_eq_some_iff.1 known
      cases taken : Way.byAttribute value ways with
      | none =>
        refine .inr (.inr ⟨_, .attribute value_known taken, ?_⟩)
        simp only [taken]
        rfl
      | some target =>
        obtain ⟨next, rfl, inside⟩ := lead.byAttribute taken
        refine .inr (.inl ⟨next, s, inside, ?_, List.Subset.refl _⟩)
        simp only [taken]
        rfl
    | none =>
      cases pending : s.pending with
      | nil => exact .inl ⟨.awaitingInput, rfl⟩
      | cons outcome rest =>
        obtain ⟨o, rfl⟩ := texts outcome (by rw [pending]; exact List.mem_cons_self)
        have read : Trace.shaped (Value.text o).asText = .ok o := rfl
        simp only [read, Results.ok_bind]
        cases taken : Way.byOutcome o ways with
        | none => exact .inr (.inr ⟨_, .outcome known pending taken, rfl⟩)
        | some target =>
          obtain ⟨next, rfl, inside⟩ := lead.byOutcome taken
          exact .inr (.inl ⟨next, s.taken o rest, inside, rfl, List.subset_cons_self _ _⟩)
  | @loops limit ways lead more done =>
    -- whichever way the count sends it, the loop has a condition for it
    have either (count : Int) :
        ∃ target, Way.byOperand (round count limit).1 ways = some target := by
      rw [← Option.ne_none_iff_exists']
      unfold round
      split
      · exact more
      · exact done
    obtain ⟨target, taken⟩ := either (Trace.countOf s.counts (.text id) + 1)
    obtain ⟨next, rfl, inside⟩ := lead.byOperand taken
    simp only [Site.move, Results.ok_bind, taken]
    exact .inr (.inl ⟨next, _, inside, rfl, List.Subset.refl _⟩)

end Site

/-- However far a trace of sturdy nodes is followed, it comes through, or it comes to a node at which
it is stuck. -/
theorem Graph.follow_sturdy {g : Graph} (tidy : g.Tidy)
    (sturdy : ∀ n ∈ g.toList, n.site.Sturdy (· ∈ g.keys)) (steps : Nat) {id : String}
    (there : id ∈ g.keys) {s : State} (texts : ∀ v ∈ s.pending, ∃ o, v = .text o) :
    (∃ t, g.follow steps (some id) s = .ok t) ∨
    ∃ n ∈ g.toList, ∃ path s' e, path.length < steps ∧ g.Leads (some id) s path (some n.id) s' ∧
      n.site.Stuck n.id (s'.visit n.id) e ∧ g.follow steps (some id) s = .error e := by
  induction steps generalizing id s with
  | zero => exact .inl ⟨_, follow_zero g (some id) s⟩
  | succ steps ih =>
    obtain ⟨n, member, rfl⟩ := (mem_keys tidy).1 there
    have found := get?_mem tidy member
    rw [follow_succ tidy found]
    have moves : (∃ why, n.site.move n.id (s.visit n.id) = .ok (.stop why)) ∨ _ :=
      (sturdy n member).move texts
    rcases moves with
      ⟨why, stopped⟩ | ⟨next, s', inside, moved, left⟩ | ⟨e, stuck, failed⟩
    · rw [stopped]
      exact .inl ⟨_, rfl⟩
    · rw [moved]
      have onward : n.site.move n.id (s.visit n.id) = .ok (.go (.orNull (some next)) s') := moved
      have first : g.Leads (some n.id) s [n.id] (some next) s' := .visit found onward (.here _ s')
      rcases ih inside (s := s') fun v among => texts v (left among) with
        ⟨t, followed⟩ | ⟨m, member', path, s'', e, short, leads, stuck, followed⟩
      · exact .inl ⟨t, followed⟩
      · exact .inr ⟨m, member', n.id :: path, s'', e, Nat.succ_lt_succ short, first.trans leads,
          stuck, followed⟩
    · rw [failed]
      exact .inr ⟨n, member, [], s, e, Nat.succ_pos steps, .here _ s, stuck, rfl⟩

end ContactFlow
