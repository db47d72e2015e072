import ContactFlow.Proofs.Placing
import ContactFlow.Proofs.Plan
import ContactFlow.Proofs.Prepared
import ContactFlow.Proofs.Visits
import Mathlib.Logic.Function.Basic

/-!
Plans laid out in a graph. Each step of the plan has a node that does what the step does, and every
edge leads to where its branch or the rest of the plan begins. A trace of such a graph does what the
plan does: wherever a part of the plan begins, the trace goes on as that part is carried out, as long
as the loops in it have counted nothing.
-/

namespace ContactFlow

namespace Way

variable {α β : Type}

def isError : Way → Bool
  | .operands _ => false
  | .error _ => true

/-- The ways in the order of a node's edges: those of operands, then those of errors. -/
def sorted (ways : List (Way × α)) : List (Way × α) :=
  ways.filter (fun w => !w.1.isError) ++ ways.filter fun w => w.1.isError

theorem byOperand_map (v : String) (ways : List (Way × α)) (f : α → β) :
    byOperand v (ways.map fun w => (w.1, f w.2)) = (byOperand v ways).map f := by
  rw [byOperand, List.find?_map, Option.map_map, byOperand, Option.map_map]
  rfl

theorem byError_map (kind : ErrorKind) (ways : List (Way × α)) (f : α → β) :
    byError kind (ways.map fun w => (w.1, f w.2)) = (byError kind ways).map f := by
  rw [byError, List.find?_map, Option.map_map, byError, Option.map_map]
  rfl

theorem byOperand_sorted (v : String) (ways : List (Way × α)) :
    byOperand v (sorted ways) = byOperand v ways := by
  have errors : (ways.filter fun w => w.1.isError).find? (fun w => w.1.takes v) = none := by
    rw [List.find?_eq_none]
    rintro ⟨way, a⟩ member
    cases way with
    | operands os => simp [isError] at member
    | error kind => simp [takes]
  have operands : (ways.filter fun w => !w.1.isError).find? (fun w => w.1.takes v) =
      ways.find? fun w => w.1.takes v := by
    rw [List.find?_filter]
    refine congrArg (fun p => ways.find? p) (funext fun w => ?_)
    cases w.1 <;> simp [takes, isError]
  rw [byOperand, sorted, List.find?_append, errors, operands, Option.or_none]
  rfl

theorem byError_sorted (kind : ErrorKind) (ways : List (Way × α)) :
    byError kind (sorted ways) = byError kind ways := by
  have operands : (ways.filter fun w => !w.1.isError).find? (fun w => w.1.catches kind) =
      none := by
    rw [List.find?_eq_none]
    rintro ⟨way, a⟩ member
    cases way with
    | operands os => simp [catches]
    | error kind => simp [isError] at member
  have errors : (ways.filter fun w => w.1.isError).find? (fun w => w.1.catches kind) =
      ways.find? fun w => w.1.catches kind := by
    rw [List.find?_filter]
    refine congrArg (fun p => ways.find? p) (funext fun w => ?_)
    cases w.1 <;> simp [catches, isError, beq_eq_decide]
  rw [byError, sorted, List.find?_append, errors, operands, Option.none_or]
  rfl

theorem byOutcome_sorted (o : String) (ways : List (Way × α)) :
    byOutcome o (sorted ways) = byOutcome o ways := by
  simp only [byOutcome, byOperand_sorted, byError_sorted]

theorem byAttribute_sorted (value : String) (ways : List (Way × α)) :
    byAttribute value (sorted ways) = byAttribute value ways := by
  simp only [byAttribute, byOperand_sorted, byError_sorted]

theorem byOutcome_map (o : String) (ways : List (Way × α)) (f : α → β) :
    byOutcome o (ways.map fun w => (w.1, f w.2)) = (byOutcome o ways).map f := by
  rw [byOutcome, byOperand_map, byOutcome]
  cases byOperand (bare o) ways with
  | some a => rfl
  | none =>
    cases named? o with
    | none => rfl
    | some kind => exact byError_map ..

theorem byAttribute_map (value : String) (ways : List (Way × α)) (f : α → β) :
    byAttribute value (ways.map fun w => (w.1, f w.2)) = (byAttribute value ways).map f := by
  rw [byAttribute, byOperand_map, byAttribute]
  cases byOperand value ways with
  | some a => rfl
  | none => exact byError_map ..

end Way

namespace Plan

open Trace (State)

theorem runWays_eq (m : Machine) (ways : List (Way × Plan)) :
    runWays m ways = ways.map fun w => (w.1, w.2.run (halt .deadEnd) m) := by
  induction ways with
  | nil => rfl
  | cons w rest ih => rw [runWays, ih]; rfl

/-- Where a plan begins, if its end and its return to the flow are to lead to the targets given. -/
def entry (atEnd atResume : Option String) : Plan → Option String
  | .finish => atEnd
  | .resume => atResume
  | .stops id | .goes id .. | .forks id .. | .loops id .. => some id

mutual

/-- The identifiers of the loops in a plan. -/
def loopIds : Plan → List String
  | .finish | .resume | .stops _ => []
  | .goes _ _ rest => rest.loopIds
  | .forks _ _ ways rest => wayLoopIds ways ++ rest.loopIds
  | .loops id _ body rest => id :: (body.loopIds ++ rest.loopIds)

def wayLoopIds : List (Way × Plan) → List String
  | [] => []
  | (_, body) :: rest => body.loopIds ++ wayLoopIds rest

end

theorem mem_wayLoopIds {ways : List (Way × Plan)} {id : String} :
    id ∈ wayLoopIds ways ↔ ∃ w ∈ ways, id ∈ w.2.loopIds := by
  induction ways with
  | nil => simp [wayLoopIds]
  | cons w rest ih => rw [wayLoopIds, List.mem_append, ih, List.exists_mem_cons_iff]

/-- The ways out of a node whose branches return to the flow at a target. -/
def edges (atResume : Option String) (ways : List (Way × Plan)) : List (Way × Option String) :=
  Way.sorted (ways.map fun w => (w.1, w.2.entry none atResume))

theorem byOutcome_edges (c : Option String) (o : String) (ways : List (Way × Plan)) :
    Way.byOutcome o (edges c ways) = (Way.byOutcome o ways).map (·.entry none c) := by
  rw [edges, Way.byOutcome_sorted, Way.byOutcome_map]

theorem byAttribute_edges (c : Option String) (value : String) (ways : List (Way × Plan)) :
    Way.byAttribute value (edges c ways) = (Way.byAttribute value ways).map (·.entry none c) := by
  rw [edges, Way.byAttribute_sorted, Way.byAttribute_map]

/-- The nodes of a plan are there, at sites that lead from one to the other. -/
inductive Laid (P : String → Site → Prop) : Option String → Option String → Plan → Prop
  | finish {e c : Option String} : Laid P e c .finish
  | resume {e c : Option String} : Laid P e c .resume
  | stops {e c : Option String} {id : String} (site : P id .ends) : Laid P e c (.stops id)
  | goes {e c : Option String} {id : String} {sets : Table} {rest : Plan}
      (site : P id (.goes (.ok sets) (rest.entry e c))) (onward : Laid P e c rest) :
      Laid P e c (.goes id sets rest)
  | forks {e c : Option String} {id : String} {about : Option String} {ways : List (Way × Plan)}
      {rest : Plan} (site : P id (.forks (.ok about) (edges (rest.entry e c) ways)))
      (branches : ∀ w ∈ ways, Laid P none (rest.entry e c) w.2) (onward : Laid P e c rest) :
      Laid P e c (.forks id about ways rest)
  | loops {e c : Option String} {id : String} {times : Nat} {body rest : Plan}
      {ways : List (Way × Option String)} (site : P id (.loops (.ok times) ways))
      (more : Way.byOperand Builder.continueLooping ways = some (body.entry (some id) (some id)))
      (done : Way.byOperand Builder.doneLooping ways = some (rest.entry e c))
      (apart : id ∉ body.loopIds) (inside : Laid P (some id) (some id) body)
      (onward : Laid P e c rest) : Laid P e c (.loops id times body rest)

/-- Whether a plan may come to its end. -/
def finishes : Plan → Bool
  | .finish => true
  | .resume | .stops _ => false
  | .goes _ _ rest | .forks _ _ _ rest | .loops _ _ _ rest => rest.finishes

theorem entry_unfinished {p : Plan} (unfinished : p.finishes = false) (e e' c : Option String) :
    p.entry e c = p.entry e' c := by
  cases p with
  | finish => cases unfinished
  | _ => rfl

/-- Where its end would lead to is nothing to a plan that never comes to it. -/
theorem Laid.unfinished {P : String → Site → Prop} {e c : Option String} {p : Plan}
    (laid : Laid P e c p) (unfinished : p.finishes = false) (e' : Option String) :
    Laid P e' c p := by
  induction laid with
  | finish => cases unfinished
  | resume => exact .resume
  | stops site => exact .stops site
  | @goes e c id sets rest site _ ih =>
    have same : rest.entry e c = rest.entry e' c :=
      entry_unfinished (p := rest) unfinished e e' c
    rw [same] at site
    exact .goes site (ih unfinished)
  | @forks e c id about ways rest site branches _ _ ih =>
    have same : rest.entry e c = rest.entry e' c :=
      entry_unfinished (p := rest) unfinished e e' c
    rw [same] at site branches
    exact .forks site branches (ih unfinished)
  | @loops e c id times body rest ways site more done apart inside _ _ ih =>
    have same : rest.entry e c = rest.entry e' c :=
      entry_unfinished (p := rest) unfinished e e' c
    rw [same] at done
    exact .loops site more done apart inside (ih unfinished)

theorem Laid.mono {P Q : String → Site → Prop} {e c : Option String} {p : Plan}
    (laid : Laid P e c p) (kept : ∀ id site, P id site → Q id site) : Laid Q e c p := by
  induction laid with
  | finish => exact .finish
  | resume => exact .resume
  | stops site => exact .stops (kept _ _ site)
  | goes site _ ih => exact .goes (kept _ _ site) ih
  | forks site _ _ branches ih => exact .forks (kept _ _ site) branches ih
  | loops site more done apart _ _ inside ih =>
    exact .loops (kept _ _ site) more done apart inside ih

/-- The machine does what a trace does that comes to the target with the counts given. -/
def Simulates (g : Graph) (counted : String → Int) (target : Option String) (m : Machine) : Prop :=
  match target with
  | none => m = halt .deadEnd
  | some id => ∀ steps (s : State) counts, (∀ l, Trace.countOf counts (.text l) = counted l) →
      g.follow steps (some id) { s with counts } = m steps s

variable {g : Graph} {counted : String → Int} {id : String} {n : Node} {m : Machine}

/-- A visit is simulated when the move from the node is. -/
theorem simulates_visit (tidy : g.Tidy) (found : g.get? id = some n)
    (moves : ∀ steps (s : State) counts, (∀ l, Trace.countOf counts (.text l) = counted l) →
      (n.site.move id { s with counts } >>= g.proceed steps { s with counts }) = m steps s) :
    Simulates g counted (some id) (visit id m) := by
  intro steps s counts known
  cases steps with
  | zero => rfl
  | succ steps =>
    rw [Graph.follow_succ tidy found]
    exact moves steps (s.visit id) counts known

theorem simulates_halt (tidy : g.Tidy) (found : g.get? id = some n) (site : n.site = .ends) :
    Simulates g counted (some id) (visit id (halt .terminal)) := by
  refine simulates_visit tidy found fun steps s counts _ => ?_
  rw [site]
  rfl

theorem simulates_set (tidy : g.Tidy) (found : g.get? id = some n) {sets : Table}
    {next : Option String} (site : n.site = .goes (.ok sets) next)
    (onward : Simulates g counted next m) :
    Simulates g counted (some id) (visit id (set sets m)) := by
  refine simulates_visit tidy found fun steps s counts known => ?_
  rw [site]
  simp only [Site.move, set, Results.ok_bind]
  cases Site.record s.attributes sets with
  | error e => rfl
  | ok attributes =>
    simp only [Results.ok_bind]
    cases next with
    | none =>
      cases onward
      rfl
    | some next => exact onward steps { s with attributes } counts known

theorem simulates_choose (tidy : g.Tidy) (found : g.get? id = some n) {about : Option String}
    {c : Option String} {ways : List (Way × Plan)}
    (site : n.site = .forks (.ok about) (edges c ways))
    (linked : ∀ edge ∈ edges c ways, edge.2.isSome)
    (branches : ∀ w ∈ ways, Simulates g counted (w.2.entry none c) (w.2.run (halt .deadEnd) m)) :
    Simulates g counted (some id) (visit id (choose id about (runWays m ways))) := by
  -- a branch that was chosen has a target, and goes on there as it is carried out
  have chosen {body : Plan} (way : Way) (edge : (way, body.entry none c) ∈ edges c ways)
      (member : ∃ way, (way, body) ∈ ways) :
      ∀ steps (s : State) counts, (∀ l, Trace.countOf counts (.text l) = counted l) →
        g.follow steps (body.entry none c) { s with counts } =
          body.run (halt .deadEnd) m steps s := by
    obtain ⟨_, member⟩ := member
    have onward := branches _ member
    obtain ⟨next, leads⟩ := Option.isSome_iff_exists.1 (linked _ edge)
    simp only at leads
    rw [leads] at onward ⊢
    exact onward
  refine simulates_visit tidy found fun steps s counts known => ?_
  rw [site]
  simp only [Site.move, choose, Results.ok_bind, runWays_eq, Way.byAttribute_map, Way.byOutcome_map]
  cases about.bind fun name => s.attributes.lookup (.text name) with
  | some value =>
    simp only
    have leads := byAttribute_edges c value ways
    cases taken : Way.byAttribute value ways with
    | none =>
      rw [taken] at leads
      simp only [leads]
      rfl
    | some body =>
      rw [taken] at leads
      obtain ⟨way, edge⟩ := Way.byAttribute_mem leads
      simp only [leads]
      exact chosen way edge (Way.byAttribute_mem taken) steps s counts known
  | none =>
    simp only
    cases s.pending with
    | nil => rfl
    | cons outcome rest =>
      simp only
      cases Trace.shaped outcome.asText with
      | error e => rfl
      | ok outcome =>
        simp only [Results.ok_bind]
        have leads := byOutcome_edges c outcome ways
        cases taken : Way.byOutcome outcome ways with
        | none =>
          rw [taken] at leads
          simp only [leads]
          rfl
        | some body =>
          rw [taken] at leads
          obtain ⟨way, edge⟩ := Way.byOutcome_mem leads
          simp only [leads]
          exact chosen way edge (Way.byOutcome_mem taken) steps (s.taken outcome rest) counts known

theorem simulates_laps (tidy : g.Tidy) (found : g.get? id = some n) {times : Nat}
    {ways : List (Way × Option String)} (site : n.site = .loops (.ok times) ways)
    {inner outer : Option String} (more : Way.byOperand Builder.continueLooping ways = some inner)
    (done : Way.byOperand Builder.doneLooping ways = some outer)
    (linked : inner.isSome ∧ outer.isSome) (zero : counted id = 0) {body : Machine → Machine}
    (inside : ∀ k again, Simulates g (Function.update counted id k) (some id) again →
      Simulates g (Function.update counted id k) inner (body again))
    (onward : Simulates g counted outer m) :
    Simulates g counted (some id) (laps id body m times) := by
  obtain ⟨inner, rfl⟩ := Option.isSome_iff_exists.1 linked.1
  obtain ⟨outer, rfl⟩ := Option.isSome_iff_exists.1 linked.2
  have recount {counts : List (Scalar × Int)} {k k' : Int}
      (known : ∀ l, Trace.countOf counts (.text l) = Function.update counted id k l) (l : String) :
      Trace.countOf ((.text id, k') :: counts) (.text l) = Function.update counted id k' l := by
    by_cases here : l = id
    · subst here
      simp
    · rw [Trace.countOf_cons_other here, known, Function.update_of_ne here,
        Function.update_of_ne here]
  -- when so many rounds are left, the others have been counted
  have rounds (k : Nat) (below : k ≤ times) :
      Simulates g (Function.update counted id (times - k : Nat)) (some id)
        (laps id body m k) := by
    induction k with
    | zero =>
      refine simulates_visit tidy found fun steps s counts known => ?_
      have here : Trace.countOf counts (.text id) = times := by simp [known]
      have round : Site.round (Trace.countOf counts (.text id) + 1) times = ("DoneLooping", 0) := by
        rw [here]
        exact if_neg (by omega)
      have target : Way.byOperand "DoneLooping" ways = some (some outer) := done
      simp only [site, Site.move, Results.ok_bind, round, target]
      refine onward steps s _ fun l => (recount known l).trans ?_
      rw [← zero, Function.update_eq_self]
    | succ k ih =>
      refine simulates_visit tidy found fun steps s counts known => ?_
      have here : Trace.countOf counts (.text id) = (times - (k + 1) : Nat) := by simp [known]
      have round : Site.round (Trace.countOf counts (.text id) + 1) times =
          ("ContinueLooping", ((times - k : Nat) : Int)) := by
        rw [here, show ((times - (k + 1) : Nat) : Int) + 1 = (times - k : Nat) by omega]
        exact if_pos (by omega)
      have target : Way.byOperand "ContinueLooping" ways = some (some inner) := more
      simp only [site, Site.move, Results.ok_bind, round, target]
      exact inside _ _ (ih (by omega)) steps s _ (recount known)
  have all := rounds times (Nat.le_refl times)
  have first : ((times - times : Nat) : Int) = counted id := by rw [zero]; omega
  rw [first, Function.update_eq_self] at all
  exact all

/-- What the edges of a graph's nodes are led to, if none was left open. -/
def Linked (g : Graph) : Prop :=
  ∀ n ∈ g.toList, ∀ way ∈ n.transitions.ways, way.2.isSome

/-- A trace goes on as a plan is carried out, wherever the plan begins. -/
theorem Laid.simulates (tidy : g.Tidy) (linked : Linked g) {e c : Option String} {p : Plan}
    (laid : Laid (fun id site => ∃ n, g.get? id = some n ∧ n.site = site) e c p)
    {atEnd atResume : Machine} (fresh : ∀ l ∈ p.loopIds, counted l = 0)
    (ends : Simulates g counted e atEnd) (resumes : Simulates g counted c atResume) :
    Simulates g counted (p.entry e c) (p.run atEnd atResume) := by
  have ways_linked {id : String} {n : Node} {ways : List (Way × Option String)}
      (found : g.get? id = some n)
      (site : n.transitions.ways = ways) : ∀ way ∈ ways, way.2.isSome :=
    site ▸ linked n ((Graph.get?_eq_some tidy).1 found).1
  induction laid generalizing counted atEnd atResume with
  | finish => exact ends
  | resume => exact resumes
  | stops there =>
    obtain ⟨n, found, site⟩ := there
    exact simulates_halt tidy found site
  | goes there _ ih =>
    obtain ⟨n, found, site⟩ := there
    exact simulates_set tidy found site (ih fresh ends resumes)
  | @forks e c id about ways rest there _ _ branches onward =>
    obtain ⟨n, found, site⟩ := there
    have rest_fresh : ∀ l ∈ rest.loopIds, counted l = 0 :=
      fun l among => fresh l (List.mem_append_right _ among)
    have resumed := onward rest_fresh ends resumes
    refine simulates_choose tidy found site (ways_linked found (Node.ways_of_forks site))
      fun w member => branches w member (fun l among => ?_) rfl resumed
    exact fresh l (List.mem_append_left _ (mem_wayLoopIds.2 ⟨w, member, among⟩))
  | @loops e c id times body rest ways there more done apart _ _ inner onward =>
    obtain ⟨n, found, site⟩ := there
    have all := ways_linked found (Node.ways_of_loops site)
    obtain ⟨_, edge⟩ := Way.byOperand_mem more
    obtain ⟨_, edge'⟩ := Way.byOperand_mem done
    refine simulates_laps tidy found site more done ⟨all _ edge, all _ edge'⟩
      (fresh id List.mem_cons_self) (fun k again simulated => ?_)
      (onward (fun l among => fresh l ?_) ends resumes)
    · refine inner (fun l among => ?_) simulated simulated
      have other : l ≠ id := fun same => apart (same ▸ among)
      rw [Function.update_of_ne other]
      exact fresh l (List.mem_cons_of_mem _ (List.mem_append_left _ among))
    · exact List.mem_cons_of_mem _ (List.mem_append_right _ among)

end Plan

/-! ### Laying

Building lays a plan out. While a list of steps is appended, its plan is laid from the join point at
which the builder stood to the one at which it stands then, whatever the join points lead to in the
end.
-/

/-- A new node is named as its step's plan says. -/
theorem Graph.newNode_name {g g' : Graph} {n : Node} {frame : Frame} {d : Draft}
    (added : g.newNode d.kind (Workspace.hintFor (.orNull frame.label) d.hint) d.parameters
      (.orNull frame.id) = .ok (n, g')) : frame.name d g.allocator = (n.id, g'.allocator) := by
  obtain ⟨id, label⟩ := frame
  cases id with
  | none =>
    obtain ⟨text, hint, made⟩ := Results.map_eq_ok.1 added
    have named : label.elim d.hint (fun label => if label = "" then d.hint else label) = text := by
      cases label with
      | none => exact Except.ok.inj (Results.ok_of_mapError hint)
      | some label =>
        by_cases empty : label = ""
        · subst empty
          exact Except.ok.inj (Results.ok_of_mapError hint)
        · have shown : Workspace.hintFor (.orNull (some label)) d.hint = .text label :=
            if_pos (by simpa [Value.orNull, Value.isTruthy, Scalar.isTruthy] using empty)
          rw [shown] at hint
          simpa [empty] using Except.ok.inj (Results.ok_of_mapError hint)
    obtain ⟨rfl, rfl⟩ := Prod.ext_iff.1 made
    simp only [Frame.name, named]
    rfl
  | some id =>
    obtain ⟨⟨name, a⟩, reserved, made⟩ := Results.map_eq_ok.1 added
    obtain ⟨rfl, rfl⟩ := Prod.ext_iff.1 made
    unfold Allocator.reserveValue at reserved
    split at reserved
    · cases reserved
    · obtain ⟨text, same, reserved⟩ := Results.bind_eq_ok.1 reserved
      obtain ⟨a', step, result⟩ := Results.bind_eq_ok.1 reserved
      cases result
      cases same
      unfold Allocator.reserve at step
      split at step
      · cases step
      split at step
      · cases step
      · cases step
        rfl

namespace Workspace

open Plan

variable {w w' w'' : Workspace} {b : Nat} {r : Registry}

/-- The node of an action that was appended. -/
structure Appended (a : Action) (frame : Frame) (d : Draft) (n : Node) (a' : Allocator)
    (alloc : Allocator) : Prop where
  drafted : a.draft = .ok d
  kind : n.kind = a.kind
  parameters : n.parameters = d.parameters
  mode : n.mode = d.mode
  spec : n.spec = d.spec
  retry : d.retry = .good n.retry
  bare : n.transitions = {}
  name : frame.name d alloc = (n.id, a')

theorem append_placed (sound : w.Sound) (ready : w.Ready b) {a : Action} {frame : Frame}
    {node : Handle} (appended : Builder.append b a (.orNull frame.label) (.orNull frame.id) w =
      (.ok node, w')) :
    ∃ d n, node = n.handle ∧ Placed b w w' n ∧
      Appended a frame d n w'.graph.allocator w.graph.allocator := by
  obtain ⟨d, n, g, retry, drafted, good, _, made, rfl, rfl⟩ := Builder.append_ok appended
  obtain ⟨grown, kind, parameters, bare⟩ := Graph.newNode_ok sound.tidy made
  have completed := grown.modifyNode sound.tidy (complete d) ⟨rfl, rfl⟩
  have placed := placed_place sound ready completed bare
  have same : (w.withNode (g.modifyNode n.serial (complete d)) (complete d n).id).place b
      (complete d n).handle (complete d n).kind = w.placeNew b d n g := by
    rw [placeNew, ← kind]
    rfl
  rw [same] at placed
  have named := Graph.newNode_name made
  refine ⟨d, complete d n, rfl, placed, drafted, kind.trans (Action.draft_kind drafted), parameters,
    rfl, rfl, by simp [complete, good], bare, ?_⟩
  rw [named]
  obtain ⟨f, changed, _⟩ := (relinked_place (w.withNode (g.modifyNode n.serial (complete d)) n.id)
    b n.handle d.kind).1
  exact Prod.ext rfl changed.allocator.symm

/-! ### Branches of a node -/

/-- A node ends up with one stage, tried once, and does in the end what the site says. -/
def Future.Has (F : Future) (r : Registry) (id : String) (site : Site) : Prop :=
  ∃ m ∈ F.graph.toList, m.id = id ∧ m.spec = none ∧ m.retry = none ∧ (m.prepared r).site = site

/-- The edges that were added to a node, one for each way, when the node had so many conditions and
errors before. Each edge leads to where its branch begins. -/
inductive Attached (edge : Slot → Option String → Prop) (operands : Guard → List Scalar)
    (node : Nat) (c : Option String) :
    Nat → Nat → List (Way × Plan) → List Guard → List ErrorKind → Prop
  | done (k l : Nat) : Attached edge operands node c k l [] [] []
  | condition {k l : Nat} {guard : Guard} {body : Plan} {ways : List (Way × Plan)}
      {guards : List Guard} {kinds : List ErrorKind}
      (leads : edge (.condition node k) (body.entry none c))
      (rest : Attached edge operands node c (k + 1) l ways guards kinds) :
      Attached edge operands node c k l ((.operands (operands guard), body) :: ways)
        (guard :: guards) kinds
  | error {k l : Nat} {kind : ErrorKind} {body : Plan} {ways : List (Way × Plan)}
      {guards : List Guard} {kinds : List ErrorKind}
      (leads : edge (.error node l) (body.entry none c))
      (rest : Attached edge operands node c k (l + 1) ways guards kinds) :
      Attached edge operands node c k l ((.error kind, body) :: ways) guards (kind :: kinds)

namespace Attached

variable {edge : Slot → Option String → Prop} {operands : Guard → List Scalar} {node : Nat}
  {c : Option String} {k l : Nat} {ways ways' : List (Way × Plan)} {guards guards' : List Guard}
  {kinds kinds' : List ErrorKind}

theorem append (first : Attached edge operands node c k l ways guards kinds)
    (second : Attached edge operands node c (k + guards.length) (l + kinds.length) ways' guards'
      kinds') :
    Attached edge operands node c k l (ways ++ ways') (guards ++ guards') (kinds ++ kinds') := by
  induction first with
  | done => exact second
  | @condition k l guard body ways guards kinds leads rest ih =>
    refine .condition leads (ih ?_)
    rwa [List.length_cons, ← Nat.add_assoc, Nat.add_right_comm] at second
  | @error k l kind body ways guards kinds leads rest ih =>
    refine .error leads (ih ?_)
    rwa [List.length_cons, ← Nat.add_assoc, Nat.add_right_comm l] at second

/-- All edges of a node together lead where its ways do. -/
theorem edges_eq {g : Graph} (tidy : g.Tidy) {m : Node} (member : m ∈ g.toList)
    (serial : m.serial = node)
    (attached : Attached g.Edge operands node c k l ways guards kinds)
    (conditions : m.transitions.guards.drop k = guards)
    (errors : m.transitions.kinds.drop l = kinds) :
    (m.transitions.conditions.drop k).map (fun e => (Way.operands (operands e.guard), e.target)) ++
      (m.transitions.errors.drop l).map (fun e => (Way.error e.kind, e.target)) =
        edges c ways := by
  have split : (m.transitions.conditions.drop k).map
        (fun e => (Way.operands (operands e.guard), e.target)) =
        (ways.map fun w => (w.1, w.2.entry none c)).filter (fun w => !w.1.isError) ∧
      (m.transitions.errors.drop l).map (fun e => (Way.error e.kind, e.target)) =
        (ways.map fun w => (w.1, w.2.entry none c)).filter fun w => w.1.isError := by
    have next {α : Type} {l : List α} {i : Nat} {a : α} (found : l[i]? = some a) :
        l.drop i = a :: l.drop (i + 1) := by
      obtain ⟨below, rfl⟩ := List.getElem?_eq_some_iff.1 found
      exact List.drop_eq_getElem_cons below
    simp only [Transitions.guards, Transitions.kinds, ← List.map_drop] at conditions errors
    induction attached with
    | done =>
      rw [List.map_eq_nil_iff] at conditions errors
      simp [conditions, errors]
    | @condition k l guard body ways guards kinds leads rest ih =>
      obtain ⟨e, found, target⟩ := Option.map_eq_some_iff.1 (leads.read tidy member serial)
      rw [next found, List.map_cons, List.cons.injEq] at conditions
      obtain ⟨rfl, onward⟩ := conditions
      obtain ⟨one, two⟩ := ih onward errors
      rw [next found]
      simp [Way.isError, one, two, target]
    | @error k l kind body ways guards kinds leads rest ih =>
      obtain ⟨e, found, target⟩ := Option.map_eq_some_iff.1 (leads.read tidy member serial)
      rw [next found, List.map_cons, List.cons.injEq] at errors
      obtain ⟨rfl, onward⟩ := errors
      obtain ⟨one, two⟩ := ih conditions onward
      rw [next found]
      simp [Way.isError, one, two, target]
  rw [split.1, split.2]
  rfl

end Attached

end Workspace

end ContactFlow
