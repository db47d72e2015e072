import ContactFlow.Compile
import ContactFlow.Proofs.Following
import ContactFlow.Proofs.Orderly
import ContactFlow.Proofs.Staging
import ContactFlow.Proofs.Trying

/-!
What comes out of a compilation: the document of the graph that is left when the references are
resolved and the inputs and the retries are expanded. A trace of it may be taken up at any point.
-/

namespace ContactFlow

open Trace (State)

/-- A trace of a document from a point on at which a target is to be visited. -/
def Trace.resume (document : Value) (steps : Nat) (target : Option String) (s : State) :
    Trace.Result Trace := do
  let actions ← Trace.actionsOf (← Trace.items (← Trace.field document "Actions"))
  Trace.follow actions.reverse steps (.orNull target) s

/-- From a point of a trace of a document on, a path is visited up to another point, if there are
steps enough. -/
def Document.Passes (document : Value) (target : Option String) (s : State) (path : List String)
    (target' : Option String) (s' : State) : Prop :=
  s'.visited = (path.map Scalar.text).reverse ++ s.visited ∧ ∀ steps,
    Trace.resume document (path.length + steps) target s = Trace.resume document steps target' s'

/-- The points that a trace of some actions comes to. -/
inductive Trace.Reached (actions : List (Scalar × Value)) (start : Value) (s₀ : State) :
    Value → State → Prop
  | start : Reached actions start s₀ start s₀
  | visit {current target action : Value} {s s' : State} {id : Scalar}
      (before : Reached actions start s₀ current s) (key : Trace.shaped current.asKey = .ok id)
      (found : Trace.find? actions id = some action)
      (moved : Trace.move { s with visited := id :: s.visited } id action = .ok (.go target s')) :
    Reached actions start s₀ target s'

/-- A trace of a document comes to a point at which a target is to be visited. -/
def Document.Reaches (document : Value) (outcomes : List String) (target : Option String)
    (s : State) : Prop :=
  ∃ actions start, (Trace.field document "Actions" >>= Trace.items >>= Trace.actionsOf) = .ok actions ∧
    Trace.field document "StartAction" = .ok start ∧
    Trace.Reached actions.reverse start { pending := outcomes.map .text } (.orNull target) s

namespace Registry

variable (r : Registry) (g : Graph)

theorem changed_resolvedGraph : g.Changed r.resolveNode (r.resolvedGraph g) := ⟨rfl, rfl, rfl, rfl⟩

theorem keeps_resolveNode : g.Keeps r.resolveNode := fun _ _ => ⟨rfl, rfl⟩

theorem resolve_ok {r : Registry} {g resolved : Graph} {unresolved : List Unresolved} :
    r.resolve g = .ok (resolved, unresolved) ↔
      g.resolved = false ∧ resolved = r.resolvedGraph g ∧ unresolved = r.unresolved g := by
  unfold resolve
  cases g.resolved with
  | true => simp
  | false => simp [eq_comm]

end Registry

namespace Compiler

variable {c : Compiler} {g : Graph} {flow : Flow} {e : Expanded}

/-- The stages of a successful expansion. -/
structure Stages (c : Compiler) (g : Graph) (staged expanded : Graph) : Prop where
  inputs : (expandInputs (c.registry.resolvedGraph g)).failure = none
  staged_eq : staged = (expandInputs (c.registry.resolvedGraph g)).graph
  retries : (expandRetries staged).failure = none
  expanded_eq : expanded = (expandRetries staged).graph

theorem stages_of_expand (done : c.expand g = .ok e) :
    ∃ staged, Stages c g staged e.graph := by
  unfold expand at done
  obtain ⟨⟨resolved, unresolved⟩, resolving, done⟩ := Results.bind_eq_ok.1 done
  obtain ⟨_, rfl, _⟩ := Registry.resolve_ok.1 resolving
  simp only at done
  cases staging : (expandInputs (c.registry.resolvedGraph g)).failure with
  | some e =>
    rw [staging] at done
    cases done
  | none =>
    rw [staging] at done
    cases looping : (expandRetries (expandInputs (c.registry.resolvedGraph g)).graph).failure with
    | some e =>
      simp only [looping] at done
      cases done
    | none =>
      simp only [looping] at done
      cases done
      exact ⟨_, staging, rfl, looping, rfl⟩

/-- A compiled flow has the document of its expanded graph. -/
theorem compile_ok (compiled : c.compile g = .ok flow) :
    ∃ staged expanded version more, Stages c g staged expanded ∧
      flow.document = Document.ofGraph expanded version more := by
  unfold compile at compiled
  obtain ⟨e, expanding, compiled⟩ := Results.bind_eq_ok.1 compiled
  obtain ⟨staged, stages⟩ := stages_of_expand (Results.ok_of_mapError expanding)
  split at compiled
  · obtain ⟨report, _, compiled⟩ := Results.bind_eq_ok.1 compiled
    obtain ⟨d, written, compiled⟩ := Results.bind_eq_ok.1 compiled
    cases compiled
    unfold document at written
    simp only at written
    split at written
    · obtain ⟨fingerprint, _, rfl⟩ := Results.map_eq_ok.1 (Results.ok_of_mapError written)
      exact ⟨staged, e.graph, _, _, stages, rfl⟩
    · cases written
      exact ⟨staged, e.graph, _, _, stages, rfl⟩
  · cases compiled

/-- The flow that a graph is compiled to by default, if it can be. -/
def byDefault? (g : Graph) : Option Flow :=
  (ofSettings {} {}).toOption.bind fun c => (c.compile g).toOption

theorem byDefault?_eq_some : byDefault? g = some flow ↔
    ∃ c, ofSettings {} {} = .ok c ∧ c.compile g = .ok flow := by
  simp only [byDefault?, Option.bind_eq_some_iff, Results.toOption_eq_some]

namespace Stages

variable {staged expanded : Graph}

theorem tidy_staged (stages : Stages c g staged expanded) (tidy : g.Tidy) : staged.Tidy := by
  have resolved := (c.registry.changed_resolvedGraph g).tidy (c.registry.keeps_resolveNode g) tidy
  exact stages.staged_eq ▸ (ExpandInputs.expanded resolved).tidy

theorem tidy_expanded (stages : Stages c g staged expanded) (tidy : g.Tidy) : expanded.Tidy :=
  stages.expanded_eq ▸ (ExpandRetries.expanded (stages.tidy_staged tidy)).tidy

/-- What was used for the nodes that were built is still used when the retries are expanded. -/
theorem used_staged (stages : Stages c g staged expanded) (tidy : g.Tidy) :
    g.allocator.used ⊆ staged.allocator.used := by
  have resolved := (c.registry.changed_resolvedGraph g).tidy (c.registry.keeps_resolveNode g) tidy
  exact stages.staged_eq ▸ (ExpandInputs.expanded resolved).used

theorem mem_resolved {n : Node} (member : n ∈ g.toList) :
    c.registry.resolveNode n ∈ (c.registry.resolvedGraph g).toList := by
  rw [(c.registry.changed_resolvedGraph g).toList]
  exact List.mem_map_of_mem member

end Stages

end Compiler

namespace Graph

variable {g : Graph} {s s' : State} {t t' : Option String} {path : List String}

theorem move_visited {id : String} {site : Site} {target : Value}
    (moved : site.move id s = .ok (.go target s')) : s'.visited = s.visited := by
  obtain ⟨_, ⟨_, _, _, _, rfl⟩ | ⟨_, _, _, rfl | ⟨_, _, rfl⟩⟩ | ⟨_, _, _, _, _, rfl⟩⟩ :=
    Site.move_go moved
  · rfl
  · rfl
  · rfl
  · rfl

theorem Leads.visited (leads : g.Leads t s path t' s') :
    s'.visited = (path.map Scalar.text).reverse ++ s.visited := by
  induction leads with
  | here => rfl
  | visit _ moved _ ih =>
    rw [ih, move_visited moved]
    simp [State.visit]

theorem resume_ofGraph (g : Graph) (version : Value) (more : Table) (steps : Nat)
    (target : Option String) (s : State) :
    Trace.resume (Document.ofGraph g version more) steps target s = g.follow steps target s := by
  have actions : Trace.field (Document.ofGraph g version more) "Actions" =
      .ok (.list (g.toList.map Node.document)) := rfl
  have listed (l : List Value) : Trace.items (.list l) = .ok l := rfl
  rw [Trace.resume, actions, Results.ok_bind, listed, Results.ok_bind, actionsOf_documents,
    Results.ok_bind]
  rfl

/-- A way through a graph is passed in its document. -/
theorem Leads.passes (tidy : g.Tidy) (leads : g.Leads t s path t' s') (version : Value)
    (more : Table) : Document.Passes (Document.ofGraph g version more) t s path t' s' := by
  refine ⟨leads.visited, fun steps => ?_⟩
  rw [resume_ofGraph, resume_ofGraph]
  exact leads.follow tidy steps

/-- A property of points that holds at the start and is kept by every move of a node holds at every
point that a trace comes to. -/
theorem reaches_induction (tidy : g.Tidy) {P : State → Prop} {outcomes : List String}
    (start : P { pending := outcomes.map .text })
    (step : ∀ n ∈ g.toList, ∀ s s' target, P s →
      n.site.move n.id (s.visit n.id) = .ok (.go target s') → P s')
    {version : Value} {more : Table}
    (reaches : Document.Reaches (Document.ofGraph g version more) outcomes t s) : P s := by
  obtain ⟨actions, first, read, entry, reached⟩ := reaches
  have known : (Trace.field (Document.ofGraph g version more) "Actions" >>= Trace.items >>=
      Trace.actionsOf) = .ok (g.toList.map fun n => (Scalar.text n.id, n.document)) :=
    actionsOf_documents g.toList
  rw [known] at read
  cases read
  have begin : Trace.field (Document.ofGraph g version more) "StartAction" =
      .ok (.orNull g.entry) := rfl
  rw [begin] at entry
  cases entry
  have all (current : Value) (s : State)
      (reached : Trace.Reached g.actions (.orNull g.entry) { pending := outcomes.map .text }
        current s) : (∃ target, current = .orNull target) ∧ P s := by
    induction reached with
    | start => exact ⟨⟨g.entry, rfl⟩, start⟩
    | @visit current target action s s' id _ key found moved ih =>
      obtain ⟨⟨here, rfl⟩, holds⟩ := ih
      cases here with
      | none =>
        cases key
        have nowhere : Trace.find? g.actions .null = none := by
          simp [Trace.find?, actions, Scalar.sameKey_text_null]
        rw [nowhere] at found
        cases found
      | some name =>
        cases key
        rw [find?_actions tidy] at found
        obtain ⟨n, there, rfl⟩ := Option.map_eq_some_iff.1 found
        obtain ⟨member, rfl⟩ := (get?_eq_some tidy).1 there
        rw [Node.move_document] at moved
        exact ⟨(Site.move_go moved).1, step n member s s' target holds moved⟩
  exact (all _ _ reached).2

end Graph

end ContactFlow
