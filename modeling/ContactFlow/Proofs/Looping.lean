import ContactFlow.Expansion.Retry
import ContactFlow.Proofs.Expanding
import ContactFlow.Proofs.Orderly

/-!
What the expansion of retries makes of each node that may be tried again: its retryable errors lead
to a loop, by way of a marker each when they have different handlers, and the loop leads back to the
node or on to the handler.
-/

namespace ContactFlow

namespace Looping

open Draft

/-! ### The handlers of a node -/

/-- The handlers found so far, with one more. -/
def gather (groups : List (String × ErrorKind)) (e : ErrorEdge) : List (String × ErrorKind) :=
  match e.target with
  | some target => if Ordered.contains groups target then groups else groups ++ [(target, e.kind)]
  | none => groups

theorem handlers_eq (r : RetrySpec) (es : List ErrorEdge) :
    handlers r es = (es.filter (retries r)).foldl gather [] := rfl

theorem contains_iff {groups : List (String × ErrorKind)} {h : String} :
    Ordered.contains groups h = true ↔ ∃ k, (h, k) ∈ groups := by
  simp only [Ordered.contains, List.any_eq_true, beq_iff_eq]
  constructor
  · rintro ⟨⟨h', k⟩, member, rfl⟩
    exact ⟨k, member⟩
  · rintro ⟨k, member⟩
    exact ⟨(h, k), member, rfl⟩

/-- Handlers are gathered from the edges that lead to them, each once. -/
structure Gathered (es : List ErrorEdge) (groups : List (String × ErrorKind)) : Prop where
  from_edges : ∀ g ∈ groups, ∃ e ∈ es, e.target = some g.1 ∧ e.kind = g.2
  all : ∀ e ∈ es, ∀ h, e.target = some h → ∃ k, (h, k) ∈ groups
  distinct : (groups.map (·.1)).Nodup

theorem gathered_foldl {done es : List ErrorEdge} {groups : List (String × ErrorKind)}
    (gathered : Gathered done groups) : Gathered (done ++ es) (es.foldl gather groups) := by
  induction es generalizing done groups with
  | nil => simpa using gathered
  | cons e rest ih =>
    have next : Gathered (done ++ [e]) (gather groups e) := by
      obtain ⟨edges, all, distinct⟩ := gathered
      have old (g : String × ErrorKind) (member : g ∈ groups) :
          ∃ e' ∈ done ++ [e], e'.target = some g.1 ∧ e'.kind = g.2 := by
        obtain ⟨e', inside, leads⟩ := edges g member
        exact ⟨e', List.mem_append_left _ inside, leads⟩
      unfold gather
      cases target : e.target with
      | none =>
        refine ⟨old, fun e' member h leads => ?_, distinct⟩
        rcases List.mem_append.1 member with before | here
        · exact all e' before h leads
        · rw [List.mem_singleton.1 here, target] at leads
          cases leads
      | some h =>
        simp only
        split
        · rename_i known
          refine ⟨old, fun e' member h' leads => ?_, distinct⟩
          rcases List.mem_append.1 member with before | here
          · exact all e' before h' leads
          · rw [List.mem_singleton.1 here, target] at leads
            cases leads
            exact contains_iff.1 known
        · rename_i new
          refine ⟨fun g member => ?_, fun e' member h' leads => ?_, ?_⟩
          · rcases List.mem_append.1 member with before | here
            · exact old g before
            · rw [List.mem_singleton.1 here]
              exact ⟨e, List.mem_append_right _ (List.mem_singleton_self e), target, rfl⟩
          · rcases List.mem_append.1 member with before | here
            · obtain ⟨k, inside⟩ := all e' before h' leads
              exact ⟨k, List.mem_append_left _ inside⟩
            · rw [List.mem_singleton.1 here, target] at leads
              cases leads
              exact ⟨e.kind, List.mem_append_right _ (List.mem_singleton_self _)⟩
          · rw [List.map_append]
            refine distinct.append (List.nodup_singleton _) ?_
            intro h' before here
            obtain ⟨g, member, rfl⟩ := List.mem_map.1 before
            have same : g.1 = h := by simpa using here
            exact new (contains_iff.2 ⟨g.2, by rw [← same]; exact member⟩)
    simpa using ih next

theorem gathered_handlers (r : RetrySpec) (es : List ErrorEdge) :
    Gathered (es.filter (retries r)) (handlers r es) := by
  have start : Gathered [] [] := ⟨by simp, by simp, List.nodup_nil⟩
  have folded : Gathered ([] ++ es.filter (retries r)) ((es.filter (retries r)).foldl gather []) :=
    gathered_foldl start
  simpa [handlers_eq] using folded

/-! ### The nodes that are added -/

variable {s : Looping} {g : Graph} {n : Node} {r : RetrySpec}

theorem add_grown (tidy : s.graph.Tidy) (kind : ActionKind) (hint : String) (parameters : Table)
    (transitions : Transitions) :
    ∃ m, s.graph.Grown m (s.add kind hint parameters transitions).2.graph ∧
      m.id = (s.add kind hint parameters transitions).1 ∧ m.kind = kind ∧
      m.parameters = parameters ∧ m.transitions = transitions := by
  let a := s.graph.allocateNode kind hint parameters
  have grown : s.graph.Grown a.1 a.2 := Graph.grown_allocateNode tidy ..
  exact ⟨_, grown.modifyNode tidy (fun _ => { a.1 with transitions }) ⟨rfl, rfl⟩, rfl, rfl, rfl, rfl⟩

theorem changed_setTransitions (tidy : s.graph.Tidy) (id : String) (t : Transitions) :
    s.graph.Changed (fun n => if n.id = id then { n with transitions := t } else n)
      (s.setTransitions id t).graph :=
  Graph.changed_modify tidy id _

/-- The transitions of a node that was added may be set. -/
theorem extends_setTransitions (tidy : g.Tidy) (extended : g.Extends s.graph) {id : String}
    (fresh : id ∉ g.allocator.used) (t : Transitions) :
    g.Extends (s.setTransitions id t).graph := by
  refine extended.changed tidy (changed_setTransitions extended.tidy id t)
    (Graph.keeps_if fun _ _ _ => ⟨rfl, rfl⟩) fun n member below => if_neg fun same => ?_
  rcases extended.fresh n member with old | ⟨_, above⟩
  · exact fresh (same ▸ tidy.used _ ((Graph.mem_keys tidy).2 ⟨n, old, rfl⟩))
  · omega

/-- The way back to a node, by way of a retry prompt if there is one. -/
inductive Back (P : Node → Prop) (node : String) : Option String → List String → String → Prop
  | straight {prompt : Option String} (silent : prompt.getD "" = "") :
    Back P node prompt [] node
  | prompted {m : Node} {prompt : String} (loud : prompt ≠ "") (placed : P m)
      (kind : m.kind = .message) (parameters : m.parameters = [textKey "Text" prompt])
      (next : m.transitions.next = some node) : Back P node (some prompt) [m.id] m.id

/-- Where the loop of a node leads. -/
def around (entry exit : String) : Transitions :=
  { conditions := [⟨.equals Builder.continueLooping, some entry⟩,
      ⟨.equals Builder.doneLooping, some exit⟩] }

/-- The loop of a node: it leads back to the node until its rounds are used up. -/
def Loops (P : Node → Prop) (rounds : Int) (entry exit loop : String) : Prop :=
  ∃ l, P l ∧ l.id = loop ∧ l.kind = .loop ∧
    l.parameters = [textKey "LoopCount" (toString rounds)] ∧ l.transitions = around entry exit

/-- The attribute that a marker sets. -/
def mark (kind : ErrorKind) : Table :=
  [key "Attributes" (.record [(retryExitAttribute, .text kind.label)])]

/-- A marker records a kind of error and goes on as given. -/
def Marks (P : Node → Prop) (kind : ErrorKind) (next : Option String) (id : String) : Prop :=
  ∃ m, P m ∧ m.id = id ∧ m.kind = .setAttributes ∧ m.parameters = mark kind ∧
    m.transitions.next = next

section Mono

variable {P Q : Node → Prop} {node entry exit loop id : String} {prompt next : Option String}
  {prompts : List String} {rounds : Int} {kind : ErrorKind}

theorem Back.mono (back : Back P node prompt prompts entry)
    (kept : ∀ m, m.kind = .message → P m → Q m) : Back Q node prompt prompts entry := by
  cases back with
  | straight silent => exact .straight silent
  | prompted loud placed kind parameters next =>
    exact .prompted loud (kept _ kind placed) kind parameters next

theorem Loops.mono (loops : Loops P rounds entry exit loop)
    (kept : ∀ m, m.kind = .loop → P m → Q m) : Loops Q rounds entry exit loop := by
  obtain ⟨l, placed, id, kind, rest⟩ := loops
  exact ⟨l, kept l kind placed, id, kind, rest⟩

theorem Marks.mono (marks : Marks P kind next id) (kept : ∀ m, P m → Q m) :
    Marks Q kind next id := by
  obtain ⟨m, placed, rest⟩ := marks
  exact ⟨m, kept m placed, rest⟩

end Mono

/-- A loop that was added is wired up. -/
theorem wire_loop (tidy : g.Tidy) (extended : g.Extends s.graph) {l : Node} {rounds : Int}
    {node entry : String} {prompt : Option String} {prompts : List String}
    (added : g.Adds s.graph l) (kind : l.kind = .loop)
    (parameters : l.parameters = [textKey "LoopCount" (toString rounds)])
    (exit : String)
    (back : Back (g.Adds s.graph) node prompt prompts entry) :
    let after := (s.setTransitions l.id (around entry exit)).graph
    g.Extends after ∧ Loops (g.Adds after) rounds entry exit l.id ∧
      Back (g.Adds after) node prompt prompts entry := by
  have changed := changed_setTransitions extended.tidy l.id (around entry exit)
  have kept (m : Node) (message : m.kind = .message) (placed : g.Adds s.graph m) :
      g.Adds (s.setTransitions l.id (around entry exit)).graph m := by
    refine ⟨?_, placed.2⟩
    have other : m.id ≠ l.id := fun same => by
      rw [Graph.eq_of_id extended.tidy placed.1 added.1 same, kind] at message
      cases message
    rw [changed.toList]
    exact List.mem_map.2 ⟨m, placed.1, if_neg other⟩
  refine ⟨extends_setTransitions tidy extended added.2 _,
    ⟨{ l with transitions := around entry exit }, ⟨?_, added.2⟩, rfl, kind, parameters, rfl⟩,
    back.mono kept⟩
  rw [changed.toList]
  exact List.mem_map.2 ⟨l, added.1, if_pos rfl⟩

/-- A loop for a node that leads nowhere yet. -/
def withLoop (s : Looping) (n : Node) (r : RetrySpec) : String × Looping :=
  s.add .loop (n.id ++ "_retry") [textKey "LoopCount" (toString (r.maxAttempts - 1))] {}

def withPrompt (s : Looping) (n : Node) (prompt : String) : String × Looping :=
  s.add .message (n.id ++ "_retry_prompt") [textKey "Text" prompt] { next := some n.id }

/-- A marker that goes nowhere yet. -/
def withMarker (s : Looping) (n : Node) (kind : ErrorKind) : String × Looping :=
  s.add .setAttributes (n.id ++ "_failed_" ++ kind.label) (mark kind) {}

/-- The state with a loop wired up. -/
def wired (s : Looping) (n : Node) (r : RetrySpec) (loop entry exit : String) : String × Looping :=
  (loop, { s.setTransitions loop (around entry exit) with
    reports := s.reports ++ [.looped n.id loop exit r.maxAttempts] })

theorem addLoop_silent (s : Looping) (n : Node) (exit : String)
    (silent : r.retryPrompt.getD "" = "") :
    s.addLoop n r exit = (s.withLoop n r).2.wired n r (s.withLoop n r).1 n.id exit := by
  unfold addLoop
  cases prompt : r.retryPrompt with
  | none => rfl
  | some text =>
    rw [prompt, Option.getD_some] at silent
    subst silent
    rfl

theorem addLoop_prompt (s : Looping) (n : Node) (exit : String) {prompt : String}
    (given : r.retryPrompt = some prompt) (loud : prompt ≠ "") :
    s.addLoop n r exit = ((s.withLoop n r).2.withPrompt n prompt).2.wired n r (s.withLoop n r).1
      ((s.withLoop n r).2.withPrompt n prompt).1 exit := by
  unfold addLoop withLoop withPrompt wired around
  simp only [given]
  generalize s.add .loop (n.id ++ "_retry") _ {} = looped
  generalize looped.2.add .message (n.id ++ "_retry_prompt") _ _ = prompted
  rfl

/-- There is no retry prompt, or one that says something. -/
theorem prompt_cases (r : RetrySpec) :
    r.retryPrompt.getD "" = "" ∨ ∃ prompt, r.retryPrompt = some prompt ∧ prompt ≠ "" := by
  cases r.retryPrompt with
  | none => exact .inl rfl
  | some prompt =>
    by_cases silent : prompt = ""
    · exact .inl silent
    · exact .inr ⟨prompt, rfl, silent⟩

/-- The loop and the retry prompt of a node are added to what there is. -/
theorem addLoop_spec (tidy : s.graph.Tidy) (n : Node) (r : RetrySpec) (exit : String) :
    let after := (s.addLoop n r exit).2.graph
    s.graph.Extends after ∧ ∃ prompts entry,
      Loops (s.graph.Adds after) (r.maxAttempts - 1) entry exit (s.addLoop n r exit).1 ∧
      Back (s.graph.Adds after) n.id r.retryPrompt prompts entry := by
  obtain ⟨l, grown, loop, kind, parameters, _⟩ : ∃ l, s.graph.Grown l (s.withLoop n r).2.graph ∧
    l.id = (s.withLoop n r).1 ∧ _ := add_grown tidy ..
  have extended := Graph.Extends.of_grown tidy grown
  have added := Graph.Adds.of_grown grown
  rcases prompt_cases r with silent | ⟨prompt, given, loud⟩
  · obtain ⟨extends', loops, back⟩ := wire_loop tidy extended added kind parameters exit
      (.straight silent)
    rw [addLoop_silent s n exit silent, ← loop]
    exact ⟨extends', [], n.id, loops, back⟩
  · obtain ⟨m, grown', entry, message, text, transitions⟩ : ∃ m, (s.withLoop n r).2.graph.Grown m
      ((s.withLoop n r).2.withPrompt n prompt).2.graph ∧
      m.id = ((s.withLoop n r).2.withPrompt n prompt).1 ∧ _ := add_grown extended.tidy ..
    have onward := Graph.Extends.of_grown extended.tidy grown'
    have prompted := (Graph.Adds.of_grown grown').after extended
    obtain ⟨extends', loops, back⟩ := wire_loop tidy (extended.trans onward)
      (added.before onward) kind parameters exit
      (.prompted loud prompted message text (by rw [transitions]))
    rw [addLoop_prompt s n exit given loud, ← loop, ← entry, given]
    exact ⟨extends', [m.id], m.id, loops, back⟩

/-! ### Markers and the comparison on them -/

theorem addMarkers_cons (s : Looping) (n : Node) (handler : String) (kind : ErrorKind)
    (rest : List (String × ErrorKind)) :
    s.addMarkers n ((handler, kind) :: rest) =
      ((handler, (s.withMarker n kind).1) :: ((s.withMarker n kind).2.addMarkers n rest).1,
        ((s.withMarker n kind).2.addMarkers n rest).2) := rfl

/-- One marker is added for each handler. -/
theorem addMarkers_spec (tidy : s.graph.Tidy) (n : Node) (groups : List (String × ErrorKind)) :
    let after := (s.addMarkers n groups).2.graph
    s.graph.Extends after ∧
    List.Forall₂ (fun group marker => group.1 = marker.1 ∧
      Marks (s.graph.Adds after) group.2 none marker.2) groups (s.addMarkers n groups).1 := by
  induction groups generalizing s with
  | nil => exact ⟨.refl tidy, .nil⟩
  | cons group rest ih =>
    obtain ⟨handler, kind⟩ := group
    obtain ⟨m, grown, name, set, parameters, bare⟩ : ∃ m,
      s.graph.Grown m (s.withMarker n kind).2.graph ∧ m.id = (s.withMarker n kind).1 ∧ _ :=
      add_grown tidy ..
    have extended := Graph.Extends.of_grown tidy grown
    obtain ⟨onward, pairs⟩ := ih extended.tidy
    rw [addMarkers_cons]
    refine ⟨extended.trans onward, .cons ⟨rfl, m, ?_, name, set, parameters, by rw [bare]⟩ ?_⟩
    · exact (Graph.Adds.of_grown grown).before onward
    · exact pairs.imp fun _ _ ⟨same, marks⟩ => ⟨same, marks.mono fun _ added => added.after extended⟩

/-- A marker that was added is led to the loop; no other node changes. -/
theorem wire_marker (tidy : g.Tidy) (extended : g.Extends s.graph) (loop : String) {id : String}
    (marked : ∃ kind next, Marks (g.Adds s.graph) kind next id) :
    let after := (s.setTransitions id { next := some loop }).graph
    g.Extends after ∧ (∀ m, m.kind ≠ .setAttributes → g.Adds s.graph m → g.Adds after m) ∧
    ∀ kind next id', Marks (g.Adds s.graph) kind next id' →
      Marks (g.Adds after) kind (if id' = id then some loop else next) id' := by
  obtain ⟨_, _, m, added, name, set, _⟩ := marked
  have changed := changed_setTransitions extended.tidy id { next := some loop }
  have same (k : Node) (inside : k ∈ s.graph.toList) (here : k.id = id) : k = m :=
    Graph.eq_of_id extended.tidy inside added.1 (here.trans name.symm)
  refine ⟨extends_setTransitions tidy extended (name ▸ added.2) _, fun k other there => ?_, ?_⟩
  · refine ⟨?_, there.2⟩
    rw [changed.toList]
    refine List.mem_map.2 ⟨k, there.1, if_neg fun here => other ?_⟩
    rw [same k there.1 here, set]
  · rintro kind next id' ⟨k, there, rfl, set', parameters, goes⟩
    by_cases here : k.id = id
    · refine ⟨{ k with transitions := { next := some loop } }, ⟨?_, there.2⟩, rfl, set', parameters,
        by rw [if_pos here]⟩
      rw [changed.toList]
      exact List.mem_map.2 ⟨k, there.1, if_pos here⟩
    · refine ⟨k, ⟨?_, there.2⟩, rfl, set', parameters, by rw [if_neg here, goes]⟩
      rw [changed.toList]
      exact List.mem_map.2 ⟨k, there.1, if_neg here⟩

theorem wire_markers (tidy : g.Tidy) (extended : g.Extends s.graph) (loop : String)
    {markers : List (String × String)}
    (marked : ∀ m ∈ markers, ∃ kind next, Marks (g.Adds s.graph) kind next m.2) :
    let after := (markers.foldl (fun s m => s.setTransitions m.2 { next := some loop }) s).graph
    g.Extends after ∧ (∀ m, m.kind ≠ .setAttributes → g.Adds s.graph m → g.Adds after m) ∧
    ∀ kind next id, Marks (g.Adds s.graph) kind next id →
      Marks (g.Adds after) kind (if id ∈ markers.map (·.2) then some loop else next) id := by
  induction markers generalizing s with
  | nil => exact ⟨extended, fun _ _ added => added, fun _ _ _ marks => by simpa using marks⟩
  | cons m rest ih =>
    obtain ⟨first, others, wired⟩ :=
      wire_marker tidy extended loop (marked m List.mem_cons_self)
    obtain ⟨onward, others', wired'⟩ := ih first fun m' later => by
      obtain ⟨kind, next, marks⟩ := marked m' (List.mem_cons_of_mem _ later)
      exact ⟨kind, _, wired kind next m'.2 marks⟩
    refine ⟨onward, fun k other added => others' k other (others k other added), ?_⟩
    intro kind next id marks
    have done := wired' kind _ id (wired kind next id marks)
    rw [List.map_cons]
    by_cases later : id ∈ rest.map (·.2)
    · rw [if_pos later] at done
      rwa [if_pos (List.mem_cons_of_mem _ later)]
    · rw [if_neg later] at done
      by_cases here : id = m.2
      · rw [if_pos here] at done
        rwa [if_pos (here ▸ List.mem_cons_self)]
      · rw [if_neg here] at done
        rwa [if_neg fun among => (List.mem_cons.1 among).elim here later]

section Markers

variable {groups : List (String × ErrorKind)} {markers : List (String × String)}
  {P : ErrorKind → String → Prop}

theorem marker_kind (pairs : List.Forall₂ (fun group marker => group.1 = marker.1 ∧
      P group.2 marker.2) groups markers) : ∀ m ∈ markers, ∃ kind, P kind m.2 := by
  induction pairs with
  | nil => exact nofun
  | @cons group marker groups markers pair _ ih =>
    intro m member
    rcases List.mem_cons.1 member with rfl | later
    · exact ⟨group.2, pair.2⟩
    · exact ih m later

/-- The marker of a handler is found by the handler. -/
theorem lookup_marker (distinct : (groups.map (·.1)).Nodup)
    (pairs : List.Forall₂ (fun group marker => group.1 = marker.1 ∧ P group.2 marker.2)
      groups markers) {h : String} {kind : ErrorKind} (member : (h, kind) ∈ groups) :
    ∃ id ∈ markers.map (·.2), markers.lookup h = some id ∧ P kind id := by
  induction pairs with
  | nil => cases member
  | @cons group marker groups markers pair _ ih =>
    obtain ⟨outside, distinct⟩ := List.nodup_cons.1 distinct
    obtain ⟨name, holds⟩ := pair
    obtain ⟨h', id⟩ := marker
    rcases List.mem_cons.1 member with rfl | later
    · exact ⟨id, List.mem_cons_self,
        by rw [List.lookup_cons, show (h == h') = true from beq_iff_eq.2 name], holds⟩
    · have other : h ≠ h' := fun same =>
        outside (List.mem_map.2 ⟨(h, kind), later, same.trans name.symm⟩)
      obtain ⟨id', among, found, holds'⟩ := ih distinct later
      exact ⟨id', List.mem_cons_of_mem _ among, by
        rw [List.lookup_cons, show (h == h') = false from beq_eq_false_iff_ne.2 other, found],
        holds'⟩

end Markers

end Looping

end ContactFlow
