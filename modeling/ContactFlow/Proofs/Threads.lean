import ContactFlow.Proofs.Preorder
import ContactFlow.Proofs.Spanning

/-!
Where the branches of a flow lead. Steps are found by the numbers of their nodes, which follow one
another in preorder, and a branch leads to where its steps begin: to the first node of theirs, to where
they jump, or back to where the flow goes on. What is said here holds of the steps of every flow, with
jumps and inputs of every kind.
-/

namespace ContactFlow

/-- The identifier of the node numbered so. -/
def Graph.idAt (g : Graph) (k : Nat) : Option String := g.toList[k]?.map (·.id)

theorem Item.guards_errorExits (errors : List String) :
    (Item.errorExits errors).filterMap Exit.guard? = [] := by
  induction errors with
  | nil => rfl
  | cons name rest ih =>
    rw [errorExits, List.filterMap_cons]
    cases ErrorKind.ofName? name with
    | none => exact ih
    | some kind => exact ih

namespace Step

theorem branchItems_eq (branches : List (Branch × List Step)) :
    branchItems branches = (branches.map (·.2)).flatMap outline := by
  induction branches with
  | nil => rfl
  | cons e rest ih => rw [branchItems, ih, List.map_cons, List.flatMap_cons]

theorem errorItems_eq (errors : List (String × List Step)) :
    errorItems errors = (errors.map (·.2)).flatMap outline := by
  induction errors with
  | nil => rfl
  | cons e rest ih => rw [errorItems, ih, List.map_cons, List.flatMap_cons]

/-- Where a list of steps begins whose nodes are numbered from `k` on. Its end leads on to one place,
and a return to the flow to another. -/
def begins (g : Graph) (k : Nat) (ends resumes : Option String) : List Step → Option String
  | [] => ends
  | .action .. :: _ => g.idAt k
  | .resume _ :: _ => resumes
  | .jump target _ :: _ => some target

/-- The conditions of a node whose edges lead to lists of steps, one after another. A list that is left
open leads nowhere, and one that returns to the flow leads to what comes after the node. -/
def edges (g : Graph) (after : Option String) : Nat → List Exit → List (List Step) → List ConditionEdge
  | k, exit :: exits, body :: bodies =>
    exit.guard?.toList.map (⟨·, begins g k none after body⟩) ++
      edges g after (k + (outline body).length) exits bodies
  | _, _, _ => []

section Edges

variable (g : Graph) (after : Option String)

theorem edges_append (k : Nat) {exits exits' : List Exit} {bodies bodies' : List (List Step)}
    (each : exits.length = bodies.length) :
    edges g after k (exits ++ exits') (bodies ++ bodies') =
      edges g after k exits bodies ++
        edges g after (k + (bodies.flatMap outline).length) exits' bodies' := by
  induction exits generalizing k bodies with
  | nil =>
    cases List.length_eq_zero_iff.1 each.symm
    rfl
  | cons exit exits ih =>
    obtain ⟨body, bodies, rfl⟩ := List.exists_cons_of_length_eq_add_one each.symm
    simp only [List.cons_append, edges, ih _ (Nat.succ.inj each), List.flatMap_cons,
      List.length_append, Nat.add_assoc, List.append_assoc]

theorem edges_of_unguarded (k : Nat) {exits : List Exit} (unguarded : ∀ x ∈ exits, x.guard? = none)
    (bodies : List (List Step)) : edges g after k exits bodies = [] := by
  induction exits generalizing k bodies with
  | nil => cases bodies <;> rfl
  | cons exit exits ih =>
    cases bodies with
    | nil => rfl
    | cons body bodies =>
      rw [edges, unguarded exit List.mem_cons_self,
        ih _ fun x member => unguarded x (List.mem_cons_of_mem _ member)]
      rfl

end Edges

section Occurs

variable (g : Graph)

mutual

/-- A step stands somewhere in a list of steps: its node is numbered so, and the flow goes on after it
at that place. The nodes of the list are numbered from the number given on, and the two places are
where its end and a return to the flow lead. -/
inductive Occurs : Nat → Option String → Option String → List Step → Step → Nat → Option String → Prop
  | first {k : Nat} {ends resumes : Option String} {s : Step} {rest : List Step} {s' : Step} {i : Nat}
      {after : Option String}
      (inside : Inside k (begins g (k + (items s).length) ends resumes rest) s s' i after) :
      Occurs k ends resumes (s :: rest) s' i after
  | later {k : Nat} {ends resumes : Option String} {s : Step} {rest : List Step} {s' : Step} {i : Nat}
      {after : Option String} (occurs : Occurs (k + (items s).length) ends resumes rest s' i after) :
      Occurs k ends resumes (s :: rest) s' i after

/-- A step is another one, or stands in its branches or its error handlers. The body of a loop leads
back to the loop, and after a terminal action there is nothing to return to. -/
inductive Inside : Nat → Option String → Step → Step → Nat → Option String → Prop
  | self (k : Nat) (next : Option String) (s : Step) : Inside k next s s k next
  | branch {k : Nat} {next : Option String} {head : Head} {frame : Frame}
      {branches : List (Branch × List Step)} {errors : List (String × List Step)} {s' : Step} {i : Nat}
      {after : Option String} (other : head.kind ≠ .loop)
      (under : Under (k + 1) next (branches.map (·.2)) s' i after) :
      Inside k next (.action head frame branches errors) s' i after
  | body {k : Nat} {next : Option String} {head : Head} {frame : Frame} {which : Branch}
      {body : List Step} {more : List (Branch × List Step)} {errors : List (String × List Step)}
      {s' : Step} {i : Nat} {after : Option String} (loop : head.kind = .loop)
      (occurs : Occurs (k + 1) (g.idAt k) (g.idAt k) body s' i after) :
      Inside k next (.action head frame ((which, body) :: more) errors) s' i after
  | handler {k : Nat} {next : Option String} {head : Head} {frame : Frame}
      {branches : List (Branch × List Step)} {errors : List (String × List Step)} {s' : Step} {i : Nat}
      {after : Option String}
      (under : Under (k + 1 + (branchItems branches).length)
        (if head.kind.isTerminal then none else next) (errors.map (·.2)) s' i after) :
      Inside k next (.action head frame branches errors) s' i after

/-- A step stands in one of several lists, each of which returns to the same place. -/
inductive Under : Nat → Option String → List (List Step) → Step → Nat → Option String → Prop
  | here {k : Nat} {resumes : Option String} {body : List Step} {bodies : List (List Step)} {s' : Step}
      {i : Nat} {after : Option String} (occurs : Occurs k none resumes body s' i after) :
      Under k resumes (body :: bodies) s' i after
  | there {k : Nat} {resumes : Option String} {body : List Step} {bodies : List (List Step)}
      {s' : Step} {i : Nat} {after : Option String}
      (under : Under (k + (outline body).length) resumes bodies s' i after) :
      Under k resumes (body :: bodies) s' i after

end

end Occurs

/-! ### Where the nodes of steps stand -/

section Listed

variable {g : Graph}

/-- The items of a step stand among those of a list of steps, so many places after the first. -/
def Listed (s : Step) (all : List Item) (k i : Nat) : Prop :=
  ∃ before after, all = before ++ items s ++ after ∧ i = k + before.length

theorem Listed.within {s : Step} {all second : List Item} {k i : Nat} (first rest : List Item)
    (listed : Listed s second (k + first.length) i) (whole : all = first ++ second ++ rest) :
    Listed s all k i := by
  obtain ⟨before, after, rfl, rfl⟩ := listed
  exact ⟨first ++ before, after ++ rest, by simp [whole], by simp [Nat.add_assoc]⟩

mutual

theorem Occurs.listed {k : Nat} {ends resumes : Option String} {s' : Step} {i : Nat}
    {after : Option String} : {steps : List Step} → Occurs g k ends resumes steps s' i after →
    Listed s' (outline steps) k i
  | _ :: rest, .first inside => inside.listed.within [] (outline rest) (by rw [outline]; rfl)
  | s :: _, .later occurs => occurs.listed.within (items s) [] (by rw [outline, List.append_nil])

theorem Inside.listed {k : Nat} {next : Option String} {s' : Step} {i : Nat} {after : Option String} :
    {s : Step} → Inside g k next s s' i after → Listed s' (items s) k i
  | _, .self .. => ⟨[], [], by rw [List.append_nil, List.nil_append], rfl⟩
  | .action _ _ _ errors, .branch _ under =>
    under.listed.within [_] (errorItems errors) (by rw [items, branchItems_eq]; rfl)
  | .action _ _ (_ :: more) errors, .body _ occurs =>
    occurs.listed.within [_] (branchItems more ++ errorItems errors)
      (by rw [items, branchItems, List.append_assoc]; rfl)
  | .action _ _ branches _, .handler under => by
    have listed := under.listed
    rw [Nat.add_assoc, Nat.add_comm 1] at listed
    rw [items, errorItems_eq]
    exact listed.within (_ :: branchItems branches) [] (List.append_nil _).symm

theorem Under.listed {k : Nat} {resumes : Option String} {s' : Step} {i : Nat} {after : Option String} :
    {bodies : List (List Step)} → Under g k resumes bodies s' i after →
    Listed s' (bodies.flatMap outline) k i
  | _ :: rest, .here occurs => occurs.listed.within [] (rest.flatMap outline) rfl
  | body :: _, .there under => under.listed.within (outline body) [] (by simp)
end

end Listed

/-- The node of a step has the conditions that its branches ask for, each of which leads to where the
steps of its branch begin. A loop is told apart. -/
def Wired (g : Graph) (i : Nat) (after : Option String) : Step → Prop
  | .action head _ branches _ => head.kind ≠ .loop → ∃ n, g.toList[i]? = some n ∧
      n.transitions.conditions =
        edges g after (i + 1) (Branch.exits (.int 0) (branches.map (·.1))) (branches.map (·.2))
  | .resume _ | .jump .. => True

/-- Every step of a list is wired. -/
def Threads (g : Graph) (k : Nat) (ends resumes : Option String) (steps : List Step) : Prop :=
  ∀ s i after, Occurs g k ends resumes steps s i after → s.Wired g i after

namespace Threads

variable {g : Graph} {k : Nat} {ends resumes : Option String} {head : Head} {frame : Frame}
  {branches : List (Branch × List Step)} {which : Branch} {body : List Step}
  {errors : List (String × List Step)}

theorem action (other : head.kind ≠ .loop)
    (own : (Step.action head frame branches errors).Wired g k ends)
    (inside : ∀ {s i after}, Under g (k + 1) ends (branches.map (·.2)) s i after → s.Wired g i after)
    (handlers : ∀ {s i after}, Under g (k + 1 + (branchItems branches).length)
      (if head.kind.isTerminal then none else ends) (errors.map (·.2)) s i after → s.Wired g i after) :
    Threads g k ends resumes [.action head frame branches errors] := by
  intro s i after occurs
  cases occurs with
  | later occurs => cases occurs
  | first within =>
    cases within with
    | self => exact own
    | branch _ under => exact inside under
    | body loop => exact absurd loop other
    | handler under => exact handlers under

theorem loop (loop : head.kind = .loop) (inside : Threads g (k + 1) (g.idAt k) (g.idAt k) body)
    (handlers : ∀ {s i after}, Under g (k + 1 + (outline body).length) ends (errors.map (·.2)) s i after →
      s.Wired g i after) :
    Threads g k ends resumes [.action head frame [(which, body)] errors] := by
  intro s i after occurs
  cases occurs with
  | later occurs => cases occurs
  | first within =>
    cases within with
    | self => exact fun other => absurd loop other
    | branch other => exact absurd loop other
    | body _ occurs => exact inside s i after occurs
    | handler under =>
      have goesOn : ¬ ActionKind.loop.isTerminal := Bool.false_ne_true
      rw [loop, if_neg goesOn] at under
      exact handlers (by simpa [branchItems, begins] using under)

end Threads

end Step

/-- A step that stands somewhere in a flow has the node that is numbered so. -/
theorem FlowDefinition.node_of_occurs {f : FlowDefinition} (sane : Step.AllSane f.steps) {name : String}
    {w : Workspace} (built : f.build name = .ok w) {s : Step} {i : Nat}
    {ends resumes after : Option String}
    (occurs : Step.Occurs w.graph 0 ends resumes f.steps s i after) {item : Item}
    (asks : item ∈ (Step.items s).head?) : ∃ n, w.graph.toList[i]? = some n ∧ n.face.Shows item := by
  obtain ⟨before, rest, outline, here⟩ := occurs.listed
  obtain ⟨more, own⟩ := List.head?_eq_some_iff.1 asks
  have shown := f.shown_of_build sane built
  rw [Nat.zero_add] at here
  have there : (Step.outline f.steps)[i]? = some item := by
    rw [outline, own, here]
    simp
  obtain ⟨below', same⟩ := List.getElem?_eq_some_iff.1 there
  have below : i < w.graph.faces.length := by rwa [shown.length_eq]
  have shows := shown.get below below'
  have face : (w.graph.toList.map Node.face)[i]? = some w.graph.faces[i] :=
    List.getElem?_eq_getElem below
  rw [List.getElem?_map] at face
  obtain ⟨n, found, face⟩ := Option.map_eq_some_iff.1 face
  refine ⟨n, found, ?_⟩
  rw [face, ← same]
  exact shows

theorem Graph.Numbered.found {g : Graph} (numbered : g.Numbered) {n : Node} (member : n ∈ g.toList) :
    g.toList[n.serial]? = some n := by
  obtain ⟨i, found⟩ := List.mem_iff_getElem?.1 member
  rwa [numbered.serial found]

theorem Graph.Numbered.idAt {g : Graph} (numbered : g.Numbered) {n : Node} (member : n ∈ g.toList) :
    g.idAt n.serial = some n.id := by
  rw [Graph.idAt, numbered.found member]
  rfl

namespace Workspace

open Step

variable {w w₁ w' w'' v : Workspace} {b : Nat}

/-- The edges that were added to a node for several lists of steps, when it had so many conditions
before. The nodes of the lists are numbered one after another. -/
inductive Routes (g : Graph) (node : Nat) (after : Option String) :
    Nat → Nat → List Exit → List (List Step) → Prop
  | done (k l : Nat) : Routes g node after k l [] []
  | condition {k l : Nat} {guard : Guard} {body : List Step} {exits : List Exit}
      {bodies : List (List Step)} (edge : g.Edge (.condition node l) (begins g k none after body))
      (inside : Threads g k none after body)
      (rest : Routes g node after (k + (outline body).length) (l + 1) exits bodies) :
      Routes g node after k l (.condition guard :: exits) (body :: bodies)
  | error {k l : Nat} {kind : ErrorKind} {body : List Step} {exits : List Exit}
      {bodies : List (List Step)} (inside : Threads g k none after body)
      (rest : Routes g node after (k + (outline body).length) l exits bodies) :
      Routes g node after k l (.error kind :: exits) (body :: bodies)

namespace Routes

variable {g : Graph} {node : Nat} {after : Option String} {k l : Nat} {exits exits' : List Exit}
  {bodies bodies' : List (List Step)}

theorem append (first : Routes g node after k l exits bodies)
    (second : Routes g node after (k + (bodies.flatMap outline).length)
      (l + (exits.filterMap Exit.guard?).length) exits' bodies') :
    Routes g node after k l (exits ++ exits') (bodies ++ bodies') := by
  induction first with
  | done => exact second
  | @condition k l guard body exits bodies edge inside rest ih =>
    refine .condition edge inside (ih ?_)
    simpa [Exit.guard?, Nat.add_assoc, Nat.add_comm 1] using second
  | @error k l kind body exits bodies inside rest ih =>
    refine .error inside (ih ?_)
    rw [List.filterMap_cons_none rfl] at second
    simpa [Nat.add_assoc] using second

theorem wired (routes : Routes g node after k l exits bodies) {s : Step} {i : Nat}
    {after' : Option String} (under : Under g k after bodies s i after') : s.Wired g i after' := by
  induction routes with
  | done => cases under
  | condition edge inside rest ih =>
    cases under with
    | here occurs => exact inside _ _ _ occurs
    | there under => exact ih under
  | error inside rest ih =>
    cases under with
    | here occurs => exact inside _ _ _ occurs
    | there under => exact ih under

/-- All conditions of a node together lead where the steps of its branches begin. -/
theorem edges_eq (tidy : g.Tidy) {m : Node} (member : m ∈ g.toList) (serial : m.serial = node)
    (routes : Routes g node after k l exits bodies)
    (guards : m.transitions.guards.drop l = exits.filterMap Exit.guard?) :
    m.transitions.conditions.drop l = edges g after k exits bodies := by
  simp only [Transitions.guards, ← List.map_drop] at guards
  induction routes with
  | done => simpa [edges] using guards
  | @condition k l guard body exits bodies edge inside rest ih =>
    obtain ⟨e, found, target⟩ := Option.map_eq_some_iff.1 (edge.read tidy member serial)
    obtain ⟨below, rfl⟩ := List.getElem?_eq_some_iff.1 found
    rw [List.drop_eq_getElem_cons below] at guards ⊢
    simp only [List.map_cons, List.filterMap_cons, Exit.guard?, List.cons.injEq] at guards
    rw [ih guards.2, edges, ← target, ← guards.1]
    rfl
  | @error k l kind body exits bodies inside rest ih =>
    simpa [edges, Exit.guard?] using ih guards

end Routes

end Workspace

end ContactFlow
