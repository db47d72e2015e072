import ContactFlow.Proofs.Defined

/-!
What the steps of a definition ask of a graph: one node for each step that asks for an action, in the
order in which the steps are written down. A step comes before the steps of its branches, these come
before its error handlers, and all of them before the next step of its list.
-/

namespace ContactFlow

/-- An edge by which a node is left, when not to its next action. -/
inductive Exit
  | condition (guard : Guard)
  | error (kind : ErrorKind)
  deriving DecidableEq, Repr

namespace Exit

def guard? : Exit → Option Guard
  | .condition guard => some guard
  | .error _ => none

def kind? : Exit → Option ErrorKind
  | .condition _ => none
  | .error kind => some kind

end Exit

namespace Branch

/-- What callers enter or say for a branch. Null stands for nothing. -/
def entry : Value → Option Scalar
  | .scalar .null => none
  | .scalar s => some s
  | _ => none

/-- How many percent are given out with a branch, when so many were given out before. -/
def share (before : Scalar) : Branch → Scalar
  | .bucket (.scalar percent) => (before.plus? percent).getD before
  | _ => before

/-- The edge of a branch, when so many percent are given out with it. -/
def exit (share : Scalar) : Branch → Exit
  | .digits d => .condition (.input (entry d) none)
  | .intent i => .condition (.input none (entry i))
  | .input d i => .condition (.input (entry d) (entry i))
  | .timeout => .error .timeout
  | .noMatch | .otherwise | .notStaffed => .error .noMatch
  | .invalidInput => .error .invalidInput
  | .lowConfidence => .error .lowConfidence
  | .error => .error .error
  | .compare operator operand =>
    .condition (.compare (operator.text?.getD "") [.text operand.display])
  | .inHours => .condition (.equals "True")
  | .outOfHours => .condition (.equals "False")
  | .staffed => .condition (.compare "NumberGreaterThan" [.text "0"])
  | .bucket _ => .condition (.compare "NumberLessThan" [.text share.display])
  | .body => .condition (.equals Builder.continueLooping)

/-- The edges of branches in their order. The shares of buckets add up. -/
def exits : Scalar → List Branch → List Exit
  | _, [] => []
  | before, b :: rest => b.exit (b.share before) :: exits (b.share before) rest

end Branch

def Head.kind : Head → ActionKind
  | .action a => a.kind
  | .staged .. => .collectInput

/-- What a step asks of its node: the identifier that it gives, if any, the kind of its action, its
branches, and the errors that it has handlers for. -/
structure Item where
  id : Option String
  kind : ActionKind
  branches : List Branch
  errors : List String

namespace Item

/-- A loop that is done is left by an edge of its own. -/
def doneExits : ActionKind → List Exit
  | .loop => [.condition (.equals Builder.doneLooping)]
  | _ => []

def branchExits (kind : ActionKind) (branches : List Branch) : List Exit :=
  Branch.exits (.int 0) branches ++ doneExits kind

def errorExits (errors : List String) : List Exit :=
  errors.filterMap fun name => (ErrorKind.ofName? name).map .error

/-- The edges of a node: those of the branches come before those of the error handlers. -/
def exits (i : Item) : List Exit := branchExits i.kind i.branches ++ errorExits i.errors

end Item

namespace Step

mutual

/-- What a step asks for, with all that is nested in it. -/
def items : Step → List Item
  | .action head frame branches errors =>
    ⟨frame.id, head.kind, branches.map (·.1), errors.map (·.1)⟩ ::
      (branchItems branches ++ errorItems errors)
  | .resume _ | .jump .. => []

def branchItems : List (Branch × List Step) → List Item
  | [] => []
  | (_, steps) :: rest => outline steps ++ branchItems rest

def errorItems : List (String × List Step) → List Item
  | [] => []
  | (_, steps) :: rest => outline steps ++ errorItems rest

/-- What a list of steps asks for. -/
def outline : List Step → List Item
  | [] => []
  | s :: rest => items s ++ outline rest

end

end Step

/-! ### Nodes without their targets -/

/-- A node, but for its parameters and for where it leads. -/
structure Face where
  id : String
  kind : ActionKind
  guards : List Guard
  kinds : List ErrorKind
  deriving DecidableEq, Repr

namespace Face

/-- The node is the one that was asked for. -/
structure Shows (f : Face) (i : Item) : Prop where
  id : ∀ id, i.id = some id → f.id = id
  kind : f.kind = i.kind
  guards : f.guards = i.exits.filterMap Exit.guard?
  kinds : f.kinds = i.exits.filterMap Exit.kind?

/-- The node with more edges. -/
def plus (f : Face) (exits : List Exit) : Face :=
  { f with
    guards := f.guards ++ exits.filterMap Exit.guard?
    kinds := f.kinds ++ exits.filterMap Exit.kind? }

@[simp] theorem plus_nil (f : Face) : f.plus [] = f := by simp [plus]

@[simp] theorem plus_plus (f : Face) (es es' : List Exit) :
    (f.plus es).plus es' = f.plus (es ++ es') := by simp [plus]

theorem modify_nil (l : List Face) (k : Nat) : l.modify k (·.plus []) = l := by
  simp only [plus_nil]
  exact List.modify_id k l

/-- Nodes that come later are not among those that get edges now. -/
theorem modify_append {l : List Face} {k : Nat} (known : k < l.length) (es es' : List Exit)
    (more : List Face) : (l.modify k (·.plus es) ++ more).modify k (·.plus es') =
      l.modify k (·.plus (es ++ es')) ++ more := by
  induction l generalizing k with
  | nil => cases known
  | cons f rest ih =>
    cases k with
    | zero => simp
    | succ k =>
      have := ih (Nat.lt_of_succ_lt_succ known)
      simpa using this

theorem modify_last (l : List Face) (f : Face) (es : List Exit) :
    (l ++ [f]).modify l.length (·.plus es) = l ++ [f.plus es] := by
  induction l with
  | nil => rfl
  | cons first rest ih => simpa using ih

end Face

def Node.face (n : Node) : Face := ⟨n.id, n.kind, n.transitions.guards, n.transitions.kinds⟩

theorem Node.Alike.face {n m : Node} (alike : n.Alike m) : n.face = m.face := by
  simp only [Node.face, alike.id, alike.kind, alike.guards, alike.kinds]

theorem Node.face_plusCondition (guard : Guard) (n : Node) :
    (n.plusCondition guard).face = n.face.plus [.condition guard] := by
  simp only [Node.face, guards_plusCondition]
  simp [Face.plus, Exit.guard?, Exit.kind?, Node.plusCondition, Transitions.kinds]

theorem Node.face_plusError (kind : ErrorKind) (n : Node) :
    (n.plusError kind).face = n.face.plus [.error kind] := by
  simp only [Node.face, kinds_plusError]
  simp [Face.plus, Exit.guard?, Exit.kind?, Node.plusError, Transitions.guards]

namespace Graph

variable {g g' : Graph}

/-- The nodes in the order in which they were added. -/
def faces (g : Graph) : List Face := g.toList.map Node.face

/-- The nodes are numbered in the order in which they stand. -/
structure Numbered (g : Graph) : Prop where
  tidy : g.Tidy
  serials : g.toList.map (·.serial) = List.range g.count

theorem Numbered.length (numbered : g.Numbered) : g.faces.length = g.count := by
  have same := congrArg List.length numbered.serials
  simpa [faces] using same

theorem Numbered.serial (numbered : g.Numbered) {i : Nat} {n : Node}
    (found : g.toList[i]? = some n) : n.serial = i := by
  have same : (g.toList.map (·.serial))[i]? = some n.serial := by rw [List.getElem?_map, found]; rfl
  rw [numbered.serials] at same
  obtain ⟨_, here⟩ := List.getElem?_eq_some_iff.1 same
  simpa using here.symm

theorem numbered_empty (name : String) : Numbered { name } := ⟨tidy_empty name, rfl⟩

theorem Numbered.changed (numbered : g.Numbered) {f : Node → Node} (changed : g.Changed f g')
    (keeps : g.Keeps f) : g'.Numbered where
  tidy := changed.tidy keeps numbered.tidy
  serials := by
    rw [changed.toList, changed.count, ← numbered.serials, List.map_map]
    exact List.map_congr_left fun n member => (keeps n member).2

theorem Numbered.relinked (numbered : g.Numbered) (relinked : g.Relinked g') :
    g'.Numbered ∧ g'.faces = g.faces := by
  obtain ⟨f, changed, alike⟩ := relinked
  refine ⟨numbered.changed changed fun n _ => ⟨(alike n).id, (alike n).serial⟩, ?_⟩
  rw [faces, changed.toList, List.map_map]
  exact List.map_congr_left fun n _ => (alike n).face

theorem Numbered.grown (numbered : g.Numbered) {n : Node} (grown : g.Grown n g') :
    g'.Numbered ∧ g'.faces = g.faces ++ [n.face] := by
  refine ⟨⟨grown.tidy numbered.tidy, ?_⟩, ?_⟩
  · rw [grown.toList, List.map_append, numbered.serials, grown.count, List.range_succ]
    simp [grown.serial]
  · simp [faces, grown.toList]

/-- A node gets one more edge. -/
theorem Numbered.plus (numbered : g.Numbered) {serial : Nat} {f : Node → Node} {exit : Exit}
    (changed : g.Changed (fun n => if n.serial = serial then f n else n) g')
    (same : ∀ n, (f n).serial = n.serial) (face : ∀ n, (f n).face = n.face.plus [exit]) :
    g'.Numbered ∧ g'.faces = g.faces.modify serial (·.plus [exit]) := by
  have id (n : Node) : (f n).id = n.id := congrArg Face.id (face n)
  constructor
  · refine numbered.changed changed fun n _ => ?_
    split
    · exact ⟨id n, same n⟩
    · exact ⟨rfl, rfl⟩
  · refine List.ext_getElem? fun i => ?_
    rw [faces, faces, changed.toList, List.getElem?_modify]
    simp only [List.getElem?_map]
    cases found : g.toList[i]? with
    | none => rfl
    | some n =>
      have here := numbered.serial found
      by_cases this : serial = i
      · simp [this, here, face]
      · simp [this, here, Ne.symm this]

end Graph

end ContactFlow
