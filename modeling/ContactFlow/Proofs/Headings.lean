import ContactFlow.Proofs.Preorder

/-!
What the data of a flow says of its nodes. The steps are found where the fields of the data say they
are: a step comes before what is nested in it, its branches come in the order of their fields, and
then its error handlers. Reading the data neither loses a step nor moves one.
-/

namespace ContactFlow

/-- What the data of a step says of its node: the identifier that it gives, if any, the kind of its
action, the field that each of its branches stands under, and the errors that it handles. -/
structure Heading where
  id : Option String
  kind : ActionKind
  fields : List String
  errors : List String
  deriving DecidableEq, Repr

/-- The field that a branch stands under. -/
def Branch.field : Branch → String
  | .digits _ => "digits"
  | .intent _ => "intents"
  | .input .. => "inputs"
  | .timeout => "on_timeout"
  | .noMatch => "on_no_match"
  | .invalidInput => "on_invalid_input"
  | .lowConfidence => "on_low_confidence"
  | .error => "on_error"
  | .compare .. => "cases"
  | .otherwise => "otherwise"
  | .inHours => "in_hours"
  | .outOfHours => "out_of_hours"
  | .staffed => "staffed"
  | .notStaffed => "not_staffed"
  | .bucket _ => "buckets"
  | .body => "body"

def Item.heading (i : Item) : Heading := ⟨i.id, i.kind, i.branches.map Branch.field, i.errors⟩

/-- How steps are nested under a field: as one list, which may have to be there or may be null, as a
list for each of some digits or names, or as a list in each of some cases. -/
inductive Nesting
  | needed
  | steps
  | byDigits
  | byName
  | cases

namespace StepType

/-- The kind of the action that a type of step stands for, if it stands for one. -/
def kind? : StepType → Option ActionKind
  | .message => some .message
  | .collect | .sequentialInput => some .collectInput
  | .storeInput => some .storeInput
  | .invoke => some .invokeExternal
  | .setAttributes => some .setAttributes
  | .checkAttribute => some .checkAttribute
  | .checkHours => some .checkHours
  | .checkStaffing => some .checkStaffing
  | .getMetrics => some .getMetrics
  | .splitPercent => some .branch
  | .loop => some .loop
  | .hold => some .hold
  | .transferToQueue => some .transferToQueue
  | .transferToFlow => some .transferToFlow
  | .transferToExternal => some .transferToExternal
  | .disconnect => some .disconnect
  | .finish => some .endExecution
  | .resume | .jump => none

/-- The fields that the branches of a step stand under, in the order in which they are opened. -/
def branchFields : StepType → List (String × Nesting)
  | .collect | .sequentialInput => [("digits", .byDigits), ("intents", .byName), ("inputs", .cases),
      ("on_timeout", .steps), ("on_no_match", .steps), ("on_invalid_input", .steps),
      ("on_low_confidence", .steps), ("on_error", .steps)]
  | .checkAttribute => [("cases", .cases), ("otherwise", .steps)]
  | .checkHours => [("in_hours", .steps), ("out_of_hours", .steps)]
  | .checkStaffing => [("staffed", .steps), ("not_staffed", .steps)]
  | .splitPercent => [("buckets", .cases), ("otherwise", .steps)]
  | .loop => [("body", .needed)]
  | _ => []

end StepType

namespace Value

def listed : Value → List Value
  | .list items | .bundle _ items => items
  | _ => []

/-- The entries of a table whose keys are texts. -/
def entries (v : Value) : List (String × Value) :=
  match Read.tableOf Read.anything v with
  | .good found => found
  | .bad _ => []

def unlessNull : Value → List Value
  | .null => []
  | v => [v]

def caseSteps? : Value → Option Value
  | .table t => Table.get? t "steps"
  | _ => none

end Value

/-- The lists of steps that are nested so in a value. -/
def Nesting.bodies (nesting : Nesting) (v : Value) : List Value :=
  match nesting with
  | .needed => [v]
  | .steps => v.unlessNull
  | .byDigits => match Step.withTextKeys v with
    | .good v => v.entries.map (·.2)
    | .bad _ => []
  | .byName => v.entries.map (·.2)
  | .cases => v.listed.filterMap Value.caseSteps?

namespace Table

/-- The lists of steps that stand under fields of a step, each with its field. -/
def bodies (t : Table) (fields : List (String × Nesting)) : List (String × Value) :=
  fields.flatMap fun (name, nesting) => match t.get? name with
    | some v => (nesting.bodies v).map (name, ·)
    | none => []

def handlers (t : Table) : List (String × Value) := (t.get? "errors").elim [] Value.entries

/-- The identifier that a step gives. -/
def ownId (t : Table) : Option String :=
  match t.maybe "id" Read.text with
  | .good id => id
  | .bad _ => none

/-- What the data of a step says of its node and, by what is said of lists, of those nested in it. -/
def headings (t : Table) (k : StepType) (inner : Value → List Heading) : List Heading :=
  k.kind?.elim [] fun kind =>
    ⟨t.ownId, kind, (t.bodies k.branchFields).map (·.1), t.handlers.map (·.1)⟩ ::
      (t.bodies k.branchFields ++ t.handlers).flatMap fun e => inner e.2

end Table

namespace Value

/-- The data of a step, with the type that it names. -/
def step? : Value → Option (Table × StepType)
  | .table t => ((Table.get? t "type").bind Step.typeOf).map (t, ·)
  | _ => none

/-- What a list of steps says of the nodes, as far as so many levels of nesting go. -/
def headings : Nat → Value → List Heading
  | 0, _ => []
  | n + 1, v => v.listed.flatMap fun s => s.step?.elim [] fun (t, k) => t.headings k (headings n)

end Value

open Checked (Gives)

/-! ### Parts of the data -/

namespace Ordered

variable {κ α β : Type} [BEq κ] {P : α → β → Prop}

/-- Entries under the same keys, in the same order. -/
abbrev Alike (P : α → β → Prop) (l : List (κ × α)) (l' : List (κ × β)) : Prop :=
  List.Forall₂ (fun e r => e.1 = r.1 ∧ P e.2 r.2) l l'

theorem alike_put {l : List (κ × α)} {l' : List (κ × β)} (alike : Alike P l l') (k : κ) {a : α}
    {b : β} (both : P a b) : Alike P (put l k a) (put l' k b) := by
  induction alike with
  | nil => exact .cons ⟨rfl, both⟩ .nil
  | @cons e r rest rest' first _ ih =>
    obtain ⟨k', v⟩ := e
    obtain ⟨k'', v'⟩ := r
    obtain ⟨rfl, here⟩ := first
    unfold put
    split
    · exact .cons ⟨rfl, both⟩ ‹_›
    · exact .cons ⟨rfl, here⟩ ih

theorem alike_collect {l : List (κ × α)} {l' : List (κ × β)} (alike : Alike P l l') :
    Alike P (collect l) (collect l') := by
  have onward {seen : List (κ × α)} {seen' : List (κ × β)} (before : Alike P seen seen') :
      Alike P (l.foldl (fun t e => put t e.1 e.2) seen)
        (l'.foldl (fun t r => put t r.1 r.2) seen') := by
    induction alike generalizing seen seen' with
    | nil => exact before
    | @cons e r rest rest' first _ ih =>
      obtain ⟨k, v⟩ := e
      obtain ⟨k', v'⟩ := r
      obtain ⟨rfl, here⟩ := first
      exact ih (alike_put before k here)
  exact onward .nil

end Ordered

namespace Read

variable {α : Type} {P : α → Value → Prop} {read : Value → Checked α}

theorem follows_list (given : ∀ v, Gives (P · v) (read v)) (v : Value) :
    Gives (fun found => List.Forall₂ P found v.listed) (list read v) := by
  have each (i : Int) (l : List Value) :
      Gives (fun found => List.Forall₂ P found l) (eachFrom read i l) := by
    induction l generalizing i with
    | nil => exact .good .nil
    | cons v rest ih =>
      exact .seq (.map ((given v).under _) fun a holds more others => .cons holds others) (ih (i + 1))
  unfold list
  split
  · exact each 0 _
  · exact each 0 _
  · exact .fault
  · exact .fault

theorem keeps_nonEmpty {P : List α → Prop} {x : Checked (List α)} (given : Gives P x) :
    Gives P (x.andThen nonEmpty) := by
  refine .andThen fun found read => ?_
  unfold nonEmpty
  split
  · exact .fault
  · exact .good (given found read)

/-- A table is read entry by entry. -/
theorem follows_tableOf (given : ∀ v, Gives (P · v) (read v)) (v : Value) :
    Gives (fun found => Ordered.Alike P found v.entries) (tableOf read v) := by
  have each (l : List (Scalar × Value)) {found : List (String × α)}
      (good : Checked.each (fun e => Prod.mk <$> key e.1 <*> (read e.2).under (.ofKey e.1)) l =
        .good found) :
      ∃ raw, Checked.each (fun e => Prod.mk <$> key e.1 <*> (anything e.2).under (.ofKey e.1)) l =
        .good raw ∧ Ordered.Alike P found raw := by
    induction l generalizing found with
    | nil =>
      cases good
      exact ⟨[], rfl, .nil⟩
    | cons e rest ih =>
      obtain ⟨_, more, first, later, rfl⟩ := Checked.seq_good good
      obtain ⟨_, here, rfl⟩ := Checked.map_good first
      obtain ⟨_, a, named, value, rfl⟩ := Checked.seq_good here
      obtain ⟨name, spelled, rfl⟩ := Checked.map_good named
      obtain ⟨raw, after, alike⟩ := ih later
      refine ⟨(name, e.2) :: raw, ?_, .cons ⟨rfl, (given e.2).under _ a value⟩ alike⟩
      rw [Checked.each, after, spelled]
      rfl
  unfold tableOf
  split
  · rename_i table
    intro found good
    obtain ⟨l, read, rfl⟩ := Checked.map_good good
    obtain ⟨raw, same, alike⟩ := each table read
    have all : tableOf anything (.table table) = .good (Ordered.collect raw) :=
      congrArg (Checked.map Ordered.collect) same
    rw [Value.entries, all]
    exact Ordered.alike_collect alike
  · exact .fault
  · exact .fault

end Read

namespace Table

variable {α : Type} {P : α → Prop} {read : Value → Checked α} {t : Table} {name : String}

theorem gives_field {absent : α} (missing : t.get? name = none → P absent)
    (given : ∀ v, t.get? name = some v → Gives P (read v)) :
    Gives P (t.optional name absent read) := by
  unfold optional
  split
  · exact (given _ ‹_›).under _
  · exact .good (missing ‹_›)

theorem gives_needed (given : ∀ v, t.get? name = some v → Gives P (read v)) :
    Gives P (t.required name read) := by
  unfold required
  split
  · exact (given _ ‹_›).under _
  · exact Gives.fault.under _

theorem bodies_cons (t : Table) (field : String × Nesting) (fields : List (String × Nesting)) :
    t.bodies (field :: fields) = t.bodies [field] ++ t.bodies fields := by simp [bodies]

theorem bodies_missing {nesting : Nesting} (missing : t.get? name = none) :
    t.bodies [(name, nesting)] = [] := by simp [bodies, missing]

theorem bodies_found {nesting : Nesting} {v : Value} (found : t.get? name = some v) :
    t.bodies [(name, nesting)] = (nesting.bodies v).map (name, ·) := by simp [bodies, found]

end Table

namespace Step

/-- What is read of a list of steps asks for the nodes that the list speaks of. -/
def Tells (m : Nat) (steps : List Step) (v : Value) : Prop :=
  (outline steps).map Item.heading = v.headings m

/-- A branch stands under its field. -/
structure Stands (m : Nat) (e : Branch × List Step) (p : String × Value) : Prop where
  field : e.1.field = p.1
  tells : Tells m e.2 p.2

/-- The branches are those that stand under the fields, in their order. -/
abbrev Fill (m : Nat) (t : Table) (fields : List (String × Nesting)) (branches : Branches) : Prop :=
  List.Forall₂ (Stands m) branches (t.bodies fields)

variable {m : Nat} {t : Table} {name : String} {steps : Lists}

theorem fill_concat {parts : List (Checked Branches)} {fields : List (String × Nesting)}
    (each : List.Forall₂ (fun x field => Gives (Fill m t [field]) x) parts fields) :
    Gives (Fill m t fields) (concat parts) := by
  induction each with
  | nil => exact .good .nil
  | @cons x field parts fields first _ ih =>
    intro branches read
    obtain ⟨found, all, rfl⟩ := Checked.map_good read
    obtain ⟨_, later, here, others, rfl⟩ := Checked.seq_good all
    obtain ⟨now, part, rfl⟩ := Checked.map_good here
    have rest := ih later.flatten (by rw [concat, others]; rfl)
    rw [Fill, Table.bodies_cons, List.flatten_cons]
    exact List.rel_append (first now part) rest

theorem fill_branchAt (given : ∀ v, Gives (Tells m · v) (steps v)) (t : Table) (name : String)
    {kind : Branch} (field : kind.field = name) :
    Gives (Fill m t [(name, .steps)]) (branchAt steps t name kind) := by
  refine .map (Q := fun found => Fill m t [(name, .steps)] (branchesOf kind found)) ?_ fun _ => id
  refine Table.gives_field (fun missing => ?_) fun v found => ?_
  · rw [Fill, Table.bodies_missing missing]
    exact .nil
  · unfold Read.nullable
    split
    · refine .good ?_
      rw [Fill, Table.bodies_found found]
      exact .nil
    · rename_i there
      refine .map (given v) fun steps tells => ?_
      have one : Nesting.bodies .steps v = [v] := by
        rw [Nesting.bodies, Value.unlessNull]
        exact there
      rw [Fill, Table.bodies_found found, one]
      exact .cons ⟨field, tells⟩ .nil

/-- A field that is a table has a branch for each of its entries. -/
theorem fill_tabled (nesting : Nesting) (kind : String → Branch)
    (field : ∀ key, (kind key).field = name) {read : Value → Checked (List (String × List Step))}
    (given : ∀ v, Gives (fun found => List.Forall₂ (fun e body => Tells m e.2 body) found
      (nesting.bodies v)) (read v)) :
    Gives (Fill m t [(name, nesting)])
      ((·.map fun (key, steps) => (kind key, steps)) <$> t.optional name [] read) := by
  have entries : Gives (fun found => List.Forall₂ (fun e p => p.1 = name ∧ Tells m e.2 p.2) found
      (t.bodies [(name, nesting)])) (t.optional name [] read) := by
    refine Table.gives_field (fun missing => ?_) fun v found entries read => ?_
    · rw [Table.bodies_missing missing]
      exact .nil
    · rw [Table.bodies_found found]
      exact List.forall₂_map_right_iff.2 ((given v entries read).imp fun _ _ tells => ⟨rfl, tells⟩)
  refine .map entries fun found all => List.forall₂_map_left_iff.2 (all.imp fun e p holds => ?_)
  exact ⟨(field e.1).trans holds.1.symm, holds.2⟩

/-- A case stands under its field, with its steps. -/
structure Cased (m : Nat) (name : String) (e : Branch × List Step) (v : Value) : Prop where
  field : e.1.field = name
  tells : ∃ c body, v = .table c ∧ Table.get? c "steps" = some body ∧ Tells m e.2 body

theorem stands_of_cased {found : Branches} {v : Value}
    (all : List.Forall₂ (Cased m name) found v.listed) :
    List.Forall₂ (Stands m) found ((Nesting.bodies .cases v).map (name, ·)) := by
  rw [Nesting.bodies]
  generalize v.listed = l at all
  induction all with
  | nil => exact .nil
  | @cons e v rest rest' first _ ih =>
    obtain ⟨c, body, rfl, here, tells⟩ := first.tells
    rw [List.filterMap_cons, Value.caseSteps?, here]
    exact .cons ⟨first.field, tells⟩ ih

theorem fill_optionalCases {read : Value → Checked (Branch × List Step)}
    (given : ∀ v, Gives (Cased m name · v) (read v)) :
    Gives (Fill m t [(name, .cases)]) (t.optional name [] (Read.list read)) := by
  refine Table.gives_field (fun missing => ?_) fun v found branches read => ?_
  · rw [Fill, Table.bodies_missing missing]
    exact .nil
  · rw [Fill, Table.bodies_found found]
    exact stands_of_cased (Read.follows_list given v branches read)

theorem gives_neededSteps (given : ∀ v, Gives (Tells m · v) (steps v)) (c : Table) (name : String) :
    Gives (fun found => ∃ body, c.get? name = some body ∧ Tells m found body)
      (c.required name (someSteps steps)) :=
  Table.gives_needed fun v here => Read.keeps_nonEmpty fun found read => ⟨v, here, given v found read⟩

theorem cased_record {read : Table → Checked (Branch × List Step)}
    (given : ∀ c, Gives (fun e => e.1.field = name ∧
      ∃ body, Table.get? c "steps" = some body ∧ Tells m e.2 body) (read c)) (v : Value) :
    Gives (Cased m name · v) (Read.record read v) := by
  unfold Read.record
  split
  · rename_i c
    intro e read
    obtain ⟨field, body, here, tells⟩ := given c e read
    exact ⟨field, c, body, rfl, here, tells⟩
  · exact .fault
  · exact .fault

section Cases

variable (given : ∀ v, Gives (Tells m · v) (steps v))
include given

theorem cased_input : ∀ v, Gives (Cased m "inputs" · v) (Read.record (inputCase steps) v) :=
  cased_record fun c => .seqLeft (.seq (.seq_any (.map_any fun _ _ _ tells => ⟨rfl, tells⟩))
    (gives_neededSteps given c _))

theorem cased_attribute : ∀ v, Gives (Cased m "cases" · v) (Read.record (attributeCase steps) v) :=
  cased_record fun c => .seqLeft (.seq (.seq_any (.map_any fun _ _ _ tells => ⟨rfl, tells⟩))
    (gives_neededSteps given c _))

theorem cased_bucket : ∀ v, Gives (Cased m "buckets" · v) (Read.record (bucket steps) v) :=
  cased_record fun c => .seqLeft (.seq (.map_any fun _ _ tells => ⟨rfl, tells⟩)
    (gives_neededSteps given c _))

end Cases

/-- What is nested in a step is read as its data says. -/
structure Nested.Follows (nested : Nested) (m : Nat) : Prop where
  steps : ∀ v, Gives (Tells m · v) (nested.steps v)
  case : ∀ v, Gives (Cased m "inputs" · v) (nested.case v)

theorem fill_inputBranches {nested : Nested} (follows : nested.Follows m) (t : Table) :
    Gives (Fill m t (StepType.branchFields .collect)) (inputBranches nested t) := by
  have branch (name : String) {kind : Branch} (field : kind.field = name) :=
    fill_branchAt follows.steps t name field
  have named (v : Value) : Gives (fun found => List.Forall₂ (fun e body => Tells m e.2 body) found
      (v.entries.map (·.2))) (Read.tableOf nested.steps v) := fun found read =>
    List.forall₂_map_right_iff.2 ((Read.follows_tableOf follows.steps v found read).imp
      fun _ _ alike => alike.2)
  refine fill_concat (.cons ?_ (.cons ?_ (.cons (fill_optionalCases follows.case)
    (.cons (branch _ rfl) (.cons (branch _ rfl) (.cons (branch _ rfl) (.cons (branch _ rfl)
      (.cons (branch _ rfl) .nil))))))))
  · refine fill_tabled .byDigits (fun digits => .digits (.text digits)) (fun _ => rfl)
      fun v => .andThen fun v' texts => ?_
    rw [Nesting.bodies, texts]
    exact named v'
  · exact fill_tabled .byName (fun intent => .intent (.text intent)) (fun _ => rfl) named

theorem fill_lateBranches {nested : Nested} (follows : nested.Follows m) {k : StepType}
    (other : k ≠ .collect ∧ k ≠ .sequentialInput) (t : Table) :
    Gives (Fill m t k.branchFields) (lateBranches k nested.steps t) := by
  have branch (name : String) {kind : Branch} (field : kind.field = name) :=
    fill_branchAt follows.steps t name field
  cases k with
  | collect => exact absurd rfl other.1
  | sequentialInput => exact absurd rfl other.2
  | checkAttribute =>
    exact fill_concat (.cons (fill_optionalCases (cased_attribute follows.steps))
      (.cons (branch _ rfl) .nil))
  | checkHours => exact fill_concat (.cons (branch _ rfl) (.cons (branch _ rfl) .nil))
  | checkStaffing => exact fill_concat (.cons (branch _ rfl) (.cons (branch _ rfl) .nil))
  | splitPercent =>
    refine fill_concat (.cons ?_ (.cons (branch _ rfl) .nil))
    refine Table.gives_needed fun v here => Read.keeps_nonEmpty fun found read => ?_
    rw [Fill, Table.bodies_found here]
    exact stands_of_cased (Read.follows_list (cased_bucket follows.steps) v found read)
  | loop =>
    refine .map (gives_neededSteps follows.steps t _) fun body ⟨v, here, tells⟩ => ?_
    rw [Fill, StepType.branchFields, Table.bodies_found here]
    exact .cons ⟨rfl, tells⟩ .nil
  | _ => exact .good .nil

theorem fill_branches {nested : Nested} (follows : nested.Follows m) (k : StepType) (t : Table)
    {early late : Branches} (first : earlyBranches k nested t = .good early)
    (last : lateBranches k nested.steps t = .good late) : Fill m t k.branchFields (early ++ late) := by
  by_cases one : k = .collect
  · subst one
    cases last
    rw [List.append_nil]
    exact fill_inputBranches follows t early first
  by_cases two : k = .sequentialInput
  · subst two
    cases last
    rw [List.append_nil]
    exact fill_inputBranches follows t early first
  have none : early = [] := by
    cases k with
    | collect => exact absurd rfl one
    | sequentialInput => exact absurd rfl two
    | _ => exact (Checked.good.inj first).symm
  rw [none, List.nil_append]
  exact fill_lateBranches follows ⟨one, two⟩ t late last

/-- The action of a step is of the kind that its type stands for. -/
theorem kind_head {k : StepType} {kind : ActionKind} (stands : k.kind? = some kind) (t : Table) :
    Gives (fun head => head.kind = kind) (head k t) := by
  cases k with
  | resume => cases stands
  | jump => cases stands
  | message => cases stands; exact .seq_any (.map_any fun _ _ => rfl)
  | collect =>
    cases stands
    exact .seq_any (.seq_any (.seq_any (.seq_any (.seq_any (.seq_any (.map_any
      fun _ _ _ _ _ _ _ => rfl))))))
  | sequentialInput =>
    cases stands
    exact .seq_any (.seq_any (.seq_any (.map_any fun _ _ _ _ => rfl)))
  | storeInput =>
    cases stands
    exact .seq_any (.seq_any (.seq_any (.map_any fun _ _ _ _ => rfl)))
  | invoke =>
    cases stands
    exact .seq_any (.seq_any (.seq_any (.map_any fun _ _ _ _ => rfl)))
  | checkAttribute => cases stands; exact .seq_any (.map_any fun _ _ => rfl)
  | checkStaffing => cases stands; exact .seq_any (.map_any fun _ _ => rfl)
  | transferToExternal => cases stands; exact .seq_any (.seq_any (.map_any fun _ _ _ => rfl))
  | splitPercent => cases stands; exact .good rfl
  | disconnect => cases stands; exact .good rfl
  | finish => cases stands; exact .good rfl
  | _ => cases stands; exact .map_any fun _ => rfl

theorem headings_branchItems {branches : Branches} {bodies : List (String × Value)}
    (all : List.Forall₂ (Stands m) branches bodies) :
    branches.map (fun e => e.1.field) = bodies.map (·.1) ∧
      (branchItems branches).map Item.heading = bodies.flatMap fun e => e.2.headings m := by
  induction all with
  | nil => exact ⟨rfl, rfl⟩
  | @cons e p rest rest' first _ ih =>
    obtain ⟨which, steps⟩ := e
    rw [List.map_cons, List.map_cons, ih.1, first.field, branchItems, List.map_append, ih.2,
      List.flatMap_cons, show _ = _ from first.tells]
    exact ⟨rfl, rfl⟩

theorem headings_errorItems {errors : List (String × List Step)} {bodies : List (String × Value)}
    (all : Ordered.Alike (Tells m) errors bodies) :
    errors.map (·.1) = bodies.map (·.1) ∧
      (errorItems errors).map Item.heading = bodies.flatMap fun e => e.2.headings m := by
  induction all with
  | nil => exact ⟨rfl, rfl⟩
  | @cons e p rest rest' first _ ih =>
    obtain ⟨name, steps⟩ := e
    rw [List.map_cons, List.map_cons, ih.1, first.1, errorItems, List.map_append, ih.2,
      List.flatMap_cons, show _ = _ from first.2]
    exact ⟨rfl, rfl⟩

theorem headings_action {branches : Branches} {errors : List (String × List Step)} {k : StepType}
    {kind : ActionKind} {head : Head} {frame : Frame} (id : frame.id = t.ownId)
    (stands : k.kind? = some kind) (asked : head.kind = kind) (fill : Fill m t k.branchFields branches)
    (alike : Ordered.Alike (Tells m) errors t.handlers) :
    (items (.action head frame branches errors)).map Item.heading =
      t.headings k (Value.headings m) := by
  obtain ⟨fields, inside⟩ := headings_branchItems fill
  obtain ⟨names, behind⟩ := headings_errorItems alike
  rw [Table.headings, stands, items, List.map_cons, List.map_append, inside, behind]
  simp only [Item.heading, List.map_map, Function.comp_def, fields, names, id, asked, Option.elim,
    List.flatMap_append]

theorem headings_actionOf {nested : Nested} (follows : nested.Follows m) {k : StepType}
    {kind : ActionKind} (stands : k.kind? = some kind) (t : Table) :
    Gives (fun s => (items s).map Item.heading = t.headings k (Value.headings m))
      (actionOf k nested t) := by
  intro s read
  obtain ⟨head, frame, early, late, errors, rfl, asked, framed, first, last, handled⟩ :=
    actionOf_good read
  have id : frame.id = t.ownId := by
    obtain ⟨_, label, here, _, rfl⟩ := Checked.seq_good framed
    obtain ⟨id, given, rfl⟩ := Checked.map_good here
    rw [Table.ownId, given]
  have alike : Ordered.Alike (Tells m) errors t.handlers := by
    refine Table.gives_field (P := (Ordered.Alike (Tells m) · t.handlers)) (fun missing => ?_)
      (fun v found => ?_) errors handled
    · rw [Table.handlers, missing]
      exact .nil
    · rw [Table.handlers, found]
      exact Read.follows_tableOf follows.steps v
  exact headings_action id stands (kind_head stands t head asked) (fill_branches follows k t first last)
    alike

theorem checkBody_good {s s' : Step} (checked : checkBody s = .good s') : s' = s := by
  unfold checkBody at checked
  split at checked
  · split at checked
    · exact (Checked.good.inj checked).symm
    · cases checked
  · exact (Checked.good.inj checked).symm

theorem headings_ofTable {nested : Nested} (follows : nested.Follows m) (k : StepType) (t : Table) :
    Gives (fun s => (items s).map Item.heading = t.headings k (Value.headings m))
      (ofTable nested k t) := by
  have stands (other : k ≠ .resume ∧ k ≠ .jump) : ∃ kind, k.kind? = some kind := by
    cases k with
    | resume => exact absurd rfl other.1
    | jump => exact absurd rfl other.2
    | _ => exact ⟨_, rfl⟩
  unfold ofTable
  split
  · exact .seqLeft (.seq_any (.map_any fun _ _ => rfl))
  · exact .seqLeft (.seq_any (.seq_any (.map_any fun _ _ _ => rfl)))
  · rename_i plain jumps
    obtain ⟨kind, stands⟩ := stands ⟨plain, jumps⟩
    refine .andThen fun s read s' checked => ?_
    rw [checkBody_good checked]
    exact headings_actionOf follows stands t s read

/-- A step is read of the type that its data names. -/
theorem gives_step {P : Step → Table → StepType → Prop} {read : StepType → Table → Checked Step}
    (given : ∀ k t, Gives (P · t k) (read k t)) (v : Value) :
    Gives (fun s => ∃ t k, v.step? = some (t, k) ∧ P s t k) (ofValue read v) := by
  unfold ofValue
  split
  · rename_i t
    split
    · exact .fault
    · rename_i type here
      split
      · exact .fault
      · rename_i k named
        intro s read
        refine ⟨t, k, ?_, (given k t).under _ s read⟩
        rw [Value.step?, here, Option.bind_some, named]
        rfl
  · exact .fault
  · exact .fault

/-- Steps of a list come one after another. -/
theorem tells_of_each {found : List Step} {v : Value} (each : List.Forall₂ (fun s v => ∃ t k,
      v.step? = some (t, k) ∧ (items s).map Item.heading = t.headings k (Value.headings m))
    found v.listed) : Tells (m + 1) found v := by
  rw [Tells, Value.headings]
  generalize v.listed = l at each
  induction each with
  | nil => rfl
  | @cons s v rest rest' first _ ih =>
    obtain ⟨t, k, named, here⟩ := first
    rw [outline, List.map_append, here, ih, List.flatMap_cons, named]
    rfl

mutual

/-- However deep steps are nested, reading them neither loses one nor moves it. -/
theorem tells_listIn : (n : Nat) → {m : Nat} → n ≤ m → ∀ v, Gives (Tells m · v) (listIn n v)
  | 0, m, _ => fun v found read => by
    rw [listIn_zero] at read
    have none := Read.follows_list (gives_step (P := fun _ _ _ => False) fun _ _ => .fault) v found read
    cases listed : v.listed with
    | nil =>
      rw [listed] at none
      cases none
      cases m <;> simp [Tells, outline, Value.headings, listed]
    | cons first rest =>
      rw [listed] at none
      cases none with
      | cons impossible _ => exact impossible.elim fun _ ⟨_, _, never⟩ => never.elim
  | n + 1, m + 1, enough => fun v found read => by
    rw [listIn_succ] at read
    exact tells_of_each (Read.follows_list (gives_step (headings_ofTable (follows_nestedIn n
      (Nat.le_of_succ_le_succ enough)))) v found read)

theorem follows_nestedIn : (n : Nat) → {m : Nat} → n ≤ m → (nestedIn n).Follows m
  | 0, _, enough => ⟨tells_listIn 0 enough, fun _ => .fault⟩
  | n + 1, _, enough =>
    ⟨tells_listIn (n + 1) enough, cased_input (tells_listIn n (Nat.le_of_succ_le enough))⟩

end

end Step

namespace FlowDefinition

/-- What the data of a flow says of its nodes. -/
def headingsOf (t : Table) : List Heading :=
  (t.get? "steps").elim [] (Value.headings Step.maxDepth)

theorem headings_of_read {t : Table} {f : FlowDefinition}
    (read : FlowDefinition.ofTable t = .good f) :
    (Step.outline f.steps).map Item.heading = headingsOf t := by
  refine Checked.Gives.seq
    (P := fun f : FlowDefinition => (Step.outline f.steps).map Item.heading = headingsOf t)
    (Q := fun steps => (Step.outline steps).map Item.heading = headingsOf t)
    (.map_any fun _ steps same => same) ?_ f read
  refine Table.gives_field (fun missing => ?_) fun v found => ?_
  · rw [headingsOf, missing]
    rfl
  · rw [headingsOf, found]
    exact Step.tells_listIn Step.maxDepth (Nat.le_refl _) v

/-- A flow has a node for each step that its data asks an action for and no other node, in the order
in which the steps stand in the data: a step, the branches of its fields in the order of the fields,
its error handlers, and then the next step of its list. A node has the identifier and the kind that
its step asks for, and its edges are those of the branches, in their order, and then those of the
handlers. -/
theorem nodes_of_build {t : Table} {f : FlowDefinition} (read : FlowDefinition.ofTable t = .good f)
    {name : String} {w : Workspace} (built : f.build name = .ok w) :
    List.Forall₂ Face.Shows w.graph.faces (Step.outline f.steps) ∧
      (Step.outline f.steps).map Item.heading = headingsOf t :=
  ⟨shown_of_build (gives_allSane t f read) built, headings_of_read read⟩

def prompted (name : String) : Value :=
  .list [.record [("type", .text "message"), ("id", .text name), ("text", .text name)]]

/-- A menu with a loop under one of its digits, and with steps after it. -/
def nestedMenu : Table := [(.text "steps", .list [
  .record [("type", .text "collect"), ("id", .text "menu"), ("prompt", .text "Press 1"),
    ("on_timeout", prompted "late"),
    ("errors", .record [("NoMatchingError", .list [.record [("type", .text "continue")]])]),
    ("digits", .record [("1", .list [.record [("type", .text "loop"), ("times", .int 2),
      ("body", prompted "again")]]), ("2", prompted "two")])],
  .record [("type", .text "disconnect")]])]

theorem nodes_of_nestedMenu : ∃ f w, FlowDefinition.ofTable nestedMenu = .good f ∧
    f.build "Menu" = .ok w ∧
    (List.Forall₂ Face.Shows w.graph.faces (Step.outline f.steps) ∧
      (Step.outline f.steps).map Item.heading = headingsOf nestedMenu) ∧
    (headingsOf nestedMenu).map (·.id) =
      [some "menu", none, some "again", some "two", some "late", none] := by
  obtain ⟨f, read, builds⟩ : ∃ f, FlowDefinition.ofTable nestedMenu = .good f ∧
      (f.build "Menu").toOption.isSome := ⟨_, rfl, by decide +kernel⟩
  obtain ⟨w, built⟩ := Option.isSome_iff_exists.1 builds
  have built : f.build "Menu" = .ok w := Results.toOption_eq_some.1 built
  exact ⟨f, w, read, built, nodes_of_build read built, rfl⟩

end FlowDefinition

end ContactFlow
