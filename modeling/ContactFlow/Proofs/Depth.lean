import ContactFlow.Proofs.Readings

/-!
How deep steps may be nested in each other decides only whether they are read. What is read within a
limit is also read, and is the same, within every greater one.
-/

namespace ContactFlow

namespace Checked

variable {α β : Type} {x y : Checked α}

/-- Whatever comes of the first reading comes of the second one. -/
def Below (x y : Checked α) : Prop := ∀ a, x = .good a → y = .good a

namespace Below

theorem refl (x : Checked α) : x.Below x := fun _ => id

theorem fault {p : Problem} : (Checked.fault p).Below y := nofun

theorem map (below : x.Below y) (f : α → β) : (f <$> x).Below (f <$> y) := fun b read => by
  obtain ⟨a, here, rfl⟩ := map_good read
  rw [below a here]
  rfl

theorem seq {f g : Checked (α → β)} (first : f.Below g) (second : x.Below y) :
    (f <*> x).Below (g <*> y) := fun b read => by
  obtain ⟨h, a, here, there, rfl⟩ := seq_good read
  rw [first h here, second a there]
  rfl

theorem seqLeft (below : x.Below y) (z : Checked β) : (x <* z).Below (y <* z) :=
  (below.map _).seq (refl z)

theorem andThen (below : x.Below y) {f g : α → Checked β} (each : ∀ a, (f a).Below (g a)) :
    (x.andThen f).Below (y.andThen g) := by
  cases x with
  | good a =>
    rw [below a rfl]
    exact each a
  | bad faults => exact nofun

theorem under (below : x.Below y) (place : Place) : (x.under place).Below (y.under place) := by
  cases x with
  | good a =>
    rw [below a rfl]
    exact refl _
  | bad faults => exact nofun

theorem each {read read' : α → Checked β} (below : ∀ a, (read a).Below (read' a)) (l : List α) :
    (Checked.each read l).Below (Checked.each read' l) := by
  induction l with
  | nil => exact refl _
  | cons a rest ih => exact ((below a).map _).seq ih

end Below

end Checked

open Checked (Below)

namespace Table

variable {α : Type} {read read' : Value → Checked α} (below : ∀ v, (read v).Below (read' v))
include below

theorem below_required (t : Table) (name : String) :
    (t.required name read).Below (t.required name read') := by
  unfold required
  split
  · exact (below _).under _
  · exact .refl _

theorem below_optional (t : Table) (name : String) (absent : α) :
    (t.optional name absent read).Below (t.optional name absent read') := by
  unfold optional
  split
  · exact (below _).under _
  · exact .refl _

theorem below_maybe (t : Table) (name : String) : (t.maybe name read).Below (t.maybe name read') := by
  refine below_optional (fun v => ?_) t name none
  unfold Read.nullable
  split
  · exact .refl _
  · exact (below _).map _

end Table

namespace Read

variable {α : Type}

section

variable {read read' : Value → Checked α} (below : ∀ v, (read v).Below (read' v))
include below

theorem below_eachFrom (i : Int) (l : List Value) : (eachFrom read i l).Below (eachFrom read' i l) := by
  induction l generalizing i with
  | nil => exact .refl _
  | cons v rest ih => exact (((below v).under _).map _).seq (ih (i + 1))

theorem below_list (v : Value) : (list read v).Below (list read' v) := by
  unfold list
  split
  · exact below_eachFrom below 0 _
  · exact below_eachFrom below 0 _
  · exact .refl _
  · exact .refl _

theorem below_tableOf (v : Value) : (tableOf read v).Below (tableOf read' v) := by
  unfold tableOf
  split
  · exact (Below.each (fun (_, v) => .seq (.refl _) ((below v).under _)) _).map _
  · exact .refl _
  · exact .refl _

end

theorem below_record {read read' : Table → Checked α} (below : ∀ t, (read t).Below (read' t))
    (v : Value) : (record read v).Below (record read' v) := by
  unfold record
  split
  · exact below _
  · exact .refl _
  · exact .refl _

end Read

namespace Step

section Lists

variable {steps steps' : Lists} (below : ∀ v, (steps v).Below (steps' v))
include below

theorem below_someSteps (v : Value) : (someSteps steps v).Below (someSteps steps' v) :=
  (below v).andThen fun _ => .refl _

theorem below_inputCase (t : Table) : (inputCase steps t).Below (inputCase steps' t) :=
  .seqLeft (.seq (.refl _) (Table.below_required (below_someSteps below) t _)) _

theorem below_attributeCase (t : Table) : (attributeCase steps t).Below (attributeCase steps' t) :=
  .seqLeft (.seq (.refl _) (Table.below_required (below_someSteps below) t _)) _

theorem below_bucket (t : Table) : (bucket steps t).Below (bucket steps' t) :=
  .seqLeft (.seq (.refl _) (Table.below_required (below_someSteps below) t _)) _

theorem below_branchAt (t : Table) (name : String) (kind : Branch) :
    (branchAt steps t name kind).Below (branchAt steps' t name kind) :=
  (Table.below_maybe below t name).map _

end Lists

theorem below_concat {parts parts' : List (Checked Branches)}
    (below : List.Forall₂ Below parts parts') : (concat parts).Below (concat parts') := by
  refine .map ?_ _
  induction below with
  | nil => exact .refl _
  | cons first _ ih => exact (first.map _).seq ih

/-- Whatever is read of what is nested one way is read the other way too. -/
structure Nested.Below (nested nested' : Nested) : Prop where
  steps : ∀ v, (nested.steps v).Below (nested'.steps v)
  case : ∀ v, (nested.case v).Below (nested'.case v)

section Nested

variable {nested nested' : Nested} (below : nested.Below nested')
include below

theorem below_inputBranches (t : Table) :
    (inputBranches nested t).Below (inputBranches nested' t) := by
  have named (v : Value) := Read.below_tableOf below.steps v
  have branch (name : String) (kind : Branch) := below_branchAt below.steps t name kind
  exact below_concat (.cons ((Table.below_optional (fun v => .andThen (.refl _) named) t _ _).map _)
    (.cons ((Table.below_optional named t _ _).map _)
    (.cons (Table.below_optional (Read.below_list below.case) t _ _)
    (.cons (branch _ _) (.cons (branch _ _) (.cons (branch _ _) (.cons (branch _ _)
    (.cons (branch _ _) .nil))))))))

theorem below_earlyBranches (k : StepType) (t : Table) :
    (earlyBranches k nested t).Below (earlyBranches k nested' t) := by
  cases k with
  | collect => exact below_inputBranches below t
  | sequentialInput => exact below_inputBranches below t
  | _ => exact .refl _

theorem below_lateBranches (k : StepType) (t : Table) :
    (lateBranches k nested.steps t).Below (lateBranches k nested'.steps t) := by
  have branch (name : String) (kind : Branch) := below_branchAt below.steps t name kind
  cases k with
  | checkAttribute =>
    have cases := Read.below_list (Read.below_record (below_attributeCase below.steps))
    exact below_concat (.cons (Table.below_optional cases t _ _) (.cons (branch _ _) .nil))
  | checkHours => exact below_concat (.cons (branch _ _) (.cons (branch _ _) .nil))
  | checkStaffing => exact below_concat (.cons (branch _ _) (.cons (branch _ _) .nil))
  | splitPercent =>
    have buckets := Read.below_list (Read.below_record (below_bucket below.steps))
    exact below_concat (.cons (Table.below_required (fun v => (buckets v).andThen fun _ => .refl _) t _)
      (.cons (branch _ _) .nil))
  | loop => exact (Table.below_required (below_someSteps below.steps) t _).map _
  | _ => exact .refl _

theorem below_actionOf (k : StepType) (t : Table) :
    (actionOf k nested t).Below (actionOf k nested' t) := by
  have errors := Table.below_optional (Read.below_tableOf below.steps) t "errors" []
  exact .seqLeft (.seq (.seq (.seq (.seq (.seq (.refl _) errors) (below_earlyBranches below k t))
    (.refl _)) (.refl _)) (below_lateBranches below k t)) _

theorem below_ofTable (k : StepType) (t : Table) :
    (ofTable nested k t).Below (ofTable nested' k t) := by
  unfold ofTable
  split
  · exact .refl _
  · exact .refl _
  · exact (below_actionOf below _ t).andThen fun _ => .refl _

end Nested

theorem below_ofValue {read read' : StepType → Table → Checked Step}
    (below : ∀ k t, (read k t).Below (read' k t)) (v : Value) :
    (ofValue read v).Below (ofValue read' v) := by
  unfold ofValue
  split
  · split
    · exact .refl _
    · split
      · exact .refl _
      · exact (below _ _).under _
  · exact .refl _
  · exact .refl _

mutual

/-- A list of steps that is read within a limit is read alike within a greater one. -/
theorem below_listIn : (n : Nat) → {m : Nat} → n ≤ m → ∀ v, (listIn n v).Below (listIn m v)
  | 0, 0, _ => fun _ => .refl _
  | 0, m + 1, _ => by
    rw [listIn_zero, listIn_succ]
    exact Read.below_list (below_ofValue fun _ _ => .fault)
  | n + 1, m + 1, more => by
    rw [listIn_succ, listIn_succ]
    exact Read.below_list (below_ofValue (below_ofTable (below_nestedIn n
      (Nat.le_of_succ_le_succ more))))
termination_by n => (n, 0)

theorem below_nestedIn : (n : Nat) → {m : Nat} → n ≤ m → (nestedIn n).Below (nestedIn m)
  | 0, 0, _ => ⟨fun _ => .refl _, fun _ => .refl _⟩
  | 0, m + 1, more => ⟨below_listIn 0 more, fun _ => .fault⟩
  | n + 1, m + 1, more => ⟨below_listIn (n + 1) more,
      Read.below_record (below_inputCase (below_listIn n (Nat.le_of_succ_le_succ more)))⟩
termination_by n => (n, 1)

end

end Step

end ContactFlow
