import ContactFlow.Proofs.Identifiers
import ContactFlow.Proofs.Ordered
import Mathlib.Data.Nat.Find

/-!
Allocation is a plain scan. The counters of an allocator are short cuts only: whatever they pass over
is in use. So each call is answered as if the identifiers of its base were tried one after another,
the slug itself first, and none was handed out that a call before had returned.
-/

namespace ContactFlow.Allocator

inductive Call
  | allocate (hint fallback : String)
  | reserve (id : Value)

/-- The identifier that a call returns, or why it returns none. -/
abbrev Answer := Except UsageError String

def answer (a : Allocator) : Call → Answer × Allocator
  | .allocate hint fallback => (.ok (a.allocate hint fallback).1, (a.allocate hint fallback).2)
  | .reserve id =>
    match a.reserveValue id with
    | .ok (id, a') => (.ok id, a')
    | .error e => (.error e, a)

/-- The allocator after calls, made one after another. -/
def after (a : Allocator) (calls : List Call) : Allocator := calls.foldl (fun a c => (a.answer c).2) a

def answers (a : Allocator) : List Call → List Answer
  | [] => []
  | c :: rest => (a.answer c).1 :: (a.answer c).2.answers rest

def returned (answers : List Answer) : List String := answers.filterMap (·.toOption)

/-! ### The scan -/

theorem exists_free (taken : List String) (base : String) : ∃ k, candidate base k ∉ taken :=
  ⟨_, firstFree_free taken base 0⟩

/-- The first of `base`, `base_2`, `base_3`, … that is not taken. -/
def firstUntaken (taken : List String) (base : String) : String :=
  candidate base (Nat.find (exists_free taken base))

/-- The answer to a call by what was returned before, and nothing else. -/
def scanned (taken : List String) : Call → Answer
  | .allocate hint fallback =>
    let slugs := [Slug.ofHint hint, Slug.ofHint fallback]
    .ok (firstUntaken taken ((slugs.find? (· ≠ "")).getD "action"))
  | .reserve id =>
    match id.text? with
    | none => .error (if id.isTruthy then .mismatch .property else .emptyNodeId)
    | some id =>
      if Text.blank id then .error .emptyNodeId
      else if id ∈ taken then .error (.duplicateNodeId id)
      else .ok id

def scan (taken : List String) : List Call → List Answer
  | [] => []
  | c :: rest => scanned taken c :: scan (taken ++ (scanned taken c).toOption.toList) rest

/-! ### What the counters pass over -/

/-- Whatever comes before the counter of a base is in use. -/
def Counted (a : Allocator) : Prop :=
  ∀ base count, a.counters.lookup base = some count → ∀ k < count, candidate base k ∈ a.used

variable {a : Allocator}

theorem firstFree_least {used : List String} {base : String} {fuel start k : Nat}
    (least : start ≤ k) (below : k < firstFree used base fuel start) : candidate base k ∈ used := by
  induction fuel generalizing start with
  | zero =>
    unfold firstFree at below
    omega
  | succ fuel ih =>
    unfold firstFree at below
    split at below
    · rename_i taken
      rcases Nat.eq_or_lt_of_le least with rfl | later
      · simpa using taken
      · exact ih later below
    · omega

theorem base_eq (hint fallback : String) :
    base hint fallback =
      ([Slug.ofHint hint, Slug.ofHint fallback].find? (· ≠ "")).getD "action" := by
  by_cases own : Slug.ofHint hint = ""
  · by_cases other : Slug.ofHint fallback = "" <;> simp [base, own, other]
  · simp [base, own]

/-- The place of the identifier that an allocation finds among those of its base. -/
def found (a : Allocator) (base : String) : Nat :=
  firstFree a.used base a.used.length ((a.counters.lookup base).getD 0)

/-- Nothing that an allocation passes over is free. -/
theorem Counted.below (counted : a.Counted) {base : String} {k : Nat} (below : k < a.found base) :
    candidate base k ∈ a.used := by
  by_cases passed : k < (a.counters.lookup base).getD 0
  · cases counter : a.counters.lookup base with
    | none => simp [counter] at passed
    | some count =>
      rw [counter] at passed
      exact counted base count counter k passed
  · exact firstFree_least (Nat.le_of_not_lt passed) below

theorem Counted.find_eq (counted : a.Counted) (base : String) :
    Nat.find (exists_free a.used base) = a.found base := by
  rw [Nat.find_eq_iff]
  constructor
  · exact firstFree_free a.used base _
  · intro k below free
    exact free (counted.below below)

theorem Counted.put (counted : a.Counted) (base : String) :
    Counted ⟨a.used ++ [candidate base (a.found base)],
      Ordered.put a.counters base (a.found base + 1)⟩ := by
  intro other count counter k below
  rw [List.mem_append, List.mem_singleton]
  by_cases same : other = base
  · subst same
    rw [Ordered.lookup_put_self, Option.some.injEq] at counter
    subst counter
    rcases Nat.lt_succ_iff_lt_or_eq.1 below with passed | rfl
    · exact .inl (counted.below passed)
    · exact .inr rfl
  · rw [Ordered.lookup_put_other same] at counter
    exact .inl (counted other count counter k below)

theorem Counted.append (counted : a.Counted) (ids : List String) :
    Counted { a with used := a.used ++ ids } := by
  intro base count counter k below
  exact List.mem_append_left ids (counted base count counter k below)

/-! ### Calls -/

/-- A call is answered as the scan says, the allocator uses what it returned besides, and its
counters stay right. -/
structure Answered (a : Allocator) (c : Call) (result : Answer × Allocator) : Prop where
  answer : result.1 = scanned a.used c
  used : result.2.used = a.used ++ (scanned a.used c).toOption.toList
  counted : result.2.Counted

theorem Counted.allocate (counted : a.Counted) (hint fallback : String) :
    Answered a (.allocate hint fallback) (a.answer (.allocate hint fallback)) := by
  have answer : scanned a.used (.allocate hint fallback) =
      .ok (candidate (base hint fallback) (a.found (base hint fallback))) := by
    rw [scanned, ← base_eq, firstUntaken, counted.find_eq]
  constructor
  · rw [answer]
    rfl
  · rw [answer]
    rfl
  · exact counted.put (base hint fallback)

theorem reserveValue_eq (a : Allocator) (id : Value) :
    a.reserveValue id =
      (scanned a.used (.reserve id)).map fun id => (id, { a with used := a.used ++ [id] }) := by
  cases text : id.text? with
  | none =>
    have mistyped : id.asText = .error .property := by
      unfold Value.asText
      split
      · cases text
      · rfl
    unfold reserveValue
    simp only [scanned, text, mistyped]
    cases id.isTruthy <;> rfl
  | some s =>
    obtain rfl : id = .text s := by
      unfold Value.text? at text
      split at text <;> cases text
      rfl
    have truthy : (Value.text s).isTruthy = !(s == "") := rfl
    have read : (Value.text s).asText = .ok s := rfl
    unfold reserveValue Allocator.reserve
    by_cases nothing : s = ""
    · subst nothing
      rfl
    · by_cases blank : Text.blank s = true
      · simp [scanned, text, truthy, nothing, blank, read, Except.mapError, Except.map]
      · by_cases taken : s ∈ a.used <;>
          simp [scanned, text, truthy, nothing, blank, taken, read, Except.mapError, Except.map]

theorem Counted.reserve (counted : a.Counted) (id : Value) :
    Answered a (.reserve id) (a.answer (.reserve id)) := by
  have reserved := reserveValue_eq a id
  cases told : scanned a.used (.reserve id) with
  | error e =>
    rw [told] at reserved
    have refused : a.answer (.reserve id) = (.error e, a) := by simp only [answer, reserved, Except.map]
    rw [refused]
    constructor
    · exact told.symm
    · rw [told]
      exact (List.append_nil a.used).symm
    · exact counted
  | ok id' =>
    rw [told] at reserved
    have granted : a.answer (.reserve id) = (.ok id', { a with used := a.used ++ [id'] }) := by
      simp only [answer, reserved, Except.map]
    rw [granted]
    constructor
    · exact told.symm
    · rw [told]
      rfl
    · exact counted.append [id']

theorem Counted.answered (counted : a.Counted) (c : Call) : Answered a c (a.answer c) := by
  cases c with
  | allocate hint fallback => exact counted.allocate hint fallback
  | reserve id => exact counted.reserve id

/-- What the scan returns was not taken before. -/
theorem not_mem_of_scanned {taken : List String} {c : Call} {id : String}
    (told : scanned taken c = .ok id) : id ∉ taken := by
  cases c with
  | allocate hint fallback =>
    simp only [scanned, Except.ok.injEq] at told
    subst told
    exact Nat.find_spec (exists_free taken _)
  | reserve v =>
    simp only [scanned] at told
    split at told
    · cases told
    · split at told
      · cases told
      · split at told
        · cases told
        · cases told
          assumption

/-! ### Whole sequences of calls -/

theorem returned_cons (first : Answer) (rest : List Answer) :
    returned (first :: rest) = first.toOption.toList ++ returned rest := by
  unfold returned
  cases first <;> rfl

theorem Counted.answers (counted : a.Counted) (calls : List Call) :
    a.answers calls = scan a.used calls ∧
      (a.after calls).used = a.used ++ returned (a.answers calls) ∧ (a.after calls).Counted := by
  induction calls generalizing a with
  | nil => exact ⟨rfl, (List.append_nil a.used).symm, counted⟩
  | cons c rest ih =>
    obtain ⟨answer, used, next⟩ := counted.answered c
    obtain ⟨answers, after, last⟩ := ih next
    refine ⟨?_, ?_, last⟩
    · rw [Allocator.answers, scan, answer, answers, used]
    · rw [Allocator.answers, returned_cons, answer, ← List.append_assoc, ← used]
      exact after

theorem nodup_scan (taken : List String) (calls : List Call) (distinct : taken.Nodup) :
    (taken ++ returned (scan taken calls)).Nodup := by
  induction calls generalizing taken with
  | nil => simpa [scan, returned] using distinct
  | cons c rest ih =>
    rw [scan, returned_cons, ← List.append_assoc]
    apply ih
    cases told : scanned taken c with
    | error e => simpa [Except.toOption] using distinct
    | ok id =>
      simp only [Except.toOption, Option.toList_some, List.nodup_append, List.nodup_singleton,
        List.mem_singleton, forall_eq, true_and]
      refine ⟨distinct, ?_⟩
      intro other there same
      subst same
      exact not_mem_of_scanned told there

/-- An allocator answers every sequence of calls as a plain scan does. No identifier is returned
twice, and the counters pass over nothing that was not returned. -/
theorem answers_eq_scan (calls : List Call) :
    answers {} calls = scan [] calls ∧ (returned (answers {} calls)).Nodup ∧
      ∀ base count, (after {} calls).counters.lookup base = some count →
        ∀ k < count, candidate base k ∈ returned (answers {} calls) := by
  have start : Counted {} := by
    intro base count counter
    cases counter
  obtain ⟨answers, used, counted⟩ := start.answers calls
  refine ⟨answers, ?_, ?_⟩
  · rw [answers]
    simpa using nodup_scan [] calls List.nodup_nil
  · intro base count counter k below
    have there := counted base count counter k below
    rwa [used, List.nil_append] at there

/-- The second menu would be `menu_2`, had that not been taken by hand; a slug of its own that looks
like the third one is passed over as well. -/
example : (answers {} [.reserve (.text "menu_2"), .allocate "Menu" "action", .reserve (.text "menu"),
      .allocate "menu 3" "action", .allocate "Menu!" "action", .allocate "?" "menu"]).map
        (·.toOption) =
    [some "menu_2", some "menu", none, some "menu_3", some "menu_4", some "menu_5"] := by
  decide +kernel

end ContactFlow.Allocator
