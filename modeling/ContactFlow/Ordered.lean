/-!
Association lists in the order in which their keys were first put in.
-/

namespace ContactFlow.Ordered

variable {κ α : Type} [BEq κ]

/-- Puts an entry. A key that is already there keeps its place. -/
def put : List (κ × α) → κ → α → List (κ × α)
  | [], k, v => [(k, v)]
  | (k', v') :: rest, k, v => if k' == k then (k', v) :: rest else (k', v') :: put rest k v

/-- The entries put in one after another: of several under one key the last counts. -/
def collect (l : List (κ × α)) : List (κ × α) := l.foldl (fun t (k, v) => put t k v) []

def modify (l : List (κ × α)) (k : κ) (f : α → α) : List (κ × α) :=
  l.map fun (k', v) => if k' == k then (k', f v) else (k', v)

def erase (l : List (κ × α)) (k : κ) : List (κ × α) := l.filter fun (k', _) => !(k' == k)

def keys (l : List (κ × α)) : List κ := l.map (·.1)

def contains (l : List (κ × α)) (k : κ) : Bool := l.any fun (k', _) => k' == k

/-- The members without repetition, in the order in which each occurs first. -/
def distinct (l : List κ) : List κ :=
  l.foldl (fun seen k => if seen.contains k then seen else seen ++ [k]) []

theorem lookup_put_self [LawfulBEq κ] (l : List (κ × α)) (k : κ) (v : α) :
    (put l k v).lookup k = some v := by
  induction l with
  | nil => simp [put]
  | cons e rest ih =>
    obtain ⟨k', v'⟩ := e
    by_cases h : k' = k
    · simp [put, h]
    · have hk : (k == k') = false := by simpa using fun he : k = k' => h he.symm
      simp [put, h, List.lookup_cons, hk, ih]

theorem keys_put [LawfulBEq κ] (l : List (κ × α)) (k : κ) (v : α) :
    keys (put l k v) = if k ∈ keys l then keys l else keys l ++ [k] := by
  induction l with
  | nil => simp [put, keys]
  | cons e rest ih =>
    obtain ⟨k', v'⟩ := e
    by_cases h : k' = k
    · simp [put, keys, h]
    · have hk : ¬ k = k' := fun he => h he.symm
      simp only [keys] at ih
      simp only [put, beq_iff_eq, h, if_false, keys, List.map_cons, List.mem_cons, hk, false_or, ih]
      split <;> simp_all

end ContactFlow.Ordered
