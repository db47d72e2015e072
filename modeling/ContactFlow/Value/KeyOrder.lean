import ContactFlow.Value.Shape

/-!
The order of the keys of a table: texts by code point, numbers by value. A key that is not a number,
although it counts as one, is neither below nor above any other. What it comes to stand beside is
settled by the way in which the keys are put in order: the run at the front is taken as it is, or
turned around, and every other key is put in by halving.
-/

namespace ContactFlow.KeyOrder

variable {α : Type}

/-- Whether a key comes before another one. -/
def less (a b : Scalar) : Bool :=
  match a, b with
  | .text s, .text t => s < t
  | a, b => (a.less? b).getD false

def alike : Scalar → Scalar → Bool
  | .text _, .text _ => true
  | a, b => a.isNumber && b.isNumber

/-- The keys have an order among themselves. -/
def comparable : List Scalar → Bool
  | [] => true
  | [_] => true
  | k :: rest => rest.all (alike k)

def hasPlace : Scalar → Bool
  | .real .nan => false
  | _ => true

/-- The items after one that follow each other, and the others. -/
def chain (follows : α → α → Bool) : α → List α → List α × List α
  | _, [] => ([], [])
  | a, b :: rest =>
    if follows a b then
      let (run, others) := chain follows b rest
      (b :: run, others)
    else ([], b :: rest)

/-- The run at the front in its order, and the others. -/
def firstRun (less : α → α → Bool) : List α → List α × List α
  | [] => ([], [])
  | [a] => ([a], [])
  | a :: b :: rest =>
    if less b a then
      let (run, others) := chain (fun x y => less y x) b rest
      ((a :: b :: run).reverse, others)
    else
      let (run, others) := chain (fun x y => !less y x) b rest
      (a :: b :: run, others)

/-- The place of an item among others, between two bounds that are brought together by halves. -/
def place (less : α → α → Bool) (a : α) (sorted : List α) : Nat → Nat → Nat → Nat
  | 0, low, _ => low
  | fuel + 1, low, high =>
    if low < high then
      let middle := (low + high) / 2
      if (sorted[middle]?).any (less a) then place less a sorted fuel low middle
      else place less a sorted fuel (middle + 1) high
    else low

def insert (less : α → α → Bool) (sorted : List α) (a : α) : List α :=
  let i := place less a sorted sorted.length 0 sorted.length
  sorted.take i ++ a :: sorted.drop i

/-- Puts items in order by insertion. -/
def insertionSort (less : α → α → Bool) (items : List α) : List α :=
  let (run, others) := firstRun less items
  others.foldl (insert less) run

/-- The entries of a table in the order of their keys. -/
def sort (entries : List (Scalar × α)) : List (Scalar × α) :=
  if entries.all fun (k, _) => hasPlace k then
    entries.mergeSort fun a b => !less b.1 a.1
  else insertionSort (fun a b => less a.1 b.1) entries

end ContactFlow.KeyOrder
