/-!
Join points. Open edges wait at a join point for the action that is appended next. Resolving the
join point links them all, and an edge that comes later is linked at once. A join point may be
forwarded to another one, which takes over the edges that wait and those still to come.

A table of join points says which edges are to be linked to which target. It does not link them.
-/

namespace ContactFlow

structure Join (ℓ : Type) where
  waiting : List ℓ := []
  target : Option String := none
  forward : Option Nat := none
  deriving Repr, Inhabited

abbrev Joins (ℓ : Type) := Array (Join ℓ)

namespace Joins

variable {ℓ : Type}

def get (js : Joins ℓ) (j : Nat) : Join ℓ := js.getD j {}

/-- Adds a join point with the edges that wait at it. -/
def fresh (js : Joins ℓ) (waiting : List ℓ) : Nat × Joins ℓ := (js.size, js.push { waiting })

/-- The join point that takes an edge added at `j`: the first on the way of the forwards that has a
target or is not forwarded. There is none when the forwards run in a circle. -/
def settle (js : Joins ℓ) : Nat → Nat → Option Nat
  | 0, _ => none
  | fuel + 1, j =>
    let join := js.get j
    if join.target.isSome then some j
    else match join.forward with
      | some k => settle js fuel k
      | none => some j

/-- Whether the forwards from a join point on run in a circle. -/
def isCircular (js : Joins ℓ) (j : Nat) : Bool := (js.settle (js.size + 1) j).isNone

/-- Adds an edge at a join point, and says which edge is to be linked now. -/
def add (js : Joins ℓ) (j : Nat) (link : ℓ) : Joins ℓ × List (ℓ × String) :=
  match js.settle (js.size + 1) j with
  | none => (js, [])
  | some k => match (js.get k).target with
    | some target => (js, [(link, target)])
    | none => (js.modify k fun join => { join with waiting := join.waiting ++ [link] }, [])

/-- Gives a join point its target, to which every edge waiting there is to be linked. -/
def resolve (js : Joins ℓ) (j : Nat) (target : String) : Joins ℓ × List (ℓ × String) :=
  (js.modify j fun join => { join with waiting := [], target := some target },
    (js.get j).waiting.map (·, target))

/-- Takes the edges that wait away from a join point, and its target. -/
def release (js : Joins ℓ) (j : Nat) : Joins ℓ × List ℓ :=
  (js.modify j fun join => { join with waiting := [], target := none }, (js.get j).waiting)

def addAll (js : Joins ℓ) (j : Nat) : List ℓ → Joins ℓ × List (ℓ × String)
  | [] => (js, [])
  | link :: rest =>
    let (js, linked) := js.add j link
    let (js, more) := addAll js j rest
    (js, linked ++ more)

/-- Hands the edges that wait at `j`, and those to come, over to `other`. -/
def forward (js : Joins ℓ) (j other : Nat) : Joins ℓ × List (ℓ × String) :=
  addAll (js.modify j fun join => { join with waiting := [], forward := some other }) other
    (js.get j).waiting

/-- Drops the waiting edges that do not pass the test. -/
def keepWaiting (js : Joins ℓ) (p : ℓ → Bool) : Joins ℓ :=
  js.map fun join => { join with waiting := join.waiting.filter p }

end Joins

end ContactFlow
