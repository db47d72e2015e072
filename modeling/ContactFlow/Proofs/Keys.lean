import ContactFlow.Scalar
import Mathlib.Tactic.Common

/-!
Keys of tables. Two keys address one entry if they are the same number, the same point in time or the
same scalar, so addressing one entry is an equivalence. A text addresses an entry alone.
-/

namespace ContactFlow.Scalar

variable {a b : Scalar}

theorem sameKey_refl (a : Scalar) : a.sameKey a := by
  unfold sameKey
  cases a.integer? with
  | some n => simp
  | none => cases a.instant? <;> simp

theorem sameKey_comm (a b : Scalar) : a.sameKey b = b.sameKey a := by
  unfold sameKey
  cases a.integer? <;> cases b.integer? <;> cases a.instant? <;> cases b.instant? <;>
    simp [Bool.beq_comm]

/-- What a key addresses an entry by: a number, a point in time, or else itself. -/
def address (a : Scalar) : Int ⊕ Int ⊕ Scalar :=
  match a.integer?, a.instant? with
  | some n, _ => .inl n
  | none, some t => .inr (.inl t)
  | none, none => .inr (.inr a)

theorem instant?_of_integer? {n : Int} (whole : a.integer? = some n) : a.instant? = none := by
  cases a <;> first | rfl | cases whole

theorem sameKey_iff : a.sameKey b = true ↔ a.address = b.address := by
  by_cases same : a = b
  · simp [same, sameKey_refl]
  have differs : (a == b) = false := by simpa using same
  unfold sameKey address
  cases whole : a.integer? with
  | some m =>
    cases whole' : b.integer? with
    | some n => simp
    | none =>
      rw [instant?_of_integer? whole]
      cases b.instant? <;> simp [differs]
  | none =>
    cases whole' : b.integer? with
    | some n =>
      rw [instant?_of_integer? whole']
      cases a.instant? <;> simp [differs]
    | none => cases a.instant? <;> cases b.instant? <;> simp [differs, same]

theorem sameKey_congr (same : a.sameKey b = true) (c : Scalar) : c.sameKey a = c.sameKey b := by
  rw [Bool.eq_iff_iff, sameKey_iff, sameKey_iff, sameKey_iff.1 same]

theorem sameKey_text_right (k : Scalar) (s : String) : k.sameKey (.text s) = (k == .text s) := by
  unfold sameKey
  cases k.integer? <;> cases k.instant? <;> rfl

theorem sameKey_text (s t : String) : (text s).sameKey (text t) = (s == t) := by
  by_cases same : s = t <;> simp [sameKey_text_right, same]

theorem sameKey_text_null (s : String) : (text s).sameKey .null = false := rfl

end ContactFlow.Scalar
