import ContactFlow.Decimal.Spelling
import ContactFlow.Proofs.Results

/-!
A number that is written in decimal is read back as it was, unless it is too long to be written.
-/

namespace ContactFlow.Spelling

open Nat (toDigits)

theorem isDigit_bounds {c : Char} (digit : c.isDigit = true) : 48 ≤ c.toNat ∧ c.toNat ≤ 57 := by
  simp only [Char.isDigit, Bool.and_eq_true, decide_eq_true_eq] at digit
  exact ⟨digit.1, digit.2⟩

theorem plain_digits {cs : List Char} (digits : ∀ c ∈ cs, c.isDigit = true) : plain cs = cs := by
  induction cs with
  | nil => rfl
  | cons c rest ih =>
    have bounds := isDigit_bounds (digits c List.mem_cons_self)
    rw [plain, if_pos (by omega), ih fun d member => digits d (List.mem_cons_of_mem _ member)]

theorem digits?_digits {cs : List Char} (digits : ∀ c ∈ cs, c.isDigit = true) :
    digits? 10 false cs = some (cs.map fun c => c.toNat - '0'.toNat, []) := by
  induction cs with
  | nil => rfl
  | cons c rest ih =>
    have digit := digits c List.mem_cons_self
    have bounds := isDigit_bounds digit
    have bar : ¬ (c == '_') = true := by
      intro same
      rw [beq_iff_eq] at same
      subst same
      exact absurd bounds.2 (by decide)
    have value : digitIn? 10 c = some (c.toNat - '0'.toNat) := by
      have zero : '0'.toNat = 48 := rfl
      simp only [digitIn?, digit, if_true, Option.filter_some, zero]
      rw [if_pos (by simp; omega)]
    rw [digits?, if_neg bar, value, ih fun d member => digits d (List.mem_cons_of_mem _ member)]
    rfl

/-- A character that is no digit. -/
theorem ne_of_isDigit {c d : Char} (digit : c.isDigit = true) (other : d.isDigit = false) :
    c ≠ d := by
  rintro rfl
  rw [digit] at other
  cases other

theorem not_isGap {c : Char} (digit : c.isDigit = true) : isGap c = false := by
  have bounds := isDigit_bounds digit
  have high : ¬ c ≤ '\r' := fun low => by
    have below : c.toNat ≤ 13 := UInt32.le_iff_toNat_le.1 (Char.le_def.1 low)
    omega
  simp [isGap, ne_of_isDigit digit (d := ' ') rfl, high]

theorem whole_digits {c : Char} {cs : List Char} (digits : ∀ d ∈ c :: cs, d.isDigit = true)
    (short : (c :: cs).length ≤ Numeral.maxDigits) :
    whole 10 (String.ofList (c :: cs)) = .ok (Nat.ofDigitChars 10 (c :: cs) 0 : Nat) := by
  have digit := digits c List.mem_cons_self
  have unsigned : Numeral.sign (c :: cs) = (false, c :: cs) := by
    unfold Numeral.sign
    split
    · rename_i same
      exact absurd (List.cons.inj same).1 (ne_of_isDigit digit rfl)
    · rename_i same
      exact absurd (List.cons.inj same).1 (ne_of_isDigit digit rfl)
    · rfl
  have based : afterBase 10 (c :: cs) = c :: cs := by
    unfold afterBase
    split
    · rename_i same
      rw [same]
      rfl
    · rfl
  have value : ((c :: cs).map fun c => c.toNat - '0'.toNat).foldl (fun n d => 10 * n + d) 0 =
      Nat.ofDigitChars 10 (c :: cs) 0 := by
    rw [List.foldl_map]
    rfl
  unfold whole
  rw [String.toList_ofList, plain_digits digits, List.dropWhile_cons_of_neg (by
    simp [not_isGap digit]), unsigned]
  simp only [based]
  split
  · rename_i none
    cases none
  · rename_i bar
    exact absurd (List.cons.inj bar).1 (ne_of_isDigit digit rfl)
  · rw [List.map_cons] at value
    rw [List.length_cons] at short
    rw [digits?_digits digits, List.map_cons]
    simp only
    rw [List.length_cons, List.length_map, decide_eq_false (by omega), value]
    rfl

/-- What is written is read back. -/
theorem whole_toString {n : Nat} (writable : Numeral.isWritable n = true) :
    whole 10 (toString (n : Int)) = .ok (n : Int) := by
  have digits : ∀ c ∈ toDigits 10 n, c.isDigit = true := fun c member =>
    Nat.isDigit_of_mem_toDigits (by decide) (by decide) member
  have short : (toDigits 10 n).length ≤ Numeral.maxDigits := by
    have below : n < Numeral.limit := of_decide_eq_true writable
    unfold Numeral.limit at below
    have room : 0 < Numeral.maxDigits := by decide
    generalize Numeral.maxDigits = k at below room ⊢
    exact (Nat.length_toDigits_le_iff (by decide) room).2 below
  have written : toString (n : Int) = String.ofList (toDigits 10 n) := rfl
  rw [written]
  cases split : toDigits 10 n with
  | nil => exact absurd split Nat.toDigits_ne_nil
  | cons c cs =>
    rw [split] at digits short
    rw [whole_digits digits short, ← split, Nat.ofDigitChars_ten_toDigits]

end ContactFlow.Spelling
