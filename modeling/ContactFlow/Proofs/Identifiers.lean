import ContactFlow.Ident
import ContactFlow.Proofs.Results
import Mathlib.Data.List.Chain
import Mathlib.Data.List.DropRight
import Mathlib.Data.List.Nodup
import Mathlib.Data.List.Perm.Subperm

/-!
Identifiers. Those that an allocator hands out are new to it: the candidates of one base are all
different, so one more of them than there are identifiers in use cannot all be taken.

The base that is made of a hint is a slug. A slug is empty, or it is runs of letters and digits with one
underscore between two of them, cut so that it never ends in one. Making a slug of a slug changes
nothing. None of this depends on how a hint is put in lower case, as long as that leaves letters, digits
and underscores alone.
-/

namespace ContactFlow.Allocator

theorem toString_injective {m n : Nat} (same : toString m = toString n) : m = n := by
  have digits : Nat.toDigits 10 m = Nat.toDigits 10 n := by
    have texts := congrArg String.toList same
    simpa [Nat.repr_eq_ofList_toDigits] using texts
  have value := congrArg (Nat.ofDigitChars 10 · 0) digits
  simpa [Nat.ofDigitChars_toDigits] using value

theorem candidate_injective {base : String} {m n : Nat}
    (same : candidate base m = candidate base n) : m = n := by
  have longer (k : Nat) : base ++ "_" ++ toString (k + 1) ≠ base := fun short => by
    have lengths := congrArg String.length short
    simp only [String.length_append] at lengths
    have bar : "_".length = 1 := rfl
    omega
  unfold candidate at same
  split at same <;> split at same
  · omega
  · exact absurd same.symm (longer n)
  · exact absurd same (longer m)
  · have numbers := toString_injective ((String.append_right_inj _).1 same)
    omega

/-- The search stops at a free candidate, or all that it tried are in use. -/
theorem firstFree_spec (used : List String) (base : String) (fuel count : Nat) :
    candidate base (firstFree used base fuel count) ∉ used ∨
      firstFree used base fuel count = count + fuel ∧
        ∀ i < fuel, candidate base (count + i) ∈ used := by
  induction fuel generalizing count with
  | zero => right; exact ⟨rfl, fun i below => absurd below (Nat.not_lt_zero i)⟩
  | succ fuel ih =>
    unfold firstFree
    split
    · rename_i taken
      rcases ih (count + 1) with free | ⟨stopped, all⟩
      · exact .inl free
      · refine .inr ⟨by omega, fun i below => ?_⟩
        cases i with
        | zero => simpa using taken
        | succ i =>
          have later := all i (by omega)
          rwa [show count + 1 + i = count + (i + 1) by omega] at later
    · rename_i free
      exact .inl (by simpa using free)

theorem firstFree_free (used : List String) (base : String) (count : Nat) :
    candidate base (firstFree used base used.length count) ∉ used := by
  rcases firstFree_spec used base used.length count with free | ⟨stopped, all⟩
  · exact free
  · intro taken
    rw [stopped] at taken
    let tried := (List.range (used.length + 1)).map fun i => candidate base (count + i)
    have distinct : tried.Nodup := List.Nodup.map
      (fun i j same => Nat.add_left_cancel (candidate_injective same)) List.nodup_range
    have inUse : tried ⊆ used := by
      intro id member
      obtain ⟨i, bound, rfl⟩ := List.mem_map.1 member
      have bound := List.mem_range.1 bound
      rcases Nat.lt_succ_iff_lt_or_eq.1 bound with below | rfl
      · exact all i below
      · exact taken
    have fits := (List.subperm_of_subset distinct inUse).length_le
    simp only [tried, List.length_map, List.length_range] at fits
    omega

variable {a : Allocator}

theorem allocate_fresh (a : Allocator) (hint fallback : String) :
    (a.allocate hint fallback).1 ∉ a.used :=
  firstFree_free a.used _ _

theorem used_allocate (a : Allocator) (hint fallback : String) :
    (a.allocate hint fallback).2.used = a.used ++ [(a.allocate hint fallback).1] := rfl

theorem reserve_ok {id : String} {a' : Allocator} (reserved : a.reserve id = .ok a') :
    id ∉ a.used ∧ a'.used = a.used ++ [id] := by
  unfold reserve at reserved
  split at reserved
  · cases reserved
  · split at reserved
    · cases reserved
    · rename_i free
      cases reserved
      exact ⟨by simpa using free, rfl⟩

theorem reserveValue_ok {v : Value} {id : String} {a' : Allocator}
    (reserved : a.reserveValue v = .ok (id, a')) : id ∉ a.used ∧ a'.used = a.used ++ [id] := by
  unfold reserveValue at reserved
  split at reserved
  · cases reserved
  · obtain ⟨text, _, reserved⟩ := Results.bind_eq_ok.1 reserved
    obtain ⟨a'', step, result⟩ := Results.bind_eq_ok.1 reserved
    cases result
    exact reserve_ok step

end ContactFlow.Allocator

namespace ContactFlow.Slug

/-- The characters of slugs. -/
def Allowed (c : Char) : Prop := isSlugChar c = true ∨ c = '_'

instance : DecidablePred Allowed := fun _ => inferInstanceAs (Decidable (_ ∨ _))

/-- A way to put texts in lower case that leaves those of letters, digits and underscores alone. -/
def Fixes (lower : String → String) : Prop := ∀ s, (∀ c ∈ s.toList, Allowed c) → lower s = s

/-- The slug of a hint, for some way to put texts in lower case. -/
def ofHintBy (lower : String → String) (hint : String) : String :=
  String.ofList (ofLowered (lower hint).toList)

/-- One or more runs of letters and digits, with one underscore between two of them. -/
def Joined (cs : List Char) : Prop :=
  ∃ runs : List (List Char), runs ≠ [] ∧
    (∀ run ∈ runs, run ≠ [] ∧ ∀ c ∈ run, isSlugChar c = true) ∧ cs = List.intercalate ['_'] runs

structure Canonical (s : String) : Prop where
  joined : Joined s.toList
  starts : s.toList.head? ≠ some '_'
  ends : s.toList.getLast? ≠ some '_'
  short : s.length ≤ maxLength

def isBar (c : Char) : Bool := c == '_'

@[simp] theorem isBar_iff {c : Char} : isBar c = true ↔ c = '_' := by simp [isBar]

theorem ne_bar {c : Char} (slug : isSlugChar c = true) : c ≠ '_' := by
  rintro rfl
  exact absurd slug (by decide)

@[simp] theorem isSlugChar_bar : isSlugChar '_' = false := by decide

/-! ### Texts without two underscores in a row -/

structure Spaced (cs : List Char) : Prop where
  allowed : ∀ c ∈ cs, Allowed c
  apart : cs.IsChain fun a b => a = '_' → b ≠ '_'

namespace Spaced

variable {c : Char} {cs part : List Char}

theorem of_infix (spaced : Spaced cs) (within : part <:+: cs) : Spaced part :=
  ⟨fun c mem => spaced.allowed c (within.subset mem), spaced.apart.infix within⟩

theorem tail (spaced : Spaced (c :: cs)) : Spaced cs := spaced.of_infix (List.suffix_cons c cs).isInfix

theorem cons (spaced : Spaced cs) (allowed : Allowed c) (apart : c = '_' → cs.head? ≠ some '_') :
    Spaced (c :: cs) := by
  refine ⟨by simpa using ⟨allowed, spaced.allowed⟩, List.isChain_cons.mpr ⟨?_, spaced.apart⟩⟩
  rintro d first bar rfl
  exact apart bar first

theorem head_ne (spaced : Spaced ('_' :: cs)) : cs.head? ≠ some '_' := fun first =>
  (List.isChain_cons.mp spaced.apart).1 '_' first rfl rfl

end Spaced

/-- After the first underscore of a run the next character is a letter or a digit. -/
theorem spaced_collapse (inRun : Bool) (cs : List Char) :
    Spaced (collapse inRun cs) ∧ (inRun = true → (collapse inRun cs).head? ≠ some '_') := by
  induction cs generalizing inRun with
  | nil => exact ⟨⟨by simp [collapse], by simp [collapse]⟩, by simp [collapse]⟩
  | cons c cs ih =>
    by_cases slug : isSlugChar c
    · have unbarred : c ≠ '_' := ne_bar slug
      simpa [collapse, slug, unbarred] using (ih false).1.cons (.inl slug) (absurd · unbarred)
    · cases inRun
      · simpa [collapse, slug] using (ih true).1.cons (.inr rfl) fun _ => (ih true).2 rfl
      · simpa [collapse, slug] using ih true

/-- There is nothing to collapse where no two underscores stand in a row. -/
theorem collapse_eq_self {inRun : Bool} {cs : List Char} (spaced : Spaced cs)
    (free : inRun = true → cs.head? ≠ some '_') : collapse inRun cs = cs := by
  induction cs generalizing inRun with
  | nil => rfl
  | cons c cs ih =>
    rcases spaced.allowed c (by simp) with slug | rfl
    · simp [collapse, slug, ih spaced.tail]
    · have outside : inRun = false := by simpa using free
      simp [collapse, outside, ih spaced.tail fun _ => spaced.head_ne]

theorem mem_collapse {c : Char} (slug : isSlugChar c = true) {inRun : Bool} {cs : List Char} :
    c ∈ collapse inRun cs ↔ c ∈ cs := by
  induction cs generalizing inRun with
  | nil => simp [collapse]
  | cons d cs ih =>
    by_cases other : isSlugChar d
    · simp [collapse, other, ih]
    · have apart : c ≠ d := by rintro rfl; exact other slug
      cases inRun <;> simp [collapse, other, ih, apart, ne_bar slug]

/-! ### What is left once the ends are cut -/

section Ends

variable {c : Char} {cs part : List Char}

theorem head_ne_of_begins (first : cs.head? ≠ some '_') (begins : part <+: cs) :
    part.head? ≠ some '_' := by
  obtain ⟨rest, rfl⟩ := begins
  cases part with
  | nil => simp
  | cons c part => simpa using first

theorem head_dropWhile : (cs.dropWhile isBar).head? ≠ some '_' := by
  intro first
  have unbarred : isBar '_' = false := by simpa [first] using List.head?_dropWhile_not isBar cs
  exact absurd unbarred (by decide)

theorem getLast_rdropWhile : (cs.rdropWhile isBar).getLast? ≠ some '_' := by
  intro last
  have nonempty : cs.rdropWhile isBar ≠ [] := by rintro none; simp [none] at last
  rw [List.getLast?_eq_some_getLast nonempty] at last
  exact List.rdropWhile_last_not isBar cs nonempty (isBar_iff.mpr (Option.some.inj last))

theorem eq_nil_of_bars (first : cs.head? ≠ some '_') (bars : ∀ c ∈ cs, isBar c = true) : cs = [] := by
  cases cs with
  | nil => rfl
  | cons c cs => exact absurd (isBar_iff.mp (bars c (by simp))) (by simpa using first)

end Ends

theorem ofLowered_eq (cs : List Char) :
    ofLowered cs =
      ((((collapse false cs).dropWhile isBar).rdropWhile isBar).take maxLength).rdropWhile isBar := rfl

/-- What slugs are, told so that it is easy to keep. -/
structure Clean (cs : List Char) : Prop extends Spaced cs where
  starts : cs.head? ≠ some '_'
  ends : cs.getLast? ≠ some '_'
  short : cs.length ≤ maxLength

theorem clean_ofLowered (cs : List Char) : Clean (ofLowered cs) := by
  have spaced : Spaced (collapse false cs) := (spaced_collapse false cs).1
  rw [ofLowered_eq]
  set led := (collapse false cs).dropWhile isBar with ledIs
  set cut := (led.rdropWhile isBar).take maxLength with cutIs
  have upToCut : cut.rdropWhile isBar <+: cut := List.rdropWhile_prefix _ _
  have upToLed : cut.rdropWhile isBar <+: led :=
    (upToCut.trans (List.take_prefix _ _)).trans (List.rdropWhile_prefix _ _)
  have within : led <:+ collapse false cs := List.dropWhile_suffix _
  exact {
    toSpaced := spaced.of_infix (upToLed.isInfix.trans within.isInfix)
    starts := head_ne_of_begins head_dropWhile upToLed
    ends := getLast_rdropWhile
    short := upToCut.length_le.trans (List.length_take_le _ _) }

theorem Clean.ofLowered_eq_self {cs : List Char} (clean : Clean cs) : ofLowered cs = cs := by
  have led : cs.dropWhile isBar = cs := by
    cases cs with
    | nil => rfl
    | cons c cs =>
      have unbarred : ¬ isBar c = true := by simpa using clean.starts
      exact List.dropWhile_cons_of_neg unbarred
  have trailed : cs.rdropWhile isBar = cs := by
    refine (List.rdropWhile_eq_self_iff).mpr fun nonempty last => clean.ends ?_
    rw [List.getLast?_eq_some_getLast nonempty, isBar_iff.mp last]
  rw [ofLowered_eq, collapse_eq_self clean.toSpaced (by simp), led, trailed,
    List.take_of_length_le clean.short, trailed]

theorem ofLowered_eq_nil {cs : List Char} : ofLowered cs = [] ↔ ∀ c ∈ cs, isSlugChar c = false := by
  have bars : (collapse false cs).dropWhile isBar = [] ↔ ∀ c ∈ cs, isSlugChar c = false := by
    rw [List.dropWhile_eq_nil_iff]
    constructor
    · intro bars c mem
      rw [Bool.eq_false_iff]
      intro slug
      exact ne_bar slug (isBar_iff.mp (bars c ((mem_collapse slug).mpr mem)))
    · intro none c mem
      rcases (spaced_collapse false cs).1.allowed c mem with slug | bar
      · exact absurd slug (by simp [none c ((mem_collapse slug).mp mem)])
      · exact isBar_iff.mpr bar
  rw [← bars, ofLowered_eq]
  set led := (collapse false cs).dropWhile isBar with ledIs
  have first : led.head? ≠ some '_' := head_dropWhile
  have upTo : led.rdropWhile isBar <+: led := List.rdropWhile_prefix _ _
  constructor
  · intro none
    have cut : (led.rdropWhile isBar).take maxLength = [] :=
      eq_nil_of_bars (head_ne_of_begins first ((List.take_prefix _ _).trans upTo))
        (List.rdropWhile_eq_nil_iff.mp none)
    have trimmed : led.rdropWhile isBar = [] := by simpa [maxLength] using cut
    exact eq_nil_of_bars first (List.rdropWhile_eq_nil_iff.mp trimmed)
  · intro none
    simp [none]

/-! ### Runs -/

theorem Joined.cons {c d : Char} {cs : List Char} (slug : isSlugChar c = true)
    (joined : Joined (d :: cs)) : Joined (c :: d :: cs) := by
  obtain ⟨runs, nonempty, slugs, made⟩ := joined
  obtain ⟨run, runs, rfl⟩ := List.exists_cons_of_ne_nil nonempty
  refine ⟨(c :: run) :: runs, by simp, ?_, ?_⟩
  · simp only [List.forall_mem_cons] at slugs ⊢
    exact ⟨⟨by simp, slug, slugs.1.2⟩, slugs.2⟩
  · rw [made]
    cases runs <;> simp [List.intercalate]

theorem Joined.bar {c : Char} {cs : List Char} (slug : isSlugChar c = true) (joined : Joined cs) :
    Joined (c :: '_' :: cs) := by
  obtain ⟨runs, nonempty, slugs, rfl⟩ := joined
  obtain ⟨run, runs, rfl⟩ := List.exists_cons_of_ne_nil nonempty
  refine ⟨[c] :: run :: runs, by simp, ?_, by simp [List.intercalate]⟩
  simp only [List.forall_mem_cons] at slugs ⊢
  exact ⟨by simpa using slug, slugs⟩

/-- The recursion goes on after a letter or digit, or after one and the underscore that follows it. -/
theorem Spaced.joined {cs : List Char} (spaced : Spaced cs) (starts : cs.head? ≠ some '_')
    (ends : cs.getLast? ≠ some '_') (nonempty : cs ≠ []) : Joined cs := by
  match cs with
  | [] => exact absurd rfl nonempty
  | [c] =>
    have slug : isSlugChar c = true := (spaced.allowed c (by simp)).resolve_right (by simpa using starts)
    exact ⟨[[c]], by simp, by simpa using slug, by simp [List.intercalate]⟩
  | c :: d :: rest =>
    have slug : isSlugChar c = true := (spaced.allowed c (by simp)).resolve_right (by simpa using starts)
    by_cases bar : d = '_'
    · subst bar
      have more : rest ≠ [] := by rintro rfl; exact ends rfl
      obtain ⟨e, rest, rfl⟩ := List.exists_cons_of_ne_nil more
      exact .bar slug (Spaced.joined spaced.tail.tail spaced.tail.head_ne (by simpa using ends) more)
    · exact .cons slug (Spaced.joined spaced.tail (by simpa using bar) (by simpa using ends) (by simp))

theorem Clean.canonical {cs : List Char} (clean : Clean cs) (nonempty : cs ≠ []) :
    Canonical (String.ofList cs) where
  joined := by simpa using clean.toSpaced.joined clean.starts clean.ends nonempty
  starts := by simpa using clean.starts
  ends := by simpa using clean.ends
  short := by simpa using clean.short

/-! ### Lower case -/

theorem lowerChar_eq_self {c : Char} (allowed : Allowed c) : Text.lowerChar c = [c] := by
  have within : c.toNat < 0x80 ∧ ¬ (0x41 ≤ c.toNat ∧ c.toNat ≤ 0x5A) := by
    rcases allowed with slug | rfl
    · simp [isSlugChar, Char.le_def, UInt32.le_iff_toNat_le] at slug
      omega
    · decide
  have same : c.toLower = c := by
    refine dif_neg ?_
    simpa [UInt32.le_iff_toNat_le] using within.2
  rw [Text.lowerChar, if_pos within.1, same]

theorem lowerAfter_eq_self {before cs : List Char} (allowed : ∀ c ∈ cs, Allowed c) :
    Text.lowerAfter before cs = cs := by
  induction cs generalizing before with
  | nil => rfl
  | cons c cs ih =>
    simp only [List.forall_mem_cons] at allowed
    have plain : (c == Text.capitalSigma) = false := by
      rw [beq_eq_false_iff_ne]
      rintro rfl
      exact absurd allowed.1 (by decide)
    simp [Text.lowerAfter, plain, lowerChar_eq_self allowed.1, ih allowed.2]

theorem fixes_lower : Fixes Text.lower := fun s allowed => by
  rw [Text.lower, lowerAfter_eq_self allowed, String.ofList_toList]

theorem collapse_append_congr {begin first second : List Char}
    (same : ∀ inRun, collapse inRun first = collapse inRun second) (inRun : Bool) :
    collapse inRun (begin ++ first) = collapse inRun (begin ++ second) := by
  induction begin generalizing inRun with
  | nil => exact same inRun
  | cons c begin ih => simp [collapse, ih]

/-- Neither form of the small sigma is in a slug, so it does not matter which one stands there. -/
theorem collapse_lowerAfter (inRun : Bool) (before cs : List Char) :
    collapse inRun (Text.lowerAfter before cs) = collapse inRun (cs.flatMap Text.lowerChar) := by
  induction cs generalizing inRun before with
  | nil => rfl
  | cons c cs ih =>
    simp only [Text.lowerAfter, List.flatMap_cons]
    split
    · next sigma =>
      have isSigma : c = Text.capitalSigma := by simp at sigma; exact sigma.1.1
      subst isSigma
      have small : Text.lowerChar Text.capitalSigma = ['\u03C3'] := by decide +kernel
      have outside : isSlugChar Text.finalSigma = false ∧ isSlugChar '\u03C3' = false := by decide
      simp [small, collapse, outside, ih]
    · exact collapse_append_congr (ih · (c :: before)) inRun

theorem ofHint_eq (hint : String) : ofHint hint = ofHintBy Text.lower hint := by
  rw [ofHint, ofHintBy, Text.lower, String.toList_ofList, ofLowered_eq, ofLowered_eq,
    collapse_lowerAfter]

/-- However hints are put in lower case, a slug is empty or in its canonical shape and is its own slug,
and it is empty when the lowered hint has no letter or digit. The slugs that identifiers are made of
are those of the usual lower case. -/
theorem ofHintBy_canonical {lower : String → String} (fixes : Fixes lower) (hint : String) :
    (ofHintBy lower hint = "" ∨ Canonical (ofHintBy lower hint)) ∧
    ofHintBy lower (ofHintBy lower hint) = ofHintBy lower hint ∧
    (ofHintBy lower hint = "" ↔ ∀ c ∈ (lower hint).toList, isSlugChar c = false) ∧
    (Fixes Text.lower ∧ ofHint hint = ofHintBy Text.lower hint) := by
  have clean : Clean (ofLowered (lower hint).toList) := clean_ofLowered _
  have empty : ofHintBy lower hint = "" ↔ ofLowered (lower hint).toList = [] := by
    rw [ofHintBy, ← String.toList_inj]
    simp
  refine ⟨?_, ?_, ?_, fixes_lower, ofHint_eq hint⟩
  · by_cases none : ofLowered (lower hint).toList = []
    · exact .inl (empty.mpr none)
    · exact .inr (clean.canonical none)
  · have kept : lower (ofHintBy lower hint) = ofHintBy lower hint :=
      fixes _ (by simpa [ofHintBy] using clean.allowed)
    calc ofHintBy lower (ofHintBy lower hint)
        = String.ofList (ofLowered (ofHintBy lower hint).toList) := by rw [ofHintBy, kept]
      _ = ofHintBy lower hint := by rw [ofHintBy, String.toList_ofList, clean.ofLowered_eq_self]
  · exact empty.trans ofLowered_eq_nil

/-- The cut falls between a separator and the letter after it. -/
theorem canonical_ofHint_cut :
    ofHint (String.ofList (List.replicate 47 'x') ++ "!!b") = String.ofList (List.replicate 47 'x') ∧
      Canonical (ofHint (String.ofList (List.replicate 47 'x') ++ "!!b")) ∧
      ofHint (String.ofList (List.replicate 47 'x')) = String.ofList (List.replicate 47 'x') := by
  have shown : ofHint (String.ofList (List.replicate 47 'x') ++ "!!b") =
      String.ofList (List.replicate 47 'x') := by decide +kernel
  obtain ⟨shape, again, -, -, same⟩ :=
    ofHintBy_canonical fixes_lower (String.ofList (List.replicate 47 'x') ++ "!!b")
  rw [← same, shown] at shape again
  refine ⟨shown, ?_, by rw [ofHint_eq, again]⟩
  rw [shown]
  exact shape.resolve_left (by decide)

end ContactFlow.Slug
