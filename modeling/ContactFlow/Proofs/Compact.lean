import ContactFlow.Proofs.Canonical
import ContactFlow.Value.Json.Parser
import Mathlib.Data.List.Basic

/-!
Compact text of JSON data. It is read in one way only: data that a text begins with is told by the
text alone, whatever follows it. A number is the one thing that has no end of its own, so what
follows must not go on with a digit.
-/

namespace ContactFlow.Json

open Nat (toDigits)
open Value (IsJson)

/-! ### Strings -/

/-- A character is written by a letter after a backslash, by its code, or as it is. -/
theorem escape_cases (c : Char) :
    (∃ letter, letter ≠ 'u' ∧ unescape? letter = some c ∧ escape c = ['\\', letter]) ∨
      (c.toNat < 0x20 ∧ escape c = '\\' :: 'u' :: Text.hex 4 c.toNat) ∨
      (c ≠ '"' ∧ c ≠ '\\' ∧ escape c = [c]) := by
  unfold escape
  split_ifs with marked newline carriage tab feed back control
  · rw [Bool.or_eq_true, beq_iff_eq, beq_iff_eq] at marked
    rcases marked with rfl | rfl
    · exact .inl ⟨'"', by decide, rfl, rfl⟩
    · exact .inl ⟨'\\', by decide, rfl, rfl⟩
  · exact .inl ⟨'n', by decide, by rw [eq_of_beq newline]; rfl, rfl⟩
  · exact .inl ⟨'r', by decide, by rw [eq_of_beq carriage]; rfl, rfl⟩
  · exact .inl ⟨'t', by decide, by rw [eq_of_beq tab]; rfl, rfl⟩
  · exact .inl ⟨'f', by decide, by rw [eq_of_beq feed]; rfl, rfl⟩
  · exact .inl ⟨'b', by decide, by rw [eq_of_beq back]; rfl, rfl⟩
  · exact .inr (.inl ⟨control, rfl⟩)
  · rw [Bool.or_eq_true, beq_iff_eq, beq_iff_eq, not_or] at marked
    exact .inr (.inr ⟨marked.1, marked.2, rfl⟩)

theorem codeUnit?_hex {n : Nat} (control : n < 0x20) : codeUnit? (Text.hex 4 n) = some n := by
  revert n
  decide

/-- A character that is written is read as the one unit that it is. -/
theorem units_escape (c : Char) (rest : List Char) :
    units (escape c ++ rest) = (units rest).map fun (l, rest) => (c.toNat :: l, rest) := by
  rcases escape_cases c with ⟨letter, noUnit, known, same⟩ | ⟨control, same⟩ | ⟨quote, slash, same⟩
  · rw [same, List.cons_append, List.singleton_append,
      units.eq_4 _ _ fun _ _ _ _ _ unit _ => noUnit unit, known]
    cases units rest <;> rfl
  · have unit := codeUnit?_hex control
    rw [same]
    simp only [Text.hex, List.nil_append, List.cons_append] at unit ⊢
    rw [units, unit]
    cases units rest <;> rfl
  · rw [same, List.singleton_append, units.eq_5 _ _ quote (fun _ _ _ _ _ bad _ => slash bad)
      fun _ _ bad _ => slash bad]
    cases units rest <;> rfl

theorem units_string (cs rest : List Char) :
    units (cs.flatMap escape ++ '"' :: rest) = some (cs.map Char.toNat, rest) := by
  induction cs with
  | nil => rfl
  | cons c cs ih =>
    rw [List.flatMap_cons, List.append_assoc, units_escape, ih]
    rfl

theorem toList_string (s : String) : (string s).toList = '"' :: s.toList.flatMap escape ++ ['"'] := by
  rw [string, String.toList_ofList]

theorem string_unique {s t : String} {r r' : List Char}
    (same : (string s).toList ++ r = (string t).toList ++ r') : s = t ∧ r = r' := by
  simp only [toList_string, List.cons_append, List.append_assoc, List.nil_append] at same
  have read := congrArg units (List.cons.inj same).2
  rw [units_string, units_string, Option.some.injEq, Prod.mk.injEq] at read
  have codes : Function.Injective Char.toNat := fun _ _ => Char.toNat_inj.1
  exact ⟨String.toList_injective (codes.list_map read.1), read.2⟩

/-! ### Whole numbers -/

/-- No digit comes first. -/
def Stops (r : List Char) : Prop := ∀ c ∈ r.head?, c.isDigit = false

theorem stops_cons {c : Char} (other : c.isDigit = false) (r : List Char) : Stops (c :: r) := by
  intro d first
  cases first
  exact other

theorem digits_unique {m n : Nat} {r r' : List Char} (stops : Stops r) (stops' : Stops r')
    (same : toDigits 10 m ++ r = toDigits 10 n ++ r') : m = n ∧ r = r' := by
  have digits (k : Nat) : ∀ c ∈ toDigits 10 k, c.isDigit = true := fun c member =>
    Nat.isDigit_of_mem_toDigits (by decide) (by decide) member
  have none {r : List Char} (stops : Stops r) : r.takeWhile Char.isDigit = [] := by
    cases r with
    | nil => rfl
    | cons c rest => rw [List.takeWhile_cons, stops c rfl]; rfl
  have taken {k : Nat} {r : List Char} (stops : Stops r) :
      (toDigits 10 k ++ r).takeWhile Char.isDigit = toDigits 10 k := by
    rw [List.takeWhile_append_of_pos (digits k), none stops, List.append_nil]
  have number : toDigits 10 m = toDigits 10 n := by
    rw [← taken stops, same, taken stops']
  refine ⟨?_, List.append_cancel_left (number ▸ same)⟩
  rw [← Nat.ofDigitChars_ten_toDigits (n := m), number, Nat.ofDigitChars_ten_toDigits]

theorem isDigit_head_toDigits (n : Nat) (r : List Char) :
    ∃ c rest, toDigits 10 n ++ r = c :: rest ∧ c.isDigit = true := by
  cases split : toDigits 10 n with
  | nil => exact absurd split Nat.toDigits_ne_nil
  | cons c rest =>
    have digit : c.isDigit = true := Nat.isDigit_of_mem_toDigits (b := 10) (n := n) (by decide)
      (by decide) (split ▸ List.mem_cons_self)
    exact ⟨c, rest ++ r, rfl, digit⟩

theorem toList_toString_ofNat (n : Nat) : (toString (Int.ofNat n)).toList = toDigits 10 n :=
  String.toList_ofList

theorem toList_toString_negSucc (n : Nat) :
    (toString (Int.negSucc n)).toList = '-' :: toDigits 10 (n + 1) := by
  have written : toString (Int.negSucc n) = "-" ++ String.ofList (toDigits 10 (n + 1)) := rfl
  rw [written]
  simp

theorem int_unique {i j : Int} {r r' : List Char} (stops : Stops r) (stops' : Stops r')
    (same : (toString i).toList ++ r = (toString j).toList ++ r') : i = j ∧ r = r' := by
  -- a minus is no digit, so the signs are the same
  have apart (m n : Nat) (r r' : List Char) : toDigits 10 m ++ r ≠ '-' :: r' := by
    intro same
    obtain ⟨c, rest, first, digit⟩ := isDigit_head_toDigits m r
    obtain rfl := (List.cons.inj (first.symm.trans same)).1
    cases digit
  match i, j with
  | .ofNat m, .ofNat n =>
    rw [toList_toString_ofNat, toList_toString_ofNat] at same
    obtain ⟨rfl, rest⟩ := digits_unique stops stops' same
    exact ⟨rfl, rest⟩
  | .negSucc m, .negSucc n =>
    rw [toList_toString_negSucc, toList_toString_negSucc] at same
    obtain ⟨number, rest⟩ := digits_unique stops stops' (List.cons.inj same).2
    obtain rfl := Nat.succ.inj number
    exact ⟨rfl, rest⟩
  | .ofNat m, .negSucc n =>
    rw [toList_toString_ofNat, toList_toString_negSucc] at same
    exact absurd same (apart m n _ _)
  | .negSucc m, .ofNat n =>
    rw [toList_toString_ofNat, toList_toString_negSucc] at same
    exact absurd same.symm (apart n m _ _)

/-! ### Values -/

theorem line_compact (depth : Nat) : Style.compact.line depth = "" := rfl

theorem enclose_compact (opening closing : String) (depth : Nat) (items : List String) :
    Style.compact.enclose opening closing depth items =
      opening ++ ",".intercalate items ++ closing := by
  cases items with
  | nil => simp [Style.enclose]
  | cons first rest =>
    rw [Style.enclose, line_compact, line_compact]
    · simp [Style.compact]
    · exact List.cons_ne_nil _ _

mutual

/-- Without lines of its own, an item does not show how far down it stands. -/
theorem write_compact (depth : Nat) : ∀ v, write .compact depth v = write .compact 0 v
  | .scalar _ => by rw [write, write]
  | .list items => by
    rw [write, write, enclose_compact, enclose_compact, writeList_compact _ items,
      writeList_compact _ items]
  | .table entries => by
    rw [write, write, enclose_compact, enclose_compact, writeTable_compact _ entries,
      writeTable_compact _ entries]
  | .reference _ => by rw [write, write]
  | .bundle _ items => by
    rw [write, write, enclose_compact, enclose_compact, writeList_compact _ items,
      writeList_compact _ items]
  | .cycle _ => by rw [write, write]

theorem writeList_compact (depth : Nat) :
    ∀ items, writeList .compact depth items = items.map (write .compact 0)
  | [] => rfl
  | v :: rest => by
    rw [writeList, write_compact depth v, writeList_compact depth rest, List.map_cons]

theorem writeTable_compact (depth : Nat) : ∀ entries, writeTable .compact depth entries =
    entries.map fun e => string (key e.1) ++ ":" ++ write .compact 0 e.2
  | [] => rfl
  | (k, v) :: rest => by
    rw [writeTable, write_compact depth v, writeTable_compact depth rest, List.map_cons]
    rfl

end

/-- The characters of the compact text. -/
def characters (v : Value) : List Char := (write .compact 0 v).toList

def entryCharacters (e : Scalar × Value) : List Char :=
  (string (key e.1)).toList ++ ':' :: characters e.2

theorem characters_list (items : List Value) :
    characters (.list items) = '[' :: [','].intercalate (items.map characters) ++ [']'] := by
  rw [characters, write, enclose_compact, writeList_compact, String.toList_append,
    String.toList_append, String.toList_intercalate, List.map_map]
  rfl

theorem characters_table (entries : List (Scalar × Value)) : characters (.table entries) =
    '{' :: [','].intercalate (entries.map entryCharacters) ++ ['}'] := by
  have each : (entries.map fun e => string (key e.1) ++ ":" ++ write .compact 0 e.2).map
      String.toList = entries.map entryCharacters := by
    rw [List.map_map]
    refine List.map_congr_left fun e _ => ?_
    rw [Function.comp_apply, String.toList_append, String.toList_append, List.append_assoc]
    rfl
  rw [characters, write, enclose_compact, writeTable_compact, String.toList_append,
    String.toList_append, String.toList_intercalate, each]
  rfl

/-! ### Items between commas -/

section

variable {α : Type} {text : α → List Char} {close : Char}

theorem intercalate_cons (first : List Char) (rest : List (List Char)) :
    [','].intercalate (first :: rest) = first ++ rest.flatMap (',' :: ·) := by
  induction rest generalizing first with
  | nil => simp
  | cons second rest ih => rw [List.intercalate_cons_cons, ih]; simp

/-- The first of two texts is told, and so is what follows each of them. -/
def ReadOnce (text : α → List Char) (x y : α) : Prop :=
  ∀ {r r' : List Char}, Stops r → Stops r' → text x ++ r = text y ++ r' → x = y ∧ r = r'

theorem stops_flatMap (digit : close.isDigit = false) (xs : List α) (r : List Char) :
    Stops ((xs.map text).flatMap (',' :: ·) ++ close :: r) := by
  cases xs with
  | nil => exact stops_cons digit r
  | cons x rest => exact stops_cons rfl _

theorem flatMap_unique (digit : close.isDigit = false) (comma : close ≠ ',') {xs ys : List α}
    (each : ∀ x ∈ xs, ∀ y ∈ ys, ReadOnce text x y) {r r' : List Char}
    (same : (xs.map text).flatMap (',' :: ·) ++ close :: r =
      (ys.map text).flatMap (',' :: ·) ++ close :: r') : xs = ys ∧ r = r' := by
  induction xs generalizing ys with
  | nil =>
    cases ys with
    | nil => exact ⟨rfl, (List.cons.inj same).2⟩
    | cons y ys => exact absurd (List.cons.inj same).1 comma
  | cons x xs ih =>
    cases ys with
    | nil => exact absurd (List.cons.inj same).1.symm comma
    | cons y ys =>
      rw [List.map_cons, List.map_cons, List.flatMap_cons, List.flatMap_cons, List.append_assoc,
        List.append_assoc] at same
      obtain ⟨rfl, later⟩ := each x List.mem_cons_self y List.mem_cons_self
        (stops_flatMap digit xs r) (stops_flatMap digit ys r') (List.cons.inj same).2
      obtain ⟨rfl, after⟩ := ih (fun x here y there =>
        each x (List.mem_cons_of_mem _ here) y (List.mem_cons_of_mem _ there)) later
      exact ⟨rfl, after⟩

/-- A list is read in one way if its items are, and none of them begins like the end of the list. -/
theorem intercalate_unique (digit : close.isDigit = false) (comma : close ≠ ',') {xs ys : List α}
    (each : ∀ x ∈ xs, ∀ y ∈ ys, ReadOnce text x y)
    (opened : ∀ x, x ∈ xs ∨ x ∈ ys → ∀ r r', text x ++ r ≠ close :: r') {r r' : List Char}
    (same : [','].intercalate (xs.map text) ++ close :: r =
      [','].intercalate (ys.map text) ++ close :: r') : xs = ys ∧ r = r' := by
  cases xs with
  | nil =>
    cases ys with
    | nil => exact ⟨rfl, (List.cons.inj same).2⟩
    | cons y ys =>
      rw [List.map_cons, intercalate_cons, List.append_assoc] at same
      exact absurd same.symm (opened y (.inr List.mem_cons_self) _ _)
  | cons x xs =>
    cases ys with
    | nil =>
      rw [List.map_cons, intercalate_cons, List.append_assoc] at same
      exact absurd same (opened x (.inl List.mem_cons_self) _ _)
    | cons y ys =>
      -- with a comma in front, the first item is like the others
      rw [List.map_cons, List.map_cons, intercalate_cons, intercalate_cons] at same
      exact flatMap_unique digit comma each (congrArg (',' :: ·) same)

end

/-! ### JSON data -/

/-- The first character of a text, with zero for all that a number can begin with. -/
def lead : Value → Char
  | .scalar .null => 'n'
  | .scalar (.bool b) => if b then 't' else 'f'
  | .scalar (.int _) => '0'
  | .list _ => '['
  | .table _ => '{'
  | _ => '"'

def leadOf (c : Char) : Char := if c.isDigit || c == '-' then '0' else c

theorem exists_lead {v : Value} (json : v.IsJson) (r : List Char) :
    ∃ c rest, characters v ++ r = c :: rest ∧ leadOf c = lead v := by
  cases json with
  | null => exact ⟨'n', _, rfl, rfl⟩
  | bool b => cases b <;> exact ⟨_, _, rfl, rfl⟩
  | int n =>
    have digit {c : Char} (digit : c.isDigit = true) : leadOf c = '0' := by simp [leadOf, digit]
    cases n with
    | ofNat n =>
      obtain ⟨c, rest, first, known⟩ := isDigit_head_toDigits n r
      exact ⟨c, rest, by rw [← first, ← toList_toString_ofNat]; rfl, digit known⟩
    | negSucc n =>
      exact ⟨'-', _, congrArg (· ++ r) (toList_toString_negSucc n), rfl⟩
  | text s => exact ⟨'"', _, congrArg (· ++ r) (toList_string s), rfl⟩
  | list _ => exact ⟨'[', _, congrArg (· ++ r) (characters_list _), rfl⟩
  | table _ _ _ => exact ⟨'{', _, congrArg (· ++ r) (characters_table _), rfl⟩

theorem lead_eq {v w : Value} (left : v.IsJson) (right : w.IsJson) {r r' : List Char}
    (same : characters v ++ r = characters w ++ r') : lead v = lead w := by
  obtain ⟨c, rest, first, known⟩ := exists_lead left r
  obtain ⟨d, rest', second, known'⟩ := exists_lead right r'
  obtain rfl := (List.cons.inj (first.symm.trans (same.trans second))).1
  exact known.symm.trans known'

theorem characters_ne_bracket {v : Value} (json : v.IsJson) (r r' : List Char) :
    characters v ++ r ≠ ']' :: r' := by
  intro same
  obtain ⟨c, rest, first, known⟩ := exists_lead json r
  obtain rfl := (List.cons.inj (first.symm.trans same)).1
  cases json with
  | bool b => cases b <;> simp [lead, leadOf] at known
  | _ => simp [lead, leadOf] at known

theorem entryCharacters_eq (e : Scalar × Value) (r : List Char) : entryCharacters e ++ r =
    (string (key e.1)).toList ++ ':' :: (characters e.2 ++ r) := by
  rw [entryCharacters, List.append_assoc, List.cons_append]

theorem readOnce_entryCharacters {e e' : Scalar × Value} (left : ∃ s, e.1 = .text s)
    (right : ∃ s, e'.1 = .text s) (each : ReadOnce characters e.2 e'.2) :
    ReadOnce entryCharacters e e' := by
  intro r r' stops stops' same
  obtain ⟨k, v⟩ := e
  obtain ⟨k', v'⟩ := e'
  obtain ⟨s, rfl⟩ := left
  obtain ⟨t, rfl⟩ := right
  rw [entryCharacters_eq, entryCharacters_eq] at same
  obtain ⟨key, rest⟩ := string_unique same
  obtain ⟨value, after⟩ := each stops stops' (List.cons.inj rest).2
  exact ⟨Prod.ext (congrArg Scalar.text key) value, after⟩

theorem entryCharacters_ne_brace (e : Scalar × Value) (r r' : List Char) :
    entryCharacters e ++ r ≠ '}' :: r' := by
  rw [entryCharacters_eq, toList_string]
  intro same
  exact absurd (List.cons.inj same).1 (by decide)

/-- JSON data is told by its text, whatever follows. -/
theorem readOnce_characters {v w : Value} (left : v.IsJson) (right : w.IsJson) :
    ReadOnce characters v w := by
  induction left generalizing w with
  | null =>
    intro r r' _ _ same
    have sameLead := lead_eq .null right same
    cases right with
    | null => exact ⟨rfl, List.append_cancel_left same⟩
    | bool b => cases b <;> simp [lead] at sameLead
    | _ => simp [lead] at sameLead
  | bool b =>
    intro r r' _ _ same
    have sameLead := lead_eq (.bool b) right same
    cases right with
    | bool c =>
      obtain rfl : b = c := by cases b <;> cases c <;> simp [lead] at sameLead ⊢
      exact ⟨rfl, List.append_cancel_left same⟩
    | _ => cases b <;> simp [lead] at sameLead
  | int n =>
    intro r r' stops stops' same
    have sameLead := lead_eq (.int n) right same
    cases right with
    | int m =>
      obtain ⟨rfl, after⟩ := int_unique stops stops' same
      exact ⟨rfl, after⟩
    | bool b => cases b <;> simp [lead] at sameLead
    | _ => simp [lead] at sameLead
  | text s =>
    intro r r' _ _ same
    have sameLead := lead_eq (.text s) right same
    cases right with
    | text t =>
      obtain ⟨rfl, after⟩ := string_unique same
      exact ⟨rfl, after⟩
    | bool b => cases b <;> simp [lead] at sameLead
    | _ => simp [lead] at sameLead
  | @list items each ih =>
    intro r r' _ _ same
    have sameLead := lead_eq (.list each) right same
    cases right with
    | @list others eachToo =>
      rw [characters_list, characters_list, List.append_assoc, List.append_assoc] at same
      obtain ⟨rfl, after⟩ := intercalate_unique (by decide) (by decide)
        (fun x here y there => ih x here (eachToo y there))
        (fun x within => characters_ne_bracket (within.elim (each x) (eachToo x)))
        (List.cons.inj same).2
      exact ⟨rfl, after⟩
    | bool b => cases b <;> simp [lead] at sameLead
    | _ => simp [lead] at sameLead
  | @table entries texts once each ih =>
    intro r r' _ _ same
    have sameLead := lead_eq (.table texts once each) right same
    cases right with
    | @table others textsToo _ eachToo =>
      rw [characters_table, characters_table, List.append_assoc, List.append_assoc] at same
      obtain ⟨rfl, after⟩ := intercalate_unique (by decide) (by decide)
        (fun x here y there => readOnce_entryCharacters (texts x here) (textsToo y there)
          (ih x here (eachToo y there)))
        (fun x _ => entryCharacters_ne_brace x) (List.cons.inj same).2
      exact ⟨rfl, after⟩
    | bool b => cases b <;> simp [lead] at sameLead
    | _ => simp [lead] at sameLead

/-- Two values have one compact text only if they are one value. -/
theorem write_injective {v w : Value} (left : v.IsJson) (right : w.IsJson)
    (same : write .compact 0 v = write .compact 0 w) : v = w := by
  have none : Stops [] := fun _ first => by cases first
  exact (readOnce_characters left right none none (by rw [characters, same]; rfl)).1

/-- The canonical texts of two values are the same exactly if the values are, but for the order of
the keys in their tables. -/
theorem canonical_eq_iff {v w : Value} (left : v.IsJson) (right : w.IsJson) :
    canonical v = canonical w ↔ v.Reordered w := by
  rw [← sorted_eq_iff left right]
  exact ⟨write_injective (isJson_sorted left) (isJson_sorted right), congrArg (write .compact 0)⟩

end ContactFlow.Json
