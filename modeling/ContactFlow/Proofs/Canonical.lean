import ContactFlow.Document
import Mathlib.Data.List.Basic
import Mathlib.Data.List.Forall2
import Mathlib.Data.List.Nodup
import Mathlib.Tactic.Common

/-!
Canonical texts. Putting the keys of a table in order leaves the entries as they are, so a value has
no canonical text if a table in it has keys without an order among themselves.
-/

namespace ContactFlow

namespace KeyOrder

variable {α : Type}

theorem append_chain (follows : α → α → Bool) (a : α) (l : List α) :
    (chain follows a l).1 ++ (chain follows a l).2 = l := by
  induction l generalizing a with
  | nil => rfl
  | cons b rest ih =>
    rw [chain]
    split
    · exact congrArg (b :: ·) (ih b)
    · rfl

theorem perm_firstRun (less : α → α → Bool) (l : List α) :
    ((firstRun less l).1 ++ (firstRun less l).2).Perm l := by
  match l with
  | [] => exact .refl _
  | [a] => exact .refl _
  | a :: b :: rest =>
    rw [firstRun]
    split
    · have turned := (List.reverse_perm (a :: b :: (chain (fun x y => less y x) b rest).1)).append_right
        (chain (fun x y => less y x) b rest).2
      rw [List.cons_append, List.cons_append, append_chain] at turned
      exact turned
    · have kept := append_chain (fun x y => !less y x) b rest
      simp only [List.cons_append, kept]
      exact .refl _

theorem perm_insert (less : α → α → Bool) (sorted : List α) (a : α) :
    (insert less sorted a).Perm (a :: sorted) := by
  unfold insert
  refine List.perm_middle.trans ?_
  rw [List.take_append_drop]

theorem perm_insertionSort (less : α → α → Bool) (l : List α) :
    (insertionSort less l).Perm l := by
  have all (others run : List α) : (others.foldl (insert less) run).Perm (run ++ others) := by
    induction others generalizing run with
    | nil => simp
    | cons a rest ih =>
      refine (ih _).trans ?_
      refine ((perm_insert less run a).append_right rest).trans ?_
      exact List.perm_middle.symm
  exact (all _ _).trans (perm_firstRun less l)

theorem perm_sort (entries : List (Scalar × α)) : (sort entries).Perm entries := by
  unfold sort
  split
  · exact List.mergeSort_perm _ _
  · exact perm_insertionSort _ entries

/-- A text and a number have no order between them. -/
theorem not_comparable {keys : List Scalar} {s : String} {k : Scalar} (text : .text s ∈ keys)
    (other : k ∈ keys) (number : k.isNumber = true) : comparable keys = false := by
  have apart : k ≠ .text s := by
    rintro rfl
    cases number
  match keys with
  | [] => cases text
  | [a] =>
    rw [List.mem_singleton] at text other
    exact absurd (other.trans text.symm) apart
  | a :: b :: rest =>
    -- the first key is compared with all others, and is unlike the text or the number
    have unlike : ∃ c ∈ b :: rest, alike a c = false := by
      rcases List.mem_cons.1 text with rfl | later
      · have later := (List.mem_cons.1 other).resolve_left apart
        refine ⟨k, later, ?_⟩
        cases k <;> first | rfl | cases number
      · by_cases here : ∃ t, a = .text t
        · obtain ⟨t, rfl⟩ := here
          rcases List.mem_cons.1 other with rfl | beyond
          · cases number
          · refine ⟨k, beyond, ?_⟩
            cases k <;> first | rfl | cases number
        · refine ⟨.text s, later, ?_⟩
          cases a <;> first | rfl | exact absurd ⟨_, rfl⟩ here
    obtain ⟨c, member, unlike⟩ := unlike
    have refused : (b :: rest).all (alike a) = false := by
      rw [← Bool.not_eq_true, List.all_eq_true]
      exact fun all => by simpa [unlike] using all c member
    exact refused

end KeyOrder

/-- A value stands somewhere in the lists and tables of another one, or is that one. -/
inductive Value.Within (part : Value) : Value → Prop
  | here : Within part part
  | item {items : List Value} {v : Value} (inside : Within part v) (member : v ∈ items) :
    Within part (.list items)
  | entry {entries : List (Scalar × Value)} {k : Scalar} {v : Value} (inside : Within part v)
    (member : (k, v) ∈ entries) : Within part (.table entries)

namespace Json

variable {sorting : Bool} {v part : Value} {items : List Value} {entries : List (Scalar × Value)}

theorem fault?_of_listFault? (fine : listFault? sorting items = none) (member : v ∈ items) :
    fault? sorting v = none := by
  induction items with
  | nil => cases member
  | cons first rest ih =>
    rw [listFault?, Option.or_eq_none_iff] at fine
    rcases List.mem_cons.1 member with rfl | later
    · exact fine.1
    · exact ih fine.2 later

theorem fault?_of_tableFault? {k : Scalar} (fine : tableFault? sorting entries = none)
    (member : (k, v) ∈ entries) : fault? sorting v = none := by
  induction entries with
  | nil => cases member
  | cons first rest ih =>
    obtain ⟨k', v'⟩ := first
    rw [tableFault?, Option.or_eq_none_iff, Option.or_eq_none_iff] at fine
    rcases List.mem_cons.1 member with same | later
    · cases same
      exact fine.1.2
    · exact ih fine.2 later

theorem mem_sortedList (member : v ∈ items) : sorted v ∈ sortedList items := by
  induction items with
  | nil => cases member
  | cons first rest ih =>
    rw [sortedList]
    rcases List.mem_cons.1 member with rfl | later
    · exact List.mem_cons_self
    · exact List.mem_cons_of_mem _ (ih later)

theorem mem_sortedTable {k : Scalar} (member : (k, v) ∈ entries) :
    (k, sorted v) ∈ sortedTable entries := by
  induction entries with
  | nil => cases member
  | cons first rest ih =>
    obtain ⟨k', v'⟩ := first
    rw [sortedTable]
    rcases List.mem_cons.1 member with same | later
    · cases same
      exact List.mem_cons_self
    · exact List.mem_cons_of_mem _ (ih later)

theorem keys_sortedTable (entries : List (Scalar × Value)) :
    (sortedTable entries).map (·.1) = entries.map (·.1) := by
  induction entries with
  | nil => rfl
  | cons first rest ih =>
    obtain ⟨k, v⟩ := first
    rw [sortedTable, List.map_cons, ih, List.map_cons]

/-- What is written with sorted keys has all its parts written so. -/
theorem fault?_within (inside : part.Within v) (fine : fault? true (sorted v) = none) :
    fault? true (sorted part) = none := by
  induction inside with
  | here => exact fine
  | item inside member ih =>
    rw [sorted, fault?] at fine
    exact ih (fault?_of_listFault? fine (mem_sortedList member))
  | entry inside member ih =>
    rw [sorted, fault?] at fine
    split at fine
    · cases fine
    · have placed := (KeyOrder.perm_sort _).mem_iff.2 (mem_sortedTable member)
      exact ih (fault?_of_tableFault? fine placed)

/-- No canonical text shows a table with a text and a number among its keys. -/
theorem not_canonical (inside : (Value.table entries).Within v) {s : String} {k : Scalar}
    (text : .text s ∈ entries.map (·.1)) (other : k ∈ entries.map (·.1))
    (number : k.isNumber = true) (written : String) : canonical? v ≠ .ok written := by
  intro canonical
  unfold canonical? at canonical
  split at canonical
  · rename_i fine
    have here := fault?_within inside fine
    rw [sorted, fault?] at here
    have kept := (KeyOrder.perm_sort (sortedTable entries)).map (·.1)
    rw [keys_sortedTable] at kept
    have mixed := KeyOrder.not_comparable (kept.mem_iff.2 text) (kept.mem_iff.2 other) number
    rw [mixed] at here
    cases here
  · cases canonical

end Json

/-! ### The order of keys

Two values become equal when their keys are put in order exactly
if they are the same but for the order of the keys in their tables, at every depth.
-/

namespace Value

/-- Null, truth values, whole numbers, texts, lists of such data, and tables of such data whose keys
are texts, each of them there once. -/
inductive IsJson : Value → Prop
  | null : IsJson .null
  | bool (b : Bool) : IsJson (.bool b)
  | int (n : Int) : IsJson (.int n)
  | text (s : String) : IsJson (.text s)
  | list {items : List Value} (each : ∀ v ∈ items, IsJson v) : IsJson (.list items)
  | table {entries : List (Scalar × Value)} (texts : ∀ e ∈ entries, ∃ s, e.1 = .text s)
      (once : (entries.map (·.1)).Nodup) (each : ∀ e ∈ entries, IsJson e.2) :
      IsJson (.table entries)

/-- The values are the same but for the order of the keys in their tables. -/
inductive Reordered : Value → Value → Prop
  | scalar (s : Scalar) : Reordered (.scalar s) (.scalar s)
  | list {items others : List Value} (long : items.length = others.length)
      (each : ∀ p ∈ items.zip others, Reordered p.1 p.2) : Reordered (.list items) (.list others)
  | table {entries others : List (Scalar × Value)}
      (keys : (entries.map (·.1)).Perm (others.map (·.1)))
      (each : ∀ k v w, (k, v) ∈ entries → (k, w) ∈ others → Reordered v w) :
      Reordered (.table entries) (.table others)

theorem isJson_record {fields : List (String × Value)} (once : (fields.map (·.1)).Nodup)
    (each : ∀ f ∈ fields, f.2.IsJson) : (record fields).IsJson := by
  refine .table (fun e member => ?_) ?_ fun e member => ?_
  · obtain ⟨f, _, rfl⟩ := List.mem_map.1 member
    exact ⟨f.1, rfl⟩
  · have texts : Function.Injective Scalar.text := fun _ _ same => Scalar.text.inj same
    rw [List.map_map]
    exact List.map_map (f := Prod.fst) (g := Scalar.text) ▸ once.map texts
  · obtain ⟨f, within, rfl⟩ := List.mem_map.1 member
    exact each f within

theorem reordered_refl {v : Value} (json : v.IsJson) : v.Reordered v := by
  induction json with
  | null => exact .scalar _
  | bool b => exact .scalar _
  | int n => exact .scalar _
  | text s => exact .scalar _
  | @list items _ ih =>
    exact .list rfl fun p => (List.forall₂_iff_zip.1 (List.forall₂_same.2 ih)).2
  | @table entries texts once _ ih =>
    refine .table (.refl _) fun k v w here there => ?_
    obtain ⟨⟩ : (k, v) = (k, w) := List.inj_on_of_nodup_map once here there rfl
    exact ih _ here

/-- The entries of a table in any order. -/
theorem reordered_of_perm {entries others : List (Scalar × Value)} (json : (table entries).IsJson)
    (same : entries.Perm others) : (table entries).Reordered (table others) := by
  cases reordered_refl json with
  | table _ each =>
    exact .table (same.map _) fun k v w here there => each k v w here (same.mem_iff.2 there)

end Value

/-! ### Keys that are texts -/

namespace KeyOrder

variable {α : Type} {entries others : List (Scalar × α)}

theorem less_text (s t : String) : less (.text s) (.text t) = decide (s < t) := rfl

theorem exists_fields (texts : ∀ e ∈ entries, ∃ s, e.1 = .text s) :
    ∃ fields : List (String × α), entries = fields.map fun f => (.text f.1, f.2) := by
  induction entries with
  | nil => exact ⟨[], rfl⟩
  | cons e rest ih =>
    obtain ⟨fields, rfl⟩ := ih fun e member => texts e (List.mem_cons_of_mem _ member)
    obtain ⟨s, key⟩ := texts e List.mem_cons_self
    exact ⟨(s, e.2) :: fields, by rw [List.map_cons, ← key]⟩

theorem pairwise_sort (texts : ∀ e ∈ entries, ∃ s, e.1 = .text s) :
    (sort entries).Pairwise fun a b => less b.1 a.1 = false := by
  obtain ⟨fields, rfl⟩ := exists_fields texts
  have order (s t : String) : (!decide (t < s)) = true ↔ s ≤ t := by
    rw [Bool.not_eq_true', decide_eq_false_iff_not, String.not_lt]
  have transitive (a b c : String × α) : (!decide (b.1 < a.1)) = true →
      (!decide (c.1 < b.1)) = true → (!decide (c.1 < a.1)) = true := by
    rw [order, order, order]
    exact String.le_trans
  have total (a b : String × α) : (!decide (b.1 < a.1) || !decide (a.1 < b.1)) = true := by
    rw [Bool.or_eq_true, order, order]
    exact String.le_total a.1 b.1
  have sorted := List.pairwise_mergeSort transitive total fields
  rw [sort, if_pos, ← List.map_mergeSort (r := fun a b => !decide (b.1 < a.1))
    (fun _ _ _ _ => rfl), List.pairwise_map]
  · exact sorted.imp fun below => by simpa [less_text] using below
  · refine List.all_eq_true.2 fun e member => ?_
    obtain ⟨f, -, rfl⟩ := List.mem_map.1 member
    rfl

/-- Entries that are known by their keys are put in the same order, however they stood. -/
theorem sort_eq_of_perm (texts : ∀ e ∈ entries, ∃ s, e.1 = .text s)
    (once : (entries.map (·.1)).Nodup) (same : entries.Perm others) : sort entries = sort others := by
  have others_texts : ∀ e ∈ others, ∃ s, e.1 = .text s :=
    fun e member => texts e (same.mem_iff.2 member)
  have perm : (sort entries).Perm (sort others) :=
    (perm_sort entries).trans (same.trans (perm_sort others).symm)
  refine List.Perm.eq_of_pairwise ?_ (pairwise_sort texts) (pairwise_sort others_texts) perm
  intro a b left right notAbove notBelow
  have left := (perm_sort entries).mem_iff.1 left
  have right := same.mem_iff.2 ((perm_sort others).mem_iff.1 right)
  obtain ⟨s, first⟩ := texts a left
  obtain ⟨t, second⟩ := texts b right
  rw [first, second, less_text, decide_eq_false_iff_not] at notAbove notBelow
  have key : s = t := String.le_antisymm notAbove notBelow
  exact List.inj_on_of_nodup_map once left right (by rw [first, second, key])

end KeyOrder

/-! ### Values with their keys in order -/

namespace Json

open Value (IsJson Reordered)

theorem sortedList_eq_map (items : List Value) : sortedList items = items.map sorted := by
  induction items with
  | nil => rfl
  | cons v rest ih => rw [sortedList, ih, List.map_cons]

theorem sortedTable_eq_map (entries : List (Scalar × Value)) :
    sortedTable entries = entries.map fun e => (e.1, sorted e.2) := by
  induction entries with
  | nil => rfl
  | cons e rest ih => rw [sortedTable, ih, List.map_cons]

/-- What a table is known by once its keys are in order: its entries, put in order in themselves. -/
theorem sorted_table_eq {entries others : List (Scalar × Value)}
    (texts : ∀ e ∈ entries, ∃ s, e.1 = .text s) (once : (entries.map (·.1)).Nodup) :
    sorted (.table entries) = sorted (.table others) ↔
      (sortedTable entries).Perm (sortedTable others) := by
  rw [sorted, sorted, Value.table.injEq]
  constructor
  · intro same
    exact (KeyOrder.perm_sort _).symm.trans (same ▸ KeyOrder.perm_sort _)
  · refine KeyOrder.sort_eq_of_perm (fun e member => ?_) (by rwa [keys_sortedTable])
    rw [sortedTable_eq_map] at member
    obtain ⟨e, within, rfl⟩ := List.mem_map.1 member
    exact texts e within

theorem reordered_of_sorted_eq {v w : Value} (json : v.IsJson) (same : sorted v = sorted w) :
    v.Reordered w := by
  induction json generalizing w with
  | null => cases w <;> cases same; exact .scalar _
  | bool b => cases w <;> cases same; exact .scalar _
  | int n => cases w <;> cases same; exact .scalar _
  | text s => cases w <;> cases same; exact .scalar _
  | @list items each ih =>
    cases w with
    | list others =>
      rw [sorted, sorted, Value.list.injEq, sortedList_eq_map, sortedList_eq_map] at same
      obtain ⟨long, each⟩ := List.forall₂_iff_zip.1
        (List.forall₂_map_left_iff.1 (List.forall₂_map_right_iff.1 (List.forall₂_eq_eq_eq ▸ same)))
      refine .list long fun p member => ih p.1 (List.of_mem_zip member).1 (each member)
    | _ => cases same
  | @table entries texts once each ih =>
    cases w with
    | table others =>
      have perm := (sorted_table_eq texts once).1 same
      refine .table (by simpa only [keys_sortedTable] using perm.map (·.1)) fun k v w here there => ?_
      -- the other entry of the key is the one that this entry became
      have moved := perm.mem_iff.2 (mem_sortedTable there)
      have key : (k, sorted v) = (k, sorted w) := List.inj_on_of_nodup_map
        (by rwa [keys_sortedTable]) (mem_sortedTable here) moved rfl
      exact ih (k, v) here (congrArg (·.2) key)
    | _ => cases same

theorem sorted_eq_of_reordered {v w : Value} (alike : v.Reordered w) (left : v.IsJson)
    (right : w.IsJson) : sorted v = sorted w := by
  induction alike with
  | scalar s => rfl
  | @list items others long each ih =>
    cases left with | list left => cases right with | list right =>
    rw [sorted, sorted, sortedList_eq_map, sortedList_eq_map]
    refine congrArg Value.list (List.forall₂_eq_eq_eq ▸ List.forall₂_map_left_iff.2
      (List.forall₂_map_right_iff.2 (List.forall₂_iff_zip.2 ⟨long, fun member => ?_⟩)))
    have sides := List.of_mem_zip member
    exact ih _ member (left _ sides.1) (right _ sides.2)
  | @table entries others keys each ih =>
    cases left with | table texts once left => cases right with | table _ onceToo right =>
    refine (sorted_table_eq texts once).2 ?_
    have nodup {l : List (Scalar × Value)} (once : (l.map (·.1)).Nodup) : (sortedTable l).Nodup :=
      List.Nodup.of_map (·.1) (by rwa [keys_sortedTable])
    refine (List.perm_ext_iff_of_nodup (nodup once) (nodup onceToo)).2 fun e => ?_
    rw [sortedTable_eq_map, sortedTable_eq_map, List.mem_map, List.mem_map]
    constructor
    · rintro ⟨⟨k, v⟩, here, rfl⟩
      obtain ⟨⟨k, w⟩, there, rfl⟩ := List.mem_map.1 (keys.mem_iff.1 (List.mem_map_of_mem here))
      exact ⟨(k, w), there, by rw [ih k v w here there (left _ here) (right _ there)]⟩
    · rintro ⟨⟨k, w⟩, there, rfl⟩
      obtain ⟨⟨k, v⟩, here, rfl⟩ := List.mem_map.1 (keys.mem_iff.2 (List.mem_map_of_mem there))
      exact ⟨(k, v), here, by rw [ih k v w here there (left _ here) (right _ there)]⟩

/-- Keys in order tell two values apart exactly if more than the order of their keys does. -/
theorem sorted_eq_iff {v w : Value} (left : v.IsJson) (right : w.IsJson) :
    sorted v = sorted w ↔ v.Reordered w :=
  ⟨reordered_of_sorted_eq left, fun alike => sorted_eq_of_reordered alike left right⟩

theorem isJson_sorted {v : Value} (json : v.IsJson) : (sorted v).IsJson := by
  induction json with
  | null => exact .null
  | bool b => exact .bool b
  | int n => exact .int n
  | text s => exact .text s
  | list _ ih =>
    rw [sorted, sortedList_eq_map]
    refine .list fun v member => ?_
    obtain ⟨v, within, rfl⟩ := List.mem_map.1 member
    exact ih v within
  | @table entries texts once _ ih =>
    have member_of {e : Scalar × Value} (member : e ∈ KeyOrder.sort (sortedTable entries)) :
        ∃ e' ∈ entries, (e'.1, sorted e'.2) = e := by
      rw [(KeyOrder.perm_sort _).mem_iff, sortedTable_eq_map] at member
      exact List.mem_map.1 member
    rw [sorted]
    refine .table (fun e member => ?_) ?_ fun e member => ?_
    · obtain ⟨e, within, rfl⟩ := member_of member
      exact texts e within
    · rw [((KeyOrder.perm_sort _).map _).nodup_iff, keys_sortedTable]
      exact once
    · obtain ⟨e, within, rfl⟩ := member_of member
      exact ih e within

end Json

end ContactFlow
