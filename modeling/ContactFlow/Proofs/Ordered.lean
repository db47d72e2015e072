import ContactFlow.Ordered
import Mathlib.Data.List.Induction
import Mathlib.Data.List.Nodup

/-!
Association lists in the order of their keys: what is found in them, and the entries put in one after
another, of which the last under a key counts. Of the members of a list the first occurrences stand in
their order.
-/

namespace ContactFlow.Ordered

variable {κ α : Type} [BEq κ] [LawfulBEq κ] {l : List (κ × α)} {k : κ}

theorem contains_iff {l : List (κ × α)} {k : κ} : contains l k = true ↔ k ∈ keys l := by
  simp only [contains, keys, List.any_eq_true, List.mem_map, beq_iff_eq]

theorem lookup_isSome {l : List (κ × α)} {k : κ} : (l.lookup k).isSome ↔ k ∈ keys l := by
  rw [List.lookup_isSome_iff]
  simp [keys]

theorem lookup_eq_none (fresh : k ∉ keys l) : l.lookup k = none :=
  Option.not_isSome_iff_eq_none.1 fun found => fresh (lookup_isSome.1 found)

theorem mem_of_lookup {v : α} (found : l.lookup k = some v) : (k, v) ∈ l := by
  obtain ⟨before, after, rfl, _⟩ := List.lookup_eq_some_iff.1 found
  simp

theorem lookup_cons_other {k' : κ} (other : k' ≠ k) (v : α) :
    List.lookup k' ((k, v) :: l) = l.lookup k' := by
  rw [List.lookup_cons, beq_eq_false_iff_ne.2 other]

theorem lookup_filter (p : κ → Bool) (l : List (κ × α)) (k : κ) :
    (l.filter fun e => p e.1).lookup k = if p k then l.lookup k else none := by
  induction l with
  | nil => simp
  | cons e rest ih =>
    obtain ⟨k', v⟩ := e
    rw [List.filter_cons, List.lookup_cons]
    by_cases here : k = k'
    · subst here
      by_cases passes : p k = true
      · simp [passes]
      · rw [if_neg passes, ih, if_neg passes, if_neg passes]
    · rw [beq_eq_false_iff_ne.2 here, ← ih]
      split
      · exact lookup_cons_other here v
      · rfl

omit [LawfulBEq κ] in
theorem lookup_map {β : Type} (f : α → β) (l : List (κ × α)) (k : κ) :
    (l.map fun e => (e.1, f e.2)).lookup k = (l.lookup k).map f := by
  induction l with
  | nil => rfl
  | cons e rest ih =>
    rw [List.map_cons, List.lookup_cons, List.lookup_cons, ih]
    split <;> rfl

theorem put_fresh {l : List (κ × α)} {k : κ} (fresh : k ∉ keys l) (v : α) :
    put l k v = l ++ [(k, v)] := by
  induction l with
  | nil => rfl
  | cons e rest ih =>
    simp only [keys, List.map_cons, List.mem_cons, not_or] at fresh
    have other : ¬ (e.1 == k) = true := by simpa using fun same => fresh.1 (Eq.symm same)
    rw [put, if_neg other, ih fresh.2, List.cons_append]

theorem put_known {l : List (κ × α)} {k : κ} (distinct : (keys l).Nodup) (known : k ∈ keys l) (v : α) :
    put l k v = l.map fun e => if e.1 == k then (e.1, v) else e := by
  induction l with
  | nil => cases known
  | cons e rest ih =>
    rw [keys, List.map_cons, List.nodup_cons] at distinct
    rw [put, List.map_cons]
    by_cases here : e.1 = k
    · -- no later entry has the same key
      have same : (e.1 == k) = true := beq_iff_eq.2 here
      rw [if_pos same, if_pos same, List.map_congr_left (g := id), List.map_id]
      intro e' among
      refine if_neg fun again => distinct.1 ?_
      rw [here, ← beq_iff_eq.1 again]
      exact List.mem_map_of_mem among
    · have other : ¬ (e.1 == k) = true := fun same => here (beq_iff_eq.1 same)
      rw [if_neg other, if_neg other,
        ih distinct.2 ((List.mem_cons.1 known).resolve_left fun same => here same.symm)]

theorem lookup_put_other {k' : κ} (other : k' ≠ k) (v : α) :
    (put l k v).lookup k' = l.lookup k' := by
  have apart : (k' == k) = false := beq_eq_false_iff_ne.2 other
  induction l with
  | nil => simp [put, List.lookup_cons, apart]
  | cons e rest ih =>
    obtain ⟨k'', v'⟩ := e
    by_cases here : k'' = k
    · simp [put, here, List.lookup_cons, apart]
    · simp [put, here, List.lookup_cons, ih]

theorem mem_put {v : α} {e : κ × α} (among : e ∈ put l k v) : e ∈ l ∨ e = (k, v) := by
  induction l with
  | nil => exact .inr (List.mem_singleton.1 among)
  | cons first rest ih =>
    rw [put] at among
    split at among
    · rename_i same
      rcases List.mem_cons.1 among with rfl | later
      · exact .inr (Prod.ext (eq_of_beq same) rfl)
      · exact .inl (List.mem_cons_of_mem _ later)
    · rcases List.mem_cons.1 among with rfl | later
      · exact .inl List.mem_cons_self
      · exact (ih later).imp_left (List.mem_cons_of_mem _)

theorem nodup_put (distinct : (keys l).Nodup) (v : α) : (keys (put l k v)).Nodup := by
  rw [keys_put]
  split
  · exact distinct
  · rename_i fresh
    exact distinct.append (List.nodup_singleton k) fun k' known same =>
      fresh (List.mem_singleton.1 same ▸ known)

/-! ### Entries put in one after another -/

theorem collect_from (l entries : List (κ × α)) (distinct : (keys l).Nodup) :
    (keys (entries.foldl (fun t (k, v) => put t k v) l)).Nodup ∧
      ∀ e ∈ entries.foldl (fun t (k, v) => put t k v) l, e ∈ l ∨ e ∈ entries := by
  induction entries generalizing l with
  | nil => exact ⟨distinct, fun e => .inl⟩
  | cons first rest ih =>
    obtain ⟨apart, members⟩ := ih (put l first.1 first.2) (nodup_put distinct _)
    refine ⟨apart, fun e among => ?_⟩
    rcases members e among with before | later
    · exact (mem_put before).imp_right fun (same : e = first) => same ▸ List.mem_cons_self
    · exact .inr (List.mem_cons_of_mem _ later)

theorem nodup_collect (entries : List (κ × α)) : (keys (collect entries)).Nodup :=
  (collect_from [] entries List.nodup_nil).1

theorem mem_of_mem_collect {entries : List (κ × α)} {e : κ × α} (among : e ∈ collect entries) :
    e ∈ entries := ((collect_from [] entries List.nodup_nil).2 e among).resolve_left nofun

theorem collect_of_nodup {entries : List (κ × α)} (once : (keys entries).Nodup) :
    collect entries = entries := by
  have onward (l entries : List (κ × α)) (once : (keys (l ++ entries)).Nodup) :
      entries.foldl (fun t (k, v) => put t k v) l = l ++ entries := by
    induction entries generalizing l with
    | nil => exact (List.append_nil l).symm
    | cons e rest ih =>
      obtain ⟨k, v⟩ := e
      have fresh : k ∉ keys l := fun known => by
        rw [keys, List.map_append] at once
        exact List.disjoint_of_nodup_append once known List.mem_cons_self
      rw [List.append_cons] at once ⊢
      refine Eq.trans ?_ (ih (l ++ [(k, v)]) once)
      rw [List.foldl_cons, ← put_fresh fresh v]
  exact onward [] entries once

omit [LawfulBEq κ] in
theorem collect_concat (l : List (κ × α)) (e : κ × α) :
    collect (l ++ [e]) = put (collect l) e.1 e.2 := by
  rw [collect, List.foldl_append]
  rfl

theorem length_put (l : List (κ × α)) (k : κ) (v : α) :
    (put l k v).length = if k ∈ keys l then l.length else l.length + 1 := by
  have size (l : List (κ × α)) : (keys l).length = l.length := List.length_map _
  have lengths := congrArg List.length (keys_put l k v)
  rw [size] at lengths
  rw [lengths]
  split
  · exact size l
  · simp [size]

theorem length_collect_le (l : List (κ × α)) : (collect l).length ≤ l.length := by
  induction l using List.reverseRecOn with
  | nil => exact Nat.le_refl 0
  | append_singleton l e ih =>
    rw [collect_concat, length_put, List.length_append, List.length_singleton]
    split
    · exact Nat.le_succ_of_le ih
    · exact Nat.succ_le_succ ih

/-- No entry is lost exactly if no two have one key. -/
theorem length_collect_eq : (collect l).length = l.length ↔ (keys l).Nodup := by
  refine ⟨fun all => ?_, fun once => by rw [collect_of_nodup once]⟩
  induction l using List.reverseRecOn with
  | nil => exact List.nodup_nil
  | append_singleton l e ih =>
    have fewer := length_collect_le l
    rw [collect_concat, length_put, List.length_append, List.length_singleton] at all
    split at all
    · omega
    · rename_i fresh
      have once := ih (Nat.succ.inj all)
      rw [collect_of_nodup once] at fresh
      rw [keys, List.map_append]
      refine once.append (List.nodup_singleton e.1) fun k known same => ?_
      rw [List.mem_singleton.1 same] at known
      exact fresh known

/-! ### First occurrences -/

theorem distinct_append (seen l : List κ) (apart : seen.Nodup) :
    (l.foldl (fun seen k => if seen.contains k then seen else seen ++ [k]) seen).Nodup ∧
      ∀ k, k ∈ l.foldl (fun seen k => if seen.contains k then seen else seen ++ [k]) seen ↔
        k ∈ seen ∨ k ∈ l := by
  induction l generalizing seen with
  | nil => simpa using apart
  | cons a rest ih =>
    rw [List.foldl_cons]
    by_cases old : a ∈ seen
    · rw [if_pos (List.contains_iff_mem.2 old)]
      obtain ⟨nodup, members⟩ := ih seen apart
      refine ⟨nodup, fun k => (members k).trans ?_⟩
      constructor
      · rintro (here | later)
        · exact .inl here
        · exact .inr (List.mem_cons_of_mem _ later)
      · rintro (here | later)
        · exact .inl here
        · rcases List.mem_cons.1 later with rfl | later
          · exact .inl old
          · exact .inr later
    · rw [if_neg fun found => old (List.contains_iff_mem.1 found)]
      have longer : (seen ++ [a]).Nodup := by
        refine apart.append (List.nodup_singleton a) ?_
        intro k inside same
        exact old (List.mem_singleton.1 same ▸ inside)
      obtain ⟨nodup, members⟩ := ih (seen ++ [a]) longer
      refine ⟨nodup, fun k => (members k).trans ?_⟩
      rw [List.mem_append, List.mem_singleton, List.mem_cons, or_assoc]

theorem nodup_distinct (l : List κ) : (distinct l).Nodup :=
  (distinct_append [] l List.nodup_nil).1

theorem mem_distinct {l : List κ} {k : κ} : k ∈ distinct l ↔ k ∈ l :=
  ((distinct_append [] l List.nodup_nil).2 k).trans (by simp)

end ContactFlow.Ordered
