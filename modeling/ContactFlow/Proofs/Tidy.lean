import ContactFlow.Graph
import ContactFlow.Proofs.Identifiers
import ContactFlow.Proofs.Ordered

/-!
Tidy graphs: every node stands under its own identifier, and identifiers and serial numbers are
given out once. Adding a node under a fresh identifier and changing nodes in place keep a graph
tidy.
-/

namespace ContactFlow

namespace Graph

/-- Every node stands under its identifier; no identifier and no serial number is given out twice.
-/
structure Tidy (g : Graph) : Prop where
  named : ∀ e ∈ g.nodes, e.1 = e.2.id
  distinct : g.keys.Nodup
  used : ∀ k ∈ g.keys, k ∈ g.allocator.used
  serials : (g.toList.map (·.serial)).Nodup
  counted : ∀ n ∈ g.toList, n.serial < g.count

variable {g g' : Graph} {n m : Node} {id : String}

theorem keys_eq (tidy : g.Tidy) : g.keys = g.toList.map (·.id) := by
  simp only [keys, Ordered.keys, toList, List.map_map]
  exact List.map_congr_left fun e member => tidy.named e member

theorem mem_keys (tidy : g.Tidy) : id ∈ g.keys ↔ ∃ n ∈ g.toList, n.id = id := by
  rw [keys_eq tidy, List.mem_map]

/-- What a graph has under an identifier, if its nodes stand under theirs. -/
theorem get?_iff (named : ∀ e ∈ g.nodes, e.1 = e.2.id) (distinct : g.keys.Nodup) :
    g.get? id = some n ↔ n ∈ g.toList ∧ n.id = id := by
  have lookup (l : List (String × Node)) (named : ∀ e ∈ l, e.1 = e.2.id)
      (distinct : (l.map (·.1)).Nodup) :
      l.lookup id = some n ↔ n ∈ l.map (·.2) ∧ n.id = id := by
    induction l with
    | nil => simp
    | cons e rest ih =>
      have head := named e List.mem_cons_self
      have tail := ih (fun e member => named e (List.mem_cons_of_mem _ member))
        (List.nodup_cons.1 distinct).2
      have apart : e.1 ∉ rest.map (·.1) := (List.nodup_cons.1 distinct).1
      rw [List.lookup_cons]
      split
      · rename_i same
        have same : id = e.1 := by simpa using same
        constructor
        · intro found
          cases found
          exact ⟨List.mem_cons_self, by rw [← head, same]⟩
        · rintro ⟨member, rfl⟩
          rcases List.mem_cons.1 member with rfl | later
          · rfl
          · obtain ⟨e', inRest, rfl⟩ := List.mem_map.1 later
            have here := named e' (List.mem_cons_of_mem _ inRest)
            exact absurd (List.mem_map.2 ⟨e', inRest, here.trans same⟩) apart
      · rename_i other
        have other : id ≠ e.1 := by simpa using other
        rw [tail, List.map_cons, List.mem_cons]
        constructor
        · exact fun ⟨member, name⟩ => ⟨.inr member, name⟩
        · rintro ⟨rfl | member, name⟩
          · exact absurd (name.symm.trans head.symm) other
          · exact ⟨member, name⟩
  exact lookup g.nodes named distinct

theorem get?_eq_some (tidy : g.Tidy) : g.get? id = some n ↔ n ∈ g.toList ∧ n.id = id :=
  get?_iff tidy.named tidy.distinct

theorem get?_mem (tidy : g.Tidy) (member : n ∈ g.toList) : g.get? n.id = some n :=
  (get?_eq_some tidy).2 ⟨member, rfl⟩

theorem getD_mem (tidy : g.Tidy) (there : (g.get? id).isSome) :
    (g.get? id).getD default ∈ g.toList := by
  obtain ⟨n, found⟩ := Option.isSome_iff_exists.1 there
  rw [found, Option.getD_some]
  exact ((get?_eq_some tidy).1 found).1

theorem get?_isSome (tidy : g.Tidy) : (g.get? id).isSome ↔ id ∈ g.keys := by
  rw [mem_keys tidy, Option.isSome_iff_exists]
  simp only [get?_eq_some tidy]

theorem eq_of_serial (tidy : g.Tidy) (first : n ∈ g.toList) (second : m ∈ g.toList)
    (same : n.serial = m.serial) : n = m :=
  List.inj_on_of_nodup_map tidy.serials first second same

theorem eq_of_id (tidy : g.Tidy) (first : n ∈ g.toList) (second : m ∈ g.toList)
    (same : n.id = m.id) : n = m := by
  have found := get?_mem tidy first
  rw [same, get?_mem tidy second] at found
  exact (Option.some.inj found).symm

/-! ### Nodes changed in place -/

/-- The second graph has the nodes of the first one, each changed. -/
structure Changed (f : Node → Node) (g g' : Graph) : Prop where
  nodes : g'.nodes = g.nodes.map fun e => (e.1, f e.2)
  allocator : g'.allocator = g.allocator
  count : g'.count = g.count
  entry : g'.entry = g.entry

/-- A change that leaves identifiers and serial numbers of a graph's nodes as they are. -/
def Keeps (g : Graph) (f : Node → Node) : Prop :=
  ∀ n ∈ g.toList, (f n).id = n.id ∧ (f n).serial = n.serial

section Changed

variable {f : Node → Node}

theorem Changed.toList (changed : Changed f g g') : g'.toList = g.toList.map f := by
  simp only [Graph.toList, changed.nodes, List.map_map, Function.comp_def]

theorem Changed.keys (changed : Changed f g g') : g'.keys = g.keys := by
  simp only [Graph.keys, Ordered.keys, changed.nodes, List.map_map, Function.comp_def]

theorem Changed.tidy (changed : Changed f g g') (keeps : g.Keeps f) (tidy : g.Tidy) : g'.Tidy where
  named := by
    rw [changed.nodes]
    intro e member
    obtain ⟨e', inside, rfl⟩ := List.mem_map.1 member
    exact (tidy.named e' inside).trans (keeps e'.2 (List.mem_map_of_mem inside)).1.symm
  distinct := changed.keys ▸ tidy.distinct
  used := by
    rw [changed.keys, changed.allocator]
    exact tidy.used
  serials := by
    have same : (g.toList.map f).map (·.serial) = g.toList.map (·.serial) := by
      rw [List.map_map]
      exact List.map_congr_left fun n member => (keeps n member).2
    rw [changed.toList, same]
    exact tidy.serials
  counted := by
    rw [changed.toList, changed.count]
    intro n member
    obtain ⟨n', inside, rfl⟩ := List.mem_map.1 member
    rw [(keeps n' inside).2]
    exact tidy.counted n' inside

theorem changed_modifyNode (g : Graph) (serial : Nat) (f : Node → Node) :
    Changed (fun n => if n.serial = serial then f n else n) g (g.modifyNode serial f) :=
  ⟨rfl, rfl, rfl, rfl⟩

theorem changed_modify (tidy : g.Tidy) (id : String) (f : Node → Node) :
    Changed (fun n => if n.id = id then f n else n) g (g.modify id f) := by
  refine ⟨List.map_congr_left fun e member => ?_, rfl, rfl, rfl⟩
  have name := tidy.named e member
  by_cases here : e.1 = id
  · simp [here, ← name]
  · simp [here, ← name]

theorem keeps_if {p : Node → Prop} [DecidablePred p]
    (keeps : ∀ n ∈ g.toList, p n → (f n).id = n.id ∧ (f n).serial = n.serial) :
    g.Keeps fun n => if p n then f n else n := by
  intro n member
  by_cases changed : p n
  · simpa only [if_pos changed] using keeps n member changed
  · simp only [if_neg changed, and_self]

end Changed

/-! ### Nodes added -/

/-- The second graph is the first one with a node more, under a fresh identifier. -/
structure Grown (n : Node) (g g' : Graph) : Prop where
  nodes : g'.nodes = g.nodes ++ [(n.id, n)]
  fresh : n.id ∉ g.allocator.used
  used : g'.allocator.used = g.allocator.used ++ [n.id]
  serial : n.serial = g.count
  count : g'.count = g.count + 1
  entry : g'.entry = some (g.entry.getD n.id)

theorem Grown.toList (grown : Grown n g g') : g'.toList = g.toList ++ [n] := by
  simp only [Graph.toList, grown.nodes, List.map_append, List.map_cons, List.map_nil]

theorem Grown.keys (grown : Grown n g g') : g'.keys = g.keys ++ [n.id] := by
  simp only [Graph.keys, Ordered.keys, grown.nodes, List.map_append, List.map_cons, List.map_nil]

theorem Grown.absent (grown : Grown n g g') (tidy : g.Tidy) : n.id ∉ g.keys :=
  fun member => grown.fresh (tidy.used _ member)

theorem Grown.tidy (grown : Grown n g g') (tidy : g.Tidy) : g'.Tidy where
  named := by
    rw [grown.nodes]
    intro e member
    rcases List.mem_append.1 member with old | new
    · exact tidy.named e old
    · rw [List.mem_singleton.1 new]
  distinct := by
    rw [grown.keys]
    exact tidy.distinct.append (List.nodup_singleton _) (by simpa using grown.absent tidy)
  used := by
    rw [grown.keys, grown.used]
    intro k member
    rcases List.mem_append.1 member with old | new
    · exact List.mem_append_left _ (tidy.used k old)
    · exact List.mem_append_right _ new
  serials := by
    rw [grown.toList, List.map_append]
    refine tidy.serials.append (List.nodup_singleton _) ?_
    rintro serial old new
    obtain ⟨n', member, rfl⟩ := List.mem_map.1 old
    have below := tidy.counted n' member
    have same : n'.serial = n.serial := by simpa using new
    rw [same, grown.serial] at below
    exact Nat.lt_irrefl _ below
  counted := by
    rw [grown.toList, grown.count]
    intro n' member
    rcases List.mem_append.1 member with old | new
    · exact Nat.lt_succ_of_lt (tidy.counted n' old)
    · rw [List.mem_singleton.1 new, grown.serial]
      exact Nat.lt_succ_self _

theorem Grown.vacant (grown : Grown n g g') (tidy : g.Tidy) : g.get? n.id = none := by
  refine Option.eq_none_iff_forall_ne_some.2 fun m found => ?_
  exact grown.absent tidy ((get?_isSome tidy).1 (Option.isSome_iff_exists.2 ⟨m, found⟩))

/-- Changing the node just added is as good as adding it changed. -/
theorem Grown.modifyNode (grown : Grown n g g') (tidy : g.Tidy) (f : Node → Node)
    (keeps : (f n).id = n.id ∧ (f n).serial = n.serial) :
    Grown (f n) g (g'.modifyNode n.serial f) where
  nodes := by
    have others : g.nodes.map (fun e => (e.1, if e.2.serial = n.serial then f e.2 else e.2)) =
        g.nodes := by
      refine (List.map_congr_left fun e member => ?_).trans (List.map_id _)
      have below := tidy.counted e.2 (List.mem_map_of_mem member)
      have apart : e.2.serial ≠ n.serial := by rw [grown.serial]; omega
      rw [if_neg apart]
      rfl
    rw [(changed_modifyNode g' n.serial f).nodes, grown.nodes, List.map_append, others]
    simp only [List.map_cons, List.map_nil, if_true, keeps.1]
  fresh := keeps.1 ▸ grown.fresh
  used := keeps.1 ▸ grown.used
  serial := keeps.2 ▸ grown.serial
  count := grown.count
  entry := keeps.1 ▸ grown.entry

theorem grown_addFresh (tidy : g.Tidy) {a : Allocator} {id : String}
    (fresh : id ∉ g.allocator.used) (used : a.used = g.allocator.used ++ [id])
    (kind : ActionKind) (hint : Value) (parameters : Table) :
    Grown (g.addFresh a id kind hint parameters).1 g (g.addFresh a id kind hint parameters).2 where
  nodes := Ordered.put_fresh (fun member => fresh (tidy.used _ member)) _
  fresh := fresh
  used := used
  serial := rfl
  count := rfl
  entry := rfl

theorem grown_allocateNode (tidy : g.Tidy) (kind : ActionKind) (hint : String)
    (parameters : Table) :
    Grown (g.allocateNode kind hint parameters).1 g (g.allocateNode kind hint parameters).2 :=
  grown_addFresh tidy (g.allocator.allocate_fresh hint kind.name)
    (g.allocator.used_allocate hint kind.name) kind (.text hint) parameters

/-- What a new node is besides its identifier. -/
theorem newNode_ok (tidy : g.Tidy) {kind : ActionKind} {hint id : Value} {parameters : Table}
    (added : g.newNode kind hint parameters id = .ok (n, g')) :
    Grown n g g' ∧ n.kind = kind ∧ n.parameters = parameters ∧ n.transitions = {} := by
  unfold newNode at added
  split at added
  · obtain ⟨text, _, made⟩ := Results.map_eq_ok.1 added
    have parts := Prod.ext_iff.1 made
    obtain ⟨rfl, rfl⟩ := parts
    exact ⟨grown_allocateNode tidy kind text parameters, rfl, rfl, rfl⟩
  · obtain ⟨⟨name, a⟩, reserved, made⟩ := Results.map_eq_ok.1 added
    have parts := Prod.ext_iff.1 made
    obtain ⟨rfl, rfl⟩ := parts
    obtain ⟨fresh, used⟩ := Allocator.reserveValue_ok reserved
    exact ⟨grown_addFresh tidy fresh used kind hint parameters, rfl, rfl, rfl⟩

theorem tidy_empty (name : String) : Tidy { name } :=
  ⟨by simp, List.nodup_nil, by simp [Graph.keys, Ordered.keys], List.nodup_nil, by simp [Graph.toList]⟩

end Graph

end ContactFlow
