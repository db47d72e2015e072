import ContactFlow.Proofs.Results
import ContactFlow.Proofs.Tidy
import ContactFlow.Validation.Check
import Mathlib.Data.List.Perm.Subperm

/-!
The walk through a graph. It comes to exactly the keys that can be reached from the entry along the
edges of the graph: each step of it takes one key off the queue and every key is queued once, so
there are steps enough to empty the queue. Nothing is asked of the graph. It may have cycles, targets
or an entry that are no keys of it, and nodes under keys not their own.
-/

namespace ContactFlow

namespace Graph

/-- What can be reached from the entry of a graph along its edges. -/
inductive Reachable (g : Graph) : String → Prop
  | entry {id : String} (starts : g.entry = some id) : Reachable g id
  | edge {id target : String} {n : Node} (before : Reachable g id) (found : g.get? id = some n)
      (leads : target ∈ n.transitions.targets) : Reachable g target

/-- How far a walk has come: which keys it has seen, and which of them it has still to leave. -/
structure Walking (g : Graph) (seen queue : List String) : Prop where
  distinct : seen.Nodup
  inside : seen ⊆ g.keys
  waiting : queue ⊆ seen
  reached : ∀ id ∈ seen, g.Reachable id
  left : ∀ id ∈ seen, id ∉ queue → ∀ target ∈ g.successors id, target ∈ seen

/-- What comes into sight when a key is left. -/
def news (g : Graph) (seen : List String) (key : String) : List String :=
  (Ordered.distinct (g.successors key)).filter fun t => !seen.contains t

/-- The runs of the walk's loop that end, with what they have seen. Each round takes the first key
off the queue, and the last one leaves the queue empty; there is no bound on the rounds. -/
inductive Drains (g : Graph) : List String → List String → List String → Prop
  | done (seen : List String) : Drains g seen [] seen
  | leave {seen queue last : List String} {key : String}
      (rest : Drains g (seen ++ g.news seen key) (queue ++ g.news seen key) last) :
      Drains g seen (key :: queue) last

variable {g : Graph} {id target : String} {seen queue last : List String}

theorem isKey_iff : g.isKey id = true ↔ id ∈ g.keys := Ordered.contains_iff

theorem key_of_found {n : Node} (found : g.get? id = some n) : id ∈ g.keys :=
  Ordered.lookup_isSome.1 (Option.isSome_iff_exists.2 ⟨n, found⟩)

theorem mem_successors : target ∈ g.successors id ↔
    ∃ n, g.get? id = some n ∧ target ∈ n.transitions.targets ∧ target ∈ g.keys := by
  unfold successors
  cases g.get? id with
  | none => simp
  | some n => simp [isKey_iff]

theorem mem_news : target ∈ g.news seen id ↔ target ∈ g.successors id ∧ target ∉ seen := by
  rw [news, List.mem_filter, Ordered.mem_distinct]
  simp

theorem Drains.unique {other : List String} (one : g.Drains seen queue last)
    (two : g.Drains seen queue other) : other = last := by
  induction one with
  | done =>
    cases two
    rfl
  | leave _ ih =>
    cases two with
    | leave rest => exact ih rest

namespace Walking

/-- A walk starts at the entry. -/
theorem start (starts : g.entry = some id) (key : id ∈ g.keys) : g.Walking [id] [id] where
  distinct := List.nodup_singleton id
  inside := by simpa using key
  waiting := List.Subset.refl _
  reached := by
    intro other here
    rw [List.mem_singleton.1 here]
    exact .entry starts
  left := fun _ here missing => absurd here missing

/-- A key that is left brings its successors into sight. -/
theorem leave (walking : g.Walking seen (id :: queue)) :
    g.Walking (seen ++ g.news seen id) (queue ++ g.news seen id) where
  distinct := walking.distinct.append ((Ordered.nodup_distinct _).filter _)
    fun target old new => (mem_news.1 new).2 old
  inside := by
    intro target member
    rcases List.mem_append.1 member with old | new
    · exact walking.inside old
    · obtain ⟨_, _, _, key⟩ := mem_successors.1 (mem_news.1 new).1
      exact key
  waiting := by
    intro target member
    rcases List.mem_append.1 member with old | new
    · exact List.mem_append_left _ (walking.waiting (List.mem_cons_of_mem _ old))
    · exact List.mem_append_right _ new
  reached := by
    intro target member
    rcases List.mem_append.1 member with old | new
    · exact walking.reached target old
    · obtain ⟨n, found, leads, _⟩ := mem_successors.1 (mem_news.1 new).1
      exact .edge (walking.reached id (walking.waiting List.mem_cons_self)) found leads
  left := by
    intro other member gone target leads
    rw [List.mem_append, not_or] at gone
    have old : other ∈ seen := (List.mem_append.1 member).resolve_right gone.2
    -- the key that is left now brings its successors; those left before had theirs in sight
    by_cases known : target ∈ seen
    · exact List.mem_append_left _ known
    · by_cases here : other = id
      · rw [here] at leads
        exact List.mem_append_right _ (mem_news.2 ⟨leads, known⟩)
      · have away : other ∉ id :: queue := by
          rw [List.mem_cons, not_or]
          exact ⟨here, gone.1⟩
        exact absurd (walking.left other old away target leads) known

theorem length_le (walking : g.Walking seen queue) : seen.length ≤ g.size := by
  have below := (List.subperm_of_subset walking.distinct walking.inside).length_le
  simpa [keys, Ordered.keys, size] using below

/-- With steps for every key that is queued or not seen yet, the walk ends with an empty queue. -/
theorem drains {fuel : Nat} (walking : g.Walking seen queue)
    (enough : queue.length + g.size ≤ fuel + seen.length) :
    g.Drains seen queue (g.walkFrom fuel seen queue) := by
  induction fuel generalizing seen queue with
  | zero =>
    -- all keys are seen, so none can be queued
    have bound := walking.length_le
    have empty : queue = [] := List.length_eq_zero_iff.1 (by omega)
    rw [empty]
    exact .done seen
  | succ fuel ih =>
    cases queue with
    | nil => exact .done seen
    | cons key queue =>
      refine .leave (ih walking.leave ?_)
      rw [List.length_cons] at enough
      rw [List.length_append, List.length_append]
      omega

/-- What the loop keeps to, it ends with. -/
theorem drained (walking : g.Walking seen queue) (ended : g.Drains seen queue last) :
    g.Walking last [] := by
  induction ended with
  | done => exact walking
  | leave _ ih => exact ih walking.leave

/-- A walk that has left all it has seen has come to every key that can be reached. -/
theorem complete (walking : g.Walking seen []) (starts : g.entry = some id) (first : id ∈ seen)
    (key : target ∈ g.keys) (reachable : g.Reachable target) : target ∈ seen := by
  induction reachable with
  | entry here =>
    rw [starts] at here
    exact Option.some.inj here ▸ first
  | @edge before target n _ found leads ih =>
    exact walking.left before (ih (key_of_found found)) List.not_mem_nil target
      (mem_successors.2 ⟨n, found, leads, key⟩)

end Walking

theorem walk_drains (starts : g.entry = some id) (key : id ∈ g.keys) :
    g.Drains [id] [id] g.walk := by
  have begun : g.walk = g.walkFrom g.size [id] [id] := by
    rw [walk, starts]
    exact if_pos (isKey_iff.2 key)
  rw [begun]
  exact (Walking.start starts key).drains (by simp [Nat.add_comm])

theorem walking_walk (starts : g.entry = some id) (key : id ∈ g.keys) :
    g.Walking g.walk [] := (Walking.start starts key).drained (walk_drains starts key)

theorem walk_of_no_entry (missing : ∀ id ∈ g.keys, g.entry ≠ some id) : g.walk = [] := by
  unfold walk
  cases starts : g.entry with
  | none => rfl
  | some id => exact if_neg fun key => missing id (isKey_iff.1 key) starts

theorem mem_walkFrom (fuel : Nat) (there : id ∈ seen) : id ∈ g.walkFrom fuel seen queue := by
  induction fuel generalizing seen queue with
  | zero => exact there
  | succ fuel ih =>
    cases queue with
    | nil => exact there
    | cons key queue => exact ih (List.mem_append_left _ there)

theorem mem_walk_entry (starts : g.entry = some id) (key : id ∈ g.keys) : id ∈ g.walk := by
  rw [walk, starts]
  simp only [if_pos (isKey_iff.2 key)]
  exact mem_walkFrom g.size (List.mem_singleton_self id)

/-- Where the entry is no key of the graph, no key can be reached. -/
theorem Reachable.has_entry (reachable : g.Reachable id) (key : id ∈ g.keys) :
    ∃ first ∈ g.keys, g.entry = some first := by
  induction reachable with
  | entry starts => exact ⟨_, key, starts⟩
  | edge _ found _ ih => exact ih (key_of_found found)

/-- The walk comes to the keys that can be reached. -/
theorem mem_walk : id ∈ g.walk ↔ id ∈ g.keys ∧ g.Reachable id := by
  constructor
  · intro member
    by_cases started : ∃ first ∈ g.keys, g.entry = some first
    · obtain ⟨first, key, starts⟩ := started
      have walking := walking_walk starts key
      exact ⟨walking.inside member, walking.reached id member⟩
    · rw [walk_of_no_entry fun first key starts => started ⟨first, key, starts⟩] at member
      cases member
  · rintro ⟨key, reachable⟩
    obtain ⟨first, inside, starts⟩ := reachable.has_entry key
    exact (walking_walk starts inside).complete starts (mem_walk_entry starts inside) key reachable

theorem nodup_walk (g : Graph) : g.walk.Nodup := by
  by_cases started : ∃ first ∈ g.keys, g.entry = some first
  · obtain ⟨first, key, starts⟩ := started
    exact (walking_walk starts key).distinct
  · rw [walk_of_no_entry fun first key starts => started ⟨first, key, starts⟩]
    exact List.nodup_nil

/-- What is reached inside a graph that has its entry and all its targets is a key. -/
theorem Reachable.key (starts : g.entry = some id) (first : id ∈ g.keys)
    (linked : ∀ n ∈ g.toList, ∀ target ∈ n.transitions.targets, target ∈ g.keys)
    (reachable : g.Reachable target) : target ∈ g.keys := by
  cases reachable with
  | entry here =>
    rw [starts] at here
    exact Option.some.inj here ▸ first
  | edge _ found leads =>
    exact linked _ (List.mem_map_of_mem (Ordered.mem_of_lookup found)) _ leads

theorem mem_walk_iff (starts : g.entry = some id) (key : id ∈ g.keys)
    (linked : ∀ n ∈ g.toList, ∀ target ∈ n.transitions.targets, target ∈ g.keys) :
    target ∈ g.walk ↔ g.Reachable target :=
  mem_walk.trans (and_iff_right_of_imp fun reachable => reachable.key starts key linked)

end Graph

end ContactFlow
