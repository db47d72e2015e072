import ContactFlow.Proofs.Resolution

/-!
What a build takes from the registry. Of all that is registered, a build looks up the references that
occur in its graph and nothing else. What is found under a reference is the last address that was
accepted for it since the registry was cleared; so neither the order of registrations under distinct
references, nor addresses that were recorded before the last one, nor other resources show in a flow.
-/

namespace ContactFlow

/-! ### Values -/

namespace Value

variable {f f' : Reference → Value}

mutual

/-- Replacements that agree on the references of a value make the same of it. -/
theorem mapReferences_congr : ∀ {v : Value}, (∀ ref ∈ v.references, f ref = f' ref) →
    v.mapReferences f = v.mapReferences f'
  | .scalar _, _ | .bundle .., _ | .cycle _, _ => rfl
  | .list _, agree => congrArg Value.list (mapListReferences_congr agree)
  | .table _, agree => congrArg Value.table (mapTableReferences_congr agree)
  | .reference ref, agree => agree ref (List.mem_singleton_self ref)

theorem mapListReferences_congr : ∀ {items : List Value},
    (∀ ref ∈ listReferences items, f ref = f' ref) →
    mapListReferences f items = mapListReferences f' items
  | [], _ => rfl
  | v :: rest, agree => by
    rw [listReferences, List.forall_mem_append] at agree
    exact congrArg₂ List.cons (mapReferences_congr agree.1) (mapListReferences_congr agree.2)

theorem mapTableReferences_congr : ∀ {entries : Table},
    (∀ ref ∈ tableReferences entries, f ref = f' ref) →
    mapTableReferences f entries = mapTableReferences f' entries
  | [], _ => rfl
  | (k, v) :: rest, agree => by
    rw [tableReferences, List.forall_mem_append] at agree
    exact congrArg₂ (fun w entries => (k, w) :: entries) (mapReferences_congr agree.1)
      (mapTableReferences_congr agree.2)

end

end Value

/-! ### Builds -/

/-- The reference occurs among the parameters of a node. -/
def Graph.RefersTo (g : Graph) (ref : Reference) : Prop :=
  ∃ n ∈ g.toList, ref ∈ Value.tableReferences n.parameters

namespace Registry

/-- Both registries have the same to say of every reference in the graph. -/
def Agree (g : Graph) (r r' : Registry) : Prop :=
  ∀ ref, g.RefersTo ref → r.lookup ref = r'.lookup ref

/-- Compiling the graph comes to the same with both registries: the same flow with the same
warnings, or the same error. -/
def SameBuilds (g : Graph) (r r' : Registry) : Prop :=
  ∀ (s : Settings) (p : Pipeline), Compiler.compile ⟨r, s, p⟩ g = Compiler.compile ⟨r', s, p⟩ g

variable {g : Graph} {r r' : Registry} {n : Node} {ref : Reference}

theorem resolveNode_congr (agree : r.Agree g r') (member : n ∈ g.toList) :
    r.resolveNode n = r'.resolveNode n := by
  have parameters : Value.mapTableReferences r.replacement n.parameters =
      Value.mapTableReferences r'.replacement n.parameters := by
    refine Value.mapTableReferences_congr fun ref among => ?_
    rw [replacement, replacement, agree ref ⟨n, member, among⟩]
  rw [resolveNode, resolveNode, parameters]

theorem missingIn_congr (agree : r.Agree g r') (member : n ∈ g.toList) :
    r.missingIn n = r'.missingIn n := by
  have same : (Value.tableReferences n.parameters).filter (fun ref => (r.lookup ref).isNone) =
      (Value.tableReferences n.parameters).filter fun ref => (r'.lookup ref).isNone :=
    List.filter_congr fun ref among => by rw [agree ref ⟨n, member, among⟩]
  rw [missingIn, missingIn, same]

theorem resolve_congr (agree : r.Agree g r') : r.resolve g = r'.resolve g := by
  have nodes : (r.resolvedGraph g).nodes = (r'.resolvedGraph g).nodes :=
    List.map_congr_left fun e among =>
      congrArg (Prod.mk e.1) (resolveNode_congr agree (List.mem_map_of_mem among))
  have graph : r.resolvedGraph g = r'.resolvedGraph g :=
    congrArg (fun nodes => { g with nodes, resolved := true }) nodes
  have missing : g.toList.flatMap r.missingIn = g.toList.flatMap r'.missingIn :=
    List.flatMap_congr fun n member => missingIn_congr agree member
  rw [resolve, resolve, graph, unresolved, unresolved, missing]

/-- The registry plays a part in the resolution only. -/
theorem Agree.sameBuilds (agree : r.Agree g r') : SameBuilds g r r' := by
  intro s p
  have expanded : Compiler.expand ⟨r, s, p⟩ g = Compiler.expand ⟨r', s, p⟩ g := by
    rw [Compiler.expand, Compiler.expand, resolve_congr agree]
  rw [Compiler.compile, Compiler.compile, expanded]

/-! ### Histories -/

inductive Call
  | register (ref : Reference) (address : String)
  | registerMany (kind : ResourceKind) (addresses : List (String × String))
  | clear

/-- What a call is to record, in its order. -/
def Call.entries : Call → List (Reference × String)
  | .register ref address => [(ref, address)]
  | .registerMany kind addresses => addresses.map fun (name, address) => (⟨kind, name⟩, address)
  | .clear => []

/-- The registry after a call, and the error that it ends in, if any. -/
def call (r : Registry) : Call → Registry × Option UsageError
  | .clear => ({}, none)
  | c => r.registerAll c.entries

/-- The registry after a history of calls, each of which may fail. -/
def run (r : Registry) (calls : List Call) : Registry := calls.foldl (fun r c => (r.call c).1) r

/-- A new registry with a history. -/
def after (calls : List Call) : Registry := run {} calls

/-- The name and the address can be registered. -/
def accepts (e : Reference × String) : Bool := e.1.name ≠ "" && !Text.blank e.2

/-- What a call does record: all that comes before the first entry that is refused. -/
def Call.records (c : Call) : List (Reference × String) := c.entries.takeWhile accepts

/-- What is noted down by a call, after what was noted down before. -/
def note (log : List (Reference × String)) : Call → List (Reference × String)
  | .clear => []
  | c => log ++ c.records

/-- Everything recorded since the last time the registry was cleared, the oldest first. -/
def recorded (calls : List Call) : List (Reference × String) := calls.foldl note []

/-! ### The last address -/

theorem register_accepted {ref : Reference} {address : String}
    (accepted : accepts (ref, address) = true) (r : Registry) :
    r.register ref address = .ok ⟨Ordered.put r.addresses ref address⟩ := by
  simp only [accepts, ne_eq, decide_not, Bool.and_eq_true, Bool.not_eq_true',
    decide_eq_false_iff_not] at accepted
  rw [register, if_neg accepted.1, if_neg (by simp [accepted.2])]

theorem register_refused {ref : Reference} {address : String}
    (refused : ¬ accepts (ref, address) = true) (r : Registry) :
    ∃ e, r.register ref address = .error e := by
  rw [register]
  split
  · exact ⟨_, rfl⟩
  · rename_i named
    have blank : Text.blank address = true := by simpa [accepts, named] using refused
    rw [if_pos blank]
    exact ⟨_, rfl⟩

/-- The registered addresses are those of before, with the last of the accepted ones over them. -/
theorem lookup_registerAll (r : Registry) (entries : List (Reference × String)) (ref : Reference) :
    (r.registerAll entries).1.lookup ref =
      ((entries.takeWhile accepts).reverse.lookup ref).or (r.lookup ref) := by
  induction entries generalizing r with
  | nil => rfl
  | cons e rest ih =>
    obtain ⟨x, address⟩ := e
    rw [registerAll]
    by_cases accepted : accepts (x, address) = true
    · rw [register_accepted accepted, List.takeWhile_cons_of_pos accepted, List.reverse_cons,
        List.lookup_append]
      dsimp only
      rw [ih, Option.or_assoc]
      congr 1
      by_cases same : ref = x
      · subst same
        rw [lookup, Ordered.lookup_put_self, List.lookup_cons_self, Option.some_or]
      · rw [lookup, Ordered.lookup_put_other same, Ordered.lookup_cons_other same]
        rfl
    · obtain ⟨e, refused⟩ := register_refused accepted r
      rw [refused, List.takeWhile_cons_of_neg accepted]
      rfl

theorem lookup_call {log : List (Reference × String)} (same : r.lookup ref = log.reverse.lookup ref)
    (c : Call) : (r.call c).1.lookup ref = (note log c).reverse.lookup ref := by
  have noted (entries : List (Reference × String)) : (r.registerAll entries).1.lookup ref =
      (log ++ entries.takeWhile accepts).reverse.lookup ref := by
    rw [lookup_registerAll, same, List.reverse_append, List.lookup_append]
  cases c with
  | register x address => exact noted _
  | registerMany kind addresses => exact noted _
  | clear => rfl

theorem lookup_run {log : List (Reference × String)} (same : r.lookup ref = log.reverse.lookup ref)
    (calls : List Call) : (r.run calls).lookup ref = (calls.foldl note log).reverse.lookup ref := by
  induction calls generalizing r log with
  | nil => exact same
  | cons c rest ih => exact ih (lookup_call same c)

/-- What is found under a reference is the last address that was recorded for it. -/
theorem lookup_after (calls : List Call) (ref : Reference) :
    (after calls).lookup ref = (recorded calls).reverse.lookup ref := by
  have empty : ({} : Registry).lookup ref = ([] : List (Reference × String)).reverse.lookup ref := rfl
  exact lookup_run empty calls

/-! ### Histories that come to the same -/

theorem after_append (calls more : List Call) : after (calls ++ more) = (after calls).run more :=
  List.foldl_append

/-- Later calls make no difference between registries in which the same is found. -/
theorem lookup_run_congr (same : r.lookup ref = r'.lookup ref) (calls : List Call) :
    (r.run calls).lookup ref = (r'.run calls).lookup ref := by
  induction calls generalizing r r' with
  | nil => exact same
  | cons c rest ih =>
    have kept (entries : List (Reference × String)) :
        (r.registerAll entries).1.lookup ref = (r'.registerAll entries).1.lookup ref := by
      rw [lookup_registerAll, lookup_registerAll, same]
    cases c with
    | register x address => exact ih (kept _)
    | registerMany kind addresses => exact ih (kept _)
    | clear => rfl

/-- A call changes nothing for a reference for which it records nothing. -/
theorem lookup_call_other {c : Call} (adds : c ≠ .clear) (other : ∀ e ∈ c.records, e.1 ≠ ref)
    (r : Registry) : (r.call c).1.lookup ref = r.lookup ref := by
  have absent : c.records.reverse.lookup ref = none := by
    rw [List.lookup_eq_none_iff]
    intro e among
    exact bne_iff_ne.2 (other e (List.mem_reverse.1 among)).symm
  have kept : (r.registerAll c.entries).1.lookup ref = r.lookup ref := by
    rw [lookup_registerAll, ← Call.records, absent, Option.none_or]
  cases c with
  | register x address => exact kept
  | registerMany kind addresses => exact kept
  | clear => exact absurd rfl adds

theorem lookup_register_other {x : Reference} (other : x ≠ ref) (address : String) (r : Registry) :
    (r.call (.register x address)).1.lookup ref = r.lookup ref :=
  lookup_call_other (c := .register x address) nofun (fun _ among =>
    List.mem_singleton.1 (List.takeWhile_subset _ among) ▸ other) r

theorem lookup_register_self {address : String} (accepted : accepts (ref, address) = true)
    (r : Registry) : (r.call (.register ref address)).1.lookup ref = some address := by
  have found : (r.registerAll [(ref, address)]).1.lookup ref = some address := by
    rw [lookup_registerAll, List.takeWhile_cons_of_pos accepted]
    exact congrArg (Option.or · (r.lookup ref)) List.lookup_cons_self
  exact found

/-- One registration after the other. -/
def registrations (entries : List (Reference × String)) : List Call :=
  entries.map fun e => .register e.1 e.2

/-- Registrations under distinct references come to the same in any order. -/
theorem lookup_run_perm {entries entries' : List (Reference × String)}
    (permuted : entries.Perm entries') (distinct : (entries.map (·.1)).Nodup) (r : Registry) :
    (r.run (registrations entries)).lookup ref = (r.run (registrations entries')).lookup ref := by
  induction permuted generalizing r with
  | nil => rfl
  | cons e _ ih => exact ih (List.nodup_cons.1 distinct).2 _
  | swap a b rest =>
    have apart : b.1 ≠ a.1 := fun same =>
      (List.nodup_cons.1 distinct).1 (List.mem_cons.2 (.inl same))
    refine lookup_run_congr ?_ (registrations rest)
    by_cases here : b.1 = ref
    · have away : a.1 ≠ ref := here ▸ apart.symm
      rw [lookup_register_other away]
      exact lookup_run_congr (lookup_register_other away a.2 r).symm [.register b.1 b.2]
    · rw [lookup_register_other here]
      exact lookup_run_congr (lookup_register_other here b.2 r) [.register a.1 a.2]
  | trans first _ ih ih' =>
    exact (ih distinct r).trans (ih' ((first.map _).nodup_iff.1 distinct) r)

/-- An address that is replaced later makes no difference. -/
theorem lookup_run_again {x : Reference} {address : String} (accepted : accepts (x, address) = true)
    (r : Registry) (earlier : String) (between : List Call) :
    (r.run (.register x earlier :: (between ++ [.register x address]))).lookup ref =
      (r.run (between ++ [.register x address])).lookup ref := by
  by_cases here : x = ref
  · subst here
    rw [← List.cons_append, run, run, List.foldl_append, List.foldl_append]
    exact (lookup_register_self accepted _).trans (lookup_register_self accepted _).symm
  · exact lookup_run_congr (lookup_register_other here earlier r) _

/-- A build depends on the addresses of the references in its graph only, and these are the last
ones that were recorded. So it is the same whatever the order in which distinct references were
registered, whatever was registered under a reference before, and whatever calls there were, failed
ones included, that recorded nothing for the references of the graph. -/
theorem build_depends_on_last_addresses (g : Graph) :
    (∀ r r', Agree g r r' → SameBuilds g r r') ∧
    (∀ calls ref, (after calls).lookup ref = (recorded calls).reverse.lookup ref) ∧
    (∀ before later entries entries', entries.Perm entries' → (entries.map (·.1)).Nodup →
      SameBuilds g (after (before ++ registrations entries ++ later))
        (after (before ++ registrations entries' ++ later))) ∧
    (∀ before between later ref earlier address, accepts (ref, address) = true →
      SameBuilds g
        (after (before ++ .register ref earlier :: (between ++ [.register ref address]) ++ later))
        (after (before ++ (between ++ [.register ref address]) ++ later))) ∧
    ∀ before later c, c ≠ .clear → (∀ e ∈ c.records, ¬ g.RefersTo e.1) →
      SameBuilds g (after (before ++ [c] ++ later)) (after (before ++ later)) := by
  have middle {before later calls calls' : List Call}
      (same : ∀ ref, g.RefersTo ref →
        ((after before).run calls).lookup ref = ((after before).run calls').lookup ref) :
      SameBuilds g (after (before ++ calls ++ later)) (after (before ++ calls' ++ later)) := by
    refine Agree.sameBuilds fun ref referred => ?_
    rw [after_append, after_append, after_append, after_append]
    exact lookup_run_congr (same ref referred) later
  refine ⟨fun _ _ => Agree.sameBuilds, lookup_after, ?_, ?_, ?_⟩
  · intro before later entries entries' permuted distinct
    exact middle fun ref _ => lookup_run_perm permuted distinct _
  · intro before between later ref earlier address accepted
    exact middle fun _ _ => lookup_run_again accepted _ earlier between
  · intro before later c adds apart
    have dropped : SameBuilds g (after (before ++ [c] ++ later)) (after (before ++ [] ++ later)) :=
      middle fun ref referred => lookup_call_other adds
        (fun e among same => apart e among (same ▸ referred)) _
    rwa [List.append_nil] at dropped

/-- Two histories of a registry for the flow that offers two queues. The longer one has an address
that is replaced, another resource, and a call that fails half-way. -/
theorem offers_depend_on_last_addresses :
    let day : Reference := ⟨.queue, "day"⟩
    let night : Reference := ⟨.queue, "night"⟩
    let short : List Call := [.register day "arn:day", .register night "arn:night"]
    let long : List Call :=
      [.register night "arn:old", .register ⟨.flow, "Main"⟩ "arn:main", .register night "arn:night",
        .registerMany .queue [("day", "arn:day"), ("noon", " "), ("night", "arn:lost")]]
    (Compiler.compile ⟨after short, {}, Pipeline.configured {}⟩
      Graph.offers).isOk = true ∧
      SameBuilds Graph.offers (after short) (after long) ∧
      SameBuilds Graph.offers (after short)
        (after [.register night "arn:night", .register day "arn:day"]) ∧
      SameBuilds Graph.offers (after (.register day "arn:old" :: short)) (after short) ∧
      SameBuilds Graph.offers (after (.register ⟨.queue, "noon"⟩ "arn:noon" :: short))
        (after short) := by
  intro day night short long
  obtain ⟨agreeing, -, ordered, again, apart⟩ := build_depends_on_last_addresses Graph.offers
  have referred : ∀ n ∈ Graph.offers.toList, ∀ ref ∈ Value.tableReferences n.parameters,
      ref = day ∨ ref = night := by decide
  have agree : Agree Graph.offers (after short) (after long) := by
    rintro ref ⟨n, member, among⟩
    rcases referred n member ref among with rfl | rfl
    · decide +kernel
    · decide +kernel
  have succeeds : (Compiler.compile ⟨after short, {}, Pipeline.configured {}⟩
      Graph.offers).isOk = true := by decide +kernel
  refine ⟨succeeds, agreeing _ _ agree, ?_, ?_, ?_⟩
  · exact ordered [] [] [(day, "arn:day"), (night, "arn:night")]
      [(night, "arn:night"), (day, "arn:day")] (.swap _ _ _) (by decide)
  · exact again [] [] [.register night "arn:night"] day "arn:old" "arn:day" (by decide +kernel)
  · refine apart [] short (.register ⟨.queue, "noon"⟩ "arn:noon") nofun fun e among => ?_
    rintro ⟨n, member, inside⟩
    have noon : e = (⟨.queue, "noon"⟩, "arn:noon") := List.mem_singleton.1 among
    rcases referred n member _ inside with same | same
    · cases noon
      exact absurd same (by decide)
    · cases noon
      exact absurd same (by decide)

end Registry

end ContactFlow
