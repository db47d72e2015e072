import ContactFlow.Proofs.Closed
import ContactFlow.Proofs.Conditions
import ContactFlow.Proofs.Rolls

/-!
Splits by percent. Whatever else is called on a flow, a split grants percents as long as they fit into
a hundred, refuses the others without a trace, and has a condition for each percent that it granted, in
their order. So of a hundred rolls each branch gets its share, and the rest meets no condition.
-/

namespace ContactFlow

open Split (grant granted bounds below bucketKey)

namespace BranchSet

variable {s : BranchSet} {given : Int}

theorem withBucket_int (given p : Int) : withBucket (.int given) (.int p) =
    if 1 ≤ p ∧ p + given ≤ 100 then .ok (.int (given + p))
    else .error (.bucketOverflow (.int p) (.int (100 + -given))) := by
  have read : withBucket (.int given) (.int p) =
      if decide (p < 1) || decide (100 < given + p) then
        .error (.bucketOverflow (.int p) (.int (100 + -given)))
      else .ok (.int (given + p)) := rfl
  rw [read]
  by_cases free : 1 ≤ p ∧ p + given ≤ 100
  · rw [if_pos free, if_neg (by simp; omega)]
  · rw [if_neg free, if_pos (by simp; omega)]

/-- The set of a split that has given out so many percents. -/
def sharing (s : BranchSet) (total : Int) : BranchSet := { s with offer := .percent (.int total) }

theorem opening_bucket (offered : s.offer = .percent (.int given)) (p : Int) :
    s.opening (.bucket (.int p)) =
      if 1 ≤ p ∧ p + given ≤ 100 then
        .ok (.condition (below (given + p)) (bucketKey (given + p)),
          s.sharing (given + p))
      else .error (.bucketOverflow (.int p) (.int (100 + -given))) := by
  unfold opening
  rw [offered]
  simp only [openBucket, withBucket_int]
  split <;> rfl

/-- Two bounds are written in the same way only if they are the same. -/
theorem isTaken_bucketKey {bound : Int} {others : List Int} (taken : s.taken = others.map bucketKey)
    (low : ∀ other ∈ others, 0 ≤ other) (new : ∀ other ∈ others, other < bound) :
    s.isTaken (bucketKey bound) = false := by
  rw [isTaken, taken, List.any_map, List.any_eq_false]
  intro other among same
  simp only [Function.comp_apply, bucketKey, sameKeys, Scalar.sameKey_text, Bool.and_true,
    Bool.and_eq_true, beq_iff_eq, true_and] at same
  have above := new other among
  have written := Split.eq_of_toString (by have := low other among; omega) (low other among) same
  omega

end BranchSet

namespace Builder

open BuildM

variable {w : Workspace} {i : Nat} {branch : Branch}

theorem openBranch_refused {e : UsageError} (refused : (w.branches i).opening branch = .error e) :
    openBranch i branch w = (.error e, w) := by
  unfold openBranch
  rw [bind_apply, read_apply]
  simp only [bind_apply, ofExcept_apply, refused]

theorem openBranch_condition (known : i < w.sets.size) {guard : Guard} {key : List Scalar}
    {set : BranchSet} (opened : (w.branches i).opening branch = .ok (.condition guard key, set))
    (free : set.isTaken key = false) : openBranch i branch w =
      (.ok ⟨w.builders.size, "branch " ++ Text.parenthesized (key.map Scalar.inner)⟩,
        (w.setBranches i (set.take [key])).withCondition set.node.serial guard set.join) := by
  have required : set.requireFree key = .ok () := by
    rw [BranchSet.requireFree, free]
    rfl
  unfold openBranch
  rw [bind_apply, read_apply]
  simp only [bind_apply, ofExcept_apply, change_apply, opened, openCondition, read_apply,
    Workspace.branches_setBranches known, required]
  rw [← Workspace.setBranches_twice w i set (set.take [key])]
  rfl

section Filled

variable {ε : Type} (lift : UsageError → ε) (handler : Nat → BuildM ε Unit)

theorem branch_refused {e : UsageError} (refused : openBranch i branch w = (.error e, w)) :
    Builder.branch lift i branch handler w = (.error (lift e), w) := by
  unfold Builder.branch fill
  rw [bind_apply, mapError_apply, refused]
  rfl

theorem branch_filled {o : OpenBranch} {w' w'' : Workspace}
    (opened : openBranch i branch w = (.ok o, w'))
    (filled : handler o.builder w' = (.ok (), w''))
    (used : (w''.builder o.builder).isEmpty = false) :
    Builder.branch lift i branch handler w = (.ok (), w'') := by
  have closed : closeBranch o w'' = (.ok (), w'') := by
    unfold closeBranch
    rw [bind_apply, read_apply]
    simp only [used]
    rfl
  unfold Builder.branch fill
  rw [bind_apply, mapError_apply, opened]
  simp only [Except.mapError, bind_apply, filled, mapError_apply, closed]

end Filled

end Builder

namespace Workspace

variable {w w' w'' : Workspace} {loops loops' : List OpenLoop} {i b : Nat}

/-! ### What leaves a set alone -/

/-- A set of branches is as it was, and so are the kind and the conditions of its node. -/
structure Spares (i : Nat) (w w' : Workspace) : Prop where
  sets : w.sets.size ≤ w'.sets.size
  set : w'.branches i = w.branches i
  node : ∀ m ∈ w'.graph.toList, m.serial = (w.branches i).node.serial →
    ∃ n ∈ w.graph.toList, n.serial = m.serial ∧ m.kind = n.kind ∧
      m.transitions.guards = n.transitions.guards

theorem Spares.refl (i : Nat) (w : Workspace) : Spares i w w :=
  ⟨Nat.le_refl _, rfl, fun n member _ => ⟨n, member, rfl, rfl, rfl⟩⟩

theorem Spares.trans (first : Spares i w w') (second : Spares i w' w'') : Spares i w w'' where
  sets := Nat.le_trans first.sets second.sets
  set := second.set.trans first.set
  node := by
    intro m member here
    obtain ⟨n, inside, serial, kind, guards⟩ := second.node m member (first.set ▸ here)
    obtain ⟨k, before, serial', kind', guards'⟩ := first.node n inside (serial.trans here)
    exact ⟨k, before, serial'.trans serial, kind.trans kind', guards.trans guards'⟩

theorem spares_regards (regards : w.graph.Regards w'.graph) (sets : w'.sets = w.sets) :
    Spares i w w' := by
  obtain ⟨f, changed, same⟩ := regards
  refine ⟨Nat.le_of_eq (congrArg Array.size sets).symm, by rw [branches, branches, sets], ?_⟩
  intro m member _
  obtain ⟨n, inside, rfl⟩ := List.mem_map.1 (changed.toList ▸ member)
  exact ⟨n, inside, (same n).serial.symm, (same n).kind, (same n).guards⟩

theorem spares_link (w : Workspace) (r : Joins Slot × List (Slot × String)) :
    Spares i w (w.link r) :=
  spares_regards (w.relinked_link r).graph.regards (w.relinked_link r).sets

theorem spares_addCondition {node : Nat} (other : (w.branches i).node.serial ≠ node) (guard : Guard) :
    Spares i w (w.addCondition node guard).2 := by
  refine ⟨Nat.le_refl _, rfl, fun m member here => ?_⟩
  rw [(changed_addCondition w node guard).toList] at member
  obtain ⟨n, inside, rfl⟩ := List.mem_map.1 member
  split at here
  · rename_i elsewhere
    exact absurd (here.symm.trans elsewhere) other
  · rename_i elsewhere
    rw [if_neg elsewhere]
    exact ⟨n, inside, rfl, rfl, rfl⟩

theorem spares_addError (w : Workspace) (node : Nat) (kind : ErrorKind) :
    Spares i w (w.addError node kind).2 := by
  refine spares_regards ⟨_, w.changed_addError node kind, fun n => ?_⟩ rfl
  split
  · exact Node.regards_plusError kind n
  · exact .refl n

/-- A workspace that differs in its builders and join points only. -/
theorem Spares.congr (spares : Spares i w w') (graph : w''.graph = w'.graph)
    (sets : w''.sets = w'.sets) : Spares i w w'' :=
  spares.trans (spares_regards (graph ▸ (Graph.Relinked.refl _).regards) sets)

theorem spares_openError (w : Workspace) (node : Handle) (join : Option Nat) (kind : ErrorKind) :
    Spares i w (Builder.openError node join kind w).2 := by
  rcases Builder.openError_apply node join kind w with ⟨e, failed⟩ | ⟨_, done⟩
  · rw [failed]
    exact .refl i w
  · rw [done]
    exact (spares_addError w node.serial kind).congr rfl rfl

theorem spares_append (orderly : w.Orderly) (known : i < w.sets.size) (a : Action) (label id : Value) :
    Spares i w (Builder.append b a label id w).2 := by
  rcases Builder.append_apply b a label id w with ⟨e, failed⟩ | ⟨d, n, g, _, _, made, done⟩
  · rw [failed]
    exact .refl i w
  · rw [done]
    obtain ⟨⟨g', grown, relinked⟩, _, sets⟩ := placeNew_spec (b := b) orderly.tidy made
    obtain ⟨k, owned, serial, _⟩ := orderly.owned i _ (branches_found known)
    have added : Spares i w { w with graph := g' } := by
      refine ⟨Nat.le_refl _, rfl, fun m member here => ?_⟩
      rw [grown.toList] at member
      rcases List.mem_append.1 member with before | last
      · exact ⟨m, before, rfl, rfl, rfl⟩
      · -- the serial number of a new node is none of the set's
        have below := orderly.tidy.counted k owned
        rw [List.mem_singleton.1 last, grown.serial] at here
        omega
    exact added.trans (spares_regards relinked.regards sets)

theorem spares_appendBranching (orderly : w.Orderly) (known : i < w.sets.size) (a : Action)
    (label id : Value) : Spares i w (Builder.appendBranching b a label id w).2 := by
  have spares := spares_append (b := b) orderly known a label id
  rw [Builder.appendBranching_apply]
  cases appended : Builder.append b a label id w with
  | mk result w' =>
    rw [appended] at spares
    cases result with
    | error e => exact spares
    | ok node =>
      have before : i < w'.sets.size := Nat.lt_of_lt_of_le known spares.sets
      refine spares.trans ⟨?_, ?_, fun n member _ => ⟨n, member, rfl, rfl, rfl⟩⟩
      · simp
      · simp [branches, Array.getElem?_push, Nat.ne_of_lt before]

theorem spares_jumpTo (w : Workspace) (b : Nat) (target : Value) :
    Spares i w (Builder.jumpTo b target w).2 := by
  rcases Builder.jumpTo_apply b target w with ⟨e, failed⟩ | ⟨_, done⟩
  · rw [failed]
    exact .refl i w
  · rw [done]
    exact (spares_link w _).congr rfl rfl

theorem spares_continued (w : Workspace) (b join : Nat) : Spares i w (w.continued b join) :=
  (spares_link w _).congr rfl rfl

theorem spares_thenContinue (w : Workspace) (b : Nat) :
    Spares i w (Builder.thenContinue b w).2 := by
  rcases Builder.thenContinue_apply b w with ⟨e, failed⟩ | ⟨join, _, _, done⟩
  · rw [failed]
    exact .refl i w
  · rw [done]
    exact spares_continued w b join

theorem spares_run (orderly : w.Orderly) (known : i < w.sets.size) (c : Extension) :
    Spares i w (c.run b w).2 := by
  cases c with
  | append a label id => exact spares_append orderly known a label id
  | appendBranching a label id => exact spares_appendBranching orderly known a label id
  | jumpTo target => exact spares_jumpTo w b target
  | thenContinue => exact spares_thenContinue w b

theorem spares_openHandler (w : Workspace) (b : Nat) (name : ErrorName) :
    Spares i w (Builder.openHandler b name w).2 := by
  rcases Builder.openHandler_apply b name w with ⟨e, failed⟩ | ⟨node, kind, _, _, done⟩
  · rw [failed]
    exact .refl i w
  · rw [done]
    exact spares_openError w node _ kind

theorem branches_setBranches_other {j : Nat} (other : j ≠ i) (w : Workspace) (s : BranchSet) :
    (w.setBranches j s).branches i = w.branches i := by
  simp [branches, setBranches, other]

/-- Other sets have other nodes. -/
theorem spares_openBranch_other (orderly : w.Orderly) (known : i < w.sets.size) {j : Nat}
    (there : j < w.sets.size) (other : j ≠ i) (branch : Branch) :
    Spares i w (Builder.openBranch j branch w).2 := by
  have elsewhere : (w.branches i).node.serial ≠ (w.branches j).node.serial := fun same =>
    other (orderly.single i j _ _ (branches_found known) (branches_found there) same).symm
  have set (s : BranchSet) : Spares i w (w.setBranches j s) :=
    ⟨by simp [setBranches], branches_setBranches_other other w s,
      fun n member _ => ⟨n, member, rfl, rfl, rfl⟩⟩
  rcases Builder.openBranch_apply j branch w with ⟨e, failed⟩ | ⟨opening, s, opened, done⟩
  · rw [failed]
    exact .refl i w
  · rw [done]
    have opens := BranchSet.opens_opening (w.branches j) branch _ opened
    cases opening with
    | error kind => exact (set s).trans (spares_openError _ _ _ kind)
    | condition guard key =>
      have node : s.node = (w.branches j).node := BranchSet.Lets.node opens
      simp only
      rcases Builder.openCondition_apply j guard key (w.setBranches j s) with
        ⟨e, failed⟩ | ⟨_, done⟩
      · rw [failed]
        exact set s
      · rw [branches_setBranches there, setBranches_twice] at done
        rw [done]
        refine (set (s.take [key])).trans ((spares_addCondition ?_ guard).congr rfl rfl)
        rw [branches_setBranches_other other, node]
        exact elsewhere

/-- What a split offers besides its buckets are errors. -/
theorem spares_openBranch_error (known : i < w.sets.size) {given : Scalar}
    (offered : (w.branches i).offer = .percent given) {branch : Branch}
    (other : ∀ v, branch ≠ .bucket v) : Spares i w (Builder.openBranch i branch w).2 := by
  have same : Spares i w (w.setBranches i (w.branches i)) :=
    ⟨by simp [setBranches], branches_setBranches known _,
      fun n member _ => ⟨n, member, rfl, rfl, rfl⟩⟩
  rcases Builder.openBranch_apply i branch w with ⟨e, failed⟩ | ⟨opening, set, opened, done⟩
  · rw [failed]
    exact .refl i w
  · rw [done]
    cases BranchSet.opened_of_opening (w.branches i) branch _ opened with
    | error => exact same.trans (spares_openError ..)
    | fixed fixes =>
      rw [offered] at fixes
      cases fixes
    | bucket => exact absurd rfl (other _)
    | digits input => cases offered.symm.trans input
    | intent input => cases offered.symm.trans input
    | input input => cases offered.symm.trans input
    | compare comparison => cases offered.symm.trans comparison

/-- The body of a loop is opened on a node that no set has. -/
theorem spares_openLoop (orderly : w.Orderly) (known : i < w.sets.size) {times label id : Value}
    {node : Handle} {o : OpenBranch}
    (opened : Builder.openLoop b times label id w = (.ok (node, o), w')) : Spares i w w' := by
  obtain ⟨w₁, appended, _, rfl⟩ := Builder.openLoop_ok opened
  have first : Spares i w w₁ := by
    have spares := spares_append (b := b) orderly known (.loop times) label id
    rwa [appended] at spares
  obtain ⟨_, unowned⟩ := append_node orderly appended
  have elsewhere := unowned i _ (branches_found (Nat.lt_of_lt_of_le known first.sets))
  let w₂ := (w₁.freshJoin []).2.resolve w₁.joins.size node.id
  have second : Spares i w₁ w₂ :=
    (spares_regards (Graph.Relinked.refl _).regards rfl :
      Spares i w₁ (w₁.freshJoin []).2).trans (spares_link _ _)
  have other : (w₂.branches i).node.serial ≠ node.serial := second.set ▸ elsewhere
  exact first.trans (second.trans ((spares_addCondition other _).congr rfl rfl))

theorem spares_withExit {serial : Nat} (other : (w.branches i).node.serial ≠ serial) (b : Nat) :
    Spares i w (w.withExit b serial) := (spares_addCondition other _).congr rfl rfl

theorem spares_closeLoop {l : OpenLoop} (other : (w.branches i).node.serial ≠ l.node.serial) :
    Spares i w (Builder.closeLoop l.builder l.node l.body w).2 := by
  rcases Builder.closeLoop_apply l.builder l.node l.body w with
    ⟨e, failed⟩ | ⟨_, done⟩ | ⟨join, _, _, done⟩
  · rw [failed]
    exact .refl i w
  · rw [done]
    exact spares_withExit other l.builder
  · rw [done]
    have returned := spares_continued (i := i) w l.body.builder join
    exact returned.trans (spares_withExit (returned.set ▸ other) l.builder)

/-! ### Calls on a split and besides it -/

/-- A call that asks no percent of a split. -/
inductive Besides (i : Nat) (w : Workspace) (loops : List OpenLoop) :
    Workspace → List OpenLoop → Prop
  | extend {b : Nat} (known : b < w.builders.size) (c : Extension) :
      Besides i w loops (c.run b w).2 loops
  | openBranch {j : Nat} (known : j < w.sets.size) {branch : Branch}
      (other : j = i → ∀ v, branch ≠ .bucket v) :
      Besides i w loops (Builder.openBranch j branch w).2 loops
  | openHandler {b : Nat} (known : b < w.builders.size) (name : ErrorName) :
      Besides i w loops (Builder.openHandler b name w).2 loops
  | openLoop {w' : Workspace} {b : Nat} (known : b < w.builders.size) {times label id : Value}
      {node : Handle} {o : OpenBranch}
      (opened : Builder.openLoop b times label id w = (.ok (node, o), w')) :
      Besides i w loops w' (⟨b, node, o, false⟩ :: loops)
  | closeLoop {l : OpenLoop} (among : l ∈ loops) :
      Besides i w loops (Builder.closeLoop l.builder l.node l.body w).2 (loops.erase l)

theorem Besides.call (besides : Besides i w loops w' loops') : Call w loops w' loops' := by
  cases besides with
  | extend known c => exact .extend known c
  | openBranch known _ => exact .openBranch known _
  | openHandler known name => exact .openHandler known name
  | openLoop known opened => exact .openLoop known opened
  | closeLoop among => exact .closeLoop among

/-- The flows that come of a split by calls, with the percents that were asked of it, in their order.
Other calls come in between, whether the handlers of its branches make them or anyone else. -/
inductive Splits (i : Nat) : Workspace → List OpenLoop → List Int → Prop
  | opened {w w' : Workspace} {loops : List OpenLoop} {jumps : List String}
      (calls : Calls w loops jumps) {b : Nat} (known : b < w.builders.size) {label id : Value}
      (made : Builder.appendBranching b .splitPercent label id w = (.ok i, w')) :
      Splits i w' loops []
  | bucket {w : Workspace} {loops : List OpenLoop} {asked : List Int}
      (splits : Splits i w loops asked) (p : Int) :
      Splits i (Builder.openBranch i (.bucket (.int p)) w).2 loops (asked ++ [p])
  | besides {w w' : Workspace} {loops loops' : List OpenLoop} {asked : List Int}
      (splits : Splits i w loops asked) (call : Besides i w loops w' loops') :
      Splits i w' loops' asked

/-- What a split has when percents were granted. -/
structure Shared (i : Nat) (ps : List Int) (w : Workspace) : Prop where
  known : i < w.sets.size
  fit : Split.Fit ps
  offer : (w.branches i).offer = .percent (.int ps.sum)
  taken : (w.branches i).taken = (bounds 0 ps).map bucketKey
  node : ∀ n ∈ w.graph.toList, n.serial = (w.branches i).node.serial →
    n.kind = .branch ∧ n.transitions.guards = (bounds 0 ps).map below

variable {ps asked : List Int}

theorem Shared.spares (shared : w.Shared i ps) (spares : Spares i w w') : w'.Shared i ps where
  known := Nat.lt_of_lt_of_le shared.known spares.sets
  fit := shared.fit
  offer := spares.set ▸ shared.offer
  taken := spares.set ▸ shared.taken
  node := by
    intro m member here
    rw [spares.set] at here
    obtain ⟨n, inside, serial, kind, guards⟩ := spares.node m member here
    rw [kind, guards]
    exact shared.node n inside (serial.trans here)

theorem shared_opened (orderly : w.Orderly) {label id : Value}
    (made : Builder.appendBranching b .splitPercent label id w = (.ok i, w')) : w'.Shared i [] := by
  have tidy := (orderly.appendBranching b .splitPercent label id).tidy
  rw [made] at tidy
  obtain ⟨node, w₁, appended, rfl, rfl⟩ := Builder.appendBranching_ok made
  obtain ⟨⟨n, member, serial, _, kind, bare⟩, _⟩ := append_node orderly appended
  refine ⟨by simp, ⟨nofun, by decide⟩, by simp [branches, Action.offer], by simp [branches, bounds],
    fun m inside here => ?_⟩
  have here : m.serial = node.serial := by simpa [branches] using here
  obtain rfl := Graph.eq_of_serial tidy inside member (here.trans serial.symm)
  exact ⟨kind, bare⟩

/-- A percent that fits in opens a branch, with a condition for the rolls below its bound. -/
theorem Shared.granted (shared : w.Shared i ps) {p : Int} (free : 1 ≤ p ∧ p + ps.sum ≤ 100) :
    ∃ o w', Builder.openBranch i (.bucket (.int p)) w = (.ok o, w') ∧ w'.Shared i (ps ++ [p]) := by
  have opened := BranchSet.opening_bucket shared.offer p
  rw [if_pos free] at opened
  have within {bound : Int} (among : bound ∈ bounds 0 ps) : 0 < bound ∧ bound ≤ 0 + ps.sum :=
    Split.bounds_within shared.fit.positive among
  have untaken : ((w.branches i).sharing (ps.sum + p)).isTaken (bucketKey (ps.sum + p)) = false :=
    BranchSet.isTaken_bucketKey shared.taken (fun bound among => Int.le_of_lt (within among).1)
      fun bound among => by have := (within among).2; omega
  refine ⟨_, _, Builder.openBranch_condition shared.known opened untaken, ?_⟩
  let set := ((w.branches i).sharing (ps.sum + p)).take [bucketKey (ps.sum + p)]
  have now : (w.setBranches i set).branches i = set := branches_setBranches shared.known set
  have fit := shared.fit.grant p
  rw [Split.grant, if_pos free] at fit
  have more : bounds 0 (ps ++ [p]) = bounds 0 ps ++ [ps.sum + p] := by
    rw [Split.bounds_concat, Int.zero_add]
  refine ⟨?known, fit, ?offer, ?taken, ?node⟩
  case known => exact Nat.lt_of_lt_of_eq shared.known (Array.size_setIfInBounds).symm
  case offer =>
    refine (congrArg BranchSet.offer now).trans ?_
    rw [List.sum_append, List.sum_singleton]
    rfl
  case taken =>
    refine (congrArg BranchSet.taken now).trans ?_
    rw [more, List.map_append, ← shared.taken]
    rfl
  case node =>
    intro m member here
    have here : m.serial = (w.branches i).node.serial :=
      here.trans (congrArg (·.node.serial) now)
    have changed := changed_addCondition (w.setBranches i set) (w.branches i).node.serial
      (below (ps.sum + p))
    have member : m ∈ ((w.setBranches i set).addCondition (w.branches i).node.serial
      (below (ps.sum + p))).2.graph.toList := member
    rw [changed.toList] at member
    obtain ⟨n, inside, rfl⟩ := List.mem_map.1 member
    split at here
    · rename_i owned
      obtain ⟨kind, guards⟩ := shared.node n inside owned
      rw [if_pos owned, Node.guards_plusCondition, guards, more, List.map_append]
      exact ⟨kind, rfl⟩
    · rename_i elsewhere
      exact absurd here elsewhere

theorem Shared.denied (shared : w.Shared i ps) {p : Int} (full : ¬ (1 ≤ p ∧ p + ps.sum ≤ 100)) :
    ∃ e, Builder.openBranch i (.bucket (.int p)) w = (.error e, w) := by
  have refused := BranchSet.opening_bucket shared.offer p
  rw [if_neg full] at refused
  exact ⟨_, Builder.openBranch_refused refused⟩

theorem Shared.bucket (shared : w.Shared i ps) (p : Int) :
    (Builder.openBranch i (.bucket (.int p)) w).2.Shared i (grant ps p) := by
  unfold grant
  split
  · rename_i free
    obtain ⟨o, w', done, after⟩ := shared.granted free
    rw [done]
    exact after
  · rename_i full
    obtain ⟨e, failed⟩ := shared.denied full
    rw [failed]
    exact shared

theorem Shared.besides (shared : w.Shared i ps) (grounded : w.Grounded loops)
    (call : Besides i w loops w' loops') : w'.Shared i ps := by
  have orderly := grounded.tracked.orderly
  refine shared.spares ?_
  cases call with
  | extend _ c => exact spares_run orderly shared.known c
  | @openBranch j there branch other =>
    by_cases here : j = i
    · subst here
      exact spares_openBranch_error shared.known shared.offer (other rfl)
    · exact spares_openBranch_other orderly shared.known there here branch
  | openHandler _ name => exact spares_openHandler w _ name
  | openLoop _ opened => exact spares_openLoop orderly shared.known opened
  | @closeLoop l among =>
    refine spares_closeLoop fun same => ?_
    obtain ⟨n, member, serial, loop⟩ := grounded.tracked.loops l among
    have branch := (shared.node n member (serial.trans same.symm)).1
    rw [loop] at branch
    cases branch

theorem Splits.shared (splits : Splits i w loops asked) :
    w.Grounded loops ∧ w.Shared i (granted asked) := by
  induction splits with
  | @opened w w' loops jumps calls b known label id made =>
    have grounded := (calls.grounded.extend known (.appendBranching .splitPercent label id)).1
    rw [Extension.run, made] at grounded
    exact ⟨grounded, shared_opened calls.tracked.orderly made⟩
  | bucket _ p ih =>
    obtain ⟨grounded, shared⟩ := ih
    rw [Split.granted_concat]
    exact ⟨(grounded.call (.openBranch shared.known _)).1, shared.bucket p⟩
  | besides _ call ih =>
    obtain ⟨grounded, shared⟩ := ih
    exact ⟨(grounded.call call.call).1, shared.besides grounded call⟩

/-! ### Main result -/

/-- Whatever was called before, a percent is granted if it is positive and fits into a hundred together
with those that were granted, and the call succeeds if the handler of its branch does; a percent that is
refused changes nothing. The conditions of the split are as many as the percents that were granted, the
first that holds for a roll is that of the k-th percent for exactly so many of a hundred rolls as the
percent says, and none holds for the others. -/
theorem percent_shares (splits : Splits i w loops asked) :
    (∀ p : Int, 1 ≤ p ∧ p + (granted asked).sum ≤ 100 →
      ∃ o w', Builder.openBranch i (.bucket (.int p)) w = (.ok o, w') ∧
        ∀ (ε : Type) (lift : UsageError → ε) (handler : Nat → BuildM ε Unit) (w'' : Workspace),
          handler o.builder w' = (.ok (), w'') → (w''.builder o.builder).isEmpty = false →
            Builder.branch lift i (.bucket (.int p)) handler w = (.ok (), w'')) ∧
    (∀ p : Int, ¬ (1 ≤ p ∧ p + (granted asked).sum ≤ 100) →
      ∃ e, Builder.openBranch i (.bucket (.int p)) w = (.error e, w) ∧
        ∀ (ε : Type) (lift : UsageError → ε) (handler : Nat → BuildM ε Unit),
          Builder.branch lift i (.bucket (.int p)) handler w = (.error (lift e), w)) ∧
    ∃ n ∈ w.graph.toList, n.serial = (w.branches i).node.serial ∧
      n.transitions.conditions.length = (granted asked).length ∧
      (∀ k (known : k < (granted asked).length),
        ((List.range 100).countP fun roll => n.bucketOf roll = some k : Int) = (granted asked)[k]) ∧
      ((List.range 100).countP fun roll => n.bucketOf roll = none : Int) =
        100 - (granted asked).sum := by
  obtain ⟨grounded, shared⟩ := splits.shared
  refine ⟨fun p free => ?_, fun p full => ?_, ?_⟩
  · obtain ⟨o, w', opened, _⟩ := shared.granted free
    exact ⟨o, w', opened, fun ε lift handler w'' => Builder.branch_filled lift handler opened⟩
  · obtain ⟨e, refused⟩ := shared.denied full
    exact ⟨e, refused, fun ε lift handler => Builder.branch_refused lift handler refused⟩
  · obtain ⟨n, member, serial, _⟩ :=
      grounded.tracked.orderly.owned i _ (branches_found shared.known)
    obtain ⟨_, guards⟩ := shared.node n member serial
    have counted := congrArg List.length guards
    rw [Transitions.guards, List.length_map, List.length_map, Split.length_bounds] at counted
    exact ⟨n, member, serial, counted, Split.countP_bucketOf shared.fit guards⟩

namespace Lottery

def started : Workspace :=
  { flow := "lottery", graph := { name := "lottery" }, joins := #[{}],
    builders := #[{ cursor := 0 }] }

/-- A flow that begins with a split. -/
def opened : Workspace := (Builder.appendBranching 0 .splitPercent .null .null started).2

/-- Four fifths, a share that is too large by then, and the last fifth. -/
def drawn : Workspace :=
  [80, 30, 20].foldl (fun w p => (Builder.openBranch 0 (.bucket (.int p)) w).2) opened

theorem splits_drawn : Splits 0 drawn [] [80, 30, 20] := by
  have calls : Calls started [] [] := Calls.named (by decide +kernel)
  have split : Builder.appendBranching 0 .splitPercent .null .null started = (.ok 0, opened) := rfl
  have made : Splits 0 opened [] [] := .opened calls (by decide +kernel) split
  exact ((made.bucket 80).bucket 30).bucket 20

end Lottery

/-- Nothing is left after four fifths and one fifth, however much was asked for in between. -/
theorem percent_shares_lottery :
    (∃ e, Builder.openBranch 0 (.bucket (.int 1)) Lottery.drawn = (.error e, Lottery.drawn)) ∧
    ∃ n ∈ Lottery.drawn.graph.toList, n.transitions.conditions.length = 2 ∧
      ((List.range 100).countP fun roll => n.bucketOf roll = some 0 : Int) = 80 ∧
      ((List.range 100).countP fun roll => n.bucketOf roll = some 1 : Int) = 20 ∧
      ((List.range 100).countP fun roll => n.bucketOf roll = none : Int) = 0 := by
  have kept : granted [80, 30, 20] = [80, 20] := by decide
  obtain ⟨_, denied, n, member, _, count, shares, rest⟩ := percent_shares Lottery.splits_drawn
  rw [kept] at denied count rest
  simp only [kept] at shares
  obtain ⟨e, refused, _⟩ := denied 1 (by decide)
  exact ⟨⟨e, refused⟩, n, member, count, shares 0 (by decide), shares 1 (by decide), rest⟩

end Workspace

end ContactFlow
