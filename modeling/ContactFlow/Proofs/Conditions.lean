import ContactFlow.Proofs.Filing

/-!
The conditions of a flow under construction. The sets of branches know those of their nodes, and a loop
whose body is open has one condition, for another round. So whatever is called, no condition is added
that a node has, or that shares a key with one that it has.
-/

namespace ContactFlow

namespace Node

theorem clear_of_bare {n : Node} (bare : n.transitions.guards = [])
    (valid : ∀ s, n.spec = some s → s.Valid) : n.Clear := by
  refine ⟨valid, ?_, ?_, ?_⟩ <;> simp [bare]

theorem regards_plusError (kind : ErrorKind) (n : Node) : Regards n (n.plusError kind) :=
  ⟨rfl, rfl, rfl, rfl, rfl⟩

end Node

theorem Offer.madeBy_plusCondition {o : Offer} {n : Node} {g : Guard} (made : o.MadeBy n) :
    o.MadeBy (n.plusCondition g) := by
  cases o <;> exact made

/-- The node that an action asks for makes the offer of the action. -/
theorem Action.madeBy_complete {a : Action} {d : Draft} (drafted : a.draft = .ok d)
    (offers : a.offer ≠ .nothing) {n : Node} (kind : n.kind = d.kind) :
    a.offer.MadeBy (Workspace.complete d n) := by
  have kind : (Workspace.complete d n).kind = a.kind := kind.trans (draft_kind drafted)
  cases a with
  | collectInput c =>
    obtain ⟨_, mode, spec, _⟩ := draft_single c d drafted
    exact ⟨kind, by simp [Node.modes, Workspace.complete, mode, spec]⟩
  | collectSequential s =>
    obtain ⟨_, _, spec, _⟩ := draft_staged drafted
    exact ⟨kind, by simp [Node.modes, Workspace.complete, spec]⟩
  | checkAttribute => exact kind
  | checkHours => exact kind
  | checkStaffing => exact kind
  | splitPercent => exact kind
  | _ => exact absurd rfl offers

theorem Action.sound_of_plain {a : Action} (plain : a.offer = .nothing) : a.Sound := by
  cases a with
  | collectSequential => cases plain
  | _ => trivial

theorem Action.valid_draft {a : Action} {d : Draft} (sound : a.Sound) (drafted : a.draft = .ok d) :
    ∀ s, d.spec = some s → s.Valid := by
  intro s found
  by_cases input : a.kind = .collectInput
  · cases a with
    | collectInput c =>
      rw [(draft_single c d drafted).2.2.1] at found
      cases found
    | collectSequential spec =>
      rw [(draft_staged drafted).2.2.1] at found
      cases found
      exact sound
    | _ => cases input
  · rw [(draft_plain a input d drafted).2.2.1] at found
    cases found

namespace Graph

/-- The second graph is the first one, but for targets and errors. -/
def Regards (g g' : Graph) : Prop := ∃ f, Changed f g g' ∧ ∀ n, Node.Regards n (f n)

variable {g g' : Graph}

theorem Relinked.regards (relinked : g.Relinked g') : g.Regards g' := by
  obtain ⟨f, changed, alike⟩ := relinked
  exact ⟨f, changed, fun n => (alike n).regards⟩

end Graph

namespace Workspace

variable {w w' : Workspace} {loops loops' : List OpenLoop} {jumps : List String} {b : Nat}

/-- What holds of the conditions of a flow. -/
structure Filed (w : Workspace) (loops : List OpenLoop) : Prop where
  clear : ∀ n ∈ w.graph.toList, n.Clear
  known : ∀ (i : Nat) (s : BranchSet), w.sets[i]? = some s → ∀ n ∈ w.graph.toList,
    n.serial = s.node.serial → s.offer.MadeBy n ∧ ∀ g ∈ n.transitions.guards, s.Knows g
  rounds : ∀ l ∈ loops, ∀ n ∈ w.graph.toList, n.serial = l.node.serial →
    n.kind = .loop ∧ n.transitions.guards = [.equals Builder.continueLooping]
  once : (loops.map (·.node.serial)).Nodup

theorem Filed.of_changed {f : Node → Node} (changed : w.graph.Changed f w'.graph)
    (serial : ∀ n, (f n).serial = n.serial) (clear : ∀ n ∈ w.graph.toList, (f n).Clear)
    (known : ∀ (i : Nat) (s : BranchSet), w'.sets[i]? = some s → ∀ n ∈ w.graph.toList,
      n.serial = s.node.serial → s.offer.MadeBy (f n) ∧ ∀ g ∈ (f n).transitions.guards, s.Knows g)
    (rounds : ∀ l ∈ loops, ∀ n ∈ w.graph.toList, n.serial = l.node.serial →
      (f n).kind = .loop ∧ (f n).transitions.guards = [.equals Builder.continueLooping])
    (once : (loops.map (·.node.serial)).Nodup) : w'.Filed loops := by
  have origin {m : Node} (member : m ∈ w'.graph.toList) : ∃ n ∈ w.graph.toList, f n = m :=
    List.mem_map.1 (changed.toList ▸ member)
  refine ⟨fun m member => ?_, fun i s found m member here => ?_, fun l among m member here => ?_, once⟩
  · obtain ⟨n, inside, rfl⟩ := origin member
    exact clear n inside
  · obtain ⟨n, inside, rfl⟩ := origin member
    exact known i s found n inside ((serial n).symm.trans here)
  · obtain ⟨n, inside, rfl⟩ := origin member
    exact rounds l among n inside ((serial n).symm.trans here)

theorem Filed.regards (filed : w.Filed loops) (regards : w.graph.Regards w'.graph)
    (sets : w'.sets = w.sets) : w'.Filed loops := by
  obtain ⟨f, changed, same⟩ := regards
  refine .of_changed changed (fun n => (same n).serial)
    (fun n member => (filed.clear n member).regards (same n)) ?_ ?_ filed.once
  · intro i s found n member here
    obtain ⟨made, knows⟩ := filed.known i s (sets ▸ found) n member here
    refine ⟨made.regards (same n), ?_⟩
    rw [(same n).guards]
    exact knows
  · intro l among n member here
    rw [(same n).kind, (same n).guards]
    exact filed.rounds l among n member here

/-- Nothing but the graph and the sets counts. -/
theorem Filed.congr (filed : w.Filed loops) (graph : w'.graph = w.graph) (sets : w'.sets = w.sets) :
    w'.Filed loops := by
  obtain ⟨clear, known, rounds, once⟩ := filed
  exact ⟨graph ▸ clear, by rwa [graph, sets], graph ▸ rounds, once⟩

theorem Filed.grown (filed : w.Filed loops) (tracked : w.Tracked loops) {n : Node}
    (grown : w.graph.Grown n w'.graph) (bare : n.transitions.guards = [])
    (valid : ∀ s, n.spec = some s → s.Valid) (sets : w'.sets = w.sets) : w'.Filed loops := by
  have either {m : Node} (member : m ∈ w'.graph.toList) : m ∈ w.graph.toList ∨ m = n := by
    rw [grown.toList] at member
    simpa using member
  -- a serial number that is known is none of a new node
  have old {m k : Node} (member : m ∈ w'.graph.toList) (inside : k ∈ w.graph.toList)
      (here : m.serial = k.serial) : m ∈ w.graph.toList := by
    rcases either member with before | rfl
    · exact before
    · have below := tracked.orderly.tidy.counted k inside
      rw [← here, grown.serial] at below
      exact absurd below (Nat.lt_irrefl _)
  refine ⟨fun m member => ?_, fun i s found m member here => ?_, fun l among m member here => ?_,
    filed.once⟩
  · rcases either member with before | rfl
    · exact filed.clear m before
    · exact Node.clear_of_bare bare valid
  · rw [sets] at found
    obtain ⟨k, inside, serial, _⟩ := tracked.orderly.owned i s found
    exact filed.known i s found m (old member inside (here.trans serial.symm)) here
  · obtain ⟨k, inside, serial, _⟩ := tracked.loops l among
    exact filed.rounds l among m (old member inside (here.trans serial.symm)) here

theorem Filed.append (filed : w.Filed loops) (tracked : w.Tracked loops) {a : Action}
    (sound : a.Sound) (label id : Value) : (Builder.append b a label id w).2.Filed loops := by
  rcases Builder.append_apply b a label id w with ⟨e, failed⟩ | ⟨d, n, g, drafted, _, made, done⟩
  · rw [failed]
    exact filed
  · rw [done]
    obtain ⟨_, _, _, bare⟩ := Graph.newNode_ok tracked.orderly.tidy made
    obtain ⟨⟨g', grown, relinked⟩, _, sets⟩ := placeNew_spec (b := b) tracked.orderly.tidy made
    have placed : Filed { w with graph := g' } loops :=
      filed.grown tracked grown (by simp [complete, bare, Transitions.guards])
        (Action.valid_draft sound drafted) rfl
    exact placed.regards relinked.regards sets

/-- What an action that was appended leaves behind. -/
theorem append_complete (orderly : w.Orderly) {a : Action} {label id : Value} {node : Handle}
    (appended : Builder.append b a label id w = (.ok node, w')) :
    ∃ d n, a.draft = .ok d ∧ n.kind = d.kind ∧ n.transitions = {} ∧ n.serial = node.serial ∧
      ∃ m ∈ w'.graph.toList, Node.Regards (complete d n) m := by
  obtain ⟨d, n, g, _, drafted, _, _, made, handle, rfl⟩ := Builder.append_ok appended
  obtain ⟨_, kind, _, bare⟩ := Graph.newNode_ok orderly.tidy made
  obtain ⟨⟨g', grown, relinked⟩, _⟩ := placeNew_spec (b := b) orderly.tidy made
  obtain ⟨f, changed, same⟩ := relinked.regards
  refine ⟨d, n, drafted, kind, bare, by rw [handle]; rfl, f (complete d n), ?_, same _⟩
  rw [changed.toList, grown.toList]
  exact List.mem_map_of_mem (List.mem_append_right _ (List.mem_singleton_self _))

theorem Filed.appendBranching (filed : w.Filed loops) (tracked : w.Tracked loops) {a : Action}
    (offers : a.offer ≠ .nothing) (sound : a.Sound) (label id : Value) :
    (Builder.appendBranching b a label id w).2.Filed loops := by
  rw [Builder.appendBranching_apply]
  have after := filed.append (b := b) tracked sound label id
  have tidy := (tracked.append (b := b) a label id).orderly.tidy
  cases appended : Builder.append b a label id w with
  | mk result w' =>
    rw [appended] at after tidy
    cases result with
    | error e => exact after
    | ok node =>
      obtain ⟨d, n, drafted, kind, bare, serial, m, member, same⟩ :=
        append_complete tracked.orderly appended
      refine ⟨after.clear, fun i s found k inside here => ?_, after.rounds, after.once⟩
      change (w'.sets.push _)[i]? = some s at found
      rw [Array.getElem?_push] at found
      split at found
      · cases found
        obtain rfl := Graph.eq_of_serial tidy inside member
          (here.trans (serial.symm.trans same.serial.symm))
        refine ⟨(Action.madeBy_complete drafted offers kind).regards same, fun g among => ?_⟩
        rw [same.guards] at among
        simp [complete, bare, Transitions.guards] at among
      · exact after.known i s found k inside here

/-! ### Branches -/

theorem Filed.setBranches (filed : w.Filed loops) {i : Nat} {s s' : BranchSet}
    (found : w.sets[i]? = some s) (node : s'.node = s.node) (like : s.offer.Like s'.offer)
    (more : s.taken ⊆ s'.taken) : (w.setBranches i s').Filed loops := by
  refine ⟨filed.clear, fun j t there n member here => ?_, filed.rounds, filed.once⟩
  change (w.sets.setIfInBounds i s')[j]? = some t at there
  rw [Array.getElem?_setIfInBounds] at there
  split at there
  · split at there
    · cases there
      obtain ⟨made, knows⟩ := filed.known i s found n member (node ▸ here)
      exact ⟨like.madeBy.1 made, fun g among => (knows g among).mono like more⟩
    · cases there
  · exact filed.known j t there n member here

/-- A condition may be added to the node of a set that files it. -/
theorem Filed.addBranch (filed : w.Filed loops) (orderly : w.Orderly) {i : Nat} {s s' : BranchSet}
    {guard : Guard} {key : List Scalar} (found : w.sets[i]? = some s) (node : s'.node = s.node)
    (files : s.Files guard key s') (free : s'.isTaken key = false) :
    ((w.setBranches i (s'.take [key])).addCondition s.node.serial guard).2.Filed loops := by
  have changed := changed_addCondition (w.setBranches i (s'.take [key])) s.node.serial guard
  have more : s.taken ⊆ (s'.take [key]).taken :=
    fun k old => List.mem_append_left _ (files.more old)
  have known : (s'.take [key]).Knows guard := by
    unfold BranchSet.Knows
    have same : (s'.take [key]).offer.keys guard = s.offer.keys guard := (files.like.keys guard).symm
    rw [same]
    exact ⟨files.filed, files.taken⟩
  refine .of_changed changed (fun n => by split <;> rfl) ?_ ?_ ?_ filed.once
  · intro n member
    split
    · rename_i here
      obtain ⟨made, knows⟩ := filed.known i s found n member here
      exact (filed.clear n member).plusCondition (files.admits n made)
        fun g among => (knows g among).apart (files.free free)
    · exact filed.clear n member
  · intro j t there n member here
    change (w.sets.setIfInBounds i (s'.take [key]))[j]? = some t at there
    rw [Array.getElem?_setIfInBounds] at there
    split at there
    · split at there
      · cases there
        have here : n.serial = s.node.serial := here.trans (congrArg (·.serial) node)
        obtain ⟨made, knows⟩ := filed.known i s found n member here
        rw [if_pos here, Node.guards_plusCondition]
        refine ⟨Offer.madeBy_plusCondition (files.like.madeBy.1 made), fun g among => ?_⟩
        rcases List.mem_append.1 among with old | new
        · exact (knows g old).mono files.like more
        · rw [List.mem_singleton.1 new]
          exact known
      · cases there
    · rename_i other
      have elsewhere : n.serial ≠ s.node.serial := fun both =>
        other (orderly.single i j s t found there (both.symm.trans here))
      rw [if_neg elsewhere]
      exact filed.known j t there n member here
  · intro l among n member here
    obtain ⟨loop, guards⟩ := filed.rounds l among n member here
    have elsewhere : n.serial ≠ s.node.serial := fun both =>
      (filed.known i s found n member both).1.not_loop loop
    rw [if_neg elsewhere]
    exact ⟨loop, guards⟩

theorem Filed.openError (filed : w.Filed loops) (node : Handle) (join : Option Nat)
    (kind : ErrorKind) : (Builder.openError node join kind w).2.Filed loops := by
  rcases Builder.openError_apply node join kind w with ⟨e, failed⟩ | ⟨_, done⟩
  · rw [failed]
    exact filed
  · rw [done]
    have regards : w.graph.Regards (w.addError node.serial kind).2.graph := by
      refine ⟨_, w.changed_addError node.serial kind, fun n => ?_⟩
      split
      · exact Node.regards_plusError kind n
      · exact .refl n
    have added : (w.addError node.serial kind).2.Filed loops := filed.regards regards rfl
    exact added.congr rfl rfl

theorem Filed.openBranch (filed : w.Filed loops) (orderly : w.Orderly) {i : Nat}
    (known : i < w.sets.size) {branch : Branch} (given : branch.Given) :
    (Builder.openBranch i branch w).2.Filed loops := by
  have found := branches_found known
  rcases Builder.openBranch_apply i branch w with ⟨e, failed⟩ | ⟨opening, set, opened, done⟩
  · rw [failed]
    exact filed
  · rw [done]
    have records := BranchSet.records_opening (w.branches i) given _ opened
    have opens := BranchSet.opens_opening (w.branches i) branch _ opened
    cases opening with
    | error kind =>
      have unchanged : set = w.branches i := records
      have same : (w.setBranches i set).Filed loops := filed.setBranches found (by rw [unchanged])
        (by rw [unchanged]; exact .refl _) (by rw [unchanged]; exact List.Subset.refl _)
      exact same.openError ..
    | condition guard key =>
      have files : (w.branches i).Files guard key set := records
      have node : set.node = (w.branches i).node := BranchSet.Lets.node opens
      simp only
      rcases Builder.openCondition_apply i guard key (w.setBranches i set) with
        ⟨e, failed⟩ | ⟨free, done⟩
      · rw [failed]
        exact filed.setBranches found node files.like files.more
      · rw [branches_setBranches known] at free done
        rw [done, setBranches_twice, node]
        have untaken : set.isTaken key = false := by
          unfold BranchSet.requireFree at free
          split at free
          · cases free
          · rename_i untaken
            simpa using untaken
        exact (filed.addBranch orderly found node files untaken).congr rfl rfl

theorem Filed.openHandler (filed : w.Filed loops) (b : Nat) (name : ErrorName) :
    (Builder.openHandler b name w).2.Filed loops := by
  rcases Builder.openHandler_apply b name w with ⟨e, failed⟩ | ⟨node, kind, _, _, done⟩
  · rw [failed]
    exact filed
  · rw [done]
    exact filed.openError ..

theorem Filed.link (filed : w.Filed loops) (r : Joins Slot × List (Slot × String)) :
    (w.link r).Filed loops :=
  filed.regards (w.relinked_link r).graph.regards (w.relinked_link r).sets

theorem Filed.jumpTo (filed : w.Filed loops) (b : Nat) (target : Value) :
    (Builder.jumpTo b target w).2.Filed loops := by
  rcases Builder.jumpTo_apply b target w with ⟨e, failed⟩ | ⟨_, done⟩
  · rw [failed]
    exact filed
  · rw [done]
    exact (filed.link _).congr rfl rfl

theorem Filed.continued (filed : w.Filed loops) (b join : Nat) : (w.continued b join).Filed loops :=
  (filed.link _).congr rfl rfl

theorem Filed.thenContinue (filed : w.Filed loops) (b : Nat) :
    (Builder.thenContinue b w).2.Filed loops := by
  rcases Builder.thenContinue_apply b w with ⟨e, failed⟩ | ⟨join, _, _, done⟩
  · rw [failed]
    exact filed
  · rw [done]
    exact filed.continued b join

/-! ### Loops -/

/-- The condition for another round is the first one of a loop. -/
theorem Filed.withBody (filed : w.Filed loops) {node : Handle} (o : OpenBranch)
    (made : ∀ n ∈ w.graph.toList, n.serial = node.serial → n.kind = .loop ∧ n.transitions.guards = [])
    (unowned : ∀ (i : Nat) (s : BranchSet), w.sets[i]? = some s → s.node.serial ≠ node.serial)
    (new : ∀ l ∈ loops, l.node.serial ≠ node.serial) :
    (w.withBody node).Filed (⟨b, node, o, false⟩ :: loops) := by
  let w₁ := (w.freshJoin []).2.resolve w.joins.size node.id
  have linked := (w.freshJoin []).2.relinked_link ((w.freshJoin []).2.joins.resolve w.joins.size node.id)
  have before : w₁.Filed loops := (filed.congr rfl rfl : (w.freshJoin []).2.Filed loops).link _
  have made₁ : ∀ n ∈ w₁.graph.toList, n.serial = node.serial →
      n.kind = .loop ∧ n.transitions.guards = [] := by
    obtain ⟨f, changed, alike⟩ := linked.graph
    intro n member here
    obtain ⟨m, inside, rfl⟩ := List.mem_map.1 (changed.toList ▸ member)
    rw [(alike m).kind, (alike m).guards]
    exact made m inside ((alike m).serial.symm.trans here)
  have unowned₁ (i : Nat) (s : BranchSet) (found : w₁.sets[i]? = some s) :
      s.node.serial ≠ node.serial := unowned i s (linked.sets ▸ found)
  have added : (w₁.addCondition node.serial (.equals Builder.continueLooping)).2.Filed
      (⟨b, node, o, false⟩ :: loops) := by
    refine .of_changed (changed_addCondition w₁ node.serial _) (fun n => by split <;> rfl) ?_ ?_ ?_ ?_
    · intro n member
      split
      · rename_i here
        obtain ⟨loop, bare⟩ := made₁ n member here
        refine (before.clear n member).plusCondition (BranchSet.admits_compare ?_) (by simp [bare])
        rw [loop]
        exact ActionKind.noConfusion
      · exact before.clear n member
    · intro i s found n member here
      rw [if_neg fun both => unowned₁ i s found (here.symm.trans both)]
      exact before.known i s found n member here
    · intro l among n member here
      rcases List.mem_cons.1 among with rfl | old
      · obtain ⟨loop, bare⟩ := made₁ n member here
        rw [if_pos here, Node.guards_plusCondition, bare]
        exact ⟨loop, rfl⟩
      · rw [if_neg fun both => new l old (here.symm.trans both)]
        exact before.rounds l old n member here
    · refine List.nodup_cons.2 ⟨fun among => ?_, before.once⟩
      obtain ⟨l, old, same⟩ := List.mem_map.1 among
      exact new l old same
  exact added.congr rfl rfl

theorem Filed.openLoop (filed : w.Filed loops) (tracked : w.Tracked loops) {times label id : Value}
    {node : Handle} {o : OpenBranch}
    (opened : Builder.openLoop b times label id w = (.ok (node, o), w')) :
    w'.Filed (⟨b, node, o, false⟩ :: loops) := by
  obtain ⟨w₁, appended, rfl, rfl⟩ := Builder.openLoop_ok opened
  have placed := filed.append (b := b) (a := .loop times) tracked trivial label id
  have tidy := (tracked.append (b := b) (.loop times) label id).orderly.tidy
  rw [appended] at placed tidy
  obtain ⟨⟨n, member, serial, _, kind, bare⟩, unowned⟩ := append_node tracked.orderly appended
  have last := append_serial tracked.orderly appended
  refine placed.withBody _ (fun m inside here => ?_) unowned fun l among same => ?_
  · rw [Graph.eq_of_serial tidy inside member (here.trans serial.symm)]
    exact ⟨kind, bare⟩
  · obtain ⟨k, inside, here, _⟩ := tracked.loops l among
    have below := tracked.orderly.tidy.counted k inside
    omega

/-- The condition for the way out is the second one of a loop, whose body is open until then. -/
theorem Filed.withExit (filed : w.Filed loops) {l : OpenLoop} (among : l ∈ loops) (b : Nat) :
    (w.withExit b l.node.serial).Filed (loops.erase l) := by
  have added : (w.addCondition l.node.serial (.equals Builder.doneLooping)).2.Filed
      (loops.erase l) := by
    refine .of_changed (changed_addCondition w l.node.serial _) (fun n => by split <;> rfl)
      ?_ ?_ ?_ (filed.once.sublist (List.erase_sublist.map _))
    · intro n member
      split
      · rename_i here
        obtain ⟨loop, guards⟩ := filed.rounds l among n member here
        refine (filed.clear n member).plusCondition (BranchSet.admits_compare ?_) ?_
        · rw [loop]
          exact ActionKind.noConfusion
        · rw [guards]
          intro g among
          rw [List.mem_singleton.1 among]
          exact ⟨by decide, id⟩
      · exact filed.clear n member
    · intro i s found n member here
      obtain ⟨made, knows⟩ := filed.known i s found n member here
      have elsewhere : n.serial ≠ l.node.serial := fun both =>
        made.not_loop (filed.rounds l among n member both).1
      rw [if_neg elsewhere]
      exact ⟨made, knows⟩
    · intro l' still n member here
      have other : l' ≠ l := fun same =>
        (filed.once.of_map _).not_mem_erase (same ▸ still)
      have inside := List.mem_of_mem_erase still
      have elsewhere : n.serial ≠ l.node.serial := fun both =>
        other (List.inj_on_of_nodup_map filed.once inside among (here.symm.trans both))
      rw [if_neg elsewhere]
      exact filed.rounds l' inside n member here
  exact added.congr rfl rfl

theorem Filed.erase (filed : w.Filed loops) (l : OpenLoop) : w.Filed (loops.erase l) :=
  ⟨filed.clear, filed.known, fun l' still => filed.rounds l' (List.mem_of_mem_erase still),
    filed.once.sublist (List.erase_sublist.map _)⟩

theorem Filed.closeLoop (filed : w.Filed loops) {l : OpenLoop} (among : l ∈ loops) :
    (Builder.closeLoop l.builder l.node l.body w).2.Filed (loops.erase l) := by
  rcases Builder.closeLoop_apply l.builder l.node l.body w with
    ⟨e, failed⟩ | ⟨_, done⟩ | ⟨join, _, _, done⟩
  · rw [failed]
    exact filed.erase l
  · rw [done]
    exact filed.withExit among l.builder
  · rw [done]
    exact (filed.continued l.body.builder join).withExit among l.builder

/-- Whatever is called, the conditions are filed. -/
theorem Calls.filed (calls : Calls w loops jumps) : w.Filed loops := by
  induction calls with
  | start started =>
    rw [start_eq started]
    exact ⟨by simp [Graph.toList], by simp, by simp, List.nodup_nil⟩
  | append calls _ plain _ label id ih =>
    exact ih.append calls.tracked (Action.sound_of_plain plain) label id
  | appendBranching calls _ offers sound label id ih =>
    exact ih.appendBranching calls.tracked offers sound label id
  | openBranch calls known given ih => exact ih.openBranch calls.tracked.orderly known given
  | openHandler _ _ name ih => exact ih.openHandler _ name
  | openLoop calls _ opened ih => exact ih.openLoop calls.tracked opened
  | closeLoop _ among ih => exact ih.closeLoop among
  | jumpTo _ _ target ih => exact ih.jumpTo _ target
  | thenContinue _ _ ih => exact ih.thenContinue _

end Workspace

end ContactFlow
