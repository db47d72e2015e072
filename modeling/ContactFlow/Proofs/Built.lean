import ContactFlow.Proofs.Keys
import ContactFlow.Proofs.Orderly

/-!
Flows made with the builder. A flow is built by operations in any order, on any of the builders and
the sets of branches that there are, whether they succeed or fail. Every one of them keeps the flow
orderly.
-/

namespace ContactFlow

namespace Action

theorem offer_isInput (a : Action) : a.kind = .collectInput ↔ a.offer.isInput := by
  cases a <;> simp [kind, offer, Offer.isInput]

variable {a : Action} {d : Draft}

theorem draft_kind (drafted : a.draft = .ok d) : d.kind = a.kind := by
  by_cases input : a.kind = .collectInput
  · cases a with
    | collectInput c => exact (draft_single c d drafted).1
    | collectSequential spec => exact (draft_staged drafted).1
    | _ => cases input
  · exact (draft_plain a input d drafted).1

/-- The node that an action asks for is proper before it has any edges. -/
theorem proper_complete (drafted : a.draft = .ok d) {n : Node} (kind : n.kind = d.kind)
    (bare : n.transitions = {}) : (Workspace.complete d n).Proper := by
  have once : (Workspace.complete d n).transitions.kinds.Nodup := by
    simp [Workspace.complete, bare, Transitions.kinds]
  have guards : (Workspace.complete d n).transitions.guards = [] := by
    simp [Workspace.complete, bare, Transitions.guards]
  have same : (Workspace.complete d n).kind = a.kind := kind.trans (draft_kind drafted)
  refine ⟨once, by simp [guards], by simp [guards], ?_, ?_, ?_⟩
  · intro input
    rw [same] at input
    cases a with
    | collectInput c => simp [Workspace.complete, (draft_single c d drafted).2.1]
    | collectSequential spec => simp [Workspace.complete, (draft_staged drafted).2.1]
    | _ => cases input
  · intro r retry
    by_cases input : a.kind = .collectInput
    · refine ⟨same.trans input, ?_⟩
      cases a with
      | collectInput c =>
        obtain ⟨_, _, spec, retryOn⟩ := draft_single c d drafted
        refine ⟨spec, retryOn r ?_⟩
        cases tried : d.retry with
        | bad faults => simp [Workspace.complete, tried] at retry
        | good r' =>
          simp only [Workspace.complete, tried] at retry
          rw [retry]
      | collectSequential spec =>
        simp [Workspace.complete, (draft_staged drafted).2.2.2] at retry
      | _ => cases input
    · simp [Workspace.complete, (draft_plain a input d drafted).2.2.2] at retry
  · intro spec found
    by_cases input : a.kind = .collectInput
    · refine ⟨same.trans input, ?_⟩
      cases a with
      | collectInput c =>
        have none : d.spec = some spec := found
        rw [(draft_single c d drafted).2.2.1] at none
        cases none
      | collectSequential spec => simp [Workspace.complete, (draft_staged drafted).2.2.2]
      | _ => cases input
    · have none : d.spec = some spec := found
      rw [(draft_plain a input d drafted).2.2.1] at none
      cases none

end Action

namespace BranchSet

theorem sameKeys_refl (key : List Scalar) : sameKeys key key = true := by
  induction key with
  | nil => rfl
  | cons a rest ih => simp [sameKeys, a.sameKey_refl, ih]

variable {s s' : BranchSet} {key : List Scalar} {guard : Guard} {branch : Branch}

theorem not_taken (free : s.isTaken key = false) : key ∉ s.taken := fun among => by
  have taken : s.isTaken key = true := List.any_eq_true.2 ⟨key, among, sameKeys_refl key⟩
  rw [free] at taken
  cases taken

theorem free_of_require (free : s.requireFree key = .ok ()) : key ∉ s.taken := by
  unfold requireFree at free
  split at free
  · cases free
  · rename_i untaken
    exact not_taken (by simpa using untaken)

/-! ### What opening a branch comes to -/

/-- The branches that catch errors, by what a set offers. -/
inductive Catches : Offer → Branch → ErrorKind → Prop
  | error (offer : Offer) : Catches offer .error .error
  | timeout (modes : List InputMode) : Catches (.input modes) .timeout .timeout
  | noMatch (modes : List InputMode) : Catches (.input modes) .noMatch .noMatch
  | otherwise (modes : List InputMode) : Catches (.input modes) .otherwise .noMatch
  | invalidInput (modes : List InputMode) : Catches (.input modes) .invalidInput .invalidInput
  | lowConfidence (modes : List InputMode) : Catches (.input modes) .lowConfidence .lowConfidence
  | unequal : Catches .comparison .otherwise .noMatch
  | rest (allocated : Scalar) : Catches (.percent allocated) .otherwise .noMatch
  | notStaffed : Catches .staffing .notStaffed .noMatch

/-- The branches whose condition is settled beforehand, by what a set offers. -/
inductive Fixes : Offer → Branch → String → List Scalar → List Scalar → Prop
  | inHours : Fixes .hours .inHours "Equals" [.text "True"] [.text "in_hours"]
  | outOfHours : Fixes .hours .outOfHours "Equals" [.text "False"] [.text "out_of_hours"]
  | staffed : Fixes .staffing .staffed "NumberGreaterThan" [.text "0"] [.text "staffed"]

/-- What a branch that is opened adds, and the set with its place given out. -/
inductive Opened (s : BranchSet) : Branch → Opening × BranchSet → Prop
  | error {b : Branch} {kind : ErrorKind} (catches : Catches s.offer b kind) :
    Opened s b (.error kind, s)
  | fixed {b : Branch} {operator : String} {operands key : List Scalar}
    (fixes : Fixes s.offer b operator operands key) :
    Opened s b (.condition (.compare operator operands) key, s)
  | digits {modes : List InputMode} {v : Value} {d : Option Scalar} (offered : s.offer = .input modes)
    (met : .keypad ∈ modes) (read : entered v = .ok d) :
    Opened s (.digits v) (.condition (.input d none) [.text "digits", d.getD .null], s)
  | intent {modes : List InputMode} {v : Value} {i : Option Scalar} (offered : s.offer = .input modes)
    (met : .speech ∈ modes) (read : entered v = .ok i) :
    Opened s (.intent v) (.condition (.input none i) [.text "intent", i.getD .null], s)
  | input {modes : List InputMode} {v v' : Value} {d i : Option Scalar}
    (offered : s.offer = .input modes) (given : isGiven v ∨ isGiven v')
    (keypad : isGiven v → .keypad ∈ modes) (speech : isGiven v' → .speech ∈ modes)
    (read : entered v = .ok d) (read' : entered v' = .ok i)
    (free : (inputKeys d i).find? s.isTaken = none) :
    Opened s (.input v v') (.condition (.input d i) [.text "input", keyPart d, keyPart i],
      s.take (inputKeys d i))
  | compare {operator operand : Value} {name text : String} (offered : s.offer = .comparison)
    (named : operator.text? = some name) (written : operand.written = .ok text) :
    Opened s (.compare operator operand)
      (.condition (.compare name [.text text]) [.text name, .text text], s)
  | bucket {allocated percent sum : Scalar} (offered : s.offer = .percent allocated)
    (granted : withBucket allocated percent = .ok sum) :
    Opened s (.bucket (.scalar percent)) (.condition (.compare "NumberLessThan" [.text sum.display])
      [.text "bucket", .text sum.display], { s with offer := .percent sum })

theorem mode_of_require {modes : List InputMode} {mode : InputMode} {call : String}
    (met : s.require modes mode call = .ok ()) : mode ∈ modes := by
  unfold require at met
  split at met
  · rename_i among
    simpa using among
  · cases met

theorem opened_digits {modes : List InputMode} (offered : s.offer = .input modes) (v : Value) :
    Yields (s.Opened (.digits v)) (s.openDigits modes v) := by
  intro r opened
  obtain ⟨_, met, opened⟩ := Results.bind_eq_ok.1 opened
  obtain ⟨d, read, opened⟩ := Results.bind_eq_ok.1 opened
  cases opened
  exact .digits offered (mode_of_require met) read

theorem opened_intent {modes : List InputMode} (offered : s.offer = .input modes) (v : Value) :
    Yields (s.Opened (.intent v)) (s.openIntent modes v) := by
  intro r opened
  obtain ⟨_, met, opened⟩ := Results.bind_eq_ok.1 opened
  obtain ⟨i, read, opened⟩ := Results.bind_eq_ok.1 opened
  cases opened
  exact .intent offered (mode_of_require met) read

/-- A branch for input is opened once its node is known to take such input. -/
theorem opened_entries {modes : List InputMode} (offered : s.offer = .input modes) {v v' : Value}
    (given : isGiven v ∨ isGiven v') (keypad : isGiven v → .keypad ∈ modes)
    (speech : isGiven v' → .speech ∈ modes) {r : Opening × BranchSet}
    (opened : (do
      let digits ← entered v
      let intent ← entered v'
      match (inputKeys digits intent).find? s.isTaken with
      | some key => throw (.duplicateBranch s.node.id key)
      | none => pure (.condition (.input digits intent)
          [.text "input", keyPart digits, keyPart intent], s.take (inputKeys digits intent))) =
        Except.ok r) : s.Opened (.input v v') r := by
  obtain ⟨d, read, opened⟩ := Results.bind_eq_ok.1 opened
  obtain ⟨i, read', opened⟩ := Results.bind_eq_ok.1 opened
  split at opened
  · cases opened
  · rename_i free
    cases opened
    exact .input offered given keypad speech read read' free

theorem opened_input {modes : List InputMode} (offered : s.offer = .input modes) (v v' : Value) :
    Yields (s.Opened (.input v v')) (s.openInput modes v v') := by
  intro r opened
  unfold openInput at opened
  cases given : isGiven v with
  | false =>
    cases given' : isGiven v' with
    | false =>
      simp only [given, given'] at opened
      cases opened
    | true =>
      simp only [given, given'] at opened
      obtain ⟨_, met, opened⟩ := Results.bind_eq_ok.1 opened
      exact opened_entries offered (.inr given') (by simp [given])
        (fun _ => mode_of_require met) opened
  | true =>
    cases given' : isGiven v' with
    | false =>
      simp only [given, given'] at opened
      obtain ⟨_, met, opened⟩ := Results.bind_eq_ok.1 opened
      exact opened_entries offered (.inl given) (fun _ => mode_of_require met)
        (by simp [given']) opened
    | true =>
      simp only [given, given'] at opened
      obtain ⟨_, met, opened⟩ := Results.bind_eq_ok.1 opened
      obtain ⟨_, met', opened⟩ := Results.bind_eq_ok.1 opened
      exact opened_entries offered (.inl given) (fun _ => mode_of_require met)
        (fun _ => mode_of_require met') opened

theorem opened_comparison (offered : s.offer = .comparison) (operator operand : Value) :
    Yields (s.Opened (.compare operator operand)) (s.openComparison operator operand) := by
  intro r opened
  obtain ⟨_, _, opened⟩ := Results.bind_eq_ok.1 opened
  obtain ⟨name, known, opened⟩ := Results.bind_eq_ok.1 opened
  obtain ⟨text, written, opened⟩ := Results.bind_eq_ok.1 opened
  cases opened
  cases found : operator.text?.filter comparisonOperators.contains with
  | none =>
    rw [found] at known
    cases known
  | some _ =>
    rw [found] at known
    cases known
    exact .compare offered (Option.filter_eq_some_iff.1 found).1 written

theorem opened_bucket {allocated : Scalar} (offered : s.offer = .percent allocated)
    (percent : Value) : Yields (s.Opened (.bucket percent)) (s.openBucket allocated percent) := by
  unfold openBucket
  split
  · intro r opened
    obtain ⟨sum, granted, opened⟩ := Results.bind_eq_ok.1 opened
    cases opened
    exact .bucket offered granted
  · exact .error

theorem opened_of_opening (s : BranchSet) (b : Branch) : Yields (s.Opened b) (s.opening b) := by
  have error {kind : ErrorKind} (catches : Catches s.offer b kind) :
      Yields (s.Opened b) (.ok (.error kind, s) : Except UsageError _) := .ok (.error catches)
  have fixed {operator : String} {operands key : List Scalar}
      (fixes : Fixes s.offer b operator operands key) : Yields (s.Opened b)
        (.ok (.condition (.compare operator operands) key, s) : Except UsageError _) :=
    .ok (.fixed fixes)
  generalize same : s.offer = offer at error fixed
  unfold opening
  rw [same]
  split
  · exact error (.error _)
  · exact opened_digits same _
  · exact opened_intent same _
  · exact opened_input same _ _
  · exact error (.timeout _)
  · exact error (.noMatch _)
  · exact error (.otherwise _)
  · exact error (.invalidInput _)
  · exact .bind fun _ => error (.lowConfidence _)
  · exact opened_comparison same _ _
  · exact error .unequal
  · exact error (.rest _)
  · exact fixed .inHours
  · exact fixed .outOfHours
  · exact fixed .staffed
  · exact error .notStaffed
  · exact opened_bucket same _
  · exact .error

/-- Conditions that are settled beforehand are not on input. -/
theorem Fixes.not_input {offer : Offer} {b : Branch} {operator : String} {operands key : List Scalar}
    (fixes : Fixes offer b operator operands key) : offer.isInput = false := by
  cases fixes <;> rfl

theorem plus_of_withBucket {allocated percent sum : Scalar}
    (given : withBucket allocated percent = .ok sum) : allocated.plus? percent = some sum := by
  unfold withBucket at given
  obtain ⟨small, _, given⟩ := Results.bind_eq_ok.1 given
  obtain ⟨total, added, given⟩ := Results.bind_eq_ok.1 given
  obtain ⟨left, _, given⟩ := Results.bind_eq_ok.1 given
  split at given
  · cases given
  · cases given
    cases plus : allocated.plus? percent with
    | none =>
      rw [plus] at added
      cases added
    | some total =>
      rw [plus] at added
      cases added
      rfl

/-! ### What opening a branch does to the set -/

/-- What a set lets a condition be: its key is new to the set, and known to it from then on. -/
structure Lets (s : BranchSet) (guard : Guard) (key : List Scalar) (s' : BranchSet) : Prop where
  builder : s'.builder = s.builder
  node : s'.node = s.node
  join : s'.join = s.join
  offer : s'.offer.isInput = s.offer.isInput
  more : s.taken ⊆ s'.taken
  input : s.offer.isInput → guard.isInput
  new : s'.requireFree key = .ok () → guard.NewTo s.taken
  taken : guard.TakenIn (s'.taken ++ [key])

/-- What a set opens: a condition that it lets be, or an error, which leaves it as it is. -/
def Opens (s : BranchSet) : Opening × BranchSet → Prop
  | (.condition guard key, s') => s.Lets guard key s'
  | (.error _, s') => s' = s

theorem lets_digits (s : BranchSet) (digits : Option Scalar) :
    s.Lets (.input digits none) [.text "digits", digits.getD .null] s := by
  refine ⟨rfl, rfl, rfl, rfl, List.Subset.refl _, fun _ => rfl, fun free => ⟨?_, ?_⟩, ⟨?_, ?_⟩⟩
  · intro d given
    have there : digits = some d := given
    simpa [there] using free_of_require free
  · intro i given
    cases given
  · intro d given
    have there : digits = some d := given
    simp [there]
  · intro i given
    cases given

theorem lets_intent (s : BranchSet) (intent : Option Scalar) :
    s.Lets (.input none intent) [.text "intent", intent.getD .null] s := by
  refine ⟨rfl, rfl, rfl, rfl, List.Subset.refl _, fun _ => rfl, fun free => ⟨?_, ?_⟩, ⟨?_, ?_⟩⟩
  · intro d given
    cases given
  · intro i given
    have there : intent = some i := given
    simpa [there] using free_of_require free
  · intro d given
    cases given
  · intro i given
    have there : intent = some i := given
    simp [there]

/-- The keys of a branch that both stages share are all free before any is taken. -/
theorem lets_keys {digits intent : Option Scalar} (key : List Scalar)
    (free : (inputKeys digits intent).find? s.isTaken = none) :
    s.Lets (.input digits intent) key (s.take (inputKeys digits intent)) := by
  have fresh (k : List Scalar) (among : k ∈ inputKeys digits intent) : k ∉ s.taken :=
    not_taken (by simpa using List.find?_eq_none.1 free k among)
  have digit (d : Scalar) (given : d ∈ digits) : [.text "digits", d] ∈ inputKeys digits intent :=
    List.mem_append_left _ (by simpa using given)
  have spoken (i : Scalar) (given : i ∈ intent) : [.text "intent", i] ∈ inputKeys digits intent :=
    List.mem_append_right _ (by simpa using given)
  refine ⟨rfl, rfl, rfl, rfl, List.subset_append_left _ _, fun _ => rfl, fun _ => ⟨?_, ?_⟩,
    ⟨?_, ?_⟩⟩
  · exact fun d given => fresh _ (digit d given)
  · exact fun i given => fresh _ (spoken i given)
  · exact fun d given => List.mem_append_left _ (List.mem_append_right _ (digit d given))
  · exact fun i given => List.mem_append_left _ (List.mem_append_right _ (spoken i given))

/-- A condition that compares is of no concern to the keys of input. -/
theorem lets_compare {operator : String} {operands : List Scalar} (offer : Offer)
    (other : s.offer.isInput = false) (same : offer.isInput = false) :
    s.Lets (.compare operator operands) key { s with offer } :=
  ⟨rfl, rfl, rfl, same.trans other.symm, List.Subset.refl _, by simp [other], fun _ => trivial, trivial⟩

theorem opens_opening (s : BranchSet) (branch : Branch) : Yields s.Opens (s.opening branch) := by
  intro r made
  cases opened_of_opening s branch r made with
  | error => rfl
  | fixed fixes => exact lets_compare s.offer fixes.not_input fixes.not_input
  | digits => exact lets_digits s _
  | intent => exact lets_intent s _
  | input _ _ _ _ _ _ free => exact lets_keys _ free
  | compare offered =>
    have other : s.offer.isInput = false := by rw [offered]; rfl
    exact lets_compare s.offer other other
  | bucket offered => exact lets_compare _ (by rw [offered]; rfl) rfl

end BranchSet

namespace Workspace

variable {w w' : Workspace} {b : Nat}

theorem relinked_place (w : Workspace) (b : Nat) (node : Handle) (kind : ActionKind) :
    w.graph.Relinked (w.place b node kind).graph ∧
      (w.detached = [] → (w.place b node kind).detached = []) ∧
      (w.place b node kind).sets = w.sets := by
  have linked := w.relinked_link (w.joins.resolve (w.builder b).cursor node.id)
  exact ⟨linked.graph, linked.attached, linked.sets⟩

/-- A new node is added to the graph, and the edges at the cursor are led to it. -/
theorem placeNew_spec (tidy : w.graph.Tidy) {d : Draft} {n : Node} {g : Graph} {hint id : Value}
    (made : w.graph.newNode d.kind hint d.parameters id = .ok (n, g)) :
    (∃ g', w.graph.Grown (complete d n) g' ∧ g'.Relinked (w.placeNew b d n g).graph) ∧
      (w.detached = [] → (w.placeNew b d n g).detached = []) ∧
      (w.placeNew b d n g).sets = w.sets := by
  obtain ⟨grown, _⟩ := Graph.newNode_ok tidy made
  let g' := g.modifyNode n.serial (complete d)
  obtain ⟨relinked, attached, sets⟩ := relinked_place (w.withNode g' n.id) b n.handle d.kind
  refine ⟨⟨g', grown.modifyNode tidy _ ⟨rfl, rfl⟩, relinked⟩, fun none => ?_, sets⟩
  exact attached (by simp [withNode, grown.vacant tidy, none])

theorem Orderly.placeNew (orderly : w.Orderly) {a : Action} {d : Draft} {n : Node} {g : Graph}
    {hint id : Value} (drafted : a.draft = .ok d)
    (made : w.graph.newNode d.kind hint d.parameters id = .ok (n, g)) :
    (w.placeNew b d n g).Orderly := by
  obtain ⟨_, kind, _, bare⟩ := Graph.newNode_ok orderly.tidy made
  obtain ⟨⟨g', grown, relinked⟩, attached, sets⟩ := placeNew_spec orderly.tidy made
  have middle : Orderly { w with graph := g' } :=
    orderly.grown grown orderly.attached (Action.proper_complete drafted kind bare) rfl
  have moved : Relinked { w with graph := g' }
      { w.placeNew b d n g with builders := w.builders } :=
    ⟨relinked, attached, rfl, sets⟩
  exact (middle.relinked moved).congr rfl rfl rfl

theorem Orderly.append (orderly : w.Orderly) (a : Action) (label id : Value) :
    (Builder.append b a label id w).2.Orderly := by
  rcases Builder.append_apply b a label id w with ⟨e, failed⟩ | ⟨d, n, g, drafted, _, made, done⟩
  · rw [failed]
    exact orderly
  · rw [done]
    exact orderly.placeNew drafted made

/-- What an action that was appended leaves behind: a node of its kind that no set owns yet. -/
theorem append_node (orderly : w.Orderly) {a : Action} {label id : Value} {node : Handle}
    (appended : Builder.append b a label id w = (.ok node, w')) :
    (∃ n ∈ w'.graph.toList, n.serial = node.serial ∧ n.id = node.id ∧ n.kind = a.kind ∧
      n.transitions.guards = []) ∧
    ∀ (i : Nat) (t : BranchSet), w'.sets[i]? = some t → t.node.serial ≠ node.serial := by
  obtain ⟨d, n, g, _, drafted, _, _, made, rfl, rfl⟩ := Builder.append_ok appended
  obtain ⟨start, kind, _, bare⟩ := Graph.newNode_ok orderly.tidy made
  obtain ⟨⟨g', grown, f, changed, alike⟩, _, sets⟩ :=
    placeNew_spec (b := b) orderly.tidy made
  constructor
  · refine ⟨f (complete d n), ?_, (alike _).serial, (alike _).id,
      (alike _).kind.trans (kind.trans (Action.draft_kind drafted)), ?_⟩
    · rw [changed.toList, grown.toList]
      exact List.mem_map_of_mem (List.mem_append_right _ (List.mem_singleton_self _))
    · rw [(alike _).guards]
      simp [complete, bare, Transitions.guards]
  · intro i t found same
    rw [sets] at found
    obtain ⟨m, member, serial, _⟩ := orderly.owned i t found
    have below := orderly.tidy.counted m member
    have top : n.serial = w.graph.count := start.serial
    have : m.serial = n.serial := serial.trans same
    omega

theorem branches_found {i : Nat} (known : i < w.sets.size) : w.sets[i]? = some (w.branches i) := by
  simp [branches, known]

theorem branches_setBranches {i : Nat} (known : i < w.sets.size) (s : BranchSet) :
    (w.setBranches i s).branches i = s := by
  simp [branches, setBranches, known]

theorem setBranches_twice (w : Workspace) (i : Nat) (s s' : BranchSet) :
    (w.setBranches i s).setBranches i s' = w.setBranches i s' := by
  simp [setBranches]

theorem Orderly.setBranches (orderly : w.Orderly) {i : Nat} {s s' : BranchSet}
    (found : w.sets[i]? = some s) (node : s'.node = s.node)
    (offer : s'.offer.isInput = s.offer.isInput) (more : s.taken ⊆ s'.taken) :
    (w.setBranches i s').Orderly := by
  refine orderly.of_changed (f := id) ⟨by simp [Workspace.setBranches], rfl, rfl, rfl⟩
    orderly.attached (fun _ _ => ⟨rfl, rfl, rfl⟩) orderly.proper fun j t' there => ?_
  change (w.sets.setIfInBounds i s')[j]? = some t' at there
  rw [Array.getElem?_setIfInBounds] at there
  have knows (t : BranchSet) (old : w.sets[j]? = some t) : ∀ n ∈ w.graph.toList,
      n.serial = t.node.serial → n.kind = .collectInput →
        ∀ g ∈ n.transitions.guards, g.TakenIn t.taken := by
    intro n member here
    obtain ⟨m, inside, serial, _, _, known⟩ := orderly.owned j t old
    rw [Graph.eq_of_serial orderly.tidy member inside (here.trans serial.symm)]
    exact known
  by_cases same : i = j
  · subst same
    rw [if_pos rfl, if_pos (Array.getElem?_eq_some_iff.1 found).1] at there
    cases there
    exact ⟨s, found, node, offer, fun n member here input g among =>
      (knows s found n member here input g among).mono more⟩
  · rw [if_neg same] at there
    exact ⟨t', there, rfl, rfl, knows t' there⟩

theorem Orderly.openError (orderly : w.Orderly) (node : Handle) (join : Option Nat)
    (kind : ErrorKind) : (Builder.openError node join kind w).2.Orderly := by
  rcases Builder.openError_apply node join kind w with ⟨e, failed⟩ | ⟨unhandled, done⟩
  · rw [failed]
    exact orderly
  · rw [done]
    exact (orderly.addError unhandled).congr rfl rfl rfl

theorem Orderly.openBranch (orderly : w.Orderly) {i : Nat} (known : i < w.sets.size)
    (branch : Branch) : (Builder.openBranch i branch w).2.Orderly := by
  have found := branches_found known
  rcases Builder.openBranch_apply i branch w with ⟨e, failed⟩ | ⟨opening, set, opened, done⟩
  · rw [failed]
    exact orderly
  · rw [done]
    have opens := BranchSet.opens_opening (w.branches i) branch _ opened
    cases opening with
    | error kind =>
      have unchanged : set = w.branches i := opens
      have same : (w.setBranches i set).Orderly := orderly.setBranches found (by rw [unchanged])
        (by rw [unchanged]) (by rw [unchanged]; exact List.Subset.refl _)
      exact same.openError ..
    | condition guard key =>
      have lets : (w.branches i).Lets guard key set := opens
      simp only
      rcases Builder.openCondition_apply i guard key (w.setBranches i set) with
        ⟨e, failed⟩ | ⟨free, done⟩
      · rw [failed]
        exact orderly.setBranches found lets.node lets.offer lets.more
      · rw [branches_setBranches known] at free done
        rw [done, setBranches_twice, lets.node]
        have node : (set.take [key]).node = (w.branches i).node := lets.node
        have added := orderly.addBranch found node lets.offer
          (fun k old => List.mem_append_left _ (lets.more old)) lets.input (lets.new free)
          lets.taken
        exact added.congr rfl rfl rfl

theorem Orderly.openHandler (orderly : w.Orderly) (b : Nat) (name : ErrorName) :
    (Builder.openHandler b name w).2.Orderly := by
  rcases Builder.openHandler_apply b name w with ⟨e, failed⟩ | ⟨node, kind, _, _, done⟩
  · rw [failed]
    exact orderly
  · rw [done]
    exact orderly.openError ..

theorem Orderly.appendBranching (orderly : w.Orderly) (b : Nat) (a : Action) (label id : Value) :
    (Builder.appendBranching b a label id w).2.Orderly := by
  rw [Builder.appendBranching_apply]
  have after := orderly.append (b := b) a label id
  cases appended : Builder.append b a label id w with
  | mk result w' =>
    rw [appended] at after
    cases result with
    | error e => exact after
    | ok node =>
      obtain ⟨⟨n, member, serial, name, kind, bare⟩, other⟩ := append_node orderly appended
      refine after.pushSet ⟨n, member, serial, name, ?_, ?_⟩ other
      · rw [kind]
        exact a.offer_isInput
      · intro _ g among
        rw [bare] at among
        cases among

theorem Orderly.jumpTo (orderly : w.Orderly) (b : Nat) (target : Value) :
    (Builder.jumpTo b target w).2.Orderly := by
  rcases Builder.jumpTo_apply b target w with ⟨e, failed⟩ | ⟨_, done⟩
  · rw [failed]
    exact orderly
  · rw [done]
    exact (orderly.relinked (w.relinked_link _)).congr rfl rfl rfl

theorem Orderly.thenContinue (orderly : w.Orderly) (b : Nat) :
    (Builder.thenContinue b w).2.Orderly := by
  rcases Builder.thenContinue_apply b w with ⟨e, failed⟩ | ⟨join, _, _, done⟩
  · rw [failed]
    exact orderly
  · rw [done]
    exact (orderly.relinked (w.relinked_link _)).congr rfl rfl rfl

/-- A node of a kind that is no input. -/
def IsOther (w : Workspace) (serial : Nat) : Prop :=
  ∀ n ∈ w.graph.toList, n.serial = serial → n.kind ≠ .collectInput

theorem IsOther.relinked {serial : Nat} (other : w.IsOther serial) (relinked : w.Relinked w') :
    w'.IsOther serial := by
  obtain ⟨f, changed, alike⟩ := relinked.graph
  intro n member here
  rw [changed.toList] at member
  obtain ⟨m, inside, rfl⟩ := List.mem_map.1 member
  rw [(alike m).kind]
  exact other m inside ((alike m).serial.symm.trans here)

theorem Orderly.openLoop (orderly : w.Orderly) (b : Nat) (times label id : Value) :
    (Builder.openLoop b times label id w).2.Orderly := by
  unfold Builder.openLoop
  rw [BuildM.bind_apply]
  have after := orderly.append (b := b) (.loop times) label id
  cases appended : Builder.append b (.loop times) label id w with
  | mk result w' =>
    rw [appended] at after
    cases result with
    | error e => exact after
    | ok node =>
      obtain ⟨⟨n, member, serial, _, kind, _⟩, _⟩ := append_node orderly appended
      have other : w'.IsOther node.serial := by
        intro m inside here
        rw [Graph.eq_of_serial after.tidy inside member (here.trans serial.symm), kind]
        exact ActionKind.noConfusion
      have back : Relinked w' { w' with joins := (w'.joins.fresh []).2 } :=
        ⟨.refl w'.graph, fun none => none, rfl, rfl⟩
      have linked := back.trans (relinked_link _
        (Joins.resolve (w'.joins.fresh []).2 (w'.joins.fresh []).1 node.id))
      exact ((after.relinked linked).addCondition (other.relinked linked)).congr rfl rfl rfl

theorem Orderly.closeLoop (orderly : w.Orderly) (b : Nat) {node : Handle} (o : OpenBranch)
    (other : w.IsOther node.serial) : (Builder.closeLoop b node o w).2.Orderly := by
  have finish (w' : Workspace) (orderly : w'.Orderly) (other : w'.IsOther node.serial) :
      ((w'.addCondition node.serial (.equals Builder.doneLooping)).2.moveCursor b
        [(w'.addCondition node.serial (.equals Builder.doneLooping)).1]).Orderly :=
    (orderly.addCondition other).congr rfl rfl rfl
  unfold Builder.closeLoop
  rw [BuildM.bind_apply]
  rcases Builder.closeBranch_apply o w with ⟨e, failed⟩ | ⟨_, done⟩
  · rw [failed]
    exact orderly
  · rw [done]
    simp only [BuildM.bind_apply, BuildM.read_apply]
    split
    · simp only [BuildM.bind_apply]
      rcases Builder.thenContinue_apply o.builder w with ⟨e, failed⟩ | ⟨join, _, _, done⟩
      · rw [failed]
        exact orderly
      · rw [done]
        have linked := w.relinked_link (w.joins.forward (w.builder o.builder).cursor join)
        have still := other.relinked linked
        exact finish (w.continued o.builder join) ((orderly.relinked linked).congr rfl rfl rfl) still
    · exact finish w orderly other

/-- The flows made with the builder. The body that closes a loop is one of a loop's. -/
inductive Built : Workspace → Prop
  | start {flow : String} {w : Workspace} (started : Workspace.start flow = .ok w) : Built w
  | append {w : Workspace} (built : Built w) {b : Nat} (known : b < w.builders.size) (a : Action)
      (label id : Value) : Built (Builder.append b a label id w).2
  | appendBranching {w : Workspace} (built : Built w) {b : Nat} (known : b < w.builders.size)
      (a : Action) (label id : Value) : Built (Builder.appendBranching b a label id w).2
  | openBranch {w : Workspace} (built : Built w) {i : Nat} (known : i < w.sets.size)
      (branch : Branch) : Built (Builder.openBranch i branch w).2
  | openHandler {w : Workspace} (built : Built w) {b : Nat} (known : b < w.builders.size)
      (name : ErrorName) : Built (Builder.openHandler b name w).2
  | openLoop {w : Workspace} (built : Built w) {b : Nat} (known : b < w.builders.size)
      (times label id : Value) : Built (Builder.openLoop b times label id w).2
  | closeLoop {w : Workspace} (built : Built w) {b : Nat} (known : b < w.builders.size)
      {node : Handle} {n : Node} (found : w.node? node.serial = some n) (loop : n.kind = .loop)
      {o : OpenBranch} (known' : o.builder < w.builders.size) :
      Built (Builder.closeLoop b node o w).2
  | jumpTo {w : Workspace} (built : Built w) {b : Nat} (known : b < w.builders.size)
      (target : Value) : Built (Builder.jumpTo b target w).2
  | thenContinue {w : Workspace} (built : Built w) {b : Nat} (known : b < w.builders.size) :
      Built (Builder.thenContinue b w).2

/-- However a flow is built, it is orderly. -/
theorem Built.orderly (built : Built w) : w.Orderly := by
  induction built with
  | start started => exact .start started
  | append _ _ a label id ih => exact ih.append a label id
  | appendBranching _ _ a label id ih => exact ih.appendBranching _ a label id
  | openBranch _ known branch ih => exact ih.openBranch known branch
  | openHandler _ _ name ih => exact ih.openHandler _ name
  | openLoop _ _ times label id ih => exact ih.openLoop _ times label id
  | closeLoop _ _ found loop _ ih =>
    refine ih.closeLoop _ _ fun n member here => ?_
    have same := (node?_eq_some ih.tidy ih.attached).2 ⟨member, here⟩
    rw [found] at same
    cases same
    rw [loop]
    exact ActionKind.noConfusion
  | jumpTo _ _ target ih => exact ih.jumpTo _ target
  | thenContinue _ _ ih => exact ih.thenContinue _

end Workspace

/-! ### Sessions

The calls of a session come in any order. While the body of a loop is filled, the builder that the
loop was appended to takes no calls of its own: a handler uses the builder that it was given.
-/

namespace Workspace

/-- The workspace with the body of a loop opened, whose join point leads back to the loop. -/
def withBody (w : Workspace) (node : Handle) : Workspace :=
  let (back, w) := w.freshJoin []
  (w.resolve back node.id).withCondition node.serial (.equals Builder.continueLooping) back

/-- The workspace with a way out of a loop, at which the builder of the loop stands then. -/
def withExit (w : Workspace) (b node : Nat) : Workspace :=
  let (slot, w) := w.addCondition node (.equals Builder.doneLooping)
  w.moveCursor b [slot]

end Workspace

namespace Builder

open BuildM

/-- A loop that cannot be appended leaves everything as it was. -/
theorem openLoop_apply (b : Nat) (times label id : Value) (w : Workspace) :
    (∃ e, openLoop b times label id w = (.error e, w)) ∨
    ∃ node w₁, append b (.loop times) label id w = (.ok node, w₁) ∧
      openLoop b times label id w =
        (.ok (node, ⟨w₁.builders.size, "loop body"⟩), w₁.withBody node) := by
  unfold openLoop
  rw [bind_apply]
  rcases append_apply b (.loop times) label id w with ⟨e, failed⟩ | ⟨d, n, g, drafted, _, _, done⟩
  · rw [failed]
    exact .inl ⟨e, rfl⟩
  · have once : d.retry = .good none :=
      (Action.draft_plain (.loop times) nofun d drafted).2.2.2
    rw [once] at done
    rw [done]
    generalize w.placeNew b d n g = w₁
    let w₂ := (w₁.freshJoin []).2.resolve w₁.joins.size n.handle.id
    have size : w₂.builders.size = w₁.builders.size :=
      congrArg Array.size (Workspace.relinked_link (w₁.freshJoin []).2 _).builders
    have opened : (Except.ok (n.handle, ⟨w₂.builders.size, "loop body"⟩), w₁.withBody n.handle) =
        ((.ok (n.handle, ⟨w₁.builders.size, "loop body"⟩), w₁.withBody n.handle) :
          Except UsageError (Handle × OpenBranch) × Workspace) := by rw [size]
    exact .inr ⟨n.handle, w₁, rfl, opened⟩

/-- A loop that was opened had its node placed first. -/
theorem openLoop_ok {w w' : Workspace} {b : Nat} {times label id : Value} {node : Handle}
    {o : OpenBranch} (opened : openLoop b times label id w = (.ok (node, o), w')) :
    ∃ v, append b (.loop times) label id w = (.ok node, v) ∧ o = ⟨v.builders.size, "loop body"⟩ ∧
      w' = v.withBody node := by
  rcases openLoop_apply b times label id w with ⟨e, failed⟩ | ⟨node', v, appended, done⟩
  · rw [failed] at opened
    cases opened
  · rw [done] at opened
    cases opened
    exact ⟨v, appended, rfl, rfl⟩

/-- The body of a loop that was not left otherwise is led back to the loop. -/
theorem closeLoop_apply (b : Nat) (node : Handle) (o : OpenBranch) (w : Workspace) :
    (∃ e, closeLoop b node o w = (.error e, w)) ∨
    (w.builder o.builder).status ≠ .opened ∧
      closeLoop b node o w = (.ok (), w.withExit b node.serial) ∨
    ∃ join, (w.builder o.builder).status = .opened ∧
      (w.builder o.builder).scope = .branch (some join) ∧
      closeLoop b node o w = (.ok (), (w.continued o.builder join).withExit b node.serial) := by
  unfold closeLoop
  rw [bind_apply]
  rcases closeBranch_apply o w with ⟨e, failed⟩ | ⟨_, done⟩
  · rw [failed]
    exact .inl ⟨e, rfl⟩
  · rw [done]
    simp only [bind_apply, read_apply]
    by_cases opened : (w.builder o.builder).status = .opened
    · rw [if_pos opened]
      rcases thenContinue_apply o.builder w with ⟨e, failed⟩ | ⟨join, _, scope, done⟩
      · rw [bind_apply, failed]
        exact .inl ⟨e, rfl⟩
      · rw [bind_apply, done]
        exact .inr (.inr ⟨join, opened, scope, rfl⟩)
    · rw [if_neg opened]
      exact .inr (.inl ⟨opened, rfl⟩)

theorem closeLoop_ok {w w' : Workspace} {b : Nat} {node : Handle} {o : OpenBranch}
    (closed : closeLoop b node o w = (.ok (), w')) :
    (w.builder o.builder).status ≠ .opened ∧ w' = w.withExit b node.serial ∨
    ∃ join, (w.builder o.builder).status = .opened ∧
      (w.builder o.builder).scope = .branch (some join) ∧
      w' = (w.continued o.builder join).withExit b node.serial := by
  rcases closeLoop_apply b node o w with
    ⟨e, failed⟩ | ⟨left, done⟩ | ⟨join, opened, scope, done⟩
  · rw [failed] at closed
    cases closed
  · rw [done] at closed
    cases closed
    exact .inl ⟨left, rfl⟩
  · rw [done] at closed
    cases closed
    exact .inr ⟨join, opened, scope, rfl⟩

end Builder

namespace Workspace

/-- A loop whose body is not closed: the builder that it was appended to, its node, and its body. It
is given up when filling the body fails. -/
structure OpenLoop where
  builder : Nat
  node : Handle
  body : OpenBranch
  givenUp : Bool := false
  deriving DecidableEq, Repr

/-- No loop of the builder has a body that is still being filled. -/
def Free (loops : List OpenLoop) (b : Nat) : Prop :=
  ∀ l ∈ loops, l.builder = b → l.givenUp = true

theorem free_nil (b : Nat) : Free [] b := fun _ among => absurd among List.not_mem_nil

/-- The flows that come of sessions in which such actions are asked for, with the loops that are not
closed. -/
inductive Session (asks : Action → Prop) : Workspace → List OpenLoop → Prop
  | start {flow : String} {w : Workspace} (started : Workspace.start flow = .ok w) :
      Session asks w []
  | append {w : Workspace} {loops : List OpenLoop} (session : Session asks w loops) {b : Nat}
      (known : b < w.builders.size) (free : Free loops b) {a : Action} (asked : asks a)
      (plain : a.offer = .nothing) (other : a.kind ≠ .loop) (label id : Value) :
      Session asks (Builder.append b a label id w).2 loops
  | appendBranching {w : Workspace} {loops : List OpenLoop} (session : Session asks w loops)
      {b : Nat} (known : b < w.builders.size) (free : Free loops b) {a : Action} (asked : asks a)
      (offers : a.offer ≠ .nothing) (label id : Value) :
      Session asks (Builder.appendBranching b a label id w).2 loops
  | openBranch {w : Workspace} {loops : List OpenLoop} (session : Session asks w loops) {i : Nat}
      (known : i < w.sets.size) (branch : Branch) :
      Session asks (Builder.openBranch i branch w).2 loops
  | openHandler {w : Workspace} {loops : List OpenLoop} (session : Session asks w loops) {b : Nat}
      (known : b < w.builders.size) (free : Free loops b) (name : ErrorName) :
      Session asks (Builder.openHandler b name w).2 loops
  | openLoop {w w' : Workspace} {loops : List OpenLoop} (session : Session asks w loops) {b : Nat}
      (known : b < w.builders.size) (free : Free loops b) {times : Value}
      (asked : asks (.loop times)) {label id : Value} {node : Handle} {o : OpenBranch}
      (opened : Builder.openLoop b times label id w = (.ok (node, o), w')) :
      Session asks w' (⟨b, node, o, false⟩ :: loops)
  | closeLoop {w w' : Workspace} {loops : List OpenLoop} (session : Session asks w loops)
      {l : OpenLoop} (among : l ∈ loops) (current : l.givenUp = false)
      (free : Free loops l.body.builder)
      (closed : Builder.closeLoop l.builder l.node l.body w = (.ok (), w')) :
      Session asks w' (loops.erase l)
  | giveUp {w : Workspace} {loops : List OpenLoop} (session : Session asks w loops)
      {l : OpenLoop} (among : l ∈ loops) :
      Session asks w ({ l with givenUp := true } :: loops.erase l)
  | jumpTo {w : Workspace} {loops : List OpenLoop} (session : Session asks w loops) {b : Nat}
      (known : b < w.builders.size) (free : Free loops b) (target : Value) :
      Session asks (Builder.jumpTo b target w).2 loops
  | thenContinue {w : Workspace} {loops : List OpenLoop} (session : Session asks w loops) {b : Nat}
      (known : b < w.builders.size) (free : Free loops b) :
      Session asks (Builder.thenContinue b w).2 loops

end Workspace

end ContactFlow
