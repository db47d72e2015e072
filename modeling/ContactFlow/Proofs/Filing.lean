import ContactFlow.Proofs.Calls

/-!
How a set of branches files the conditions of its node. Every condition has a key, or two if it matches
keypad entries and intents alike. A set lets a condition be whose keys are not taken, and they are
taken from then on: that is why no condition is there twice, and no key is shared.
-/

namespace ContactFlow

namespace Guard

/-- Two matches on input that the same entry or the same intent satisfies. -/
def Shares : Guard → Guard → Prop
  | .input digits intent, .input digits' intent' =>
    (∃ d ∈ digits, ∃ d' ∈ digits', d.sameKey d') ∨ ∃ i ∈ intent, ∃ i' ∈ intent', i.sameKey i'
  | _, _ => False

/-- A match on input that stages in such modes can meet. -/
def Fits (modes : List InputMode) : Guard → Prop
  | .input digits intent =>
    (digits.isSome ∨ intent.isSome) ∧ (digits.isSome → .keypad ∈ modes) ∧
      (intent.isSome → .speech ∈ modes)
  | .compare .. => False

end Guard

namespace Node

/-- The modes of the stages in which a node is going to take input. -/
def modes (n : Node) : List InputMode :=
  match n.spec with
  | some spec =>
    spec.primary.mode :: (if spec.enableFallback then spec.fallback.toList.map (·.mode) else [])
  | none => n.mode.toList

/-- Inputs have matches on input, and all other nodes have comparisons. -/
def Admits (n : Node) (g : Guard) : Prop :=
  (n.kind = .collectInput → g.Fits n.modes) ∧ (n.kind ≠ .collectInput → g.isInput = false)

/-- What holds of the conditions of every node that is built, and of the stages that take them. -/
structure Clear (n : Node) : Prop where
  valid : ∀ s, n.spec = some s → s.Valid
  distinct : n.transitions.guards.Nodup
  apart : n.transitions.guards.Pairwise fun g g' => ¬ g.Shares g'
  admitted : ∀ g ∈ n.transitions.guards, n.Admits g

/-- The second node has the conditions of the first one, and takes input in the same stages. -/
structure Regards (n m : Node) : Prop where
  serial : m.serial = n.serial
  kind : m.kind = n.kind
  spec : m.spec = n.spec
  mode : m.mode = n.mode
  guards : m.transitions.guards = n.transitions.guards

variable {n m : Node} {g : Guard}

theorem Regards.refl (n : Node) : Regards n n := ⟨rfl, rfl, rfl, rfl, rfl⟩

theorem Alike.regards (alike : Alike m n) : Regards n m :=
  ⟨alike.serial, alike.kind, alike.spec, alike.mode, alike.guards⟩

theorem Regards.modes (regards : Regards n m) : m.modes = n.modes := by
  unfold Node.modes
  rw [regards.spec, regards.mode]

theorem Admits.regards (admits : n.Admits g) (regards : Regards n m) : m.Admits g := by
  unfold Admits
  rw [regards.kind, regards.modes]
  exact admits

theorem Clear.regards (clear : n.Clear) (regards : Regards n m) : m.Clear where
  valid := regards.spec ▸ clear.valid
  distinct := regards.guards ▸ clear.distinct
  apart := regards.guards ▸ clear.apart
  admitted := by
    rw [regards.guards]
    exact fun g among => (clear.admitted g among).regards regards

theorem Clear.plusCondition (clear : n.Clear) (admits : n.Admits g)
    (new : ∀ g' ∈ n.transitions.guards, g' ≠ g ∧ ¬ g'.Shares g) : (n.plusCondition g).Clear := by
  refine ⟨clear.valid, ?_, ?_, ?_⟩
  · rw [guards_plusCondition]
    refine clear.distinct.append (List.nodup_singleton g) ?_
    simpa using fun among => (new g among).1 rfl
  · rw [guards_plusCondition, List.pairwise_append]
    refine ⟨clear.apart, List.pairwise_singleton _ g, fun g' among h added => ?_⟩
    rw [List.mem_singleton.1 added]
    exact (new g' among).2
  · intro g' among
    rw [guards_plusCondition, List.mem_append, List.mem_singleton] at among
    rcases among with old | rfl
    · exact clear.admitted g' old
    · exact admits

end Node

namespace Offer

/-- The nodes that make an offer. -/
def MadeBy (n : Node) : Offer → Prop
  | .nothing => False
  | .input modes => n.kind = .collectInput ∧ n.modes = modes
  | .comparison => n.kind = .checkAttribute
  | .hours => n.kind = .checkHours
  | .staffing => n.kind = .checkStaffing
  | .percent _ => n.kind = .branch

/-- The keys under which a condition is filed. -/
def keys : Offer → Guard → List (List Scalar)
  | .input _, .input digits intent => BranchSet.inputKeys digits intent
  | .comparison, .compare operator operands => [.text operator :: operands]
  | .hours, .compare _ operands =>
    if operands = [.text "True"] then [[.text "in_hours"]] else [[.text "out_of_hours"]]
  | .staffing, .compare .. => [[.text "staffed"]]
  | .percent _, .compare _ operands => [.text "bucket" :: operands]
  | _, _ => []

/-- The same offer, perhaps with another share given out. -/
inductive Like : Offer → Offer → Prop
  | refl (o : Offer) : Like o o
  | percent (a b : Scalar) : Like (.percent a) (.percent b)

variable {o o' : Offer} {n m : Node}

theorem Like.keys (like : Like o o') (g : Guard) : o.keys g = o'.keys g := by
  cases like with
  | refl => rfl
  | percent => cases g <;> rfl

theorem Like.madeBy (like : Like o o') : o.MadeBy n ↔ o'.MadeBy n := by
  cases like <;> rfl

theorem MadeBy.regards (made : o.MadeBy n) (regards : Node.Regards n m) : o.MadeBy m := by
  cases o <;> simp_all [MadeBy, regards.kind, regards.modes]

theorem MadeBy.not_loop (made : o.MadeBy n) : n.kind ≠ .loop := by
  cases o <;> simp_all [MadeBy]

end Offer

namespace BranchSet

variable {s s' : BranchSet} {g g' : Guard} {key : List Scalar}

/-- A set knows a condition when its keys are taken. -/
def Knows (s : BranchSet) (g : Guard) : Prop :=
  s.offer.keys g ≠ [] ∧ ∀ key ∈ s.offer.keys g, key ∈ s.taken

theorem Knows.mono (known : s.Knows g) (like : s.offer.Like s'.offer) (more : s.taken ⊆ s'.taken) :
    s'.Knows g := by
  unfold Knows
  rw [← like.keys]
  exact ⟨known.1, fun key among => more (known.2 key among)⟩

theorem taken_of_mem (among : key ∈ s.taken) (other : List Scalar) (same : sameKeys other key) :
    s.isTaken other := List.any_eq_true.2 ⟨key, among, same⟩

/-- A condition whose keys are free is none of those that the set knows, and shares no key with
them. -/
theorem Knows.apart (known : s.Knows g) (free : ∀ key ∈ s.offer.keys g', s.isTaken key = false) :
    g ≠ g' ∧ ¬ g.Shares g' := by
  obtain ⟨filed, taken⟩ := known
  constructor
  · rintro rfl
    obtain ⟨key, among⟩ := List.exists_mem_of_ne_nil _ filed
    have again := taken_of_mem (taken key among) key (sameKeys_refl key)
    rw [free key among] at again
    cases again
  · intro shares
    cases g with
    | compare => exact shares
    | input digits intent =>
      cases g' with
      | compare => exact shares
      | input digits' intent' =>
        cases offered : s.offer with
        | input modes =>
          simp only [offered, Offer.keys, inputKeys, List.mem_append, Option.mem_toList,
            Option.map_eq_some_iff] at taken free
          rcases shares with ⟨d, given, d', given', same⟩ | ⟨i, given, i', given', same⟩
          · have here := taken _ (.inl ⟨d, given, rfl⟩)
            have again := taken_of_mem here [.text "digits", d']
              (by simp [sameKeys, Scalar.sameKey_refl, Scalar.sameKey_comm d', same])
            rw [free _ (.inl ⟨d', given', rfl⟩)] at again
            cases again
          · have here := taken _ (.inr ⟨i, given, rfl⟩)
            have again := taken_of_mem here [.text "intent", i']
              (by simp [sameKeys, Scalar.sameKey_refl, Scalar.sameKey_comm i', same])
            rw [free _ (.inr ⟨i', given', rfl⟩)] at again
            cases again
        | _ => simp [offered, Offer.keys] at filed

/-- What a set comes to when it lets a condition be under a key. -/
structure Files (s : BranchSet) (g : Guard) (key : List Scalar) (s' : BranchSet) : Prop where
  like : s.offer.Like s'.offer
  more : s.taken ⊆ s'.taken
  filed : s.offer.keys g ≠ []
  taken : ∀ k ∈ s.offer.keys g, k ∈ s'.taken ++ [key]
  free : s'.isTaken key = false → ∀ k ∈ s.offer.keys g, s.isTaken k = false
  admits : ∀ n, s.offer.MadeBy n → n.Admits g

/-- What a set opens: a condition that it files, or an error, which leaves it as it is. -/
def Records (s : BranchSet) : Opening × BranchSet → Prop
  | (.condition guard key, s') => s.Files guard key s'
  | (.error _, s') => s' = s

/-- A condition that is filed under the key of the branch alone. -/
theorem files_single {o : Offer} (like : s.offer.Like o) (only : s.offer.keys g = [key])
    (admits : ∀ n, s.offer.MadeBy n → n.Admits g) : s.Files g key { s with offer := o } where
  like := like
  more := List.Subset.refl _
  filed := by simp [only]
  taken := by simp [only]
  free := by simp [only, isTaken]
  admits := admits

theorem admits_compare {operator : String} {operands : List Scalar} {n : Node}
    (other : n.kind ≠ .collectInput) : n.Admits (.compare operator operands) :=
  ⟨fun input => absurd input other, fun _ => rfl⟩

theorem admits_input {modes : List InputMode} (offered : s.offer = .input modes)
    (fits : g.Fits modes) : ∀ n, s.offer.MadeBy n → n.Admits g := by
  intro n made
  rw [offered] at made
  exact ⟨fun _ => made.2.symm ▸ fits, fun other => absurd made.1 other⟩

theorem isSome_entered {v : Value} {x : Option Scalar} (read : entered v = .ok x) :
    x.isSome = isGiven v := by
  obtain ⟨s, known, rfl⟩ := Results.map_eq_ok.1 read
  have found := Results.ok_of_mapError known
  cases v with
  | scalar s' =>
    cases found
    cases s <;> rfl
  | _ => cases found

theorem fits_digits {modes : List InputMode} {d : Scalar} (met : .keypad ∈ modes) :
    (Guard.input (some d) none).Fits modes := ⟨.inl rfl, fun _ => met, nofun⟩

theorem fits_intent {modes : List InputMode} {i : Scalar} (met : .speech ∈ modes) :
    (Guard.input none (some i)).Fits modes := ⟨.inr rfl, nofun, fun _ => met⟩

/-- A branch for input files each of its keys. -/
theorem files_input {modes : List InputMode} {d i : Option Scalar}
    (offered : s.offer = .input modes) (fits : (Guard.input d i).Fits modes) (key : List Scalar)
    (free : (inputKeys d i).find? s.isTaken = none) :
    s.Files (.input d i) key (s.take (inputKeys d i)) := by
  have keys : s.offer.keys (.input d i) = inputKeys d i := by rw [offered]; rfl
  exact
    { like := .refl _
      more := List.subset_append_left _ _
      filed := by
        rw [keys]
        cases d <;> cases i <;> simp_all [inputKeys, Guard.Fits]
      taken := fun k among =>
        List.mem_append_left _ (List.mem_append_right _ (keys ▸ among))
      free := fun _ k among => by simpa using List.find?_eq_none.1 free k (keys ▸ among)
      admits := admits_input offered fits }

theorem Fixes.keys {offer : Offer} {b : Branch} {operator : String} {operands : List Scalar}
    (fixes : Fixes offer b operator operands key) :
    offer.keys (.compare operator operands) = [key] := by cases fixes <;> rfl

theorem Fixes.made {offer : Offer} {b : Branch} {operator : String} {operands : List Scalar}
    (fixes : Fixes offer b operator operands key) {n : Node} (made : offer.MadeBy n) :
    n.kind ≠ .collectInput := by cases fixes <;> simp_all [Offer.MadeBy]

theorem records_opening (s : BranchSet) {branch : Branch} (given : branch.Given) :
    Yields s.Records (s.opening branch) := by
  intro r made
  cases opened_of_opening s branch r made with
  | error => rfl
  | fixed fixes => exact files_single (.refl _) fixes.keys fun _ made => admits_compare (fixes.made made)
  | digits offered met read =>
    obtain ⟨d, rfl⟩ := Option.isSome_iff_exists.1 ((isSome_entered read).trans given)
    exact files_single (.refl _) (by rw [offered]; rfl) (admits_input offered (fits_digits met))
  | intent offered met read =>
    obtain ⟨i, rfl⟩ := Option.isSome_iff_exists.1 ((isSome_entered read).trans given)
    exact files_single (.refl _) (by rw [offered]; rfl) (admits_input offered (fits_intent met))
  | @input modes _ _ d i offered either keypad speech read read' free =>
    have fits : (Guard.input d i).Fits modes := by
      rw [Guard.Fits, isSome_entered read, isSome_entered read']
      exact ⟨either, keypad, speech⟩
    exact files_input offered fits _ free
  | compare offered =>
    exact files_single (.refl _) (by rw [offered]; rfl)
      fun n made => admits_compare (by simp_all [Offer.MadeBy])
  | @bucket allocated _ sum offered =>
    refine files_single ?_ (by rw [offered]; rfl)
      fun n made => admits_compare (by simp_all [Offer.MadeBy])
    rw [offered]
    exact .percent allocated sum

end BranchSet

end ContactFlow
