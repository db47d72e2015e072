import ContactFlow.Proofs.Depth
import ContactFlow.Proofs.Entries
import ContactFlow.Proofs.Headings
import ContactFlow.Proofs.Threading

/-!
What an input is asked to take, and where callers are led by what they enter or say. The data of an input
has entries for digits, for intents, and for both together. Its node has one condition for each entry that
is kept, which leads to where the steps of the entry begin. Entries for the same digits, or for the same
intent, are refused, except that of several keys for one text only the last counts, in the place of the
first: the other entries are gone before there is anything to refuse.
-/

namespace ContactFlow

open Checked (Gives)

namespace Checked

variable {α : Type}

def toOption : Checked α → Option α
  | .good a => some a
  | .bad _ => none

theorem toOption_eq_some {x : Checked α} {a : α} : x.toOption = some a ↔ x = .good a := by
  cases x <;> simp [toOption]

end Checked

/-- An entry of an input: what callers enter or say for it, and the data of its steps. -/
structure InputEntry where
  digits : Option String
  intent : Option String
  steps : Value

namespace InputEntry

def byDigits (e : String × Value) : InputEntry := ⟨some e.1, none, e.2⟩

def byIntent (e : String × Value) : InputEntry := ⟨none, some e.1, e.2⟩

/-- A case of an input, which may be for digits and for an intent. -/
def ofCase : Value → InputEntry
  | .table c => {
      digits := match Table.maybe c "digits" Step.digits with
        | .good digits => digits
        | .bad _ => none
      intent := match Table.maybe c "intent" Read.text with
        | .good intent => intent
        | .bad _ => none
      steps := (Table.get? c "steps").getD .null }
  | _ => ⟨none, none, .null⟩

/-- The match by which callers are led to the steps of an entry. -/
def guard (x : InputEntry) : Guard := .input (x.digits.map .text) (x.intent.map .text)

/-- No digits and no intent are for both entries. -/
def Apart (x y : InputEntry) : Prop :=
  (∀ d ∈ x.digits, d ∉ y.digits) ∧ ∀ i ∈ x.intent, i ∉ y.intent

theorem apart_of_guards {x y : InputEntry} (apart : x.guard.Apart y.guard) : x.Apart y := by
  obtain ⟨digits, intents⟩ := apart
  constructor
  · exact fun d given given' => digits (.text d) (by simpa using given) (by simpa using given')
  · exact fun i given given' => intents (.text i) (by simpa using given) (by simpa using given')

end InputEntry

namespace Value

def pairs : Value → Table
  | .table t => t
  | _ => []

end Value

namespace Table

variable (t : Table)

/-- The entries for digits, each with the text that its key stands for. -/
def digitPairs : List (String × Value) :=
  ((t.get? "digits").elim [] Value.pairs).map fun e => (e.1.display, e.2)

/-- The entries for intents, each with the name that its key spells. -/
def intentPairs : List (String × Value) :=
  ((t.get? "intents").elim [] Value.pairs).map fun e => ((Read.name? e.1).getD e.1.display, e.2)

def inputCases : List InputEntry :=
  ((t.get? "inputs").elim [] Value.listed).map .ofCase

/-- All that an input is asked to take. -/
def inputEntries : List InputEntry :=
  t.digitPairs.map .byDigits ++ t.intentPairs.map .byIntent ++ t.inputCases

/-- What is left of that when the entries for one text, and those for one name, have been merged. -/
def keptEntries : List InputEntry :=
  (Ordered.collect t.digitPairs).map .byDigits ++ (Ordered.collect t.intentPairs).map .byIntent ++
    t.inputCases

/-- No two keys of the digits stand for one text, and no two keys of the intents spell one name. -/
def Distinguishes : Prop :=
  (Ordered.keys t.digitPairs).Nodup ∧ (Ordered.keys t.intentPairs).Nodup

instance : Decidable t.Distinguishes := inferInstanceAs (Decidable (_ ∧ _))

end Table

namespace Table

/-- A table whose keys are texts. -/
def texts (l : List (String × Value)) : Table := l.map fun e => (.text e.1, e.2)

theorem set_texts {l : List (String × Value)} (distinct : (Ordered.keys l).Nodup) (k : String)
    (v : Value) : (texts l).set (.text k) v = texts (Ordered.put l k v) := by
  have there : ((texts l).any fun e => e.1.sameKey (.text k)) = Ordered.contains l k := by
    rw [texts, List.any_map, Ordered.contains]
    exact congrArg (List.any l) (funext fun e => Scalar.sameKey_text e.1 k)
  unfold set
  rw [there]
  split
  · rename_i known
    rw [Ordered.put_known distinct (Ordered.contains_iff.1 known), texts, texts, List.map_map,
      List.map_map]
    refine List.map_congr_left fun e _ => ?_
    simp only [Function.comp, Scalar.sameKey_text]
    split
    · rename_i same
      rw [beq_iff_eq.1 same]
    · rfl
  · rename_i fresh
    rw [Ordered.put_fresh fun known => fresh (Ordered.contains_iff.2 known), texts, texts,
      List.map_append]
    rfl

/-- Entries set one after another under texts are those that are left when they are merged. -/
theorem foldl_set (es : Table) :
    es.foldl (fun t e => Table.set t (.text e.1.display) e.2) [] =
      texts (Ordered.collect (es.map fun e => (e.1.display, e.2))) := by
  induction es using List.reverseRecOn with
  | nil => rfl
  | append_singleton es e ih =>
    rw [List.foldl_append, ih, List.map_append, List.map_singleton, Ordered.collect_concat,
      ← set_texts (Ordered.nodup_collect _)]
    rfl

end Table

namespace Read

variable {α : Type} {read : Value → Checked α} {es : Table}

theorem each_anything {found : List (String × α)} (done : Checked.each (entry read) es = .good found) :
    Checked.each (entry anything) es =
      .good (es.map fun e => ((name? e.1).getD e.1.display, e.2)) := by
  induction es generalizing found with
  | nil => rfl
  | cons e rest ih =>
    rw [Checked.each_cons] at done
    obtain ⟨_, others, first, later, rfl⟩ := Checked.seq_good done
    obtain ⟨_, here, rfl⟩ := Checked.map_good first
    obtain ⟨_, a, named, value, rfl⟩ := Checked.seq_good here
    obtain ⟨s, spelled, rfl⟩ := Checked.map_good named
    have name : name? e.1 = some s := by rw [name?, spelled]
    rw [Checked.each_cons, ih later, entry, spelled, List.map_cons, name]
    rfl

theorem entries_of_each {raw : List (String × Value)}
    (done : Checked.each (entry anything) es = .good raw) :
    (Value.table es).entries = Ordered.collect raw := by
  rw [Value.entries, tableOf_table, done]
  rfl

theorem entries_texts (l : List (String × Value)) :
    (Value.table (Table.texts l)).entries = Ordered.collect l := by
  have each : Checked.each (entry anything) (Table.texts l) = .good l := by
    induction l with
    | nil => rfl
    | cons e rest ih =>
      rw [Table.texts, List.map_cons, Checked.each_cons, ← Table.texts, ih]
      rfl
  exact entries_of_each each

end Read

/-! ### Reading the entries -/

namespace Step

variable {steps : Lists} {d : Nat}

theorem entries_withTextKeys {v v' : Value} (read : withTextKeys v = .good v') :
    v'.entries = Ordered.collect (v.pairs.map fun e => (e.1.display, e.2)) := by
  unfold withTextKeys at read
  split at read
  · split at read
    · cases read
      rw [Table.foldl_set, Read.entries_texts, Ordered.collect_of_nodup (Ordered.nodup_collect _)]
      rfl
    · cases read
  · rename_i other
    cases read
    cases v with
    | table es => exact absurd rfl (other es)
    | cycle keyed => cases keyed <;> rfl
    | _ => rfl

theorem gives_itself {α : Type} (x : Checked α) : Gives (fun a => x = .good a) x := fun _ read => read

theorem gives_entries (steps : Lists) (v : Value) :
    Gives (Ordered.Alike (fun found v => steps v = .good found) · v.entries) (Read.tableOf steps v) :=
  Read.follows_tableOf (fun v => gives_itself (steps v)) v

/-- The lists of steps for digits are read from the entries that are kept for them. -/
theorem gives_digits (steps : Lists) (t : Table) :
    Gives (Ordered.Alike (fun found v => steps v = .good found) · (Ordered.collect t.digitPairs))
      (t.optional "digits" [] fun v => (withTextKeys v).andThen (Read.tableOf steps)) := by
  refine Table.gives_field (fun missing => ?_) fun v here => .andThen fun v' read => ?_
  · rw [Table.digitPairs, missing]
    exact .nil
  · have follows := gives_entries steps v'
    rw [entries_withTextKeys read] at follows
    rw [Table.digitPairs, here]
    exact follows

/-- The lists of steps for intents are read from the entries that are kept for them. -/
theorem gives_intents (steps : Lists) (t : Table) :
    Gives (Ordered.Alike (fun found v => steps v = .good found) · (Ordered.collect t.intentPairs))
      (t.optional "intents" [] (Read.tableOf steps)) := by
  refine Table.gives_field (fun missing => ?_) fun v here => ?_
  · rw [Table.intentPairs, missing]
    exact .nil
  · intro found read
    have follows := gives_entries steps v found read
    rw [Table.intentPairs, here]
    cases v with
    | table es =>
      obtain ⟨l, done, rfl⟩ := Checked.map_good read
      rw [Read.entries_of_each (Read.each_anything done)] at follows
      exact follows
    | cycle keyed => cases keyed <;> cases read
    | _ => cases read

/-- A branch is that of an entry: for what callers enter or say for it, with the steps read from its
data. -/
structure Makes (e : Branch × List Step) (x : InputEntry) : Prop where
  exit : ∀ share, e.1.exit share = .condition x.guard
  share : ∀ before, e.1.share before = before
  steps : listOf x.steps = .good e.2

theorem listOf_good (shallow : d ≤ maxDepth) {v : Value} {found : List Step}
    (read : listIn d v = .good found) : listOf v = .good found := below_listIn d shallow v found read

theorem makes_digits (shallow : d ≤ maxDepth) {found : List (String × List Step)}
    {l : List (String × Value)}
    (alike : Ordered.Alike (fun found v => listIn d v = .good found) found l) :
    List.Forall₂ Makes (found.map fun e => (.digits (.text e.1), e.2)) (l.map .byDigits) := by
  rw [List.forall₂_map_left_iff, List.forall₂_map_right_iff]
  refine alike.imp fun e x ⟨key, read⟩ => ⟨fun _ => ?_, fun _ => rfl, listOf_good shallow read⟩
  rw [key]
  rfl

theorem makes_intents (shallow : d ≤ maxDepth) {found : List (String × List Step)}
    {l : List (String × Value)}
    (alike : Ordered.Alike (fun found v => listIn d v = .good found) found l) :
    List.Forall₂ Makes (found.map fun e => (.intent (.text e.1), e.2)) (l.map .byIntent) := by
  rw [List.forall₂_map_left_iff, List.forall₂_map_right_iff]
  refine alike.imp fun e x ⟨key, read⟩ => ⟨fun _ => ?_, fun _ => rfl, listOf_good shallow read⟩
  rw [key]
  rfl

theorem gives_case (shallow : d ≤ maxDepth) (v : Value) :
    Gives (Makes · (.ofCase v)) (Read.record (inputCase (listIn d)) v) := by
  intro e read
  cases v with
  | table c =>
    have read : inputCase (listIn d) c = .good e := read
    obtain ⟨_, steps, first, body, rfl⟩ := Checked.seq_good (Checked.seqLeft_good read)
    obtain ⟨_, intent, second, said, rfl⟩ := Checked.seq_good first
    obtain ⟨digits, entered, rfl⟩ := Checked.map_good second
    have needed : Gives (fun found => ∃ v, Table.get? c "steps" = some v ∧ listIn d v = .good found)
        (Table.required c "steps" (someSteps (listIn d))) :=
      Table.gives_needed fun v here => Read.keeps_nonEmpty fun found read => ⟨v, here, read⟩
    obtain ⟨v, here, read⟩ := needed steps body
    have entry : InputEntry.ofCase (.table c) = ⟨digits, intent, v⟩ := by
      rw [InputEntry.ofCase, entered, said, here]
      rfl
    rw [entry]
    refine ⟨fun _ => ?_, fun _ => rfl, listOf_good shallow read⟩
    cases digits <;> cases intent <;> rfl
  | cycle keyed => cases keyed <;> cases read
  | _ => cases read

/-- A branch for an error, which adds no condition. -/
structure ForError (b : Branch) : Prop where
  exit : ∀ share, (b.exit share).guard? = none
  share : ∀ before, b.share before = before

/-- The branches of an input are those of the entries that are kept, in their order, and then those for
errors. -/
def Takes (t : Table) (branches : Branches) : Prop :=
  ∃ made others, branches = made ++ others ∧ List.Forall₂ Makes made t.keptEntries ∧
    ∀ e ∈ others, ForError e.1

theorem concat_good {parts : List (Checked Branches)} {found : Branches}
    (read : concat parts = .good found) :
    ∃ lists, List.Forall₂ (fun p l => p = .good l) parts lists ∧ found = lists.flatten := by
  obtain ⟨lists, each, rfl⟩ := Checked.map_good read
  refine ⟨lists, ?_, rfl⟩
  clear read
  induction parts generalizing lists with
  | nil =>
    cases each
    exact .nil
  | cons p rest ih =>
    obtain ⟨_, later, first, others, rfl⟩ := Checked.seq_good each
    obtain ⟨now, here, rfl⟩ := Checked.map_good first
    exact .cons here (ih later others)

theorem nested_steps (d : Nat) : (nestedIn d).steps = listIn d := by cases d <;> rfl

theorem gives_nestedCase (shallow : d ≤ maxDepth) (v : Value) :
    Gives (Makes · (.ofCase v)) ((nestedIn d).case v) := by
  cases d with
  | zero => exact .fault
  | succ d => exact gives_case (Nat.le_of_succ_le shallow) v

theorem gives_cases (shallow : d ≤ maxDepth) (t : Table) :
    Gives (List.Forall₂ Makes · t.inputCases)
      (t.optional "inputs" [] (Read.list (nestedIn d).case)) := by
  refine Table.gives_field (fun missing => ?_) fun v here found read => ?_
  · rw [Table.inputCases, missing]
    exact .nil
  · rw [Table.inputCases, here]
    exact List.forall₂_map_right_iff.2 (Read.follows_list (gives_nestedCase shallow) v found read)

theorem gives_forError {kind : Branch} (error : ForError kind) (steps : Lists) (t : Table)
    (name : String) : Gives (fun found => ∀ e ∈ found, ForError e.1) (branchAt steps t name kind) := by
  refine .map_any fun found e member => ?_
  cases found with
  | none => cases member
  | some body =>
    rw [List.mem_singleton.1 member]
    exact error

theorem takes_inputBranches (shallow : d ≤ maxDepth) (t : Table) :
    Gives (Takes t) (inputBranches (nestedIn d) t) := by
  intro branches read
  obtain ⟨lists, each, rfl⟩ := concat_good read
  rw [nested_steps] at each
  obtain _ | ⟨digits, _ | ⟨intents, _ | ⟨cases, errors⟩⟩⟩ := each
  obtain ⟨byDigits, entered, rfl⟩ := Checked.map_good digits
  obtain ⟨byIntent, said, rfl⟩ := Checked.map_good intents
  have kept := List.rel_append (List.rel_append (makes_digits shallow (gives_digits _ t _ entered))
    (makes_intents shallow (gives_intents _ t _ said))) (gives_cases shallow t _ cases)
  refine ⟨_, _, by simp only [List.flatten_cons, List.append_assoc]; rfl, kept, ?_⟩
  -- what is left are the branches under the five fields for errors
  have part {name : String} {kind : Branch} {found : Branches} (error : ForError kind)
      (read : branchAt (listIn d) t name kind = .good found) := gives_forError error _ t name _ read
  obtain _ | ⟨one, _ | ⟨two, _ | ⟨three, _ | ⟨four, _ | ⟨five, _ | _⟩⟩⟩⟩⟩ := errors
  simp only [List.flatten_cons, List.flatten_nil, List.append_nil, List.forall_mem_append]
  exact ⟨part ⟨fun _ => rfl, fun _ => rfl⟩ one, part ⟨fun _ => rfl, fun _ => rfl⟩ two,
    part ⟨fun _ => rfl, fun _ => rfl⟩ three, part ⟨fun _ => rfl, fun _ => rfl⟩ four,
    part ⟨fun _ => rfl, fun _ => rfl⟩ five⟩

end Step

namespace Step

/-! ### The conditions for the entries -/

theorem unguarded_of_errors {others : Branches} (errors : ∀ e ∈ others, ForError e.1)
    (before : Scalar) : ∀ x ∈ Branch.exits before (others.map (·.1)), x.guard? = none := by
  induction others with
  | nil => exact nofun
  | cons e rest ih =>
    obtain ⟨exit, share⟩ := errors e List.mem_cons_self
    rw [List.map_cons, Branch.exits, share, List.forall_mem_cons]
    exact ⟨exit before, ih fun e member => errors e (List.mem_cons_of_mem _ member)⟩

/-- The exits of an input are those for its entries and then those for errors. -/
theorem exits_of_makes {made others : Branches} {entries : List InputEntry}
    (each : List.Forall₂ Makes made entries) (before : Scalar) :
    Branch.exits before ((made ++ others).map (·.1)) =
      entries.map (.condition ·.guard) ++ Branch.exits before (others.map (·.1)) := by
  induction each with
  | nil => rfl
  | cons makes _ ih =>
    rw [List.cons_append, List.map_cons, Branch.exits, makes.share, makes.exit, ih]
    rfl

variable (g : Graph) (after : Option String)

/-- A node has one condition for each of the entries, in their order, by which callers are led to where
the steps begin that are read from the data of the entry. The nodes of these steps are numbered from the
number given on. -/
def Serves (k : Nat) (entries : List InputEntry) (conditions : List ConditionEdge) : Prop :=
  ∃ bodies, List.Forall₂ (fun x body => listOf x.steps = .good body) entries bodies ∧
    conditions = edges g after k (entries.map (.condition ·.guard)) bodies

variable {g : Graph} {after : Option String} {k : Nat} {entries : List InputEntry}
  {conditions : List ConditionEdge}

theorem Serves.guards (serves : Serves g after k entries conditions) :
    conditions.map (·.guard) = entries.map (·.guard) := by
  obtain ⟨bodies, each, rfl⟩ := serves
  induction each generalizing k with
  | nil => rfl
  | cons _ _ ih => simpa [edges, Exit.guard?] using ih

theorem Serves.length (serves : Serves g after k entries conditions) :
    conditions.length = entries.length := by
  simpa using congrArg List.length serves.guards

/-- The conditions that the branches of an input ask for are those for its entries. -/
theorem serves_of_takes {t : Table} {branches : Branches} (takes : Takes t branches) :
    Serves g after k t.keptEntries
      (edges g after k (Branch.exits (.int 0) (branches.map (·.1))) (branches.map (·.2))) := by
  obtain ⟨made, others, rfl, each, errors⟩ := takes
  refine ⟨made.map (·.2), ?_, ?_⟩
  · exact List.forall₂_map_right_iff.2 (each.flip.imp fun _ _ makes => makes.steps)
  · rw [exits_of_makes each, List.map_append, edges_append _ _ _ (by simp [each.length_eq]),
      edges_of_unguarded _ _ _ (unguarded_of_errors errors _), List.append_nil]

/-- A step that waits for input and takes the entries of a table. -/
def Awaits (t : Table) : Step → Prop
  | .action head _ branches _ => head.kind = .collectInput ∧ Takes t branches
  | _ => False

theorem gives_input {d : Nat} (shallow : d ≤ maxDepth) {k : StepType}
    (input : k = .collect ∨ k = .sequentialInput) (t : Table) :
    Gives (Awaits t) (ofTable (nestedIn d) k t) := by
  have kind : k.kind? = some .collectInput := by obtain rfl | rfl := input <;> rfl
  have early : earlyBranches k (nestedIn d) t = inputBranches (nestedIn d) t := by
    obtain rfl | rfl := input <;> rfl
  have late : lateBranches k (nestedIn d).steps t = .good [] := by obtain rfl | rfl := input <;> rfl
  have whole : ofTable (nestedIn d) k t = (actionOf k (nestedIn d) t).andThen checkBody := by
    obtain rfl | rfl := input <;> rfl
  rw [whole]
  refine .andThen fun s read s' checked => ?_
  obtain ⟨head, frame, branches, none, errors, rfl, asked, _, first, last, _⟩ := actionOf_good read
  rw [early] at first
  rw [late] at last
  cases last
  rw [checkBody_good checked, List.append_nil]
  exact ⟨kind_head kind t head asked, takes_inputBranches shallow t branches first⟩

end Step

namespace Table

variable {t : Table}

/-- Entries are lost just if two keys of the digits stand for one text, or two keys of the intents
spell one name. -/
theorem distinguishes_iff : t.keptEntries.length = t.inputEntries.length ↔ t.Distinguishes := by
  have digits := Ordered.length_collect_le t.digitPairs
  have intents := Ordered.length_collect_le t.intentPairs
  rw [Distinguishes, ← Ordered.length_collect_eq, ← Ordered.length_collect_eq]
  simp only [keptEntries, inputEntries, List.length_append, List.length_map]
  omega

theorem keptEntries_eq (distinguishes : t.Distinguishes) : t.keptEntries = t.inputEntries := by
  rw [keptEntries, inputEntries, Ordered.collect_of_nodup distinguishes.1,
    Ordered.collect_of_nodup distinguishes.2]

end Table

namespace FlowDefinition

/-- The steps of a flow are read one by one, each from a table that names its type. -/
theorem steps_of_read {data : Table} {f : FlowDefinition}
    (read : FlowDefinition.ofTable data = .good f) :
    List.Forall₂ (fun s v => ∃ t k, v.step? = some (t, k) ∧
        Step.ofTable (Step.nestedIn (Step.maxDepth - 1)) k t = .good s)
      f.steps ((data.get? "steps").elim [] Value.listed) := by
  obtain ⟨_, steps, first, given, rfl⟩ := Checked.seq_good read
  obtain ⟨description, _, rfl⟩ := Checked.map_good first
  refine Table.gives_field (P := (List.Forall₂ _ · _)) (fun missing => ?_) (fun v here => ?_)
    steps given
  · rw [missing]
    exact .nil
  · rw [here, Step.listOf, Step.maxDepth, Step.listIn_succ]
    exact Read.follows_list (Step.gives_step fun k t => Step.gives_itself _) v

/-- The node of an input has one condition for each entry of its data that is kept, and no two of these
are for the same digits or for the same intent: a flow with such entries is not built. The node has one
for every entry just if no two keys of the digits stand for one text and no two of the intents spell one
name. -/
theorem serves_of_build {data : Table} {f : FlowDefinition}
    (read : FlowDefinition.ofTable data = .good f) {name : String} {w : Workspace}
    (built : f.build name = .ok w) {d : Nat} (shallow : d ≤ Step.maxDepth) {k : StepType}
    (input : k = .collect ∨ k = .sequentialInput) {t : Table} {s : Step}
    (source : Step.ofTable (Step.nestedIn d) k t = .good s) {i : Nat} {after : Option String}
    (occurs : Step.Occurs w.graph 0 none none f.steps s i after) :
    ∃ n, w.graph.toList[i]? = some n ∧ n.kind = .collectInput ∧
      Step.Serves w.graph after (i + 1) t.keptEntries n.transitions.conditions ∧
      t.keptEntries.Pairwise InputEntry.Apart ∧
      (Step.Serves w.graph after (i + 1) t.inputEntries n.transitions.conditions ↔
        t.Distinguishes) := by
  have sane := gives_allSane data f read
  have wired := threads_of_build sane built s i after occurs
  have awaits := Step.gives_input shallow input t s source
  cases s with
  | resume => exact awaits.elim
  | jump => exact awaits.elim
  | action head frame branches errors =>
  obtain ⟨kind, takes⟩ := awaits
  obtain ⟨n, found, conditions⟩ := wired (by rw [kind]; exact ActionKind.noConfusion)
  have kept : Step.Serves w.graph after (i + 1) t.keptEntries n.transitions.conditions :=
    conditions ▸ Step.serves_of_takes takes
  have asks : n.kind = .collectInput := by
    obtain ⟨m, found', shows⟩ := node_of_occurs sane built occurs rfl
    cases found.symm.trans found'
    exact shows.kind.trans kind
  have proper := (built_of_build built).orderly.proper n (List.mem_of_getElem? found)
  refine ⟨n, found, asks, kept, ?_, fun all => ?_, fun distinguishes => ?_⟩
  · -- no condition of the node shares a key with another one
    have apart := proper.apart asks
    rw [Transitions.guards, kept.guards, List.pairwise_map] at apart
    exact apart.imp InputEntry.apart_of_guards
  · -- the conditions are as many as the entries that are kept, so none was lost
    exact Table.distinguishes_iff.1 (kept.length.symm.trans all.length)
  · rwa [← Table.keptEntries_eq distinguishes]

def hangUp (id : String) : Value :=
  .list [.record [("type", .text "disconnect"), ("id", .text id)]]

/-- Callers say what they want or press a key. One of the keys is written as a number. -/
def answers : Table := [(.text "type", .text "sequential_input"), (.text "id", .text "menu"),
  (.text "primary", .record [("prompt", .text "Say sales.")]),
  (.text "fallback", .record [("prompt", .text "Press one.")]),
  (.text "digits", .table [(.int 1, hangUp "sales"), (.text "2", hangUp "support")]),
  (.text "intents", .record [("Sales", hangUp "office")]),
  (.text "inputs", .list [.record [("digits", .int 3), ("intent", .text "Help"),
    ("steps", hangUp "help")]]),
  (.text "on_timeout", hangUp "late")]

def only (t : Table) : Table := [(.text "steps", .list [.table t])]

theorem occurs_of_only {t : Table} {k : StepType} (type : (Value.table t).step? = some (t, k))
    {f : FlowDefinition} (read : FlowDefinition.ofTable (only t) = .good f) (g : Graph) :
    ∃ s, Step.ofTable (Step.nestedIn (Step.maxDepth - 1)) k t = .good s ∧
      Step.Occurs g 0 none none f.steps s 0 none := by
  have steps := steps_of_read read
  generalize f.steps = steps at steps
  obtain _ | ⟨⟨t', k', type', source⟩, _ | _⟩ := steps
  cases type.symm.trans type'
  exact ⟨_, source, .first (.self ..)⟩

theorem serves_answers : ∃ f w s, FlowDefinition.ofTable (only answers) = .good f ∧
    f.build "Menu" = .ok w ∧
    Step.ofTable (Step.nestedIn (Step.maxDepth - 1)) .sequentialInput answers = .good s ∧
    Step.Occurs w.graph 0 none none f.steps s 0 none ∧ answers.Distinguishes ∧
    ∃ n, w.graph.toList[0]? = some n ∧
      Step.Serves w.graph none 1 answers.inputEntries n.transitions.conditions := by
  have builds : ((FlowDefinition.ofTable (only answers)).toOption.bind fun f =>
      (f.build "Menu").toOption).isSome := by decide +kernel
  obtain ⟨w, both⟩ := Option.isSome_iff_exists.1 builds
  obtain ⟨f, read, built⟩ := Option.bind_eq_some_iff.1 both
  have read := Checked.toOption_eq_some.1 read
  have built := Results.toOption_eq_some.1 built
  obtain ⟨s, source, occurs⟩ := occurs_of_only (k := .sequentialInput) rfl read w.graph
  have distinguishes : answers.Distinguishes := by decide
  obtain ⟨n, found, _, _, _, all⟩ :=
    serves_of_build read built (Nat.sub_le _ _) (.inr rfl) source occurs
  exact ⟨f, w, s, read, built, source, occurs, distinguishes, n, found, all.2 distinguishes⟩

/-- A number and a text for the same key. -/
def doubled : Table := [(.text "type", .text "collect"), (.text "id", .text "menu"),
  (.text "prompt", .text "Press one."),
  (.text "digits", .table [(.int 1, hangUp "sales"), (.text "1", hangUp "support")])]

/-- Callers who press the key are led to the steps of the text only. -/
theorem doubled_merged : ∃ f w s n, FlowDefinition.ofTable (only doubled) = .good f ∧
    f.build "Menu" = .ok w ∧
    Step.ofTable (Step.nestedIn (Step.maxDepth - 1)) .collect doubled = .good s ∧
    Step.Occurs w.graph 0 none none f.steps s 0 none ∧ w.graph.toList[0]? = some n ∧
    doubled.inputEntries =
      [⟨some "1", none, hangUp "sales"⟩, ⟨some "1", none, hangUp "support"⟩] ∧
    n.transitions.conditions = [⟨.input (some (.text "1")) none, some "support"⟩] ∧
    w.graph.toList.map (·.id) = ["menu", "support"] ∧
    ¬ Step.Serves w.graph none 1 doubled.inputEntries n.transitions.conditions := by
  have builds : ((FlowDefinition.ofTable (only doubled)).toOption.bind fun f =>
      (f.build "Menu").toOption).map (fun w =>
        w.graph.toList.map fun n => (n.id, n.transitions.conditions)) =
      some [("menu", [⟨.input (some (.text "1")) none, some "support"⟩]), ("support", [])] := by
    decide +kernel
  obtain ⟨w, both, nodes⟩ := Option.map_eq_some_iff.1 builds
  obtain ⟨f, read, built⟩ := Option.bind_eq_some_iff.1 both
  have read := Checked.toOption_eq_some.1 read
  obtain ⟨s, source, occurs⟩ := occurs_of_only (k := .collect) rfl read w.graph
  have ids : w.graph.toList.map (·.id) = ["menu", "support"] := by
    simpa [Function.comp_def] using congrArg (List.map (·.1)) nodes
  have first := congrArg (·[0]?) nodes
  simp only [List.getElem?_map] at first
  obtain ⟨n, found, same⟩ := Option.map_eq_some_iff.1 first
  have conditions : n.transitions.conditions = [⟨.input (some (.text "1")) none, some "support"⟩] :=
    congrArg (·.2) same
  refine ⟨f, w, s, n, read, Results.toOption_eq_some.1 built, source, occurs, found, rfl,
    conditions, ids, fun serves => ?_⟩
  have length := serves.length
  rw [conditions] at length
  exact absurd length (by decide)

end FlowDefinition

end ContactFlow
