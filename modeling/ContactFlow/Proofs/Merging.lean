import ContactFlow.Definition.Load
import ContactFlow.Proofs.Keys
import ContactFlow.Proofs.Results
import Mathlib.Data.List.Chain
import Mathlib.Data.List.TakeWhile

/-!
Definitions put together from several files. What the files give under one name is put together apart
from what they give under others, and so it is for each kind of resource. It goes wrong where a table
follows a value that does not take entries, and there alone: the files of a directory that can be read
each on its own then fail together, with an error that is not one of a definition.
-/

namespace ContactFlow

namespace Merge

variable {t t' data entries : Table} {k kind : Scalar} {v w last : Value}

/-! ### Looking up -/

theorem lookup_cons (e : Scalar × Value) (t : Table) (k : Scalar) :
    lookup (e :: t) k = if e.1.sameKey k then some e.2 else lookup t k := by
  obtain ⟨k', v⟩ := e
  simp only [lookup, List.find?_cons]
  cases k'.sameKey k <;> rfl

theorem lookup_congr (same : k.sameKey kind = true) (t : Table) : lookup t k = lookup t kind := by
  unfold lookup
  simp only [Scalar.sameKey_congr same]

theorem get?_eq_lookup (t : Table) (name : String) : t.get? name = lookup t (.text name) := by
  simp only [Table.get?, lookup, Scalar.sameKey_text_right]

theorem lookup_append (t u : Table) (k : Scalar) :
    lookup (t ++ u) k = (lookup t k).or (lookup u k) := by
  simp only [lookup, List.find?_append, Option.map_or]

theorem isSome_lookup (t : Table) (k : Scalar) :
    (lookup t k).isSome = t.any fun e => e.1.sameKey k := by
  rw [lookup, Option.isSome_map, List.isSome_find?]

/-- The entries of one key with another value. -/
theorem lookup_map (t : Table) (k : Scalar) (v : Value) (kind : Scalar) :
    lookup (t.map fun e => if e.1.sameKey k then (e.1, v) else (e.1, e.2)) kind =
      if k.sameKey kind then (lookup t kind).map fun _ => v else lookup t kind := by
  induction t with
  | nil => simp [lookup]
  | cons e rest ih =>
    obtain ⟨k', old⟩ := e
    rw [List.map_cons, lookup_cons, lookup_cons, ih]
    by_cases same : k.sameKey kind = true
    · rw [if_pos same, if_pos same, Scalar.sameKey_congr same k']
      cases met : k'.sameKey kind <;> simp [met]
    · rw [if_neg same, if_neg same]
      by_cases here : k'.sameKey k = true
      · have other : ¬ k'.sameKey kind = true := fun met => same <| by
          rw [Scalar.sameKey_iff] at here met ⊢
          exact here.symm.trans met
        rw [if_pos here, if_neg other, if_neg other]
      · rw [if_neg here]

theorem lookup_set (t : Table) (k : Scalar) (v : Value) (kind : Scalar) :
    lookup (t.set k v) kind = if k.sameKey kind then some v else lookup t kind := by
  unfold Table.set
  have there := isSome_lookup t k
  split
  · rename_i known
    rw [lookup_map]
    by_cases same : k.sameKey kind = true
    · obtain ⟨old, found⟩ := Option.isSome_iff_exists.1 (there.trans known)
      rw [if_pos same, if_pos same, ← lookup_congr same, found]
      rfl
    · rw [if_neg same, if_neg same]
  · rename_i unknown
    rw [lookup_append, lookup_cons]
    by_cases same : k.sameKey kind = true
    · have free : lookup t k = none := by simpa [unknown] using there
      rw [if_pos same, if_pos same, ← lookup_congr same, free]
      rfl
    · rw [if_neg same, if_neg same]
      exact Option.or_none

theorem sectionOf_eq (data : Table) (name : String) :
    sectionOf data name = (lookup data (.text name)).getD .null := by
  rw [sectionOf, get?_eq_lookup]

/-! ### Entry by entry -/

/-- The values given under a key, in their order. -/
def given (k : Scalar) (entries : Table) : List Value :=
  (entries.filter fun e => e.1.sameKey k).map (·.2)

theorem given_cons (e : Scalar × Value) (entries : Table) (k : Scalar) :
    given k (e :: entries) = if e.1.sameKey k then e.2 :: given k entries else given k entries := by
  unfold given
  rw [List.filter_cons]
  split <;> rfl

/-- What becomes of a value when another one comes under its key. -/
abbrev Rule := Scalar → Option Value → Value → Except MergeError Value

/-- Puts an entry into a table, where the rule says what becomes of what is there. -/
def place (rule : Rule) (t : Table) (e : Scalar × Value) : Except MergeError Table :=
  (rule e.1 (lookup t e.1) e.2).map (t.set e.1)

/-- Follows the rule under one key. -/
def follow (rule : Rule) (k : Scalar) (there : Option Value) (vs : List Value) :
    Except MergeError (Option Value) :=
  vs.foldlM (fun there v => (rule k there v).map some) there

/-- A rule does not tell keys apart that address one entry. -/
def Rule.Even (rule : Rule) : Prop := ∀ ⦃k k'⦄, k.sameKey k' = true → rule k = rule k'

theorem lookup_place {rule : Rule} {e : Scalar × Value} (placed : place rule t e = .ok t')
    (even : rule.Even) (k : Scalar) :
    follow rule k (lookup t k) (if e.1.sameKey k then [e.2] else []) = .ok (lookup t' k) := by
  obtain ⟨v, ruled, rfl⟩ := Results.map_eq_ok.1 placed
  rw [lookup_set]
  by_cases same : e.1.sameKey k = true
  · rw [if_pos same, if_pos same, ← lookup_congr same]
    simp [follow, ← even same, ruled, Except.map]
  · rw [if_neg same, if_neg same]
    rfl

theorem follow_append (rule : Rule) (k : Scalar) (there : Option Value) (vs ws : List Value) :
    follow rule k there (vs ++ ws) =
      (follow rule k there vs).bind fun there => follow rule k there ws :=
  List.foldlM_append

/-- What comes under a key is up to the values given under it. -/
theorem lookup_foldlM_place {rule : Rule} (even : rule.Even)
    (placed : entries.foldlM (place rule) t = .ok t') (k : Scalar) :
    follow rule k (lookup t k) (given k entries) = .ok (lookup t' k) := by
  induction entries generalizing t with
  | nil => cases placed; rfl
  | cons e rest ih =>
    rw [List.foldlM_cons] at placed
    obtain ⟨u, first, others⟩ := Results.bind_eq_ok.1 placed
    have parted : given k (e :: rest) = (if e.1.sameKey k then [e.2] else []) ++ given k rest := by
      rw [given_cons]
      split <;> rfl
    rw [parted, follow_append, lookup_place first even]
    exact ih others

/-- Entries can be put into a table if the values under each key can be put together. -/
theorem exists_foldlM_place {rule : Rule} (even : rule.Even)
    (each : ∀ k, ∃ v, follow rule k (lookup t k) (given k entries) = .ok v) :
    ∃ t', entries.foldlM (place rule) t = .ok t' := by
  induction entries generalizing t with
  | nil => exact ⟨t, rfl⟩
  | cons e rest ih =>
    obtain ⟨k, v⟩ := e
    obtain ⟨w, followed⟩ := each k
    rw [given_cons, if_pos (Scalar.sameKey_refl k), follow, List.foldlM_cons] at followed
    obtain ⟨_, first, _⟩ := Results.bind_eq_ok.1 followed
    obtain ⟨u, ruled, rfl⟩ := Results.map_eq_ok.1 first
    have placed : place rule t (k, v) = .ok (t.set k u) := by rw [place, ruled]; rfl
    rw [List.foldlM_cons, placed]
    -- what was put in is the beginning of what its own key follows, and no other key sees it
    refine ih fun kind => ?_
    obtain ⟨w', followed'⟩ := each kind
    rw [given_cons] at followed'
    have here := lookup_place placed even kind
    by_cases same : k.sameKey kind = true
    · rw [if_pos same] at followed' here
      refine ⟨w', ?_⟩
      rw [show v :: given kind rest = [v] ++ given kind rest from rfl, follow_append, here]
        at followed'
      exact followed'
    · rw [if_neg same] at followed'
      rw [lookup_set, if_neg same]
      exact ⟨w', followed'⟩

/-! ### What can come after what -/

def isTable : Value → Bool
  | .table _ => true
  | _ => false

theorem eq_table (table : isTable v = true) : ∃ entries, v = .table entries := by
  cases v <;> first | exact ⟨_, rfl⟩ | cases table

/-- Tables and sets: the entries of a table can be added to them. -/
def isExtensible : Value → Bool
  | .table _ | .bundle .set _ => true
  | _ => false

/-- A value may be given after another one: a table only where its entries can be added. -/
def Follows (v w : Value) : Prop := isTable w = true → isExtensible v = true

/-- What becomes of a value when another one is given after it. -/
def joined (v : Value) : Value → Except MergeError Value
  | .table entries => extended v entries
  | w => .ok w

theorem joined_of_not_table (other : isTable w = false) (v : Value) : joined v w = .ok w := by
  cases w <;> first | rfl | cases other

/-- What becomes of the addresses of one kind. -/
def kindRule : Rule := fun _ there v => joined (there.getD (.table [])) v

theorem even_kindRule : kindRule.Even := fun _ _ _ => rfl

theorem resource_table (t : Table) (k : Scalar) (v : Value) :
    resource (.table t) k v = (place kindRule t (k, v)).map .table := by
  cases table : isTable v with
  | true =>
    obtain ⟨entries, rfl⟩ := eq_table table
    rw [resource, place, kindRule, joined]
    cases extended ((lookup t k).getD (.table [])) entries <;> rfl
  | false =>
    rw [place, kindRule, joined_of_not_table table]
    cases v <;> first | rfl | cases table

theorem resources_table (t entries : Table) :
    resources (.table t) entries = (entries.foldlM (place kindRule) t).map .table := by
  induction entries generalizing t with
  | nil => rfl
  | cons e rest ih =>
    rw [resources, resource_table, List.foldlM_cons]
    cases place kindRule t e with
    | error e => rfl
    | ok t' => exact ih t'

/-- The index that a key is. -/
def index? : Scalar → Option Int
  | .int n => some n
  | .bool b => some (if b then 1 else 0)
  | _ => none

/-- An entry can take the place of an item of a list: its value is no table, and its key is an index
of the list. -/
def Takes (v : Value) (e : Scalar × Value) : Prop :=
  isTable e.2 = false ∧ ∃ items n, v = .list items ∧ index? e.1 = some n ∧
    (-Place.wordLimit ≤ n ∧ n < Place.wordLimit) ∧ -(items.length : Int) ≤ n ∧ n < items.length

/-- What becomes of the resources when others are given after them. -/
def gathered (v : Value) : Value → Except MergeError Value
  | .table entries => resources v entries
  | w => .ok w

theorem gathered_of_not_table (other : isTable w = false) (v : Value) : gathered v w = .ok w := by
  cases w <;> first | rfl | cases other

/-- The entries of a value, if it is a table. -/
def entriesOf : Value → Table
  | .table entries => entries
  | _ => []

variable {rule : Rule}

theorem follow_latest (latest : ∀ there v, rule k there v = .ok v) (there : Option Value)
    (vs : List Value) : follow rule k there vs = .ok (vs.getLast?.or there) := by
  induction vs generalizing there with
  | nil => rfl
  | cons v rest ih =>
    rw [follow, List.foldlM_cons, latest]
    refine (ih (some v)).trans ?_
    cases rest <;> simp [List.getLast?_cons]

/-- What becomes of what stands under a name of a definition. -/
def sectionRule : Rule := fun k there v =>
  if k = .text "resources" then gathered (there.getD .null) v
  else if k = .text "flows" ∨ k = .text "settings" then joined (there.getD .null) v
  else .ok v

theorem sectionRule_flows (there : Option Value) (v : Value) :
    sectionRule (.text "flows") there v = joined (there.getD .null) v := rfl

theorem sectionRule_settings (there : Option Value) (v : Value) :
    sectionRule (.text "settings") there v = joined (there.getD .null) v := rfl

theorem sectionRule_resources (there : Option Value) (v : Value) :
    sectionRule (.text "resources") there v = gathered (there.getD .null) v := rfl

/-- The names of the parts of a definition that files add to. -/
def sectionNames : List String := ["flows", "settings", "resources"]

theorem eq_of_isSection (isSection : k ∈ sectionNames.map Scalar.text) :
    k = .text "flows" ∨ k = .text "settings" ∨ k = .text "resources" := by
  simpa [sectionNames] using isSection

theorem sectionRule_other (other : k ∉ sectionNames.map Scalar.text) (there : Option Value)
    (v : Value) : sectionRule k there v = .ok v := by
  simp only [sectionNames, List.map_cons, List.map_nil, List.mem_cons, List.not_mem_nil, or_false,
    not_or] at other
  simp [sectionRule, other]

theorem even_sectionRule : sectionRule.Even := fun k k' same => by
  have name (s : String) : k = .text s ↔ k' = .text s := by
    rw [← beq_iff_eq, ← beq_iff_eq (a := k'), ← Scalar.sameKey_text_right,
      ← Scalar.sameKey_text_right, Scalar.sameKey_iff, Scalar.sameKey_iff, Scalar.sameKey_iff.1 same]
  funext there v
  simp only [sectionRule, name]

theorem entry_eq_place (data : Table) (k : Scalar) (v : Value) :
    entry data k v = place sectionRule data (k, v) := by
  unfold place sectionRule
  dsimp only
  cases table : isTable v with
  | false =>
    rw [gathered_of_not_table table, joined_of_not_table table, ite_self, ite_self, entry]
    · rfl
    all_goals
      rintro entries - rfl
      cases table
  | true =>
    obtain ⟨entries, rfl⟩ := eq_table table
    unfold entry
    split <;> try (rename_i same; cases same)
    · simp [sectionOf_eq, joined]
    · simp [sectionOf_eq, joined]
    · simp [sectionOf_eq, gathered]
    · rename_i key _ _ noFlows noSettings noResources
      have name (s : String) (none : ∀ entries', key = .text s → Value.table entries =
          .table entries' → False) : key ≠ .text s := fun same => none entries same rfl
      simp [name _ noFlows, name _ noSettings, name _ noResources, Except.map]

theorem add_eq (data chunk : Table) : add data chunk = chunk.foldlM (place sectionRule) data := by
  unfold add
  congr
  funext data e
  exact entry_eq_place data e.1 e.2

theorem all_eq (chunks : List Table) :
    all chunks = chunks.flatten.foldlM (place sectionRule) start := by
  unfold all
  generalize start = data
  induction chunks generalizing data with
  | nil => rfl
  | cons chunk rest ih =>
    rw [List.foldlM_cons, List.flatten_cons, List.foldlM_append, add_eq]
    exact congrArg _ (funext ih)

end Merge

/-! ### Equal values -/

namespace Value

mutual

def same : Value → Value → Bool
  | .scalar s, .scalar s' => s == s'
  | .list items, .list others => sameList items others
  | .table entries, .table others => sameTable entries others
  | .reference r, .reference r' => r == r'
  | .bundle b items, .bundle b' others => b == b' && sameList items others
  | .cycle ofTable, .cycle ofTable' => ofTable == ofTable'
  | _, _ => false

def sameList : List Value → List Value → Bool
  | [], [] => true
  | v :: rest, w :: others => same v w && sameList rest others
  | _, _ => false

def sameTable : Table → Table → Bool
  | [], [] => true
  | (k, v) :: rest, (k', w) :: others => k == k' && same v w && sameTable rest others
  | _, _ => false

end

mutual

theorem same_iff : ∀ v w, same v w = true ↔ v = w
  | .scalar s, w => by cases w <;> simp [same]
  | .list items, w => by cases w <;> simp [same, sameList_iff items]
  | .table entries, w => by cases w <;> simp [same, sameTable_iff entries]
  | .reference r, w => by cases w <;> simp [same]
  | .bundle b items, w => by cases w <;> simp [same, sameList_iff items]
  | .cycle ofTable, w => by cases w <;> simp [same]

theorem sameList_iff : ∀ items others, sameList items others = true ↔ items = others
  | [], others => by cases others <;> simp [sameList]
  | v :: rest, others => by cases others <;> simp [sameList, same_iff v, sameList_iff rest]

theorem sameTable_iff : ∀ entries others, sameTable entries others = true ↔ entries = others
  | [], others => by cases others <;> simp [sameTable]
  | (k, v) :: rest, others => by
    cases others <;> simp [sameTable, same_iff v, sameTable_iff rest, Prod.ext_iff]

end

instance : DecidableEq Value := fun v w => decidable_of_iff _ (same_iff v w)

end Value
/-! ### Loading a directory -/

namespace Definition

variable {f : Files} {path : String} {chunks : List Table}

/-- The files of a directory without a master file can all be read, and hold these entries. -/
structure Parts (f : Files) (path : String) (chunks : List Table) : Prop where
  directory : f.isDirectory (Path.ofString path) = .ok true
  masterless : firstThere f (masterFiles.map fun name => (Path.ofString path).append ⟨"", [name]⟩) =
    .ok none
  some : yamlFiles f (Path.ofString path) ≠ []
  read : List.Forall₂ (fun p chunk => readFile f p = .ok chunk) (yamlFiles f (Path.ofString path))
    chunks

theorem foldlM_read {files : List Path}
    (read : List.Forall₂ (fun p chunk => readFile f p = .ok chunk) files chunks) (data : Table) :
    files.foldlM (fun data p => do
        let chunk ← readFile f p
        (Merge.add data chunk).mapError LoadError.merge) data =
      (chunks.foldlM Merge.add data).mapError .merge := by
  induction read generalizing data with
  | nil => rfl
  | cons first _ ih =>
    rw [List.foldlM_cons, List.foldlM_cons, first, Results.ok_bind]
    cases Merge.add data _ with
    | error e => rfl
    | ok data' => exact ih data'

/-- Loading a directory is putting its files together and checking what they hold. -/
theorem load_parts (parts : Parts f path chunks) :
    load f path = ((Merge.all chunks).mapError .merge).bind fun data =>
      check (.table data) (Path.ofString path).text := by
  have read := foldlM_read parts.read Merge.start
  obtain ⟨p, rest, files⟩ := List.exists_cons_of_ne_nil parts.some
  unfold load readPath readAll
  dsimp only
  rw [parts.directory, parts.masterless]
  rw [files] at read ⊢
  exact congrArg (Except.bind · _) read

theorem parts_of_sorted {names : List String}
    (directory : f.isDirectory (Path.ofString path) = .ok true)
    (masterless : firstThere f
      (masterFiles.map fun name => (Path.ofString path).append ⟨"", [name]⟩) = .ok none)
    (there : (f.namesIn (Path.ofString path)).filter (·.endsWith ".yaml") = names)
    (sorted : names.Pairwise fun a b => decide (a ≤ b) = true) (some : names ≠ [])
    (read : List.Forall₂ (fun name chunk => readFile f
      { Path.ofString path with parts := (Path.ofString path).parts ++ [name] } = .ok chunk)
        names chunks) : Parts f path chunks := by
  have files : yamlFiles f (Path.ofString path) = names.map fun name =>
      { Path.ofString path with parts := (Path.ofString path).parts ++ [name] } := by
    rw [yamlFiles, there, List.mergeSort_of_pairwise sorted]
  refine ⟨directory, masterless, ?_, ?_⟩
  · rw [files]
    exact List.map_eq_nil_iff.not.2 some
  · rw [files]
    exact List.forall₂_map_left_iff.2 read

end Definition

end ContactFlow
