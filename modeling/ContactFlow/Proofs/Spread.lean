import ContactFlow.Proofs.Drafts
import ContactFlow.Proofs.Merging
import ContactFlow.Proofs.Ordered

/-!
Definitions spread over files. An entry of a definition is a flow, a setting, an address of a resource
or anything else at the top. Whichever files the entries are in, putting the files together gives each
entry the value of the last file that has it, and what is read of a definition is up to its entries
alone.
-/

namespace ContactFlow

namespace Merge

variable {t t' u data chunk entries : Table} {k kind : Scalar} {v w : Value} {rule : Rule}

/-! ### Mappings -/

/-- No two keys address one entry. -/
def Distinct (t : Table) : Prop := t.Pairwise fun e e' => e.1.sameKey e'.1 = false

instance (t : Table) : Decidable (Distinct t) := inferInstanceAs (Decidable (t.Pairwise _))

theorem lookup_eq_none : lookup t k = none ↔ ∀ e ∈ t, e.1.sameKey k = false := by
  rw [← Option.not_isSome_iff_eq_none, isSome_lookup]
  simp

theorem mem_of_lookup (found : lookup t k = some v) : ∃ k', (k', v) ∈ t ∧ k'.sameKey k = true := by
  obtain ⟨e, first, rfl⟩ := Option.map_eq_some_iff.1 found
  have same := List.find?_some (p := fun e : Scalar × Value => e.1.sameKey k) first
  exact ⟨e.1, List.mem_of_find?_eq_some first, same⟩

theorem lookup_of_mem (distinct : Distinct t) {e : Scalar × Value} (member : e ∈ t) :
    lookup t e.1 = some e.2 := by
  induction distinct with
  | nil => cases member
  | @cons first rest apart _ ih =>
    rw [lookup_cons]
    rcases List.mem_cons.1 member with rfl | later
    · rw [if_pos (Scalar.sameKey_refl _)]
    · rw [apart e later, if_neg Bool.false_ne_true, ih later]

/-- Where the first key addresses an entry, none of the others does. -/
theorem lookup_rest {first : Scalar × Value} {rest : Table}
    (apart : ∀ e ∈ rest, first.1.sameKey e.1 = false) (same : first.1.sameKey k = true) :
    lookup rest k = none := lookup_eq_none.2 fun e member => by
  rw [← Scalar.sameKey_congr same, Scalar.sameKey_comm]
  exact apart e member

theorem given_eq_toList (distinct : Distinct t) (k : Scalar) : given k t = (lookup t k).toList := by
  induction distinct with
  | nil => rfl
  | @cons first rest apart _ ih =>
    rw [given_cons, lookup_cons, ih]
    by_cases same : first.1.sameKey k = true
    · rw [if_pos same, if_pos same, lookup_rest apart same]
      rfl
    · rw [if_neg same, if_neg same]

theorem distinct_set (distinct : Distinct t) (k : Scalar) (v : Value) : Distinct (t.set k v) := by
  unfold Table.set
  split
  · refine List.pairwise_map.2 (distinct.imp fun {e e'} apart => ?_)
    dsimp only
    split <;> split <;> exact apart
  · rename_i new
    refine List.pairwise_append.2 ⟨distinct, List.pairwise_singleton _ _, fun e member e' here => ?_⟩
    cases List.mem_singleton.1 here
    exact Bool.eq_false_iff.2 fun same => new (List.any_eq_true.2 ⟨e, member, same⟩)

theorem distinct_union (distinct : Distinct t) (u : Table) : Distinct (Table.union t u) := by
  induction u generalizing t with
  | nil => exact distinct
  | cons e rest ih => exact ih (distinct_set distinct e.1 e.2)

theorem lookup_union (distinct : Distinct u) (t : Table) (k : Scalar) :
    lookup (Table.union t u) k = (lookup u k).or (lookup t k) := by
  induction distinct generalizing t with
  | nil => rfl
  | @cons first rest apart _ ih =>
    refine (ih (t.set first.1 first.2)).trans ?_
    rw [lookup_set, lookup_cons]
    by_cases same : first.1.sameKey k = true
    · rw [if_pos same, if_pos same, lookup_rest apart same]
      rfl
    · rw [if_neg same, if_neg same]

theorem distinct_foldlM_place (distinct : Distinct t)
    (placed : entries.foldlM (place rule) t = .ok t') : Distinct t' := by
  induction entries generalizing t with
  | nil => cases placed; exact distinct
  | cons e rest ih =>
    rw [List.foldlM_cons] at placed
    obtain ⟨u, first, others⟩ := Results.bind_eq_ok.1 placed
    obtain ⟨v, _, rfl⟩ := Results.map_eq_ok.1 first
    exact ih (distinct_set distinct _ _) others

/-- A mapping as a value. -/
def IsMapping : Value → Prop
  | .table entries => Distinct entries
  | _ => False

instance : DecidablePred IsMapping
  | .table entries => inferInstanceAs (Decidable (Distinct entries))
  | .scalar _ | .list _ | .reference _ | .bundle .. | .cycle _ => isFalse id

theorem exists_of_isMapping (mapping : IsMapping v) :
    ∃ entries, v = .table entries ∧ Distinct entries := by
  cases v <;> first | exact ⟨_, rfl, mapping⟩ | exact mapping.elim

theorem joined_mappings (left : IsMapping v) (right : IsMapping w) : ∃ u, joined v w = .ok u ∧
    IsMapping u ∧ entriesOf u = Table.union (entriesOf v) (entriesOf w) := by
  obtain ⟨t, rfl, distinct⟩ := exists_of_isMapping left
  obtain ⟨u, rfl, _⟩ := exists_of_isMapping right
  exact ⟨_, rfl, distinct_union distinct u, rfl⟩

/-! ### Tables of mappings -/

/-- The entries under a key, if they are there. -/
def entriesIn (t : Table) (k : Scalar) : Table := entriesOf ((lookup t k).getD .null)

theorem entriesIn_some (found : lookup t k = some v) : entriesIn t k = entriesOf v := by
  rw [entriesIn, found, Option.getD_some]

theorem entriesIn_none (free : lookup t k = none) : entriesIn t k = [] := by
  rw [entriesIn, free]
  rfl

theorem distinct_entriesIn (mapping : ∀ v, lookup t k = some v → IsMapping v) :
    Distinct (entriesIn t k) := by
  cases found : lookup t k with
  | none => rw [entriesIn_none found]; exact .nil
  | some v =>
    obtain ⟨entries, rfl, distinct⟩ := exists_of_isMapping (mapping v found)
    rw [entriesIn_some found]
    exact distinct

/-- A table of mappings. -/
structure Mappings (t : Table) : Prop where
  distinct : Distinct t
  each : ∀ e ∈ t, IsMapping e.2

theorem Mappings.isMapping (mappings : Mappings t) (found : lookup t k = some v) : IsMapping v := by
  obtain ⟨k', member, _⟩ := mem_of_lookup found
  exact mappings.each _ member

theorem Mappings.distinct_entriesIn (mappings : Mappings t) (k : Scalar) :
    Distinct (entriesIn t k) := Merge.distinct_entriesIn fun _ => mappings.isMapping

theorem follow_toList (rule : Rule) (k : Scalar) (there given : Option Value) :
    follow rule k there given.toList =
      (match given with
      | none => .ok there
      | some v => (rule k there v).map some) := by
  cases given with
  | none => rfl
  | some v => cases ruled : rule k there v <;> simp [follow, ruled, Except.map]

/-- What becomes of a kind is its entries with the others. -/
theorem Mappings.follow_kind (mappings : Mappings t) (others : Mappings u) (kind : Scalar) :
    ∃ o, follow kindRule kind (lookup t kind) (given kind u) = .ok o ∧
      (∀ v, o = some v → IsMapping v) ∧
      entriesOf (o.getD .null) = Table.union (entriesIn t kind) (entriesIn u kind) := by
  rw [given_eq_toList others.distinct, follow_toList]
  cases found : lookup u kind with
  | none =>
    rw [entriesIn_none found]
    exact ⟨_, rfl, fun v same => mappings.isMapping same, rfl⟩
  | some w =>
    have before : IsMapping ((lookup t kind).getD (.table [])) := by
      cases first : lookup t kind with
      | none => exact .nil
      | some v => exact mappings.isMapping first
    obtain ⟨v, done, mapping, entries⟩ := joined_mappings before (others.isMapping found)
    refine ⟨some v, congrArg (Except.map some) done, fun v' same => ?_, ?_⟩
    · cases same
      exact mapping
    · rw [Option.getD_some, entries, entriesIn_some found, entriesIn]
      cases lookup t kind <;> rfl

/-- Mappings are joined kind by kind. -/
theorem Mappings.gather (mappings : Mappings t) (others : Mappings u) :
    ∃ t', u.foldlM (place kindRule) t = .ok t' ∧ Mappings t' ∧
      ∀ kind, entriesIn t' kind = Table.union (entriesIn t kind) (entriesIn u kind) := by
  obtain ⟨t', placed⟩ := exists_foldlM_place even_kindRule fun kind =>
    (mappings.follow_kind others kind).imp fun _ => And.left
  have now (kind : Scalar) : (∀ v, lookup t' kind = some v → IsMapping v) ∧
      entriesIn t' kind = Table.union (entriesIn t kind) (entriesIn u kind) := by
    obtain ⟨o, followed, mapping, entries⟩ := mappings.follow_kind others kind
    have same := (lookup_foldlM_place even_kindRule placed kind).symm.trans followed
    cases same
    exact ⟨mapping, entries⟩
  have distinct := distinct_foldlM_place mappings.distinct placed
  exact ⟨t', placed, ⟨distinct, fun e member => (now e.1).1 _ (lookup_of_mem distinct member)⟩,
    fun kind => (now kind).2⟩

/-! ### Entries of a definition -/

/-- A mapping with mappings for sections, and in its resources for each kind. -/
structure Sectioned (t : Table) : Prop where
  distinct : Distinct t
  sections : ∀ e ∈ t, e.1 ∈ sectionNames.map Scalar.text → IsMapping e.2
  kinds : ∀ e ∈ entriesIn t (.text "resources"), IsMapping e.2

/-- What an entry of a definition goes by. -/
inductive Address
  | flow (key : Scalar)
  | setting (key : Scalar)
  | resource (kind key : Scalar)
  | other (key : Scalar)

/-- The value of an entry. -/
def at? (t : Table) : Address → Option Value
  | .flow k => lookup (entriesIn t (.text "flows")) k
  | .setting k => lookup (entriesIn t (.text "settings")) k
  | .resource kind k => lookup (entriesIn (entriesIn t (.text "resources")) kind) k
  | .other k => if k ∈ sectionNames.map Scalar.text then none else lookup t k

theorem at?_section (isSection : k ∈ sectionNames.map Scalar.text) : at? t (.other k) = none :=
  if_pos isSection

theorem at?_other (other : k ∉ sectionNames.map Scalar.text) : at? t (.other k) = lookup t k :=
  if_neg other

/-- Where there are sections only, there is nothing else. -/
theorem at?_of_sections (only : ∀ e ∈ t, e.1 ∈ sectionNames.map Scalar.text) (k : Scalar) :
    at? t (.other k) = none := by
  by_cases isSection : k ∈ sectionNames.map Scalar.text
  · exact at?_section isSection
  rw [at?_other isSection]
  refine lookup_eq_none.2 fun e member => Bool.eq_false_iff.2 fun same => isSection ?_
  have named := only e member
  obtain ⟨s, _, text⟩ := List.mem_map.1 named
  rw [← text, Scalar.sameKey_comm, Scalar.sameKey_text_right, beq_iff_eq] at same
  exact same ▸ text.symm ▸ named

/-- The value of an entry in the last of the files that have it. -/
def latest (chunks : List Table) (a : Address) : Option Value :=
  chunks.reverse.findSome? fun chunk => at? chunk a

theorem latest_cons (chunk : Table) (rest : List Table) (a : Address) :
    latest (chunk :: rest) a = (latest rest a).or (at? chunk a) := by
  simp [latest, List.findSome?_append]

/-- If no two files differ on an entry, any file that has it has its value. -/
theorem latest_of_spread {chunks : List Table} {whole : Table}
    (spread : ∀ a v, at? whole a = some v ↔ ∃ chunk ∈ chunks, at? chunk a = some v) (a : Address) :
    at? whole a = latest chunks a := by
  cases found : latest chunks a with
  | none =>
    have nowhere := List.findSome?_eq_none_iff.1 found
    refine Option.eq_none_iff_forall_ne_some.2 fun v there => ?_
    obtain ⟨chunk, member, here⟩ := (spread a v).1 there
    exact Option.some_ne_none v (here.symm.trans (nowhere chunk (List.mem_reverse.2 member)))
  | some v =>
    obtain ⟨chunk, member, here⟩ := List.exists_of_findSome?_eq_some found
    exact (spread a v).2 ⟨chunk, List.mem_reverse.1 member, here⟩

namespace Sectioned

theorem isMapping (sectioned : Sectioned t) (isSection : k ∈ sectionNames.map Scalar.text)
    (found : lookup t k = some v) : IsMapping v := by
  obtain ⟨k', member, same⟩ := mem_of_lookup found
  obtain ⟨s, _, rfl⟩ := List.mem_map.1 isSection
  have here : k' = .text s := by simpa [Scalar.sameKey_text_right] using same
  exact sectioned.sections _ member (here ▸ isSection)

theorem distinct_entriesIn (sectioned : Sectioned t)
    (isSection : k ∈ sectionNames.map Scalar.text) : Distinct (entriesIn t k) :=
  Merge.distinct_entriesIn fun _ => sectioned.isMapping isSection

theorem mappings (sectioned : Sectioned t) : Mappings (entriesIn t (.text "resources")) :=
  ⟨sectioned.distinct_entriesIn (by decide), sectioned.kinds⟩

end Sectioned

/-- A definition that has every section. -/
structure Based (t : Table) : Prop extends Sectioned t where
  based : ∀ k ∈ sectionNames.map Scalar.text, (lookup t k).isSome = true

theorem Based.lookup_eq (based : Based t) (isSection : k ∈ sectionNames.map Scalar.text) :
    lookup t k = some (.table (entriesIn t k)) := by
  obtain ⟨v, found⟩ := Option.isSome_iff_exists.1 (based.based k isSection)
  obtain ⟨entries, rfl, _⟩ := exists_of_isMapping (based.isMapping isSection found)
  rw [entriesIn_some found, found]
  rfl

/-- A section whose values are joined gets the entries of the file. -/
theorem Based.follow_joined (based : Based t) (sectioned : Sectioned chunk)
    (isSection : k ∈ sectionNames.map Scalar.text)
    (joins : ∀ there v, sectionRule k there v = joined (there.getD .null) v) :
    follow sectionRule k (lookup t k) (given k chunk) =
      .ok (some (.table (Table.union (entriesIn t k) (entriesIn chunk k)))) := by
  rw [given_eq_toList sectioned.distinct, follow_toList, based.lookup_eq isSection]
  cases found : lookup chunk k with
  | none => rw [entriesIn_none found]; rfl
  | some w =>
    obtain ⟨entries, rfl, _⟩ := exists_of_isMapping (sectioned.isMapping isSection found)
    rw [entriesIn_some found]
    dsimp only
    rw [joins]
    rfl

/-- The resources get those of the file kind by kind. -/
theorem Based.follow_gathered (based : Based t) (sectioned : Sectioned chunk) :
    ∃ entries, follow sectionRule (.text "resources") (lookup t (.text "resources"))
        (given (.text "resources") chunk) = .ok (some (.table entries)) ∧
      Mappings entries ∧ ∀ kind, entriesIn entries kind =
        Table.union (entriesIn (entriesIn t (.text "resources")) kind)
          (entriesIn (entriesIn chunk (.text "resources")) kind) := by
  obtain ⟨entries, gathered, mappings, kinds⟩ := based.mappings.gather sectioned.mappings
  refine ⟨entries, ?_, mappings, kinds⟩
  rw [given_eq_toList sectioned.distinct, follow_toList, based.lookup_eq (by decide)]
  cases found : lookup chunk (.text "resources") with
  | none =>
    rw [entriesIn_none found] at gathered
    cases gathered
    rfl
  | some w =>
    obtain ⟨others, rfl, _⟩ := exists_of_isMapping (sectioned.isMapping (by decide) found)
    rw [entriesIn_some found, entriesOf] at gathered
    dsimp only
    rw [sectionRule_resources, Option.getD_some, Merge.gathered, resources_table, gathered]
    rfl

theorem follow_others (sectioned : Sectioned chunk) (t : Table)
    (other : k ∉ sectionNames.map Scalar.text) :
    follow sectionRule k (lookup t k) (given k chunk) = .ok ((lookup chunk k).or (lookup t k)) := by
  rw [follow_latest (sectionRule_other other), given_eq_toList sectioned.distinct]
  cases lookup chunk k <;> rfl

/-- What there is once a file was added to a definition. -/
structure Added (t chunk t' : Table) : Prop where
  distinct : Distinct t'
  flows : lookup t' (.text "flows") =
    some (.table (Table.union (entriesIn t (.text "flows")) (entriesIn chunk (.text "flows"))))
  settings : lookup t' (.text "settings") = some (.table
    (Table.union (entriesIn t (.text "settings")) (entriesIn chunk (.text "settings"))))
  resources : ∃ entries, lookup t' (.text "resources") = some (.table entries) ∧
    Mappings entries ∧ ∀ kind, entriesIn entries kind =
      Table.union (entriesIn (entriesIn t (.text "resources")) kind)
        (entriesIn (entriesIn chunk (.text "resources")) kind)
  others : ∀ k ∉ sectionNames.map Scalar.text, lookup t' k = (lookup chunk k).or (lookup t k)

theorem Based.added (based : Based t) (sectioned : Sectioned chunk) :
    ∃ t', add t chunk = .ok t' ∧ Added t chunk t' := by
  have flows := based.follow_joined sectioned (by decide) sectionRule_flows
  have settings := based.follow_joined sectioned (by decide) sectionRule_settings
  obtain ⟨entries, resources, gathered⟩ := based.follow_gathered sectioned
  obtain ⟨t', placed⟩ : ∃ t', chunk.foldlM (place sectionRule) t = .ok t' := by
    refine exists_foldlM_place even_sectionRule fun k => ?_
    by_cases isSection : k ∈ sectionNames.map Scalar.text
    · rcases eq_of_isSection isSection with rfl | rfl | rfl
      · exact ⟨_, flows⟩
      · exact ⟨_, settings⟩
      · exact ⟨_, resources⟩
    · exact ⟨_, follow_others sectioned t isSection⟩
  have now {k : Scalar} {o : Option Value}
      (followed : follow sectionRule k (lookup t k) (given k chunk) = .ok o) : lookup t' k = o :=
    Except.ok.inj ((lookup_foldlM_place even_sectionRule placed k).symm.trans followed)
  exact ⟨t', (add_eq t chunk).trans placed, distinct_foldlM_place based.distinct placed, now flows,
    now settings, ⟨entries, now resources, gathered⟩, fun k other =>
      now (follow_others sectioned t other)⟩

theorem Added.based (added : Added t chunk t') (based : Based t) : Based t' where
  distinct := added.distinct
  sections := by
    intro e member isSection
    have found := lookup_of_mem added.distinct member
    rcases eq_of_isSection isSection with same | same | same
    · rw [same, added.flows] at found
      rw [← Option.some.inj found]
      exact distinct_union (based.distinct_entriesIn (by decide)) _
    · rw [same, added.settings] at found
      rw [← Option.some.inj found]
      exact distinct_union (based.distinct_entriesIn (by decide)) _
    · obtain ⟨entries, there, mappings, _⟩ := added.resources
      rw [same, there] at found
      rw [← Option.some.inj found]
      exact mappings.distinct
  kinds := by
    obtain ⟨entries, there, mappings, _⟩ := added.resources
    rw [entriesIn_some there]
    exact mappings.each
  based := by
    intro k isSection
    rcases eq_of_isSection isSection with rfl | rfl | rfl
    · rw [added.flows]; rfl
    · rw [added.settings]; rfl
    · obtain ⟨entries, there, _⟩ := added.resources
      rw [there]; rfl

/-- The entries of the file have their values now, and the others have those that they had. -/
theorem Added.at?_eq (added : Added t chunk t') (sectioned : Sectioned chunk) (a : Address) :
    at? t' a = (at? chunk a).or (at? t a) := by
  cases a with
  | flow k =>
    rw [at?, entriesIn_some added.flows]
    exact lookup_union (sectioned.distinct_entriesIn (by decide)) _ k
  | setting k =>
    rw [at?, entriesIn_some added.settings]
    exact lookup_union (sectioned.distinct_entriesIn (by decide)) _ k
  | resource kind k =>
    obtain ⟨entries, there, _, kinds⟩ := added.resources
    rw [at?, entriesIn_some there, entriesOf, kinds]
    exact lookup_union (sectioned.mappings.distinct_entriesIn kind) _ k
  | other k =>
    by_cases isSection : k ∈ sectionNames.map Scalar.text
    · simp only [at?_section isSection, Option.or_none]
    · simp only [at?_other isSection]
      exact added.others k isSection

theorem based_start : Based start ∧ ∀ a, at? start a = none := by
  refine ⟨⟨⟨by decide, by decide, by decide⟩, by decide⟩, fun a => ?_⟩
  cases a with
  | other k => exact at?_of_sections (by decide) k
  | _ => rfl

/-- Files with mappings for sections can be put together, and each entry has its latest value. -/
theorem exists_all_of_sectioned {chunks : List Table} (sectioned : ∀ chunk ∈ chunks, Sectioned chunk) :
    ∃ data, all chunks = .ok data ∧ Sectioned data ∧ ∀ a, at? data a = latest chunks a := by
  have onward (t : Table) (based : Based t) : ∃ data, chunks.foldlM Merge.add t = .ok data ∧
      Sectioned data ∧ ∀ a, at? data a = (latest chunks a).or (at? t a) := by
    induction chunks generalizing t with
    | nil => exact ⟨t, rfl, based.toSectioned, fun a => rfl⟩
    | cons chunk rest ih =>
      have first := sectioned chunk List.mem_cons_self
      obtain ⟨t', done, added⟩ := based.added first
      obtain ⟨data, onward, whole, values⟩ := ih
        (fun chunk member => sectioned chunk (List.mem_cons_of_mem _ member)) t' (added.based based)
      refine ⟨data, ?_, whole, fun a => ?_⟩
      · rw [List.foldlM_cons, done]
        exact onward
      · rw [values, added.at?_eq first, latest_cons, Option.or_assoc]
  obtain ⟨based, empty⟩ := based_start
  obtain ⟨data, done, whole, values⟩ := onward start based
  exact ⟨data, done, whole, fun a => by rw [values, empty, Option.or_none]⟩

end Merge

end ContactFlow
