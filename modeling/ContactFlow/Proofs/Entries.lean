import ContactFlow.Proofs.Spread

/-!
What is read of a definition is up to its entries, and not to their order, unless two keys spell one
name: a key may be a text or bytes, and only the reading takes them for the same. So a definition
reads the same however its entries are spread over files.
-/

namespace ContactFlow

namespace Checked

variable {α β γ : Type} {R : α → α → Prop}

/-- Two readings that come to related results, or both find faults. -/
inductive Alike (R : α → α → Prop) : Checked α → Checked α → Prop
  | good {a b : α} (related : R a b) : Alike R (.good a) (.good b)
  | bad (faults others : List Fault) : Alike R (.bad faults) (.bad others)

theorem Alike.under {x y : Checked α} (alike : Alike R x y) (place : Place) :
    Alike R (x.under place) (y.under place) := by
  cases alike with
  | good related => exact .good related
  | bad faults others => exact .bad _ _

theorem Alike.trans {x y z : Checked α} (onward : ∀ {a b c}, R a b → R b c → R a c)
    (first : Alike R x y) (second : Alike R y z) : Alike R x z := by
  cases first with
  | good related =>
    cases second with
    | good related' => exact .good (onward related related')
  | bad faults others =>
    cases second with
    | bad _ others' => exact .bad faults others'

theorem Alike.cons {x y : Checked (List α)} (a : Checked α) (alike : Alike List.Perm x y) :
    Alike List.Perm (List.cons <$> a <*> x) (List.cons <$> a <*> y) := by
  cases alike with
  | good related =>
    cases a with
    | good a => exact .good (related.cons a)
    | bad faults => exact .bad _ _
  | bad faults others => cases a <;> exact .bad _ _

theorem each_cons (read : γ → Checked α) (a : γ) (rest : List γ) :
    each read (a :: rest) = List.cons <$> read a <*> each read rest := rfl

/-- In another order the same is read, in that order. -/
theorem alike_each_of_perm (read : γ → Checked α) {l l' : List γ} (perm : l.Perm l') :
    Alike List.Perm (each read l) (each read l') := by
  induction perm with
  | nil => exact .good .nil
  | cons a _ ih => exact ih.cons (read a)
  | swap a b rest =>
    rw [each_cons, each_cons, each_cons, each_cons]
    cases read a <;> cases read b <;> cases each read rest <;>
      first | exact .good (.swap _ _ _) | exact .bad _ _
  | trans _ _ first second => exact first.trans List.Perm.trans second

theorem each_bad {read : γ → Checked α} {l : List γ} {a : γ} (member : a ∈ l)
    (bad : ∃ faults, read a = .bad faults) : ∃ faults, each read l = .bad faults := by
  induction l with
  | nil => cases member
  | cons b rest ih =>
    rw [each_cons]
    rcases List.mem_cons.1 member with rfl | later
    · obtain ⟨faults, same⟩ := bad
      rw [same]
      cases each read rest <;> exact ⟨_, rfl⟩
    · obtain ⟨faults, same⟩ := ih later
      rw [same]
      cases read b <;> exact ⟨_, rfl⟩

end Checked

/-- Keys that spell something. -/
inductive Scalar.Spells : Scalar → Prop
  | text (s : String) : Spells (.text s)
  | bytes (bs : List UInt8) : Spells (.bytes bs)

theorem Scalar.Spells.eq {k k' : Scalar} (spells : k.Spells) (same : k.sameKey k' = true) :
    k = k' := by
  cases spells <;> simpa [sameKey, integer?, instant?] using same

namespace Read

variable {α : Type} {t u : Table}

/-- The name that a key spells. -/
def name? (k : Scalar) : Option String :=
  match key k with
  | .good s => some s
  | .bad _ => none

/-- No two keys spell one name. -/
def Unambiguous (t : Table) : Prop := (t.filterMap fun e => name? e.1).Nodup

instance (t : Table) : Decidable (Unambiguous t) := inferInstanceAs (Decidable (List.Nodup _))

theorem key_bad {k : Scalar} (other : ¬ k.Spells) : ∃ faults, key k = .bad faults := by
  cases k with
  | text s => exact (other (.text s)).elim
  | bytes bs => exact (other (.bytes bs)).elim
  | _ => exact ⟨_, rfl⟩

/-- An entry with the name that its key spells. -/
def entry (read : Value → Checked α) (e : Scalar × Value) : Checked (String × α) :=
  Prod.mk <$> key e.1 <*> (read e.2).under (.ofKey e.1)

theorem tableOf_table (read : Value → Checked α) (t : Table) :
    tableOf read (.table t) = Ordered.collect <$> Checked.each (entry read) t := rfl

theorem entry_bad (read : Value → Checked α) {e : Scalar × Value} (other : ¬ e.1.Spells) :
    ∃ faults, entry read e = .bad faults := by
  obtain ⟨faults, same⟩ := key_bad other
  unfold entry
  rw [same]
  cases (read e.2).under (.ofKey e.1) <;> exact ⟨_, rfl⟩

theorem names_of_each {read : Value → Checked α} {found : List (String × α)}
    (done : Checked.each (entry read) t = .good found) :
    Ordered.keys found = t.filterMap fun e => name? e.1 := by
  induction t generalizing found with
  | nil => cases done; rfl
  | cons e rest ih =>
    rw [Checked.each_cons] at done
    obtain ⟨f, others, first, rest', rfl⟩ := Checked.seq_good done
    obtain ⟨e', here, rfl⟩ := Checked.map_good first
    obtain ⟨f, a, named, value, rfl⟩ := Checked.seq_good here
    obtain ⟨s, spelled, rfl⟩ := Checked.map_good named
    have name : name? e.1 = some s := by rw [name?, spelled]
    rw [List.filterMap_cons, name, ← ih rest']
    rfl

theorem perm_of_lookup (distinct : Merge.Distinct t) (distinct' : Merge.Distinct u)
    (same : ∀ k, Merge.lookup t k = Merge.lookup u k) (spells : ∀ e ∈ t, e.1.Spells) : t.Perm u := by
  have once {t : Table} (distinct : Merge.Distinct t) : t.Nodup := distinct.imp fun apart same => by
    rw [same, Scalar.sameKey_refl] at apart
    cases apart
  refine (List.perm_ext_iff_of_nodup (once distinct) (once distinct')).2 fun e => ⟨fun here => ?_,
    fun there => ?_⟩
  · have found := (same e.1).symm.trans (Merge.lookup_of_mem distinct here)
    obtain ⟨k, member, met⟩ := Merge.mem_of_lookup found
    rw [Scalar.sameKey_comm] at met
    rwa [← (spells e here).eq met] at member
  · have found := (same e.1).trans (Merge.lookup_of_mem distinct' there)
    obtain ⟨k, member, met⟩ := Merge.mem_of_lookup found
    have key : k = e.1 := (spells _ member).eq met
    rwa [key] at member

theorem alike_collect {x y : Checked (List (String × α))} (alike : x.Alike List.Perm y)
    (once : ∀ found, x = .good found → (Ordered.keys found).Nodup) :
    (Ordered.collect <$> x).Alike List.Perm (Ordered.collect <$> y) := by
  cases alike with
  | good related =>
    rename_i found found'
    have first : Ordered.collect found = found := Ordered.collect_of_nodup (once found rfl)
    have second : Ordered.collect found' = found' :=
      Ordered.collect_of_nodup ((related.map Prod.fst).nodup_iff.1 (once found rfl))
    exact .good (first.symm ▸ second.symm ▸ related)
  | bad faults others => exact .bad faults others

/-- A table reads the same with its entries in another order, if no two keys spell one name. -/
theorem alike_tableOf (read : Value → Checked α) (distinct : Merge.Distinct t)
    (distinct' : Merge.Distinct u) (same : ∀ k, Merge.lookup t k = Merge.lookup u k)
    (unambiguous : Unambiguous t) :
    (tableOf read (.table t)).Alike List.Perm (tableOf read (.table u)) := by
  rw [tableOf_table, tableOf_table]
  by_cases spells : ∀ e ∈ t, e.1.Spells
  · refine alike_collect (Checked.alike_each_of_perm _ (perm_of_lookup distinct distinct' same spells))
      fun found done => ?_
    rw [names_of_each done]
    exact unambiguous
  · simp only [not_forall] at spells
    obtain ⟨e, member, other⟩ := spells
    have found := (same e.1).symm.trans (Merge.lookup_of_mem distinct member)
    obtain ⟨k, member', met⟩ := Merge.mem_of_lookup found
    have other' : ¬ k.Spells := fun spells => other (spells.eq met ▸ spells)
    obtain ⟨faults, bad⟩ := Checked.each_bad member (entry_bad read other)
    obtain ⟨faults', bad'⟩ := Checked.each_bad member' (entry_bad read other')
    rw [bad, bad']
    exact .bad faults faults'

end Read

open Merge (Distinct IsMapping Mappings Sectioned at? entriesIn latest lookup)

/-! ### Definitions -/

/-- A section that is left out reads like one without entries. -/
theorem Table.optional_section {α : Type} {t : Table} (name : String)
    (read : Value → Checked α) (absent : α) (empty : read (.table []) = .good absent)
    (mapping : ∀ v, lookup t (.text name) = some v → IsMapping v) :
    t.optional name absent read = (read (.table (entriesIn t (.text name)))).under (.name name) := by
  rw [optional, Merge.get?_eq_lookup]
  cases found : lookup t (.text name) with
  | none =>
    rw [Merge.entriesIn_none found, empty]
    rfl
  | some v =>
    obtain ⟨entries, rfl, _⟩ := Merge.exists_of_isMapping (mapping v found)
    rw [Merge.entriesIn_some found]
    rfl

theorem Settings.ofTable_congr {t u : Table} (same : ∀ k, lookup t k = lookup u k) :
    ofTable t = ofTable u := by
  simp only [ofTable, Table.optional, Merge.get?_eq_lookup, same]

namespace Resources

/-- The names under which resources are read. -/
def kinds : List String := ["queues", "functions", "flows", "hours"]

/-- The same resources, but for their order. -/
structure Alike (r r' : Resources) : Prop where
  queues : r.queues.Perm r'.queues
  functions : r.functions.Perm r'.functions
  flows : r.flows.Perm r'.flows
  hours : r.hours.Perm r'.hours

theorem alike_mk {q q' f f' l l' h h' : Checked (List (String × String))}
    (queues : q.Alike List.Perm q') (functions : f.Alike List.Perm f')
    (flows : l.Alike List.Perm l') (hours : h.Alike List.Perm h') :
    (mk <$> q <*> f <*> l <*> h).Alike Alike (mk <$> q' <*> f' <*> l' <*> h') := by
  cases queues <;> cases functions <;> cases flows <;> cases hours <;>
    first | exact .bad _ _ | exact .good ⟨‹_›, ‹_›, ‹_›, ‹_›⟩

theorem alike_ofTable {t u : Table} (left : Mappings t) (right : Mappings u)
    (same : ∀ kind k, lookup (entriesIn t kind) k = lookup (entriesIn u kind) k)
    (unambiguous : ∀ kind ∈ kinds, Read.Unambiguous (entriesIn t (.text kind))) :
    (ofTable t).Alike Alike (ofTable u) := by
  have kind (name : String) (known : name ∈ kinds) :
      (t.optional name [] (Read.tableOf Read.text)).Alike List.Perm
        (u.optional name [] (Read.tableOf Read.text)) := by
    rw [Table.optional_section name _ [] rfl fun v => left.isMapping,
      Table.optional_section name _ [] rfl fun v => right.isMapping]
    exact (Read.alike_tableOf Read.text (left.distinct_entriesIn _) (right.distinct_entriesIn _)
      (same _) (unambiguous name known)).under _
  exact alike_mk (kind "queues" (by decide)) (kind "functions" (by decide))
    (kind "flows" (by decide)) (kind "hours" (by decide))

end Resources

namespace Definition

/-- The same definitions, but for the order of what has names. -/
structure Alike (d d' : Definition) : Prop where
  version : d.version = d'.version
  settings : d.settings = d'.settings
  resources : d.resources.Alike d'.resources
  flows : d.flows.Perm d'.flows

/-- Neither among the flows nor among the resources of a kind do two keys spell one name. -/
structure Unambiguous (t : Table) : Prop where
  flows : Read.Unambiguous (entriesIn t (.text "flows"))
  resources : ∀ kind ∈ Resources.kinds,
    Read.Unambiguous (entriesIn (entriesIn t (.text "resources")) (.text kind))

theorem alike_mk {v : Checked String} {s : Checked Settings} {r r' : Checked Resources}
    {f f' : Checked (List (String × FlowDefinition))} (resources : r.Alike Resources.Alike r')
    (flows : f.Alike List.Perm f') :
    (mk <$> v <*> s <*> r <*> f).Alike Alike (mk <$> v <*> s <*> r' <*> f') := by
  cases v <;> cases s <;> cases resources <;> cases flows <;>
    first | exact .bad _ _ | exact .good ⟨rfl, rfl, ‹_›, ‹_›⟩

/-- Definitions with the same entries read alike. -/
theorem alike_ofTable {t u : Table} (left : Sectioned t) (right : Sectioned u)
    (same : ∀ a, at? t a = at? u a) (unambiguous : Unambiguous t) :
    (ofTable t).Alike Alike (ofTable u) := by
  have version : t.optional "version" supportedVersion readVersion =
      u.optional "version" supportedVersion readVersion := by
    have there : lookup t (.text "version") = lookup u (.text "version") :=
      same (.other (.text "version"))
    rw [Table.optional, Table.optional, Merge.get?_eq_lookup, Merge.get?_eq_lookup, there]
  have settings : t.optional "settings" {} (Read.record Settings.ofTable) =
      u.optional "settings" {} (Read.record Settings.ofTable) := by
    have empty : Read.record Settings.ofTable (.table []) = .good {} := rfl
    rw [Table.optional_section "settings" _ _ empty fun v => left.isMapping (by decide),
      Table.optional_section "settings" _ _ empty fun v => right.isMapping (by decide),
      Read.record, Read.record, Settings.ofTable_congr fun k => same (.setting k)]
  have resources : (t.optional "resources" {} (Read.record Resources.ofTable)).Alike Resources.Alike
      (u.optional "resources" {} (Read.record Resources.ofTable)) := by
    have empty : Read.record Resources.ofTable (.table []) = .good {} := rfl
    rw [Table.optional_section "resources" _ _ empty fun v => left.isMapping (by decide),
      Table.optional_section "resources" _ _ empty fun v => right.isMapping (by decide)]
    exact (Resources.alike_ofTable left.mappings right.mappings
      (fun kind k => same (.resource kind k)) unambiguous.resources).under _
  have flows : (t.optional "flows" [] (Read.tableOf (Read.record FlowDefinition.ofTable))).Alike
      List.Perm (u.optional "flows" [] (Read.tableOf (Read.record FlowDefinition.ofTable))) := by
    rw [Table.optional_section "flows" _ [] rfl fun v => left.isMapping (by decide),
      Table.optional_section "flows" _ [] rfl fun v => right.isMapping (by decide)]
    exact (Read.alike_tableOf _ (left.distinct_entriesIn (by decide))
      (right.distinct_entriesIn (by decide)) (fun k => same (.flow k)) unambiguous.flows).under _
  unfold ofTable
  rw [version, settings]
  exact alike_mk resources flows

theorem check_alike {t u : Table} (alike : (ofTable t).Alike Alike (ofTable u))
    (source source' : String) :
    (∃ d d', check (.table u) source = .ok d ∧ check (.table t) source' = .ok d' ∧ d'.Alike d) ∨
      (∃ faults, check (.table u) source = .error (.invalid source faults)) ∧
        ∃ faults, check (.table t) source' = .error (.invalid source' faults) := by
  unfold check ofValue Read.record
  dsimp only
  generalize ofTable t = x at alike ⊢
  generalize ofTable u = y at alike ⊢
  cases alike with
  | good related => exact .inl ⟨_, _, rfl, rfl, related⟩
  | bad faults others => exact .inr ⟨⟨_, rfl⟩, _, rfl⟩

variable {f : Files} {path : String} {chunks : List Table}

/-- Files with mappings for sections make up the definition in which each entry has the value of the
last file that has it. Loading their directory is reading that definition, and it comes to the same,
but for the order, as loading a file with those entries, unless two keys spell one name. If no two of
the files differ on an entry, these are the entries that are in any of them. -/
theorem load_of_spread (parts : Parts f path chunks)
    (sectioned : ∀ chunk ∈ chunks, Sectioned chunk) :
    (∃ data, Sectioned data ∧ (∀ a, at? data a = latest chunks a) ∧
      load f path = check (.table data) (Path.ofString path).text) ∧
    (∀ g file whole, readPath g (Path.ofString file) = .ok whole → Sectioned whole →
      Unambiguous whole → (∀ a, at? whole a = latest chunks a) →
      (∃ d d', load f path = .ok d ∧ load g file = .ok d' ∧ d'.Alike d) ∨
        (∃ faults, load f path = .error (.invalid (Path.ofString path).text faults)) ∧
          ∃ faults, load g file = .error (.invalid (Path.ofString file).text faults)) ∧
    (∀ whole, (∀ a v, at? whole a = some v ↔ ∃ chunk ∈ chunks, at? chunk a = some v) →
      ∀ a, at? whole a = latest chunks a) := by
  obtain ⟨data, merged, sectioned', values⟩ := Merge.exists_all_of_sectioned sectioned
  have loaded : load f path = check (.table data) (Path.ofString path).text := by
    rw [load_parts parts, merged]
    rfl
  refine ⟨⟨data, sectioned', values, loaded⟩, fun g file whole read sectioned unambiguous same => ?_,
    fun whole spread => Merge.latest_of_spread spread⟩
  have other : load g file = check (.table whole) (Path.ofString file).text := by
    unfold load
    dsimp only
    rw [read]
    rfl
  rw [loaded, other]
  exact check_alike (alike_ofTable sectioned sectioned' (fun a => (same a).trans (values a).symm)
    unambiguous) _ _

def spread : Files where
  files := [(["a.yaml"], "flows: {Menu: {description: first}}\nsettings: {log_level: DEBUG}\n"),
    (["b.yaml"], "flows: {Bye: {}, Menu: {description: second}}\n")]

def spreadParts : List Table :=
  [[(.text "flows", .record [("Menu", .record [("description", .text "first")])]),
      (.text "settings", .record [("log_level", .text "DEBUG")])],
    [(.text "flows", .record [("Bye", .record []),
      ("Menu", .record [("description", .text "second")])])]]

def together : Files where
  files := [(["all.yaml"],
    "settings: {log_level: DEBUG}\nflows: {Menu: {description: second}, Bye: {}}\n")]

def togetherWhole : Table :=
  [(.text "settings", .record [("log_level", .text "DEBUG")]),
    (.text "flows", .record [("Menu", .record [("description", .text "second")]),
      ("Bye", .record [])])]

theorem load_of_spread_menu : Parts spread "." spreadParts ∧
    readPath together (Path.ofString "all.yaml") = .ok togetherWhole ∧
    ((∃ d d', load spread "." = .ok d ∧ load together "all.yaml" = .ok d' ∧ d'.Alike d) ∨
      (∃ faults, load spread "." = .error (.invalid "." faults)) ∧
        ∃ faults, load together "all.yaml" = .error (.invalid "all.yaml" faults)) := by
  have parts : Parts spread "." spreadParts :=
    parts_of_sorted (by decide +kernel) (by decide +kernel) (by decide +kernel)
      (show ["a.yaml", "b.yaml"].Pairwise _ by decide) nofun
      (.cons (by decide +kernel) (.cons (by decide +kernel) .nil))
  have sectioned : ∀ chunk ∈ spreadParts, Sectioned chunk := by
    simp only [spreadParts, List.forall_mem_cons]
    exact ⟨⟨by decide, by decide, by decide⟩, ⟨by decide, by decide, by decide⟩, nofun⟩
  have read : readPath together (Path.ofString "all.yaml") = .ok togetherWhole := by decide +kernel
  have same (a : Merge.Address) : at? togetherWhole a = latest spreadParts a := by
    rw [spreadParts, Merge.latest_cons, Merge.latest_cons]
    cases a with
    | flow k =>
      change lookup [(.text "Menu", _), (.text "Bye", _)] k =
        (Option.or _ (lookup [(.text "Bye", _), (.text "Menu", _)] k)).or
          (lookup [(.text "Menu", _)] k)
      simp only [Merge.lookup_cons]
      by_cases menu : (Scalar.text "Menu").sameKey k = true
      · have bye : (Scalar.text "Bye").sameKey k = false := by
          rw [← Scalar.sameKey_congr menu]
          rfl
        simp [menu, bye, latest]
      · cases (Scalar.text "Bye").sameKey k <;> simp [menu, latest]
    | setting k => rfl
    | resource kind k => rfl
    | other k =>
      rw [Merge.at?_of_sections (by decide), Merge.at?_of_sections (by decide),
        Merge.at?_of_sections (by decide)]
      rfl
  exact ⟨parts, read, (load_of_spread parts sectioned).2.1 together "all.yaml" togetherWhole read
    ⟨by decide, by decide, by decide⟩ ⟨by decide, by decide +kernel⟩ same⟩

/-- The first and the last of the files spell the name of a flow by a text, the other one by bytes. -/
def spelledTwice : Files where
  files := [(["a.yaml"], "flows: {Menu: {description: first}}\n"),
    (["b.yaml"], "flows:\n  ? !!binary TWVudQ==\n  : {description: second}\n"),
    (["c.yaml"], "flows: {Menu: {description: third}}\n")]

def spelledTwiceParts : List Table :=
  [[(.text "flows", .record [("Menu", .record [("description", .text "first")])])],
    [(.text "flows", .table [(.bytes [77, 101, 110, 117],
      .record [("description", .text "second")])])],
    [(.text "flows", .record [("Menu", .record [("description", .text "third")])])]]

/-- What the last file says of the flow is not what is loaded. -/
theorem load_spelledTwice : Parts spelledTwice "." spelledTwiceParts ∧
    (∀ chunk ∈ spelledTwiceParts, Sectioned chunk) ∧
    latest spelledTwiceParts (.flow (.text "Menu")) =
      some (.record [("description", .text "third")]) ∧
    ((load spelledTwice ".").toOption.bind (·.flow? "Menu")).map (·.description) =
      some "second" := by
  have parts : Parts spelledTwice "." spelledTwiceParts :=
    parts_of_sorted (by decide +kernel) (by decide +kernel) (by decide +kernel)
      (show ["a.yaml", "b.yaml", "c.yaml"].Pairwise _ by decide) nofun
      (.cons (by decide +kernel) (.cons (by decide +kernel) (.cons (by decide +kernel) .nil)))
  refine ⟨parts, ?_, by decide +kernel, ?_⟩
  · simp only [spelledTwiceParts, List.forall_mem_cons]
    exact ⟨⟨by decide, by decide, by decide⟩, ⟨by decide, by decide, by decide⟩,
      ⟨by decide, by decide, by decide⟩, nofun⟩
  · rw [load_parts parts]
    decide +kernel

end Definition

end ContactFlow
