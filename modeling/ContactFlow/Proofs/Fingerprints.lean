import ContactFlow.Proofs.Compact
import ContactFlow.Proofs.Keys
import ContactFlow.Proofs.Results
import ContactFlow.Value.Shape

/-!
What a fingerprint tells. It is the hash of the canonical text of a document without its metadata, so
documents share it when they are the same but for their metadata and the order of keys, and otherwise
only if two texts have one hash. What the metadata holds, the fingerprint itself included, leaves it
as it is.
-/

namespace ContactFlow

open Value (IsJson Reordered)

/-! ### What has a text -/

theorem Value.tableWritable_eq_all (entries : List (Scalar × Value)) :
    tableWritable entries = entries.all fun e => scalarWritable e.1 && e.2.isWritable := by
  induction entries with
  | nil => rfl
  | cons e rest ih => rw [tableWritable, ih, List.all_cons]

theorem KeyOrder.comparable_texts {keys : List Scalar} (texts : ∀ k ∈ keys, ∃ s, k = .text s) :
    comparable keys = true := by
  match keys with
  | [] => rfl
  | [_] => rfl
  | k :: k' :: rest =>
    refine List.all_eq_true.2 fun other member => ?_
    obtain ⟨s, rfl⟩ := texts k List.mem_cons_self
    obtain ⟨t, rfl⟩ := texts other (List.mem_cons_of_mem _ member)
    rfl

namespace Json

/-- The one part of JSON data that has no text is a number that is too long. -/
theorem fault?_isJson {v : Value} (json : v.IsJson) (sorting : Bool) :
    fault? sorting v = if v.isWritable then none else some .number := by
  induction json with
  | null => rfl
  | bool b => rfl
  | int n => rfl
  | text s => rfl
  | @list items each ih =>
    rw [fault?, Value.isWritable]
    clear each
    induction items with
    | nil => rfl
    | cons v rest onward =>
      rw [listFault?, ih v List.mem_cons_self, onward fun v member =>
        ih v (List.mem_cons_of_mem _ member), Value.listWritable]
      cases v.isWritable <;> rfl
  | @table entries texts once each ih =>
    have keys : ∀ k ∈ entries.map (·.1), ∃ s, k = .text s := fun k member => by
      obtain ⟨e, within, rfl⟩ := List.mem_map.1 member
      exact texts e within
    rw [fault?, Value.isWritable, KeyOrder.comparable_texts keys, Bool.not_true, Bool.and_false]
    clear keys once each
    induction entries with
    | nil => rfl
    | cons e rest onward =>
      obtain ⟨k, v⟩ := e
      obtain ⟨s, rfl⟩ : ∃ s, k = .text s := texts _ List.mem_cons_self
      have later := onward (fun e member => texts e (List.mem_cons_of_mem _ member)) fun e member =>
        ih e (List.mem_cons_of_mem _ member)
      rw [if_neg Bool.false_ne_true] at later ⊢
      rw [tableFault?, ih _ List.mem_cons_self, later, Value.tableWritable]
      cases v.isWritable <;> rfl

mutual

theorem isWritable_sorted : ∀ v : Value, (sorted v).isWritable = v.isWritable
  | .scalar _ => rfl
  | .list items => listWritable_sorted items
  | .table entries => by
    rw [sorted, Value.isWritable, Value.tableWritable_eq_all, (KeyOrder.perm_sort _).all_eq,
      ← Value.tableWritable_eq_all]
    exact tableWritable_sorted entries
  | .reference _ => rfl
  | .bundle _ items => listWritable_sorted items
  | .cycle _ => rfl

theorem listWritable_sorted :
    ∀ items, Value.listWritable (sortedList items) = Value.listWritable items
  | [] => rfl
  | v :: rest => congrArg₂ (· && ·) (isWritable_sorted v) (listWritable_sorted rest)

theorem tableWritable_sorted :
    ∀ entries, Value.tableWritable (sortedTable entries) = Value.tableWritable entries
  | [] => rfl
  | (_, v) :: rest =>
    congrArg₂ (_ && · && ·) (isWritable_sorted v) (tableWritable_sorted rest)

end

/-- JSON data has a canonical text unless one of its numbers is too long. -/
theorem canonical?_isJson {v : Value} (json : v.IsJson) :
    canonical? v = if v.isWritable then .ok (canonical v) else .error .number := by
  rw [canonical?, fault?_isJson (isJson_sorted json), isWritable_sorted]
  cases v.isWritable <;> rfl

end Json

/-! ### Metadata -/

/-- An entry that is set and then left out might as well not have been set. -/
theorem Table.erase_set (t : Table) (key : String) (v : Value) :
    (t.set (.text key) v).erase key = t.erase key := by
  unfold set erase
  simp only [Scalar.sameKey_text_right]
  split
  · rw [List.filter_map]
    have kept : (fun e : Scalar × Value => e.1 != .text key) ∘
        (fun e : Scalar × Value => if e.1 == .text key then (e.1, v) else (e.1, e.2)) =
        fun e => e.1 != .text key := by
      funext e
      rw [Function.comp_apply]
      split <;> rfl
    rw [kept]
    refine (List.map_congr_left fun e member => ?_).trans (List.map_id _)
    have other : ¬ (e.1 == .text key) = true := by simpa using (List.mem_filter.1 member).2
    rw [if_neg other]
    rfl
  · simp [List.filter_append]

namespace Document

theorem isJson_withoutMetadata {d : Value} (json : d.IsJson) : (withoutMetadata d).IsJson := by
  cases json with
  | table texts once each =>
    exact .table (fun e member => texts e (List.mem_filter.1 member).1)
      (once.sublist (List.filter_sublist.map _)) fun e member => each e (List.mem_filter.1 member).1
  | null => exact .null
  | bool b => exact .bool b
  | int n => exact .int n
  | text s => exact .text s
  | list each => exact .list each

/-- The text that the fingerprint of a document is the hash of. -/
def hashedText (d : Value) : String := Json.canonical (withoutMetadata d)

theorem fingerprint?_isJson {d : Value} (json : d.IsJson) : fingerprint? d =
    if (withoutMetadata d).isWritable then .ok (Sha256.ofText (hashedText d)) else .error .number := by
  rw [fingerprint?, Json.canonical?_isJson (isJson_withoutMetadata json)]
  cases (withoutMetadata d).isWritable <;> rfl

theorem withoutMetadata_ofGraph (g : Graph) (version : Value) (more more' : Table) :
    withoutMetadata (ofGraph g version more) = withoutMetadata (ofGraph g version more') := rfl

theorem withFingerprint_ok {g : Graph} {version document signed : Value}
    (done : withFingerprint g version document = .ok signed) : ∃ f, fingerprint? document = .ok f ∧
      signed = ofGraph g version [(.text "Fingerprint", .text f)] := by
  obtain ⟨f, found, rfl⟩ := Results.map_eq_ok.1 done
  exact ⟨f, found, rfl⟩

/-- Two documents of JSON data have one text to hash exactly if they are the same but for their
metadata and the order of the keys in their tables. A fingerprint is the hash of that text, and there
is one unless a number outside of the metadata is too long to be written. Nothing that is put into the
metadata changes it, so it does not change when it is put there itself. Documents that share it are
the same in that sense, or two texts have one hash. -/
theorem fingerprint?_canonical {entries others : Table} (left : (Value.table entries).IsJson)
    (right : (Value.table others).IsJson) :
    (hashedText (.table entries) = hashedText (.table others) ↔
      (withoutMetadata (.table entries)).Reordered (withoutMetadata (.table others))) ∧
    fingerprint? (.table entries) =
      (if (withoutMetadata (.table entries)).isWritable then
        .ok (Sha256.ofText (hashedText (.table entries))) else .error .number) ∧
    (∀ metadata, fingerprint? (.table (entries.set (.text "Metadata") metadata)) =
      fingerprint? (.table entries)) ∧
    (∀ g version signed, withFingerprint g version (ofGraph g version []) = .ok signed →
      ∃ f, fingerprint? signed = .ok f ∧
        signed = ofGraph g version [(.text "Fingerprint", .text f)]) ∧
    (∀ f, fingerprint? (.table entries) = .ok f → fingerprint? (.table others) = .ok f →
      (withoutMetadata (.table entries)).Reordered (withoutMetadata (.table others)) ∨
        hashedText (.table entries) ≠ hashedText (.table others) ∧
          Sha256.ofText (hashedText (.table entries)) =
            Sha256.ofText (hashedText (.table others))) := by
  have text := Json.canonical_eq_iff (isJson_withoutMetadata left) (isJson_withoutMetadata right)
  refine ⟨text, fingerprint?_isJson left, fun metadata => ?_, fun g version signed done => ?_,
    fun f first second => ?_⟩
  · rw [fingerprint?, fingerprint?, withoutMetadata, withoutMetadata, Table.erase_set]
  · obtain ⟨f, found, rfl⟩ := withFingerprint_ok done
    refine ⟨f, ?_, rfl⟩
    rw [← found, fingerprint?, fingerprint?, withoutMetadata_ofGraph g version _ []]
  · by_cases same : hashedText (.table entries) = hashedText (.table others)
    · exact .inl (text.1 same)
    have hash {d : Value} (json : d.IsJson) (found : fingerprint? d = .ok f) :
        Sha256.ofText (hashedText d) = f := by
      rw [fingerprint?_isJson json] at found
      split at found
      · exact Except.ok.inj found
      · cases found
    exact .inr ⟨same, (hash left first).trans (hash right second).symm⟩

/-- A document of one action. -/
def goodbye : Table :=
  [(.text "Version", .text defaultVersion), (.text "Metadata", .record [("Name", .text "first")]),
    (.text "Actions", .list [.record [("Identifier", .text "bye"), ("Transitions", .record [])]])]

/-- The same document under another name, with its keys turned around. -/
def turnedGoodbye : Table :=
  [(.text "Actions", .list [.record [("Identifier", .text "bye"), ("Transitions", .record [])]]),
    (.text "Metadata", .record [("Name", .text "second")]), (.text "Version", .text defaultVersion)]

theorem fingerprint?_goodbye : (Value.table goodbye).IsJson ∧ (Value.table turnedGoodbye).IsJson ∧
    hashedText (.table goodbye) = hashedText (.table turnedGoodbye) := by
  have action : (Value.record [("Identifier", .text "bye"), ("Transitions", .record [])]).IsJson :=
    Value.isJson_record (by decide) (by simpa using ⟨.text _, Value.isJson_record (by decide) nofun⟩)
  have name (s : String) : (Value.record [("Name", .text s)]).IsJson :=
    Value.isJson_record (List.nodup_singleton _) (by simpa using .text s)
  have first : (Value.table goodbye).IsJson :=
    .table (by simp [goodbye]) (by decide) (by simpa [goodbye] using
      ⟨.text _, name _, .list (by simpa using action)⟩)
  have second : (Value.table turnedGoodbye).IsJson :=
    .table (by simp [turnedGoodbye]) (by decide) (by simpa [turnedGoodbye] using
      ⟨.list (by simpa using action), name _, .text _⟩)
  have turned : (withoutMetadata (.table goodbye)).Reordered
      (withoutMetadata (.table turnedGoodbye)) :=
    Value.reordered_of_perm (isJson_withoutMetadata first) (.swap _ _ _)
  exact ⟨first, second, (fingerprint?_canonical first second).1.2 turned⟩

end Document

end ContactFlow
