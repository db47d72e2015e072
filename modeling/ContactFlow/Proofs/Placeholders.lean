import ContactFlow.Value
import Mathlib.Tactic.Common

/-!
Placeholders. The placeholder of a reference is read back as that reference if it has a name without
braces, and as nothing otherwise. So what is written with placeholders is read back as it was, and
what is read is written as it stood, up to the white space around its placeholders.
-/

namespace ContactFlow

/-! ### One placeholder -/

theorem ResourceKind.ofWire?_eq_some {s : String} {k : ResourceKind} :
    ResourceKind.ofWire? s = some k ↔ s = k.wire := by
  constructor
  · intro found
    have spelled := List.find?_some (p := fun k : ResourceKind => k.wire == s) found
    exact (beq_iff_eq.1 spelled).symm
  · rintro rfl
    cases k <;> rfl

namespace Reference

/-- A reference whose placeholder can be read back: its name is not empty and has no brace. -/
def Readable (r : Reference) : Prop := r.name ≠ "" ∧ '{' ∉ r.name.toList ∧ '}' ∉ r.name.toList

instance (r : Reference) : Decidable r.Readable :=
  inferInstanceAs (Decidable (_ ∧ _ ∧ _))

variable {r : Reference} {cs : List Char} {s : String}

theorem isLetter_wire (k : ResourceKind) : ∀ c ∈ k.wire.toList, isLetter c = true := by
  have all : k.wire.toList.all isLetter = true := by cases k <;> rfl
  exact List.all_eq_true.1 all

theorem Readable.plain (readable : r.Readable) : ∀ c ∈ r.name.toList, isPlain c = true := by
  intro c among
  simp only [isPlain, Bool.and_eq_true, bne_iff_ne]
  exact ⟨fun same => readable.2.1 (same ▸ among), fun same => readable.2.2 (same ▸ among)⟩

theorem readable_of_plain {name : List Char} {k : ResourceKind} (some : name ≠ [])
    (plain : ∀ c ∈ name, isPlain c = true) : Readable ⟨k, String.ofList name⟩ := by
  refine ⟨fun empty => some ?_, fun among => ?_, fun among => ?_⟩
  · simpa using congrArg String.toList empty
  all_goals exact absurd (plain _ (by simpa using among)) (by decide)

/-- The kind, the colon, the name and the closing braces: what follows the opening braces. -/
def body (r : Reference) : List Char :=
  r.kind.wire.toList ++ ':' :: (r.name.toList ++ ['}', '}'])

theorem toList_render (r : Reference) : r.render.toList = '{' :: '{' :: r.body := by
  simp [render, body]

theorem parseBody_body (readable : r.Readable) : parseBody r.body = some r := by
  have letters := isLetter_wire r.kind
  have plain := readable.plain
  have kind : r.body.takeWhile isLetter = r.kind.wire.toList := by
    rw [body, List.takeWhile_append_of_pos letters,
      List.takeWhile_cons_of_neg (by decide), List.append_nil]
  have rest : r.body.dropWhile isLetter = ':' :: (r.name.toList ++ ['}', '}']) := by
    rw [body, List.dropWhile_append_of_pos letters, List.dropWhile_cons_of_neg (by decide)]
  have name : (r.name.toList ++ ['}', '}']).takeWhile isPlain = r.name.toList := by
    rw [List.takeWhile_append_of_pos plain, List.takeWhile_cons_of_neg (by decide), List.append_nil]
  have closed : (r.name.toList ++ ['}', '}']).dropWhile isPlain = ['}', '}'] := by
    rw [List.dropWhile_append_of_pos plain, List.dropWhile_cons_of_neg (by decide)]
  have named : r.name.toList ≠ [] := by simpa using readable.1
  simp only [parseBody, rest, kind, name, closed, named, ne_eq, not_false_eq_true, and_self,
    if_true, String.ofList_toList, ResourceKind.ofWire?_eq_some.2 rfl, Option.map_some]

theorem body_of_parseBody (read : parseBody cs = some r) : r.Readable ∧ cs = r.body := by
  unfold parseBody at read
  split at read
  case h_2 => cases read
  case h_1 rest opened =>
    obtain ⟨⟨named, closed⟩, k, known, rfl⟩ : ((_ ∧ _) ∧ ∃ k, _ ∧ _) := by simpa using read
    have kind := congrArg String.toList (ResourceKind.ofWire?_eq_some.1 known)
    rw [String.toList_ofList] at kind
    have plain : ∀ c ∈ rest.takeWhile isPlain, isPlain c = true :=
      List.all_eq_true.1 List.all_takeWhile
    refine ⟨readable_of_plain (by simpa using named) plain, ?_⟩
    calc cs = cs.takeWhile isLetter ++ cs.dropWhile isLetter := List.takeWhile_append_dropWhile.symm
      _ = k.wire.toList ++ ':' :: (rest.takeWhile isPlain ++ rest.dropWhile isPlain) := by
        rw [kind, opened, List.takeWhile_append_dropWhile]
      _ = body ⟨k, String.ofList (rest.takeWhile isPlain)⟩ := by
        rw [closed, body, String.toList_ofList]

theorem parseBody_eq_some : parseBody cs = some r ↔ r.Readable ∧ cs = r.body :=
  ⟨body_of_parseBody, fun ⟨readable, same⟩ => same ▸ parseBody_body readable⟩

/-- A text is read as a reference exactly if it is its placeholder once it is stripped. -/
theorem parse_eq_some : parse s = some r ↔ r.Readable ∧ Text.strip s = r.render := by
  have stripped : Text.strip s = r.render ↔
      Text.trim Text.isBlank s.toList = '{' :: '{' :: r.body := by
    rw [← toList_render, ← String.toList_inj, Text.strip, String.toList_ofList]
  rw [stripped, parse]
  split
  case h_1 cs opened => simp [opened, parseBody_eq_some]
  case h_2 other => simpa using fun _ same => other _ same

/-- Its braces keep a placeholder from being stripped. -/
theorem strip_render (r : Reference) : Text.strip r.render = r.render := by
  have left : Text.trimLeft Text.isBlank r.render.toList = r.render.toList := by
    rw [toList_render, Text.trimLeft, List.dropWhile_cons_of_neg (by decide)]
  have right : Text.trimRight Text.isBlank r.render.toList = r.render.toList := by
    rw [toList_render, body, Text.trimRight]
    simp [List.dropWhile_cons_of_neg, show Text.isBlank '}' = false by decide]
  rw [Text.strip, Text.trim, left, right, String.ofList_toList]

theorem render_injective {r r' : Reference} (same : r.render = r'.render) : r = r' := by
  have bodies : r.body = r'.body := by
    have lists := congrArg String.toList same
    rw [toList_render, toList_render] at lists
    injection lists with _ lists
    injection lists
  obtain ⟨k, name⟩ := r
  obtain ⟨k', name'⟩ := r'
  -- The kind ends at the first colon.
  have kinds : k.wire.toList = k'.wire.toList := by
    have letters := congrArg (List.takeWhile isLetter) bodies
    simpa [body, List.takeWhile_append_of_pos (isLetter_wire _),
      List.takeWhile_cons_of_neg, show isLetter ':' = false by decide] using letters
  have kind : k = k' := by
    have known := ResourceKind.ofWire?_eq_some.2 (String.toList_inj.1 kinds)
    rw [ResourceKind.ofWire?_eq_some.2 rfl] at known
    exact Option.some.inj known
  subst kind
  have names : name.toList = name'.toList := by simpa [body] using bodies
  rw [String.toList_inj.1 names]

theorem parse_render (r : Reference) : parse r.render = if r.Readable then some r else none := by
  split
  case isTrue readable => exact parse_eq_some.2 ⟨readable, strip_render r⟩
  case isFalse unreadable =>
    refine Option.eq_none_iff_forall_ne_some.2 fun r' read => unreadable ?_
    obtain ⟨readable, same⟩ := parse_eq_some.1 read
    rw [strip_render] at same
    exact render_injective same ▸ readable

/-- A text without the white space around it if it is a placeholder, and as it is otherwise. -/
def tidied (s : String) : String := if (parse s).isSome then Text.strip s else s

end Reference

/-! ### Placeholders in values -/

namespace Value

mutual

/-- Every text in a value, from left to right. Bundles are not looked into, nor are keys. -/
def texts : Value → List String
  | .scalar (.text s) => [s]
  | .scalar _ => []
  | .list items => listTexts items
  | .table entries => tableTexts entries
  | .reference _ | .bundle .. | .cycle _ => []

def listTexts : List Value → List String
  | [] => []
  | v :: rest => texts v ++ listTexts rest

def tableTexts : Table → List String
  | [] => []
  | (_, v) :: rest => texts v ++ tableTexts rest

end

mutual

/-- The value with every text replaced. -/
def mapTexts (f : String → String) : Value → Value
  | .scalar (.text s) => .text (f s)
  | .scalar s => .scalar s
  | .list items => .list (mapListTexts f items)
  | .table entries => .table (mapTableTexts f entries)
  | .reference r => .reference r
  | .bundle b items => .bundle b items
  | .cycle ofTable => .cycle ofTable

def mapListTexts (f : String → String) : List Value → List Value
  | [] => []
  | v :: rest => mapTexts f v :: mapListTexts f rest

def mapTableTexts (f : String → String) : Table → Table
  | [] => []
  | (k, v) :: rest => (k, mapTexts f v) :: mapTableTexts f rest

end

variable {f : String → String}

mutual

/-- Where no text is a placeholder, the references that were written are read back. -/
theorem withPlaceholders_render : ∀ {v : Value}, (∀ r ∈ v.references, r.Readable) →
    (∀ s ∈ v.texts, Reference.parse s = none) → v.render.withPlaceholders = v
  | .scalar (.text s), _, apart => by
    have plain := apart s (List.mem_singleton_self s)
    rw [render, mapReferences, withPlaceholders, plain]
  | .scalar .null, _, _ | .scalar (.bool _), _, _ | .scalar (.int _), _, _
  | .scalar (.real _), _, _ | .scalar (.stamp _), _, _ | .scalar (.bytes _), _, _
  | .bundle .., _, _ | .cycle _, _, _ => rfl
  | .list _, readable, apart => congrArg Value.list (listWithPlaceholders_render readable apart)
  | .table _, readable, apart => congrArg Value.table (tableWithPlaceholders_render readable apart)
  | .reference r, readable, _ => by
    have read := Reference.parse_render r
    rw [if_pos (readable r (List.mem_singleton_self r))] at read
    rw [render, mapReferences, withPlaceholders, read]

theorem listWithPlaceholders_render : ∀ {items : List Value},
    (∀ r ∈ listReferences items, r.Readable) →
    (∀ s ∈ listTexts items, Reference.parse s = none) →
    listWithPlaceholders (mapListReferences (fun r => .text r.render) items) = items
  | [], _, _ => rfl
  | v :: rest, readable, apart => by
    rw [listReferences, List.forall_mem_append] at readable
    rw [listTexts, List.forall_mem_append] at apart
    exact congrArg₂ List.cons (withPlaceholders_render readable.1 apart.1)
      (listWithPlaceholders_render readable.2 apart.2)

theorem tableWithPlaceholders_render : ∀ {entries : Table},
    (∀ r ∈ tableReferences entries, r.Readable) →
    (∀ s ∈ tableTexts entries, Reference.parse s = none) →
    tableWithPlaceholders (mapTableReferences (fun r => .text r.render) entries) = entries
  | [], _, _ => rfl
  | (k, v) :: rest, readable, apart => by
    rw [tableReferences, List.forall_mem_append] at readable
    rw [tableTexts, List.forall_mem_append] at apart
    exact congrArg₂ (fun w entries => (k, w) :: entries)
      (withPlaceholders_render readable.1 apart.1) (tableWithPlaceholders_render readable.2 apart.2)

end

theorem render_text_placeholder (s : String) :
    (withPlaceholders (.text s)).render = .text (Reference.tidied s) := by
  rw [withPlaceholders, Reference.tidied]
  cases read : Reference.parse s with
  | none => rfl
  | some r =>
    obtain ⟨-, same⟩ := Reference.parse_eq_some.1 read
    rw [if_pos (Option.isSome_some), same]
    rfl

mutual

/-- Where there are no references yet, the placeholders that were read are written as they stood. -/
theorem render_withPlaceholders : ∀ {w : Value}, w.references = [] →
    w.withPlaceholders.render = w.mapTexts Reference.tidied
  | .scalar (.text s), _ => render_text_placeholder s
  | .scalar .null, _ | .scalar (.bool _), _ | .scalar (.int _), _ | .scalar (.real _), _
  | .scalar (.stamp _), _ | .scalar (.bytes _), _ | .bundle .., _ | .cycle _, _ => rfl
  | .list _, plain => congrArg Value.list (render_listWithPlaceholders plain)
  | .table _, plain => congrArg Value.table (render_tableWithPlaceholders plain)

theorem render_listWithPlaceholders : ∀ {items : List Value}, listReferences items = [] →
    mapListReferences (fun r => .text r.render) (listWithPlaceholders items) =
      mapListTexts Reference.tidied items
  | [], _ => rfl
  | v :: rest, plain => by
    obtain ⟨first, later⟩ := List.append_eq_nil_iff.1 plain
    exact congrArg₂ List.cons (render_withPlaceholders first) (render_listWithPlaceholders later)

theorem render_tableWithPlaceholders : ∀ {entries : Table}, tableReferences entries = [] →
    mapTableReferences (fun r => .text r.render) (tableWithPlaceholders entries) =
      mapTableTexts Reference.tidied entries
  | [], _ => rfl
  | (k, v) :: rest, plain => by
    obtain ⟨first, later⟩ := List.append_eq_nil_iff.1 plain
    exact congrArg₂ (fun w entries => (k, w) :: entries) (render_withPlaceholders first)
      (render_tableWithPlaceholders later)

end

end Value

/-- Placeholders round-trip: one by one, and at any depth of a value. -/
theorem placeholders_round_trip :
    (∀ r : Reference, Reference.parse r.render = if r.Readable then some r else none) ∧
    (∀ (s : String) (r : Reference), Reference.parse s = some r → r.render = Text.strip s) ∧
    (∀ v : Value, (∀ r ∈ v.references, r.Readable) → (∀ s ∈ v.texts, Reference.parse s = none) →
      v.render.withPlaceholders = v) ∧
    ∀ w : Value, w.references = [] → w.withPlaceholders.render = w.mapTexts Reference.tidied :=
  ⟨Reference.parse_render, fun _ _ read => (Reference.parse_eq_some.1 read).2.symm,
    fun _ => Value.withPlaceholders_render, fun _ => Value.render_withPlaceholders⟩

/-- A reference with a colon and blanks in its name, beside a text that only resembles one. -/
theorem nested_placeholders_round_trip :
    let sales : Reference := ⟨.queue, " Sales: EU "⟩
    let v : Value :=
      .record [("Queues", .list [.reference sales, .text "\x7b\x7bqueue:Sales\x7d\x7d"])]
    let w : Value :=
      .record [("Queues", .list [.text "\t\x7b\x7bQueue:Sales\x7d\x7d\n", .text " Sales "])]
    ((∀ r ∈ v.references, r.Readable) ∧ (∀ s ∈ v.texts, Reference.parse s = none) ∧
      w.references = []) ∧
    Reference.parse sales.render = some sales ∧ v.render.withPlaceholders = v ∧
    w.withPlaceholders.render =
      .record [("Queues", .list [.text "\x7b\x7bQueue:Sales\x7d\x7d", .text " Sales "])] := by
  intro sales v w
  have readable : ∀ r ∈ v.references, r.Readable := by decide +kernel
  have apart : ∀ s ∈ v.texts, Reference.parse s = none := by decide +kernel
  have stripped : Reference.tidied "\t\x7b\x7bQueue:Sales\x7d\x7d\n" =
      "\x7b\x7bQueue:Sales\x7d\x7d" := by
    decide +kernel
  have kept : Reference.tidied " Sales " = " Sales " := by decide +kernel
  have written : w.mapTexts Reference.tidied =
      .record [("Queues", .list [.text "\x7b\x7bQueue:Sales\x7d\x7d", .text " Sales "])] := by
    simp only [w, Value.record, List.map_cons, List.map_nil, Value.mapTexts, Value.mapTableTexts,
      Value.mapListTexts, stripped, kept]
  have legible : sales.Readable := by decide +kernel
  exact ⟨⟨readable, apart, rfl⟩, (placeholders_round_trip.1 sales).trans (if_pos legible),
    placeholders_round_trip.2.2.1 v readable apart,
    (placeholders_round_trip.2.2.2 w rfl).trans written⟩

end ContactFlow
