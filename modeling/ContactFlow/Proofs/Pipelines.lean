import ContactFlow.Proofs.Checks

/-!
Pipelines under the calls that change them. Whatever the calls are and in whatever order they come,
no two validators go by one identifier and only validators of the pipeline are disabled; from that
follows what each call makes of a pipeline, and that a run goes through the enabled validators.
-/

namespace ContactFlow

namespace Pipeline

/-- A call that changes a pipeline. -/
inductive Call
  | add (v : Validator) (before : Option String)
  | disable (id : String)
  | enable (id : String)
  | reorder (order : Value)
  | setSeverity (id : String) (severity : Value)

def call (p : Pipeline) : Call → Except PipelineError Pipeline
  | .add v before => p.add v before
  | .disable id => p.disable id
  | .enable id => p.enable id
  | .reorder order => p.reorder order
  | .setSeverity id severity => p.setSeverity id severity

/-- The error that a call raises, if it does, and the pipeline after it. -/
def attempt (p : Pipeline) (c : Call) : Option PipelineError × Pipeline :=
  match p.call c with
  | .ok q => (none, q)
  | .error e => (some e, p)

/-- The pipelines that come about from the one the settings ask for, by calls whose errors are
caught. -/
inductive Reached (s : Settings) : Pipeline → Prop
  | made {p : Pipeline} (done : ofSettings s = .ok p) : Reached s p
  | after {p : Pipeline} (before : Reached s p) (c : Call) : Reached s (p.attempt c).2

/-- Identifiers are distinct, and what is disabled is in the pipeline. -/
structure Sound (p : Pipeline) : Prop where
  distinct : p.ids.Nodup
  inside : p.disabled ⊆ p.ids

/-- What a call makes of a pipeline when it does not raise an error. -/
inductive Makes (p q : Pipeline) : Call → Prop
  | append {v : Validator} (new : v.id ∉ p.ids)
      (order : q.validators = p.validators ++ [v]) (same : q.disabled = p.disabled) :
      Makes p q (.add v none)
  | insert {u v : Validator} {front back : List Validator} (new : v.id ∉ p.ids)
      (split : p.validators = front ++ u :: back)
      (order : q.validators = front ++ v :: u :: back) (same : q.disabled = p.disabled) :
      Makes p q (.add v (some u.id))
  | disable {id : String} (known : id ∈ p.ids) (order : q.validators = p.validators)
      (off : ∀ other, other ∈ q.disabled ↔ other = id ∨ other ∈ p.disabled) :
      Makes p q (.disable id)
  | enable {id : String} (known : id ∈ p.ids) (order : q.validators = p.validators)
      (on : ∀ other, other ∈ q.disabled ↔ other ≠ id ∧ other ∈ p.disabled) :
      Makes p q (.enable id)
  | reorder {order : Value} {members : List Value} (given : order.members = .ok members)
      (named : members = q.ids.map .text) (kept : q.validators.Perm p.validators)
      (same : q.disabled = p.disabled) : Makes p q (.reorder order)
  | setSeverity {id : String} {severity : Value} {level : Severity} (known : id ∈ p.ids)
      (read : severity.asSeverity = .ok level)
      (order : q.validators =
        p.validators.map fun v => if v.id = id then { v with severity := level } else v)
      (same : q.disabled = p.disabled) : Makes p q (.setSeverity id severity)

variable {p q : Pipeline} {g : Graph} {u v : Validator} {vs : List Validator} {id : String}
variable {c : Call} {s : Settings}

theorem require_ok {done : Unit} (found : p.require id = .ok done) : id ∈ p.ids := by
  unfold require at found
  split at found
  · rename_i known
    exact List.contains_iff_mem.1 known
  · cases found

theorem disable_makes (done : p.disable id = .ok q) : Makes p q (.disable id) := by
  obtain ⟨_, found, rfl⟩ := Results.map_eq_ok.1 done
  have known := require_ok found
  by_cases off : id ∈ p.disabled
  · rw [if_pos (List.contains_iff_mem.2 off)]
    refine .disable known rfl fun other => (or_iff_right_of_imp ?_).symm
    rintro rfl
    exact off
  · rw [if_neg fun here => off (List.contains_iff_mem.1 here)]
    exact .disable known rfl fun other => by simp [or_comm]

theorem enable_makes (done : p.enable id = .ok q) : Makes p q (.enable id) := by
  obtain ⟨_, found, rfl⟩ := Results.map_eq_ok.1 done
  exact .enable (require_ok found) rfl fun other => by simp [and_comm]

/-- Insertion puts a validator right ahead of the one named. -/
theorem insertBefore_split (v : Validator) (known : id ∈ vs.map (·.id)) :
    ∃ front u back, vs = front ++ u :: back ∧ u.id = id ∧
      insertBefore v id vs = front ++ v :: u :: back := by
  induction vs with
  | nil => cases known
  | cons first rest ih =>
    by_cases here : first.id = id
    · exact ⟨[], first, rest, rfl, here, if_pos (beq_iff_eq.2 here)⟩
    · obtain ⟨front, u, back, split, named, inserted⟩ :=
        ih ((List.mem_cons.1 known).resolve_left (Ne.symm here))
      refine ⟨first :: front, u, back, by rw [split, List.cons_append], named, ?_⟩
      rw [insertBefore, if_neg fun same => here (beq_iff_eq.1 same), inserted, List.cons_append]

theorem add_makes {before : Option String} (done : p.add v before = .ok q) :
    Makes p q (.add v before) := by
  unfold add at done
  split at done
  · cases done
  · rename_i unknown
    have new : v.id ∉ p.ids := fun here => unknown (List.contains_iff_mem.2 here)
    cases before with
    | none =>
      cases done
      exact .append new rfl rfl
    | some id =>
      obtain ⟨_, found, rfl⟩ := Results.map_eq_ok.1 done
      obtain ⟨front, u, back, split, rfl, inserted⟩ := insertBefore_split v (require_ok found)
      exact .insert new split inserted rfl

/-- With distinct identifiers, the first validator with one is the only validator with it. -/
theorem modifyFirst_eq_map (distinct : (vs.map (·.id)).Nodup) (f : Validator → Validator) :
    modifyFirst (·.id == id) f vs = vs.map fun v => if v.id = id then f v else v := by
  induction vs with
  | nil => rfl
  | cons first rest ih =>
    obtain ⟨new, apart⟩ := List.nodup_cons.1 distinct
    by_cases here : first.id = id
    · have others : ∀ v ∈ rest, v.id ≠ id := by
        intro v member same
        exact new (List.mem_map.2 ⟨v, member, same.trans here.symm⟩)
      have unchanged : (rest.map fun v => if v.id = id then f v else v) = rest :=
        (List.map_congr_left fun v member => if_neg (others v member)).trans (List.map_id' rest)
      rw [List.map_cons, unchanged, modifyFirst, if_pos (beq_iff_eq.2 here), if_pos here]
    · rw [List.map_cons, ← ih apart, modifyFirst, if_neg fun same => here (beq_iff_eq.1 same),
        if_neg here]

theorem setSeverity_makes (sound : p.Sound) {severity : Value}
    (done : p.setSeverity id severity = .ok q) : Makes p q (.setSeverity id severity) := by
  obtain ⟨level, read, done⟩ := Results.bind_eq_ok.1 done
  obtain ⟨_, found, done⟩ := Results.bind_eq_ok.1 done
  cases done
  refine .setSeverity (require_ok found) (Results.ok_of_mapError read) ?_ rfl
  cases p.unified with
  | true => simp
  | false => exact modifyFirst_eq_map sound.distinct _

theorem last?_of_known (known : id ∈ p.ids) :
    ∃ v ∈ p.validators, v.id = id ∧ p.last? id = some v := by
  obtain ⟨v, member, rfl⟩ := List.mem_map.1 known
  have found : (p.last? v.id).isSome := by
    rw [last?, List.find?_isSome]
    exact ⟨v, List.mem_reverse.2 member, beq_self_eq_true v.id⟩
  obtain ⟨u, found⟩ := Option.isSome_iff_exists.1 found
  exact ⟨u, List.mem_reverse.1 (List.mem_of_find?_eq_some found),
    beq_iff_eq.1 (List.find?_some found :), found⟩

theorem last?_eq_some (sound : p.Sound) (member : v ∈ p.validators) : p.last? v.id = some v := by
  obtain ⟨u, there, named, found⟩ := last?_of_known (List.mem_map_of_mem member : v.id ∈ p.ids)
  rw [found, List.inj_on_of_nodup_map sound.distinct there member named]

/-- The validators are those that the identifiers name. -/
theorem filterMap_last? (sound : p.Sound) : p.ids.filterMap p.last? = p.validators := by
  rw [ids, List.filterMap_map]
  have each : ∀ v ∈ p.validators, (p.last? ∘ (·.id)) v = some v :=
    fun v member => last?_eq_some sound member
  rw [List.filterMap_congr each, List.filterMap_some]

theorem ids_filterMap_last? {order : List String} (known : order ⊆ p.ids) :
    (order.filterMap p.last?).map (·.id) = order := by
  induction order with
  | nil => rfl
  | cons id rest ih =>
    obtain ⟨v, _, named, found⟩ := last?_of_known (known List.mem_cons_self)
    rw [List.filterMap_cons_some found, List.map_cons, named,
      ih fun other member => known (List.mem_cons_of_mem _ member)]

theorem text?_eq_some {x : Value} {text : String} (read : x.text? = some text) :
    x = .text text := by
  unfold Value.text? at read
  split at read
  · cases read
    rfl
  · cases read

theorem mapM_text? {members : List Value} {texts : List String}
    (read : members.mapM Value.text? = some texts) : members = texts.map .text := by
  induction members generalizing texts with
  | nil =>
    cases read
    rfl
  | cons x rest ih =>
    rw [List.mapM_cons] at read
    obtain ⟨text, first, read⟩ := Option.bind_eq_some_iff.1 read
    obtain ⟨others, later, read⟩ := Option.bind_eq_some_iff.1 read
    cases read
    rw [text?_eq_some first, ih later, List.map_cons]

theorem reorder_makes (sound : p.Sound) {order : Value} (done : p.reorder order = .ok q) :
    Makes p q (.reorder order) := by
  obtain ⟨members, given, done⟩ := Results.bind_eq_ok.1 done
  obtain ⟨texts, ordered, done⟩ := Results.bind_eq_ok.1 done
  cases texts with
  | none => cases done
  | some texts =>
    have named : members = texts.map .text := by
      unfold orderOf at ordered
      split at ordered
      · rename_i read
        cases ordered
        exact mapM_text? read
      · split at ordered
        · cases ordered
        · cases ordered
    simp only at done
    split at done
    · rename_i sorted
      cases done
      have perm : texts.Perm p.ids :=
        ((List.mergeSort_perm _ _).symm.trans (.of_eq sorted)).trans (List.mergeSort_perm _ _)
      refine .reorder (Results.ok_of_mapError given) ?_ ?_ rfl
      · rw [named]
        exact congrArg _ (ids_filterMap_last? perm.subset).symm
      · exact (perm.filterMap _).trans (.of_eq (filterMap_last? sound))
    · cases done

/-- What each call does, said once. -/
theorem call_makes (sound : p.Sound) (done : p.call c = .ok q) : Makes p q c := by
  cases c with
  | add v before => exact add_makes done
  | disable id => exact disable_makes done
  | enable id => exact enable_makes done
  | reorder order => exact reorder_makes sound done
  | setSeverity id severity => exact setSeverity_makes sound done

theorem Makes.sound (made : Makes p q c) (sound : p.Sound) : q.Sound := by
  obtain ⟨distinct, inside⟩ := sound
  cases made with
  | @append v new order same =>
    have further : q.ids = p.ids ++ [v.id] := by simp [ids, order]
    refine ⟨?_, ?_⟩
    · rw [further]
      exact List.nodup_append.2 ⟨distinct, List.nodup_singleton _, by
        intro a old b here
        rw [List.mem_singleton.1 here]
        rintro rfl
        exact new old⟩
    · rw [further, same]
      exact List.subset_append_of_subset_left _ inside
  | @insert u v front back new split order same =>
    have further : q.ids.Perm (v.id :: p.ids) := by
      simp only [ids, order, split, List.map_append, List.map_cons]
      exact List.perm_middle
    refine ⟨further.nodup_iff.2 (List.nodup_cons.2 ⟨new, distinct⟩), ?_⟩
    rw [same]
    exact fun id off => further.mem_iff.2 (List.mem_cons_of_mem _ (inside off))
  | disable known order off =>
    have kept : q.ids = p.ids := congrArg (List.map _) order
    refine ⟨kept ▸ distinct, fun other here => ?_⟩
    rw [kept]
    rcases (off other).1 here with rfl | before
    · exact known
    · exact inside before
  | enable known order on =>
    have kept : q.ids = p.ids := congrArg (List.map _) order
    refine ⟨kept ▸ distinct, fun other here => ?_⟩
    rw [kept]
    exact inside ((on other).1 here).2
  | reorder given named kept same =>
    have perm : q.ids.Perm p.ids := kept.map _
    refine ⟨perm.nodup_iff.2 distinct, ?_⟩
    rw [same]
    exact fun id off => perm.mem_iff.2 (inside off)
  | setSeverity known read order same =>
    have kept : q.ids = p.ids := by
      rw [ids, order, List.map_map]
      refine List.map_congr_left fun v _ => ?_
      rw [Function.comp_apply]
      split
      · rfl
      · rfl
    refine ⟨kept ▸ distinct, ?_⟩
    rw [kept, same]
    exact inside

theorem sound_configured (s : Settings) : (configured s).Sound where
  distinct := by
    have named : (configured s).ids = Validator.builtin.map (·.id) := by
      rw [ids, configured, List.map_map]
      rfl
    rw [named]
    decide
  inside := List.nil_subset _

theorem sound_disableAll {ids : List String} (sound : p.Sound)
    (done : p.disableAll ids = .ok q) : q.Sound := by
  induction ids generalizing p with
  | nil =>
    cases done
    exact sound
  | cons id rest ih =>
    obtain ⟨r, first, later⟩ := Results.bind_eq_ok.1 done
    exact ih ((disable_makes first).sound sound) later

theorem attempt_sound (sound : p.Sound) (c : Call) : (p.attempt c).2.Sound := by
  unfold attempt
  cases done : p.call c with
  | ok q => exact (call_makes sound done).sound sound
  | error e => exact sound

theorem Reached.sound (reached : Reached s p) : p.Sound := by
  induction reached with
  | made done => exact sound_disableAll (sound_configured s) done
  | after _ c ih => exact attempt_sound ih c

/-! ### Runs -/

/-- An aborting validator with an error finding ends a run. -/
def Halts (v : Validator) (g : Graph) : Prop :=
  v.aborts = true ∧ ∃ f ∈ v.run g, f.severity = .error

/-- The loop of a run, with the validators that it has checked the graph with. -/
def tracedFrom (g : Graph) : List Validator → List Validator × Except Abort (List Finding)
  | [] => ([], .ok [])
  | v :: rest =>
    let found := v.run g
    if v.aborts && found.any (·.isError) then ([v], .error ⟨v.id, found⟩)
    else
      let (checked, result) := tracedFrom g rest
      (v :: checked, result.map (found ++ ·))

theorem tracedFrom_result (g : Graph) (vs : List Validator) :
    (tracedFrom g vs).2 = runFrom g vs := by
  induction vs with
  | nil => rfl
  | cons v rest ih =>
    rw [tracedFrom, runFrom]
    split
    · rfl
    · rw [← ih]

theorem halts_iff : Halts v g ↔ (v.aborts && (v.run g).any (·.isError)) = true := by
  simp [Halts, Finding.isError]

/-- A run halts at the first validator that ends it, or it gathers the findings of all. -/
theorem tracedFrom_cases (g : Graph) (vs : List Validator) :
    (∃ before v after, vs = before ++ v :: after ∧ (∀ u ∈ before, ¬ Halts u g) ∧ Halts v g ∧
      tracedFrom g vs = (before ++ [v], .error ⟨v.id, v.run g⟩)) ∨
    (∀ v ∈ vs, ¬ Halts v g) ∧ tracedFrom g vs = (vs, .ok (vs.flatMap (·.run g))) := by
  induction vs with
  | nil => exact .inr ⟨fun _ member => absurd member List.not_mem_nil, rfl⟩
  | cons v rest ih =>
    by_cases halts : Halts v g
    · refine .inl ⟨[], v, rest, rfl, fun _ member => absurd member List.not_mem_nil, halts, ?_⟩
      rw [tracedFrom]
      exact if_pos (halts_iff.1 halts)
    · have further : tracedFrom g (v :: rest) =
          (v :: (tracedFrom g rest).1, (tracedFrom g rest).2.map (v.run g ++ ·)) := by
        rw [tracedFrom]
        exact if_neg (mt halts_iff.2 halts)
      rcases ih with ⟨before, w, after, split, passed, ends, traced⟩ | ⟨passed, traced⟩
      · refine .inl ⟨v :: before, w, after, by rw [split, List.cons_append],
          List.forall_mem_cons.2 ⟨halts, passed⟩, ends, ?_⟩
        rw [further, traced]
        rfl
      · refine .inr ⟨List.forall_mem_cons.2 ⟨halts, passed⟩, ?_⟩
        rw [further, traced]
        rfl

/-- The validators that a run checks the graph with, in the order in which it does. -/
def checked (p : Pipeline) (g : Graph) : List Validator := (tracedFrom g p.enabled).1

theorem run_eq_traced (p : Pipeline) (g : Graph) :
    p.run g = (tracedFrom g p.enabled).2.map Report.mk := by
  rw [tracedFrom_result, run]

theorem Reached.attempts (reached : Reached s p) (calls : List Call) :
    Reached s (calls.foldl (fun p c => (p.attempt c).2) p) := by
  induction calls generalizing p with
  | nil => exact reached
  | cons c rest ih => exact ih (reached.after c)

end Pipeline

end ContactFlow
