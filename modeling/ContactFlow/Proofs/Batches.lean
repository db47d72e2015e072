import ContactFlow.Batch
import ContactFlow.Proofs.Keys
import ContactFlow.Proofs.Ordered
import ContactFlow.Proofs.Results

/-!
Batches of flows. Each step of a batch is for one source under one name. It changes nothing but what the
batch says about that name, and whether it ends the batch is up to the source alone. So what a batch says
about a name in the end is its verdict on the sources under this name, whatever the others are.
-/

namespace ContactFlow

variable {ε σ : Type}

/-! ### Sources -/

/-- The graph of a flow of a definition. -/
def FlowDefinition.graph (f : FlowDefinition) (name : String) : Except DefinitionError Graph :=
  (f.build name).map (·.graph)

/-- The graph of a flow that is written as a program. -/
def Program.graph (p : Program ε) (name : String) : Except (Failure ε) Graph :=
  match Workspace.start name with
  | .error e => .error (.usage e)
  | .ok w => match p.steps w with
    | (.ok _, w) => .ok w.graph
    | (.error e, _) => .error (.program e)

/-- What there is under one name: a flow of the definition, and one of the catalog. -/
structure Source (ε : Type) where
  definition : Option FlowDefinition := none
  program : Option (Program ε) := none

/-- What becomes of a flow: what it is compiled to, and why it failed. -/
structure Verdict (ε : Type) where
  flow : Option Flow
  failure : Option (Failure ε)

namespace Source

variable (s : Source ε) (name : String)

/-- The graph that is compiled. The program comes first if it can be built. -/
def graph? : Option Graph :=
  (s.program.bind fun p => (p.graph name).toOption).or
    (s.definition.bind fun f => (f.graph name).toOption)

/-- Why one of the sources cannot be built. -/
def failure? : Option (Failure ε) :=
  (s.program.bind fun p => Results.error? (p.graph name)).or
    ((s.definition.bind fun f => Results.error? (f.graph name)).map .definition)

/-- What becomes of the flow under a name, whatever other flows there are. -/
def verdict (c : Compiler) : Verdict ε where
  flow := (s.graph? name).bind fun g => (c.compile g).toOption
  failure := ((s.graph? name).bind fun g => (Results.error? (c.compile g)).map .compile).or
    (s.failure? name)

/-- Two flows under one name, one of which cannot be built while the other one can be compiled. -/
inductive Clashes (c : Compiler) (name : String) : Source ε → Prop
  | program {f : FlowDefinition} {p : Program ε} {e : DefinitionError} {g : Graph} {flow : Flow}
    (failed : f.graph name = .error e) (built : p.graph name = .ok g)
    (compiled : c.compile g = .ok flow) : Clashes c name ⟨some f, some p⟩
  | definition {f : FlowDefinition} {p : Program ε} {e : Failure ε} {g : Graph} {flow : Flow}
    (built : f.graph name = .ok g) (failed : p.graph name = .error e)
    (compiled : c.compile g = .ok flow) : Clashes c name ⟨some f, some p⟩

/-- There is a flow under the name. -/
def Known : Prop := s.definition.isSome ∨ s.program.isSome

end Source

/-! ### Catalogs -/

namespace Catalog

variable {c c' : Catalog ε} {entries : List (String × Program ε)}

/-- The programs of a catalog go by texts, each by its own. -/
structure Texts (c : Catalog ε) (entries : List (String × Program ε)) : Prop where
  programs : c.programs = entries.map fun e => (.text e.1, e.2)
  distinct : (Ordered.keys entries).Nodup

theorem Texts.find? (texts : c.Texts entries) (name : String) :
    c.find? (.text name) = entries.lookup name := by
  rw [Catalog.find?, texts.programs]
  clear texts
  induction entries with
  | nil => rfl
  | cons e rest ih =>
    rw [List.map_cons, List.find?_cons, List.lookup_cons, ← ih]
    dsimp only
    rw [Scalar.sameKey_text, Bool.beq_comm]
    cases name == e.1 <;> rfl

theorem Texts.has (texts : c.Texts entries) (name : String) :
    c.has (.text name) = Ordered.contains entries name := by
  rw [Catalog.has, texts.programs, List.any_map, Ordered.contains]
  exact congrArg entries.any (funext fun e => Scalar.sameKey_text e.1 name)

/-- A flow that is registered under a text goes by it. -/
theorem texts_register (texts : c.Texts entries) {name : String} {p : Program ε}
    (registered : c.register (.text name) p = .ok c') : ∃ entries', c'.Texts entries' := by
  unfold register at registered
  split at registered
  · cases registered
  obtain ⟨key, named, registered⟩ := Results.bind_eq_ok.1 registered
  cases named
  rw [texts.has] at registered
  split at registered
  · cases registered
    refine ⟨entries.map fun e => (e.1, if e.1 == name then p else e.2), ?_, ?_⟩
    · rw [texts.programs, List.map_map, List.map_map]
      refine List.map_congr_left fun e _ => ?_
      simp only [Function.comp_apply, Scalar.sameKey_text]
    · rw [Ordered.keys, List.map_map]
      exact texts.distinct
  · rename_i new
    cases registered
    refine ⟨entries ++ [(name, p)], ?_, ?_⟩
    · rw [texts.programs, List.map_append]
      rfl
    · rw [Ordered.keys, List.map_append]
      refine texts.distinct.append (List.nodup_singleton name) fun k known same => new ?_
      have here : k = name := List.mem_singleton.1 same
      exact Ordered.contains_iff.2 (here ▸ known)

theorem texts_registerAll (texts : c.Texts entries) {flows : List (String × Program ε)}
    (registered : c.registerAll flows = .ok c') : ∃ entries', c'.Texts entries' := by
  induction flows generalizing c entries with
  | nil =>
    cases registered
    exact ⟨entries, texts⟩
  | cons first rest ih =>
    obtain ⟨c₁, added, more⟩ := Results.bind_eq_ok.1 registered
    obtain ⟨entries₁, texts⟩ := texts_register texts added
    exact ih texts more

end Catalog

namespace Batch

variable {b b' : Batch ε} {name : String}

/-! ### Steps -/

/-- What a batch says about a name. -/
structure Standing (ε : Type) where
  graph : Option Graph := none
  flow : Option Flow := none
  failure : Option (Failure ε) := none

def standing (b : Batch ε) (name : String) : Standing ε :=
  ⟨b.graphs.lookup name, b.flows.lookup name, b.failures.lookup name⟩

/-- Nothing is said twice in one place. -/
structure Apart (b : Batch ε) : Prop where
  graphs : (Ordered.keys b.graphs).Nodup
  flows : (Ordered.keys b.flows).Nodup
  failures : (Ordered.keys b.failures).Nodup

/-- What a step of a batch has to say about a name. -/
inductive Mark (ε : Type)
  | graph (g : Graph)
  | flow (flow : Flow)
  | failure (f : Failure ε)

def mark (b : Batch ε) (name : String) : Mark ε → Batch ε
  | .graph g => b.built name g
  | .flow flow => { b with flows := Ordered.put b.flows name flow }
  | .failure f => b.failed name f

@[simp] def Standing.mark (s : Standing ε) : Mark ε → Standing ε
  | .graph g => { s with graph := some g }
  | .flow flow => { s with flow := some flow }
  | .failure f => { s with failure := some f }

theorem apart_mark (apart : b.Apart) (name : String) (m : Mark ε) : (b.mark name m).Apart := by
  cases m with
  | graph g => exact ⟨Ordered.nodup_put apart.graphs g, apart.flows, apart.failures⟩
  | flow flow => exact ⟨apart.graphs, Ordered.nodup_put apart.flows flow, apart.failures⟩
  | failure f => exact ⟨apart.graphs, apart.flows, Ordered.nodup_put apart.failures f⟩

theorem standing_mark (b : Batch ε) (name : String) (m : Mark ε) :
    (b.mark name m).standing name = (b.standing name).mark m := by
  cases m <;>
    simp only [standing, mark, Standing.mark, built, failed, Ordered.lookup_put_self]

theorem standing_mark_other {other : String} (apart : other ≠ name) (b : Batch ε) (m : Mark ε) :
    (b.mark name m).standing other = b.standing other := by
  cases m <;> simp only [standing, mark, built, failed, Ordered.lookup_put_other apart]

/-- What a result has to say. Some errors end the batch. -/
def Mark.of {η α : Type} (good : α → Mark ε) (ends : η → Option (Abandoned ε)) (bad : η → Failure ε)
    (x : Except η α) : Except (Abandoned ε) (Mark ε) :=
  match x with
  | .ok a => .ok (good a)
  | .error e => match ends e with
    | some x => .error x
    | none => .ok (.failure (bad e))

/-- What a result has to say that does not end the batch. -/
@[simp] def Mark.through {η α : Type} (good : α → Mark ε) (bad : η → Failure ε) : Except η α → Mark ε
  | .ok a => good a
  | .error e => .failure (bad e)

section Fold

variable {η α : Type} {good : α → Mark ε} {ends : η → Option (Abandoned ε)} {bad : η → Failure ε}
  {step : Batch ε → String × σ → Except (Abandoned ε) (Batch ε)}
  (result : String → σ → Except η α) {sources : List (String × σ)}

theorem Mark.of_through {x : Except η α} (goes : ∀ e, x = .error e → ends e = none) :
    Mark.of good ends bad x = .ok (Mark.through good bad x) := by
  cases x with
  | ok a => rfl
  | error e => rw [Mark.of, goes e rfl, Mark.through]

theorem Mark.of_error {x : Except η α} {y : Abandoned ε} (stopped : Mark.of good ends bad x = .error y) :
    ∃ e, x = .error e ∧ ends e = some y := by
  cases x with
  | ok a => cases stopped
  | error e =>
    refine ⟨e, rfl, ?_⟩
    unfold Mark.of at stopped
    dsimp only at stopped
    split at stopped
    · rename_i ended
      cases stopped
      exact ended
    · cases stopped

/-- What ends a batch is the error of one of its sources. -/
theorem error_of_fold
    (takes : ∀ b name s, step b (name, s) =
      (Mark.of good ends bad (result name s)).map (b.mark name))
    (distinct : (Ordered.keys sources).Nodup) {b : Batch ε} {x : Abandoned ε}
    (ran : sources.foldlM step b = .error x) :
    ∃ name s e, sources.lookup name = some s ∧ result name s = .error e ∧ ends e = some x := by
  induction sources generalizing b with
  | nil => cases ran
  | cons first rest ih =>
    obtain ⟨name, s⟩ := first
    obtain ⟨fresh, distinct⟩ := List.nodup_cons.1 distinct
    rw [List.foldlM_cons, takes] at ran
    cases marked : Mark.of good ends bad (result name s) with
    | error y =>
      rw [marked] at ran
      cases ran
      obtain ⟨e, failed, ended⟩ := Mark.of_error marked
      exact ⟨name, s, e, by simp, failed, ended⟩
    | ok m =>
      rw [marked] at ran
      obtain ⟨other, t, e, found, failed⟩ := ih distinct ran
      have apart : other ≠ name := fun same => by
        rw [same, Ordered.lookup_eq_none fresh] at found
        cases found
      exact ⟨other, t, e, (Ordered.lookup_cons_other apart s).trans found, failed⟩

/-- What the source of a name has to say is added to what was said about the name before. -/
theorem standing_of_fold
    (takes : ∀ b name s, step b (name, s) =
      (Mark.of good ends bad (result name s)).map (b.mark name))
    (distinct : (Ordered.keys sources).Nodup) {b b' : Batch ε}
    (ran : sources.foldlM step b = .ok b') :
    (b.Apart → b'.Apart) ∧ ∀ name,
      (∀ s e, sources.lookup name = some s → result name s = .error e → ends e = none) ∧
      b'.standing name = (sources.lookup name).elim (b.standing name) fun s =>
        (b.standing name).mark (Mark.through good bad (result name s)) := by
  induction sources generalizing b with
  | nil =>
    cases ran
    exact ⟨id, fun name => ⟨nofun, rfl⟩⟩
  | cons first rest ih =>
    obtain ⟨name, s⟩ := first
    obtain ⟨fresh, distinct⟩ := List.nodup_cons.1 distinct
    rw [List.foldlM_cons, takes] at ran
    have goes : ∀ e, result name s = .error e → ends e = none := by
      intro e failed
      rw [failed, Mark.of] at ran
      split at ran
      · cases ran
      · assumption
    rw [Mark.of_through goes] at ran
    obtain ⟨kept, each⟩ := ih distinct ran
    refine ⟨fun apart => kept (apart_mark apart name _), fun other => ?_⟩
    by_cases here : other = name
    · subst here
      have own : List.lookup other ((other, s) :: rest) = some s := by simp
      rw [own]
      refine ⟨fun t e same failed => ?_, ?_⟩
      · cases same
        exact goes e failed
      · have stands := (each other).2
        rw [Ordered.lookup_eq_none fresh] at stands
        exact stands.trans (standing_mark b other _)
    · rw [Ordered.lookup_cons_other here]
      obtain ⟨fine, stands⟩ := each other
      rw [standing_mark_other here] at stands
      exact ⟨fine, stands⟩

end Fold

/-! ### The steps there are -/

/-- The errors of a definition that end a batch. -/
def definitionEnd (e : DefinitionError) : Option (Abandoned ε) :=
  if endsBatch e then some (.definition e) else none

theorem addDefined_eq (b : Batch ε) (name : String) (f : FlowDefinition) :
    addDefined b name f =
      (Mark.of .graph definitionEnd .definition (f.graph name)).map (b.mark name) := by
  unfold addDefined FlowDefinition.graph
  cases f.build name with
  | ok w => rfl
  | error e =>
    change _ = (Mark.of .graph definitionEnd .definition (.error e)).map _
    rw [Mark.of, definitionEnd]
    dsimp only
    split <;> rfl

/-- The errors of a program that end a batch. -/
def programEnd (fatal : ε → Bool) : Failure ε → Option (Abandoned ε)
  | .program e => if fatal e then some (.program e) else none
  | _ => none

theorem ofProgram_text (name : String) (p : Program ε) :
    Workspace.ofProgram (.text name) p = match Workspace.start name with
      | .error e => .error (.usage e)
      | .ok w => match p.steps w with
        | (.ok _, w) => .ok w
        | (.error e, _) => .error (.program e) := by
  unfold Workspace.ofProgram
  have named : Workspace.named (.scalar (.text name)) = Workspace.start name := rfl
  rw [named]
  cases Workspace.start name with
  | error e => rfl
  | ok w => rfl

theorem addProgram_eq (fatal : ε → Bool) (b : Batch ε) (name : String) (p : Program ε) :
    addProgram b fatal name p =
      (Mark.of .graph (programEnd fatal) id (p.graph name)).map (b.mark name) := by
  unfold addProgram Program.graph
  rw [ofProgram_text]
  cases Workspace.start name with
  | error e => rfl
  | ok w =>
    dsimp only
    cases p.steps w with
    | mk result w' =>
      cases result with
      | ok _ => rfl
      | error e =>
        change _ = (Mark.of .graph (programEnd fatal) id (.error (.program e))).map _
        rw [Mark.of, programEnd]
        dsimp only
        split <;> rfl

/-- The errors of a compilation that end a batch. -/
def compileEnd (e : CompileError) : Option (Abandoned ε) :=
  if e.isForeign then some (.compile e) else none

theorem compileOne_eq (c : Compiler) (b : Batch ε) (name : String) (g : Graph) :
    compileOne c b name g =
      (Mark.of .flow compileEnd .compile (c.compile g)).map (b.mark name) := by
  unfold compileOne
  cases c.compile g with
  | ok flow => rfl
  | error e =>
    rw [Mark.of, compileEnd]
    dsimp only
    split <;> rfl

/-! ### Whole batches -/

section Whole

variable {d : Definition} {c : Catalog ε} {selected : List String} {b b' : Batch ε}

/-- What there is under a name, as far as it is selected. -/
def sourceOf (d : Definition) (c : Catalog ε) (selected : List String) (name : String) : Source ε :=
  if isSelected selected name then ⟨d.flow? name, c.find? (.text name)⟩ else {}

theorem lookup_definition (name : String) :
    (d.flows.filter fun e => isSelected selected e.1).lookup name =
      (sourceOf d c selected name).definition := by
  rw [Ordered.lookup_filter, sourceOf]
  split <;> rfl

/-- What is said about a name once the flows of the definition are built. -/
def defined (s : Source ε) (name : String) : Standing ε :=
  s.definition.elim {} fun f => ({} : Standing ε).mark (Mark.through .graph .definition (f.graph name))

theorem distinct_selected {α : Type} {l : List (String × α)} (distinct : (Ordered.keys l).Nodup)
    (selected : List String) :
    (Ordered.keys (l.filter fun e => isSelected selected e.1)).Nodup :=
  distinct.sublist (List.filter_sublist.map _)

theorem error_of_addDefinition (distinct : (Ordered.keys d.flows).Nodup) (c : Catalog ε)
    {x : Abandoned ε} (ran : ({} : Batch ε).addDefinition d selected = .error x) :
    ∃ name f e, (sourceOf d c selected name).definition = some f ∧ f.graph name = .error e ∧
      endsBatch e = true ∧ x = .definition e := by
  obtain ⟨name, f, e, among, failed, ended⟩ :=
    error_of_fold (fun name f => f.graph name) addDefined_eq (distinct_selected distinct selected) ran
  obtain ⟨ends, rfl⟩ : endsBatch e = true ∧ Abandoned.definition e = x := by
    simpa [definitionEnd] using ended
  exact ⟨name, f, e, (lookup_definition name).symm.trans among, failed, ends, rfl⟩

theorem standing_addDefinition (distinct : (Ordered.keys d.flows).Nodup) (c : Catalog ε)
    (ran : ({} : Batch ε).addDefinition d selected = .ok b) :
    b.Apart ∧ ∀ name, (∀ f e, (sourceOf d c selected name).definition = some f →
        f.graph name = .error e → endsBatch e = false) ∧
      b.standing name = defined (sourceOf d c selected name) name := by
  obtain ⟨kept, each⟩ :=
    standing_of_fold (fun name f => f.graph name) addDefined_eq (distinct_selected distinct selected) ran
  refine ⟨kept ⟨List.nodup_nil, List.nodup_nil, List.nodup_nil⟩, fun name => ?_⟩
  obtain ⟨goes, stands⟩ := each name
  rw [lookup_definition (c := c)] at goes stands
  exact ⟨fun f e among failed => by simpa [definitionEnd] using goes f e among failed, stands⟩

/-- The program does not fail fatally. -/
def Mild (fatal : ε → Bool) (p : Program ε) : Prop :=
  ∀ w e w', p.steps w = (.error e, w') → fatal e = false

theorem programEnd_of_mild {fatal : ε → Bool} {p : Program ε} (mild : Mild fatal p) {name : String}
    {f : Failure ε} (failed : p.graph name = .error f) : programEnd fatal f = none := by
  unfold Program.graph at failed
  split at failed
  · cases failed
    rfl
  · split at failed
    · cases failed
    · rename_i ran
      cases failed
      rw [programEnd, mild _ _ _ ran]
      rfl

/-- What is said about a name once the programs are built too. -/
def programmed (s : Source ε) (name : String) : Standing ε :=
  s.program.elim (defined s name) fun p =>
    (defined s name).mark (Mark.through .graph id (p.graph name))

/-- Mild programs do not end a batch. -/
theorem standing_addCatalog {entries : List (String × Program ε)} (texts : c.Texts entries)
    {fatal : ε → Bool} (mild : ∀ e ∈ entries, Mild fatal e.2) (d : Definition)
    (stands : ∀ name, b.standing name = defined (sourceOf d c selected name) name) :
    ∃ b', b.addCatalog fatal c selected = .ok b' ∧ (b.Apart → b'.Apart) ∧
      ∀ name, b'.standing name = programmed (sourceOf d c selected name) name := by
  have distinct := distinct_selected texts.distinct selected
  have found (name : String) : (entries.filter fun e => isSelected selected e.1).lookup name =
      (sourceOf d c selected name).program := by
    rw [Ordered.lookup_filter, ← texts.find?, sourceOf]
    split <;> rfl
  have same : b.addCatalog fatal c selected = (entries.filter fun e => isSelected selected e.1).foldlM
      (fun b e => addProgram b fatal e.1 e.2) b := by
    rw [addCatalog, texts.programs, List.filter_map, List.foldlM_map]
    rfl
  rw [same]
  cases ran : (entries.filter fun e => isSelected selected e.1).foldlM
    (fun b e => addProgram b fatal e.1 e.2) b with
  | error x =>
    obtain ⟨name, p, f, among, failed, ended⟩ := error_of_fold (fun name p => p.graph name)
      (addProgram_eq fatal) distinct ran
    have there : (name, p) ∈ entries := List.mem_of_mem_filter (Ordered.mem_of_lookup among)
    rw [programEnd_of_mild (mild _ there) failed] at ended
    cases ended
  | ok b' =>
    obtain ⟨kept, each⟩ := standing_of_fold (fun name p => p.graph name) (addProgram_eq fatal) distinct ran
    refine ⟨b', rfl, kept, fun name => ?_⟩
    rw [(each name).2, found, stands, programmed]

theorem error_of_compile (apart : b.Apart) {compiler : Compiler} {x : Abandoned ε}
    (ran : b.compile compiler = .error x) :
    ∃ name g e, (b.standing name).graph = some g ∧ compiler.compile g = .error e ∧
      e.isForeign = true ∧ x = .compile e := by
  obtain ⟨name, g, e, among, failed, ended⟩ :=
    error_of_fold (fun _ => compiler.compile) (compileOne_eq compiler) apart.graphs ran
  obtain ⟨foreign, rfl⟩ : e.isForeign = true ∧ Abandoned.compile e = x := by
    simpa [compileEnd] using ended
  exact ⟨name, g, e, among, failed, foreign, rfl⟩

theorem standing_compile (apart : b.Apart) {compiler : Compiler}
    (ran : b.compile compiler = .ok b') :
    b'.Apart ∧ ∀ name, (∀ g e, (b.standing name).graph = some g → compiler.compile g = .error e →
        e.isForeign = false) ∧
      b'.standing name = (b.standing name).graph.elim (b.standing name) fun g =>
        (b.standing name).mark (Mark.through .flow .compile (compiler.compile g)) := by
  obtain ⟨kept, each⟩ :=
    standing_of_fold (fun _ => compiler.compile) (compileOne_eq compiler) apart.graphs ran
  refine ⟨kept apart, fun name => ?_⟩
  obtain ⟨goes, stands⟩ := each name
  exact ⟨fun g e among failed => by simpa [compileEnd] using goes g e among failed, stands⟩

theorem programmed_eq (s : Source ε) (name : String) :
    programmed s name = ⟨s.graph? name, none, s.failure? name⟩ := by
  obtain ⟨definition, program⟩ := s
  unfold programmed defined Source.graph? Source.failure?
  cases definition with
  | none =>
    cases program with
    | none => rfl
    | some p => cases built : p.graph name <;> simp [built, Except.toOption]
  | some f =>
    cases program with
    | none => cases built : f.graph name <;> simp [built, Except.toOption]
    | some p =>
      cases built : f.graph name <;> cases built' : p.graph name <;>
        simp [built, built', Except.toOption]

/-- What is said about a name in the end is the verdict on its sources. -/
theorem settled_eq (compiler : Compiler) (s : Source ε) (name : String) :
    ((programmed s name).graph.elim (programmed s name) fun g =>
      (programmed s name).mark (Mark.through .flow .compile (compiler.compile g))) =
    ⟨s.graph? name, (s.verdict name compiler).flow, (s.verdict name compiler).failure⟩ := by
  rw [programmed_eq]
  unfold Source.verdict
  cases built : s.graph? name with
  | none => simp
  | some g => cases compiled : compiler.compile g <;> simp [compiled, Except.toOption]

end Whole

end Batch

namespace Source

variable {s : Source ε} {compiler : Compiler} {name : String}

theorem known_of_built (name : String) : s.Known ↔ (s.graph? name).isSome ∨ (s.failure? name).isSome := by
  obtain ⟨definition, program⟩ := s
  unfold Known graph? failure?
  cases definition with
  | none =>
    cases program with
    | none => simp
    | some p => cases built : p.graph name <;> simp [built, Except.toOption]
  | some f =>
    cases built : f.graph name <;> simp [built, Except.toOption]

/-- Every flow gets a verdict. -/
theorem known_iff : s.Known ↔
    (s.verdict name compiler).flow.isSome ∨ (s.verdict name compiler).failure.isSome := by
  rw [known_of_built name]
  unfold verdict
  cases built : s.graph? name with
  | none => simp
  | some g => cases compiled : compiler.compile g <;> simp [compiled, Except.toOption]

/-- One of two sources is built and the other one is not. -/
theorem built_and_failed {g : Graph} : s.graph? name = some g ∧ (s.failure? name).isSome ↔
    ∃ f p, s = ⟨some f, some p⟩ ∧
      ((∃ e, f.graph name = .error e) ∧ p.graph name = .ok g ∨
        f.graph name = .ok g ∧ ∃ e, p.graph name = .error e) := by
  obtain ⟨definition, program⟩ := s
  unfold graph? failure?
  cases definition with
  | none =>
    cases program with
    | none => simp
    | some p => cases built : p.graph name <;> simp [built, Except.toOption]
  | some f =>
    cases program with
    | none => cases built : f.graph name <;> simp [built, Except.toOption]
    | some p =>
      cases built : f.graph name <;> cases built' : p.graph name <;>
        simp [built, built', Except.toOption]

/-- A flow has two verdicts just in case its two sources clash. -/
theorem clashes_iff : s.Clashes compiler name ↔
    (s.verdict name compiler).flow.isSome ∧ (s.verdict name compiler).failure.isSome := by
  constructor
  · intro clashes
    cases clashes with
    | program failed built compiled =>
      simp [verdict, graph?, failure?, failed, built, compiled, Except.toOption]
    | definition built failed compiled =>
      simp [verdict, graph?, failure?, failed, built, compiled, Except.toOption]
  · rintro ⟨passed, failed⟩
    unfold verdict at passed failed
    cases built : s.graph? name with
    | none => simp [built] at passed
    | some g =>
      cases compiled : compiler.compile g with
      | error e => simp [built, compiled, Except.toOption] at passed
      | ok flow =>
        have left : (s.failure? name).isSome := by simpa [built, compiled] using failed
        obtain ⟨f, p, rfl, ⟨⟨e, failed⟩, built⟩ | ⟨built, e, failed⟩⟩ :=
          built_and_failed.1 ⟨built, left⟩
        · exact .program failed built compiled
        · exact .definition built failed compiled

end Source

end ContactFlow
