import ContactFlow.CommandLine.Run
import ContactFlow.Proofs.Batches
import ContactFlow.Proofs.Readings

/-!
What a command says about its flows. The definition that is loaded and the modules that are imported
give every name at most two sources. A command whose batch comes through has a verdict on each name that
has a source; a name with two sources may get two. It does not come through for reasons that are known
beforehand, one by one.
-/

namespace ContactFlow

variable {ε : Type}

/-! ### Sources -/

namespace Definition

theorem read_of_load {f : Files} {path : String} {d : Definition} (loaded : load f path = .ok d) :
    ∃ v, Definition.ofValue v = .good d := by
  obtain ⟨data, _, checked⟩ := Results.bind_eq_ok.1 loaded
  unfold check at checked
  split at checked
  · rename_i read
    cases checked
    exact ⟨_, read⟩
  · cases checked

end Definition

namespace Request

variable {s : Surroundings ε} {r : Request} {path : String} {d : Definition} {catalog : Catalog ε}

/-- The programs of the modules that are imported go by texts. -/
theorem texts_of_importAll {m : Modules ε} {modules : List String}
    (imported : importAll m modules = .ok catalog) : ∃ entries, catalog.Texts entries := by
  have all (modules : List String) (c : Catalog ε) (entries : List (String × Program ε))
      (texts : c.Texts entries) (imported : modules.foldlM (importModule m) c = .ok catalog) :
      ∃ entries, catalog.Texts entries := by
    induction modules generalizing c entries with
    | nil =>
      cases imported
      exact ⟨entries, texts⟩
    | cons module rest ih =>
      obtain ⟨c₁, first, more⟩ := Results.bind_eq_ok.1 imported
      unfold importModule at first
      split at first
      · split at first <;> cases first
      · obtain ⟨entries₁, texts⟩ := Catalog.texts_registerAll texts (Results.ok_of_mapError first)
        exact ih c₁ entries₁ texts more
  exact all _ {} [] ⟨rfl, List.nodup_nil⟩ imported

/-! ### Commands -/

/-- Why a command on a definition and a catalog ends before its batch is through. -/
inductive Escapes (d : Definition) (strict : Option Bool) (source : String → Source ε) :
    Escaped ε → Prop
  | registry {e : UsageError} (refused : d.registry {} = .error e) : Escapes d strict source (.registry e)
  | definition {name : String} {f : FlowDefinition} {e : DefinitionError}
    (among : (source name).definition = some f) (failed : f.graph name = .error e)
    (ends : Batch.endsBatch e = true) : Escapes d strict source (.batch (.definition e))
  | pipeline {registry : Registry} {e : PipelineError} (registered : d.registry {} = .ok registry)
    (refused : Compiler.ofSettings registry (d.settings.withStrictness strict) = .error e) :
    Escapes d strict source (.pipeline e)
  | compile {registry : Registry} {c : Compiler} {name : String} {g : Graph} {e : CompileError}
    (registered : d.registry {} = .ok registry)
    (made : Compiler.ofSettings registry (d.settings.withStrictness strict) = .ok c)
    (built : (source name).graph? name = some g) (failed : c.compile g = .error e)
    (foreign : e.isForeign = true) : Escapes d strict source (.batch (.compile e))

/-- A batch that has a verdict on every flow there is. -/
structure Decides (c : Compiler) (source : String → Source ε) (b : Batch ε) : Prop where
  flow : ∀ name, b.flows.lookup name = ((source name).verdict name c).flow
  failure : ∀ name, b.failures.lookup name = ((source name).verdict name c).failure
  once : (Ordered.keys b.flows).Nodup ∧ (Ordered.keys b.failures).Nodup
  decided : ∀ name, (source name).Known ↔
    name ∈ Ordered.keys b.flows ∨ name ∈ Ordered.keys b.failures
  twice : ∀ name, (source name).Clashes c name ↔
    name ∈ Ordered.keys b.flows ∧ name ∈ Ordered.keys b.failures

/-- What is foreseen for a command: a batch that decides every flow, which comes about unless a known
error escapes. -/
def Foreseen (d : Definition) (strict : Option Bool) (source : String → Source ε) :
    Step ε (Batch ε) → Prop
  | .ok b => (∃ registry c, d.registry {} = .ok registry ∧
      Compiler.ofSettings registry (d.settings.withStrictness strict) = .ok c ∧ Decides c source b) ∧
      ∀ x, ¬ Escapes d strict source x
  | .error (.escaped x) => Escapes d strict source x
  | .error (.exit _ _) => False

theorem decides_of_standing {c : Compiler} {source : String → Source ε} {b : Batch ε}
    (apart : b.Apart) (stands : ∀ name, b.standing name = ⟨(source name).graph? name,
      ((source name).verdict name c).flow, ((source name).verdict name c).failure⟩) :
    Decides c source b := by
  have flow (name : String) : b.flows.lookup name = ((source name).verdict name c).flow :=
    congrArg Batch.Standing.flow (stands name)
  have failure (name : String) : b.failures.lookup name = ((source name).verdict name c).failure :=
    congrArg Batch.Standing.failure (stands name)
  refine ⟨flow, failure, ⟨apart.flows, apart.failures⟩, fun name => ?_, fun name => ?_⟩
  · rw [← Ordered.lookup_isSome, ← Ordered.lookup_isSome, flow, failure]
    exact Source.known_iff
  · rw [← Ordered.lookup_isSome, ← Ordered.lookup_isSome, flow, failure]
    exact Source.clashes_iff

theorem buildDefinition_eq (loaded : Definition.load s.files path = .ok d) (selected : List String) :
    (buildDefinition s.files selected (some path) : Step ε (Batch ε × Context)) =
      ((d.registry {}).mapError fun e => .escaped (.registry e)) >>= fun registry =>
      ((({} : Batch ε).addDefinition d selected).mapError fun e => .escaped (.batch e)) >>= fun b =>
      pure (b, { settings := d.settings, registry }) := by
  have load : (load s.files path : Step ε Definition) = .ok d := by
    unfold load
    rw [loaded]
  unfold buildDefinition
  dsimp only
  rw [load]
  rfl

/-- An error in the definition ends a command. -/
theorem batch_of_error (given : r.config = some path) (level : (r.checkLevel : Step ε Unit) = .ok ())
    {x : Stopped ε} (failed : buildDefinition s.files r.flows (some path) = .error x) :
    r.batch s = .error x := by
  unfold batch
  rw [level, given, failed]
  rfl

/-- Flows that are built are compiled, if all that is selected is there. -/
theorem batch_of_built (given : r.config = some path)
    (level : (r.checkLevel : Step ε Unit) = .ok ()) {b b' : Batch ε} {context : Context}
    (built : buildDefinition s.files r.flows (some path) = .ok (b, context))
    (imported : importAll s.modules r.modules = .ok catalog)
    (catalogued : b.addCatalog s.fatal catalog r.flows = .ok b') (known : b'.unknown r.flows = []) :
    r.batch s = ((Compiler.ofSettings context.registry
        (context.settings.withStrictness r.strict)).mapError fun e => .escaped (.pipeline e)) >>=
      fun c => (b'.compile c).mapError fun e => .escaped (.batch e) := by
  unfold batch
  rw [level, given, built, imported]
  simp only [Option.isNone_some, Bool.false_and, Bool.false_eq_true, if_false, Results.ok_bind]
  simp only [catalogued, Except.mapError, Results.ok_bind, known]

theorem unknown_eq_nil {b : Batch ε} {source : String → Source ε}
    (stands : ∀ name, b.standing name =
      ⟨(source name).graph? name, none, (source name).failure? name⟩) {selected : List String}
    (exist : ∀ name ∈ selected, (source name).Known) : b.unknown selected = [] := by
  refine List.filter_eq_nil_iff.2 fun name among => ?_
  have graph : b.graphs.lookup name = (source name).graph? name :=
    congrArg Batch.Standing.graph (stands name)
  have failure : b.failures.lookup name = (source name).failure? name :=
    congrArg Batch.Standing.failure (stands name)
  have known := (Source.known_of_built name).1 (exist name among)
  rw [← graph, ← failure, Ordered.lookup_isSome, Ordered.lookup_isSome, ← Ordered.contains_iff,
    ← Ordered.contains_iff] at known
  rcases known with built | failed
  · simp [built]
  · simp [failed]

/-- Nothing escapes if the definition has its registry and compiler, and no flow ends the batch. -/
theorem not_escapes {strict : Option Bool} {source : String → Source ε} {registry : Registry}
    {c : Compiler} (registered : d.registry {} = .ok registry)
    (made : Compiler.ofSettings registry (d.settings.withStrictness strict) = .ok c)
    (defined : ∀ name f e, (source name).definition = some f → f.graph name = .error e →
      Batch.endsBatch e = false)
    (compiled : ∀ name g e, (source name).graph? name = some g → c.compile g = .error e →
      e.isForeign = false) (x : Escaped ε) : ¬ Escapes d strict source x := by
  intro escapes
  cases escapes with
  | registry refused => cases registered.symm.trans refused
  | definition among failed ends => cases (defined _ _ _ among failed).symm.trans ends
  | pipeline registered' refused =>
    cases registered.symm.trans registered'
    cases made.symm.trans refused
  | compile registered' made' built failed foreign =>
    cases registered.symm.trans registered'
    cases made.symm.trans made'
    cases (compiled _ _ _ built failed).symm.trans foreign

/-- A batch whose flows are built comes through its compilation as foreseen. -/
theorem foreseen_compile {strict : Option Bool} {source : String → Source ε} {registry : Registry}
    {c : Compiler} {b : Batch ε} (registered : d.registry {} = .ok registry)
    (made : Compiler.ofSettings registry (d.settings.withStrictness strict) = .ok c)
    (defined : ∀ name f e, (source name).definition = some f → f.graph name = .error e →
      Batch.endsBatch e = false)
    (apart : b.Apart) (stands : ∀ name, b.standing name = Batch.programmed (source name) name) :
    Foreseen d strict source ((b.compile c).mapError fun e => .escaped (.batch e)) := by
  have graph (name : String) : (b.standing name).graph = (source name).graph? name :=
    congrArg Batch.Standing.graph ((stands name).trans (Batch.programmed_eq _ name))
  cases compiled : b.compile c with
  | error x =>
    obtain ⟨name, g, e, built, failed, foreign, rfl⟩ := Batch.error_of_compile apart compiled
    exact .compile registered made ((graph name).symm.trans built) failed foreign
  | ok b' =>
    obtain ⟨apart', settled⟩ := Batch.standing_compile apart compiled
    refine ⟨⟨registry, c, registered, made, decides_of_standing apart' fun name => ?_⟩,
      not_escapes registered made defined fun name g e built failed => ?_⟩
    · rw [(settled name).2, stands]
      exact Batch.settled_eq c _ name
    · exact (settled name).1 g e ((graph name).trans built) failed

/-- What a command comes to whose definition is loaded, whose modules are imported without fatal
errors, and whose selection exists. Either its batch decides every flow by the sources of this flow
alone, and nothing keeps it from going through; or an error escapes that is known beforehand. -/
theorem batch_decides (given : r.config = some path)
    (loaded : Definition.load s.files path = .ok d)
    (level : (r.checkLevel : Step ε Unit) = .ok ())
    (imported : importAll s.modules r.modules = .ok catalog)
    (mild : ∀ e ∈ catalog.programs, Batch.Mild s.fatal e.2)
    (exist : ∀ name ∈ r.flows, (Batch.sourceOf d catalog r.flows name).Known) :
    Foreseen d r.strict (Batch.sourceOf d catalog r.flows) (r.batch s) := by
  obtain ⟨v, read⟩ := Definition.read_of_load loaded
  have distinct := Definition.distinct_of_read read
  obtain ⟨entries, texts⟩ := texts_of_importAll imported
  have mild (e) (among : e ∈ entries) : Batch.Mild s.fatal e.2 := by
    have there : (Scalar.text e.1, e.2) ∈ catalog.programs := by
      rw [texts.programs]
      exact List.mem_map_of_mem among
    exact mild _ there
  have building : (buildDefinition s.files r.flows (some path) : Step ε (Batch ε × Context)) = _ :=
    buildDefinition_eq loaded r.flows
  cases registered : d.registry {} with
  | error e =>
    rw [registered] at building
    rw [batch_of_error given level building]
    exact .registry registered
  | ok registry =>
    cases added : ({} : Batch ε).addDefinition d r.flows with
    | error x =>
      obtain ⟨name, f, e, among, failed, ends, rfl⟩ :=
        Batch.error_of_addDefinition distinct catalog added
      rw [registered, added] at building
      rw [batch_of_error given level building]
      exact .definition among failed ends
    | ok b₁ =>
      obtain ⟨apart₁, defined⟩ := Batch.standing_addDefinition distinct catalog added
      obtain ⟨b₂, catalogued, apart₂, programmed⟩ :=
        Batch.standing_addCatalog texts mild d fun name => (defined name).2
      have known : b₂.unknown r.flows = [] :=
        unknown_eq_nil (fun name => (programmed name).trans (Batch.programmed_eq _ name)) exist
      rw [registered, added] at building
      rw [batch_of_built given level building imported catalogued known]
      cases made : Compiler.ofSettings registry (d.settings.withStrictness r.strict) with
      | error e => exact .pipeline registered made
      | ok c =>
        exact foreseen_compile registered made (fun name => (defined name).1) (apart₂ apart₁) programmed

/-- A program that hangs up at once. -/
def hangUp : Program Unit where
  steps := (Builder.append 0 .disconnect .null .null >>= fun _ => pure ()).mapError fun _ => ()

/-- A flow that cannot be built, since nothing comes after its end, and a program of the same name. -/
def doubled : Surroundings Unit where
  files :=
    { files := [(["m.yaml"],
        "flows: \x7bMenu: \x7bsteps: [\x7btype: end\x7d, \x7btype: end\x7d]\x7d\x7d")] }
  modules := [("m", [("Menu", hangUp)])]
  rows := fun _ => []

/-- A command on both flows of one name. -/
def both : Request where
  config := some "m.yaml"
  modules := ["m"]
  flows := ["Menu"]

theorem imported_doubled : ∃ catalog, importAll doubled.modules both.modules = .ok catalog ∧
    (catalog.find? (.text "Menu")).isSome = true := by
  have parts : "m".splitOn "." = ["m"] := by
    rw [String.splitOn, if_neg (by decide)]
    rw [String.splitOnAux, if_neg (by decide), if_neg (by decide)]
    rw [String.splitOnAux, if_pos (by decide)]
    rfl
  have absolute : "m".startsWith "." = false := by decide +kernel
  have found : doubled.modules.flowsOf "m" = .ok [("Menu", hangUp)] := by
    unfold Modules.flowsOf Modules.check
    rw [parts, absolute]
    rfl
  unfold importAll
  change ∃ catalog, (importModule doubled.modules {} "m" >>= fun c => pure c) = _ ∧ _
  unfold importModule
  rw [found]
  exact ⟨_, rfl, rfl⟩

theorem batch_decides_doubled : ∃ d catalog,
    Definition.load doubled.files "m.yaml" = .ok d ∧
    importAll doubled.modules both.modules = .ok catalog ∧
    Foreseen d both.strict (Batch.sourceOf d catalog both.flows) (both.batch doubled) := by
  have read : (Definition.load doubled.files "m.yaml").toOption.isSome = true := by decide +kernel
  obtain ⟨d, found⟩ := Option.isSome_iff_exists.1 read
  have loaded := Results.toOption_eq_some.1 found
  obtain ⟨catalog, imported, there⟩ := imported_doubled
  have given : both.config = some "m.yaml" := rfl
  have level : (both.checkLevel : Step Unit Unit) = .ok () :=
    Results.toOption_eq_some.1 (by decide +kernel)
  have mild : ∀ e ∈ catalog.programs, Batch.Mild doubled.fatal e.2 := fun _ _ _ _ _ _ => rfl
  have exist : ∀ name ∈ both.flows, (Batch.sourceOf d catalog both.flows name).Known := by
    intro name among
    cases List.mem_singleton.1 among
    have selected : Batch.isSelected both.flows "Menu" = true := by decide +kernel
    rw [Batch.sourceOf, if_pos selected]
    exact .inr there
  -- The command need not be run to see what is foreseen for it.
  generalize doubled = s, both = r at *
  exact ⟨d, catalog, loaded, imported, batch_decides given loaded level imported mild exist⟩

/-- A definition with an address that is empty. -/
def unaddressed : Surroundings Unit where
  files := { files := [(["m.yaml"], "resources: \x7bqueues: \x7bSales: ''\x7d\x7d")] }
  rows := fun _ => []

/-- A definition that is loaded may still end a command with an error that is not reported. -/
theorem batch_of_unaddressed : ∃ d, Definition.load unaddressed.files "m.yaml" = .ok d ∧
    ∃ e, batch unaddressed { verb := .validate, config := some "m.yaml" } =
      .error (.escaped (.registry e)) := by
  have given : (Request.config { verb := .validate, config := some "m.yaml" }) = some "m.yaml" := rfl
  have read : ((Definition.load unaddressed.files "m.yaml").toOption.bind fun d =>
      Results.error? (d.registry {})) = some (.emptyAddress .queue "Sales") := by decide +kernel
  obtain ⟨d, loaded, refused⟩ := Option.bind_eq_some_iff.1 read
  have loaded := Results.toOption_eq_some.1 loaded
  have building := buildDefinition_eq (s := unaddressed) loaded []
  rw [Results.error?_eq_some.1 refused] at building
  exact ⟨d, loaded, _, batch_of_error given (Results.toOption_eq_some.1 (by decide +kernel)) building⟩

end Request

end ContactFlow
