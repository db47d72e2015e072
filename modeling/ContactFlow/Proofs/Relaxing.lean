import ContactFlow.Proofs.Pipelines
import ContactFlow.Proofs.WellFormed
import Mathlib.Data.List.Flatten

/-!
Relaxed settings. What is compiled under some settings is compiled to the same document under
settings that disable more validators or lower severities, and no warning comes up that was not there
before: of a graph that passed, no validator of error severity has anything to report, so it makes no
difference to lower its severity or to leave it out.
-/

namespace ContactFlow

/-- The severity stays as it is or goes down from an error to a warning. -/
def Severity.Lowers (a b : Severity) : Prop := b = a ∨ a = .error ∧ b = .warning

namespace Settings

/-- The second settings ask for the same documents, disable at least the same validators, all of
which are known, and set severities that are the same or lower. -/
structure RelaxedTo (s s' : Settings) : Prop where
  version : s'.flowVersion = s.flowVersion
  fingerprint : s'.includeFingerprint = s.includeFingerprint
  disabled : s.disabledValidators ⊆ s'.disabledValidators
  known : ∀ id ∈ s'.disabledValidators, id ∈ Validator.builtin.map (·.id)
  reachability : s.reachabilitySeverity.Lowers s'.reachabilitySeverity
  terminal : s.terminalSeverity.Lowers s'.terminalSeverity

/-- The validator at the severity that the settings ask for. -/
def adjust (s : Settings) (v : Validator) : Validator :=
  { v with severity := (s.severityFor v.id).getD v.severity }

/-- The built-in validators that the settings do not disable, in their order. -/
def validators (s : Settings) : List Validator :=
  Validator.builtin.filter fun v => !s.disabledValidators.contains v.id

variable {s s' : Settings} {v : Validator} {g : Graph}

theorem RelaxedTo.lowers (relaxed : s.RelaxedTo s') (v : Validator) :
    (s.adjust v).severity.Lowers (s'.adjust v).severity := by
  simp only [adjust, severityFor]
  split
  · exact relaxed.reachability
  · split
    · exact relaxed.terminal
    · exact .inl rfl

theorem RelaxedTo.sublist (relaxed : s.RelaxedTo s') : s'.validators.Sublist s.validators := by
  refine List.monotone_filter_right _ fun v kept => ?_
  rw [Bool.not_eq_true', ← Bool.not_eq_true, List.contains_iff_mem] at kept ⊢
  exact fun off => kept (relaxed.disabled off)

/-- A validator that has nothing to report as errors reports the same at a lower severity. -/
theorem RelaxedTo.run_eq (relaxed : s.RelaxedTo s')
    (clean : (s.adjust v).severity = .error → v.check g = []) :
    (s'.adjust v).run g = (s.adjust v).run g := by
  rcases relaxed.lowers v with same | ⟨strict, -⟩
  · have adjusted : s'.adjust v = s.adjust v :=
      congrArg (fun severity => { v with severity }) same
    rw [adjusted]
  · have none := clean strict
    rw [Validator.run, Validator.run, adjust, adjust, none]
    rfl

end Settings

namespace Pipeline

variable {s : Settings} {p : Pipeline} {g : Graph} {vs : List Validator}

theorem enabled_ofSettings (made : ofSettings s = .ok p) :
    p.enabled = s.validators.map s.adjust := by
  obtain ⟨validators, disabled⟩ := disableAll_ok made
  have off (id : String) : p.disabled.contains id = s.disabledValidators.contains id := by
    rw [Bool.eq_iff_iff, List.contains_iff_mem, List.contains_iff_mem, disabled]
    simp [configured]
  rw [enabled, validators, configured, List.filter_map, Settings.validators]
  congr 1
  exact List.filter_congr fun v _ => congrArg not (off v.id)

theorem disableAll_known {ids : List String} (known : ∀ id ∈ ids, id ∈ p.ids) :
    ∃ q, p.disableAll ids = .ok q := by
  induction ids generalizing p with
  | nil => exact ⟨p, rfl⟩
  | cons id rest ih =>
    obtain ⟨first, others⟩ := List.forall_mem_cons.1 known
    obtain ⟨r, disabled⟩ : ∃ r, p.disable id = .ok r := by
      rw [disable, require, if_pos (List.contains_iff_mem.2 first)]
      exact ⟨_, rfl⟩
    have ids_eq : r.ids = p.ids := by
      cases disable_makes disabled with
      | disable _ order _ => rw [ids, order, ids]
    obtain ⟨q, done⟩ := ih (p := r) (ids_eq ▸ others)
    exact ⟨q, Results.bind_eq_ok.2 ⟨r, disabled, done⟩⟩

theorem ofSettings_known (known : ∀ id ∈ s.disabledValidators, id ∈ Validator.builtin.map (·.id)) :
    ∃ p, ofSettings s = .ok p := by
  refine disableAll_known fun id off => ?_
  rw [ids, configured, List.map_map]
  exact known id off

/-- A run that comes to its end gathers the findings of all enabled validators. -/
theorem findings_of_run {report : Report} (ran : p.run g = .ok report) :
    report.findings = p.enabled.flatMap (·.run g) := by
  rw [run_eq_traced] at ran
  obtain ⟨found, traced, rfl⟩ := Results.map_eq_ok.1 ran
  rcases tracedFrom_cases g p.enabled with ⟨_, _, _, _, _, _, halted⟩ | ⟨_, passed⟩
  · rw [halted] at traced
    cases traced
  · rw [passed] at traced
    cases traced
    rfl

end Pipeline

namespace Compiler

variable {r : Registry} {s s' : Settings} {c : Compiler} {g : Graph} {flow : Flow}

theorem document_relaxed (relaxed : s.RelaxedTo s') (g : Graph) : document s' g = document s g := by
  rw [document, document, relaxed.version, relaxed.fingerprint]

/-- A graph that is compiled under some settings is compiled under relaxed ones, to the same document
and with no warnings that were not there. -/
theorem compile_relaxed (relaxed : s.RelaxedTo s') (made : ofSettings r s = .ok c)
    (compiled : c.compile g = .ok flow) :
    ∃ c' flow', ofSettings r s' = .ok c' ∧ c'.compile g = .ok flow' ∧ flow'.name = flow.name ∧
      flow'.document = flow.document ∧ flow'.warnings.Sublist flow.warnings := by
  obtain ⟨p, piped, rfl⟩ := Results.map_eq_ok.1 made
  obtain ⟨p', piped'⟩ := Pipeline.ofSettings_known relaxed.known
  obtain ⟨e, expanded, -⟩ := Results.bind_eq_ok.1 compiled
  have expanded := Results.ok_of_mapError expanded
  obtain ⟨all, report, d, ran, passed, written, rfl⟩ := (compile_iff expanded).1 compiled
  have clean : ∀ v ∈ s.validators, (s.adjust v).severity = .error → v.check e.graph = [] := by
    intro v listed
    have enabled : s.adjust v ∈ p.enabled := by
      rw [Pipeline.enabled_ofSettings piped]
      exact List.mem_map_of_mem listed
    exact Pipeline.accepts_iff.1 ⟨report, ran, passed⟩ _ enabled
  have same {v : Validator} (listed : v ∈ s'.validators) :
      (s'.adjust v).run e.graph = (s.adjust v).run e.graph :=
    relaxed.run_eq (clean v (relaxed.sublist.subset listed))
  have accepted : p'.Accepts e.graph := by
    rw [Pipeline.accepts_iff, Pipeline.enabled_ofSettings piped', List.forall_mem_map]
    intro v listed strict
    refine clean v (relaxed.sublist.subset listed) ?_
    rcases relaxed.lowers v with same | ⟨before, -⟩
    · exact same.symm.trans strict
    · exact before
  obtain ⟨report', ran', passed'⟩ := accepted
  have fewer : report'.findings.Sublist report.findings := by
    rw [Pipeline.findings_of_run ran, Pipeline.findings_of_run ran',
      Pipeline.enabled_ofSettings piped, Pipeline.enabled_ofSettings piped', List.flatMap_map,
      List.flatMap_map, List.flatMap_congr fun v listed => same listed]
    exact relaxed.sublist.flatMap _
  have compiled' : Compiler.compile ⟨r, s', p'⟩ g = .ok ⟨g.name, d, report'.warnings⟩ :=
    (compile_iff (c := ⟨r, s', p'⟩) expanded).2
      ⟨all, report', d, ran', passed', (document_relaxed relaxed _).trans written, rfl⟩
  exact ⟨_, _, Results.map_eq_ok.2 ⟨p', piped', rfl⟩, compiled', rfl, rfl, fewer.filter _⟩

end Compiler

/-- A flow that ends at once, with an action that nothing leads to. -/
def Graph.aside : Graph :=
  .ofNodes "Aside" (some "end")
    [("end", { id := "end", kind := .disconnect }), ("lost", { id := "lost", kind := .disconnect })]

/-- The action that nothing leads to is a warning at first, and the check is disabled then. -/
theorem Compiler.compile_relaxed_aside :
    let s : Settings := { reachabilitySeverity := .warning }
    let s' : Settings :=
      { reachabilitySeverity := .warning, terminalSeverity := .warning
        disabledValidators := ["reachability", "non-empty"] }
    s.RelaxedTo s' ∧ ∃ c flow, Compiler.ofSettings {} s = .ok c ∧ c.compile Graph.aside = .ok flow ∧
      flow.warnings.map (·.validator) = ["reachability"] ∧
      ∃ c' flow', Compiler.ofSettings {} s' = .ok c' ∧ c'.compile Graph.aside = .ok flow' ∧
        flow'.name = flow.name ∧ flow'.document = flow.document ∧
        flow'.warnings.Sublist flow.warnings := by
  intro s s'
  have relaxed : s.RelaxedTo s' := ⟨rfl, rfl, nofun, by decide, .inl rfl, .inr ⟨rfl, rfl⟩⟩
  have warned : (((Compiler.ofSettings {} s).toOption.bind fun c =>
      (c.compile Graph.aside).toOption).any fun flow =>
        flow.warnings.map (·.validator) = ["reachability"]) = true := by decide +kernel
  obtain ⟨flow, found, warnings⟩ := (Option.any_eq_true _ _).1 warned
  obtain ⟨c, made, compiled⟩ := Option.bind_eq_some_iff.1 found
  rw [Results.toOption_eq_some] at made compiled
  exact ⟨relaxed, c, flow, made, compiled, of_decide_eq_true warnings,
    Compiler.compile_relaxed relaxed made compiled⟩

end ContactFlow
