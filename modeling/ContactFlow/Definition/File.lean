import ContactFlow.Definition.Steps
import ContactFlow.Settings

/-!
Definitions: the settings of the compiler, the addresses of resources, and flows by their names.
-/

namespace ContactFlow

/-- The addresses of resources by their names. -/
structure Resources where
  queues : List (String × String) := []
  functions : List (String × String) := []
  flows : List (String × String) := []
  hours : List (String × String) := []
  deriving DecidableEq, Repr, Inhabited

structure FlowDefinition where
  description : String := ""
  steps : List Step := []
  deriving Repr, Inhabited

structure Definition where
  version : String := "1.0"
  settings : Settings := {}
  resources : Resources := {}
  flows : List (String × FlowDefinition) := []
  deriving Repr, Inhabited

def logLevels : List String := ["DEBUG", "INFO", "WARNING", "ERROR"]

def Settings.ofTable (t : Table) : Checked Settings :=
  (fun logLevel flowVersion reachabilitySeverity terminalSeverity disabledValidators
      includeFingerprint =>
    { logLevel, flowVersion, reachabilitySeverity, terminalSeverity, disabledValidators,
      includeFingerprint }) <$>
  t.optional "log_level" "WARNING" (Read.oneOf logLevels) <*>
  t.optional "flow_version" "2019-10-30" Read.text <*>
  t.optional "reachability_severity" .error (Read.member Severity.ofWire?) <*>
  t.optional "terminal_severity" .error (Read.member Severity.ofWire?) <*>
  t.optional "disabled_validators" [] (Read.list Read.text) <*>
  t.optional "include_fingerprint" false Read.truth

def Resources.ofTable (t : Table) : Checked Resources :=
  Resources.mk <$>
  t.optional "queues" [] (Read.tableOf Read.text) <*>
  t.optional "functions" [] (Read.tableOf Read.text) <*>
  t.optional "flows" [] (Read.tableOf Read.text) <*>
  t.optional "hours" [] (Read.tableOf Read.text)

def FlowDefinition.ofTable (t : Table) : Checked FlowDefinition :=
  FlowDefinition.mk <$>
  t.optional "description" "" Read.text <*>
  t.optional "steps" [] Step.listOf

namespace Definition

def supportedVersion : String := "1.0"

/-- A version may be given as a number. -/
def readVersion (v : Value) : Checked String :=
  let version := v.display
  if !v.isWritable then .fault (.refused Numeral.unwritableMessage)
  else if version = supportedVersion then .good version
  else .fault (.refused ("Unsupported DSL version: " ++ version ++ ". Supported: " ++
    supportedVersion))

def ofTable (t : Table) : Checked Definition :=
  Definition.mk <$>
  t.optional "version" supportedVersion readVersion <*>
  t.optional "settings" {} (Read.record Settings.ofTable) <*>
  t.optional "resources" {} (Read.record Resources.ofTable) <*>
  t.optional "flows" [] (Read.tableOf (Read.record FlowDefinition.ofTable))

/-- Reads a definition from its data. -/
def ofValue (v : Value) : Checked Definition := Read.record ofTable v

def flow? (d : Definition) (name : String) : Option FlowDefinition := d.flows.lookup name
def flowNames (d : Definition) : List String := Ordered.keys d.flows

end Definition

end ContactFlow
