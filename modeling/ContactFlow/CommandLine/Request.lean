/-!
Reading a command line. Options stand before or after the path; a value follows its option, or is
joined to it. After two dashes nothing is an option any more.
-/

namespace ContactFlow

inductive Verb
  | compile | validate
  deriving DecidableEq, Repr, Inhabited

/-- What is asked for. Strictness is only set by an option of its own. -/
structure Request where
  verb : Verb := .compile
  config : Option String := none
  flows : List String := []
  modules : List String := []
  output : String := "build"
  strict : Option Bool := none
  logLevel : Option String := none
  deriving DecidableEq, Repr, Inhabited

inductive Command
  | version
  | help
  | request (r : Request)
  deriving DecidableEq, Repr

inductive CommandError
  | noCommand
  | unknownCommand (name : String)
  | unknownOption (name : String)
  | missingValue (option : String)
  | unexpectedValue (option : String)
  | unexpectedArgument (argument : String)
  | noSuchPath (path : String)
  deriving DecidableEq, Repr

namespace CommandError

def message : CommandError → String
  | .noCommand => "Missing command."
  | .unknownCommand name => "No such command '" ++ name ++ "'."
  | .unknownOption name => "No such option: " ++ name
  | .missingValue option => "Option '" ++ option ++ "' requires an argument."
  | .unexpectedValue option => "Option '" ++ option ++ "' does not take a value."
  | .unexpectedArgument argument => "Got unexpected extra argument (" ++ argument ++ ")"
  | .noSuchPath path => "Path '" ++ path ++ "' does not exist."

end CommandError

namespace Verb

def name : Verb → String
  | .compile => "compile"
  | .validate => "validate"

def ofName? (s : String) : Option Verb := [compile, validate].find? (·.name == s)

end Verb

/-- The parts of an argument: a short option with what is joined to it, a long option with the value
that it is set to, or no option. -/
inductive Argument
  | short (letter : Char) (rest : List Char)
  | long (name : String) (value : Option String)
  | plain (s : String)
  deriving DecidableEq, Repr

namespace Argument

def ofString (s : String) : Argument :=
  match s.toList with
  | '-' :: '-' :: rest =>
    let name := "--" ++ String.ofList (rest.takeWhile (· != '='))
    match rest.dropWhile (· != '=') with
    | [] => .long name none
    | _ :: value => .long name (some (String.ofList value))
  | '-' :: letter :: rest => .short letter rest
  | _ => .plain s

end Argument

/-- An option that takes a value: the letter of its short form, its long form, and what it sets. -/
structure ValueOption where
  letter : Option Char
  name : String
  set : Request → String → Request

namespace Request

def valueOptions (verb : Verb) : List ValueOption :=
  [⟨some 'f', "--flow", fun r v => { r with flows := r.flows ++ [v] }⟩,
    ⟨some 'm', "--module", fun r v => { r with modules := r.modules ++ [v] }⟩,
    ⟨none, "--log-level", fun r v => { r with logLevel := some v }⟩] ++
  match verb with
  | .compile => [⟨some 'o', "--output", fun r v => { r with output := v }⟩]
  | .validate => []

/-- The options of a verb that take no value. -/
def flag? (name : String) : Option (Request → Request) :=
  if name = "--strict" then some fun r => { r with strict := some true }
  else if name = "--lenient" then some fun r => { r with strict := some false }
  else none

def addPath (r : Request) (s : String) : Except CommandError Request :=
  match r.config with
  | none => .ok { r with config := some s }
  | some _ => .error (.unexpectedArgument s)

/-- What stands for the value of an option: what is joined to it, or else the next argument. -/
def takeValue (option : String) (joined : Option String) (rest : List String) :
    Except CommandError (String × List String) :=
  match joined, rest with
  | some v, rest => .ok (v, rest)
  | none, v :: rest => .ok (v, rest)
  | none, [] => .error (.missingValue option)

theorem takeValue_length_le {option : String} {joined : Option String} {rest : List String}
    {v : String} {left : List String} (h : takeValue option joined rest = .ok (v, left)) :
    left.length ≤ rest.length := by
  cases joined <;> cases rest <;> simp [takeValue] at h <;> obtain ⟨-, rfl⟩ := h <;> simp

/-- Reads the arguments of a verb. Help is given at once. -/
def read (r : Request) (args : List String) : Except CommandError Command :=
  match args with
  | [] => .ok (.request r)
  | "--" :: rest => (rest.foldlM addPath r).map .request
  | arg :: rest =>
    match Argument.ofString arg with
    | .plain s => (addPath r s).bind fun r => read r rest
    | .long name value =>
      if name = "--help" ∧ value = none then (read r rest).map fun _ => .help
      else match flag? name with
        | some set => if value.isSome then .error (.unexpectedValue name) else read (set r) rest
        | none => match (valueOptions r.verb).find? (·.name == name) with
          | some o => match h : takeValue name value rest with
            | .ok (v, left) =>
              have := takeValue_length_le h
              read (o.set r v) left
            | .error e => .error e
          | none => .error (.unknownOption name)
    | .short letter joined =>
      match (valueOptions r.verb).find? (·.letter == some letter) with
      | some o =>
        let value := if joined.isEmpty then none else some (String.ofList joined)
        match h : takeValue o.name value rest with
        | .ok (v, left) =>
          have := takeValue_length_le h
          read (o.set r v) left
        | .error e => .error e
      | none => .error (.unknownOption arg)
  termination_by args.length

end Request

namespace Command

/-- Reads the command after the options that stand before it. -/
def ofCommand (first : Option Command) (args : List String) : Except CommandError Command :=
  match first, args with
  | some i, _ => .ok i
  | none, [] => .error .noCommand
  | none, name :: rest => match Verb.ofName? name with
    | some verb => Request.read { verb } rest
    | none => .error (.unknownCommand name)

/-- Reads a command line. Of version and help the first one asked for is given. -/
def read (first : Option Command) : List String → Except CommandError Command
  | [] => ofCommand first []
  | arg :: rest =>
    if arg = "--" then ofCommand first rest
    else match Argument.ofString arg with
      | .plain _ => ofCommand first (arg :: rest)
      | .long "--version" none => read (first.or (some .version)) rest
      | .long "--help" none => read (first.or (some .help)) rest
      | .long name _ => .error (.unknownOption name)
      | .short 'v' joined =>
        if joined.all (· == 'v') then read (first.or (some .version)) rest
        else .error (.unknownOption arg)
      | .short _ _ => .error (.unknownOption arg)

def ofArguments (args : List String) : Except CommandError Command := read none args

end Command

end ContactFlow
