import Bindery.Job

/-! # Arguments

The arguments of a command line are options with a value (`-f x`, `-fx`, `-f=x`, `--functions x`,
`--functions=x`) and the switch `-v`. A value that is an argument of its own does not begin with a dash,
unless it is nothing but a dash. Letters of switches and the letter of one option may share a dash. -/

namespace Bindery

/-- What a command line asks for. -/
structure Arguments where
  functionFiles : List String
  typeFiles : List String
  /-- The names of the targets; each goes with the destination in the same place. -/
  targets : List String
  destinations : List Destination
  preamble : List String
  epilogue : List String
  config? : Option String
  docFolder? : Option String
  verbose : Bool
deriving Repr, DecidableEq, Inhabited

namespace Arguments

/-- A command line that asks for nothing. -/
def none : Arguments := ⟨[], [], [], [], [], [], .none, .none, false⟩

/-- An option with a value. -/
inductive Choice where
  | functions
  | types
  | target
  | destination
  | preamble
  | epilogue
  | config
  | docFolder
deriving Repr, DecidableEq, Inhabited

namespace Choice

/-- The option of a letter. -/
def ofLetter? : Char → Option Choice
  | 'f' => some functions
  | 't' => some types
  | 'l' => some target
  | 'o' => some destination
  | 'i' => some preamble
  | 'e' => some epilogue
  | _ => .none

/-- The option of a word. -/
def ofWord? : String → Option Choice
  | "functions" => some functions
  | "types" => some types
  | "language" => some target
  | "output" => some destination
  | "input" => some preamble
  | "epilogue" => some epilogue
  | "config" => some config
  | "docstrings" => some docFolder
  | _ => .none

end Choice

/-- A path, which must not be empty. -/
def path? (value : String) : Option String := if value = "" then .none else some value

/-- Takes in the value of an option. The configuration and the folder are given at most once. -/
def take? (a : Arguments) (value : String) : Choice → Option Arguments
  | .functions => (path? value).map fun p => { a with functionFiles := a.functionFiles ++ [p] }
  | .types => (path? value).map fun p => { a with typeFiles := a.typeFiles ++ [p] }
  | .target => some { a with targets := a.targets ++ [value] }
  | .destination =>
    match Destination.ofText value with
    | .ok d => some { a with destinations := a.destinations ++ [d] }
    | .error _ => .none
  | .preamble => (path? value).map fun p => { a with preamble := a.preamble ++ [p] }
  | .epilogue => (path? value).map fun p => { a with epilogue := a.epilogue ++ [p] }
  | .config =>
    if a.config?.isSome then .none else (path? value).map fun p => { a with config? := some p }
  | .docFolder =>
    if a.docFolder?.isSome then .none else (path? value).map fun p => { a with docFolder? := some p }

/-- Turns the switch on, which is done at most once. -/
def setVerbose? (a : Arguments) : Option Arguments := if a.verbose then .none else some { a with verbose := true }

/-- Whether an argument can be the value of the option before it. -/
def isValue (s : String) : Bool := s == "-" || s.toList.head? != some '-'

/-- Takes in letters that share a dash; returns the option whose value is the next argument, if one is. -/
def takeLetters? (a : Arguments) : List Char → Option (Arguments × Option Choice)
  | [] => some (a, .none)
  | c :: rest =>
    if c = 'v' then (a.setVerbose?).bind fun a => a.takeLetters? rest
    else
      match Choice.ofLetter? c, rest with
      | .none, _ => .none
      | some choice, [] => some (a, some choice)
      | some choice, '=' :: value => (a.take? (String.ofList value) choice).map fun a => (a, .none)
      | some choice, value => (a.take? (String.ofList value) choice).map fun a => (a, .none)

/-- Takes in a word after two dashes; returns the option whose value is the next argument, if one is. -/
def takeWord? (a : Arguments) (word : String) : Option (Arguments × Option Choice) :=
  match Text.cut? '=' word with
  | some (name, value) => do
    let choice ← Choice.ofWord? name
    return (← a.take? value choice, .none)
  | .none =>
    if word = "verbose" then (a.setVerbose?).map fun a => (a, .none)
    else (Choice.ofWord? word).map fun choice => (a, some choice)

/-- Takes in an argument that is no value. Two dashes end the options, and nothing may follow them. -/
def takeOne? (a : Arguments) (arg : String) (isLast : Bool) : Option (Arguments × Option Choice) :=
  match arg.toList with
  | '-' :: '-' :: [] => if isLast then some (a, .none) else .none
  | '-' :: '-' :: word => a.takeWord? (String.ofList word)
  | '-' :: c :: rest => a.takeLetters? (c :: rest)
  | _ => .none

/-- Takes in arguments; `pending` is an option whose value comes next. -/
def takeAll? (a : Arguments) (pending : Option Choice) : List String → Option Arguments
  | [] => if pending.isSome then .none else some a
  | arg :: rest =>
    match pending with
    | some choice =>
      if isValue arg then (a.take? arg choice).bind fun a => a.takeAll? .none rest else .none
    | .none => (a.takeOne? arg rest.isEmpty).bind fun (a, pending) => a.takeAll? pending rest

/-- What the arguments of a command line ask for, if they are well-formed. -/
def parse? (args : List String) : Option Arguments := none.takeAll? .none args

/-- The files of the jobs. -/
def job (a : Arguments) : Job := ⟨a.functionFiles, a.typeFiles, a.preamble, a.epilogue⟩

/-- The targets with their destinations. -/
def pairs (a : Arguments) : List (String × Destination) := a.targets.zip a.destinations

end Arguments
end Bindery
