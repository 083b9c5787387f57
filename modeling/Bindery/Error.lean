/-! # What can go wrong

One type holds every cause of failure, from a badly indented line to a function that a target language
cannot express. `message` is the wording shown to the user. Causes that concern the rendering of a single
function (`isPerFunction`) do not stop a run; all others do. -/

namespace Bindery

/-- A cause of failure. -/
inductive Error where
  /-- A line is indented to a column at which no open block stands. -/
  | badIndentation (line : Nat)
  /-- A line has a colon but an empty key. -/
  | missingKey (line : Nat)
  /-- A token, or the end of the input, stands where it cannot be placed. -/
  | unexpectedToken (token : String)
  /-- An item of a parameter list is malformed. -/
  | invalidParameter (function spec reason : String)
  /-- An attribute, a key or a text has a shape it cannot take. -/
  | invalidDescriptor (name reason : String)
  /-- A declared dependency is not a parameter. -/
  | unresolvedDependency (function parameter dependency : String)
  /-- An entry of a parameter order is repeated. -/
  | duplicateOrderEntry (function entry : String)
  /-- An entry of a parameter order is not a parameter. -/
  | unknownOrderEntry (function entry : String)
  /-- An attribute refers to a parameter that was not declared. -/
  | unknownParameter (function key parameter : String)
  /-- A type is used that the catalog does not hold. -/
  | unknownType (function typeName : String)
  /-- A template refers to a dependency that was not declared. -/
  | unresolvedPlaceholder (function parameter typeName placeholder : String)
  /-- A target that returns one value meets several outputs. -/
  | unsupportedOutputs (function : String) (count : Nat)
  /-- A target cannot express the way a function is called. -/
  | unsupportedConvention (function reason : String)
  /-- A block marker names a block that has no handler. -/
  | unhandledBlock (block : String)
  /-- No target has the given name. -/
  | unknownTarget (name : String)
  /-- A file cannot be read or written. -/
  | io (path reason : String)
  /-- A document is not well-formed YAML. -/
  | yaml (name : String)
  /-- A skeleton is malformed or lacks a field. -/
  | skeleton (reason : String)
  /-- The configuration is malformed. -/
  | config (reason : String)
  /-- An argument is refused. -/
  | invalidArgument (reason : String)
deriving Repr, DecidableEq, Inhabited

namespace Error

/-- The wording of a failure. -/
def message : Error → String
  | badIndentation line => s!"Bad indentation in line {line}"
  | missingKey line => s!"Missing keyword in line {line}"
  | unexpectedToken token => s!"Unexpected token: {token}"
  | invalidParameter function spec reason =>
    s!"Invalid parameter specification '{spec}' in function '{function}': {reason}"
  | invalidDescriptor name reason => s!"Invalid descriptor '{name}': {reason}"
  | unresolvedDependency function parameter dependency =>
    s!"Dependency '{dependency}' declared by parameter '{parameter}' of function '{function}' " ++
      "does not name a parameter of that function"
  | duplicateOrderEntry function entry =>
    s!"Parameter '{entry}' is listed more than once in PARAM_ORDER of function '{function}'"
  | unknownOrderEntry function entry =>
    s!"PARAM_ORDER of function '{function}' refers to unknown parameter '{entry}'"
  | unknownParameter function key parameter =>
    s!"{key} of function '{function}' refers to unknown parameter '{parameter}'"
  | unknownType function typeName => s!"Unknown type '{typeName}' in function '{function}'"
  | unresolvedPlaceholder function parameter typeName placeholder =>
    s!"Missing dependency declaration for {typeName} {parameter} in function {function} " ++
      s!"(unresolved {placeholder})"
  | unsupportedOutputs function count =>
    s!"{function}: {count} output parameters cannot be returned by this backend"
  | unsupportedConvention function reason =>
    s!"{function}: calling convention unsupported: {reason}"
  | unhandledBlock block => s!"No handler registered for block '{block}'"
  | unknownTarget name => s!"Unknown language: {name}"
  | io path reason => s!"I/O error on {path}: {reason}"
  | yaml name => s!"YAML error in {name}"
  | skeleton reason => s!"Template error: {reason}"
  | config reason => s!"Configuration error: {reason}"
  | invalidArgument reason => s!"Invalid argument: {reason}"

/-- The failure lies in the structure of a specification. -/
def isStructural : Error → Bool
  | badIndentation _ | missingKey _ | unexpectedToken _ | invalidParameter .. | invalidDescriptor ..
  | unresolvedDependency .. | duplicateOrderEntry .. | unknownOrderEntry .. | unknownParameter .. => true
  | _ => false

/-- The failure concerns the rendering of one function and leaves the others alone. -/
def isPerFunction : Error → Bool
  | unknownType .. | unresolvedPlaceholder .. | unsupportedOutputs .. | unsupportedConvention .. => true
  | _ => false

/-- The failure comes from the file system. -/
def isIo : Error → Bool
  | io .. => true
  | _ => false

/-- The failure is a name that no target has. -/
def isUnknownTarget : Error → Bool
  | unknownTarget _ => true
  | _ => false

/-- The failure lies in the configuration. -/
def isConfig : Error → Bool
  | config _ => true
  | _ => false

end Error
end Bindery
