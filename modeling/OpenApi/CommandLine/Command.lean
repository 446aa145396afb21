set_option autoImplicit false

/-! # Commands

A run of the program does one command, which its arguments say. `Command.ofArguments?` reads them: first the
name of the command, then its flags in any order. -/

namespace OpenApi

/-- A format for data. -/
inductive OutputFormat where
  | yaml
  | json
  deriving DecidableEq, Repr, Inhabited

namespace OutputFormat

/-- The name of a format. -/
def name : OutputFormat → String
  | .yaml => "yaml"
  | .json => "json"

/-- The format of a name. -/
def ofName? (s : String) : Option OutputFormat := [yaml, json].find? (·.name = s)

end OutputFormat

/-- What a run is asked for. A document is named by its file; the configured one is meant otherwise. -/
inductive Command where
  /-- To say which version this is. -/
  | version
  /-- To start a project with a configuration, in place of an older one if `force` is set. -/
  | init (force : Bool)
  /-- To check a document. -/
  | validate (input : Option String)
  /-- To print the data of a document, or a summary of it. -/
  | inspect (input : Option String) (format : OutputFormat) (summary : Bool)
  deriving DecidableEq, Repr

namespace Command

/-! ## Flags -/

/-- A flag of some command. -/
inductive Flag where
  | input
  | format
  | summary
  | force
  deriving DecidableEq, Repr

namespace Flag

/-- Whether a flag comes with a value. -/
def takesValue : Flag → Bool
  | .input | .format => true
  | .summary | .force => false

/-- The flag of a long name. -/
def ofName? : String → Option Flag
  | "--input" => some .input
  | "--format" => some .format
  | "--summary" => some .summary
  | "--force" => some .force
  | _ => none

/-- A flag as it is written, with the value that is written in the same argument. -/
def ofArgument? (arg : String) : Option (Flag × Option String) :=
  match arg.toList with
  | ['-', 'i'] => some (.input, none)
  | '-' :: 'i' :: '=' :: value => some (.input, some (String.ofList value))
  | '-' :: 'i' :: value => some (.input, some (String.ofList value))
  | cs =>
      let name := String.ofList (cs.takeWhile (· ≠ '='))
      let value := match cs.dropWhile (· ≠ '=') with
        | [] => none
        | _ :: value => some (String.ofList value)
      (ofName? name).map (·, value)

end Flag

/-- The flags of a command, as far as they have been given. -/
structure Flags where
  input : Option String := none
  format : Option OutputFormat := none
  summary : Bool := false
  force : Bool := false
  deriving Repr

namespace Flags

/-- Sets a flag with a value. A flag is given once at most, and its value is not empty. -/
def setValue? (flags : Flags) (flag : Flag) (value : String) : Option Flags :=
  match flag with
  | .input =>
      if flags.input.isNone && value ≠ "" then some { flags with input := some value } else none
  | .format =>
      if flags.format.isNone then
        (OutputFormat.ofName? value).map fun format => { flags with format := some format }
      else none
  | .summary | .force => none

/-- Sets a flag without a value. -/
def set? (flags : Flags) : Flag → Option Flags
  | .summary => if flags.summary then none else some { flags with summary := true }
  | .force => if flags.force then none else some { flags with force := true }
  | .input | .format => none

/-- Whether an argument behind a flag can be its value. -/
def isValue (arg : String) : Bool := arg = "-" || !arg.startsWith "-"

/-- Reads the flags of a command that allows the given ones. `pending` is a flag whose value comes next. -/
def readFrom? (allowed : List Flag) : Option Flag → Flags → List String → Option Flags
  | none, flags, [] => some flags
  | some _, _, [] => none
  | some flag, flags, value :: rest =>
      if isValue value then
        (flags.setValue? flag value).bind fun flags => readFrom? allowed none flags rest
      else none
  | none, flags, arg :: rest =>
      if arg = "--" then if rest.isEmpty then some flags else none
      else match Flag.ofArgument? arg with
        | none => none
        | some (flag, value) =>
            if !allowed.contains flag then none
            else match flag.takesValue, value with
              | true, none => readFrom? allowed (some flag) flags rest
              | true, some value =>
                  (flags.setValue? flag value).bind fun flags => readFrom? allowed none flags rest
              | false, none => (flags.set? flag).bind fun flags => readFrom? allowed none flags rest
              | false, some _ => none

/-- Reads the flags of a command that allows the given ones. -/
def read? (allowed : List Flag) (args : List String) : Option Flags :=
  readFrom? allowed none {} args

end Flags

/-! ## Arguments -/

/-- The command that arguments say. -/
def ofArguments? : List String → Option Command
  | "--version" :: _ | "-V" :: _ => some .version
  | "init" :: args => (Flags.read? [.force] args).map fun flags => .init flags.force
  | "validate" :: args => (Flags.read? [.input] args).map fun flags => .validate flags.input
  | "inspect" :: args =>
      (Flags.read? [.input, .format, .summary] args).map fun flags =>
        .inspect flags.input (flags.format.getD .yaml) flags.summary
  | _ => none

end Command

end OpenApi
