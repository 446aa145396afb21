import OpenApi.CodeGen.Build
import OpenApi.CodeGen.Written
import OpenApi.CommandLine.Command
import OpenApi.CommandLine.Directory
import OpenApi.Config
import OpenApi.Document.Reading
import OpenApi.Yaml.Printer

set_option autoImplicit false

/-! # Running commands

A run reads files, and its `Outcome` says everything that it does beside. How files are read is left open:
`run` works with every way to do it, from a directory in memory or from a disk. -/

namespace OpenApi

/-- What a run does. -/
structure Outcome where
  /-- Zero after a success. -/
  exit : Nat := 0
  stdout : String := ""
  stderr : String := ""
  /-- The files that it writes, with their texts. -/
  written : Entries String := []
  deriving Repr, Inhabited

/-! ## Failures -/

/-- Why a command fails: what could not be done, and the causes, each that of the one before. -/
structure Failure where
  what : String
  causes : List String := []
  deriving Repr

namespace Failure

/-- A cause behind the text that starts its lines. -/
def indented (first others cause : String) : String :=
  first ++ ("\n" ++ others).intercalate (cause.splitOn "\n")

/-- The causes from a number on. -/
def numbered : Nat → List String → List String
  | _, [] => []
  | i, cause :: causes =>
      indented ("    " ++ toString i ++ ": ") "       " cause :: numbered (i + 1) causes

/-- The causes as they are printed: a single one without a number. -/
def causeLines : List String → List String
  | [] => []
  | [cause] => ["", "Caused by:", indented "    " "    " cause]
  | causes => "" :: "Caused by:" :: numbered 0 causes

/-- The text of a failure. -/
def text (f : Failure) : String :=
  "\n".intercalate (("Error: " ++ f.what) :: causeLines f.causes) ++ "\n"

/-- A failed run. -/
def outcome (f : Failure) : Outcome := { exit := 1, stderr := f.text }

end Failure

/-- A parse error and its causes. -/
def ParseError.chain (e : ParseError) : List String :=
  match e with
  | .yaml cause => [e.message, cause.message]
  | .shape cause => [e.message, cause.message]
  | e => [e.message]

/-- A build error and its causes. -/
def BuildError.chain (e : BuildError) : List String :=
  match e with
  | .resolve cause => [e.message, cause.message]
  | e => [e.message]

namespace Command

/-! ## Documents -/

/-- The last name on a path. -/
def lastName? (path : String) : Option String :=
  ((Directory.names path).filter fun name => name ≠ "" && name ≠ ".").getLast?

/-- What stands behind the last dot of a name, if there is something before it. -/
def extensionOf? (name : String) : Option String :=
  if name = ".." then none
  else
    let rev := name.toList.reverse
    match rev.dropWhile (· ≠ '.') with
    | _ :: _ :: _ => some (String.ofList (rev.takeWhile (· ≠ '.')).reverse)
    | _ => none

/-- The document in the text of a file. Only names that end in `.json` mean JSON. -/
def documentOf (path text : String) : Except ParseError Document :=
  if (lastName? path).bind extensionOf? = some "json" then (Document.ofJsonText text).value
  else (Document.ofYamlText text).value

section

variable {m : Type → Type} [Monad m] (read : String → m (Except ReadError String))

/-- The configuration of the project, or the defaults where there is none. -/
def config : ExceptT Failure m Config := do
  match ← read Config.fileName with
  | .ok text => match Config.read text with
    | .ok config => pure config
    | .error e =>
        throw { what := "failed to parse config " ++ Config.fileName ++ ": " ++ e.message }
  | .error .notFound => pure {}
  | .error e =>
      throw { what := "failed to read config " ++ Config.fileName ++ ": " ++ e.message }

/-- A document and its data. -/
def load (input : Option String) : ExceptT Failure m (Document × CodeGenData) := do
  let config ← config read
  let path := input.getD config.input
  match ← read path with
  | .error e => throw { what := "failed to read " ++ path, causes := [e.message] }
  | .ok text => match documentOf path text with
    | .error e => throw { what := "failed to parse " ++ path, causes := e.chain }
    | .ok document => match (document.codeGenData config.options).value with
      | .error e => throw { what := "failed to build IR for " ++ path, causes := e.chain }
      | .ok data => pure (document, data)

/-! ## Commands -/

/-- What is said about a valid document. -/
def report (document : Document) (data : CodeGenData) : List String :=
  ["Valid OpenAPI " ++ document.openapi ++ " spec: " ++ document.info.title,
   "  Version: " ++ document.info.version,
   "  Paths: " ++ toString document.paths.length]
    ++ (document.components.map fun c => "  Schemas: " ++ toString c.schemas.length).toList
    ++ ["  Models: " ++ toString data.models.size,
        "  Operations: " ++ toString data.operations.length,
        "  Services: " ++ toString data.services.length,
        "Validation successful."]

/-- A value in a format. -/
def printed (format : OutputFormat) (v : Json) : String :=
  match format with
  | .yaml => v.yaml
  | .json => v.pretty ++ "\n"

/-- Starts a project. -/
def start (force : Bool) : ExceptT Failure m Outcome := do
  match ← read Config.fileName with
  | .error .isDirectory =>
      if force then
        throw { what := "failed to write " ++ Config.fileName,
                causes := [ReadError.isDirectory.message] }
      else throw taken
  | .error .notFound => pure created
  | _ => if force then pure created else throw taken
where
  taken : Failure :=
    { what := Config.fileName ++ " already exists. Use --force to overwrite." }
  created : Outcome :=
    { stderr := "Created " ++ Config.fileName ++ "\n"
      written := [(Config.fileName, Config.defaultText)] }

/-- Runs a command. -/
def run : Command → ExceptT Failure m Outcome
  | .version => pure { stdout := "oir 0.4.0\n" }
  | .init force => start read force
  | .validate input => do
      let (document, data) ← load read input
      pure { stderr := String.join ((report document data).map (· ++ "\n")) }
  | .inspect input format summary => do
      let (_, data) ← load read input
      pure { stdout := printed format (if summary then data.summary else data.toJson) }

end

end Command

/-- What is said about arguments that are no command. -/
def usage : String :=
  "Usage: oir <COMMAND>\n\nCommands:\n  inspect   [-i <FILE>] [--format yaml|json] [--summary]\n"
    ++ "  validate  [-i <FILE>]\n  init      [--force]\n"

/-- Runs the command that arguments say. -/
def run {m : Type → Type} [Monad m] (read : String → m (Except ReadError String))
    (args : List String) : m Outcome :=
  match Command.ofArguments? args with
  | none => pure { exit := 2, stderr := usage }
  | some command => do
      match ← (command.run read).run with
      | .ok outcome => pure outcome
      | .error failure => pure failure.outcome

end OpenApi
