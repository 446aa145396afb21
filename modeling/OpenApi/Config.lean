import OpenApi.Options
import OpenApi.Yaml.Record

set_option autoImplicit false

/-! # Configuration of a project

A project says in a file of its own which document it works on, and with which options. Whatever the file
leaves out has its default. -/

namespace OpenApi

/-- The configuration of a project. -/
structure Config where
  /-- The file that holds the document. -/
  input : String := "openapi.yaml"
  options : Options := {}
  deriving DecidableEq, Repr, Inhabited

namespace Config

open Yaml (Anchors)

/-- The file that holds the configuration. -/
def fileName : String := ".oir.yaml"

/-- The configuration that a new project starts with: all the defaults, written out. -/
def defaultText : String := "\n".intercalate
  ["# oir configuration",
   "input: openapi.yaml",
   "languages: [typescript, python]",
   "",
   "naming:",
   "  strategy: use_operation_id  # use_operation_id | use_route_based",
   "",
   "validation:",
   "  # reject operations sharing an x-aws-nx-deduplicated-op-id",
   "  verify_deduplicated_operation_ids: true",
   ""]

/-- The fields about names. -/
def namingField? (a : Anchors) : String → Option (Anchors.Field Options)
  | "strategy" => some fun outer path n o => do
      pure { o with naming := ← a.choice NamingStrategy.all NamingStrategy.name outer path n }
  | _ => none

/-- The fields about extra checks. -/
def validationField? (a : Anchors) : String → Option (Anchors.Field Options)
  | "verify_deduplicated_operation_ids" => some fun _ path n o => do
      pure { o with verifyDeduplicatedIds := ← a.bool path n }
  | _ => none

/-- The fields of a configuration. -/
def field? (a : Anchors) : String → Option (Anchors.Field Config)
  | "input" => some fun _ path n c => do pure { c with input := ← a.text "a string" path n }
  | "languages" => some fun _ path n c => do
      let languages ← a.list (a.choice Language.all Language.name) path n
      pure { c with options := { c.options with languages := languages } }
  | "naming" => some fun _ path n c => do
      pure { c with options := ← a.record "NamingConfig" (namingField? a) path n c.options }
  | "validation" => some fun _ path n c => do
      pure { c with options := ← a.record "ValidationConfig" (validationField? a) path n c.options }
  | _ => none

/-- The configuration that a text says. -/
def read (text : String) : Except Yaml.Error Config :=
  Yaml.read (fun a path n => a.record "OirConfig" (field? a) path n {}) text

end Config

end OpenApi
