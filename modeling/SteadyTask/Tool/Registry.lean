import SteadyTask.Json.Printer

/-!
# Tools

A tool has a name, a description for the routing model, and a schema of its arguments.  Of two
tools registered under one name the later counts, and tools are listed by name.
-/

namespace SteadyTask.Tool

/-- Who does the work of a tool. -/
inductive Worker where
  /-- The text that comes with the call. -/
  | echo
  /-- The shared sensors. -/
  | metrics
  /-- A tool from outside. -/
  | installed
  deriving Repr, DecidableEq, Inhabited

/-- A tool. -/
structure Spec where
  name : String
  description : String
  parameters : Json.Value
  worker : Worker
  deriving Repr, Inhabited

/-- The schema of arguments of any form. -/
def anyParameters : Json.Value :=
  .ofFields [("type", .str "object"), ("properties", .obj []), ("required", .arr [])]

/-- The tool that gives back its text. -/
def echo : Spec where
  name := "echo"
  description := "Echo text back. Args: \x7b\"text\": \"message\"\x7d"
  parameters :=
    .ofFields [("type", .str "object"),
      ("properties", .ofFields [("text", .ofFields [("type", .str "string")])]),
      ("required", .arr [.str "text"])]
  worker := .echo

/-- The tool that reports the sensors. -/
def systemMetrics : Spec where
  name := "system_metrics"
  description := "Report current CPU, memory and accelerator utilization (percent). " ++
    "Args: \x7b\"group\": \"host\" | \"accelerator\" | \"all\"\x7d"
  parameters :=
    .ofFields [("type", .str "object"),
      ("properties", .ofFields [("group", .ofFields
        [("type", .str "string"),
          ("enum", .arr [.str "host", .str "accelerator", .str "all"])])]),
      ("required", .arr [])]
  worker := .metrics

/-- Tools, sorted by name. -/
abbrev Registry := List Spec

namespace Registry

/-- Registers a tool. -/
def register (tool : Spec) : Registry → Registry
  | [] => [tool]
  | other :: rest =>
    if tool.name = other.name then tool :: rest
    else if tool.name < other.name then tool :: other :: rest
    else other :: register tool rest

/-- Registers tools, one after another. -/
def ofList (tools : List Spec) : Registry :=
  tools.foldl (fun registry tool => register tool registry) []

/-- The tool with a given name. -/
def get? (registry : Registry) (name : String) : Option Spec :=
  registry.find? fun tool => tool.name == name

/-- The names of all tools. -/
def names (registry : Registry) : List String :=
  registry.map Spec.name

/-- What the routing model is told about the tools. -/
def schemaText (registry : Registry) : String :=
  Json.pretty (.ofList (fun tool : Spec =>
    .ofFields [("name", .str tool.name), ("description", .str tool.description),
      ("parameters", tool.parameters)]) registry)

end Registry

end SteadyTask.Tool
