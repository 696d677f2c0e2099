import SteadyTask.Json.Printer

/-!
# The schema of a narrative

The JSON schema that a model is asked to conform to.  The order of its keywords is part of the
text, so it is written as fields in this order and not as a sorted object.
-/

namespace SteadyTask.Narrative

/-- The schema of an optional text. -/
def optionalTextSchema (description : String) : Json.Value :=
  .obj [("description", .str description), ("default", .null),
    ("type", .arr [.str "string", .str "null"])]

/-- The schema of a narrative. -/
def schema : Json.Value :=
  .obj
    [("$schema", .str "http://json-schema.org/draft-07/schema#"),
      ("title", .str "NarrativeFields"),
      ("description", .str "模型需要产出的叙述字段（不含任何数值字段）"),
      ("type", .str "object"),
      ("required", .arr [.str "rationale"]),
      ("properties", .obj
        [("impact", optionalTextSchema "可选：该改进的预期影响"),
          ("proposed_change", optionalTextSchema "可选：下一次可以改进的地方"),
          ("rationale", .obj
            [("description", .str "一到三句话说明本次执行为何如此展开、结果如何"),
              ("type", .str "string")])]),
      ("additionalProperties", .bool false)]

/-- The schema as text. -/
def schemaText : String :=
  Json.pretty schema

end SteadyTask.Narrative
