import SteadyTask.Config.Load
import SteadyTask.Llm.Selection
import SteadyTask.Llm.Usage
import SteadyTask.Simulation.Run
import SteadyTask.Task.Execute

/-!
# The command line

The arguments together are one request.  It is executed with the settings that the surroundings
give, the reply is printed, and after it a line with the outcome.  This module says what is printed
and which records are kept, given everything that the program finds around it.
-/

namespace SteadyTask.CommandLine

/-- What the program finds around it. -/
structure Surroundings where
  environment : List (String × String)
  folder : Storage.Folder
  place : Storage.Place
  trace : String
  start : Timestamp
  deriving Inhabited

/-- What the program does. -/
structure Report where
  exitCode : Nat
  output : List String
  errors : List String
  store : Option Storage.Path
  records : List Reflection.Entry
  deriving Inhabited

/-- The variable that names a file with settings. -/
def fileVariable : String := "HOMEOSTAT_CONFIG"

/-- How the program is used. -/
def usage : String := "usage: homeostat <request...>"

/-- The report of a program that does nothing. -/
def failed (message : String) : Report :=
  ⟨1, [], ["Error: " ++ message], none, []⟩

/-- The client that a selection means.  Services are not within reach of this program. -/
def clientFor : Llm.Selection → Llm.Client
  | .echoing => .echoing
  | .deepSeek _ | .compatible _ =>
    .scripted [] (.fail (.connection "no connection to the model service"))

/-- The name of the only client. -/
def clientName : String := "llm"

/-- The tools that there are. -/
def registry : Tool.Registry :=
  .ofList [Tool.echo, Tool.systemMetrics]

/-- The executor that settings mean. -/
def executor (settings : Config.Settings) : Task.Executor where
  router := .planner clientName (Route.instructions ++ registry.schemaText)
  delegate := clientName
  registry := registry
  governance := .byMode
  recovery := settings.calls.recovery

/-- The world in which the request is executed. -/
def world (settings : Config.Settings) (s : Surroundings) : Simulation.World :=
  { Simulation.World.start .calm settings.caching.ttl settings.caching.pollTimeout settings.mode
      settings.sampling.options ⟨settings.reflecting.plan, clientName, s.start⟩ with
    clients := [(clientName, clientFor (.ofVariables settings.backend s.environment))] }

/-- Executes a request and waits for the reflection on it. -/
def work (settings : Config.Settings) (trace request : String) : Activity Task.Context := do
  let c ← (executor settings).execute trace request
  Activity.perform .awaitReflections
  return c

/-- The line with the outcome. -/
def outcomeLine (trace : String) (c : Task.Context) (w : Simulation.World) (used : Llm.Usage) :
    String :=
  "[trace " ++ trace ++ "] state=" ++ c.state.name ++ " mode=" ++ w.controller.mode.name ++
    " cache_hit_rate=" ++ Decimal.fixedText 2 w.cache.stats.hitRate ++
    " tokens=" ++ toString used.prompt ++ "/" ++ toString used.completion ++ "/" ++
    toString used.total

/-- What is printed of a task that has ended: its reply, or why there is none. -/
def replyLines (c : Task.Context) : List String × List String :=
  match c.reply, c.failure with
  | some reply, _ => ([reply], [])
  | none, some f => ([], ["error: " ++ f.text])
  | none, none => ([], ["error: task ended without a reply"])

/-- Runs the program. -/
def run (args : List String) (s : Surroundings) : Report :=
  let request := Text.join " " args
  if Text.isAllBlank request then failed usage
  else
    match Config.load s.folder s.place (s.environment.lookup fileVariable) s.environment with
    | .error _ => failed "Failed to load config"
    | .ok settings =>
      match (world settings s).run (work settings s.trace request) with
      | (_, none) => failed "the request was never answered"
      | (w, some c) =>
        let (output, errors) := replyLines c
        { exitCode := 0
          output := output ++ [outcomeLine s.trace c w .none]
          errors := errors
          store := settings.reflecting.storePath.map s.place.path
          records := w.records.map Reflection.Generated.entry }

end SteadyTask.CommandLine
