import SteadyTask.Llm.Message
import SteadyTask.Reflection.Entry
import SteadyTask.Route.Basic
import SteadyTask.Sensor.Basic

/-!
# Activities

What runs in the course of a task (a call with its retries, a tool, a whole task, a reflection) is
an activity: it makes requests of its surroundings one after another and goes on with each answer,
until it returns.  An activity says nothing about how long an answer takes, what else goes on
meanwhile, or where answers come from; so what holds for every possible answer holds in every
surrounding.
-/

namespace SteadyTask

/-- How something with a time limit ends. -/
inductive Outcome (ε α : Type) where
  | value (a : α)
  | error (e : ε)
  | overdue
  | panicked (p : Panic)
  deriving Repr, Inhabited

/-- What an activity can ask of its surroundings. -/
inductive Request where
  /-- A model's answer to a conversation. -/
  | ask (client : String) (messages : List Llm.Message) (limit : Option Millis)
  /-- A route from the installed router. -/
  | consult (limit : Millis)
  /-- A reply of an installed tool. -/
  | useTool (tool : String) (args : Json.Value) (limit : Millis)
  /-- A group of sensors, through the cache. -/
  | read (group : Sensor.Group) (deadline : Option Millis)
  /-- Several groups at the same time. -/
  | readAll (groups : List Sensor.Group)
  /-- That the cache forgets a group. -/
  | forget (group : Sensor.Group)
  /-- The time. -/
  | now
  /-- The mode. -/
  | mode
  /-- That a time passes. -/
  | pause (duration : Millis)
  /-- A monitor that samples from now on. -/
  | startMonitor
  /-- That a monitor stops, and its summary. -/
  | stopMonitor (monitor : Nat)
  /-- That the mode is evaluated on a summary. -/
  | evaluate (summary : Metric.Summary)
  /-- That a task is reflected on in the background. -/
  | reflect (input : Reflection.Input)
  /-- That all reflections have ended. -/
  | awaitReflections

namespace Request

/-- The type of the answer to a request. -/
def Answer : Request → Type
  | .ask _ _ _ => Outcome CallError String
  | .consult _ => Outcome CallError Route
  | .useTool _ _ _ => Outcome CallError String
  | .read _ _ => Outcome Sensor.Fault Metric.Values
  | .readAll _ => List (Outcome Sensor.Fault Metric.Values)
  | .forget _ => Unit
  | .now => Millis
  | .mode => Mode
  | .pause _ => Unit
  | .startMonitor => Nat
  | .stopMonitor _ => Metric.Summary
  | .evaluate _ => Unit
  | .reflect _ => Unit
  | .awaitReflections => Unit

end Request

/-- Something that makes requests one after another and returns in the end. -/
inductive Activity (α : Type) where
  | done (a : α)
  | request (r : Request) (resume : r.Answer → Activity α)

namespace Activity

/-- An activity followed by another. -/
def bind {α β : Type} (x : Activity α) (f : α → Activity β) : Activity β :=
  match x with
  | .done a => f a
  | .request r resume => .request r fun answer => (resume answer).bind f

instance : Monad Activity where
  pure := .done
  bind := Activity.bind

/-- Makes one request and returns its answer. -/
def perform (r : Request) : Activity r.Answer :=
  .request r .done

theorem bind_done {α β : Type} (a : α) (f : α → Activity β) :
    (Activity.done a).bind f = f a := rfl

theorem bind_assoc {α β γ : Type} (x : Activity α) (f : α → Activity β) (g : β → Activity γ) :
    (x.bind f).bind g = x.bind fun a => (f a).bind g := by
  induction x with
  | done a => rfl
  | request r resume ih =>
    simp only [Activity.bind]
    congr 1
    funext answer
    exact ih answer

/-- A request that was answered. -/
structure Exchange where
  request : Request
  answer : request.Answer

/-- The activity can make these exchanges and return this result. -/
inductive Runs {α : Type} : Activity α → List Exchange → α → Prop where
  | done (a : α) : Runs (.done a) [] a
  | request {r : Request} {resume : r.Answer → Activity α} (answer : r.Answer)
      {exchanges : List Exchange} {a : α} (rest : Runs (resume answer) exchanges a) :
      Runs (.request r resume) (⟨r, answer⟩ :: exchanges) a

end Activity

end SteadyTask
