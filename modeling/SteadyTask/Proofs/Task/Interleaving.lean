import SteadyTask.Mode.Controller
import SteadyTask.Proofs.Activity.Runs
import SteadyTask.Task.Execute

/-!
# Tasks that overlap

Any number of tasks run on one executor and share its mode controller.  In one step a task is
started, the controller is operated from outside, or a task is answered what it requested and goes
on to its next request.  The mode is answered as it is, and an evaluation changes it for all; every
other answer is left open, and so is the order of the steps.

Each task remembers its exchanges, each with the mode in which the task went on.
-/

namespace SteadyTask

namespace Task

open Activity (Exchange Reaches)

/-! ## Systems -/

/-- An exchange, and the mode in which the task went on. -/
structure Moment where
  exchange : Exchange
  mode : Mode

/-- A task that was started, what it has exchanged, and what is left of it. -/
structure Underway where
  trace : String
  request : String
  past : List Moment
  rest : Activity Context

/-- A mode controller and the tasks that share it. -/
structure System where
  controller : Mode.Controller
  tasks : List Underway

namespace System

/-- The controller after a request: an evaluation operates it. -/
def afterRequest (c : Mode.Controller) : Request → Mode.Controller
  | .evaluate summary => (c.evaluate summary).1
  | _ => c

/-- The mode is answered as it is. -/
def Fits (c : Mode.Controller) : (r : Request) → r.Answer → Prop
  | .mode, mode => mode = c.mode
  | _, _ => True

/-- One step of tasks on an executor. -/
inductive Step (x : Executor) : System → System → Prop
  /-- A request is executed. -/
  | start (c : Mode.Controller) (tasks : List Underway) (trace request : String) :
      Step x ⟨c, tasks⟩ ⟨c, tasks ++ [⟨trace, request, [], x.execute trace request⟩]⟩
  /-- The controller is operated from outside. -/
  | operate (c : Mode.Controller) (tasks : List Underway)
      (operation : Mode.Controller.Operation) :
      Step x ⟨c, tasks⟩ ⟨(c.perform operation).1, tasks⟩
  /-- A task is answered. -/
  | answer (c : Mode.Controller) (before after : List Underway) (trace request : String)
      (past : List Moment) {r : Request} {resume : r.Answer → Activity Context}
      (answer : r.Answer) (hFits : Fits c r answer) :
      Step x ⟨c, before ++ ⟨trace, request, past, .request r resume⟩ :: after⟩
        ⟨afterRequest c r, before ++ ⟨trace, request,
          past ++ [⟨⟨r, answer⟩, (afterRequest c r).mode⟩], resume answer⟩ :: after⟩

/-- What can be reached from a controller without tasks. -/
def Reachable (x : Executor) (c : Mode.Controller) (s : System) : Prop :=
  Relation.ReflTransGen (Step x) ⟨c, []⟩ s

/-! ## What holds of every task -/

/-- A task has made an initial part of its execution, and was answered the mode as it was. -/
structure Genuine (x : Executor) (t : Underway) : Prop where
  reaches : Reaches (x.execute t.trace t.request) (t.past.map Moment.exchange) t.rest
  modes : ∀ m ∈ t.past, m.exchange.request = .mode → m.exchange = ⟨.mode, m.mode⟩

variable {x : Executor}

theorem genuine_answer {c : Mode.Controller} {trace request : String} {past : List Moment}
    {r : Request} {resume : r.Answer → Activity Context} {answer : r.Answer}
    (hFits : Fits c r answer) (h : Genuine x ⟨trace, request, past, .request r resume⟩) :
    Genuine x ⟨trace, request, past ++ [⟨⟨r, answer⟩, (afterRequest c r).mode⟩],
      resume answer⟩ := by
  refine ⟨?_, ?_⟩
  · show Reaches _ (List.map Moment.exchange (past ++ [_])) _
    rw [List.map_append]
    exact h.reaches.answer answer
  · intro m hm hMode
    -- the moment that was added is the one to look at
    rcases List.mem_append.mp hm with hm | hm
    · exact h.modes m hm hMode
    · obtain rfl := List.mem_singleton.mp hm
      obtain rfl : r = .mode := hMode
      obtain rfl : answer = c.mode := hFits
      rfl

theorem genuine_step {s s' : System} (hStep : Step x s s') (h : ∀ t ∈ s.tasks, Genuine x t) :
    ∀ t ∈ s'.tasks, Genuine x t := by
  intro t ht
  -- only the task that was started or answered differs, and the controller is in no task
  cases hStep with
  | start c tasks trace request =>
      rcases List.mem_append.mp ht with ht | ht
      · exact h t ht
      · obtain rfl := List.mem_singleton.mp ht
        exact ⟨.refl _, fun m hm => (List.not_mem_nil hm).elim⟩
  | operate c tasks operation => exact h t ht
  | answer c before after trace request past answer hFits =>
      rcases List.mem_append.mp ht with ht | ht
      · exact h t (List.mem_append_left _ ht)
      · rcases List.mem_cons.mp ht with rfl | ht
        · exact genuine_answer hFits (h _ (by simp))
        · exact h t (List.mem_append_right _ (List.mem_cons_of_mem _ ht))

/-- In whatever order the steps come, every task is genuine. -/
theorem genuine_of_reachable {c : Mode.Controller} {s : System} (h : Reachable x c s) :
    ∀ t ∈ s.tasks, Genuine x t := by
  induction h with
  | refl =>
      intro t ht
      cases ht
  | tail _ hStep ih => exact genuine_step hStep ih

/-! ## A task alone -/

/-- An exchange that can be made while the controller stays as it is. -/
def Calm (c : Mode.Controller) (e : Exchange) : Prop :=
  Fits c e.request e.answer ∧ afterRequest c e.request = c

/-- A task alone can make all exchanges that leave the controller as it is. -/
theorem steps_of_reaches {c : Mode.Controller} {trace request : String} (past : List Moment)
    {rest rest' : Activity Context} {exchanges : List Exchange}
    (hCalm : ∀ e ∈ exchanges, Calm c e) (h : Reaches rest exchanges rest') :
    Relation.ReflTransGen (Step x) ⟨c, [⟨trace, request, past, rest⟩]⟩
      ⟨c, [⟨trace, request, past ++ exchanges.map (Moment.mk · c.mode), rest'⟩]⟩ := by
  induction h generalizing past with
  | refl rest =>
      rw [List.map_nil, List.append_nil]
  | @request r resume answer exchanges rest' h ih =>
      obtain ⟨hFits, hSame⟩ := hCalm _ (List.mem_cons_self ..)
      have hStep : Step x ⟨c, [⟨trace, request, past, .request r resume⟩]⟩ ⟨afterRequest c r,
          [⟨trace, request, past ++ [⟨⟨r, answer⟩, (afterRequest c r).mode⟩], resume answer⟩]⟩ :=
        .answer c [] [] trace request past answer hFits
      rw [show afterRequest c r = c from hSame] at hStep
      refine .head hStep ?_
      have hRest := ih (past ++ [⟨⟨r, answer⟩, c.mode⟩])
        (fun e he => hCalm e (List.mem_cons_of_mem _ he))
      rw [List.append_assoc] at hRest
      exact hRest

end System

end Task

end SteadyTask
