import SteadyTask.Proofs.Mode.Steps
import SteadyTask.Proofs.Task.Calls
import SteadyTask.Proofs.Task.Finish
import SteadyTask.Proofs.Task.Interleaving

/-!
# What the tasks of an executor do to its mode controller

While tasks overlap, every operation on the controller that they share is entered into a log, in the
order in which they take place: an evaluation with the task that requests it, an operation from
outside without a task.  The controller is always what the logged operations make of the one at the
start.

However a task ends, the log has one entry of it, the evaluation of the summary that the task
returns.  Work makes no entries, so none can be lost or repeated by the way it ends.
-/

namespace SteadyTask

namespace Task

open Activity (Exchange Reaches Runs)

/-! ## The evaluation of one task -/

namespace Executor

variable {x : Executor}

/-- What is requested in the course of work: calls, and the mode. -/
def IsWorking (r : Request) : Prop :=
  r.IsCalling ∨ r = .mode

theorem isWorking_of_isCalling (r : Request) (h : r.IsCalling) : IsWorking r :=
  .inl h

/-- A call with its retries is work. -/
theorem only_retry {α : Type} {kind : CallKind} {call : Activity (Outcome CallError α)}
    (hCall : call.Only Request.IsCalling) : (retry x.recovery kind call).Only IsWorking :=
  only_retryFrom (hCall.mono isWorking_of_isCalling) (fun _ => .inl trivial) 0

theorem only_carryOut (route : Route) : (x.carryOut route).Only IsWorking := by
  cases route with
  | handleDirect reply => exact trivial
  | toolCall tool args =>
      exact only_ifPermitted (.inr rfl) (only_retry (x.only_callToolOnce tool args))
  | modelDelegate prompt =>
      exact only_ifPermitted (.inr rfl) (only_retry (x.only_delegateOnce prompt))

/-- Work makes calls and asks for the mode. -/
theorem only_work (request : String) (c : Context) : (x.work request c).Only IsWorking := by
  refine Activity.Only.bind (only_retry (x.only_routeOnce request)) fun routed => ?_
  cases routed with
  | failed f => exact trivial
  | panicked p => exact trivial
  | value route => exact (only_carryOut route).bind fun ending => trivial

/-- Work that comes to an end makes the task return, whatever the monitor has measured. -/
theorem runs_execute_of_runs_work {request : String} {working : List Exchange}
    {worked : Context} {ending : Ending String}
    (h : Runs (x.work request Context.start) working (worked, ending)) (trace : String)
    (monitor : Nat) (summary : Metric.Summary) (mode : Mode) :
    Runs (x.execute trace request)
      (⟨.startMonitor, monitor⟩ :: (working ++
        [⟨.stopMonitor monitor, summary⟩, ⟨.evaluate summary, ()⟩, ⟨.mode, mode⟩,
          ⟨.reflect (.ofContext trace request (close worked ending) mode summary), ()⟩]))
      { close worked ending with summary := some summary } := by
  refine .request (r := .startMonitor) monitor (h.bind ?_)
  refine .request (r := .stopMonitor monitor) summary (.request (r := .evaluate summary) () ?_)
  exact .request (r := .mode) mode (.request (r := .reflect _) () (.done _))

end Executor

/-! ## The log -/

namespace System

variable {x : Executor}

/-- An operation on the controller, and the task that it is part of. -/
structure Entry where
  task : Option Nat
  operation : Mode.Controller.Operation

/-- What a request of a task enters. -/
def entries (i : Nat) : Request → List Entry
  | .evaluate summary => [⟨some i, .evaluate summary⟩]
  | _ => []

theorem task_of_mem_entries {i : Nat} {r : Request} {e : Entry} (h : e ∈ entries i r) :
    e.task = some i := by
  cases r with
  | evaluate summary =>
      obtain rfl := List.mem_singleton.mp h
      rfl
  | _ => cases h

theorem entries_of_isWorking {i : Nat} {r : Request} (h : Executor.IsWorking r) :
    entries i r = [] := by
  rcases h with h | rfl
  · cases r with
    | evaluate summary => exact h.elim
    | _ => rfl
  · rfl

/-- The entries of a request do to the controller what the request does. -/
theorem run_entries (c : Mode.Controller) (i : Nat) (r : Request) :
    c.run ((entries i r).map Entry.operation) = afterRequest c r := by
  cases r <;> rfl

/-- What was done to an executor from a controller on, with the log of it. -/
inductive History (x : Executor) (c : Mode.Controller) : List Entry → System → Prop
  /-- Nothing was done. -/
  | nothing : History x c [] ⟨c, []⟩
  /-- A request is executed. -/
  | start {log : List Entry} {d : Mode.Controller} {tasks : List Underway}
      (h : History x c log ⟨d, tasks⟩) (trace request : String) :
      History x c log ⟨d, tasks ++ [⟨trace, request, [], x.execute trace request⟩]⟩
  /-- The controller is operated from outside. -/
  | operate {log : List Entry} {d : Mode.Controller} {tasks : List Underway}
      (h : History x c log ⟨d, tasks⟩) (operation : Mode.Controller.Operation) :
      History x c (log ++ [⟨none, operation⟩]) ⟨(d.perform operation).1, tasks⟩
  /-- A task is answered. -/
  | answer {log : List Entry} {d : Mode.Controller} {before after : List Underway}
      {trace request : String} {past : List Moment} {r : Request}
      {resume : r.Answer → Activity Context}
      (h : History x c log ⟨d, before ++ ⟨trace, request, past, .request r resume⟩ :: after⟩)
      (answer : r.Answer) (hFits : Fits d r answer) :
      History x c (log ++ entries before.length r) ⟨afterRequest d r,
        before ++ ⟨trace, request, past ++ [⟨⟨r, answer⟩, (afterRequest d r).mode⟩],
          resume answer⟩ :: after⟩

/-- Whatever can be reached has a history, and nothing else has. -/
theorem reachable_iff_history {c : Mode.Controller} {s : System} :
    Reachable x c s ↔ ∃ log, History x c log s := by
  constructor
  · intro h
    induction h with
    | refl => exact ⟨[], .nothing⟩
    | tail _ hStep ih =>
        obtain ⟨log, hLog⟩ := ih
        cases hStep with
        | start d tasks trace request => exact ⟨log, hLog.start trace request⟩
        | operate d tasks operation => exact ⟨_, hLog.operate operation⟩
        | answer d before after trace request past answer hFits =>
            exact ⟨_, hLog.answer answer hFits⟩
  · rintro ⟨log, h⟩
    induction h with
    | nothing => exact .refl
    | start _ trace request ih => exact ih.tail (.start _ _ trace request)
    | operate _ operation ih => exact ih.tail (.operate _ _ operation)
    | answer _ answer hFits ih => exact ih.tail (.answer _ _ _ _ _ _ answer hFits)

/-! ## What the log accounts for -/

/-- The entries of one task. -/
def entriesOf (i : Nat) (log : List Entry) : List Entry :=
  log.filter fun e => e.task = some i

theorem entriesOf_append (i : Nat) (log others : List Entry) :
    entriesOf i (log ++ others) = entriesOf i log ++ entriesOf i others :=
  List.filter_append ..

theorem entriesOf_entries_self (i : Nat) (r : Request) : entriesOf i (entries i r) = entries i r :=
  List.filter_eq_self.mpr fun _ he => by simp [task_of_mem_entries he]

theorem entriesOf_entries_of_ne {i j : Nat} (h : j ≠ i) (r : Request) :
    entriesOf i (entries j r) = [] :=
  List.filter_eq_nil_iff.mpr fun _ he => by simp [task_of_mem_entries he, h]

/-- A log accounts for what became of a controller, and for what tasks have requested. -/
structure Accounts (c : Mode.Controller) (log : List Entry) (s : System) : Prop where
  controller : s.controller = c.run (log.map Entry.operation)
  requested : ∀ i t, s.tasks[i]? = some t →
    entriesOf i log = t.past.flatMap fun m => entries i m.exchange.request
  nobody : ∀ i, s.tasks.length ≤ i → entriesOf i log = []

namespace Accounts

variable {c d : Mode.Controller} {log : List Entry} {tasks : List Underway}

theorem nothing (c : Mode.Controller) : Accounts c [] ⟨c, []⟩ :=
  ⟨rfl, nofun, fun _ _ => rfl⟩

/-- A task that was just started has requested nothing, and there is no entry of it. -/
theorem start (h : Accounts c log ⟨d, tasks⟩) (trace request : String)
    (rest : Activity Context) : Accounts c log ⟨d, tasks ++ [⟨trace, request, [], rest⟩]⟩ := by
  refine ⟨h.controller, ?_, ?_⟩
  · intro i t hTask
    rcases Nat.lt_trichotomy i tasks.length with hLess | rfl | hMore
    · rw [List.getElem?_append_left hLess] at hTask
      exact h.requested i t hTask
    · rw [List.getElem?_concat_length] at hTask
      cases hTask
      exact h.nobody _ (Nat.le_refl _)
    · rw [List.getElem?_eq_none (by simpa using hMore)] at hTask
      cases hTask
  · intro i hLength
    rw [List.length_append] at hLength
    exact h.nobody i (Nat.le_of_add_right_le hLength)

/-- An operation from outside is no entry of any task. -/
theorem operate (h : Accounts c log ⟨d, tasks⟩) (operation : Mode.Controller.Operation) :
    Accounts c (log ++ [⟨none, operation⟩]) ⟨(d.perform operation).1, tasks⟩ := by
  have hSame (i : Nat) : entriesOf i (log ++ [⟨none, operation⟩]) = entriesOf i log := by
    rw [entriesOf_append]
    exact List.append_nil _
  refine ⟨?_, ?_, ?_⟩
  · show _ = c.run _
    rw [List.map_append, Mode.Controller.run_append, ← h.controller]
    rfl
  · intro i t hTask
    rw [hSame]
    exact h.requested i t hTask
  · intro i hLength
    rw [hSame]
    exact h.nobody i hLength

theorem getElem?_of_ne {before after : List Underway} {t t' : Underway} {i : Nat}
    (h : before.length ≠ i) : (before ++ t :: after)[i]? = (before ++ t' :: after)[i]? := by
  rcases Nat.lt_or_gt_of_ne h with hMore | hLess
  · obtain ⟨k, rfl⟩ := Nat.exists_eq_add_of_lt hMore
    rw [List.getElem?_append_right (by omega), List.getElem?_append_right (by omega),
      show before.length + k + 1 - before.length = k + 1 by omega, List.getElem?_cons_succ,
      List.getElem?_cons_succ]
  · rw [List.getElem?_append_left hLess, List.getElem?_append_left hLess]

/-- What a task requests is entered as its own. -/
theorem answer {before after : List Underway} {trace request : String} {past : List Moment}
    {r : Request} {rest : Activity Context}
    (h : Accounts c log ⟨d, before ++ ⟨trace, request, past, rest⟩ :: after⟩) (m : Moment)
    (rest' : Activity Context) (hRequest : m.exchange.request = r) :
    Accounts c (log ++ entries before.length r)
      ⟨afterRequest d r, before ++ ⟨trace, request, past ++ [m], rest'⟩ :: after⟩ := by
  refine ⟨?_, ?_, ?_⟩
  · show _ = c.run _
    rw [List.map_append, Mode.Controller.run_append, ← h.controller, run_entries]
  · intro i t hTask
    rw [entriesOf_append]
    by_cases hSelf : before.length = i
    · subst hSelf
      have hOld := h.requested before.length ⟨trace, request, past, rest⟩ (by simp)
      rw [List.getElem?_append_right (Nat.le_refl _), Nat.sub_self] at hTask
      cases hTask
      rw [entriesOf_entries_self, List.flatMap_append, hOld, List.flatMap_singleton, hRequest]
    · rw [entriesOf_entries_of_ne hSelf, List.append_nil]
      refine h.requested i t ?_
      rw [← hTask]
      exact getElem?_of_ne hSelf
  · intro i hLength
    have hMore : before.length ≠ i := by
      simp only [List.length_append, List.length_cons] at hLength
      omega
    rw [entriesOf_append, entriesOf_entries_of_ne hMore, List.append_nil]
    exact h.nobody i (by simpa using hLength)

end Accounts

/-- In every history the log accounts for all that was done. -/
theorem History.accounts {c : Mode.Controller} {log : List Entry} {s : System}
    (h : History x c log s) : Accounts c log s := by
  induction h with
  | nothing => exact .nothing c
  | start _ trace request ih => exact ih.start trace request _
  | operate _ operation ih => exact ih.operate operation
  | answer _ answer _ ih => exact ih.answer _ _ rfl

/-! ## A task among others -/

/-- The controller after exchanges of a task. -/
def afterExchanges (c : Mode.Controller) (exchanges : List Exchange) : Mode.Controller :=
  exchanges.foldl (fun c e => afterRequest c e.request) c

/-- The exchanges can follow one another without anything between them. -/
def AllFit (c : Mode.Controller) : List Exchange → Prop
  | [] => True
  | e :: rest => Fits c e.request e.answer ∧ AllFit (afterRequest c e.request) rest

/-- A task among others can make all exchanges that follow one another. -/
theorem History.answers {c d : Mode.Controller} {log : List Entry} (before after : List Underway)
    {trace request : String} {past : List Moment} {rest rest' : Activity Context}
    {exchanges : List Exchange}
    (h : History x c log ⟨d, before ++ ⟨trace, request, past, rest⟩ :: after⟩)
    (hReaches : Reaches rest exchanges rest') (hFits : AllFit d exchanges) :
    ∃ past', History x c (log ++ exchanges.flatMap fun e => entries before.length e.request)
      ⟨afterExchanges d exchanges, before ++ ⟨trace, request, past', rest'⟩ :: after⟩ := by
  induction hReaches generalizing d log past with
  | refl rest =>
      rw [List.flatMap_nil, List.append_nil]
      exact ⟨past, h⟩
  | @request r resume answer exchanges rest' _ ih =>
      obtain ⟨past', hRest⟩ := ih (h.answer answer hFits.1) hFits.2
      rw [List.append_assoc] at hRest
      exact ⟨past', hRest⟩

/-! ## Tasks that have returned -/

/-- A task that has returned has requested one evaluation, of the summary that it returns. -/
theorem entries_of_runs {trace request : String} {exchanges : List Exchange} {context : Context}
    (h : Runs (x.execute trace request) exchanges context) (i : Nat) :
    ∃ summary, context.summary = some summary ∧
      exchanges.flatMap (fun e => entries i e.request) = [⟨some i, .evaluate summary⟩] := by
  obtain ⟨monitor, working, worked, ending, summary, mode, rfl, hWork, rfl⟩ :=
    Executor.runs_execute h
  have hNone : working.flatMap (fun e => entries i e.request) = [] :=
    List.flatMap_eq_nil_iff.mpr fun e he =>
      entries_of_isWorking ((Executor.only_work request Context.start).of_runs hWork e he)
  refine ⟨summary, rfl, ?_⟩
  rw [List.flatMap_cons, List.flatMap_append, hNone]
  rfl

/-- However tasks and operations from outside interleave, the controller is what the logged
operations make of it, and the log has one entry of each task that has returned: the evaluation of
the summary that the task returns. -/
theorem one_evaluation_per_task (x : Executor) (c : Mode.Controller) {log : List Entry}
    {s : System} (h : History x c log s) :
    s.controller = c.run (log.map Entry.operation) ∧
      (∀ i t, s.tasks[i]? = some t → ∀ context, t.rest = .done context →
        ∃ summary, context.summary = some summary ∧
          entriesOf i log = [⟨some i, .evaluate summary⟩]) ∧
      (∀ i, s.tasks.length ≤ i → entriesOf i log = []) := by
  have hAccounts := h.accounts
  refine ⟨hAccounts.controller, ?_, hAccounts.nobody⟩
  intro i t hTask context hDone
  have hGenuine := genuine_of_reachable (reachable_iff_history.mpr ⟨log, h⟩) t
    (List.mem_of_getElem? hTask)
  have hReaches := hGenuine.reaches
  rw [hDone] at hReaches
  obtain ⟨summary, hSummary, hEntries⟩ := entries_of_runs (Activity.reaches_done_iff.mp hReaches) i
  refine ⟨summary, hSummary, ?_⟩
  rw [hAccounts.requested i t hTask, ← hEntries, List.flatMap_map]

/-- An executor that asks its router once. -/
def askingOnce : Executor where
  router := .installed
  delegate := "delegate"
  registry := []
  governance := .byMode
  recovery := .make 500 30000 ⟨30000, 0⟩ ⟨60000, 0⟩

/-- Its work is routing alone if the route is a reply. -/
theorem runs_work_handleDirect (reply : String) : Runs (askingOnce.work "hello" Context.start)
    [⟨.consult 60000, Outcome.value (.handleDirect reply)⟩]
    ((Context.start.advance .handleDirect none).1, .value reply) := by
  unfold Executor.work
  rw [retry, retryFrom_eq]
  exact .request _ (.done _)

theorem runs_work_panicked (p : Panic) : Runs (askingOnce.work "hello" Context.start)
    [⟨.consult 60000, Outcome.panicked p⟩] (Context.start, .panicked p) := by
  unfold Executor.work
  rw [retry, retryFrom_eq]
  exact .request _ (.done _)

/-- A task is started first and returns last; in between another one is started and panics, and then
an intrusion is signalled. -/
theorem evaluations_around_intrusion :
    let log : List Entry := [⟨some 1, .evaluate (.empty 2.0)⟩,
      ⟨none, .signalCritical "intrusion" []⟩, ⟨some 0, .evaluate (.empty 1.0)⟩]
    ∃ (s : System) (completed panicked : Context),
      History askingOnce (.make default) log s ∧
        s.tasks.map Underway.rest = [.done completed, .done panicked] ∧
        completed.state = .completed ∧ panicked.state = .failed ∧
        s.controller = (Mode.Controller.make default).run (log.map Entry.operation) ∧
        (∃ summary, completed.summary = some summary ∧
          entriesOf 0 log = [⟨some 0, .evaluate summary⟩]) ∧
        (∃ summary, panicked.summary = some summary ∧
          entriesOf 1 log = [⟨some 1, .evaluate summary⟩]) := by
  intro log
  have hCompletes := Executor.runs_execute_of_runs_work (runs_work_handleDirect "hi") "first" 0
    (.empty 1.0) .lockdown
  have hPanics := Executor.runs_execute_of_runs_work (runs_work_panicked (.text "router")) "second"
    0 (.empty 2.0) .normal
  -- the first task is answered by its router before the second one is started
  let opening : List Exchange := [⟨.startMonitor, (0 : Nat)⟩,
    ⟨.consult 60000, Outcome.value (.handleDirect "hi")⟩]
  have hAll : Reaches (askingOnce.execute "first" "hello") (opening ++ _) (.done _) :=
    Activity.reaches_done_iff.mpr hCompletes
  obtain ⟨middle, hOpening, hClosing⟩ := Activity.reaches_append_iff.mp hAll
  have hStart : History askingOnce (.make default) [] ⟨.make default, [] ++ [⟨"first", "hello", [],
    askingOnce.execute "first" "hello"⟩]⟩ := History.nothing.start _ _
  obtain ⟨opened, hOpened⟩ := hStart.answers [] [] hOpening ⟨trivial, trivial, trivial⟩
  obtain ⟨failed, hFailed⟩ := (hOpened.start "second" "hello").answers [_] []
    (Activity.reaches_done_iff.mpr hPanics)
    ⟨trivial, trivial, trivial, trivial, rfl, trivial, trivial⟩
  obtain ⟨closed, hClosed⟩ := (hFailed.operate (.signalCritical "intrusion" [])).answers [] [_]
    hClosing ⟨trivial, trivial, rfl, trivial, trivial⟩
  obtain ⟨hController, hTasks, -⟩ := one_evaluation_per_task _ _ hClosed
  exact ⟨_, _, _, hClosed, rfl, rfl, rfl, hController, hTasks 0 _ rfl _ rfl, hTasks 1 _ rfl _ rfl⟩

end System

end Task

end SteadyTask
