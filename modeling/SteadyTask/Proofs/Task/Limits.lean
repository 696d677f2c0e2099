import SteadyTask.Proofs.Activity.Timed
import SteadyTask.Task.Execute

/-!
# Calls keep their limits

One attempt to route, to use a tool or to ask the delegate is cut off at the limit of its policy:
each hands the limit on to whoever it asks.  A report of the sensors asks several times and hands on
a deadline that it has read off the clock; there the clock has to reach as far as the limit, since a
deadline that it cannot count up to is replaced.
-/

namespace SteadyTask

open Activity

/-- The attempts of a call are cut off at the limit, if they start early enough. -/
def KeepsLimit {ε α : Type} (call : Activity (Outcome ε α)) (limit latest : Millis) : Prop :=
  ∀ start ≤ latest, ∀ timed outcome, TimedRuns call start timed outcome →
    outcome.CutAt limit (elapsed timed)

section KeepsLimit

variable {ε α β : Type} {limit latest : Millis}

theorem Outcome.CutAt.le {o : Outcome ε α} {took : Millis} (h : o.CutAt limit took) :
    took ≤ limit := by
  cases o with
  | overdue => exact Nat.le_of_eq h
  | _ => exact h

/-- A call that is over at once keeps every limit. -/
theorem keepsLimit_done {o : Outcome ε α} (hOver : o ≠ .overdue) :
    KeepsLimit (.done o) limit latest := by
  intro start _ timed outcome hRun
  obtain ⟨rfl, rfl⟩ := timedRuns_done_iff.mp hRun
  cases outcome with
  | overdue => exact absurd rfl hOver
  | _ => exact Nat.zero_le limit

/-- A request that names the limit keeps it. -/
theorem keepsLimit_request {r : Request} {f : r.Answer → Outcome ε α}
    (h : ∀ start took answer, r.Takes start took answer → (f answer).CutAt limit took) :
    KeepsLimit (.request r fun answer => .done (f answer)) limit latest := by
  intro start _ timed outcome hRun
  obtain ⟨answer, took, rest, rfl, hTakes, hRest⟩ := timedRuns_request_iff.mp hRun
  obtain ⟨rfl, rfl⟩ := timedRuns_done_iff.mp hRest
  rw [elapsed_cons, elapsed_nil, Nat.add_zero]
  exact h start took answer hTakes

theorem keepsLimit_ask {client : String} {messages : List Llm.Message} :
    KeepsLimit (perform (.ask client messages (some limit))) limit latest :=
  keepsLimit_request fun _ _ _ hTakes => hTakes

/-- What is made of an outcome keeps the limit as the outcome does. -/
theorem KeepsLimit.map {call : Activity (Outcome ε α)} {f : Outcome ε α → Outcome ε β}
    (hCall : KeepsLimit call limit latest)
    (h : ∀ o took, o.CutAt limit took → (f o).CutAt limit took) :
    KeepsLimit (call.bind fun o => .done (f o)) limit latest := by
  intro start hStart timed outcome hRun
  obtain ⟨first, o, second, rfl, hFirst, hSecond⟩ := timedRuns_bind_iff.mp hRun
  obtain ⟨rfl, rfl⟩ := timedRuns_done_iff.mp hSecond
  rw [List.append_nil]
  exact h o _ (hCall start hStart _ _ hFirst)

end KeepsLimit

namespace Tool

/-! ## Tools -/

theorem cutAt_reportGroup {several : Bool} {g : Sensor.Group}
    {fields : List (String × Json.Value)} {outcome : Outcome Sensor.Fault Metric.Values}
    {limit took : Millis} (h : outcome.CutAt limit took) :
    (reportGroup several g fields outcome).CutAt limit took := by
  cases outcome with
  | value values => exact h
  | overdue => exact h
  | panicked p => exact h
  | error fault => cases several <;> cases fault <;> exact h

/-- A report is over when the deadline comes, however many groups it reads. -/
theorem cutAt_report {several : Bool} {deadline start : Millis} {groups : List Sensor.Group}
    {fields : List (String × Json.Value)} {timed : List TimedExchange}
    {outcome : Outcome CallError String}
    (hRun : TimedRuns (report several (some deadline) groups fields) start timed outcome) :
    outcome.CutAt (deadline - start) (elapsed timed) := by
  induction groups generalizing fields start timed with
  | nil =>
      obtain ⟨rfl, rfl⟩ := timedRuns_done_iff.mp hRun
      exact Nat.zero_le _
  | cons g groups ih =>
      obtain ⟨answer, took, rest, rfl, hTakes, hRest⟩ := timedRuns_perform_bind_iff.mp hRun
      have hGroup : (reportGroup several g fields answer).CutAt (deadline - start) took :=
        cutAt_reportGroup hTakes
      have hInTime : took ≤ deadline - start := hGroup.le
      rw [elapsed_cons]
      cases hReport : reportGroup several g fields answer with
      | value fields' =>
          simp only [hReport] at hRest
          -- the next groups have what is left of the time
          have hLater := ih hRest
          rw [Nat.sub_add_eq] at hLater
          cases outcome with
          | overdue =>
              show took + elapsed rest = deadline - start
              rw [show elapsed rest = deadline - start - took from hLater]
              exact Nat.add_sub_cancel' hInTime
          | value text => exact Nat.add_le_of_le_sub' hInTime hLater
          | error e => exact Nat.add_le_of_le_sub' hInTime hLater
          | panicked p => exact Nat.add_le_of_le_sub' hInTime hLater
      | error e =>
          simp only [hReport] at hRest
          obtain ⟨rfl, rfl⟩ := timedRuns_done_iff.mp hRest
          exact hInTime
      | overdue =>
          simp only [hReport] at hRest
          obtain ⟨rfl, rfl⟩ := timedRuns_done_iff.mp hRest
          rw [hReport] at hGroup
          exact hGroup
      | panicked p =>
          simp only [hReport] at hRest
          obtain ⟨rfl, rfl⟩ := timedRuns_done_iff.mp hRest
          exact hInTime

variable {limit latest : Millis} {name : String} {args : Json.Value}

theorem keepsLimit_reportMetrics (hClock : (latest + limit) / 1000 < Millis.clockRange) :
    KeepsLimit (reportMetrics args limit) limit latest := by
  unfold reportMetrics
  split
  · exact keepsLimit_done nofun
  · intro start hStart timed outcome hRun
    obtain ⟨_, took, rest, rfl, ⟨rfl, hNow⟩, hRest⟩ := timedRuns_perform_bind_iff.mp hRun
    have hCounts : (start + limit) / 1000 < Millis.clockRange :=
      Nat.lt_of_le_of_lt (Nat.div_le_div_right (Nat.add_le_add_right hStart limit)) hClock
    have hDeadline : Millis.after start limit = start + limit := if_pos hCounts
    rw [hNow] at hRest
    have hReport := cutAt_report hRest
    rw [hDeadline, Nat.add_zero, Nat.add_sub_cancel_left] at hReport
    rw [elapsed_cons, Nat.zero_add]
    exact hReport

theorem keepsLimit_work (registry : Registry)
    (hClock : (latest + limit) / 1000 < Millis.clockRange) :
    KeepsLimit (work registry name args limit) limit latest := by
  unfold work
  split
  · exact keepsLimit_done nofun
  · split
    · exact keepsLimit_done nofun
    · exact keepsLimit_reportMetrics hClock
    · exact keepsLimit_request fun _ _ _ hTakes => hTakes

theorem cutAt_settle {outcome : Outcome CallError String} {took : Millis}
    (h : outcome.CutAt limit took) : (settle name limit outcome).CutAt limit took := by
  cases outcome with
  | overdue => exact Nat.le_of_eq h
  | _ => exact h

end Tool

namespace Task

/-! ## The calls of a task -/

theorem cutAt_routeAnswer {outcome : Outcome CallError String} {limit took : Millis}
    (h : outcome.CutAt limit took) : (routeAnswer outcome).CutAt limit took := by
  cases outcome with
  | value output =>
      rw [routeAnswer]
      cases Route.decode output <;> exact h
  | error e => exact h
  | overdue => exact h
  | panicked p => exact h

namespace Executor

variable {latest : Millis}

theorem keepsLimit_routeOnce (x : Executor) (request : String) :
    KeepsLimit (x.routeOnce request) (x.recovery.policy .model).limit latest := by
  unfold routeOnce
  split
  · exact keepsLimit_ask.map fun _ _ => cutAt_routeAnswer
  · exact keepsLimit_request fun _ _ _ hTakes => hTakes

theorem keepsLimit_delegateOnce (x : Executor) (prompt : String) :
    KeepsLimit (x.delegateOnce prompt) (x.recovery.policy .model).limit latest :=
  keepsLimit_ask

theorem keepsLimit_callToolOnce (x : Executor) (tool : String) (args : Json.Value)
    (hClock : (latest + (x.recovery.policy .tool).limit) / 1000 < Millis.clockRange) :
    KeepsLimit (x.callToolOnce tool args) (x.recovery.policy .tool).limit latest := by
  have hWork : KeepsLimit (Tool.work x.registry tool args (x.recovery.policy .tool).limit)
      (x.recovery.policy .tool).limit latest := Tool.keepsLimit_work x.registry hClock
  show KeepsLimit ((Activity.bind _ _).bind _) _ _
  rw [bind_assoc]
  exact hWork.map fun _ _ => Tool.cutAt_settle

end Executor

end Task

end SteadyTask
