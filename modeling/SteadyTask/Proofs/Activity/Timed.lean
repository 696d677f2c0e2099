import Mathlib.Tactic
import SteadyTask.Proofs.Activity.Runs

/-!
# Runs in time

A run in which every answer takes a time.  A time limit that a request names is kept: what is not
there when the limit has passed is cut off at that moment.  A pause takes exactly its time, and the
clock is read at once.  How long anything else takes is left open.

What a callee would do if nobody cut it off is a `Callee`.  What is seen of it under a limit, and
for how long, follows from that.
-/

namespace SteadyTask

/-- Under a time limit an outcome comes in time, or the wait for it is cut off at the limit. -/
def Outcome.CutAt {ε α : Type} (limit took : Millis) : Outcome ε α → Prop
  | .overdue => took = limit
  | _ => took ≤ limit

/-- What a callee does if nobody cuts it off: it is over after a time, or it never is. -/
inductive Callee (ε α : Type) where
  | returns (duration : Millis) (a : α)
  | fails (duration : Millis) (e : ε)
  | panics (duration : Millis) (p : Panic)
  | hangs

namespace Callee

variable {ε α : Type}

/-- After which time it is over, if it ever is. -/
def duration? : Callee ε α → Option Millis
  | .returns duration _ => some duration
  | .fails duration _ => some duration
  | .panics duration _ => some duration
  | .hangs => none

/-- What is seen of it under a limit. -/
def outcome (limit : Millis) : Callee ε α → Outcome ε α
  | .returns duration a => if duration ≤ limit then .value a else .overdue
  | .fails duration e => if duration ≤ limit then .error e else .overdue
  | .panics duration p => if duration ≤ limit then .panicked p else .overdue
  | .hangs => .overdue

/-- For how long it is waited for under a limit. -/
def span (limit : Millis) (c : Callee ε α) : Millis :=
  match c.duration? with
  | some duration => min duration limit
  | none => limit

variable {c : Callee ε α} {limit took : Millis}

theorem span_le : c.span limit ≤ limit := by
  unfold span
  split
  · exact Nat.min_le_right ..
  · exact Nat.le_refl _

/-- What would be over after a time is seen if the limit leaves it that time. -/
theorem cutAt_ite {o : Outcome ε α} {duration : Millis} (hOver : o ≠ .overdue) :
    (if duration ≤ limit then o else .overdue).CutAt limit (min duration limit) := by
  split
  · next hInTime =>
      rw [Nat.min_eq_left hInTime]
      cases o with
      | overdue => exact absurd rfl hOver
      | _ => exact hInTime
  · next hLate => exact Nat.min_eq_right (Nat.le_of_not_le hLate)

theorem cutAt_outcome : (c.outcome limit).CutAt limit (c.span limit) := by
  cases c with
  | returns duration a => exact cutAt_ite nofun
  | fails duration e => exact cutAt_ite nofun
  | panics duration p => exact cutAt_ite nofun
  | hangs => rfl

/-- Whatever keeps a limit is what is seen of some callee. -/
theorem exists_of_cutAt {o : Outcome ε α} (h : o.CutAt limit took) :
    ∃ c : Callee ε α, c.outcome limit = o ∧ c.span limit = took := by
  cases o with
  | value a => exact ⟨.returns took a, if_pos h, Nat.min_eq_left h⟩
  | error e => exact ⟨.fails took e, if_pos h, Nat.min_eq_left h⟩
  | panicked p => exact ⟨.panics took p, if_pos h, Nat.min_eq_left h⟩
  | overdue => exact ⟨.hangs, rfl, Eq.symm h⟩

end Callee

/-- An answer can come after a time, if the request is made at a given time. -/
def Request.Takes (start took : Millis) : (r : Request) → r.Answer → Prop
  | .ask _ _ (some limit), outcome => Outcome.CutAt limit took outcome
  | .consult limit, outcome => Outcome.CutAt limit took outcome
  | .useTool _ _ limit, outcome => Outcome.CutAt limit took outcome
  | .read _ (some deadline), outcome => Outcome.CutAt (deadline - start) took outcome
  | .now, time => took = 0 ∧ time = start
  | .pause duration, _ => took = duration
  | _, _ => True

namespace Activity

variable {α β : Type}

/-- A request that was answered, and how long that took. -/
structure TimedExchange where
  exchange : Exchange
  took : Millis

/-- How long some exchanges took together. -/
def elapsed (timed : List TimedExchange) : Millis :=
  (timed.map TimedExchange.took).sum

@[simp]
theorem elapsed_nil : elapsed [] = 0 := rfl

@[simp]
theorem elapsed_cons {e : TimedExchange} {timed : List TimedExchange} :
    elapsed (e :: timed) = e.took + elapsed timed := by
  simp [elapsed]

@[simp]
theorem elapsed_append {first second : List TimedExchange} :
    elapsed (first ++ second) = elapsed first + elapsed second := by
  simp [elapsed]

/-- From a given time on, the activity can make these exchanges and return this result. -/
inductive TimedRuns {α : Type} : Activity α → Millis → List TimedExchange → α → Prop
  | done (a : α) (start : Millis) : TimedRuns (.done a) start [] a
  | request {r : Request} {resume : r.Answer → Activity α} {start took : Millis} {answer : r.Answer}
      (hTakes : r.Takes start took answer) {timed : List TimedExchange} {a : α}
      (rest : TimedRuns (resume answer) (start + took) timed a) :
      TimedRuns (.request r resume) start (⟨⟨r, answer⟩, took⟩ :: timed) a

section TimedRuns

variable {start : Millis} {timed : List TimedExchange}

/-- Without its times it is a run. -/
theorem TimedRuns.runs {x : Activity α} {a : α} (h : TimedRuns x start timed a) :
    Runs x (timed.map TimedExchange.exchange) a := by
  induction h with
  | done a start => exact .done a
  | request _ _ ih => exact .request _ ih

theorem timedRuns_done_iff {a b : α} :
    TimedRuns (.done a) start timed b ↔ timed = [] ∧ b = a := by
  constructor
  · intro h
    cases h
    exact ⟨rfl, rfl⟩
  · rintro ⟨rfl, rfl⟩
    exact .done _ _

theorem timedRuns_request_iff {r : Request} {resume : r.Answer → Activity α} {b : α} :
    TimedRuns (.request r resume) start timed b ↔
      ∃ answer took rest, timed = ⟨⟨r, answer⟩, took⟩ :: rest ∧ r.Takes start took answer ∧
        TimedRuns (resume answer) (start + took) rest b := by
  constructor
  · intro h
    cases h with
    | request hTakes rest => exact ⟨_, _, _, rfl, hTakes, rest⟩
  · rintro ⟨answer, took, rest, rfl, hTakes, hRest⟩
    exact .request hTakes hRest

/-- The second part of a sequence starts when the first one is over. -/
theorem TimedRuns.bind {x : Activity α} {f : α → Activity β} {first second : List TimedExchange}
    {a : α} {b : β} (hx : TimedRuns x start first a)
    (hf : TimedRuns (f a) (start + elapsed first) second b) :
    TimedRuns (x.bind f) start (first ++ second) b := by
  induction hx with
  | done a start => exact hf
  | request hTakes _ ih =>
      refine .request hTakes (ih ?_)
      rw [elapsed_cons, ← Nat.add_assoc] at hf
      exact hf

theorem timedRuns_bind_iff {x : Activity α} {f : α → Activity β} {b : β} :
    TimedRuns (x.bind f) start timed b ↔
      ∃ first a second, timed = first ++ second ∧ TimedRuns x start first a ∧
        TimedRuns (f a) (start + elapsed first) second b := by
  constructor
  · intro h
    -- along the first part, as without times
    induction x generalizing start timed with
    | done a => exact ⟨[], a, timed, rfl, .done a start, h⟩
    | request r resume ih =>
        obtain ⟨answer, took, rest, rfl, hTakes, hRest⟩ := timedRuns_request_iff.mp h
        obtain ⟨first, a, second, rfl, hFirst, hSecond⟩ := ih answer hRest
        refine ⟨⟨⟨r, answer⟩, took⟩ :: first, a, second, rfl, .request hTakes hFirst, ?_⟩
        rw [elapsed_cons, ← Nat.add_assoc]
        exact hSecond
  · rintro ⟨first, a, second, rfl, hFirst, hSecond⟩
    exact hFirst.bind hSecond

theorem timedRuns_perform_bind_iff {r : Request} {f : r.Answer → Activity β} {b : β} :
    TimedRuns ((perform r).bind f) start timed b ↔
      ∃ answer took rest, timed = ⟨⟨r, answer⟩, took⟩ :: rest ∧ r.Takes start took answer ∧
        TimedRuns (f answer) (start + took) rest b :=
  timedRuns_request_iff

end TimedRuns

/-! ## Surroundings in time -/

/-- How each request is answered and how long that takes, given the exchanges before it and the
time. -/
abbrev TimedSurroundings :=
  List TimedExchange → (start : Millis) → (r : Request) →
    { answered : Millis × r.Answer // r.Takes start answered.1 answered.2 }

/-- The exchange that surroundings make of a request. -/
def TimedSurroundings.exchange (s : TimedSurroundings) (before : List TimedExchange)
    (start : Millis) (r : Request) : TimedExchange :=
  ⟨⟨r, (s before start r).1.2⟩, (s before start r).1.1⟩

/-- From a given time on and after some exchanges, the answers are those of the surroundings. -/
inductive AnsweredInTime (s : TimedSurroundings) :
    Millis → List TimedExchange → List TimedExchange → Prop
  | nil (start : Millis) (before : List TimedExchange) : AnsweredInTime s start before []
  | cons {start : Millis} {before : List TimedExchange} {r : Request} {rest : List TimedExchange}
      (h : AnsweredInTime s (start + (s.exchange before start r).took)
        (before ++ [s.exchange before start r]) rest) :
      AnsweredInTime s start before (s.exchange before start r :: rest)

/-- Every surroundings that keep time bring an activity to its end. -/
theorem exists_timedRuns (s : TimedSurroundings) (x : Activity α) (start : Millis)
    (before : List TimedExchange) :
    ∃ timed a, TimedRuns x start timed a ∧ AnsweredInTime s start before timed := by
  induction x generalizing start before with
  | done a => exact ⟨[], a, .done a start, .nil start before⟩
  | request r resume ih =>
      obtain ⟨rest, a, hRest, hAnswered⟩ := ih (s before start r).1.2
        (start + (s.exchange before start r).took) (before ++ [s.exchange before start r])
      exact ⟨_, a, .request (s before start r).2 hRest, .cons hAnswered⟩

end Activity

end SteadyTask
