import SteadyTask.Proofs.Activity.Runs

/-!
# Activities whose calls are attended to

Models, routers and tools answer a call after some time, and what they answer may depend on the time
and on all calls before it, but on nothing else.  An attended activity has its calls answered by
them; for its surroundings such a call is a wait.  What it comes to, which calls it makes and when
it returns can then be worked out without any surroundings, given the mode that it is told and when
it begins.

Activities that ask for more than calls, waits, the time and the mode are not worked out here.
-/

namespace SteadyTask

open Activity (Exchange)

/-- A request of a model, a router or a tool. -/
def Request.isCall : Request → Bool
  | .ask _ _ _ | .consult _ | .useTool _ _ _ => true
  | _ => false

/-- A call, when it began, and how long it took. -/
structure Call where
  start : Millis
  took : Millis
  exchange : Exchange

/-- Models, routers and tools: after which time each answers a call, and how, given the calls before
it and the time. -/
structure Collaborators where
  ask : List Call → Millis → String → List Llm.Message → Option Millis →
    Millis × Outcome CallError String
  consult : List Call → Millis → Millis → Millis × Outcome CallError Route
  useTool : List Call → Millis → String → Json.Value → Millis → Millis × Outcome CallError String

/-- After which time a call is answered, and how. -/
def Collaborators.answer (k : Collaborators) (calls : List Call) (now : Millis) (r : Request)
    (h : r.isCall = true) : Millis × r.Answer :=
  match r with
  | .ask client messages limit => k.ask calls now client messages limit
  | .consult limit => k.consult calls now limit
  | .useTool tool args limit => k.useTool calls now tool args limit
  | .read _ _ | .readAll _ | .forget _ | .now | .mode | .pause _ | .startMonitor | .stopMonitor _
  | .evaluate _ | .reflect _ | .awaitReflections => nomatch h

/-- The time after a wait. -/
def afterWait (now duration : Millis) : Millis :=
  if duration = 0 then now else Millis.after now duration

theorem lt_after {now duration : Millis} (h : duration ≠ 0) : now < Millis.after now duration := by
  unfold Millis.after
  split
  · exact Nat.lt_add_of_pos_right (Nat.pos_of_ne_zero h)
  · exact Nat.lt_add_of_pos_right (by decide)

namespace Activity

variable {α β : Type} {k : Collaborators} {mode : Mode}

/-! ## Attending -/

/-- An activity whose calls are answered by collaborators, with all calls that it makes. -/
def attend (k : Collaborators) : Activity α → List Call → Activity (α × List Call)
  | .done a, calls => .done (a, calls)
  | .request r resume, calls =>
    if h : r.isCall = true then
      .request .now fun now =>
        let answered := k.answer calls now r h
        .request (.pause answered.1) fun _ =>
          attend k (resume answered.2) (calls ++ [⟨now, answered.1, r, answered.2⟩])
    else .request r fun answer => attend k (resume answer) calls

theorem attend_call {r : Request} (h : r.isCall = true) (resume : r.Answer → Activity α)
    (calls : List Call) :
    attend k (.request r resume) calls =
      .request .now fun now =>
        .request (.pause (k.answer calls now r h).1) fun _ =>
          attend k (resume (k.answer calls now r h).2)
            (calls ++ [⟨now, (k.answer calls now r h).1, r, (k.answer calls now r h).2⟩]) := by
  rw [attend, dif_pos h]

theorem attend_of_not_isCall {r : Request} (h : r.isCall = false) (resume : r.Answer → Activity α)
    (calls : List Call) :
    attend k (.request r resume) calls =
      .request r fun answer => attend k (resume answer) calls := by
  rw [attend, dif_neg (by simp [h])]

/-- A sequence is attended to one part after the other. -/
theorem attend_bind (x : Activity α) (f : α → Activity β) (calls : List Call) :
    attend k (x.bind f) calls = (attend k x calls).bind fun out => attend k (f out.1) out.2 := by
  induction x generalizing calls with
  | done a => rfl
  | request r resume ih =>
      show attend k (.request r fun answer => (resume answer).bind f) calls = _
      cases hCall : r.isCall with
      | true =>
          rw [attend_call hCall, attend_call hCall]
          simp only [Activity.bind, ih]
      | false =>
          rw [attend_of_not_isCall hCall, attend_of_not_isCall hCall]
          simp only [Activity.bind, ih]

/-! ## Alone -/

/-- How long a request takes that no collaborator answers, and its answer, if nobody else is needed
for it. -/
def ownAnswer? (mode : Mode) (now : Millis) : (r : Request) → Option (Millis × r.Answer)
  | .now => some (0, now)
  | .mode => some (0, mode)
  | .pause duration => some (duration, ())
  | _ => none

/-- What an attended activity comes to on its own, with all calls that it makes and the time at
which it returns. -/
def alone (k : Collaborators) (mode : Mode) :
    Activity α → List Call → Millis → Option (α × List Call × Millis)
  | .done a, calls, now => some (a, calls, now)
  | .request r resume, calls, now =>
    if h : r.isCall = true then
      let answered := k.answer calls now r h
      alone k mode (resume answered.2) (calls ++ [⟨now, answered.1, r, answered.2⟩])
        (afterWait now answered.1)
    else
      match ownAnswer? mode now r with
      | none => none
      | some (took, answer) => alone k mode (resume answer) calls (afterWait now took)

theorem alone_call {r : Request} (h : r.isCall = true) (resume : r.Answer → Activity α)
    (calls : List Call) (now : Millis) :
    alone k mode (.request r resume) calls now =
      alone k mode (resume (k.answer calls now r h).2)
        (calls ++ [⟨now, (k.answer calls now r h).1, r, (k.answer calls now r h).2⟩])
        (afterWait now (k.answer calls now r h).1) := by
  rw [alone, dif_pos h]

theorem alone_of_not_isCall {r : Request} (h : r.isCall = false) (resume : r.Answer → Activity α)
    (calls : List Call) (now : Millis) :
    alone k mode (.request r resume) calls now =
      (ownAnswer? mode now r).bind fun own =>
        alone k mode (resume own.2) calls (afterWait now own.1) := by
  rw [alone, dif_neg (by simp [h])]
  cases ownAnswer? mode now r <;> rfl

/-- A sequence comes to what its second part comes to after its first. -/
theorem alone_bind (x : Activity α) (f : α → Activity β) (calls : List Call) (now : Millis) :
    alone k mode (x.bind f) calls now =
      (alone k mode x calls now).bind fun out => alone k mode (f out.1) out.2.1 out.2.2 := by
  induction x generalizing calls now with
  | done a => rfl
  | request r resume ih =>
      show alone k mode (.request r fun answer => (resume answer).bind f) calls now = _
      cases hCall : r.isCall with
      | true => rw [alone_call hCall, alone_call hCall, ih]
      | false =>
          rw [alone_of_not_isCall hCall, alone_of_not_isCall hCall, Option.bind_assoc]
          simp only [ih]

/-- Requests that need nobody but collaborators, the clock and the mode. -/
def IsPlain : Request → Prop
  | .ask _ _ _ | .consult _ | .useTool _ _ _ | .now | .mode | .pause _ => True
  | _ => False

/-- An activity that makes plain requests alone comes to something. -/
theorem exists_alone {x : Activity α} (h : x.Only IsPlain) (calls : List Call) (now : Millis) :
    ∃ a later finish, alone k mode x calls now = some (a, later, finish) := by
  induction x generalizing calls now with
  | done a => exact ⟨a, calls, now, rfl⟩
  | request r resume ih =>
      cases hCall : r.isCall with
      | true =>
          rw [alone_call hCall]
          exact ih _ (h.2 _) _ _
      | false =>
          rw [alone_of_not_isCall hCall]
          cases r with
          | now => exact ih _ (h.2 _) _ _
          | mode => exact ih _ (h.2 _) _ _
          | pause duration => exact ih _ (h.2 _) _ _
          | ask client messages limit => cases hCall
          | consult limit => cases hCall
          | useTool tool args limit => cases hCall
          | _ => exact h.1.elim

end Activity

end SteadyTask
