import SteadyTask.Proofs.Activity.Runs
import SteadyTask.Task.Execute

/-!
# Panics come through

A call that panics ends the work it belongs to with that panic, whether it is an attempt of a
retried call, a sensor below a tool, or the tool itself; and work that ends with a panic has met
one.  So the panic that some work ends with is the one that stands in its exchanges.

A governance that panics is the one exception: it is not asked through a request.
-/

namespace SteadyTask

/-- The panic that an answer is, if it is one. -/
def Request.panic? : (r : Request) → r.Answer → Option Panic
  | .ask _ _ _, outcome => Outcome.panic? outcome
  | .consult _, outcome => Outcome.panic? outcome
  | .useTool _ _ _, outcome => Outcome.panic? outcome
  | .read _ _, outcome => Outcome.panic? outcome
  | .readAll _, outcomes => List.findSome? Outcome.panic? outcomes
  | .forget _, _ => none
  | .now, _ => none
  | .mode, _ => none
  | .pause _, _ => none
  | .startMonitor, _ => none
  | .stopMonitor _, _ => none
  | .evaluate _, _ => none
  | .reflect _, _ => none
  | .awaitReflections, _ => none

namespace Activity

/-- The panic in an exchange, if there is one. -/
def Exchange.panic? (e : Exchange) : Option Panic :=
  e.request.panic? e.answer

/-- An activity ends with exactly the panics that its exchanges hold. -/
def Surfaces {α : Type} (x : Activity α) (panicOf : α → Option Panic) : Prop :=
  ∀ exchanges a, Runs x exchanges a →
    ∀ p, panicOf a = some p ↔ ∃ e ∈ exchanges, e.panic? = some p

namespace Surfaces

variable {α β : Type}

theorem done {a : α} {panicOf : α → Option Panic} (h : panicOf a = none) :
    Surfaces (.done a) panicOf := by
  intro exchanges b hRun p
  obtain ⟨rfl, rfl⟩ := runs_done_iff.mp hRun
  simp [h]

theorem perform (r : Request) : Surfaces (Activity.perform r) r.panic? := by
  intro exchanges answer hRun p
  rw [runs_perform_iff.mp hRun]
  simp [Exchange.panic?]

/-- A sequence surfaces panics if it ends at once where its first part panics. -/
theorem bind {x : Activity α} {f : α → Activity β} {panicOf : α → Option Panic}
    {panicOf' : β → Option Panic} (hx : Surfaces x panicOf)
    (hPanic : ∀ a p, panicOf a = some p → ∃ b, f a = .done b ∧ panicOf' b = some p)
    (hNext : ∀ a, panicOf a = none → Surfaces (f a) panicOf') :
    Surfaces (x.bind f) panicOf' := by
  intro exchanges b hRun p
  obtain ⟨first, a, second, rfl, hFirst, hSecond⟩ := runs_bind_iff.mp hRun
  have hFirstPanics := hx first a hFirst
  -- a first part that panics ends the sequence; otherwise its exchanges hold no panic
  cases hOutcome : panicOf a with
  | some q =>
      obtain ⟨b', hDone, hb'⟩ := hPanic a q hOutcome
      rw [hDone] at hSecond
      obtain ⟨rfl, rfl⟩ := runs_done_iff.mp hSecond
      rw [List.append_nil, ← hFirstPanics p, hOutcome, hb']
  | none =>
      have hNone : ∀ e ∈ first, e.panic? ≠ some p := by
        intro e he hp
        have hSome := (hFirstPanics p).mpr ⟨e, he, hp⟩
        rw [hOutcome] at hSome
        cases hSome
      rw [hNext a hOutcome second b hSecond p]
      constructor
      · rintro ⟨e, he, hp⟩
        exact ⟨e, List.mem_append_right first he, hp⟩
      · rintro ⟨e, he, hp⟩
        rcases List.mem_append.mp he with he | he
        · exact absurd hp (hNone e he)
        · exact ⟨e, he, hp⟩

/-- What is made of a result does not hide its panic. -/
theorem map {x : Activity α} {f : α → β} {panicOf : α → Option Panic}
    {panicOf' : β → Option Panic} (hx : Surfaces x panicOf)
    (h : ∀ a, panicOf' (f a) = panicOf a) : Surfaces (x.bind fun a => .done (f a)) panicOf' := by
  refine hx.bind (fun a p hp => ⟨f a, rfl, (h a).trans hp⟩) ?_
  intro a ha
  exact .done ((h a).trans ha)

end Surfaces

end Activity

open Activity

namespace Tool

/-! ## Tools -/

theorem panic?_reportGroup (several : Bool) (g : Sensor.Group)
    (fields : List (String × Json.Value)) (outcome : Outcome Sensor.Fault Metric.Values) :
    (reportGroup several g fields outcome).panic? = outcome.panic? := by
  cases outcome with
  | value values => rfl
  | overdue => rfl
  | panicked p => rfl
  | error fault =>
      cases several <;> cases fault <;> rfl

theorem surfaces_report (several : Bool) (deadline : Option Millis) (groups : List Sensor.Group)
    (fields : List (String × Json.Value)) :
    Surfaces (report several deadline groups fields) Outcome.panic? := by
  induction groups generalizing fields with
  | nil => exact .done rfl
  | cons g groups ih =>
      have hGroup := panic?_reportGroup several g fields
      refine Surfaces.bind (.perform (.read g deadline)) ?_ ?_
      · intro outcome p hp
        cases outcome with
        | panicked q => exact ⟨.panicked q, rfl, hp⟩
        | value _ => cases hp
        | error _ => cases hp
        | overdue => cases hp
      · intro outcome hNone
        -- without a panic the report goes on to the next group or ends
        cases hReport : reportGroup several g fields outcome with
        | value fields => exact ih fields
        | error e => exact .done rfl
        | overdue => exact .done rfl
        | panicked p =>
            have hSome := hGroup outcome
            rw [hReport] at hSome
            exact absurd (hSome.trans hNone) nofun

/-- A tool that panics, or reads a sensor that panics, ends with that panic. -/
theorem surfaces_work (registry : Registry) (name : String) (args : Json.Value) (limit : Millis) :
    Surfaces (work registry name args limit) Outcome.panic? := by
  unfold work
  split
  · exact .done rfl
  · split
    · exact .done rfl
    · unfold reportMetrics
      split
      · exact .done rfl
      · refine Surfaces.bind (.perform .now) nofun ?_
        exact fun now _ => surfaces_report _ _ _ _
    · exact .perform _

theorem panic?_settle (name : String) (limit : Millis) (outcome : Outcome CallError String) :
    (settle name limit outcome).panic? = outcome.panic? := by
  cases outcome <;> rfl

theorem surfaces_call (registry : Registry) (name : String) (args : Json.Value) (limit : Millis) :
    Surfaces (call registry name args limit) fun called => called.outcome.panic? :=
  (surfaces_work registry name args limit).map fun outcome => panic?_settle name limit outcome

end Tool

namespace Task

/-- The panic that some work ended with, if it did. -/
def Ending.panic? {α : Type} : Ending α → Option Panic
  | .panicked p => some p
  | _ => none

/-! ## Retries -/

section Retry

variable {α : Type} {r : Recovery} {kind : CallKind} {call : Activity (Outcome CallError α)}

/-- A call is attempted once, and again after a delay if that is what follows. -/
theorem retryFrom_eq (attempt : Nat) :
    retryFrom r kind call attempt = call.bind fun outcome =>
      match afterAttempt r kind attempt outcome with
      | .finish ending => .done ending
      | .retryAfter delay =>
        .request (.pause delay) fun _ => retryFrom r kind call (attempt + 1) := by
  rw [retryFrom]
  congr 1
  funext outcome
  split
  · next ending h => rw [h]
  · next delay h => rw [h]

/-- A call goes on after an attempt only if the attempt did not panic. -/
theorem afterAttempt_of_panic? {attempt : Nat} {outcome : Outcome CallError α} {p : Panic}
    (h : outcome.panic? = some p) :
    afterAttempt r kind attempt outcome = .finish (.panicked p) := by
  cases outcome with
  | panicked q =>
      cases h
      rfl
  | value _ => cases h
  | error _ => cases h
  | overdue => cases h

theorem ofAction_ne_panicked (action : RecoveryAction) (p : Panic) :
    afterAttempt.ofAction action ≠ (.finish (.panicked p) : AfterAttempt α) := by
  cases action with
  | retryAfter delay => nofun
  | fail f => nofun

theorem panic?_of_afterAttempt {attempt : Nat} {outcome : Outcome CallError α} {ending : Ending α}
    (hNone : outcome.panic? = none) (h : afterAttempt r kind attempt outcome = .finish ending) :
    ending.panic? = none := by
  cases hEnding : ending with
  | value a => rfl
  | failed f => rfl
  | panicked p =>
      rw [hEnding] at h
      cases outcome with
      | value a => cases h
      | error e => exact absurd h (ofAction_ne_panicked _ p)
      | overdue => exact absurd h (ofAction_ne_panicked _ p)
      | panicked q => cases hNone

/-- A retried call ends with the panic of its last attempt, if that panicked. -/
theorem surfaces_retryFrom (hCall : Surfaces call Outcome.panic?) (attempt : Nat) :
    Surfaces (retryFrom r kind call attempt) Ending.panic? := by
  -- by how many retries are left
  induction hLeft : (r.policy kind).maxRetries - attempt using Nat.strong_induction_on
    generalizing attempt with
  | _ left ih =>
      rw [retryFrom_eq]
      refine hCall.bind ?_ ?_
      · intro outcome p hp
        refine ⟨.panicked p, ?_, rfl⟩
        rw [afterAttempt_of_panic? hp]
      · intro outcome hNone
        cases hAfter : afterAttempt r kind attempt outcome with
        | finish ending => exact .done (panic?_of_afterAttempt hNone hAfter)
        | retryAfter delay =>
            have hMore := lt_maxRetries_of_afterAttempt hAfter
            refine Surfaces.bind (.perform (.pause delay)) nofun ?_
            exact fun _ _ => ih _ (by omega) (attempt + 1) rfl

theorem surfaces_retry (hCall : Surfaces call Outcome.panic?) :
    Surfaces (retry r kind call) Ending.panic? :=
  surfaces_retryFrom hCall 0

end Retry

/-! ## Routing and calling -/

namespace Executor

theorem panic?_routeAnswer (outcome : Outcome CallError String) :
    (routeAnswer outcome).panic? = outcome.panic? := by
  cases outcome with
  | value output =>
      rw [routeAnswer]
      cases Route.decode output <;> rfl
  | error e => rfl
  | overdue => rfl
  | panicked p => rfl

theorem surfaces_routeOnce (x : Executor) (request : String) :
    Surfaces (x.routeOnce request) Outcome.panic? := by
  unfold routeOnce
  split
  · exact (Surfaces.perform (.ask _ _ _)).map panic?_routeAnswer
  · exact .perform (.consult _)

theorem surfaces_callToolOnce (x : Executor) (tool : String) (args : Json.Value) :
    Surfaces (x.callToolOnce tool args) Outcome.panic? :=
  (Tool.surfaces_call x.registry tool args _).map fun _ => rfl

theorem surfaces_delegateOnce (x : Executor) (prompt : String) :
    Surfaces (x.delegateOnce prompt) Outcome.panic? :=
  .perform (.ask _ _ _)

end Executor

end Task

end SteadyTask
