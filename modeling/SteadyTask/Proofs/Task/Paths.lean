import SteadyTask.Proofs.Task.Finish

/-!
# Paths through the states of a task

Whatever is called on a context and in whichever order, its steps are a path through the graph of
states that starts with routing and ends where the task stands.  Every step leads further away from
the start, so no path has more than four of them.

A failure is recorded once: that of the first call that came before the task had ended.  A task can
also go to the failed state by an advance; then it has no failure and does not get one.
-/

namespace SteadyTask.Task

/-- How far from the start a state is. -/
def State.rank : State → Nat
  | .routing => 0
  | .handleDirect | .toolCall | .modelDelegate => 1
  | .reflection => 2
  | .completed | .failed => 3

theorem State.rank_le (s : State) : s.rank ≤ 3 := by
  cases s <;> decide

/-- The graph of states leads away from the start. -/
theorem State.rank_lt_of_canAdvance {s next : State} (h : s.canAdvance next = true) :
    s.rank < next.rank := by
  cases s <;> cases next <;> first | decide | cases h

/-- No state that ends a task can be left. -/
theorem State.not_canAdvance_of_isTerminal {s : State} (h : s.isTerminal = true) (next : State) :
    s.canAdvance next = false := by
  cases s <;> cases next <;> first | rfl | cases h

namespace Context

variable {c c' : Context} {next : State} {detail : Option String}

/-! ## What a call does -/

theorem advance_of_canAdvance (h : c.state.canAdvance next = true) (detail : Option String) :
    c.advance next detail =
      ({ c with state := next, steps := c.steps ++ [⟨next, detail⟩] }, true) := by
  rw [advance, if_pos h]

theorem advance_of_not_canAdvance (h : c.state.canAdvance next = false)
    (detail : Option String) : c.advance next detail = (c, false) := by
  rw [advance, if_neg (by simp [h])]

/-- An advance says that it was possible exactly if it has added its step. -/
theorem advance_snd_iff :
    (c.advance next detail).2 = true ↔
      (c.advance next detail).1.steps = c.steps ++ [⟨next, detail⟩] := by
  cases h : c.state.canAdvance next with
  | true => simp [advance_of_canAdvance h]
  | false => simp [advance_of_not_canAdvance h]

theorem fail_of_isTerminal (h : c.state.isTerminal = true) (f : Failure) : c.fail f = c := by
  rw [fail, if_pos h]

/-- A context goes on to a state that it can go to, with one step more, or it stays as it is. -/
theorem perform_cases (c : Context) (operation : Operation) :
    c.perform operation = c ∨ ∃ next detail, c.state.canAdvance next = true ∧
      (c.perform operation).state = next ∧
      (c.perform operation).steps = c.steps ++ [⟨next, detail⟩] := by
  cases operation with
  | advance next detail =>
      cases h : c.state.canAdvance next with
      | true =>
          refine .inr ⟨next, detail, h, ?_, ?_⟩ <;>
            simp only [perform, advance_of_canAdvance h]
      | false => exact .inl (by simp only [perform, advance_of_not_canAdvance h])
  | fail f =>
      cases h : c.state.isTerminal with
      | true => exact .inl (fail_of_isTerminal h f)
      | false =>
          refine .inr ⟨.failed, some f.text, ?_, ?_, ?_⟩
          · rw [State.canAdvance, h]
            rfl
          · simp only [perform, Executor.fail_of_not_terminal h]
          · simp only [perform, Executor.fail_of_not_terminal h]

/-! ## Paths -/

/-- The steps of a context are a path from routing to its state. -/
structure OnPath (c : Context) : Prop where
  starts : ∃ rest, c.steps = ⟨.routing, none⟩ :: rest
  edges : c.steps.IsChain fun s t => s.state.canAdvance t.state = true
  ends : c.steps.getLast?.map Step.state = some c.state
  short : c.steps.length ≤ c.state.rank + 1

theorem onPath_start : start.OnPath :=
  ⟨⟨[], rfl⟩, List.isChain_singleton _, rfl, Nat.le_refl _⟩

/-- A path goes on along an edge. -/
theorem OnPath.concat (h : c.OnPath) (hNext : c.state.canAdvance next = true)
    (hState : c'.state = next) (hSteps : c'.steps = c.steps ++ [⟨next, detail⟩]) :
    c'.OnPath := by
  obtain ⟨rest, hRest⟩ := h.starts
  refine ⟨⟨rest ++ [⟨next, detail⟩], ?_⟩, ?_, ?_, ?_⟩
  · rw [hSteps, hRest, List.cons_append]
  · rw [hSteps, List.isChain_append]
    refine ⟨h.edges, List.isChain_singleton _, ?_⟩
    rintro last hLast _ ⟨⟩
    have hEnds := h.ends
    rw [hLast] at hEnds
    rw [Option.some.inj hEnds]
    exact hNext
  · rw [hSteps, List.getLast?_concat, hState]
    rfl
  · have hRank := State.rank_lt_of_canAdvance hNext
    have hShort := h.short
    rw [hSteps, hState, List.length_append, List.length_singleton]
    omega

theorem OnPath.perform (h : c.OnPath) (operation : Operation) : (c.perform operation).OnPath := by
  rcases c.perform_cases operation with hSame | ⟨next, detail, hNext, hState, hSteps⟩
  · rw [hSame]
    exact h
  · exact h.concat hNext hState hSteps

theorem OnPath.run (h : c.OnPath) (operations : List Operation) : (c.run operations).OnPath := by
  induction operations generalizing c with
  | nil => exact h
  | cons operation rest ih => exact ih (h.perform operation)

/-! ## The failure -/

/-- The failure that a call reports before the task has ended. -/
def liveFailure? (c : Context) : Operation → Option Failure
  | .advance _ _ => none
  | .fail f => if c.state.isTerminal then none else some f

/-- The failures that calls report before the task has ended, one after another. -/
def liveFailures (c : Context) : List Operation → List Failure
  | [] => []
  | operation :: rest =>
    (c.liveFailure? operation).toList ++ liveFailures (c.perform operation) rest

/-- Only a task that has failed has a failure. -/
def FailsOnce (c : Context) : Prop :=
  c.failure.isSome = true → c.state = .failed

/-- A call records the failure that it reports, and leaves one that is there already. -/
theorem FailsOnce.perform (h : c.FailsOnce) (operation : Operation) :
    (c.perform operation).FailsOnce ∧
      (c.perform operation).failure = c.failure.or (c.liveFailure? operation) := by
  cases operation with
  | advance next detail =>
      cases hNext : c.state.canAdvance next with
      | false =>
          have hSame : c.perform (.advance next detail) = c := by
            rw [Context.perform, advance_of_not_canAdvance hNext]
          rw [hSame, liveFailure?, Option.or_none]
          exact ⟨h, rfl⟩
      | true =>
          rw [Context.perform, advance_of_canAdvance hNext, liveFailure?, Option.or_none]
          refine ⟨fun hSome => ?_, rfl⟩
          -- a task with a failure has ended and cannot go on
          rw [h hSome, State.not_canAdvance_of_isTerminal rfl] at hNext
          cases hNext
  | fail f =>
      cases hEnded : c.state.isTerminal with
      | true =>
          rw [Context.perform, fail_of_isTerminal hEnded, liveFailure?, if_pos hEnded,
            Option.or_none]
          exact ⟨h, rfl⟩
      | false =>
          have hNone : c.failure = none := by
            rw [← Option.not_isSome_iff_eq_none]
            intro hSome
            rw [h hSome] at hEnded
            cases hEnded
          simp [Context.perform, Executor.fail_of_not_terminal hEnded, liveFailure?, hEnded, hNone,
            FailsOnce]

/-- Over a run the first failure that was reported in time is recorded. -/
theorem FailsOnce.run (h : c.FailsOnce) (operations : List Operation) :
    (c.run operations).FailsOnce ∧
      (c.run operations).failure = c.failure.or (liveFailures c operations).head? := by
  induction operations generalizing c with
  | nil => exact ⟨h, (Option.or_none ..).symm⟩
  | cons operation rest ih =>
      obtain ⟨hNext, hFailure⟩ := h.perform operation
      obtain ⟨hRun, hRecorded⟩ := ih hNext
      refine ⟨hRun, ?_⟩
      show ((c.perform operation).run rest).failure = _
      rw [hRecorded, hFailure, liveFailures, Option.or_assoc]
      cases c.liveFailure? operation <;> rfl

/-! ## Contexts -/

/-- What holds of a context after some calls. -/
structure Recorded (operations : List Operation) (c : Context) : Prop where
  path : c.OnPath
  short : c.steps.length ≤ 4
  /-- An advance adds its own step and says so, or changes nothing and says so. -/
  advances : ∀ next detail,
    ((c.advance next detail).2 = true ↔
      (c.advance next detail).1.steps = c.steps ++ [⟨next, detail⟩]) ∧
    ((c.advance next detail).2 = false → (c.advance next detail).1 = c)
  /-- Once the task has ended a failure changes nothing. -/
  ended : c.state.isTerminal = true → ∀ f, c.fail f = c
  failed : c.failure.isSome = true → c.state = .failed
  /-- The failure is the first that was reported before the task had ended. -/
  first : c.failure = (liveFailures start operations).head?
  /-- Nothing that is called later takes it away or replaces it. -/
  stays : ∀ f, c.failure = some f → ∀ later, (c.run later).failure = some f

/-- A new context, whatever is called on it, keeps to the graph of states and to its first
failure. -/
theorem contexts_keep_to_paths (operations : List Operation) :
    Recorded operations (start.run operations) := by
  have hStart : start.FailsOnce := nofun
  obtain ⟨hFailed, hFirst⟩ := hStart.run operations
  have hPath := onPath_start.run operations
  refine ⟨hPath, ?_, fun next detail => ⟨advance_snd_iff, ?_⟩, fail_of_isTerminal, hFailed, hFirst,
    ?_⟩
  · exact Nat.le_trans hPath.short (Nat.succ_le_succ (State.rank_le _))
  · intro hRefused
    cases h : (start.run operations).state.canAdvance next with
    | true =>
        rw [advance_of_canAdvance h] at hRefused
        cases hRefused
    | false => rw [advance_of_not_canAdvance h]
  · intro f hFailure later
    rw [(hFailed.run later).2, hFailure]
    rfl

end Context

end SteadyTask.Task
