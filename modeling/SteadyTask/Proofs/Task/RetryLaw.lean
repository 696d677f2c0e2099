import Mathlib.Algebra.BigOperators.Group.Finset.Basic
import SteadyTask.Proofs.Task.Limits
import SteadyTask.Proofs.Task.Panics

/-!
# The law of retries

A call is attempted until an attempt settles it (with a value, with an error that will not pass, or
with a panic) or the retries are used up, and never longer.  Between two attempts exactly one delay
passes.  So the outcomes of the attempts say how often the call is made, what it comes to and how
long it takes: each attempt takes the time that its callee needs, or the limit if that is less, and
after each attempt but the last comes its delay.

The law holds of every call whose attempts keep the limit, as those of a task do.  It says nothing
about what happens elsewhere in the meantime.
-/

namespace SteadyTask.Task

open Activity

variable {α : Type} {r : Recovery} {kind : CallKind} {call : Activity (Outcome CallError α)}

/-! ## What follows an attempt -/

/-- No other attempt follows an outcome, however many retries are left. -/
def settles : Outcome CallError α → Bool
  | .value _ => true
  | .error e => !e.isTransient
  | .overdue => false
  | .panicked _ => true

/-- The failure of a call whose last attempt ended with an error. -/
def lastFailure (r : Recovery) (kind : CallKind) (e : CallError) : Failure :=
  if e.isTransient then
    ⟨e.failureKind, kind.name ++ " call failed after " ++
      toString ((r.policy kind).maxRetries + 1) ++ " attempts: " ++ e.message⟩
  else ⟨e.failureKind, e.message⟩

/-- How a call ends whose last attempt had an outcome. -/
def endingOf (r : Recovery) (kind : CallKind) : Outcome CallError α → Ending α
  | .value a => .value a
  | .error e => .failed (lastFailure r kind e)
  | .overdue => .failed (lastFailure r kind (overdueError kind (r.policy kind).limit))
  | .panicked p => .panicked p

section AfterAttempt

variable {attempt : Nat} {outcome : Outcome CallError α}

theorem handle_of_retried {e : CallError} (hTransient : e.isTransient = true)
    (hLeft : attempt < (r.policy kind).maxRetries) :
    r.handle kind e attempt = .retryAfter (r.backoff attempt) := by
  rw [Recovery.handle, if_pos hTransient, if_pos hLeft]

/-- A failure is the last one if it will not pass or if no retries are left. -/
theorem handle_of_last {e : CallError}
    (h : e.isTransient = false ∨ attempt = (r.policy kind).maxRetries) :
    r.handle kind e attempt = .fail (lastFailure r kind e) := by
  unfold Recovery.handle lastFailure
  cases hTransient : e.isTransient with
  | false => simp [Failure.ofError]
  | true =>
      obtain rfl := h.resolve_left (by simp [hTransient])
      simp [Recovery.exhausted]

theorem afterAttempt_of_retried (hOpen : settles outcome = false)
    (hLeft : attempt < (r.policy kind).maxRetries) :
    afterAttempt r kind attempt outcome = .retryAfter (r.backoff attempt) := by
  cases outcome with
  | value a => cases hOpen
  | panicked p => cases hOpen
  | error e =>
      have hTransient : e.isTransient = true := by simpa [settles] using hOpen
      simp [afterAttempt, handle_of_retried hTransient hLeft, afterAttempt.ofAction]
  | overdue =>
      have hTransient : (overdueError kind (r.policy kind).limit).isTransient = true := rfl
      simp [afterAttempt, handle_of_retried hTransient hLeft, afterAttempt.ofAction]

theorem afterAttempt_of_last
    (h : settles outcome = true ∨ attempt = (r.policy kind).maxRetries) :
    afterAttempt r kind attempt outcome = .finish (endingOf r kind outcome) := by
  cases outcome with
  | value a => rfl
  | panicked p => rfl
  | error e =>
      have hLast : e.isTransient = false ∨ attempt = (r.policy kind).maxRetries := by
        simpa [settles] using h
      simp [afterAttempt, handle_of_last hLast, afterAttempt.ofAction, endingOf]
  | overdue =>
      have hLast : attempt = (r.policy kind).maxRetries := h.resolve_left Bool.false_ne_true
      simp [afterAttempt, handle_of_last (.inr hLast), afterAttempt.ofAction, endingOf]

end AfterAttempt

/-! ## Attempts -/

/-- An attempt: what its callee does, and the exchanges that it consists of. -/
structure Attempt (α : Type) where
  callee : Callee CallError α
  exchanges : List TimedExchange

/-- What is seen of an attempt under a policy. -/
abbrev Attempt.seen (a : Attempt α) (policy : RetryPolicy) : Outcome CallError α :=
  a.callee.outcome policy.limit

/-- An attempt was made under a limit, at a time, and shows what its callee does. -/
structure Attempt.Made (call : Activity (Outcome CallError α)) (limit start : Millis)
    (a : Attempt α) : Prop where
  runs : TimedRuns call start a.exchanges (a.callee.outcome limit)
  span : elapsed a.exchanges = a.callee.span limit

/-- The delay after an attempt. -/
def delayAfter (r : Recovery) (attempt : Nat) : TimedExchange :=
  ⟨⟨.pause (r.backoff attempt), ()⟩, r.backoff attempt⟩

/-- What comes before an attempt: those before it, each with its delay. -/
def before (r : Recovery) (attempts : Nat → Attempt α) : Nat → List TimedExchange
  | 0 => []
  | n + 1 => before r attempts n ++ (attempts n).exchanges ++ [delayAfter r n]

/-- What a retried call does in time, if its attempts are these and the last one is number `n`. -/
structure RetryLaw (r : Recovery) (kind : CallKind) (call : Activity (Outcome CallError α))
    (start : Millis) (n : Nat) (attempts : Nat → Attempt α) (timed : List TimedExchange)
    (ending : Ending α) : Prop where
  /-- No attempt before the last one settles the call. -/
  unsettled : ∀ i < n, settles ((attempts i).seen (r.policy kind)) = false
  capped : n ≤ (r.policy kind).maxRetries
  /-- The last one settles it, or uses up the retries. -/
  last : settles ((attempts n).seen (r.policy kind)) = true ∨
    n = (r.policy kind).maxRetries
  /-- Each attempt is made when the ones before it and their delays are over. -/
  made : ∀ i ≤ n, (attempts i).Made call (r.policy kind).limit
    (start + elapsed (before r attempts i))
  /-- Nothing happens but these `n + 1` attempts and the delays between them. -/
  exchanges : timed = before r attempts n ++ (attempts n).exchanges
  ending : ending = endingOf r kind ((attempts n).seen (r.policy kind))
  /-- An attempt takes its time or the limit, whichever is less, and a delay exactly its time. -/
  takes : elapsed timed = ∑ i ∈ Finset.range (n + 1),
    (attempts i).callee.span (r.policy kind).limit + ∑ i ∈ Finset.range n, r.backoff i

section Attempts

variable {attempts attempts' : Nat → Attempt α} {n k : Nat} {start : Millis}
  {timed rest : List TimedExchange} {ending : Ending α}

/-- Later attempts do not matter for what comes before one. -/
theorem before_congr (h : ∀ i < n, attempts i = attempts' i) :
    before r attempts n = before r attempts' n := by
  induction n with
  | zero => rfl
  | succ n ih =>
      rw [before, before, ih fun i hi => h i (Nat.lt_succ_of_lt hi), h n (Nat.lt_succ_self n)]

theorem elapsed_before_succ : elapsed (before r attempts (n + 1)) =
    elapsed (before r attempts n) + elapsed (attempts n).exchanges + r.backoff n := by
  simp [before, delayAfter, Nat.add_assoc]

/-- Attempts and delays take their times. -/
theorem elapsed_before {limit : Millis}
    (hSpan : ∀ i < n, elapsed (attempts i).exchanges = (attempts i).callee.span limit) :
    elapsed (before r attempts n) = ∑ i ∈ Finset.range n, (attempts i).callee.span limit +
      ∑ i ∈ Finset.range n, r.backoff i := by
  induction n with
  | zero => rfl
  | succ n ih =>
      rw [elapsed_before_succ, ih fun i hi => hSpan i (Nat.lt_succ_of_lt hi),
        hSpan n (Nat.lt_succ_self n), Finset.sum_range_succ, Finset.sum_range_succ]
      ring

/-- With the last attempt the law is complete. -/
theorem retryLaw_of_last
    (hUnsettled : ∀ i < n, settles ((attempts i).seen (r.policy kind)) = false)
    (hCapped : n ≤ (r.policy kind).maxRetries)
    (hLast : settles ((attempts n).seen (r.policy kind)) = true ∨
      n = (r.policy kind).maxRetries)
    (hMade : ∀ i ≤ n, (attempts i).Made call (r.policy kind).limit
      (start + elapsed (before r attempts i))) :
    RetryLaw r kind call start n attempts (before r attempts n ++ (attempts n).exchanges)
      (endingOf r kind ((attempts n).seen (r.policy kind))) := by
  refine ⟨hUnsettled, hCapped, hLast, hMade, rfl, rfl, ?_⟩
  have hBefore : elapsed (before r attempts n) = _ :=
    elapsed_before fun i hi => (hMade i (Nat.le_of_lt hi)).span
  rw [elapsed_append, hBefore, (hMade n (Nat.le_refl n)).span, Finset.sum_range_succ]
  ring

/-! ## Every run obeys the law -/

/-- Some attempts were made one after another, and none of them settled the call. -/
structure SoFar (r : Recovery) (kind : CallKind) (call : Activity (Outcome CallError α))
    (start : Millis) (k : Nat) (attempts : Nat → Attempt α) : Prop where
  unsettled : ∀ i < k, settles ((attempts i).seen (r.policy kind)) = false
  capped : k ≤ (r.policy kind).maxRetries
  made : ∀ i < k, (attempts i).Made call (r.policy kind).limit
    (start + elapsed (before r attempts i))

/-- The attempts, with another one at its number. -/
abbrev record (attempts : Nat → Attempt α) (k : Nat) (a : Attempt α) : Nat → Attempt α :=
  Function.update attempts k a

theorem record_of_lt {a : Attempt α} {i : Nat} (hi : i < k) : record attempts k a i = attempts i :=
  Function.update_of_ne (Nat.ne_of_lt hi) _ _

theorem before_record {a : Attempt α} {i : Nat} (hi : i ≤ k) :
    before r (record attempts k a) i = before r attempts i :=
  before_congr fun _ hj => record_of_lt (Nat.lt_of_lt_of_le hj hi)

/-- The recorded attempt and its delay come before the next one. -/
theorem before_record_succ {a : Attempt α} : before r (record attempts k a) (k + 1) =
    before r attempts k ++ a.exchanges ++ [delayAfter r k] := by
  rw [before, before_record (Nat.le_refl k), record, Function.update_self]

section SoFar

variable {a : Attempt α} (h : SoFar r kind call start k attempts)
  (hMade : a.Made call (r.policy kind).limit (start + elapsed (before r attempts k)))

include h hMade

theorem SoFar.made_record (i : Nat) (hi : i ≤ k) :
    (record attempts k a i).Made call (r.policy kind).limit
      (start + elapsed (before r (record attempts k a) i)) := by
  rw [before_record hi]
  rcases Nat.lt_or_eq_of_le hi with hi | rfl
  · rw [record_of_lt hi]
    exact h.made i hi
  · rw [record, Function.update_self]
    exact hMade

/-- If the next attempt is the last one, the law is complete. -/
theorem SoFar.retryLaw (hLast : settles (a.seen (r.policy kind)) = true ∨
      k = (r.policy kind).maxRetries) :
    RetryLaw r kind call start k (record attempts k a) (before r attempts k ++ a.exchanges)
      (endingOf r kind (a.seen (r.policy kind))) := by
  have hUnsettled (i : Nat) (hi : i < k) :
      settles ((record attempts k a i).seen (r.policy kind)) = false := by
    rw [record_of_lt hi]
    exact h.unsettled i hi
  have hLaw := retryLaw_of_last hUnsettled h.capped
    (by rw [record, Function.update_self]; exact hLast) (h.made_record hMade)
  rw [before_record (Nat.le_refl k), record, Function.update_self] at hLaw
  exact hLaw

/-- If it is not, it is one more attempt that did not settle the call. -/
theorem SoFar.more (hOpen : settles (a.seen (r.policy kind)) = false)
    (hMore : k < (r.policy kind).maxRetries) :
    SoFar r kind call start (k + 1) (record attempts k a) := by
  refine ⟨?_, hMore, fun i hi => h.made_record hMade i (Nat.le_of_lt_succ hi)⟩
  intro i hi
  rcases Nat.lt_or_eq_of_le (Nat.le_of_lt_succ hi) with hi | rfl
  · rw [record_of_lt hi]
    exact h.unsettled i hi
  · rw [record, Function.update_self]
    exact hOpen

end SoFar

/-- What is left of a call after some attempts completes the law. -/
theorem SoFar.exists_retryLaw (h : SoFar r kind call start k attempts)
    (hRest : TimedRuns (retryFrom r kind call k) (start + elapsed (before r attempts k)) rest
      ending)
    (hKeeps : KeepsLimit call (r.policy kind).limit
      (start + elapsed (before r attempts k ++ rest))) :
    ∃ n attempts', RetryLaw r kind call start n attempts' (before r attempts k ++ rest) ending := by
  -- by how many retries are left; each attempt is recorded when it is made
  induction hLeft : (r.policy kind).maxRetries - k using Nat.strong_induction_on
    generalizing k attempts rest with
  | _ left ih =>
      rw [retryFrom_eq] at hRest
      obtain ⟨first, outcome, second, rfl, hFirst, hSecond⟩ := timedRuns_bind_iff.mp hRest
      have hStart : start + elapsed (before r attempts k) ≤
          start + elapsed (before r attempts k ++ (first ++ second)) := by
        rw [elapsed_append]
        exact Nat.add_le_add_left (Nat.le_add_right _ _) start
      obtain ⟨callee, rfl, hSpan⟩ := Callee.exists_of_cutAt (hKeeps _ hStart _ _ hFirst)
      have hMade : Attempt.Made call (r.policy kind).limit
          (start + elapsed (before r attempts k)) ⟨callee, first⟩ := ⟨hFirst, hSpan.symm⟩
      by_cases hLast : settles (callee.outcome (r.policy kind).limit) = true ∨
          k = (r.policy kind).maxRetries
      · -- the attempt is the last one
        rw [afterAttempt_of_last hLast] at hSecond
        obtain ⟨rfl, rfl⟩ := timedRuns_done_iff.mp hSecond
        rw [List.append_nil]
        exact ⟨k, _, h.retryLaw hMade hLast⟩
      · -- a delay follows, and the next attempt
        obtain ⟨hOpen, hNotLast⟩ := not_or.mp hLast
        have hOpen : settles (callee.outcome (r.policy kind).limit) = false := by
          simpa using hOpen
        have hMore : k < (r.policy kind).maxRetries := Nat.lt_of_le_of_ne h.capped hNotLast
        rw [afterAttempt_of_retried hOpen hMore] at hSecond
        obtain ⟨_, took, after, rfl, rfl, hAfter⟩ := timedRuns_request_iff.mp hSecond
        have hWhole : before r attempts k ++ (first ++ delayAfter r k :: after) =
            before r (record attempts k ⟨callee, first⟩) (k + 1) ++ after := by
          rw [before_record_succ]
          simp
        have hTime : start + elapsed (before r (record attempts k ⟨callee, first⟩) (k + 1)) =
            start + elapsed (before r attempts k) + elapsed first + r.backoff k := by
          rw [before_record_succ]
          simp [delayAfter, Nat.add_assoc]
        have hLaw := ih _ (by omega) (h.more hMade hOpen hMore) (by rw [hTime]; exact hAfter)
          (by rw [← hWhole]; exact hKeeps) rfl
        rw [← hWhole] at hLaw
        exact hLaw

/-! ## Every series of attempts is a run -/

/-- What is left after some attempts is what follows them. -/
theorem RetryLaw.timedRuns_retryFrom (h : RetryLaw r kind call start n attempts timed ending)
    (hk : k ≤ n) (hRest : TimedRuns (retryFrom r kind call k)
      (start + elapsed (before r attempts k)) rest ending) :
    TimedRuns (retry r kind call) start (before r attempts k ++ rest) ending := by
  -- backwards, from one attempt to the one before it
  induction k generalizing rest with
  | zero => exact hRest
  | succ k ih =>
      have hMore : k < (r.policy kind).maxRetries := Nat.lt_of_lt_of_le hk h.capped
      have hMade := h.made k (Nat.le_of_lt hk)
      rw [before, List.append_assoc, List.append_assoc]
      refine ih (Nat.le_of_lt hk) ?_
      rw [retryFrom_eq]
      refine hMade.runs.bind ?_
      rw [afterAttempt_of_retried (h.unsettled k hk) hMore]
      refine timedRuns_request_iff.mpr ⟨(), r.backoff k, rest, rfl, rfl, ?_⟩
      rw [elapsed_before_succ, ← Nat.add_assoc, ← Nat.add_assoc] at hRest
      exact hRest

theorem RetryLaw.timedRuns (h : RetryLaw r kind call start n attempts timed ending) :
    TimedRuns (retry r kind call) start timed ending := by
  rw [h.exchanges]
  refine h.timedRuns_retryFrom (Nat.le_refl n) ?_
  rw [retryFrom_eq, ← List.append_nil (attempts n).exchanges]
  refine (h.made n (Nat.le_refl n)).runs.bind ?_
  rw [afterAttempt_of_last h.last, h.ending]
  exact .done _ _

end Attempts

/-- A retried call always comes to an end, and what it can do in time is exactly what the law says
of some series of attempts. -/
theorem retries_obey_law (r : Recovery) (kind : CallKind) (call : Activity (Outcome CallError α))
    (start : Millis) :
    (∀ s : TimedSurroundings, ∃ timed ending,
      TimedRuns (retry r kind call) start timed ending ∧ AnsweredInTime s start [] timed) ∧
    ∀ timed ending, KeepsLimit call (r.policy kind).limit (start + elapsed timed) →
      (TimedRuns (retry r kind call) start timed ending ↔
        ∃ n attempts, RetryLaw r kind call start n attempts timed ending) := by
  refine ⟨fun s => exists_timedRuns s _ start [], ?_⟩
  intro timed ending hKeeps
  constructor
  · intro hRun
    have hNone : SoFar r kind call start 0 fun _ => ⟨.hangs, []⟩ := ⟨nofun, Nat.zero_le _, nofun⟩
    exact hNone.exists_retryLaw hRun hKeeps
  · rintro ⟨n, attempts, hLaw⟩
    exact hLaw.timedRuns

/-- An executor that asks its delegate again twice. -/
def patient : Executor where
  router := .installed
  delegate := "delegate"
  registry := .ofList []
  governance := .allowAll
  recovery := .make 100 400 ⟨30000, 1⟩ ⟨5000, 2⟩

/-- The delegate hangs when it is asked first, and replies when it is asked again. -/
def askedTwice : List TimedExchange :=
  [⟨⟨.ask "delegate" [.user "sum"] (some 5000), .overdue⟩, 5000⟩, ⟨⟨.pause 100, ()⟩, 100⟩,
    ⟨⟨.ask "delegate" [.user "sum"] (some 5000), .value "done"⟩, 40⟩]

theorem asked_twice_obeys_law :
    TimedRuns (retry patient.recovery .model (patient.delegateOnce "sum")) 0 askedTwice
        (.value "done") ∧
      ∃ n attempts, RetryLaw patient.recovery .model (patient.delegateOnce "sum") 0 n attempts
        askedTwice (.value "done") := by
  have hRun : TimedRuns (retry patient.recovery .model (patient.delegateOnce "sum")) 0 askedTwice
      (.value "done") := by
    rw [retry, retryFrom_eq]
    refine .request ?_ (.request ?_ ?_)
    · exact rfl
    · exact rfl
    · rw [retryFrom_eq]
      refine .request ?_ (.done _ _)
      show 40 ≤ 5000
      decide
  exact ⟨hRun, ((retries_obey_law _ _ _ _).2 _ _ (patient.keepsLimit_delegateOnce "sum")).mp hRun⟩

end SteadyTask.Task
