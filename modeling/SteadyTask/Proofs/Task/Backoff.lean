import Mathlib.Tactic
import SteadyTask.Recovery

/-!
# The law of delays

Delays are meant to double with every failure until they reach the cap.  This module says what
that law gives, in closed form and as a rule for the next delay, and compares it with the delays
that are granted.  Those keep the law only as long as the factor grows, which is up to
`Recovery.lastDoubling` failures: from then on a delay below the cap stays where it is.

The longest duration there is plays no part, since no cap goes beyond it.
-/

namespace SteadyTask.Recovery

variable {firstDelay cap : Millis} {attempt : Nat}

/-- The delay after failure number `attempt` by the law: the first delay, doubled so many times,
up to the cap, which is never below the first delay. -/
def lawfulDelay (firstDelay cap : Millis) (attempt : Nat) : Millis :=
  min (firstDelay * Nat.pow 2 attempt) (max firstDelay cap)

/-- The next delay is twice the last one, up to the cap. -/
theorem lawfulDelay_succ (firstDelay cap : Millis) (attempt : Nat) :
    lawfulDelay firstDelay cap (attempt + 1) =
      min (2 * lawfulDelay firstDelay cap attempt) (max firstDelay cap) := by
  have hTwice : firstDelay * Nat.pow 2 (attempt + 1) = 2 * (firstDelay * Nat.pow 2 attempt) := by
    change firstDelay * (Nat.pow 2 attempt * 2) = _
    ring
  have hMin : ∀ a m : Nat, min (2 * a) m = min (2 * min a m) m := by
    intro a m
    omega
  rw [lawfulDelay, lawfulDelay, hTwice]
  exact hMin _ _

/-- The law gives the same delay after fewer failures exactly if they are enough for the cap, or
if there is nothing to double. -/
theorem lawfulDelay_eq_iff_of_lt {fewer : Nat} (h : fewer < attempt) :
    lawfulDelay firstDelay cap fewer = lawfulDelay firstDelay cap attempt ↔
      firstDelay = 0 ∨ max firstDelay cap ≤ firstDelay * Nat.pow 2 fewer := by
  rcases Nat.eq_zero_or_pos firstDelay with rfl | hPos
  · simp [lawfulDelay]
  · have hLess : firstDelay * Nat.pow 2 fewer < firstDelay * Nat.pow 2 attempt :=
      Nat.mul_lt_mul_of_pos_left (Nat.pow_lt_pow_right (by decide) h) hPos
    have hMin : ∀ a b m : Nat, a < b → (min a m = min b m ↔ m ≤ a) := by
      intro a b m hab
      omega
    rw [lawfulDelay, lawfulDelay, hMin _ _ _ hLess]
    simp only [hPos.ne', false_or]

section Granted

variable {tool model : RetryPolicy}

/-- The delay that is granted follows the law up to the last doubling.  The longest duration never
cuts it, since the cap does so first. -/
theorem backoff_make (hCap : max firstDelay cap ≤ Millis.longest) (attempt : Nat) :
    (make firstDelay cap tool model).backoff attempt =
      lawfulDelay firstDelay cap (min attempt lastDoubling) := by
  calc
    (make firstDelay cap tool model).backoff attempt
      = min (min (firstDelay * Nat.pow 2 (min attempt lastDoubling)) Millis.longest)
          (max cap firstDelay) := rfl
    _ = min (firstDelay * Nat.pow 2 (min attempt lastDoubling))
          (min Millis.longest (max firstDelay cap)) := by rw [min_assoc, max_comm cap]
    _ = lawfulDelay firstDelay cap (min attempt lastDoubling) := by
          rw [min_eq_right hCap, lawfulDelay]

/-- A failure is answered with a delay exactly if it can pass and retries are left, and then with
the delay that is due. -/
theorem handle_eq_retryAfter_iff {r : Recovery} {kind : CallKind} {e : CallError}
    {delay : Millis} :
    r.handle kind e attempt = .retryAfter delay ↔
      (e.isTransient = true ∧ attempt < (r.policy kind).maxRetries) ∧
        r.backoff attempt = delay := by
  unfold handle
  by_cases hTransient : e.isTransient = true
  · by_cases hLeft : attempt < (r.policy kind).maxRetries
    · simp [hTransient, hLeft]
    · simp [hTransient, hLeft]
  · simp [hTransient]

/-- The delay that is granted is the lawful one exactly up to the last doubling, or if the cap is
reached by then. -/
theorem backoff_eq_lawfulDelay_iff (hCap : max firstDelay cap ≤ Millis.longest) (attempt : Nat) :
    (make firstDelay cap tool model).backoff attempt = lawfulDelay firstDelay cap attempt ↔
      attempt ≤ lastDoubling ∨ firstDelay = 0 ∨
        max firstDelay cap ≤ firstDelay * Nat.pow 2 lastDoubling := by
  rw [backoff_make hCap]
  rcases Nat.lt_or_ge lastDoubling attempt with hLate | hEarly
  · rw [Nat.min_eq_right hLate.le, lawfulDelay_eq_iff_of_lt hLate]
    simp only [Nat.not_le.mpr hLate, false_or]
  · rw [Nat.min_eq_left hEarly]
    simp only [hEarly, true_or]

/-- The next delay is twice the last one, up to the cap, exactly before the last doubling, or if
the cap is reached by then. -/
theorem backoff_succ_iff (hCap : max firstDelay cap ≤ Millis.longest) (attempt : Nat) :
    (make firstDelay cap tool model).backoff (attempt + 1) =
        min (2 * (make firstDelay cap tool model).backoff attempt) (max firstDelay cap) ↔
      attempt < lastDoubling ∨ firstDelay = 0 ∨
        max firstDelay cap ≤ firstDelay * Nat.pow 2 lastDoubling := by
  rw [backoff_make hCap, backoff_make hCap]
  rcases Nat.lt_or_ge attempt lastDoubling with hEarly | hLate
  · rw [Nat.min_eq_left (Nat.succ_le_of_lt hEarly), Nat.min_eq_left hEarly.le, lawfulDelay_succ]
    simp only [hEarly, true_or]
  · -- both delays are the last that was doubled, and the law would double it once more
    rw [Nat.min_eq_right (Nat.le_succ_of_le hLate), Nat.min_eq_right hLate, ← lawfulDelay_succ,
      lawfulDelay_eq_iff_of_lt (Nat.lt_succ_self lastDoubling)]
    simp only [Nat.not_lt.mpr hLate, false_or]

end Granted

/-- The delay that is granted, also as the answer to a failure, is the first one doubled with every
failure up to the cap, exactly for the failures up to the last doubling, or if the cap is reached by
then, or if there is no delay at all.  For the same failures, but the last, the next delay is twice
this one, up to the cap. -/
theorem delays_double_up_to_cap_iff (hFirst : firstDelay ≤ Millis.longest)
    (hCap : cap ≤ Millis.longest) (tool model : RetryPolicy) (attempt : Nat) :
    ((make firstDelay cap tool model).backoff attempt =
        min (firstDelay * Nat.pow 2 attempt) (max firstDelay cap) ↔
      attempt ≤ lastDoubling ∨ firstDelay = 0 ∨
        max firstDelay cap ≤ firstDelay * Nat.pow 2 lastDoubling) ∧
    (∀ kind e delay, (make firstDelay cap tool model).handle kind e attempt = .retryAfter delay ↔
      (e.isTransient = true ∧
        attempt < ((make firstDelay cap tool model).policy kind).maxRetries) ∧
          (make firstDelay cap tool model).backoff attempt = delay) ∧
    ((make firstDelay cap tool model).backoff (attempt + 1) =
        min (2 * (make firstDelay cap tool model).backoff attempt) (max firstDelay cap) ↔
      attempt < lastDoubling ∨ firstDelay = 0 ∨
        max firstDelay cap ≤ firstDelay * Nat.pow 2 lastDoubling) := by
  have hBoth : max firstDelay cap ≤ Millis.longest := max_le hFirst hCap
  refine ⟨?_, ?_, ?_⟩
  · exact backoff_eq_lawfulDelay_iff hBoth attempt
  · intro kind e delay
    exact handle_eq_retryAfter_iff
  · exact backoff_succ_iff hBoth attempt

/-- The law at delays from half a second up to eight seconds, after twenty failures. -/
theorem half_second_delays_double :
    ((make 500 8000 ⟨30000, 25⟩ ⟨60000, 2⟩).backoff 20 =
        min (500 * Nat.pow 2 20) (max 500 8000) ↔
      20 ≤ lastDoubling ∨ 500 = 0 ∨ max 500 8000 ≤ 500 * Nat.pow 2 lastDoubling) ∧
    (∀ kind e delay,
      (make 500 8000 ⟨30000, 25⟩ ⟨60000, 2⟩).handle kind e 20 = .retryAfter delay ↔
        (e.isTransient = true ∧
          20 < ((make 500 8000 ⟨30000, 25⟩ ⟨60000, 2⟩).policy kind).maxRetries) ∧
            (make 500 8000 ⟨30000, 25⟩ ⟨60000, 2⟩).backoff 20 = delay) ∧
    ((make 500 8000 ⟨30000, 25⟩ ⟨60000, 2⟩).backoff 21 =
        min (2 * (make 500 8000 ⟨30000, 25⟩ ⟨60000, 2⟩).backoff 20) (max 500 8000) ↔
      20 < lastDoubling ∨ 500 = 0 ∨ max 500 8000 ≤ 500 * Nat.pow 2 lastDoubling) :=
  delays_double_up_to_cap_iff (by decide) (by decide) ⟨30000, 25⟩ ⟨60000, 2⟩ 20

/-- With a first delay of a millisecond and a cap of a thousand seconds, failure number 17 is
answered with the delay of failure number 16, half of what the law gives. -/
theorem seventeenth_delay_not_doubled :
    (make 1 1000000 ⟨1000, 20⟩ ⟨1000, 20⟩).handle .tool (.timeout "late") 17 ≠
      .retryAfter (min (1 * Nat.pow 2 17) (max 1 1000000)) := by
  decide

end SteadyTask.Recovery
