import Mathlib.Tactic
import SteadyTask.Decimal.Reading

/-!
# Whole numbers read on their own

A text is read as a natural number exactly if it is digits, with a plus sign in front or not, that
stand for a number up to the bound.  The reader compares with the bound after every digit; since
more digits never make a number smaller, it could as well wait for the last one.
-/

namespace SteadyTask.Decimal

variable {bound value n : Nat} {cs : List Char}

/-- Characters write a natural number up to a bound: digits, and maybe a plus sign in front. -/
def WritesWhole (bound : Nat) (cs : List Char) (n : Nat) : Prop :=
  ∃ digits, (cs = digits ∨ cs = '+' :: digits) ∧ digits ≠ [] ∧ (∀ c ∈ digits, isDigit c = true) ∧
    digitsValue digits = n ∧ n ≤ bound

theorem digitsValue_eq_ofDigitChars (digits : List Char) :
    digitsValue digits = Nat.ofDigitChars 10 digits 0 := by
  simp only [digitsValue, Nat.ofDigitChars, Nat.mul_comm]

/-- More digits never make a number smaller. -/
theorem le_ofDigitChars (digits : List Char) (n : Nat) : n ≤ Nat.ofDigitChars 10 digits n := by
  induction digits generalizing n with
  | nil => simp
  | cons c digits ih =>
      rw [Nat.ofDigitChars_cons]
      exact le_trans (by omega) (ih _)

theorem digitValue?_eq_some_iff {c : Char} {d : Nat} :
    digitValue? c = some d ↔ isDigit c = true ∧ c.toNat - '0'.toNat = d := by
  by_cases hc : '0' ≤ c ∧ c ≤ '9'
  · simp [isDigit, digitValue?, hc]
  · simp [isDigit, digitValue?, hc]

/-- Digits are read on top of a value exactly if all of them are digits and the number that they
make is within the bound. -/
theorem boundedDigits_eq_ok_iff (hValue : value ≤ bound) :
    boundedDigits bound cs value = .ok n ↔
      (∀ c ∈ cs, isDigit c = true) ∧ Nat.ofDigitChars 10 cs value = n ∧ n ≤ bound := by
  induction cs generalizing value with
  | nil =>
      simp only [boundedDigits, Except.ok.injEq, Nat.ofDigitChars_nil]
      constructor
      · rintro rfl
        exact ⟨List.forall_mem_nil _, rfl, hValue⟩
      · rintro ⟨-, rfl, -⟩
        rfl
  | cons c cs ih =>
      rw [boundedDigits, Nat.ofDigitChars_cons, Nat.mul_comm 10, List.forall_mem_cons]
      cases hDigit : digitValue? c with
      | none =>
          have hNot : isDigit c = false := by rw [isDigit, hDigit, Option.isSome_none]
          simp [hNot]
      | some d =>
          obtain ⟨hIs, rfl⟩ := digitValue?_eq_some_iff.mp hDigit
          simp only [hIs, true_and]
          split
          · next hOver =>
              -- whatever follows, the number stays past the bound
              have hMore := le_ofDigitChars cs (value * 10 + (c.toNat - '0'.toNat))
              constructor
              · intro h
                cases h
              · rintro ⟨-, rfl, hWithin⟩
                omega
          · next hWithin => exact ih (Nat.not_lt.mp hWithin)

/-- A text is read as a number up to a bound exactly if it writes that number. -/
theorem readNat_eq_ok_iff : readNat bound cs = .ok n ↔ WritesWhole bound cs n := by
  have hRead : ∀ digits : List Char, boundedDigits bound digits 0 = .ok n ↔
      (∀ c ∈ digits, isDigit c = true) ∧ digitsValue digits = n ∧ n ≤ bound := by
    intro digits
    rw [boundedDigits_eq_ok_iff (Nat.zero_le bound), digitsValue_eq_ofDigitChars]
  have hPlus : isDigit '+' = false := by decide
  unfold readNat WritesWhole
  split
  · simp
  · -- a sign alone is no number
    simp [hPlus]
  · next digits hNe =>
      have hNotNil : digits ≠ [] := fun hNil => hNe hNil
      rw [hRead]
      constructor
      · intro h
        exact ⟨digits, .inr rfl, hNotNil, h⟩
      · rintro ⟨others, rfl | hSign, -, hDigits, hNumber⟩
        · rw [hDigits '+' List.mem_cons_self] at hPlus
          cases hPlus
        · cases hSign
          exact ⟨hDigits, hNumber⟩
  · next hNil _ hNoSign =>
      rw [hRead]
      constructor
      · intro h
        exact ⟨cs, .inl rfl, hNil, h⟩
      · rintro ⟨digits, rfl | rfl, -, h⟩
        · exact h
        · exact absurd rfl (hNoSign digits)

end SteadyTask.Decimal
