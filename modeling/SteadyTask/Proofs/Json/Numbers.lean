import Mathlib.Data.List.TakeWhile
import Mathlib.Tactic
import SteadyTask.Json.Printer
import SteadyTask.Proofs.Decimal.Whole
import SteadyTask.Proofs.Json.Steps

/-!
# Numbers read back

The digits of a natural number are read back as that number, and a reader of numbers that stops
at the end of some characters stops at the same place when something follows that cannot go on a
number.  The second fact is what lets a number stand inside an array or an object; it holds of
every number the reader takes, not only of those that were printed.

Nothing is said here about which binary number a decimal text stands for.
-/

namespace SteadyTask.Json

/-- What follows cannot go on a number: no digit, point or exponent comes first. -/
def EndsNumber (rest : List Char) : Prop :=
  ∀ c ∈ rest.head?, Decimal.isDigit c = false ∧ c ≠ '.' ∧ c ≠ 'e' ∧ c ≠ 'E'

theorem endsNumber_nil : EndsNumber [] := by
  intro c hc
  cases hc

theorem endsNumber_cons {c : Char} {rest : List Char}
    (h : Decimal.isDigit c = false ∧ c ≠ '.' ∧ c ≠ 'e' ∧ c ≠ 'E') : EndsNumber (c :: rest) := by
  intro d hd
  cases hd
  exact h

/-! ## Digits -/

theorem isDigit_of_charIsDigit {c : Char} (h : c.isDigit = true) : Decimal.isDigit c = true := by
  have hRange : '0' ≤ c ∧ c ≤ '9' := by
    simpa [Char.isDigit, Char.le_def] using h
  simp [Decimal.isDigit, Decimal.digitValue?, hRange]

theorem isDigit_of_mem_toDigits {n : Nat} {c : Char} (h : c ∈ Nat.toDigits 10 n) :
    Decimal.isDigit c = true :=
  isDigit_of_charIsDigit (Nat.isDigit_of_mem_toDigits (by decide) (by decide) h)

/-- Only zero is written with a zero in front. -/
theorem head_toDigits_ne_zero {n : Nat} (hn : n ≠ 0) : (Nat.toDigits 10 n).head? ≠ some '0' := by
  -- all digits but the last are those of the quotient by ten
  induction n using Nat.strong_induction_on with
  | _ n ih =>
      rcases Nat.lt_or_ge n 10 with hSmall | hLarge
      · rw [Nat.toDigits_of_lt_base hSmall]
        simpa using hn
      · have hQuotient : (Nat.toDigits 10 (n / 10)).head? ≠ some '0' :=
          ih (n / 10) (by omega) (by omega)
        rw [Nat.toDigits_of_base_le (by decide) hLarge,
          List.head?_append_of_ne_nil _ Nat.toDigits_ne_nil]
        exact hQuotient

/-- The digits that some characters start with end where these characters end, or earlier. -/
theorem leadingDigits_append (cs : List Char) {rest : List Char} (hRest : EndsNumber rest) :
    Decimal.leadingDigits (cs ++ rest) =
      ((Decimal.leadingDigits cs).1, (Decimal.leadingDigits cs).2 ++ rest) := by
  induction cs with
  | nil =>
      cases rest with
      | nil => rfl
      | cons c rest =>
          have hc : Decimal.isDigit c = false := (hRest c rfl).1
          simp [Decimal.leadingDigits, hc]
  | cons c cs ih =>
      simp only [Decimal.leadingDigits, Prod.mk.injEq] at ih ⊢
      by_cases hc : Decimal.isDigit c = true
      · simp [hc, ih]
      · simp [hc]

theorem leadingDigits_of_all {ds : List Char} (h : ∀ c ∈ ds, Decimal.isDigit c = true) :
    Decimal.leadingDigits ds = (ds, []) := by
  simp only [Decimal.leadingDigits, Prod.mk.injEq]
  exact ⟨List.takeWhile_eq_self_iff.mpr h, List.dropWhile_eq_nil_iff.mpr h⟩

/-- Digits that together fit in 64 bits are all taken up. -/
theorem fitDigits_of_le (ds : List Char) (n : Nat) (h : Nat.ofDigitChars 10 ds n ≤ maxWord) :
    fitDigits n ds = (Nat.ofDigitChars 10 ds n, ds.length, 0) := by
  induction ds generalizing n with
  | nil => simp [fitDigits]
  | cons c ds ih =>
      rw [Nat.ofDigitChars_cons, Nat.mul_comm] at h ⊢
      have hNext : n * 10 + (c.toNat - '0'.toNat) ≤ maxWord :=
        le_trans (Decimal.le_ofDigitChars ds _) h
      rw [fitDigits, if_neg (Nat.not_lt.mpr hNext), ih _ h]
      rfl

/-- A natural number of 64 bits is read from its digits. -/
theorem readNumber_toDigits (positive : Bool) {n : Nat} (h : n ≤ maxWord) :
    readNumber positive (Nat.toDigits 10 n) = .ok (wholeOf positive n, []) := by
  have hDigits : Decimal.leadingDigits (Nat.toDigits 10 n) = (Nat.toDigits 10 n, []) :=
    leadingDigits_of_all fun c hc => isDigit_of_mem_toDigits hc
  have hFit : fitDigits 0 (Nat.toDigits 10 n) = (n, (Nat.toDigits 10 n).length, 0) := by
    rw [fitDigits_of_le _ _ (by rw [Nat.ofDigitChars_ten_toDigits]; exact h),
      Nat.ofDigitChars_ten_toDigits]
  -- a zero with a digit behind it would be refused, but only zero starts with a zero
  have hFront : ∀ c more, Nat.toDigits 10 n ≠ '0' :: c :: more := by
    intro c more hEq
    have hZero : n = 0 := by
      by_contra hn
      exact head_toDigits_ne_zero hn (by rw [hEq]; rfl)
    rw [hZero, Nat.toDigits_zero] at hEq
    cases hEq
  rw [readNumber, hDigits]
  simp only
  split
  · next hNil _ => exact absurd hNil Nat.toDigits_ne_nil
  · next hNil _ => exact absurd hNil Nat.toDigits_ne_nil
  · next hEq => exact absurd hEq (hFront _ _)
  · simp [hFit, readAfterDigits]

/-! ## What follows a number -/

section Following

variable {positive : Bool} {significand : Nat} {start : Int} {cs left rest : List Char} {n : Number}

theorem exponentSign_cons_append (c : Char) (cs rest : List Char) :
    exponentSign (c :: cs ++ rest) =
      ((exponentSign (c :: cs)).1, (exponentSign (c :: cs)).2 ++ rest) := by
  by_cases hPlus : c = '+'
  · subst hPlus
    rfl
  · by_cases hMinus : c = '-'
    · subst hMinus
      rfl
    · simp [exponentSign, hPlus, hMinus]

/-- What a number is scaled to does not depend on what follows it. -/
theorem map_rest_append {scaled : Except Fault Number} {between : List Char}
    (h : scaled.map (·, between) = .ok (n, left)) (rest : List Char) :
    scaled.map (·, between ++ rest) = .ok (n, left ++ rest) := by
  cases scaled with
  | error e => cases h
  | ok m =>
      cases h
      rfl

theorem readExponent_append
    (h : readExponent positive significand start cs = .ok (n, left)) (hRest : EndsNumber rest) :
    readExponent positive significand start (cs ++ rest) = .ok (n, left ++ rest) := by
  -- an exponent without a digit is refused, so the characters do not end at once
  cases cs with
  | nil => simp [readExponent, exponentSign, Decimal.leadingDigits] at h
  | cons c cs =>
      simp only [readExponent, exponentSign_cons_append, leadingDigits_append _ hRest] at h ⊢
      split at h
      · cases h
      · cases h
      · next hDigits =>
          rw [hDigits] at h ⊢
          simp only at h ⊢
          split at h
          · next hSize =>
              rw [if_pos hSize]
              split at h
              · cases h
              · next hZero =>
                  rw [if_neg hZero]
                  cases h
                  rfl
          · next hSize =>
              rw [if_neg hSize]
              exact map_rest_append h rest

/-- What starts neither alone nor in what follows with a character does not start with it. -/
theorem ne_cons_of_append {c : Char} (hCs : ∀ after, cs = c :: after → False)
    (hRest : ∀ d ∈ rest.head?, d ≠ c) (after : List Char) : cs ++ rest = c :: after → False := by
  intro hEq
  cases cs with
  | nil =>
      rw [List.nil_append] at hEq
      exact hRest c (by rw [hEq]; rfl) rfl
  | cons d cs =>
      cases hEq
      exact hCs cs rfl

theorem readScale_append
    (h : readScale positive significand start cs = .ok (n, left)) (hRest : EndsNumber rest) :
    readScale positive significand start (cs ++ rest) = .ok (n, left ++ rest) := by
  unfold readScale at h
  split at h
  · exact readExponent_append h hRest
  · exact readExponent_append h hRest
  · next hLower hUpper =>
      -- there is no exponent, and what follows must not be taken for one
      have hNoLower := ne_cons_of_append hLower fun d hd => (hRest d hd).2.2.1
      have hNoUpper := ne_cons_of_append hUpper fun d hd => (hRest d hd).2.2.2
      rw [readScale.eq_3 _ _ _ _ hNoLower hNoUpper]
      exact map_rest_append h rest

theorem readFraction_append
    (h : readFraction positive significand start cs = .ok (n, left)) (hRest : EndsNumber rest) :
    readFraction positive significand start (cs ++ rest) = .ok (n, left ++ rest) := by
  simp only [readFraction, leadingDigits_append _ hRest] at h ⊢
  split at h
  · cases h
  · cases h
  · next hDigits =>
      rw [hDigits] at h ⊢
      exact readScale_append h hRest

theorem readAfterDigits_append {excess : Nat}
    (h : readAfterDigits positive significand excess cs = .ok (n, left)) (hRest : EndsNumber rest) :
    readAfterDigits positive significand excess (cs ++ rest) = .ok (n, left ++ rest) := by
  unfold readAfterDigits at h
  split at h
  · exact readFraction_append h hRest
  · exact readExponent_append h hRest
  · exact readExponent_append h hRest
  · next hPoint hLower hUpper =>
      -- neither point nor exponent here, and none in what follows
      have hNoPoint := ne_cons_of_append hPoint fun d hd => (hRest d hd).2.1
      have hNoLower := ne_cons_of_append hLower fun d hd => (hRest d hd).2.2.1
      have hNoUpper := ne_cons_of_append hUpper fun d hd => (hRest d hd).2.2.2
      rw [readAfterDigits.eq_4 _ _ _ _ hNoPoint hNoLower hNoUpper]
      split at h
      · next hFits =>
          rw [if_pos hFits]
          cases h
          rfl
      · next hOver =>
          rw [if_neg hOver]
          exact map_rest_append h rest

/-- A number that is read from some characters is read from them also where something follows
that cannot go on the number. -/
theorem readNumber_append
    (h : readNumber positive cs = .ok (n, left)) (hRest : EndsNumber rest) :
    readNumber positive (cs ++ rest) = .ok (n, left ++ rest) := by
  simp only [readNumber, leadingDigits_append _ hRest] at h ⊢
  split at h
  · cases h
  · cases h
  · cases h
  · next hFront hDigits =>
      rw [hDigits] at h ⊢
      split
      · next hNone _ => cases hNone
      · next hNone _ => cases hNone
      · next hZero =>
          cases hZero
          exact (hFront _ _ rfl rfl).elim
      · exact readAfterDigits_append h hRest

/-! ## What a number takes -/

/-- A character that a number can be written with. -/
def IsNumeral (c : Char) : Prop :=
  Decimal.isDigit c = true ∨ c ∈ ['.', 'e', 'E', '+', '-']

instance (c : Char) : Decidable (IsNumeral c) :=
  inferInstanceAs (Decidable (_ ∨ _))

/-- Only characters of a number stand in front of what is left. -/
def TakesNumeral (cs left : List Char) : Prop :=
  ∃ taken, cs = taken ++ left ∧ ∀ c ∈ taken, IsNumeral c

namespace TakesNumeral

theorem refl (cs : List Char) : TakesNumeral cs cs :=
  ⟨[], rfl, by simp⟩

theorem trans (h : TakesNumeral cs left) (h' : TakesNumeral left rest) : TakesNumeral cs rest := by
  obtain ⟨taken, rfl, hTaken⟩ := h
  obtain ⟨more, rfl, hMore⟩ := h'
  refine ⟨taken ++ more, (List.append_assoc _ _ _).symm, ?_⟩
  intro c hc
  rcases List.mem_append.mp hc with hc | hc
  · exact hTaken c hc
  · exact hMore c hc

theorem cons {c : Char} (hc : IsNumeral c) (h : TakesNumeral cs left) :
    TakesNumeral (c :: cs) left := by
  obtain ⟨taken, rfl, hTaken⟩ := h
  exact ⟨c :: taken, rfl, List.forall_mem_cons.mpr ⟨hc, hTaken⟩⟩

theorem suffix (h : TakesNumeral cs left) : left <:+ cs := by
  obtain ⟨taken, rfl, -⟩ := h
  exact List.suffix_append _ _

/-- What is a number from end to end holds no other characters. -/
theorem notMem {c : Char} (h : TakesNumeral cs []) (hc : ¬ IsNumeral c) : c ∉ cs := by
  obtain ⟨taken, rfl, hTaken⟩ := h
  rw [List.append_nil]
  exact fun hMem => hc (hTaken c hMem)

end TakesNumeral

theorem leadingDigits_takes (cs : List Char) : TakesNumeral cs (Decimal.leadingDigits cs).2 :=
  ⟨cs.takeWhile Decimal.isDigit, List.takeWhile_append_dropWhile.symm,
    fun _ hc => Or.inl (List.mem_takeWhile_imp hc)⟩

theorem exponentSign_takes (cs : List Char) : TakesNumeral cs (exponentSign cs).2 := by
  unfold exponentSign
  split
  · exact .cons (Or.inr (by decide)) (.refl _)
  · exact .cons (Or.inr (by decide)) (.refl _)
  · exact .refl _

theorem takes_of_map_ok {scaled : Except Fault Number}
    (h : scaled.map (·, cs) = .ok (n, left)) : TakesNumeral cs left := by
  cases scaled with
  | error e => cases h
  | ok m =>
      cases h
      exact .refl _

theorem readExponent_takes (h : readExponent positive significand start cs = .ok (n, left)) :
    TakesNumeral cs left := by
  have hDigits := (exponentSign_takes cs).trans (leadingDigits_takes _)
  simp only [readExponent] at h
  split at h
  · cases h
  · cases h
  · split at h
    · split at h
      · cases h
      · cases h
        exact hDigits
    · exact hDigits.trans (takes_of_map_ok h)

theorem readScale_takes (h : readScale positive significand start cs = .ok (n, left)) :
    TakesNumeral cs left := by
  unfold readScale at h
  split at h
  · exact .cons (Or.inr (by decide)) (readExponent_takes h)
  · exact .cons (Or.inr (by decide)) (readExponent_takes h)
  · exact takes_of_map_ok h

theorem readFraction_takes (h : readFraction positive significand start cs = .ok (n, left)) :
    TakesNumeral cs left := by
  simp only [readFraction] at h
  split at h
  · cases h
  · cases h
  · exact (leadingDigits_takes cs).trans (readScale_takes h)

theorem readAfterDigits_takes {excess : Nat}
    (h : readAfterDigits positive significand excess cs = .ok (n, left)) :
    TakesNumeral cs left := by
  unfold readAfterDigits at h
  split at h
  · exact .cons (Or.inr (by decide)) (readFraction_takes h)
  · exact .cons (Or.inr (by decide)) (readExponent_takes h)
  · exact .cons (Or.inr (by decide)) (readExponent_takes h)
  · split at h
    · cases h
      exact .refl _
    · exact takes_of_map_ok h

/-- Only characters of a number are taken where a number is read. -/
theorem readNumber_takes (h : readNumber positive cs = .ok (n, left)) : TakesNumeral cs left := by
  simp only [readNumber] at h
  split at h
  · cases h
  · cases h
  · cases h
  · exact (leadingDigits_takes cs).trans (readAfterDigits_takes h)

end Following

/-! ## The text of a binary number -/

/-- No character of a text may stand between tokens. -/
def Unspaced (s : String) : Prop :=
  ∀ c ∈ s.toList, isSpace c = false

theorem isSpace_of_isDigit {c : Char} (h : Decimal.isDigit c = true) : isSpace c = false := by
  by_contra hSpace
  rw [Bool.not_eq_false] at hSpace
  simp only [isSpace, Bool.or_eq_true, decide_eq_true_eq] at hSpace
  rcases hSpace with ((rfl | rfl) | rfl) | rfl <;> exact absurd h (by decide)

theorem Unspaced.append {s t : String} (hs : Unspaced s) (ht : Unspaced t) : Unspaced (s ++ t) := by
  intro c hc
  rw [String.toList_append, List.mem_append] at hc
  rcases hc with hc | hc
  · exact hs c hc
  · exact ht c hc

theorem unspaced_ofList {cs : List Char} (h : ∀ c ∈ cs, isSpace c = false) :
    Unspaced (String.ofList cs) := by
  intro c hc
  rw [String.toList_ofList] at hc
  exact h c hc

theorem isSpace_of_mem_toDigits {n : Nat} {c : Char} (h : c ∈ Nat.toDigits 10 n) :
    isSpace c = false :=
  isSpace_of_isDigit (isDigit_of_mem_toDigits h)

theorem unspaced_digitText (n : Nat) : Unspaced (Decimal.digitText n) :=
  unspaced_ofList fun _ hc => isSpace_of_mem_toDigits hc

theorem unspaced_zeros (count : Nat) : Unspaced (Decimal.zeros count) := by
  apply unspaced_ofList
  intro c hc
  rw [List.eq_of_mem_replicate hc]
  decide

theorem unspaced_literal {s : String} (h : s.toList.all (fun c => !isSpace c) = true) :
    Unspaced s := by
  intro c hc
  simpa using List.all_eq_true.mp h c hc

theorem unspaced_positional {whole : String} (h : Unspaced whole) (s : Decimal.Scaled) :
    Unspaced (Decimal.positional whole s) := by
  have hDigits : ∀ c ∈ (Decimal.digitText s.digits).toList, isSpace c = false :=
    unspaced_digitText s.digits
  unfold Decimal.positional
  split
  · exact ((unspaced_digitText _).append (unspaced_zeros _)).append h
  · simp only
    split
    · exact ((unspaced_literal (by decide)).append (unspaced_zeros _)).append (unspaced_digitText _)
    · refine (Unspaced.append (unspaced_ofList ?_) (unspaced_literal (by decide))).append
        (unspaced_ofList ?_)
      · exact fun c hc => hDigits c (List.mem_of_mem_take hc)
      · exact fun c hc => hDigits c (List.mem_of_mem_drop hc)

theorem unspaced_exponential (s : Decimal.Scaled) : Unspaced (Decimal.exponential s) := by
  have hDigits : ∀ c ∈ Nat.toDigits 10 s.digits, isSpace c = false :=
    fun c hc => isSpace_of_mem_toDigits hc
  unfold Decimal.exponential
  simp only
  refine Unspaced.append (Unspaced.append (Unspaced.append ?_ (unspaced_literal (by decide))) ?_)
    (unspaced_digitText _)
  · split
    · exact unspaced_literal (by decide)
    · next hOne => exact unspaced_ofList (by rw [← hOne]; exact hDigits)
    · next d rest _ hMany =>
        rw [hMany] at hDigits
        apply unspaced_ofList
        intro c hc
        rcases List.mem_cons.mp hc with rfl | hc
        · exact hDigits c List.mem_cons_self
        · rcases List.mem_cons.mp hc with rfl | hc
          · decide
          · exact hDigits c (List.mem_cons_of_mem _ hc)
  · split <;> exact unspaced_literal (by decide)

theorem unspaced_floatText (x : Float) : Unspaced (floatText x) := by
  unfold floatText Decimal.jsonText?
  split
  · exact unspaced_literal (by decide)
  · exact unspaced_literal (by decide)
  · simp only [Option.getD_some]
    have hText : ∀ s, Unspaced s → ∀ negative, Unspaced (Decimal.signed negative s) := by
      intro s hs negative
      cases negative with
      | false => exact hs
      | true => exact (unspaced_literal (by decide)).append hs
    apply hText
    split
    · exact unspaced_literal (by decide)
    · split
      · exact unspaced_positional (unspaced_literal (by decide)) _
      · exact unspaced_exponential _

end SteadyTask.Json
