import Mathlib.Data.List.DropRight
import Mathlib.Tactic
import SteadyTask.Text.Search

/-!
# Occurrences of a pattern

Splitting around the first occurrence of a pattern finds one exactly if the pattern stands
somewhere in the characters, and what it splits off is what stands before and after it.
-/

namespace SteadyTask.Text

theorem afterStart?_eq_some_iff {pattern cs rest : List Char} :
    afterStart? pattern cs = some rest ↔ cs = pattern ++ rest := by
  induction pattern generalizing cs with
  | nil =>
      rw [afterStart?, List.nil_append]
      exact Option.some_inj
  | cons p pattern ih =>
      cases cs with
      | nil => simp [afterStart?]
      | cons c cs =>
          by_cases hc : p = c
          · subst hc
            simp [afterStart?, ih]
          · simp [afterStart?, hc, Ne.symm hc]

theorem afterStart?_eq_none_iff {pattern cs : List Char} :
    afterStart? pattern cs = none ↔ ¬ pattern <+: cs := by
  rw [Option.eq_none_iff_forall_ne_some]
  constructor
  · rintro h ⟨rest, hRest⟩
    exact h rest (afterStart?_eq_some_iff.mpr hRest.symm)
  · intro h rest hRest
    exact h ⟨rest, (afterStart?_eq_some_iff.mp hRest).symm⟩

theorem startsWith_iff {pattern cs : List Char} :
    startsWith pattern cs = true ↔ pattern <+: cs := by
  rw [startsWith, Option.isSome_iff_exists]
  constructor
  · rintro ⟨rest, hRest⟩
    exact ⟨rest, (afterStart?_eq_some_iff.mp hRest).symm⟩
  · rintro ⟨rest, hRest⟩
    exact ⟨rest, afterStart?_eq_some_iff.mpr hRest.symm⟩

/-- Nothing is split off exactly if the pattern stands nowhere. -/
theorem splitFirst?_eq_none_iff {pattern cs : List Char} :
    splitFirst? pattern cs = none ↔ ¬ pattern <:+: cs := by
  induction cs with
  | nil => simp [splitFirst?, afterStart?_eq_none_iff]
  | cons c cs ih =>
      rw [splitFirst?, List.infix_cons_iff, not_or, ← afterStart?_eq_none_iff, ← ih]
      cases afterStart? pattern (c :: cs) with
      | some rest => simp
      | none => simp

/-- What is split off stands before and after the pattern. -/
theorem eq_append_of_splitFirst? {pattern cs before after : List Char}
    (h : splitFirst? pattern cs = some (before, after)) : cs = before ++ (pattern ++ after) := by
  induction cs generalizing before with
  | nil =>
      rw [splitFirst?, Option.map_eq_some_iff] at h
      obtain ⟨rest, hRest, hPair⟩ := h
      cases hPair
      rw [List.nil_append]
      exact afterStart?_eq_some_iff.mp hRest
  | cons c cs ih =>
      rw [splitFirst?] at h
      split at h
      · next rest hRest =>
          cases h
          rw [List.nil_append]
          exact afterStart?_eq_some_iff.mp hRest
      · rw [Option.map_eq_some_iff] at h
        obtain ⟨⟨front, back⟩, hSplit, hPair⟩ := h
        cases hPair
        rw [List.cons_append, ← ih hSplit]

section First

variable {pattern cs before after : List Char}

theorem isPrefix_append_dropLast (before pattern after : List Char) :
    before ++ pattern.dropLast <+: before ++ (pattern ++ after) :=
  (List.prefix_append_right_inj before).mpr
    ((List.dropLast_prefix pattern).trans (List.prefix_append pattern after))

/-- The pattern does not end anywhere before the end of what is split off. -/
theorem not_infix_of_splitFirst? (hNe : pattern ≠ [])
    (h : splitFirst? pattern cs = some (before, after)) :
    ¬ pattern <:+: before ++ pattern.dropLast := by
  induction cs generalizing before with
  | nil =>
      have hNil : [] = before ++ (pattern ++ after) := eq_append_of_splitFirst? h
      simp [hNe] at hNil
  | cons c cs ih =>
      rw [splitFirst?] at h
      split at h
      · cases h
        intro hInfix
        have hLength := hInfix.length_le
        have hPos : 0 < pattern.length := List.length_pos_iff.mpr hNe
        rw [List.nil_append, List.length_dropLast] at hLength
        omega
      · next hNone =>
          rw [Option.map_eq_some_iff] at h
          obtain ⟨⟨front, back⟩, hSplit, hPair⟩ := h
          cases hPair
          rw [List.cons_append, List.infix_cons_iff]
          rintro (hPrefix | hInfix)
          · -- then the pattern would have been found at once
            refine afterStart?_eq_none_iff.mp hNone (hPrefix.trans ?_)
            rw [eq_append_of_splitFirst? hSplit]
            exact List.cons_prefix_cons.mpr ⟨rfl, isPrefix_append_dropLast _ _ _⟩
          · exact ih hSplit hInfix

/-- A pattern that does not end anywhere before is split off. -/
theorem splitFirst?_append (hNe : pattern ≠ []) (h : ¬ pattern <:+: before ++ pattern.dropLast)
    (after : List Char) :
    splitFirst? pattern (before ++ (pattern ++ after)) = some (before, after) := by
  induction before with
  | nil =>
      have hStart : afterStart? pattern (pattern ++ after) = some after :=
        afterStart?_eq_some_iff.mpr rfl
      rw [List.nil_append]
      cases hAll : pattern ++ after with
      | nil => exact absurd (List.append_eq_nil_iff.mp hAll).1 hNe
      | cons c cs =>
          rw [hAll] at hStart
          rw [splitFirst?, hStart]
  | cons c before ih =>
      rw [List.cons_append, List.infix_cons_iff, not_or] at h
      have hNone : afterStart? pattern (c :: (before ++ (pattern ++ after))) = none := by
        -- a pattern that came first would end before the last character of the one there is
        refine afterStart?_eq_none_iff.mpr fun hPrefix => h.1 ?_
        refine List.prefix_of_prefix_length_le hPrefix
          (isPrefix_append_dropLast (c :: before) pattern after) ?_
        simp only [List.length_cons, List.length_append, List.length_dropLast]
        omega
      rw [List.cons_append, splitFirst?, hNone, ih h.2]
      rfl

/-- The first occurrence is split off. -/
theorem splitFirst?_eq_some_iff (hNe : pattern ≠ []) :
    splitFirst? pattern cs = some (before, after) ↔
      cs = before ++ (pattern ++ after) ∧ ¬ pattern <:+: before ++ pattern.dropLast := by
  constructor
  · exact fun h => ⟨eq_append_of_splitFirst? h, not_infix_of_splitFirst? hNe h⟩
  · rintro ⟨rfl, h⟩
    exact splitFirst?_append hNe h after

end First

/-- A pattern that lacks a character and comes first ends before that character. -/
theorem prefix_of_prefix_append_cons {pattern before after : List Char} {c : Char}
    (hc : c ∉ pattern) (h : pattern <+: before ++ c :: after) : pattern <+: before := by
  induction pattern generalizing before with
  | nil => exact List.nil_prefix
  | cons p pattern ih =>
      rw [List.mem_cons, not_or] at hc
      cases before with
      | nil => exact absurd (List.cons_prefix_cons.mp h).1.symm hc.1
      | cons d before =>
          obtain ⟨hHead, hTail⟩ := List.cons_prefix_cons.mp h
          exact List.cons_prefix_cons.mpr ⟨hHead, ih hc.2 hTail⟩

/-- What the pattern does not start with can be left out in front. -/
theorem infix_append_iff_of_notMem {p : Char} {pattern front rest : List Char}
    (hp : p ∉ front) : p :: pattern <:+: front ++ rest ↔ p :: pattern <:+: rest := by
  induction front with
  | nil => rfl
  | cons c front ih =>
      rw [List.mem_cons, not_or] at hp
      have hNot : ¬ p :: pattern <+: c :: (front ++ rest) := by
        intro h
        exact hp.1 (List.cons_prefix_cons.mp h).1
      rw [List.cons_append, List.infix_cons_iff, ih hp.2]
      exact or_iff_right hNot

/-- What the pattern does not end with can be left out behind. -/
theorem concat_infix_append_iff_of_notMem {p : Char} {pattern front back : List Char}
    (hp : p ∉ back) : pattern ++ [p] <:+: front ++ back ↔ pattern ++ [p] <:+: front := by
  rw [← List.reverse_infix, List.reverse_append, List.reverse_append, List.reverse_singleton,
    List.singleton_append, infix_append_iff_of_notMem (by simpa using hp), ← List.reverse_infix,
    List.reverse_cons, List.reverse_reverse, List.reverse_reverse]

/-- A pattern that lacks a character stands on one side of that character. -/
theorem infix_append_cons_iff {pattern before after : List Char} {c : Char} (hc : c ∉ pattern) :
    pattern <:+: before ++ c :: after ↔ pattern <:+: before ∨ pattern <:+: after := by
  constructor
  · intro h
    induction before with
    | nil =>
        rw [List.nil_append, List.infix_cons_iff] at h
        rcases h with h | h
        · cases pattern with
          | nil => exact Or.inl List.nil_infix
          | cons p pattern =>
              exact absurd (List.cons_prefix_cons.mp h).1 (fun hEq => hc (by simp [hEq]))
        · exact Or.inr h
    | cons d before ih =>
        rw [List.cons_append, List.infix_cons_iff] at h
        rcases h with h | h
        · have hPrefix : pattern <+: d :: before := prefix_of_prefix_append_cons hc h
          exact Or.inl hPrefix.isInfix
        · rcases ih h with h | h
          · exact Or.inl (h.trans (List.suffix_cons _ _).isInfix)
          · exact Or.inr h
  · rintro (h | h)
    · exact h.trans (List.prefix_append _ _).isInfix
    · exact h.trans ((List.suffix_cons _ _).isInfix.trans (List.suffix_append _ _).isInfix)

/-! ## The last one -/

section Last

variable {test : Char → Bool} {c : Char} {cs before after : List Char}

theorem dropWhile_reverse_append_cons (hc : test c = true) (h : ∀ d ∈ after, test d = false) :
    (before ++ c :: after).reverse.dropWhile (fun d => !test d) = c :: before.reverse := by
  rw [List.reverse_append, List.reverse_cons, List.append_assoc,
    List.dropWhile_append_of_pos (by simpa using h)]
  exact List.dropWhile_cons_of_neg (by simp [hc])

/-- What stands behind the last one is left out. -/
theorem throughLast?_append_cons (hc : test c = true) (h : ∀ d ∈ after, test d = false) :
    throughLast? test (before ++ c :: after) = some (before ++ [c]) := by
  rw [throughLast?, dropWhile_reverse_append_cons hc h]
  simp

theorem throughLast?_eq_none (h : ∀ d ∈ cs, test d = false) : throughLast? test cs = none := by
  have hAll : cs.reverse.dropWhile (fun d => !test d) = [] :=
    List.dropWhile_eq_nil_iff.mpr (by simpa using h)
  rw [throughLast?, hAll]

end Last

end SteadyTask.Text
