import Mathlib.Data.List.TakeWhile
import Mathlib.Tactic
import SteadyTask.Text.Blank

/-!
# Words

The words of some characters are the runs between their blanks.  `CutInto` says so without a way to
find them, and `wordChars_eq_iff` that they are what the cutting finds.  A word is whole: what
follows it is a blank or nothing.
-/

namespace SteadyTask.Text

/-- Characters are these words, with blanks around and between them. -/
inductive CutInto : List Char → List (List Char) → Prop
  | nil : CutInto [] []
  | blank {c : Char} {cs : List Char} {words : List (List Char)} (hBlank : isBlank c = true)
      (hRest : CutInto cs words) : CutInto (c :: cs) words
  | word {w cs : List Char} {words : List (List Char)} (hNe : w ≠ [])
      (hWord : ∀ c ∈ w, isBlank c = false) (hEnd : ∀ c ∈ cs.head?, isBlank c = true)
      (hRest : CutInto cs words) : CutInto (w ++ cs) (w :: words)

variable {c : Char} {cs w : List Char} {words : List (List Char)}

theorem wordChars_cons_of_blank (h : isBlank c = true) (cs : List Char) :
    wordChars (c :: cs) = wordChars cs := by
  cases cs with
  | nil => simp [wordChars, h]
  | cons d cs => simp [wordChars, h]

/-- A run without a blank that is followed by a blank or nothing is the first word. -/
theorem wordChars_append_of_word (hNe : w ≠ []) (hWord : ∀ c ∈ w, isBlank c = false)
    (hEnd : ∀ c ∈ cs.head?, isBlank c = true) : wordChars (w ++ cs) = w :: wordChars cs := by
  induction w with
  | nil => exact absurd rfl hNe
  | cons c w ih =>
      obtain ⟨hc, hw⟩ := List.forall_mem_cons.mp hWord
      cases w with
      | nil =>
          cases cs with
          | nil => simp [wordChars, hc]
          | cons d cs =>
              have hd : isBlank d = true := hEnd d rfl
              rw [List.singleton_append, wordChars]
              simp [hc, hd]
      | cons d w =>
          have hd : isBlank d = false := hw d List.mem_cons_self
          have hRest := ih (List.cons_ne_nil d w) hw
          rw [List.cons_append] at hRest
          rw [List.cons_append, List.cons_append, wordChars]
          simp [hc, hd, hRest]

/-- The cutting finds words, with nothing but blanks around and between them. -/
theorem cutInto_wordChars (cs : List Char) : CutInto cs (wordChars cs) := by
  -- what follows the first blank or the first word is shorter
  induction hLength : cs.length using Nat.strong_induction_on generalizing cs with
  | _ n ih =>
      cases cs with
      | nil => exact .nil
      | cons c cs =>
          by_cases hc : isBlank c = true
          · rw [wordChars_cons_of_blank hc]
            refine .blank hc (ih cs.length ?_ cs rfl)
            simp [← hLength]
          · have hc : isBlank c = false := Bool.eq_false_of_not_eq_true hc
            -- the first word goes up to the first blank
            have hCut :
                c :: cs = (c :: cs.takeWhile (!isBlank ·)) ++ cs.dropWhile (!isBlank ·) := by
              simp
            have hWord : ∀ d ∈ c :: cs.takeWhile (!isBlank ·), isBlank d = false := by
              refine List.forall_mem_cons.mpr ⟨hc, fun d hd => ?_⟩
              simpa using List.mem_takeWhile_imp hd
            have hEnd : ∀ d ∈ (cs.dropWhile (!isBlank ·)).head?, isBlank d = true := by
              intro d hd
              have hNot := List.head?_dropWhile_not (!isBlank ·) cs
              rw [Option.mem_def.mp hd] at hNot
              simpa using hNot
            rw [hCut, wordChars_append_of_word (List.cons_ne_nil _ _) hWord hEnd]
            refine .word (List.cons_ne_nil _ _) hWord hEnd (ih _ ?_ _ rfl)
            have hShorter := (List.dropWhile_suffix (l := cs) (!isBlank ·)).length_le
            rw [List.length_cons] at hLength
            omega

theorem wordChars_of_cutInto (h : CutInto cs words) : wordChars cs = words := by
  induction h with
  | nil => rfl
  | blank hBlank _ ih => rw [wordChars_cons_of_blank hBlank, ih]
  | word hNe hWord hEnd _ ih => rw [wordChars_append_of_word hNe hWord hEnd, ih]

/-- The words that are found are the only ones that the characters are cut into. -/
theorem wordChars_eq_iff : wordChars cs = words ↔ CutInto cs words := by
  constructor
  · rintro rfl
    exact cutInto_wordChars cs
  · exact wordChars_of_cutInto

end SteadyTask.Text
