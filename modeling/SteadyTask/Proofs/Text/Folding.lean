import Mathlib.Tactic
import SteadyTask.Text.Blank
import SteadyTask.Text.Fold

/-!
# Letters in either case

Which characters caseless matching takes for an ASCII letter, and where it differs from lower case:
at LATIN SMALL LETTER LONG S, and nowhere else.  None of these characters is blank.
-/

namespace SteadyTask.Text

variable {c : Char}

/-- LATIN SMALL LETTER LONG S, which caseless matching takes for an `s` and lower case leaves as it
is. -/
def longS : Char := Char.ofNat 0x17F

theorem eq_longS_iff : c = longS ↔ c.toNat = 0x17F := by
  rw [← Char.toNat_inj]
  rfl

theorem foldChar_longS : foldChar longS = 's' := rfl

/-- Apart from the long s, caseless matching and lower case are the same. -/
theorem lowerChar_eq_foldChar (h : c ≠ longS) : lowerChar c = foldChar c := by
  rw [Ne, eq_longS_iff] at h
  rw [foldChar, if_neg h]

theorem le_iff_toNat_le {c d : Char} : c ≤ d ↔ c.toNat ≤ d.toNat := by
  rw [Char.le_def, UInt32.le_iff_toNat_le]
  rfl

/-- The number of a character in lower case, as far as it is an ASCII letter. -/
theorem toNat_lowerChar (c : Char) :
    (lowerChar c).toNat =
      if 65 ≤ c.toNat ∧ c.toNat ≤ 90 then c.toNat + 32
      else if c.toNat = 0x212A then 107
      else c.toNat := by
  unfold lowerChar
  simp only [le_iff_toNat_le, show ('A' : Char).toNat = 65 from rfl,
    show ('Z' : Char).toNat = 90 from rfl]
  split_ifs with hUpper hKelvin
  · have hValid : (c.toNat + 32).isValidChar := .inl (by omega)
    rw [Char.ofNat, dif_pos hValid]
    rfl
  · rfl
  · rfl

/-- The number of a character after caseless matching. -/
theorem toNat_foldChar (c : Char) :
    (foldChar c).toNat =
      if c.toNat = 0x17F then 115
      else if 65 ≤ c.toNat ∧ c.toNat ≤ 90 then c.toNat + 32
      else if c.toNat = 0x212A then 107
      else c.toNat := by
  rw [foldChar]
  split
  · rfl
  · exact toNat_lowerChar c

/-- A character that caseless matching takes for an ASCII letter. -/
def IsLetterForm (c : Char) : Prop :=
  97 ≤ (foldChar c).toNat ∧ (foldChar c).toNat ≤ 122

theorem isLetterForm_iff :
    IsLetterForm c ↔ 65 ≤ c.toNat ∧ c.toNat ≤ 90 ∨ 97 ≤ c.toNat ∧ c.toNat ≤ 122 ∨
      c.toNat = 0x17F ∨ c.toNat = 0x212A := by
  rw [IsLetterForm, toNat_foldChar]
  split_ifs <;> omega

/-- No form of a letter is blank. -/
theorem IsLetterForm.isBlank_eq_false (h : IsLetterForm c) : isBlank c = false := by
  rw [isLetterForm_iff] at h
  simp only [isBlank, inRanges, blankRanges, List.any_cons, List.any_nil, Bool.or_eq_false_iff,
    Bool.and_eq_false_iff, decide_eq_false_iff_not, and_true]
  omega

/-- What is no form of a letter is left as it is. -/
theorem foldChar_of_not_letterForm (h : ¬ IsLetterForm c) : foldChar c = c := by
  rw [isLetterForm_iff] at h
  rw [← Char.toNat_inj, toNat_foldChar]
  split_ifs <;> omega

/-- What matches a character that is no letter is that character. -/
theorem eq_of_foldChar_eq {d : Char} (h : foldChar c = d) (hd : ¬ (97 ≤ d.toNat ∧ d.toNat ≤ 122)) :
    c = d := by
  rw [← h]
  refine (foldChar_of_not_letterForm ?_).symm
  rw [IsLetterForm, h]
  exact hd

/-- The number of a character in lower case. -/
theorem toNat_toLower (c : Char) :
    c.toLower.toNat = if 65 ≤ c.toNat ∧ c.toNat ≤ 90 then c.toNat + 32 else c.toNat := by
  have hUpper : (c.val ≥ 'A'.val ∧ c.val ≤ 'Z'.val) ↔ 65 ≤ c.toNat ∧ c.toNat ≤ 90 := by
    rw [ge_iff_le, UInt32.le_iff_toNat_le, UInt32.le_iff_toNat_le]
    rfl
  unfold Char.toLower
  by_cases h : 65 ≤ c.toNat ∧ c.toNat ≤ 90
  · rw [dif_pos (hUpper.mpr h), if_pos h]
    show (c.val + 32).toNat = c.toNat + 32
    have hVal : c.val.toNat = c.toNat := rfl
    rw [UInt32.toNat_add, hVal]
    exact Nat.mod_eq_of_lt (by simp; omega)
  · rw [dif_neg (fun hc => h (hUpper.mp hc)), if_neg h]

/-- A letter in either ASCII case matches, and is no long s. -/
theorem foldChar_eq_toLower (h : c.toLower.toNat < 128) : foldChar c = c.toLower ∧ c ≠ longS := by
  rw [Ne, eq_longS_iff, ← Char.toNat_inj, toNat_foldChar]
  rw [toNat_toLower] at h ⊢
  split_ifs at h ⊢ <;> omega

/-- Against an ASCII character that is no `k`, lower case is that of ASCII letters alone. -/
theorem lowerChar_eq_iff {d : Char} (hAscii : d.toNat < 128) (hKelvin : d ≠ 'k') :
    lowerChar c = d ↔ c.toLower = d := by
  have hNot : d.toNat ≠ 107 := fun h => hKelvin (Char.toNat_inj.mp h)
  rw [← Char.toNat_inj, ← Char.toNat_inj, toNat_lowerChar, toNat_toLower]
  split_ifs <;> omega

theorem map_lowerChar_eq_iff {cs ds : List Char} (h : ∀ d ∈ ds, d.toNat < 128 ∧ d ≠ 'k') :
    cs.map lowerChar = ds ↔ cs.map Char.toLower = ds := by
  induction ds generalizing cs with
  | nil => simp only [List.map_eq_nil_iff]
  | cons d ds ih =>
      obtain ⟨hFirst, hRest⟩ := List.forall_mem_cons.mp h
      simp only [List.map_eq_cons_iff, lowerChar_eq_iff hFirst.1 hFirst.2, ih hRest]

end SteadyTask.Text
