import Mathlib.Computability.Language
import SteadyTask.Narrative.Parse
import SteadyTask.Proofs.Text.Folding

/-!
# The pattern of a label

The lines that open a section are described by a pattern, part by part.  The readers of the parts are
compared with it here: blanks, marks of bold text and the colon, and the six words in every form that
caseless matching takes for them.
-/

namespace SteadyTask.Narrative

/-! ## The pattern -/

/-- Any number of blanks. -/
def blanks : Language Char :=
  {cs | ∀ c ∈ cs, Text.isBlank c = true}

/-- The marker of a list item. -/
def listMarker : Language Char :=
  {['-'], ['*'], ['•']}

/-- One number sign or more. -/
def numberSigns : Language Char :=
  {cs | cs ≠ [] ∧ ∀ c ∈ cs, c = '#'}

/-- The start or the end of bold text. -/
def boldMark : Language Char :=
  {['*', '*'], ['_', '_']}

/-- A colon of either width. -/
def colon : Language Char :=
  {[':'], ['：']}

/-- Blanks with at most one mark of bold text among them. -/
def gap : Language Char :=
  blanks * ((1 + boldMark) * blanks)

/-- What may stand between the list marker and the word. -/
def decoration : Language Char :=
  (1 + numberSigns * blanks) * ((1 + boldMark) * blanks)

/-- What may stand in front of the word. -/
def lead : Language Char :=
  blanks * ((1 + listMarker * blanks) * decoration)

/-- The characters that may join the two words of a label. -/
def joints : List (List Char) :=
  [[' '], ['_'], ['-'], []]

/-- How a word is spelled in lower case. -/
def LabelWord.spellings : LabelWord → List (List Char)
  | .rationale => ["rationale".toList]
  | .reasoning => ["reasoning".toList]
  | .reason => ["reason".toList]
  | .proposedChange => joints.map fun joint => "proposed".toList ++ (joint ++ "change".toList)
  | .change => ["change".toList]
  | .impact => ["impact".toList]

/-- The letters that caseless matching takes for a word. -/
def LabelWord.forms (word : LabelWord) : Language Char :=
  {cs | cs.map Text.foldChar ∈ word.spellings}

/-- The pattern matches a line, with one of some texts in front of the word: the word, the letters
that it is spelled with, and what follows the colon. -/
structure MatchesAfter (fronts : Language Char) (line : List Char) (word : LabelWord)
    (label rest : List Char) : Prop where
  label_mem : label ∈ word.forms
  line_eq : ∃ front ∈ fronts, ∃ middle ∈ gap * colon, line = front ++ (label ++ (middle ++ rest))

/-- The pattern of a label matches a line. -/
def Matches (line : List Char) (word : LabelWord) (label rest : List Char) : Prop :=
  MatchesAfter lead line word label rest

/-- What follows the colon, without blanks and the end of bold text in front of it. -/
def contentOf (rest : List Char) : List Char :=
  dropBlanks (dropBold (dropBlanks rest))

@[simp]
theorem mem_blanks_iff {cs : List Char} : cs ∈ blanks ↔ cs.all Text.isBlank = true :=
  List.all_eq_true.symm

theorem mem_forms_iff {word : LabelWord} {label : List Char} :
    label ∈ word.forms ↔ label.map Text.foldChar ∈ word.spellings :=
  Iff.rfl

/-! ## Blanks and bold text -/

variable {cs ws middle label taken rest bs m : List Char} {word : LabelWord} {c : Char}

theorem dropBlanks_append (h : bs ∈ blanks) (cs : List Char) :
    dropBlanks (bs ++ cs) = dropBlanks cs :=
  List.dropWhile_append_of_pos h

theorem dropBlanks_cons (h : Text.isBlank c = false) (cs : List Char) :
    dropBlanks (c :: cs) = c :: cs :=
  List.dropWhile_cons_of_neg (by simp [h])

/-- Only blanks are dropped. -/
theorem exists_blanks (cs : List Char) : ∃ bs ∈ blanks, cs = bs ++ dropBlanks cs :=
  ⟨cs.takeWhile Text.isBlank, List.all_eq_true.mp List.all_takeWhile,
    List.takeWhile_append_dropWhile.symm⟩

/-- Only a mark of bold text is dropped. -/
theorem exists_boldMark (cs : List Char) : ∃ m ∈ 1 + boldMark, cs = m ++ dropBold cs := by
  unfold dropBold
  split
  · exact ⟨['*', '*'], .inr (.inl rfl), rfl⟩
  · exact ⟨['_', '_'], .inr (.inr rfl), rfl⟩
  · exact ⟨[], .inl rfl, rfl⟩

/-- The characters start with neither a blank nor a mark of bold text. -/
structure Bare (cs : List Char) : Prop where
  dropBlanks_eq : dropBlanks cs = cs
  dropBold_eq : dropBold cs = cs

theorem dropBold_cons (hMark : c ≠ '*' ∧ c ≠ '_') (cs : List Char) :
    dropBold (c :: cs) = c :: cs := by
  unfold dropBold
  split
  · next hChars =>
      cases hChars
      exact absurd rfl hMark.1
  · next hChars =>
      cases hChars
      exact absurd rfl hMark.2
  · rfl

theorem bare_cons (hBlank : Text.isBlank c = false) (hMark : c ≠ '*' ∧ c ≠ '_') (cs : List Char) :
    Bare (c :: cs) :=
  ⟨dropBlanks_cons hBlank cs, dropBold_cons hMark cs⟩

/-- A blank starts no mark of bold text. -/
theorem Bare.dropBold_append (h : Bare cs) (hb : bs ∈ blanks) : dropBold (bs ++ cs) = bs ++ cs := by
  cases bs with
  | nil => exact h.dropBold_eq
  | cons c bs =>
      have hBlank : Text.isBlank c = true := hb c List.mem_cons_self
      refine dropBold_cons ⟨?_, ?_⟩ (bs ++ cs)
      · rintro rfl
        cases hBlank
      · rintro rfl
        cases hBlank

theorem Bare.strip_bold (h : Bare cs) (hm : m ∈ 1 + boldMark) (hb : bs ∈ blanks) :
    dropBlanks (dropBold (m ++ (bs ++ cs))) = cs := by
  have hDrop : dropBold (m ++ (bs ++ cs)) = bs ++ cs := by
    rcases hm with rfl | rfl | rfl
    · exact h.dropBold_append hb
    · rfl
    · rfl
  rw [hDrop, dropBlanks_append hb, h.dropBlanks_eq]

theorem Bare.contentOf_append (h : Bare cs) {g : List Char} (hg : g ∈ gap) :
    contentOf (g ++ cs) = cs := by
  obtain ⟨bs, hb, tail, ⟨m, hm, bs', hb', rfl⟩, rfl⟩ := hg
  rw [contentOf, List.append_assoc, List.append_assoc, dropBlanks_append hb]
  rcases hm with rfl | rfl | rfl
  · rw [List.nil_append, dropBlanks_append hb', h.dropBlanks_eq, h.dropBold_eq, h.dropBlanks_eq]
  · exact h.strip_bold (.inr (.inl rfl)) hb'
  · exact h.strip_bold (.inr (.inr rfl)) hb'

theorem exists_gap (rest : List Char) : ∃ g ∈ gap, rest = g ++ contentOf rest := by
  obtain ⟨bs, hb, hRest⟩ := exists_blanks rest
  obtain ⟨m, hm, hBold⟩ := exists_boldMark (dropBlanks rest)
  obtain ⟨bs', hb', hContent⟩ := exists_blanks (dropBold (dropBlanks rest))
  refine ⟨bs ++ (m ++ bs'), ⟨bs, hb, _, ⟨m, hm, bs', hb', rfl⟩, rfl⟩, ?_⟩
  rw [contentOf, List.append_assoc, List.append_assoc, ← hContent, ← hBold, ← hRest]

/-! ## The colon -/

theorem bare_colon (h : m ∈ colon) (rest : List Char) : Bare (m ++ rest) := by
  rcases h with rfl | rfl
  · exact bare_cons (by decide) (by decide) rest
  · exact bare_cons (by decide) (by decide) rest

theorem afterColon?_eq_some_iff :
    afterColon? cs = some rest ↔ ∃ middle ∈ gap * colon, cs = middle ++ rest := by
  constructor
  · intro h
    obtain ⟨g, hg, hcs⟩ := exists_gap cs
    unfold afterColon? at h
    split at h
    · next c rest' hContent =>
        split at h
        · next hColon =>
            cases h
            refine ⟨g ++ [c], ⟨g, hg, [c], ?_, rfl⟩, by rw [hcs, contentOf, hContent]; simp⟩
            rcases hColon with rfl | rfl
            · exact .inl rfl
            · exact .inr rfl
        · cases h
    · cases h
  · rintro ⟨middle, ⟨g, hg, m, hm, rfl⟩, rfl⟩
    have hContent := (bare_colon hm rest).contentOf_append hg
    rw [contentOf] at hContent
    rw [List.append_assoc, afterColon?, hContent]
    rcases hm with rfl | rfl
    · rfl
    · rfl

/-- What leads to the colon does not start with a letter. -/
theorem exists_cons_of_mem_throughColon (h : middle ∈ gap * colon) :
    ∃ c tail, middle = c :: tail ∧ ¬ Text.IsLetterForm c := by
  obtain ⟨g, ⟨bs, hb, tail, ⟨m, hm, bs', hb', rfl⟩, rfl⟩, col, hCol, rfl⟩ := h
  have hBlank {c : Char} (hc : Text.isBlank c = true) : ¬ Text.IsLetterForm c := by
    intro hLetter
    rw [hLetter.isBlank_eq_false] at hc
    cases hc
  -- The first character is a blank, half of a mark, or the colon, whichever of them is there.
  cases bs with
  | cons c bs => exact ⟨c, _, rfl, hBlank (hb c List.mem_cons_self)⟩
  | nil =>
      rcases hm with rfl | rfl | rfl
      · cases bs' with
        | cons c bs' => exact ⟨c, _, rfl, hBlank (hb' c List.mem_cons_self)⟩
        | nil =>
            rcases hCol with rfl | rfl
            · exact ⟨_, _, rfl, by rw [Text.isLetterForm_iff]; decide⟩
            · exact ⟨_, _, rfl, by rw [Text.isLetterForm_iff]; decide⟩
      · exact ⟨_, _, rfl, by rw [Text.isLetterForm_iff]; decide⟩
      · exact ⟨_, _, rfl, by rw [Text.isLetterForm_iff]; decide⟩

/-! ## The words -/

theorem takeWord?_eq_some_iff :
    takeWord? ws cs = some (taken, rest) ↔ cs = taken ++ rest ∧ taken.map Text.foldChar = ws := by
  induction ws generalizing cs taken with
  | nil =>
      rw [takeWord?, List.map_eq_nil_iff]
      constructor
      · rintro ⟨⟩
        exact ⟨rfl, rfl⟩
      · rintro ⟨rfl, rfl⟩
        rfl
  | cons w ws ih =>
      cases cs with
      | nil =>
          constructor
          · intro h
            cases h
          · rintro ⟨hNil, hMap⟩
            obtain ⟨rfl, -⟩ := List.append_eq_nil_iff.mp hNil.symm
            cases hMap
      | cons c cs =>
          rw [takeWord?]
          constructor
          · intro h
            split at h
            · next hFold =>
                rw [Option.map_eq_some_iff] at h
                obtain ⟨⟨taken', rest'⟩, hTake, hPair⟩ := h
                cases hPair
                obtain ⟨rfl, hMap⟩ := ih.mp hTake
                exact ⟨rfl, by rw [List.map_cons, hFold, hMap]⟩
            · cases h
          · rintro ⟨hChars, hMap⟩
            cases taken with
            | nil => cases hMap
            | cons d taken =>
                rw [List.cons_append, List.cons.injEq] at hChars
                rw [List.map_cons, List.cons.injEq] at hMap
                obtain ⟨rfl, hRest⟩ := hChars
                rw [if_pos hMap.1, ih.mpr ⟨hRest, hMap.2⟩]
                rfl

/-- What joins two words is no letter, so it is found as it is. -/
theorem map_foldChar_mem_joints_iff : m.map Text.foldChar ∈ joints ↔ m ∈ joints := by
  constructor
  · intro h
    have hEq {d : Char} (hd : ¬ (97 ≤ d.toNat ∧ d.toNat ≤ 122)) (hm : m.map Text.foldChar = [d]) :
        m = [d] := by
      obtain ⟨c, rfl, hc⟩ := List.map_eq_singleton_iff.mp hm
      rw [Text.eq_of_foldChar_eq hc hd]
    simp only [joints, List.mem_cons, List.not_mem_nil, or_false] at h ⊢
    rcases h with h | h | h | h
    · exact .inl (hEq (by decide) h)
    · exact .inr (.inl (hEq (by decide) h))
    · exact .inr (.inr (.inl (hEq (by decide) h)))
    · exact .inr (.inr (.inr (List.map_eq_nil_iff.mp h)))
  · intro h
    have hSame : ∀ m ∈ joints, m.map Text.foldChar = m := by decide
    rw [hSame m h]
    exact h

theorem dropJoint_fst_mem (cs : List Char) : (dropJoint cs).1 ∈ joints := by
  unfold dropJoint
  split
  · split
    · next hJoint => simpa [joints] using hJoint
    · simp [joints]
  · simp [joints]

theorem dropJoint_eq_append (cs : List Char) : cs = (dropJoint cs).1 ++ (dropJoint cs).2 := by
  unfold dropJoint
  split
  · split
    · rfl
    · rfl
  · rfl

/-- In front of a letter nothing else can be the joint. -/
theorem dropJoint_append (hm : m ∈ joints) (hc : Text.IsLetterForm c) (cs : List Char) :
    dropJoint (m ++ c :: cs) = (m, c :: cs) := by
  simp only [joints, List.mem_cons, List.not_mem_nil, or_false] at hm
  rcases hm with rfl | rfl | rfl | rfl
  · rfl
  · rfl
  · rfl
  · have hNot : ¬ (c = ' ' ∨ c = '_' ∨ c = '-') := by
      rw [Text.isLetterForm_iff] at hc
      rintro (rfl | rfl | rfl) <;> revert hc <;> decide
    rw [List.nil_append, dropJoint, if_neg hNot]

theorem mem_forms_proposedChange_iff :
    label ∈ LabelWord.proposedChange.forms ↔
      ∃ first joint second, label = first ++ (joint ++ second) ∧
        first.map Text.foldChar = "proposed".toList ∧ joint ∈ joints ∧
        second.map Text.foldChar = "change".toList := by
  constructor
  · intro h
    obtain ⟨joint, hJoint, hMap⟩ := List.mem_map.mp h
    obtain ⟨first, tail, rfl, hFirst, hTail⟩ := List.map_eq_append_iff.mp hMap.symm
    obtain ⟨j, second, rfl, hJ, hSecond⟩ := List.map_eq_append_iff.mp hTail
    exact ⟨first, j, second, rfl, hFirst, map_foldChar_mem_joints_iff.mp (hJ ▸ hJoint), hSecond⟩
  · rintro ⟨first, joint, second, rfl, hFirst, hJoint, hSecond⟩
    refine List.mem_map.mpr ⟨joint.map Text.foldChar, map_foldChar_mem_joints_iff.mpr hJoint, ?_⟩
    rw [List.map_append, List.map_append, hFirst, hSecond]

theorem exists_cons_of_map_foldChar {w : Char} (h : cs.map Text.foldChar = w :: ws)
    (hw : 97 ≤ w.toNat ∧ w.toNat ≤ 122) : ∃ c tail, cs = c :: tail ∧ Text.IsLetterForm c := by
  obtain ⟨c, tail, rfl, rfl, -⟩ := List.map_eq_cons_iff.mp h
  exact ⟨c, tail, rfl, hw⟩

/-- A word is taken from the front exactly if its letters stand there. -/
theorem take?_eq_some_iff :
    word.take? cs = some (label, rest) ↔ cs = label ++ rest ∧ label ∈ word.forms := by
  have hOne {s : List Char} (h : word.spellings = [s]) :
      takeWord? s cs = some (label, rest) ↔ cs = label ++ rest ∧ label ∈ word.forms := by
    rw [takeWord?_eq_some_iff]
    refine and_congr_right fun _ => ?_
    rw [mem_forms_iff, h, List.mem_singleton]
  cases word with
  | rationale => exact hOne rfl
  | reasoning => exact hOne rfl
  | reason => exact hOne rfl
  | change => exact hOne rfl
  | impact => exact hOne rfl
  | proposedChange =>
      rw [mem_forms_proposedChange_iff]
      simp only [LabelWord.take?, Option.bind_eq_bind, Option.bind_eq_some_iff, Option.pure_def,
        Option.some_inj, Prod.mk.injEq, Prod.exists]
      constructor
      · rintro ⟨first, afterFirst, hFirst, second, afterSecond, hSecond, rfl, rfl⟩
        obtain ⟨hcs, hFirst⟩ := takeWord?_eq_some_iff.mp hFirst
        obtain ⟨hRest, hSecond⟩ := takeWord?_eq_some_iff.mp hSecond
        refine ⟨?_, first, _, second, List.append_assoc _ _ _, hFirst,
          dropJoint_fst_mem afterFirst, hSecond⟩
        rw [hcs, List.append_assoc, List.append_assoc, ← hRest, ← dropJoint_eq_append]
      · rintro ⟨rfl, first, joint, second, rfl, hFirst, hJoint, hSecond⟩
        -- A reader cannot know the joint beforehand; the letter behind it shows where it ends.
        obtain ⟨c, tail, rfl, hc⟩ := exists_cons_of_map_foldChar hSecond (by decide)
        have hDrop : dropJoint (joint ++ (c :: tail ++ rest)) = (joint, c :: tail ++ rest) :=
          dropJoint_append hJoint hc (tail ++ rest)
        refine ⟨first, joint ++ (c :: tail ++ rest), takeWord?_eq_some_iff.mpr ⟨by simp, hFirst⟩,
          c :: tail, rest, ?_, ?_, rfl⟩
        · rw [hDrop]
          exact takeWord?_eq_some_iff.mpr ⟨rfl, hSecond⟩
        · rw [hDrop, List.append_assoc]

end SteadyTask.Narrative
