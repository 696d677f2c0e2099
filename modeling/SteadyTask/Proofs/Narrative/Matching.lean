import SteadyTask.Proofs.Narrative.Labels
import SteadyTask.Proofs.Text.Occurrence

/-!
# Lines that open a section

A label is read from a line exactly if the pattern of a label matches it, and the pattern matches in
one way at most: the word, its letters and what follows are settled by the line.  So it makes no
difference in which order the words are tried, nor that an asterisk can be a list marker as well as
half of a mark of bold text.  What settles them is the first letter of the line and the first
character after it that cannot continue a word.

The line is filed in the section of the word, with one exception: a word for the rationale that is
spelled with a long s opens the section of the proposed change.
-/

namespace SteadyTask.Narrative

variable {cs front middle label label' taken rest rest' line s : List Char}
  {word word' : LabelWord} {l : Labelled} {c : Char} {fronts fronts' : Language Char}

/-! ## The only match -/

theorem spelling_eq_cons (h : s ∈ word.spellings) :
    ∃ w ws, s = w :: ws ∧ 97 ≤ w.toNat ∧ w.toNat ≤ 122 := by
  cases word <;>
    simp only [LabelWord.spellings, joints, List.map_cons, List.map_nil, List.mem_cons,
      List.not_mem_nil, or_false] at h
  case proposedChange =>
    rcases h with rfl | rfl | rfl | rfl
    all_goals exact ⟨_, _, rfl, by decide⟩
  all_goals
    subst h
    exact ⟨_, _, rfl, by decide⟩

/-- The letters of a word start with a letter. -/
theorem exists_cons_of_mem_forms (h : label ∈ word.forms) :
    ∃ c tail, label = c :: tail ∧ Text.IsLetterForm c := by
  obtain ⟨w, ws, hMap, hw⟩ := spelling_eq_cons h
  exact exists_cons_of_map_foldChar hMap hw

theorem LabelWord.mem_all (word : LabelWord) : word ∈ LabelWord.all := by
  cases word <;> decide

/-- No two words are spelled alike. -/
theorem word_eq_of_spelling (h : s ∈ word.spellings) (h' : s ∈ word'.spellings) : word' = word := by
  have hAll : ∀ word ∈ LabelWord.all, ∀ word' ∈ LabelWord.all, ∀ s ∈ word.spellings,
      s ∈ word'.spellings → word' = word := by
    decide
  exact hAll word word.mem_all word' word'.mem_all s h h'

/-- Where the spelling of a word goes on after that of another, it goes on with a letter. -/
theorem letter_of_spelling_append (h : s ∈ word.spellings) (h' : s ++ c :: cs ∈ word'.spellings) :
    97 ≤ c.toNat ∧ c.toNat ≤ 122 := by
  have hAll : ∀ word ∈ LabelWord.all, ∀ word' ∈ LabelWord.all, ∀ s ∈ word.spellings,
      ∀ s' ∈ word'.spellings, s <+: s' →
        ((s'.drop s.length).take 1).all (fun c => 97 ≤ c.toNat && c.toNat ≤ 122) = true := by
    decide
  have hLetter := hAll word word.mem_all word' word'.mem_all s h _ h' (List.prefix_append _ _)
  simpa using hLetter

/-- The letters of a word go up to the first character that is no letter. -/
theorem eq_nil_of_forms_append (h : label ∈ word.forms) (h' : label ++ taken ∈ word'.forms)
    (hMiddle : middle ∈ gap * colon) (hEq : middle ++ rest = taken ++ cs) : taken = [] := by
  cases taken with
  | nil => rfl
  | cons c taken =>
      obtain ⟨d, tail, rfl, hNot⟩ := exists_cons_of_mem_throughColon hMiddle
      rw [List.cons_append, List.cons_append, List.cons.injEq] at hEq
      obtain ⟨rfl, -⟩ := hEq
      rw [mem_forms_iff, List.map_append, List.map_cons] at h'
      exact absurd (letter_of_spelling_append h h') hNot

/-- No letter stands in the texts. -/
def Unlettered (fronts : Language Char) : Prop :=
  ∀ cs ∈ fronts, ∀ c ∈ cs, ¬ Text.IsLetterForm c

theorem Unlettered.mul (h : Unlettered fronts) (h' : Unlettered fronts') :
    Unlettered (fronts * fronts') := by
  rintro _ ⟨cs, hcs, cs', hcs', rfl⟩ c hc
  rcases List.mem_append.mp hc with hc | hc
  · exact h cs hcs c hc
  · exact h' cs' hcs' c hc

theorem Unlettered.one_add (h : Unlettered fronts) : Unlettered (1 + fronts) := by
  rintro cs (rfl | hcs) c hc
  · cases hc
  · exact h cs hcs c hc

theorem unlettered_blanks : Unlettered blanks := by
  intro cs hcs c hc hLetter
  have hBlank : Text.isBlank c = true := hcs c hc
  rw [hLetter.isBlank_eq_false] at hBlank
  cases hBlank

theorem unlettered_numberSigns : Unlettered numberSigns := by
  rintro cs ⟨-, hSigns⟩ c hc
  rw [hSigns c hc, Text.isLetterForm_iff]
  decide

theorem unlettered_listMarker : Unlettered listMarker := by
  rintro cs (rfl | rfl | rfl) c hc <;>
  · rw [List.mem_singleton.mp hc, Text.isLetterForm_iff]
    decide

theorem unlettered_boldMark : Unlettered boldMark := by
  rintro cs (rfl | rfl) c hc
  · have hStar : c = '*' := by simpa using hc
    rw [hStar, Text.isLetterForm_iff]
    decide
  · have hLine : c = '_' := by simpa using hc
    rw [hLine, Text.isLetterForm_iff]
    decide

theorem unlettered_decoration : Unlettered decoration :=
  (unlettered_numberSigns.mul unlettered_blanks).one_add.mul
    (unlettered_boldMark.one_add.mul unlettered_blanks)

theorem unlettered_lead : Unlettered lead :=
  unlettered_blanks.mul
    ((unlettered_listMarker.mul unlettered_blanks).one_add.mul unlettered_decoration)

/-- Two cuts in front of the first letter are the same. -/
theorem eq_of_cut_at_letter {front' : List Char} {c' : Char}
    (h : ∀ d ∈ front, ¬ Text.IsLetterForm d) (h' : ∀ d ∈ front', ¬ Text.IsLetterForm d)
    (hc : Text.IsLetterForm c) (hc' : Text.IsLetterForm c')
    (hEq : front ++ c :: cs = front' ++ c' :: rest) : c :: cs = c' :: rest := by
  rcases List.append_eq_append_iff.mp hEq with ⟨x, rfl, hx⟩ | ⟨x, rfl, hx⟩
  · cases x with
    | nil => exact hx
    | cons d x =>
        cases hx
        exact absurd hc (h' c (by simp))
  · cases x with
    | nil => exact hx.symm
    | cons d x =>
        cases hx
        exact absurd hc' (h c' (by simp))

/-- The pattern matches in one way at most. -/
theorem MatchesAfter.unique (hFronts : Unlettered fronts)
    (h : MatchesAfter fronts line word label rest)
    (h' : MatchesAfter fronts line word' label' rest') :
    word' = word ∧ label' = label ∧ rest' = rest := by
  obtain ⟨hLabel, front, hFront, middle, hMiddle, hLine⟩ := h
  obtain ⟨hLabel', front', hFront', middle', hMiddle', hLine'⟩ := h'
  -- Both words start at the first letter of the line, and end in front of the next character that
  -- is none; what follows the colon is then what its reader finds.
  have hTail : label ++ (middle ++ rest) = label' ++ (middle' ++ rest') := by
    obtain ⟨c, tail, rfl, hc⟩ := exists_cons_of_mem_forms hLabel
    obtain ⟨c', tail', rfl, hc'⟩ := exists_cons_of_mem_forms hLabel'
    exact eq_of_cut_at_letter (hFronts front hFront) (hFronts front' hFront') hc hc'
      (hLine.symm.trans hLine')
  have hSame : label' = label ∧ middle ++ rest = middle' ++ rest' := by
    rcases List.append_eq_append_iff.mp hTail with ⟨x, rfl, hx⟩ | ⟨x, rfl, hx⟩
    · obtain rfl := eq_nil_of_forms_append hLabel hLabel' hMiddle hx
      exact ⟨List.append_nil label, hx⟩
    · obtain rfl := eq_nil_of_forms_append hLabel' hLabel hMiddle' hx
      exact ⟨(List.append_nil label').symm, hx.symm⟩
  obtain ⟨rfl, hAfter⟩ := hSame
  have hRest : afterColon? (middle ++ rest) = some rest :=
    afterColon?_eq_some_iff.mpr ⟨middle, hMiddle, rfl⟩
  have hRest' : afterColon? (middle ++ rest) = some rest' :=
    afterColon?_eq_some_iff.mpr ⟨middle', hMiddle', hAfter⟩
  exact ⟨word_eq_of_spelling hLabel hLabel', rfl, Option.some.inj (hRest'.symm.trans hRest)⟩

/-! ## Reading finds the match -/

/-- A label is what the pattern matches in a line. -/
def ReadAfter (fronts : Language Char) (line : List Char) (l : Labelled) : Prop :=
  ∃ rest, MatchesAfter fronts line l.word l.label rest ∧ l.content = contentOf rest

theorem ReadAfter.append (h : ReadAfter fronts' cs l) (hFront : front ∈ fronts) :
    ReadAfter (fronts * fronts') (front ++ cs) l := by
  obtain ⟨rest, ⟨hLabel, front', hFront', middle, hMiddle, rfl⟩, hContent⟩ := h
  refine ⟨rest, ⟨hLabel, front ++ front', ⟨front, hFront, front', hFront', rfl⟩, middle, hMiddle, ?_⟩,
    hContent⟩
  rw [List.append_assoc]

theorem ReadAfter.unique {l' : Labelled} (hFronts : Unlettered fronts)
    (h : ReadAfter fronts line l) (h' : ReadAfter fronts line l') : l' = l := by
  obtain ⟨rest, hMatch, hContent⟩ := h
  obtain ⟨rest', hMatch', hContent'⟩ := h'
  obtain ⟨hWord, hLabel, rfl⟩ := hMatch.unique hFronts hMatch'
  cases l
  cases l'
  simp_all

theorem labelledBy?_eq_some_iff :
    labelledBy? cs word = some l ↔ l.word = word ∧ ReadAfter 1 cs l := by
  simp only [labelledBy?, Option.bind_eq_bind, Option.bind_eq_some_iff, Option.pure_def,
    Option.some_inj, Prod.exists]
  constructor
  · rintro ⟨label, afterLabel, hTake, rest, hColon, rfl⟩
    obtain ⟨rfl, hLabel⟩ := take?_eq_some_iff.mp hTake
    obtain ⟨middle, hMiddle, rfl⟩ := afterColon?_eq_some_iff.mp hColon
    exact ⟨rfl, rest, ⟨hLabel, [], rfl, middle, hMiddle, rfl⟩, rfl⟩
  · rintro ⟨rfl, rest, ⟨hLabel, _, rfl, middle, hMiddle, rfl⟩, hContent⟩
    refine ⟨l.label, middle ++ rest, take?_eq_some_iff.mpr ⟨rfl, hLabel⟩, rest,
      afterColon?_eq_some_iff.mpr ⟨middle, hMiddle, rfl⟩, ?_⟩
    cases l
    cases hContent
    rfl

theorem readAfter_of_labelWord? (h : labelWord? cs = some l) : ReadAfter 1 cs l := by
  obtain ⟨word, -, hBy⟩ := List.exists_of_findSome?_eq_some h
  exact (labelledBy?_eq_some_iff.mp hBy).2

theorem labelWord?_isSome (h : MatchesAfter 1 cs word label rest) : (labelWord? cs).isSome := by
  have hBy : labelledBy? cs word = some ⟨word, label, contentOf rest⟩ :=
    labelledBy?_eq_some_iff.mpr ⟨rfl, rest, h, rfl⟩
  rw [labelWord?, List.findSome?_isSome_iff]
  exact ⟨word, word.mem_all, by rw [hBy]; rfl⟩

/-- Number signs are dropped with the decoration behind them. -/
theorem afterMarker?_numberSign (rest : List Char) :
    afterMarker? ('#' :: rest) = labelWord? (contentOf (rest.dropWhile (· = '#'))) :=
  rfl

/-- Without number signs only bold text is dropped. -/
theorem afterMarker?_of_ne_numberSign (h : ∀ rest, cs ≠ '#' :: rest) :
    afterMarker? cs = labelWord? (dropBlanks (dropBold cs)) := by
  unfold afterMarker?
  split
  · next rest => exact absurd rfl (h rest)
  · rfl

theorem readAfter_of_afterMarker? (h : afterMarker? cs = some l) : ReadAfter decoration cs l := by
  rw [← mul_one decoration]
  by_cases hSign : ∃ rest, cs = '#' :: rest
  · obtain ⟨rest, rfl⟩ := hSign
    rw [afterMarker?_numberSign] at h
    obtain ⟨_, ⟨bs, hbs, tail, hTail, rfl⟩, hRest⟩ := exists_gap (rest.dropWhile (· = '#'))
    have hSigns : '#' :: rest.takeWhile (· = '#') ∈ numberSigns := by
      refine ⟨List.cons_ne_nil _ _, fun c hc => ?_⟩
      rcases List.mem_cons.mp hc with rfl | hc
      · rfl
      · exact of_decide_eq_true (List.all_eq_true.mp List.all_takeWhile c hc)
    have hCut : '#' :: rest =
        ('#' :: rest.takeWhile (· = '#') ++ bs ++ tail) ++ contentOf (rest.dropWhile (· = '#')) := by
      rw [List.append_assoc, List.append_assoc, ← List.append_assoc bs, ← hRest, List.cons_append,
        List.takeWhile_append_dropWhile]
    rw [hCut]
    exact (readAfter_of_labelWord? h).append
      ⟨_, .inr ⟨_, hSigns, bs, hbs, rfl⟩, tail, hTail, rfl⟩
  · rw [afterMarker?_of_ne_numberSign (not_exists.mp hSign)] at h
    obtain ⟨m, hm, hBold⟩ := exists_boldMark cs
    obtain ⟨bs, hbs, hBlanks⟩ := exists_blanks (dropBold cs)
    have hCut : cs = (m ++ bs) ++ dropBlanks (dropBold cs) := by
      rw [List.append_assoc, ← hBlanks, ← hBold]
    rw [hCut]
    exact (readAfter_of_labelWord? h).append ⟨[], .inl rfl, m ++ bs, ⟨m, hm, bs, hbs, rfl⟩, rfl⟩

/-- A letter is neither blank nor half of a mark of bold text. -/
theorem bare_of_letterForm (hc : Text.IsLetterForm c) (cs : List Char) : Bare (c :: cs) := by
  refine bare_cons hc.isBlank_eq_false ?_ cs
  rw [Text.isLetterForm_iff] at hc
  constructor
  · rintro rfl
    revert hc
    decide
  · rintro rfl
    revert hc
    decide

theorem bare_of_mem_forms (h : label ∈ word.forms) (cs : List Char) : Bare (label ++ cs) := by
  obtain ⟨c, tail, rfl, hc⟩ := exists_cons_of_mem_forms h
  exact bare_of_letterForm hc (tail ++ cs)

theorem numberSign_notMem_gap {g : List Char} (hg : g ∈ gap) : '#' ∉ g := by
  obtain ⟨bs, hbs, _, ⟨m, hm, bs', hbs', rfl⟩, rfl⟩ := hg
  simp only [List.mem_append, not_or]
  refine ⟨fun h => absurd (hbs _ h) (by decide), ?_, fun h => absurd (hbs' _ h) (by decide)⟩
  rcases hm with rfl | rfl | rfl <;> decide

/-- Between the number signs and the word there are no more of them. -/
theorem gap_append_ne_numberSign {g : List Char} (hg : g ∈ gap) (hLabel : label ∈ word.forms)
    (cs : List Char) : ∀ rest, g ++ (label ++ cs) ≠ '#' :: rest := by
  intro rest h
  cases g with
  | nil =>
      obtain ⟨c, tail, rfl, hc⟩ := exists_cons_of_mem_forms hLabel
      cases h
      rw [Text.isLetterForm_iff] at hc
      revert hc
      decide
  | cons d g =>
      cases h
      exact numberSign_notMem_gap hg List.mem_cons_self

theorem dropWhile_numberSign_append {signs : List Char} (hSigns : ∀ c ∈ signs, c = '#')
    (h : ∀ rest, cs ≠ '#' :: rest) : (signs ++ cs).dropWhile (· = '#') = cs := by
  rw [List.dropWhile_append_of_pos (fun c hc => decide_eq_true (hSigns c hc))]
  cases cs with
  | nil => rfl
  | cons c cs =>
      have hNot : c ≠ '#' := by
        rintro rfl
        exact h cs rfl
      exact List.dropWhile_cons_of_neg (by simp [hNot])

theorem afterMarker?_isSome (h : MatchesAfter decoration cs word label rest) :
    (afterMarker? cs).isSome := by
  obtain ⟨hLabel, _, ⟨signs, hSigns, _, ⟨m, hm, bs, hbs, rfl⟩, rfl⟩, middle, hMiddle, rfl⟩ := h
  have hWord : (labelWord? (label ++ (middle ++ rest))).isSome :=
    labelWord?_isSome ⟨hLabel, [], rfl, middle, hMiddle, rfl⟩
  have hBare : Bare (label ++ (middle ++ rest)) := bare_of_mem_forms hLabel _
  rcases hSigns with rfl | ⟨signs, ⟨hNe, hSigns⟩, bs', hbs', rfl⟩
  · have hGap : m ++ bs ∈ gap := ⟨[], by simp [blanks], m ++ bs, ⟨m, hm, bs, hbs, rfl⟩, rfl⟩
    have hNot := gap_append_ne_numberSign hGap hLabel (middle ++ rest)
    change (afterMarker? (m ++ bs ++ (label ++ (middle ++ rest)))).isSome
    rw [afterMarker?_of_ne_numberSign hNot, List.append_assoc, hBare.strip_bold hm hbs]
    exact hWord
  · have hGap : bs' ++ (m ++ bs) ∈ gap := ⟨bs', hbs', m ++ bs, ⟨m, hm, bs, hbs, rfl⟩, rfl⟩
    have hNot := gap_append_ne_numberSign hGap hLabel (middle ++ rest)
    cases signs with
    | nil => exact absurd rfl hNe
    | cons sign signs =>
        obtain rfl := hSigns sign List.mem_cons_self
        have hMore : ∀ c ∈ signs, c = '#' := fun c hc => hSigns c (List.mem_cons_of_mem _ hc)
        have hCut : '#' :: signs ++ bs' ++ (m ++ bs) ++ (label ++ (middle ++ rest)) =
            '#' :: (signs ++ (bs' ++ (m ++ bs) ++ (label ++ (middle ++ rest)))) := by
          simp only [List.cons_append, List.append_assoc]
        rw [hCut, afterMarker?_numberSign, dropWhile_numberSign_append hMore hNot,
          hBare.contentOf_append hGap]
        exact hWord

/-- Blanks in front of the decoration can be left out. -/
theorem exists_decoration (h : front ∈ decoration) (hBare : Bare cs) :
    ∃ front' ∈ decoration, dropBlanks (front ++ cs) = front' ++ cs := by
  obtain ⟨signs, hSigns, tail, ⟨m, hm, bs, hbs, rfl⟩, rfl⟩ := id h
  rcases hSigns with rfl | ⟨signs, ⟨hNe, hSigns⟩, bs', hbs', rfl⟩
  · rcases hm with rfl | rfl | rfl
    · refine ⟨[], ⟨[], .inl rfl, [], ⟨[], .inl rfl, [], by simp [blanks], rfl⟩, rfl⟩, ?_⟩
      exact (dropBlanks_append hbs cs).trans hBare.dropBlanks_eq
    · exact ⟨_, h, dropBlanks_cons (by decide) _⟩
    · exact ⟨_, h, dropBlanks_cons (by decide) _⟩
  · cases signs with
    | nil => exact absurd rfl hNe
    | cons sign signs =>
        obtain rfl := hSigns sign List.mem_cons_self
        exact ⟨_, h, dropBlanks_cons (by decide) _⟩

theorem listMarker_iff : [c] ∈ listMarker ↔ isListMarker c = true := by
  rw [isListMarker, Bool.or_eq_true, Bool.or_eq_true, decide_eq_true_iff, decide_eq_true_iff,
    decide_eq_true_iff, or_assoc]
  change [c] = ['-'] ∨ [c] = ['*'] ∨ [c] = ['•'] ↔ _
  simp

theorem readAfter_of_labelled? (h : labelled? line = some l) : ReadAfter lead line l := by
  obtain ⟨bs, hbs, hLine⟩ := exists_blanks line
  rw [labelled?] at h
  split at h
  · next c rest hDrop =>
      rw [hLine, hDrop]
      have hWhole (h : afterMarker? (c :: rest) = some l) :
          ReadAfter lead (bs ++ (c :: rest)) l := by
        have hRead : ReadAfter ((1 + listMarker * blanks) * decoration) ([] ++ (c :: rest)) l :=
          (readAfter_of_afterMarker? h).append (.inl rfl)
        exact hRead.append hbs
      -- What looks like a list marker is tried as one first, and as bold text if that fails.
      split at h
      · next hMarker =>
          split at h
          · next l' hAfter =>
              cases h
              obtain ⟨bs', hbs', hRest⟩ := exists_blanks rest
              have hRead : ReadAfter ((1 + listMarker * blanks) * decoration)
                  (([c] ++ bs') ++ dropBlanks rest) l :=
                (readAfter_of_afterMarker? hAfter).append
                  (.inr ⟨[c], listMarker_iff.mpr hMarker, bs', hbs', rfl⟩)
              rw [List.append_assoc, ← hRest] at hRead
              exact hRead.append hbs
          · exact hWhole h
      · exact hWhole h
  · cases h

/-- It is enough that one of the two readings succeeds. -/
theorem labelled?_isSome_of_afterMarker? (hLine : dropBlanks line = c :: rest)
    (h : (afterMarker? (c :: rest)).isSome ∨
      isListMarker c ∧ (afterMarker? (dropBlanks rest)).isSome) : (labelled? line).isSome := by
  rw [labelled?, hLine]
  dsimp only
  rcases h with h | ⟨hMarker, h⟩
  · split
    · split
      · rfl
      · exact h
    · exact h
  · obtain ⟨l, hl⟩ := Option.isSome_iff_exists.mp h
    rw [if_pos hMarker, hl]
    rfl

theorem labelled?_isSome (h : Matches line word label rest) : (labelled? line).isSome := by
  obtain ⟨hLabel, _, ⟨bs, hbs, _, ⟨mark, hMark, front, hFront, rfl⟩, rfl⟩, middle, hMiddle, rfl⟩ := h
  have hBare : Bare (label ++ (middle ++ rest)) := bare_of_mem_forms hLabel _
  obtain ⟨front', hFront', hDrop⟩ := exists_decoration hFront hBare
  have hAfter : (afterMarker? (front' ++ (label ++ (middle ++ rest)))).isSome :=
    afterMarker?_isSome ⟨hLabel, front', hFront', middle, hMiddle, rfl⟩
  rcases hMark with rfl | ⟨mark, hMark, bs', hbs', rfl⟩
  · have hLine : dropBlanks (bs ++ ([] ++ front) ++ (label ++ (middle ++ rest))) =
        front' ++ (label ++ (middle ++ rest)) := by
      rw [List.append_assoc, dropBlanks_append hbs]
      exact hDrop
    obtain ⟨c, tail, hCons⟩ : ∃ c tail, front' ++ (label ++ (middle ++ rest)) = c :: tail := by
      refine List.exists_cons_of_ne_nil fun hNil => ?_
      obtain ⟨d, label', rfl, -⟩ := exists_cons_of_mem_forms hLabel
      simp at hNil
    rw [hCons] at hLine hAfter
    exact labelled?_isSome_of_afterMarker? hLine (.inl hAfter)
  · obtain ⟨c, rfl, hBlank⟩ : ∃ c, mark = [c] ∧ Text.isBlank c = false := by
      rcases hMark with rfl | rfl | rfl
      all_goals exact ⟨_, rfl, by decide⟩
    have hLine : dropBlanks (bs ++ ([c] ++ bs' ++ front) ++ (label ++ (middle ++ rest))) =
        c :: (bs' ++ (front ++ (label ++ (middle ++ rest)))) := by
      rw [List.append_assoc, dropBlanks_append hbs, List.append_assoc, List.append_assoc]
      exact dropBlanks_cons hBlank _
    refine labelled?_isSome_of_afterMarker? hLine (.inr ⟨listMarker_iff.mp hMark, ?_⟩)
    rw [dropBlanks_append hbs', hDrop]
    exact hAfter

/-- A label is read from a line exactly if the pattern matches it there. -/
theorem labelled?_eq_some_iff : labelled? line = some l ↔ ReadAfter lead line l := by
  constructor
  · exact readAfter_of_labelled?
  · intro h
    obtain ⟨l', hl'⟩ := Option.isSome_iff_exists.mp (labelled?_isSome h.choose_spec.1)
    rw [hl', h.unique unlettered_lead (readAfter_of_labelled? hl')]

theorem Matches.labelled?_eq (h : Matches line word label rest) :
    labelled? line = some ⟨word, label, contentOf rest⟩ :=
  labelled?_eq_some_iff.mpr ⟨rest, h, rfl⟩

/-! ## The section of a label -/

/-- Without a long s, the letters of a word open the section of that word. -/
theorem sectionOf_of_notMem (h : label ∈ word.forms) (hLong : Text.longS ∉ label) :
    sectionOf label = word.section := by
  -- The label is spelled as the word when it is folded, and lower case does the same to it.
  have hLower : label.map Text.lowerChar = label.map Text.foldChar :=
    List.map_congr_left fun c hc => Text.lowerChar_eq_foldChar fun hEq => hLong (hEq ▸ hc)
  have hAll : ∀ word ∈ LabelWord.all, ∀ s ∈ word.spellings,
      s.map Text.lowerChar = s ∧ sectionOf s = word.section := by
    decide
  obtain ⟨hSame, hSection⟩ := hAll word word.mem_all _ h
  rw [← hSection, sectionOf, sectionOf, hLower, hSame]

/-- The only `s` of a word is among its first six letters. -/
theorem exists_index_of_longS (h : label ∈ word.forms) (hLong : Text.longS ∈ label) :
    ∃ i < 6, label[i]? = some Text.longS ∧ (word.section = .rationale ∨ word = .proposedChange) := by
  obtain ⟨i, hi⟩ := List.mem_iff_getElem?.mp hLong
  have hFold : (label.map Text.foldChar)[i]? = some 's' := by
    rw [List.getElem?_map, hi]
    rfl
  have hAll : ∀ word ∈ LabelWord.all, ∀ s ∈ word.spellings, 's' ∈ s →
      's' ∉ s.drop 6 ∧ (word.section = .rationale ∨ word = .proposedChange) := by
    decide
  obtain ⟨hDrop, hWord⟩ := hAll word word.mem_all _ h (List.mem_of_getElem? hFold)
  refine ⟨i, ?_, hi, hWord⟩
  by_contra hNot
  refine hDrop (List.mem_iff_getElem?.mpr ⟨i - 6, ?_⟩)
  rw [List.getElem?_drop, Nat.add_sub_cancel' (by omega), hFold]

/-- Lower case leaves a long s, so no word for the rationale nor for the impact is left. -/
theorem sectionOf_of_mem (h : label ∈ word.forms) (hLong : Text.longS ∈ label) :
    sectionOf label = .change := by
  obtain ⟨i, hi, hIndex, -⟩ := exists_index_of_longS h hLong
  have hLetter : (label.map Text.lowerChar)[i]? = some Text.longS := by
    rw [List.getElem?_map, hIndex]
    rfl
  have hMem : Text.longS ∈ label.map Text.lowerChar := List.mem_of_getElem? hLetter
  have hStart : ¬ Text.startsWith "reason".toList (label.map Text.lowerChar) = true := by
    intro hStart
    obtain ⟨tail, hTail⟩ := Text.startsWith_iff.mp hStart
    rw [← hTail, List.getElem?_append_left hi] at hLetter
    exact absurd (List.mem_of_getElem? hLetter) (by decide)
  have hRationale : label.map Text.lowerChar ≠ "rationale".toList := by
    intro hEq
    rw [hEq] at hMem
    exact absurd hMem (by decide)
  have hImpact : label.map Text.lowerChar ≠ "impact".toList := by
    intro hEq
    rw [hEq] at hMem
    exact absurd hMem (by decide)
  rw [sectionOf, if_neg ?_, if_neg hImpact]
  rw [Bool.or_eq_true, decide_eq_true_iff]
  exact not_or.mpr ⟨hStart, hRationale⟩

/-- A label opens the section of its word, apart from a word for the rationale with a long s. -/
theorem sectionOf_of_mem_forms (h : label ∈ word.forms) :
    sectionOf label =
      if word.section = .rationale ∧ Text.longS ∈ label then .change else word.section := by
  by_cases hLong : Text.longS ∈ label
  · rw [sectionOf_of_mem h hLong]
    obtain ⟨-, -, -, hRationale | rfl⟩ := exists_index_of_longS h hLong
    · rw [if_pos ⟨hRationale, hLong⟩]
    · rfl
  · rw [if_neg fun hBoth => hLong hBoth.2]
    exact sectionOf_of_notMem h hLong

/-- A line that the pattern matches is filed by its label alone. -/
theorem Matches.readLine_eq (h : Matches line word label rest) (p : Progress) :
    readLine p line =
      ⟨some (sectionOf label), p.sections.add (sectionOf label) (cleanContent (contentOf rest))⟩ := by
  rw [readLine, h.labelled?_eq]

/-- A line that the pattern matches is filed under the section of its word exactly if that is no word
for the rationale that is spelled with a long s; if it is, the line is filed under the proposed
change. -/
theorem filed_under_word_iff (h : Matches line word label rest) (p : Progress) :
    (readLine p line =
        ⟨some word.section, p.sections.add word.section (cleanContent (contentOf rest))⟩ ↔
      ¬ (word.section = .rationale ∧ Text.longS ∈ label)) ∧
    (word.section = .rationale ∧ Text.longS ∈ label →
      readLine p line =
        ⟨some .change, p.sections.add .change (cleanContent (contentOf rest))⟩) := by
  rw [h.readLine_eq p, sectionOf_of_mem_forms h.label_mem]
  by_cases hLong : word.section = .rationale ∧ Text.longS ∈ label
  · rw [if_pos hLong, hLong.1]
    refine ⟨iff_of_false ?_ (not_not.mpr ⟨rfl, hLong.2⟩), fun _ => rfl⟩
    intro hEq
    cases congrArg Progress.place hEq
  · rw [if_neg hLong]
    exact ⟨iff_of_true rfl hLong, fun h => absurd h hLong⟩

theorem nil_mem_blanks : [] ∈ blanks := by
  intro c hc
  cases hc

theorem nil_mem_decoration : [] ∈ decoration :=
  ⟨[], .inl rfl, [], ⟨[], .inl rfl, [], nil_mem_blanks, rfl⟩, rfl⟩

theorem nil_mem_lead : [] ∈ lead :=
  ⟨[], nil_mem_blanks, [], ⟨[], .inl rfl, [], nil_mem_decoration, rfl⟩, rfl⟩

theorem colon_mem : [':'] ∈ gap * colon :=
  ⟨[], ⟨[], nil_mem_blanks, [], ⟨[], .inl rfl, [], nil_mem_blanks, rfl⟩, rfl⟩, [':'], .inl rfl, rfl⟩

/-- A reason in a list, in bold letters. -/
theorem bold_reason_filed_under_rationale :
    Matches "- **Reason:** it was late".toList .reason "Reason".toList "** it was late".toList ∧
      readLine ⟨some .impact, .empty⟩ "- **Reason:** it was late".toList =
        ⟨some .rationale, ⟨some "it was late".toList, none, none⟩⟩ := by
  have hLead : "- **".toList ∈ lead :=
    ⟨[], nil_mem_blanks, "- **".toList,
      ⟨"- ".toList, .inr ⟨['-'], .inl rfl, [' '], mem_blanks_iff.mpr (by decide), rfl⟩, "**".toList,
        ⟨[], .inl rfl, "**".toList, ⟨"**".toList, .inr (.inl rfl), [], nil_mem_blanks, rfl⟩, rfl⟩,
        rfl⟩, rfl⟩
  have hMatch : Matches "- **Reason:** it was late".toList .reason "Reason".toList
      "** it was late".toList :=
    ⟨mem_forms_iff.mpr (by decide), "- **".toList, hLead, [':'], colon_mem, rfl⟩
  refine ⟨hMatch, ?_⟩
  rw [(filed_under_word_iff hMatch _).1.mpr (by decide)]
  decide

/-- Lower case does not take a long s for an `s`, so this reason is no rationale. -/
theorem long_s_reason_filed_under_change :
    Matches "reaſon: it was late".toList .reason "reaſon".toList " it was late".toList ∧
      LabelWord.reason.section = .rationale ∧
      readLine ⟨none, .empty⟩ "reaſon: it was late".toList =
        ⟨some .change, ⟨none, some "it was late".toList, none⟩⟩ ∧
      parse "reaſon: it was late" = .error .noRationale := by
  refine ⟨⟨mem_forms_iff.mpr (by decide), [], nil_mem_lead, [':'], colon_mem, rfl⟩, rfl, ?_, ?_⟩
  · decide
  · decide

end SteadyTask.Narrative
