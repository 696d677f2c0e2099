import SteadyTask.Proofs.Narrative.NormalForms

/-!
# Narratives written as labelled lines

A narrative can be written with one line for each of its texts: each behind a label in any of its
spellings and in either ASCII case, with or without a list marker, number signs and bold text, and
with a colon of either width.  A text that is absent has no line, or one that holds `none`.  Whatever
is chosen, and in whatever order the lines stand, reading gives back the narrative.
-/

namespace SteadyTask.Narrative

variable {place : Section} {word : LabelWord} {text line read label tail cs : List Char} {f : Fields}

/-! ## The texts of lines -/

/-- A text that a line can carry: it is not empty, and reading takes nothing off its ends. -/
structure Carried (text : List Char) : Prop where
  ne_nil : text ≠ []
  trimmed : Text.trimChars text = text
  not_star_first : ¬ ['*'] <+: text
  not_star_last : ¬ ['*'] <:+ text
  not_line_first : ¬ ['_', '_'] <+: text

namespace Carried

/-- Asterisks around a text would be taken off. -/
theorem dropAround_star (h : Carried text) : Text.dropAround (· = '*') text = text := by
  rw [Text.dropAround_eq_self_iff]
  constructor
  · intro c hc
    refine decide_eq_false fun hStar => h.not_star_first ?_
    rw [hStar] at hc
    exact (List.singleton_prefix_iff_head?_eq_some).mpr hc
  · intro c hc
    refine decide_eq_false fun hStar => h.not_star_last ?_
    rw [hStar] at hc
    exact (List.singleton_suffix_iff_getLast?_eq_some).mpr hc

/-- Blanks behind a text are taken off, and nothing else. -/
theorem cleanContent_append (h : Carried text) (hTail : tail ∈ blanks) :
    cleanContent (text ++ tail) = text := by
  have hTrim : Text.trimChars (text ++ tail) = text := by
    rw [Text.trimChars, Text.dropAround_append hTail, ← Text.trimChars, h.trimmed]
  rw [cleanContent, hTrim, h.dropAround_star, h.trimmed]

/-- A text is not taken for the end of bold text. -/
theorem bare_append (h : Carried text) (hTail : tail ∈ blanks) : Bare (text ++ tail) := by
  obtain ⟨c, rest, rfl⟩ := List.exists_cons_of_ne_nil h.ne_nil
  have hBlank : Text.isBlank c = false := (Text.dropAround_eq_self_iff.mp h.trimmed).1 c rfl
  refine ⟨dropBlanks_cons hBlank (rest ++ tail), ?_⟩
  rw [List.cons_append]
  unfold dropBold
  split
  · next hChars =>
      obtain ⟨rfl, -⟩ := List.cons.inj hChars
      exact absurd ⟨rest, rfl⟩ h.not_star_first
  · next hChars =>
      obtain ⟨rfl, hRest⟩ := List.cons.inj hChars
      cases rest with
      | nil =>
          -- The second low line would be one of the blanks behind the text.
          rw [List.nil_append] at hRest
          exact absurd (hTail '_' (hRest ▸ List.mem_cons_self)) (by decide)
      | cons d rest =>
          obtain ⟨rfl, -⟩ := List.cons.inj hRest
          exact absurd ⟨rest, rfl⟩ h.not_line_first
  · rfl

end Carried

/-! ## One line -/

/-- A line with the text of a section: the label in either ASCII case, whatever else the pattern
allows in front of the text, and blanks behind it. -/
structure RendersLine (place : Section) (text line : List Char) : Prop where
  single : '\n' ∉ line
  written : ∃ word : LabelWord, word.section = place ∧ ∃ front ∈ lead,
    ∃ label, label.map Char.toLower ∈ word.spellings ∧ ∃ middle ∈ gap * colon,
    ∃ closing ∈ gap, ∃ tail ∈ blanks,
    line = front ++ (label ++ (middle ++ (closing ++ (text ++ tail))))

/-- Letters in either ASCII case are those of the word, and none is a long s. -/
theorem mem_forms_of_toLower (h : label.map Char.toLower ∈ word.spellings) :
    label ∈ word.forms ∧ Text.longS ∉ label := by
  have hAll : ∀ word ∈ LabelWord.all, ∀ s ∈ word.spellings,
      s.all (fun c => c.toNat < 128) = true := by
    decide
  have hLetter (c : Char) (hc : c ∈ label) : Text.foldChar c = c.toLower ∧ c ≠ Text.longS := by
    have hCode := List.all_eq_true.mp (hAll word word.mem_all _ h) _ (List.mem_map_of_mem hc)
    exact Text.foldChar_eq_toLower (of_decide_eq_true hCode)
  constructor
  · rw [mem_forms_iff, List.map_congr_left fun c hc => (hLetter c hc).1]
    exact h
  · intro hLong
    exact (hLetter Text.longS hLong).2 rfl

/-- A carriage return that is cut off a line was one of the blanks behind its text. -/
theorem exists_tail (hText : Carried text) (hTail : tail ∈ blanks)
    (h : Text.SameLine (cs ++ (text ++ tail)) read) :
    ∃ tail' ∈ blanks, read = cs ++ (text ++ tail') := by
  rcases h with rfl | hReturn
  · exact ⟨tail, hTail, rfl⟩
  · rcases List.eq_nil_or_concat' tail with rfl | ⟨tail, last, rfl⟩
    · obtain ⟨front, last, rfl⟩ := (List.eq_nil_or_concat' text).resolve_left hText.ne_nil
      rw [List.append_nil, ← List.append_assoc] at hReturn
      obtain ⟨-, hLast⟩ := List.append_inj' hReturn rfl
      cases hLast
      have hBlank := (Text.dropAround_eq_self_iff.mp hText.trimmed).2 '\r' (by simp)
      exact absurd hBlank (by decide)
    · rw [← List.append_assoc, ← List.append_assoc] at hReturn
      obtain ⟨hRead, -⟩ := List.append_inj' hReturn rfl
      refine ⟨tail, fun c hc => hTail c (List.mem_append_left _ hc), ?_⟩
      rw [← hRead, List.append_assoc]

/-- A written line is filed with its text. -/
theorem RendersLine.files (h : RendersLine place text line) (hText : Carried text)
    (hSame : Text.SameLine line read) : Files read place text := by
  obtain ⟨-, word, rfl, front, hFront, label, hLabel, middle, hMiddle, closing, hClosing, tail,
    hTail, rfl⟩ := h
  have hCut : front ++ (label ++ (middle ++ (closing ++ (text ++ tail)))) =
      front ++ (label ++ (middle ++ closing)) ++ (text ++ tail) := by
    simp only [List.append_assoc]
  rw [hCut] at hSame
  obtain ⟨tail', hTail', rfl⟩ := exists_tail hText hTail hSame
  obtain ⟨hForms, hLong⟩ := mem_forms_of_toLower hLabel
  have hMatch : Matches (front ++ (label ++ (middle ++ closing)) ++ (text ++ tail')) word label
      (closing ++ (text ++ tail')) :=
    ⟨hForms, front, hFront, middle, hMiddle, by simp only [List.append_assoc]⟩
  have hFiles := hMatch.files
  rw [sectionOf_of_notMem hForms hLong, (hText.bare_append hTail').contentOf_append hClosing,
    hText.cleanContent_append hTail'] at hFiles
  exact hFiles

theorem RendersLine.ne_nil (h : RendersLine place text line) (hText : Carried text) :
    line ≠ [] := by
  obtain ⟨-, word, -, front, -, label, -, middle, -, closing, -, tail, -, rfl⟩ := h
  simp [hText.ne_nil]

/-! ## The whole text -/

/-- The text that a line for a section carries. -/
def Fields.written (f : Fields) (place : Section) : List Char :=
  ((f.textOf place).getD "none").toList

/-- A narrative written line by line: the sections that have a line, and their lines. -/
structure Rendering (f : Fields) where
  places : List Section
  line : Section → List Char
  ending : List Char
  covers : f.Covers places
  renders : ∀ place ∈ places, RendersLine place (f.written place) (line place)
  ending_eq : ending = [] ∨ ending = ['\n']

/-- The lines of a written narrative, joined by line feeds. -/
def Rendering.toText (r : Rendering f) : String :=
  String.ofList (['\n'].intercalate (r.places.map r.line) ++ r.ending)

/-- A narrative whose texts come back from lines: it is valid and normal, the rationale does not
stand for an absent one, and no text starts or ends with what could be taken for bold text. -/
structure Fields.Plain (f : Fields) : Prop where
  valid : f.validate = .ok ()
  normal : f.normalize = f
  rationale_kept : isPlaceholder f.rationale = false
  ends : ∀ place text, f.textOf place = some text →
    ¬ ['*'] <+: text.toList ∧ ¬ ['*'] <:+ text.toList ∧ ¬ ['_', '_'] <+: text.toList

/-- Each text of a plain narrative is kept when it is normalised. -/
theorem Fields.Plain.normalizeOptional_textOf (h : f.Plain) (place : Section) :
    normalizeOptional (f.textOf place) = f.textOf place := by
  cases place with
  | rationale =>
      have hTrim : Text.trim f.rationale = f.rationale := congrArg Fields.rationale h.normal
      rw [Fields.textOf, normalizeOptional, hTrim, h.rationale_kept]
      rfl
  | change => exact congrArg Fields.proposedChange h.normal
  | impact => exact congrArg Fields.impact h.normal

theorem Fields.Plain.carried (h : f.Plain) (place : Section) : Carried (f.written place) := by
  rw [Fields.written]
  cases hText : f.textOf place with
  | none => exact ⟨by decide, by decide, by decide, by decide, by decide⟩
  | some t =>
      have hNormal := h.normalizeOptional_textOf place
      rw [hText] at hNormal
      obtain ⟨hTrim, hKept⟩ := normalizeOptional_eq_self_iff.mp hNormal t rfl
      obtain ⟨hStar, hStarLast, hLine⟩ := h.ends place t hText
      refine ⟨?_, ?_, hStar, hStarLast, hLine⟩
      · intro hNil
        rw [Option.getD_some, String.toList_eq_nil_iff] at hNil
        subst hNil
        cases hKept
      · rw [Option.getD_some, ← Text.toList_trim, hTrim]

/-- The sections that are collected normalise to the texts. -/
theorem Rendering.normalizeOptional_get (r : Rendering f) (h : f.Plain) (place : Section) :
    normalizeOptional (((collect r.toText.toList).get place).map String.ofList) = f.textOf place := by
  have hLines : ∀ line ∈ r.places.map r.line, '\n' ∉ line ∧ line ≠ [] := by
    intro line hLine
    obtain ⟨place, hPlace, rfl⟩ := List.mem_map.mp hLine
    exact ⟨(r.renders place hPlace).single, (r.renders place hPlace).ne_nil (h.carried place)⟩
  have hSome : r.places.map r.line ≠ [] :=
    List.ne_nil_of_mem (List.mem_map_of_mem (r.covers.complete .rationale rfl))
  have hSame := Text.lineChars_intercalate hLines hSome r.ending_eq
  rw [List.forall₂_map_left_iff] at hSame
  have hFiles : List.Forall₂ (fun place line => Files line place (f.written place)) r.places
      (Text.lineChars r.toText.toList) := by
    rw [Rendering.toText, String.toList_ofList]
    have hBoth := (List.forall₂_and_left _ _).mpr ⟨r.renders, hSame⟩
    exact hBoth.imp fun place line hLine => hLine.1.files (h.carried place) hLine.2
  rw [get_collect hFiles r.covers.nodup place, Sections.joined_none, if_neg (h.carried place).ne_nil]
  by_cases hPlace : place ∈ r.places
  · rw [if_pos hPlace, Option.map_some, Fields.written, String.ofList_toList]
    cases hText : f.textOf place with
    | none => decide
    | some t =>
        rw [Option.getD_some, ← hText]
        exact h.normalizeOptional_textOf place
  · rw [if_neg hPlace, Option.map_none]
    exact (r.covers.textOf_eq_none hPlace).symm

/-- Reading undoes the writing of a narrative, however it is written. -/
theorem parse_rendering (h : f.Plain) (r : Rendering f) : parse r.toText = .ok f := by
  have hSections (place : Section) :
      normalizeOptional (((collect r.toText.toList).get place).map String.ofList) =
        normalizeOptional (f.textOf place) :=
    (r.normalizeOptional_get h place).trans (h.normalizeOptional_textOf place).symm
  rw [parse, Sections.toFields_eq_ok_iff hSections, h.normal]
  refine ⟨?_, h.valid, rfl⟩
  rw [show Text.trim f.rationale = f.rationale from congrArg Fields.rationale h.normal]
  exact h.rationale_kept

/-- A narrative without an impact, written last section first. -/
def lateNarrative : Rendering ⟨"it was *late", some "_start_ early", none⟩ where
  places := [.impact, .change, .rationale]
  line
    | .rationale => " - ## **REASONing** ： it was *late ".toList
    | .change => "*proposed-Change:__ _start_ early".toList
    | .impact => "__Impact__: none\r".toList
  ending := ['\n']
  covers := ⟨by decide, fun place _ => by cases place <;> decide⟩
  renders := by
    intro place _
    cases place with
    | rationale =>
        refine ⟨by decide, .reasoning, rfl, " - ## **".toList, ?_, "REASONing".toList, by decide,
          "** ：".toList, ?_, [' '], ?_, [' '], mem_blanks_iff.mpr (by decide), by decide⟩
        · exact ⟨[' '], mem_blanks_iff.mpr (by decide), _,
            ⟨_, .inr ⟨['-'], .inl rfl, [' '], mem_blanks_iff.mpr (by decide), rfl⟩, _,
              ⟨_, .inr ⟨['#', '#'], ⟨by decide, by simp⟩, [' '], mem_blanks_iff.mpr (by decide),
                rfl⟩, _, ⟨_, .inr (.inl rfl), [], nil_mem_blanks, rfl⟩, rfl⟩, rfl⟩, rfl⟩
        · exact ⟨_, ⟨[], nil_mem_blanks, _,
            ⟨_, .inr (.inl rfl), [' '], mem_blanks_iff.mpr (by decide), rfl⟩, rfl⟩, ['：'],
            .inr rfl, rfl⟩
        · exact ⟨[' '], mem_blanks_iff.mpr (by decide), _,
            ⟨_, .inl rfl, [], nil_mem_blanks, rfl⟩, rfl⟩
    | change =>
        refine ⟨by decide, .proposedChange, rfl, ['*'], ?_, "proposed-Change".toList, by decide,
          [':'], colon_mem, "__ ".toList, ?_, [], nil_mem_blanks, by decide⟩
        · exact ⟨[], nil_mem_blanks, _,
            ⟨_, .inr ⟨['*'], .inr (.inl rfl), [], nil_mem_blanks, rfl⟩, _, nil_mem_decoration, rfl⟩,
            rfl⟩
        · exact ⟨[], nil_mem_blanks, _,
            ⟨_, .inr (.inr rfl), [' '], mem_blanks_iff.mpr (by decide), rfl⟩, rfl⟩
    | impact =>
        refine ⟨by decide, .impact, rfl, "__".toList, ?_, "Impact".toList, by decide,
          "__:".toList, ?_, [' '], ?_, ['\r'], mem_blanks_iff.mpr (by decide), by decide⟩
        · exact ⟨[], nil_mem_blanks, _, ⟨[], .inl rfl, _,
            ⟨[], .inl rfl, _, ⟨_, .inr (.inr rfl), [], nil_mem_blanks, rfl⟩, rfl⟩, rfl⟩, rfl⟩
        · exact ⟨_, ⟨[], nil_mem_blanks, _, ⟨_, .inr (.inr rfl), [], nil_mem_blanks, rfl⟩, rfl⟩,
            [':'], .inl rfl, rfl⟩
        · exact ⟨[' '], mem_blanks_iff.mpr (by decide), _,
            ⟨_, .inl rfl, [], nil_mem_blanks, rfl⟩, rfl⟩
  ending_eq := .inr rfl

/-- It is read back. -/
theorem parse_late_narrative :
    (⟨"it was *late", some "_start_ early", none⟩ : Fields).Plain ∧
      parse ("__Impact__: none\r\n*proposed-Change:__ _start_ early\n" ++
        " - ## **REASONing** ： it was *late \n") =
        .ok ⟨"it was *late", some "_start_ early", none⟩ := by
  have hPlain : (⟨"it was *late", some "_start_ early", none⟩ : Fields).Plain := by
    refine ⟨by decide, by decide, by decide, ?_⟩
    intro place text hText
    cases place with
    | rationale =>
        cases hText
        decide
    | change =>
        cases hText
        decide
    | impact => cases hText
  exact ⟨hPlain, parse_rendering hPlain lateNarrative⟩

end SteadyTask.Narrative
