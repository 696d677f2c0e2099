import SteadyTask.Proofs.Narrative.Sectioning

/-!
# Passages of a text

A passage is a label line with the lines below it that open no other section.  What a text holds for
a section is what its passages for that section hold, one after the other, so passages for different
sections can change places, and lines in front of the first passage can be left out.

Passages for the same section cannot change places: their texts are joined in the order in which
they stand.
-/

namespace SteadyTask.Narrative

variable {above : Option Section} {place : Section} {word : LabelWord}
  {label line rest : List Char}

/-! ## Line feeds at the end -/

/-- A carriage return after a line is part of what follows the label. -/
theorem matches_concat_return_iff :
    Matches (line ++ ['\r']) word label rest ↔
      ∃ shorter, rest = shorter ++ ['\r'] ∧ Matches line word label shorter := by
  constructor
  · rintro ⟨hLabel, front, hFront, _, ⟨g, hg, m, hm, rfl⟩, hLine⟩
    rcases List.eq_nil_or_concat' rest with rfl | ⟨shorter, last, rfl⟩
    · -- Without anything after the colon, the colon would be the carriage return.
      have hEnd : line ++ ['\r'] = (front ++ (label ++ g)) ++ m := by
        simpa using hLine
      rcases hm with rfl | rfl <;> cases (List.append_inj' hEnd rfl).2
    · have hEnd : line ++ ['\r'] = (front ++ (label ++ (g ++ m ++ shorter))) ++ [last] := by
        simpa using hLine
      obtain ⟨rfl, hLast⟩ := List.append_inj' hEnd rfl
      cases hLast
      exact ⟨shorter, rfl, hLabel, front, hFront, _, ⟨g, hg, m, hm, rfl⟩, rfl⟩
  · rintro ⟨shorter, rfl, hLabel, front, hFront, middle, hMiddle, rfl⟩
    exact ⟨hLabel, front, hFront, middle, hMiddle, by simp⟩

theorem dropBlanks_concat_return (cs : List Char) :
    dropBlanks (cs ++ ['\r']) = dropBlanks cs ∨
      dropBlanks (cs ++ ['\r']) = dropBlanks cs ++ ['\r'] := by
  rw [dropBlanks, dropBlanks, List.dropWhile_append]
  split
  · next hEmpty =>
      rw [List.isEmpty_iff.mp hEmpty]
      exact .inl rfl
  · exact .inr rfl

theorem dropBold_concat_return (cs : List Char) :
    dropBold (cs ++ ['\r']) = dropBold cs ++ ['\r'] := by
  rcases cs with - | ⟨c, - | ⟨d, cs⟩⟩
  · rfl
  · unfold dropBold
    split <;> simp_all
  · unfold dropBold
    split <;> simp_all

theorem contentOf_concat_return (rest : List Char) :
    contentOf (rest ++ ['\r']) = contentOf rest ∨
      contentOf (rest ++ ['\r']) = contentOf rest ++ ['\r'] := by
  rw [contentOf, contentOf]
  rcases dropBlanks_concat_return rest with h | h
  · exact .inl (by rw [h])
  · rw [h, dropBold_concat_return]
    exact dropBlanks_concat_return _

theorem cleanContent_concat_return (cs : List Char) :
    cleanContent (cs ++ ['\r']) = cleanContent cs := by
  have hTrim : Text.trimChars (cs ++ ['\r']) = Text.trimChars cs :=
    Text.dropAround_append (List.forall_mem_singleton.mpr (by decide))
  rw [cleanContent, cleanContent, hTrim]

/-- A carriage return after a line changes neither what the line opens nor what it adds. -/
theorem opening?_concat_return (line : List Char) :
    (opening? (line ++ ['\r'])).map Prod.fst = (opening? line).map Prod.fst ∧
      cleanContent (contentIn (line ++ ['\r'])) = cleanContent (contentIn line) := by
  cases hOpening : opening? line with
  | some opened =>
      obtain ⟨place, content⟩ := opened
      obtain ⟨word, label, rest, hMatch, rfl, rfl⟩ := opening?_eq_some_iff.mp hOpening
      have hReturn : opening? (line ++ ['\r']) =
          some (sectionOf label, contentOf (rest ++ ['\r'])) :=
        opening?_eq_some_iff.mpr
          ⟨word, label, _, matches_concat_return_iff.mpr ⟨rest, rfl, hMatch⟩, rfl, rfl⟩
      rw [contentIn, contentIn, hReturn, hOpening]
      refine ⟨rfl, ?_⟩
      show cleanContent (contentOf (rest ++ ['\r'])) = cleanContent (contentOf rest)
      rcases contentOf_concat_return rest with h | h
      · rw [h]
      · rw [h, cleanContent_concat_return]
  | none =>
      have hPlain : ¬ IsLabelLine (line ++ ['\r']) := by
        rintro ⟨place, content, word, label, rest, hMatch, -, -⟩
        obtain ⟨shorter, -, hShorter⟩ := matches_concat_return_iff.mp hMatch
        exact opening?_eq_none_iff.mp hOpening ⟨_, _, word, label, shorter, hShorter, rfl, rfl⟩
      rw [contentIn, contentIn, opening?_eq_none_iff.mpr hPlain, hOpening]
      exact ⟨rfl, cleanContent_concat_return line⟩

theorem openAfter_singleton (above : Option Section) (line : List Char) :
    openAfter above [line] = ((opening? line).map Prod.fst).or above := by
  simp [openAfter]

/-- A line feed at the end of a text changes neither what is open after it nor what it holds. -/
theorem pieces_concat_lineFeed (above : Option Section) (cs : List Char) :
    openAfter above (Text.lineChars (cs ++ ['\n'])) = openAfter above (Text.lineChars cs) ∧
      ∀ place, pieces above (Text.lineChars (cs ++ ['\n'])) place =
        pieces above (Text.lineChars cs) place := by
  rcases Text.lineChars_concat_lineFeed cs with hEmpty | ⟨front, line, read, hLine, hRead, hSame⟩
  · have hPlain : opening? [] = none := rfl
    have hNothing : cleanContent (contentIn []) = [] := rfl
    rw [hEmpty, openAfter_append, openAfter_singleton, hPlain, Option.map_none, Option.none_or]
    refine ⟨rfl, fun place => ?_⟩
    rw [pieces_append, pieces_singleton, if_neg fun h => h.2 hNothing, List.append_nil]
  · rw [hLine, hRead, openAfter_append, openAfter_append]
    rcases hSame with rfl | rfl
    · exact ⟨rfl, fun place => rfl⟩
    · obtain ⟨hOpen, hContent⟩ := opening?_concat_return read
      have hAfter : openAfter (openAfter above front) [read] =
          openAfter (openAfter above front) [read ++ ['\r']] := by
        rw [openAfter_singleton, openAfter_singleton, hOpen]
      refine ⟨hAfter, fun place => ?_⟩
      rw [pieces_append, pieces_append, pieces_singleton, pieces_singleton, hAfter, hContent]

/-- Parts that are joined by a line feed hold what they hold one after the other. -/
theorem pieces_append_lineFeed (above : Option Section) (front back : List Char)
    (place : Section) :
    pieces above (Text.lineChars (front ++ '\n' :: back)) place =
      pieces above (Text.lineChars front) place ++
        pieces (openAfter above (Text.lineChars front)) (Text.lineChars back) place := by
  obtain ⟨hOpen, hPieces⟩ := pieces_concat_lineFeed above front
  rw [Text.lineChars_append_lineFeed, pieces_append, hOpen, hPieces]

/-! ## Passages -/

/-- A passage as it stands in a text: its first line opens it, and no other line of it opens a
section. -/
structure Passage where
  text : String
  place : Section
  isWhole : ∃ opener content rest, Text.lineChars text.toList = opener :: rest ∧
    Opens opener place content ∧ ∀ line ∈ rest, ¬ IsLabelLine line

namespace Passage

variable (b : Passage)

/-- The lines of a passage. -/
abbrev lines : List (List Char) :=
  Text.lineChars b.text.toList

/-- Every line of a passage belongs to its section. -/
theorem openAfter_take (above : Option Section) (i : Nat) :
    openAfter above (b.lines.take (i + 1)) = some b.place := by
  obtain ⟨opener, content, rest, hLines, hOpens, hRest⟩ := b.isWhole
  rw [lines, hLines, List.take_succ_cons, ← List.singleton_append, openAfter_append,
    openAfter_opener hOpens]
  exact openAfter_of_plain fun line hLine => hRest line (List.mem_of_mem_take hLine)

/-- It makes no difference to a passage what is open above it. -/
theorem pieces_above (above : Option Section) (place : Section) :
    pieces above b.lines place = pieces none b.lines place := by
  refine List.filterMap_congr fun i _ => ?_
  rw [piece?, piece?, b.openAfter_take, b.openAfter_take]

/-- A passage holds something for its own section only. -/
theorem pieces_of_ne {place : Section} (h : b.place ≠ place) : pieces none b.lines place = [] := by
  rw [pieces, List.filterMap_eq_nil_iff]
  intro i _
  rw [piece?, b.openAfter_take]
  simp [h]

end Passage

/-- Passages that are joined by line feeds hold what they hold one after the other. -/
theorem pieces_intercalate (above : Option Section) (passages : List Passage) (place : Section) :
    pieces above (Text.lineChars (['\n'].intercalate (passages.map fun b => b.text.toList))) place =
      passages.flatMap fun b => pieces none b.lines place := by
  induction passages generalizing above with
  | nil => rfl
  | cons b passages ih =>
      cases passages with
      | nil => simp [b.pieces_above above]
      | cons next passages =>
          rw [List.map_cons, List.map_cons, List.intercalate_cons_cons, List.append_assoc,
            List.singleton_append, pieces_append_lineFeed, b.pieces_above, List.flatMap_cons]
          congr 1
          exact ih _

/-- What passages hold for a section is settled by those of that section, in their order. -/
theorem flatMap_pieces_filter (passages : List Passage) (place : Section) :
    (passages.filter fun b => b.place = place).flatMap (fun b => pieces none b.lines place) =
      passages.flatMap fun b => pieces none b.lines place := by
  induction passages with
  | nil => rfl
  | cons b passages ih =>
      rw [List.flatMap_cons, ← ih]
      by_cases hPlace : b.place = place
      · simp [hPlace]
      · simp [hPlace, b.pieces_of_ne hPlace]

/-- Lines that no section is open for add nothing. -/
theorem pieces_of_plain {lines : List (List Char)} (h : ∀ line ∈ lines, ¬ IsLabelLine line)
    (place : Section) :
    pieces none lines place = [] := by
  rw [pieces, List.filterMap_eq_nil_iff]
  intro i _
  have hOpen : openAfter none (lines.take (i + 1)) = none :=
    openAfter_of_plain fun line hLine => h line (List.mem_of_mem_take hLine)
  rw [piece?, hOpen]
  simp

/-- Lines in front of the first label line do not matter. -/
theorem parse_append_of_plain {before : String}
    (h : ∀ line ∈ Text.lineChars before.toList, ¬ IsLabelLine line) (text : String) :
    parse (before ++ "\n" ++ text) = parse text := by
  refine parse_congr fun place => ?_
  have hText : (before ++ "\n" ++ text).toList = before.toList ++ '\n' :: text.toList := by
    simp [String.toList_append]
  rw [hText, pieces_append_lineFeed, pieces_of_plain h, openAfter_of_plain h, List.nil_append]

/-- Passages for different sections can change places. -/
theorem parse_intercalate_congr {passages passages' : List Passage}
    (h : ∀ place, passages.filter (fun b => b.place = place) =
      passages'.filter fun b => b.place = place) :
    parse ("\n".intercalate (passages.map Passage.text)) =
      parse ("\n".intercalate (passages'.map Passage.text)) := by
  have hText (bs : List Passage) : ("\n".intercalate (bs.map Passage.text)).toList =
      ['\n'].intercalate (bs.map fun b => b.text.toList) := by
    rw [String.toList_intercalate, List.map_map]
    rfl
  refine parse_congr fun place => ?_
  rw [hText, hText, pieces_intercalate, pieces_intercalate, ← flatMap_pieces_filter,
    ← flatMap_pieces_filter passages', h place]

/-- A narrative is read from a text exactly if its sections hold a rationale and no text that is too
long, and its texts are then those of the sections; what a section holds is what its lines add, each
line belonging to the nearest label line at or above it.  So nothing in front of the first label line
matters, nor the order of passages for different sections. -/
theorem parse_by_sections :
    (∀ text, ((∃ f, parse text = .ok f) ↔
        (present? (sectionText text .rationale)).isSome = true ∧
          ∀ place, ∀ t ∈ present? (sectionText text place), t.length ≤ 2000) ∧
      ∀ f, parse text = .ok f → ∀ place, f.textOf place = present? (sectionText text place)) ∧
    (∀ lines place i piece,
      piece? none lines place i = some piece ↔ Adds lines i place piece) ∧
    (∀ before : String, (∀ line ∈ Text.lineChars before.toList, ¬ IsLabelLine line) →
      ∀ text, parse (before ++ "\n" ++ text) = parse text) ∧
    ∀ passages passages' : List Passage,
      (∀ place, passages.filter (fun b => b.place = place) =
        passages'.filter fun b => b.place = place) →
      parse ("\n".intercalate (passages.map Passage.text)) =
        parse ("\n".intercalate (passages'.map Passage.text)) := by
  refine ⟨fun text => ⟨?_, fun f h => (parse_eq_ok_iff.mp h).1⟩,
    fun lines place i piece => piece?_eq_some_iff, fun before h => parse_append_of_plain h,
    fun passages passages' h => parse_intercalate_congr h⟩
  constructor
  · rintro ⟨f, h⟩
    obtain ⟨hTexts, hLengths⟩ := parse_eq_ok_iff.mp h
    exact ⟨by rw [← hTexts .rationale]; rfl, hLengths⟩
  · rintro ⟨hSome, hLengths⟩
    obtain ⟨rationale, hRationale⟩ := Option.isSome_iff_exists.mp hSome
    refine ⟨⟨rationale, present? (sectionText text .change), present? (sectionText text .impact)⟩,
      parse_eq_ok_iff.mpr ⟨fun place => ?_, hLengths⟩⟩
    cases place with
    | rationale => exact hRationale.symm
    | change => rw [Fields.textOf]
    | impact => rw [Fields.textOf]

/-- A reason on two lines. -/
def lateReason : Passage where
  text := "**Reason:** it was\nlate"
  place := .rationale
  isWhole := ⟨"**Reason:** it was".toList, "it was".toList, ["late".toList], by decide, by decide,
    by decide⟩

/-- An impact with an empty line below it. -/
def smallImpact : Passage where
  text := "- IMPACT: small\n"
  place := .impact
  isWhole := ⟨"- IMPACT: small".toList, "small".toList, [], by decide, by decide, by decide⟩

/-- Another reason. -/
def otherReason : Passage where
  text := "Reasoning: and slow"
  place := .rationale
  isWhole := ⟨"Reasoning: and slow".toList, "and slow".toList, [], by decide, by decide, by decide⟩

/-- The impact can stand before, between and after the reasons, and lines in front of them can be
left out. -/
theorem impact_changes_places :
    (∀ line ∈ Text.lineChars "Looking back:\n".toList, ¬ IsLabelLine line) ∧
      (∀ place, [lateReason, smallImpact, otherReason].filter (fun b => b.place = place) =
        [smallImpact, lateReason, otherReason].filter fun b => b.place = place) ∧
      parse ("Looking back:\n" ++ "\n" ++
          "**Reason:** it was\nlate\n- IMPACT: small\n\nReasoning: and slow") =
        parse "- IMPACT: small\n\n**Reason:** it was\nlate\nReasoning: and slow" ∧
      ∃ f, parse "- IMPACT: small\n\n**Reason:** it was\nlate\nReasoning: and slow" = .ok f ∧
        f.rationale = "it was late and slow" := by
  obtain ⟨hRead, -, hBefore, hOrder⟩ := parse_by_sections
  have hPlain : ∀ line ∈ Text.lineChars "Looking back:\n".toList, ¬ IsLabelLine line := by decide
  have hPlaces : ∀ place, [lateReason, smallImpact, otherReason].filter (fun b => b.place = place) =
      [smallImpact, lateReason, otherReason].filter fun b => b.place = place := by
    intro place
    cases place <;> rfl
  have hLate : "\n".intercalate ([lateReason, smallImpact, otherReason].map Passage.text) =
      "**Reason:** it was\nlate\n- IMPACT: small\n\nReasoning: and slow" := by
    decide
  have hEarly : "\n".intercalate ([smallImpact, lateReason, otherReason].map Passage.text) =
      "- IMPACT: small\n\n**Reason:** it was\nlate\nReasoning: and slow" := by
    decide
  have hSwapped := hOrder _ _ hPlaces
  rw [hLate, hEarly] at hSwapped
  refine ⟨hPlain, hPlaces, (hBefore _ hPlain _).trans hSwapped, ?_⟩
  obtain ⟨f, hf⟩ := (hRead "- IMPACT: small\n\n**Reason:** it was\nlate\nReasoning: and slow").1.mpr
    ⟨by decide, fun place => by cases place <;> decide⟩
  refine ⟨f, hf, ?_⟩
  have hRationale := (hRead _).2 f hf .rationale
  have hText : present? (sectionText
      "- IMPACT: small\n\n**Reason:** it was\nlate\nReasoning: and slow" .rationale) =
        some "it was late and slow" := by
    decide
  exact Option.some.inj (hRationale.trans hText)

end SteadyTask.Narrative
