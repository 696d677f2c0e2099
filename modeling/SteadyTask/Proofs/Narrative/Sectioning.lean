import SteadyTask.Proofs.Narrative.NormalForms

/-!
# A text as its sections

Reading a text line by line gives what its sections hold: each line belongs to the section of the
nearest label line at or above it, and adds what follows its label, or all of itself, without the
blanks and asterisks around it.  A section's text is what its lines add, joined by single spaces in
the order of the lines.

The open section is kept as an argument, so that what a text holds is put together from what its
parts hold.
-/

namespace SteadyTask.Narrative

variable {above : Option Section} {place other : Section} {line content piece : List Char}
  {lines front back : List (List Char)} {i : Nat}

/-! ## Label lines -/

/-- A label line opens a section, with what follows its label. -/
def Opens (line : List Char) (place : Section) (content : List Char) : Prop :=
  ∃ word label rest, Matches line word label rest ∧ sectionOf label = place ∧
    contentOf rest = content

/-- A line opens some section. -/
def IsLabelLine (line : List Char) : Prop :=
  ∃ place content, Opens line place content

/-- The section that a line opens, and what follows its label. -/
def opening? (line : List Char) : Option (Section × List Char) :=
  (labelled? line).map fun l => (sectionOf l.label, l.content)

theorem opening?_eq_some_iff : opening? line = some (place, content) ↔ Opens line place content := by
  rw [opening?, Option.map_eq_some_iff]
  constructor
  · rintro ⟨l, hLabel, hPair⟩
    obtain ⟨rest, hMatch, hContent⟩ := labelled?_eq_some_iff.mp hLabel
    cases hPair
    exact ⟨l.word, l.label, rest, hMatch, rfl, hContent.symm⟩
  · rintro ⟨word, label, rest, hMatch, rfl, rfl⟩
    exact ⟨_, hMatch.labelled?_eq, rfl⟩

theorem opening?_eq_none_iff : opening? line = none ↔ ¬ IsLabelLine line := by
  simp only [Option.eq_none_iff_forall_ne_some, Prod.forall, IsLabelLine, not_exists, ne_eq,
    opening?_eq_some_iff]

instance (line : List Char) (place : Section) (content : List Char) :
    Decidable (Opens line place content) :=
  decidable_of_iff _ opening?_eq_some_iff

instance (line : List Char) : Decidable (IsLabelLine line) :=
  decidable_of_iff (¬ opening? line = none) (by rw [opening?_eq_none_iff, not_not])

/-! ## What lines add -/

/-- What a line holds: what follows its label, or all of it. -/
def contentIn (line : List Char) : List Char :=
  (opening? line).elim line Prod.snd

/-- The section that is open after some lines: that of the last label line, or the one that was open
above them. -/
def openAfter (above : Option Section) (lines : List (List Char)) : Option Section :=
  (lines.reverse.findSome? fun line => (opening? line).map Prod.fst).or above

/-- What line number `i` adds to a section, if it adds anything. -/
def piece? (above : Option Section) (lines : List (List Char)) (place : Section) (i : Nat) :
    Option (List Char) :=
  lines[i]?.bind fun line =>
    if openAfter above (lines.take (i + 1)) = some place ∧ cleanContent (contentIn line) ≠ [] then
      some (cleanContent (contentIn line))
    else none

/-- What lines add to a section, in their order. -/
def pieces (above : Option Section) (lines : List (List Char)) (place : Section) :
    List (List Char) :=
  (List.range lines.length).filterMap (piece? above lines place)

/-- What a text holds for a section. -/
def sectionText (text : String) (place : Section) : String :=
  String.ofList ([' '].intercalate (pieces none (Text.lineChars text.toList) place))

/-! ## The nearest label line -/

/-- The nearest label line at or above line number `i` opens a section. -/
def LiesIn (lines : List (List Char)) (i : Nat) (place : Section) : Prop :=
  ∃ before opener content after, lines.take (i + 1) = before ++ opener :: after ∧
    Opens opener place content ∧ ∀ line ∈ after, ¬ IsLabelLine line

/-- Line number `i` adds a piece to a section. -/
def Adds (lines : List (List Char)) (i : Nat) (place : Section) (piece : List Char) : Prop :=
  ∃ line content, lines[i]? = some line ∧ LiesIn lines i place ∧
    ((∃ opened, Opens line opened content) ∨ ¬ IsLabelLine line ∧ content = line) ∧
    piece = Text.trimChars (Text.dropAround (· = '*') (Text.trimChars content)) ∧ piece ≠ []

theorem openAfter_none_eq_some_iff :
    openAfter none lines = some place ↔
      ∃ before opener content after, lines = before ++ opener :: after ∧
        Opens opener place content ∧ ∀ line ∈ after, ¬ IsLabelLine line := by
  have hPlace (line : List Char) :
      (opening? line).map Prod.fst = some place ↔ ∃ content, Opens line place content := by
    simp [← opening?_eq_some_iff]
  have hPlain (line : List Char) :
      (opening? line).map Prod.fst = none ↔ ¬ IsLabelLine line := by
    rw [Option.map_eq_none_iff, opening?_eq_none_iff]
  rw [openAfter, Option.or_none, List.findSome?_eq_some_iff]
  simp only [hPlace, hPlain]
  constructor
  · rintro ⟨after, opener, before, hLines, ⟨content, hOpens⟩, hAfter⟩
    refine ⟨before.reverse, opener, content, after.reverse, ?_, hOpens,
      fun line hLine => hAfter line (List.mem_reverse.mp hLine)⟩
    simpa using congrArg List.reverse hLines
  · rintro ⟨before, opener, content, after, rfl, hOpens, hAfter⟩
    exact ⟨after.reverse, opener, before.reverse, by simp, ⟨content, hOpens⟩,
      fun line hLine => hAfter line (List.mem_reverse.mp hLine)⟩

theorem contentIn_eq_iff :
    contentIn line = content ↔
      (∃ opened, Opens line opened content) ∨ ¬ IsLabelLine line ∧ content = line := by
  rw [contentIn, ← opening?_eq_none_iff]
  simp only [← opening?_eq_some_iff]
  cases opening? line with
  | none => simp [eq_comm]
  | some opened =>
      obtain ⟨place, held⟩ := opened
      simp

theorem piece?_eq_some_iff : piece? none lines place i = some piece ↔ Adds lines i place piece := by
  simp only [piece?, Option.bind_eq_some_iff, Option.ite_none_right_eq_some, Option.some_inj, Adds,
    openAfter_none_eq_some_iff, ← contentIn_eq_iff, LiesIn]
  constructor
  · rintro ⟨line, hLine, ⟨hLies, hNe⟩, rfl⟩
    exact ⟨line, contentIn line, hLine, hLies, rfl, rfl, hNe⟩
  · rintro ⟨line, content, hLine, hLies, rfl, rfl, hNe⟩
    exact ⟨line, hLine, ⟨hLies, hNe⟩, rfl⟩

/-! ## Parts of a text -/

@[simp]
theorem openAfter_nil (above : Option Section) : openAfter above [] = above := rfl

theorem openAfter_append (above : Option Section) (front back : List (List Char)) :
    openAfter above (front ++ back) = openAfter (openAfter above front) back := by
  simp only [openAfter, List.reverse_append, List.findSome?_append, Option.or_assoc]

/-- Lines that open nothing leave the open section as it is. -/
theorem openAfter_of_plain (h : ∀ line ∈ lines, ¬ IsLabelLine line) :
    openAfter above lines = above := by
  have hNone : lines.reverse.findSome? (fun line => (opening? line).map Prod.fst) = none := by
    rw [List.findSome?_eq_none_iff]
    intro line hLine
    rw [Option.map_eq_none_iff, opening?_eq_none_iff]
    exact h line (List.mem_reverse.mp hLine)
  rw [openAfter, hNone, Option.none_or]

theorem openAfter_opener (h : Opens line place content) : openAfter above [line] = some place := by
  simp [openAfter, opening?_eq_some_iff.mpr h]

@[simp]
theorem pieces_nil (above : Option Section) (place : Section) : pieces above [] place = [] := rfl

theorem pieces_append (above : Option Section) (front back : List (List Char)) (place : Section) :
    pieces above (front ++ back) place =
      pieces above front place ++ pieces (openAfter above front) back place := by
  rw [pieces, List.length_append, List.range_add, List.filterMap_append, List.filterMap_map]
  congr 1
  · refine List.filterMap_congr fun i hi => ?_
    have hIn : i < front.length := List.mem_range.mp hi
    rw [piece?, piece?, List.getElem?_append_left hIn, List.take_append_of_le_length hIn]
  · refine List.filterMap_congr fun i _ => ?_
    have hTake : (front ++ back).take (front.length + i + 1) = front ++ back.take (i + 1) := by
      rw [Nat.add_assoc, List.take_length_add_append]
    rw [Function.comp_apply, piece?, piece?, List.getElem?_append_right (Nat.le_add_right _ _),
      Nat.add_sub_cancel_left, hTake, openAfter_append]

/-- A single line adds its content to the section that is open after it. -/
theorem pieces_singleton (above : Option Section) (line : List Char) (place : Section) :
    pieces above [line] place =
      if openAfter above [line] = some place ∧ cleanContent (contentIn line) ≠ [] then
        [cleanContent (contentIn line)]
      else [] := by
  simp only [pieces, List.length_singleton, List.range_one, List.filterMap_cons, List.filterMap_nil,
    piece?, List.getElem?_cons_zero, Option.bind_some, Nat.zero_add, List.take_succ_cons,
    List.take_nil]
  split_ifs <;> rfl

theorem forall_mem_pieces {P : List Char → Prop}
    (h : ∀ line, cleanContent (contentIn line) ≠ [] → P (cleanContent (contentIn line))) :
    ∀ piece ∈ pieces above lines place, P piece := by
  intro piece hPiece
  obtain ⟨i, -, hAdds⟩ := List.mem_filterMap.mp hPiece
  rw [piece?, Option.bind_eq_some_iff] at hAdds
  obtain ⟨line, -, hAdds⟩ := hAdds
  obtain ⟨⟨-, hNe⟩, hEq⟩ := Option.ite_none_right_eq_some.mp hAdds
  cases hEq
  exact h line hNe

/-! ## Reading line by line -/

namespace Sections

/-- What is collected after some pieces. -/
theorem foldl_joined {ps : List (List Char)} (h : ∀ piece ∈ ps, piece ≠ []) (before : List Char) :
    ps.foldl joined (some before) = some ([' '].intercalate (before :: ps)) := by
  induction ps generalizing before with
  | nil => rw [List.foldl_nil, List.intercalate_singleton]
  | cons piece ps ih =>
      obtain ⟨hPiece, hRest⟩ := List.forall_mem_cons.mp h
      rw [List.foldl_cons, joined, if_neg (mt List.isEmpty_iff.mp hPiece)]
      simp only [ih hRest]
      cases ps <;> simp [List.intercalate_cons_cons]

theorem foldl_joined_none {ps : List (List Char)} (h : ∀ piece ∈ ps, piece ≠ []) :
    ps.foldl joined none = if ps = [] then none else some ([' '].intercalate ps) := by
  cases ps with
  | nil => rfl
  | cons piece ps =>
      obtain ⟨hPiece, hRest⟩ := List.forall_mem_cons.mp h
      rw [List.foldl_cons, joined_none, if_neg hPiece, foldl_joined hRest,
        if_neg (List.cons_ne_nil piece ps)]

/-- Sections that hold the same are the same. -/
theorem eq_of_get {s t : Sections} (h : ∀ place, s.get place = t.get place) : s = t := by
  have hRationale : s.rationale = t.rationale := h .rationale
  have hChange : s.change = t.change := h .change
  have hImpact : s.impact = t.impact := h .impact
  cases s
  cases t
  simp_all

end Sections

/-- An empty content adds nothing, and no section but the open one is touched. -/
theorem get_add_of_open (s : Sections) (opened place : Section) (content : List Char) :
    (s.add opened content).get place =
      (if some opened = some place ∧ content ≠ [] then [content] else []).foldl Sections.joined
        (s.get place) := by
  rw [Sections.get_add]
  by_cases hPlace : place = opened
  · subst hPlace
    by_cases hEmpty : content = [] <;> simp [hEmpty, Sections.joined]
  · simp [hPlace, Ne.symm hPlace]

/-- Reading a line opens its section, if it is a label line, and adds its content to the section that
is open then. -/
theorem readLine_spec (p : Progress) (line : List Char) :
    (readLine p line).place = openAfter p.place [line] ∧
      ∀ place, (readLine p line).sections.get place =
        (pieces p.place [line] place).foldl Sections.joined (p.sections.get place) := by
  simp only [pieces_singleton]
  cases hLabel : labelled? line with
  | some l =>
      have hOpen : openAfter p.place [line] = some (sectionOf l.label) := by
        simp [openAfter, opening?, hLabel]
      have hContent : contentIn line = l.content := by
        simp [contentIn, opening?, hLabel]
      rw [readLine, hLabel, hOpen, hContent]
      exact ⟨rfl, fun place => get_add_of_open p.sections _ place _⟩
  | none =>
      have hOpen : openAfter p.place [line] = p.place := by
        simp [openAfter, opening?, hLabel]
      have hContent : contentIn line = line := by
        simp [contentIn, opening?, hLabel]
      rw [readLine, hLabel, hOpen, hContent]
      cases hPlace : p.place with
      | some opened => exact ⟨rfl, fun place => get_add_of_open p.sections _ place _⟩
      | none => exact ⟨hPlace, fun place => rfl⟩

/-- After some lines, the open section and the collected texts are those of the lines. -/
theorem foldl_readLine_spec (p : Progress) (lines : List (List Char)) :
    (lines.foldl readLine p).place = openAfter p.place lines ∧
      ∀ place, (lines.foldl readLine p).sections.get place =
        (pieces p.place lines place).foldl Sections.joined (p.sections.get place) := by
  induction lines generalizing p with
  | nil => exact ⟨rfl, fun place => rfl⟩
  | cons line lines ih =>
      obtain ⟨hOpen, hGet⟩ := readLine_spec p line
      obtain ⟨hOpenRest, hGetRest⟩ := ih (readLine p line)
      rw [← List.singleton_append, List.foldl_append, openAfter_append, ← hOpen]
      refine ⟨hOpenRest, fun place => ?_⟩
      rw [pieces_append, List.foldl_append, ← hOpen, ← hGet]
      exact hGetRest place

theorem get_collect_eq (cs : List Char) (place : Section) :
    (collect cs).get place = if pieces none (Text.lineChars cs) place = [] then none
      else some ([' '].intercalate (pieces none (Text.lineChars cs) place)) := by
  have hGet := (foldl_readLine_spec ⟨none, .empty⟩ (Text.lineChars cs)).2 place
  rw [Sections.get_empty, Sections.foldl_joined_none (forall_mem_pieces fun _ hNe => hNe)] at hGet
  exact hGet

/-- A text is read by what it holds for its sections, and by nothing else. -/
theorem parse_congr {text text' : String}
    (h : ∀ place, pieces none (Text.lineChars text.toList) place =
      pieces none (Text.lineChars text'.toList) place) :
    parse text = parse text' := by
  have hCollect : collect text.toList = collect text'.toList :=
    Sections.eq_of_get fun place => by rw [get_collect_eq, get_collect_eq, h place]
  rw [parse, parse, hCollect]

/-! ## The texts of sections -/

/-- Nothing can be trimmed off trimmed pieces that are joined. -/
theorem trimChars_intercalate {ps : List (List Char)}
    (h : ∀ piece ∈ ps, piece ≠ [] ∧ Text.trimChars piece = piece) :
    Text.trimChars ([' '].intercalate ps) = [' '].intercalate ps := by
  -- By induction on the pieces: the first one is in front, and the end is that of the others.
  induction ps with
  | nil => rfl
  | cons piece ps ih =>
      obtain ⟨⟨hNe, hTrim⟩, hRest⟩ := List.forall_mem_cons.mp h
      cases ps with
      | nil => rwa [List.intercalate_singleton]
      | cons next ps =>
          have hSome : [' '].intercalate (next :: ps) ≠ [] := by
            have hNext := (hRest next List.mem_cons_self).1
            cases ps <;> simp [List.intercalate_cons_cons, hNext]
          have hJoin : [' '].intercalate (piece :: next :: ps) =
              piece ++ ([' '] ++ [' '].intercalate (next :: ps)) := by
            rw [List.intercalate_cons_cons, List.append_assoc]
          rw [hJoin]
          refine Text.dropAround_eq_self_iff.mpr ⟨?_, ?_⟩
          · rw [List.head?_append_of_ne_nil _ hNe]
            exact (Text.dropAround_eq_self_iff.mp hTrim).1
          · rw [← List.append_assoc, List.getLast?_append_of_ne_nil _ hSome]
            exact (Text.dropAround_eq_self_iff.mp (ih hRest)).2

theorem trim_sectionText (text : String) (place : Section) :
    Text.trim (sectionText text place) = sectionText text place := by
  have hPieces : ∀ piece ∈ pieces none (Text.lineChars text.toList) place,
      piece ≠ [] ∧ Text.trimChars piece = piece :=
    forall_mem_pieces fun line hNe => ⟨hNe, Text.trimChars_trimChars _⟩
  rw [sectionText, Text.trim, String.toList_ofList, trimChars_intercalate hPieces]

instance (text : String) : Decidable (SpellsPlaceholder text) :=
  inferInstanceAs (Decidable (∃ word ∈ ["none", "n/a", "na", "null", "-"],
    text.toList.map Char.toLower = word.toList))

/-- A text, unless it is blank or a placeholder. -/
def present? (text : String) : Option String :=
  if Text.isAllBlank text = true ∨ SpellsPlaceholder text then none else some text

theorem normalizeOptional_of_trimmed {text : String} (h : Text.trim text = text) :
    normalizeOptional (some text) = present? text := by
  have hAbsent : isPlaceholder text = true ↔
      Text.isAllBlank text = true ∨ SpellsPlaceholder text := by
    rw [isPlaceholder_iff, Text.isAllBlank_iff, h]
  rw [normalizeOptional, h, present?]
  simp only [hAbsent]

/-- What is collected for a section normalises to the section's text, unless that is absent. -/
theorem normalizeOptional_get (text : String) (place : Section) :
    normalizeOptional (((collect text.toList).get place).map String.ofList) =
      normalizeOptional (some (sectionText text place)) := by
  rw [get_collect_eq, sectionText]
  split
  · next hNone =>
      rw [hNone]
      have hEmpty : normalizeOptional none = normalizeOptional (some "") := by decide
      exact hEmpty
  · rfl

theorem not_blank_of_present {text t : String} (h : present? text = some t) :
    Text.isAllBlank t = false := by
  rw [present?, Option.ite_none_left_eq_some, Option.some_inj] at h
  obtain ⟨hPresent, rfl⟩ := h
  exact Bool.eq_false_of_not_eq_true fun hBlank => hPresent (.inl hBlank)

/-- Sections make a narrative exactly if there is a rationale and no text is too long. -/
theorem Sections.toFields_eq_ok_iff_texts {s : Sections} {f : Fields}
    {texts : Section → Option String}
    (hTexts : ∀ place, normalizeOptional ((s.get place).map String.ofList) = texts place)
    (hBlank : ∀ t ∈ texts .rationale, Text.isAllBlank t = false) :
    s.toFields = .ok f ↔
      (∀ place, f.textOf place = texts place) ∧ ∀ place, ∀ t ∈ texts place, t.length ≤ 2000 := by
  have hRationale : normalizeOptional (s.rationale.map String.ofList) = texts .rationale :=
    hTexts .rationale
  have hChange : normalizeOptional (s.change.map String.ofList) = texts .change := hTexts .change
  have hImpact : normalizeOptional (s.impact.map String.ofList) = texts .impact := hTexts .impact
  rw [Sections.toFields, hRationale, hChange, hImpact]
  cases hPresent : texts .rationale with
  | none =>
      refine iff_of_false (fun h => ?_) fun h => ?_
      · cases h
      · cases (h.1 .rationale).trans hPresent
  | some rationale =>
      -- The narrative that is checked has these texts, whether it is valid or not.
      have hAll (place : Section) :
          Fields.textOf ⟨rationale, texts .change, texts .impact⟩ place = texts place := by
        cases place with
        | rationale => exact hPresent.symm
        | change => rfl
        | impact => rfl
      have hValid : Fields.validate ⟨rationale, texts .change, texts .impact⟩ = .ok () ↔
          ∀ place, ∀ t ∈ texts place, t.length ≤ 2000 := by
        rw [Fields.validate_eq_ok_iff, hBlank rationale hPresent]
        simp only [hAll, true_and]
      have hEq : (∀ place, f.textOf place = texts place) ↔
          ⟨rationale, texts .change, texts .impact⟩ = f := by
        constructor
        · exact fun h => Fields.eq_of_textOf fun place => (hAll place).trans (h place).symm
        · rintro rfl
          exact hAll
      rw [hEq, ← hValid]
      cases hChecked : Fields.validate ⟨rationale, texts .change, texts .impact⟩ with
      | error cause => simp [hChecked]
      | ok => simp [hChecked]

/-- A text is read exactly if its rationale is there and no text that is there is too long. -/
theorem parse_eq_ok_iff {text : String} {f : Fields} :
    parse text = .ok f ↔
      (∀ place, f.textOf place = present? (sectionText text place)) ∧
      ∀ place, ∀ t ∈ present? (sectionText text place), t.length ≤ 2000 := by
  have hTexts (place : Section) :
      normalizeOptional (((collect text.toList).get place).map String.ofList) =
        present? (sectionText text place) :=
    (normalizeOptional_get text place).trans
      (normalizeOptional_of_trimmed (trim_sectionText text place))
  exact Sections.toFields_eq_ok_iff_texts hTexts fun t => not_blank_of_present

end SteadyTask.Narrative
