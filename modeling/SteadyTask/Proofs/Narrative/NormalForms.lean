import SteadyTask.Proofs.Narrative.Collected

/-!
# Narratives in normal form

What a narrative looks like that is valid and from which making it normal takes nothing away: each
of its texts is trimmed, not empty and not too long, and no optional text spells a placeholder in
whatever letter case.  Making a narrative normal leaves nothing to do for a second time, and does
not make a valid one invalid.  Whatever is read from labelled lines is in normal form.

A rationale in normal form can still spell a placeholder.
-/

namespace SteadyTask.Narrative

variable {f : Fields} {text : String} {optional : Option String}

/-! ## Texts -/

/-- A text as it stands in a normal form. -/
structure Proper (text : String) : Prop where
  trimmed : Text.trim text = text
  ne_empty : text ≠ ""
  length_le : text.length ≤ 2000

/-- A text is one of the words for an absent text, in whatever letter case. -/
def SpellsPlaceholder (text : String) : Prop :=
  ∃ word ∈ ["none", "n/a", "na", "null", "-"], text.toList.map Char.toLower = word.toList

/-- An optional text of a normal form is absent, or proper and no placeholder. -/
def ProperOrAbsent (optional : Option String) : Prop :=
  ∀ text ∈ optional, Proper text ∧ ¬ SpellsPlaceholder text

theorem isPlaceholder_iff :
    isPlaceholder text = true ↔ text = "" ∨ SpellsPlaceholder text := by
  have hWords : ∀ word ∈ placeholders, ∀ d ∈ word.toList, d.toNat < 128 ∧ d ≠ 'k' := by
    have hAll : (placeholders.all fun word => word.toList.all fun d =>
        d.toNat < 128 && d ≠ 'k') = true := by
      decide
    simpa using hAll
  have hSpelled (word : String) (hWord : word ∈ placeholders) :
      Text.lower text = word ↔ text.toList.map Char.toLower = word.toList := by
    rw [← Text.map_lowerChar_eq_iff (hWords word hWord), Text.lower, ← String.toList_inj,
      String.toList_ofList]
  rw [isPlaceholder, List.contains_iff_mem]
  constructor
  · intro h
    have hLower := (hSpelled _ h).mp rfl
    rcases List.mem_cons.mp h with hEmpty | hWord
    · rw [hEmpty] at hLower
      exact .inl (String.toList_eq_nil_iff.mp (List.map_eq_nil_iff.mp hLower))
    · exact .inr ⟨_, hWord, hLower⟩
  · rintro (rfl | ⟨word, hWord, hLower⟩)
    · decide
    · have hMem : word ∈ placeholders := List.mem_cons_of_mem "" hWord
      rwa [(hSpelled word hMem).mpr hLower]

/-! ## Making a text normal -/

/-- A text that is kept is trimmed, and is no placeholder. -/
theorem normalizeOptional_eq_some_iff :
    normalizeOptional optional = some text ↔
      ∃ given ∈ optional, text = Text.trim given ∧ isPlaceholder text = false := by
  cases optional with
  | none => simp [normalizeOptional]
  | some given =>
      rw [normalizeOptional]
      cases hWord : isPlaceholder (Text.trim given) with
      | true =>
          simp only [if_true, Option.mem_some_iff, exists_eq_left', reduceCtorEq, false_iff,
            not_and]
          rintro rfl
          simp [hWord]
      | false =>
          simp only [Bool.false_eq_true, if_false, Option.some_inj, Option.mem_some_iff,
            exists_eq_left']
          constructor
          · rintro rfl
            exact ⟨rfl, hWord⟩
          · exact fun h => h.1.symm

theorem normalizeOptional_eq_self_iff :
    normalizeOptional optional = optional ↔
      ∀ text ∈ optional, Text.trim text = text ∧ isPlaceholder text = false := by
  cases optional with
  | none => simp [normalizeOptional]
  | some text =>
      simp only [normalizeOptional_eq_some_iff, Option.mem_some_iff, exists_eq_left', forall_eq']
      exact and_congr_left fun _ => eq_comm

@[simp]
theorem normalizeOptional_normalizeOptional (optional : Option String) :
    normalizeOptional (normalizeOptional optional) = normalizeOptional optional := by
  rw [normalizeOptional_eq_self_iff]
  intro text hText
  obtain ⟨given, -, rfl, hWord⟩ := normalizeOptional_eq_some_iff.mp hText
  exact ⟨Text.trim_trim given, hWord⟩

namespace Fields

/-! ## Making a narrative normal -/

/-- There is nothing left to do for a second time. -/
@[simp]
theorem normalize_normalize (f : Fields) : f.normalize.normalize = f.normalize := by
  simp [normalize]

theorem normalize_eq_self_iff :
    f.normalize = f ↔ Text.trim f.rationale = f.rationale ∧
      normalizeOptional f.proposedChange = f.proposedChange ∧
      normalizeOptional f.impact = f.impact := by
  cases f
  simp [normalize]

/-! ## Validity -/

/-- A narrative is valid if its rationale is not blank and no text is too long. -/
theorem validate_eq_ok_iff :
    f.validate = .ok () ↔ Text.isAllBlank f.rationale = false ∧
      ∀ place, ∀ text ∈ f.textOf place, text.length ≤ 2000 := by
  have hLong (optional : Option String) :
      optional.any isTooLong = false ↔ ∀ text ∈ optional, text.length ≤ 2000 := by
    cases optional <;> simp [isTooLong, maxChars]
  have hPlaces : (∀ place, ∀ text ∈ f.textOf place, text.length ≤ 2000) ↔
      isTooLong f.rationale = false ∧ f.proposedChange.any isTooLong = false ∧
        f.impact.any isTooLong = false := by
    rw [hLong, hLong]
    constructor
    · exact fun h => ⟨(hLong (some f.rationale)).mpr (h .rationale), h .change, h .impact⟩
    · rintro ⟨hRationale, hChange, hImpact⟩ place
      cases place with
      | rationale => exact (hLong (some f.rationale)).mp hRationale
      | change => exact hChange
      | impact => exact hImpact
  rw [hPlaces, validate]
  cases Text.isAllBlank f.rationale <;> cases isTooLong f.rationale <;>
    cases f.proposedChange.any isTooLong <;> cases f.impact.any isTooLong <;> simp

/-- Each text of a narrative that was made normal is a trimmed one. -/
theorem exists_of_textOf_normalize {place : Section} (h : f.normalize.textOf place = some text) :
    ∃ given, f.textOf place = some given ∧ text = Text.trim given := by
  cases place with
  | rationale => exact ⟨f.rationale, rfl, (Option.some.inj h).symm⟩
  | change =>
      obtain ⟨given, hGiven, rfl, -⟩ := normalizeOptional_eq_some_iff.mp h
      exact ⟨given, hGiven, rfl⟩
  | impact =>
      obtain ⟨given, hGiven, rfl, -⟩ := normalizeOptional_eq_some_iff.mp h
      exact ⟨given, hGiven, rfl⟩

/-- A valid narrative is still valid when it is made normal. -/
theorem validate_normalize (h : f.validate = .ok ()) : f.normalize.validate = .ok () := by
  obtain ⟨hRationale, hLengths⟩ := validate_eq_ok_iff.mp h
  refine validate_eq_ok_iff.mpr ⟨?_, ?_⟩
  · rw [← Bool.not_eq_true, Text.isAllBlank_iff] at hRationale
    rw [← Bool.not_eq_true]
    exact fun hBlank => hRationale (Text.isAllBlank_trim_iff.mp hBlank)
  · intro place text hText
    obtain ⟨given, hGiven, rfl⟩ := exists_of_textOf_normalize hText
    exact (Text.length_trim_le given).trans (hLengths place given hGiven)

/-! ## Normal forms -/

/-- A narrative in normal form. -/
structure NormalForm (f : Fields) : Prop where
  rationale : Proper f.rationale
  proposedChange : ProperOrAbsent f.proposedChange
  impact : ProperOrAbsent f.impact

/-- An optional text is in normal form if it stays as it is and is not too long. -/
theorem properOrAbsent_iff :
    ProperOrAbsent optional ↔
      normalizeOptional optional = optional ∧ ∀ text ∈ optional, text.length ≤ 2000 := by
  rw [normalizeOptional_eq_self_iff, ProperOrAbsent, ← forall₂_and]
  refine forall₂_congr fun text _ => ?_
  rw [← Bool.not_eq_true, isPlaceholder_iff, not_or]
  constructor
  · rintro ⟨⟨hTrim, hNe, hLength⟩, hWord⟩
    exact ⟨⟨hTrim, hNe, hWord⟩, hLength⟩
  · rintro ⟨⟨hTrim, hNe, hWord⟩, hLength⟩
    exact ⟨⟨hTrim, hNe, hLength⟩, hWord⟩

/-- Valid and normal is the same as in normal form. -/
theorem normalForm_iff : f.NormalForm ↔ f.validate = .ok () ∧ f.normalize = f := by
  rw [validate_eq_ok_iff, normalize_eq_self_iff]
  constructor
  · rintro ⟨⟨hTrim, hNe, hLength⟩, hChange, hImpact⟩
    obtain ⟨hChange, hChangeLength⟩ := properOrAbsent_iff.mp hChange
    obtain ⟨hImpact, hImpactLength⟩ := properOrAbsent_iff.mp hImpact
    refine ⟨⟨?_, ?_⟩, hTrim, hChange, hImpact⟩
    · rwa [← Bool.not_eq_true, Text.isAllBlank_iff, hTrim]
    · intro place
      cases place with
      | rationale =>
          rintro text ⟨⟩
          exact hLength
      | change => exact hChangeLength
      | impact => exact hImpactLength
  · rintro ⟨⟨hBlank, hLengths⟩, hTrim, hChange, hImpact⟩
    rw [← Bool.not_eq_true, Text.isAllBlank_iff, hTrim] at hBlank
    exact ⟨⟨hTrim, hBlank, hLengths .rationale _ rfl⟩,
      properOrAbsent_iff.mpr ⟨hChange, hLengths .change⟩,
      properOrAbsent_iff.mpr ⟨hImpact, hLengths .impact⟩⟩

end Fields

/-! ## What is read -/

/-- Whatever the sections hold, the narrative that they make is in normal form. -/
theorem Sections.normalForm_of_toFields {s : Sections} (h : s.toFields = .ok f) : f.NormalForm := by
  -- A section that holds nothing normalises as an empty text does.
  have hSame (place : Section) : normalizeOptional ((s.get place).map String.ofList) =
      normalizeOptional (Fields.textOf ⟨(s.rationale.map String.ofList).getD "",
        s.change.map String.ofList, s.impact.map String.ofList⟩ place) := by
    cases place with
    | rationale =>
        cases hRationale : s.rationale with
        | none =>
            rw [Sections.get, hRationale]
            have hEmpty : normalizeOptional none = normalizeOptional (some "") := by decide
            exact hEmpty
        | some cs =>
            rw [Sections.get, hRationale]
            rfl
    | change => rfl
    | impact => rfl
  obtain ⟨-, hValid, rfl⟩ := (Sections.toFields_eq_ok_iff hSame).mp h
  exact Fields.normalForm_iff.mpr ⟨hValid, Fields.normalize_normalize _⟩

theorem normalForm_of_parse (h : parse text = .ok f) : f.NormalForm :=
  Sections.normalForm_of_toFields h

end SteadyTask.Narrative
