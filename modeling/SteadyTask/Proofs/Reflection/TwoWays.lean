import SteadyTask.Proofs.Json.Mentions
import SteadyTask.Proofs.Json.Records
import SteadyTask.Proofs.Narrative.Collected
import SteadyTask.Proofs.Reflection.Tiers

/-!
# One narrative in two ways

A narrative can be given as JSON or as labelled lines.  Both ways come to the same for the same
texts, valid or not, with one exception: a rationale that only stands for an absent one is kept when
it comes as JSON, and is no rationale when it comes in a line.

The texts are those that both ways can carry: without line feeds, and without the characters that
mark bold text or a fence.
-/

namespace SteadyTask.Narrative

/-- The name of a section's field. -/
def Section.key : Section → String
  | .rationale => "rationale"
  | .change => "proposed_change"
  | .impact => "impact"

/-- The label in front of a section's text. -/
def Section.title : Section → String
  | .rationale => "RATIONALE"
  | .change => "PROPOSED CHANGE"
  | .impact => "IMPACT"

namespace Fields

/-- The field of a section, `null` if it has no text. -/
def jsonField (f : Fields) (place : Section) : String × Json.Value :=
  (place.key, .ofText? (f.textOf place))

/-- A narrative as an object, with its fields in a given order. -/
def object (f : Fields) (places : List Section) : Json.Value :=
  .obj (places.map f.jsonField)

/-- The line of a section. -/
def titledLine (f : Fields) (place : Section) : List Char :=
  place.title.toList ++ (':' :: ' ' :: ((f.textOf place).getD "").toList)

/-- A narrative as labelled lines in a given order, without those of absent texts. -/
def titledLines (f : Fields) (places : List Section) : String :=
  String.ofList (['\n'].intercalate
    ((places.filter fun place => (f.textOf place).isSome).map f.titledLine))

/-- The texts of a narrative hold no line feed, and nothing that could be a mark of bold text or a
fence. -/
def Unmarked (f : Fields) : Prop :=
  ∀ place, ∀ text ∈ f.textOf place, ∀ c ∈ text.toList, c ∉ ['\n', '*', '_', Json.backtick]

end Fields

variable {f g acc : Fields} {place : Section} {places : List Section} {cs read : List Char}

/-! ## As JSON -/

theorem Section.backtick_notMem_key (place : Section) : Json.backtick ∉ place.key.toList := by
  cases place <;> decide

theorem Section.key_inj {other : Section} (h : place.key = other.key) : place = other := by
  cases place <;> cases other <;> first | rfl | (revert h; decide)

namespace Fields

/-- Takes over the text of one section from another narrative. -/
def copy (f acc : Fields) : Section → Fields
  | .rationale => { acc with rationale := f.rationale }
  | .change => { acc with proposedChange := f.proposedChange }
  | .impact => { acc with impact := f.impact }

theorem textOf_copy (f acc : Fields) (place other : Section) :
    (f.copy acc place).textOf other = if other = place then f.textOf place else acc.textOf other := by
  cases place <;> cases other <;> rfl

theorem textOf_foldl_copy (f acc : Fields) (places : List Section) (other : Section) :
    (places.foldl f.copy acc).textOf other =
      if other ∈ places then f.textOf other else acc.textOf other := by
  induction places generalizing acc with
  | nil => simp
  | cons place places ih =>
      rw [List.foldl_cons, ih, textOf_copy]
      by_cases hEq : other = place
      · subst hEq
        simp
      · simp only [List.mem_cons, hEq, false_or, if_false]

/-- What starts without the optional texts ends with all texts that are taken over. -/
theorem Covers.foldl_copy (h : f.Covers places) : places.foldl f.copy shape.start = f := by
  refine eq_of_textOf fun place => ?_
  rw [textOf_foldl_copy]
  by_cases hPlace : place ∈ places
  · rw [if_pos hPlace]
  · rw [if_neg hPlace, h.textOf_eq_none hPlace]
    cases place with
    | rationale => exact absurd (h.complete .rationale rfl) hPlace
    | change => rfl
    | impact => rfl

theorem namedField_key {depth : Nat} {seen : List String} (hNew : place.key ∉ seen)
    (rest : List Char) :
    Json.Reader.namedField shape depth place.key (seen, acc)
        (':' :: (Json.compactChars (.ofText? (f.textOf place)) ++ rest)) =
      .ok ((place.key :: seen, f.copy acc place), rest) := by
  cases place with
  | rationale =>
      exact Json.Reader.namedField_of_read rfl hNew
        (Json.Reader.bind_of_ok (Json.Reader.str_quoteChars f.rationale rest))
  | change =>
      exact Json.Reader.namedField_of_read rfl hNew
        (Json.Reader.bind_of_ok (Json.Reader.optional_str_ofText? f.proposedChange rest))
  | impact =>
      exact Json.Reader.namedField_of_read rfl hNew
        (Json.Reader.bind_of_ok (Json.Reader.optional_str_ofText? f.impact rest))

/-- The fields of a narrative are read in whatever order they come. -/
theorem readsFields {depth : Nat} {seen : List String} (hNodup : places.Nodup)
    (hNew : ∀ place ∈ places, place.key ∉ seen) :
    Json.Reader.ReadsFields (Json.Reader.namedField shape depth) (seen, acc)
      (places.map f.jsonField)
      ((places.map Section.key).reverse ++ seen, places.foldl f.copy acc) := by
  induction places generalizing seen acc with
  | nil => exact .nil
  | cons place places ih =>
      obtain ⟨hFirst, hRest⟩ := List.nodup_cons.mp hNodup
      obtain ⟨hKey, hKeys⟩ := List.forall_mem_cons.mp hNew
      have hStill : ∀ other ∈ places, other.key ∉ place.key :: seen := by
        intro other hOther hMem
        rcases List.mem_cons.mp hMem with hEq | hMem
        · exact hFirst (Section.key_inj hEq ▸ hOther)
        · exact hKeys other hOther hMem
      rw [List.map_cons, List.map_cons, List.reverse_cons, List.append_assoc, List.singleton_append,
        List.foldl_cons]
      exact .cons (fun rest _ => namedField_key hKey rest) (ih hRest hStill)

theorem parseRecord_object (h : f.Covers places) :
    Json.parseRecord shape (Json.compact (f.object places)) = .ok f := by
  have hRead : Json.Reader.ReadsFields (Json.Reader.namedField shape (Json.maxDepth - 1))
      ([], shape.start) (places.map f.jsonField)
      ((places.map Section.key).reverse ++ [], places.foldl f.copy shape.start) :=
    readsFields h.nodup fun place _ => List.not_mem_nil
  rw [h.foldl_copy, List.append_nil] at hRead
  refine Json.parseRecord_compact hRead ?_
  have hMem : "rationale" ∈ (places.map Section.key).reverse :=
    List.mem_reverse.mpr (List.mem_map.mpr ⟨.rationale, h.complete .rationale rfl, rfl⟩)
  rw [shape, List.find?_cons_of_neg (by simp only [hMem]; decide)]
  rfl

/-- No fence stands in an object whose texts have none. -/
theorem Unmarked.not_openFence (h : f.Unmarked) (places : List Section) :
    ¬ Json.openFence <:+: Json.compactChars (f.object places) := by
  have hStorable (text : Option String) : Json.Storable 0 (.ofText? text) := by
    cases text with
    | none => exact .null
    | some t => exact .str t
  rw [object, Json.fenceLike_openFence.infix_obj_iff, Json.Value.mentions_obj]
  · rintro ⟨field, hField, hFence⟩
    obtain ⟨place, -, rfl⟩ := List.mem_map.mp hField
    rcases hFence with hKey | hText
    · exact Json.fenceLike_openFence.not_infix place.backtick_notMem_key hKey
    · rw [jsonField] at hText
      cases hPlace : f.textOf place with
      | none =>
          rw [hPlace] at hText
          cases hText
      | some t =>
          rw [hPlace] at hText
          have hTick : Json.backtick ∉ t.toList := fun hMem => h place t hPlace _ hMem (by decide)
          exact Json.fenceLike_openFence.not_infix hTick (Json.Value.mentions_str.mp hText)
  · intro field hField
    obtain ⟨place, -, rfl⟩ := List.mem_map.mp hField
    exact Json.fenceLike_openFence.infix_compactChars_iff (hStorable (f.textOf place))

end Fields

/-! ## As labelled lines -/

/-- Characters that cannot be taken for bold text. -/
theorem dropBold_of_notMem (hStar : '*' ∉ cs) (hLine : '_' ∉ cs) : dropBold cs = cs := by
  cases cs with
  | nil => rfl
  | cons c cs =>
      refine dropBold_cons ⟨?_, ?_⟩ cs
      · rintro rfl
        exact hStar List.mem_cons_self
      · rintro rfl
        exact hLine List.mem_cons_self

theorem dropAround_of_notMem (h : '*' ∉ cs) : Text.dropAround (· = '*') cs = cs := by
  have hNot (c : Char) (hc : c ∈ cs) : decide (c = '*') = false :=
    decide_eq_false fun hEq => h (hEq ▸ hc)
  exact Text.dropAround_eq_self_iff.mpr
    ⟨fun c hc => hNot c (List.mem_of_head? hc), fun c hc => hNot c (List.mem_of_getLast? hc)⟩

/-- Without marks of bold text, only the blanks around a content are taken off. -/
theorem cleanContent_contentOf (hStar : '*' ∉ cs) (hLine : '_' ∉ cs) :
    cleanContent (contentOf cs) = Text.trimChars cs := by
  have hSub : dropBlanks cs <:+ cs := List.dropWhile_suffix _
  have hContent : contentOf cs = dropBlanks cs := by
    rw [contentOf, dropBold_of_notMem (fun h => hStar (hSub.mem h)) (fun h => hLine (hSub.mem h))]
    exact List.dropWhile_idempotent _ _
  have hTrim : Text.trimChars (dropBlanks cs) = Text.trimChars cs := by
    obtain ⟨bs, hbs, hcs⟩ := exists_blanks cs
    conv_rhs => rw [hcs]
    exact (Text.dropAround_append_left hbs).symm
  have hInside : '*' ∉ Text.trimChars cs := fun h =>
    hStar ((Text.dropAround_infix _ cs).mem h)
  rw [cleanContent, hContent, hTrim, dropAround_of_notMem hInside, Text.trimChars_trimChars]

/-- The word that a title is. -/
def Section.word : Section → LabelWord
  | .rationale => .rationale
  | .change => .proposedChange
  | .impact => .impact

/-- Whatever follows a title is filed in its section. -/
theorem files_titled (place : Section) (hStar : '*' ∉ cs) (hLine : '_' ∉ cs) :
    Files (place.title.toList ++ (':' :: cs)) place (Text.trimChars cs) := by
  have hForms : place.title.toList ∈ place.word.forms :=
    mem_forms_iff.mpr (by cases place <;> decide)
  have hMatch : Matches (place.title.toList ++ (':' :: cs)) place.word place.title.toList cs :=
    ⟨hForms, [], nil_mem_lead, [':'], colon_mem, rfl⟩
  have hSection : sectionOf place.title.toList = place := by cases place <;> decide
  have hFiles := hMatch.files
  rw [hSection, cleanContent_contentOf hStar hLine] at hFiles
  exact hFiles

/-- A carriage return at the end of a text makes no difference. -/
theorem files_titled_of_sameLine {text : List Char} (hStar : '*' ∉ text) (hLine : '_' ∉ text)
    (h : Text.SameLine (place.title.toList ++ (':' :: ' ' :: text)) read) :
    Files read place (Text.trimChars text) := by
  have hNot {c : Char} {cs : List Char} (hc : c ∉ cs) (hBlank : c ≠ ' ') : c ∉ ' ' :: cs := by
    simp [hc, hBlank]
  have hFront (cs : List Char) : Text.trimChars ([' '] ++ cs) = Text.trimChars cs :=
    Text.dropAround_append_left (List.forall_mem_singleton.mpr (by decide))
  -- The carriage return that was cut off is the last character of the text, and a blank; without
  -- a text there is only the space in front of it.
  rcases h with rfl | hReturn
  · rw [← hFront]
    exact files_titled place (hNot hStar (by decide)) (hNot hLine (by decide))
  · rcases List.eq_nil_or_concat' text with rfl | ⟨text, last, rfl⟩
    · have hCut : place.title.toList ++ [':', ' '] = (place.title.toList ++ [':']) ++ [' '] := by
        simp
      rw [hCut] at hReturn
      cases (List.append_inj' hReturn rfl).2
    · have hCut : place.title.toList ++ (':' :: ' ' :: (text ++ [last])) =
          (place.title.toList ++ (':' :: ' ' :: text)) ++ [last] := by
        simp
      rw [hCut] at hReturn
      obtain ⟨rfl, hLast⟩ := List.append_inj' hReturn rfl
      cases hLast
      have hTrim : Text.trimChars (text ++ ['\r']) = Text.trimChars text :=
        Text.dropAround_append (List.forall_mem_singleton.mpr (by decide))
      rw [hTrim, ← hFront]
      refine files_titled place (hNot (fun hMem => hStar ?_) (by decide))
        (hNot (fun hMem => hLine ?_) (by decide))
      · exact List.mem_append_left _ hMem
      · exact List.mem_append_left _ hMem

/-- A text that is collected without its blanks normalises as it does with them. -/
theorem normalizeOptional_joined (text : String) :
    normalizeOptional ((Sections.joined none (Text.trimChars text.toList)).map String.ofList) =
      normalizeOptional (some text) := by
  rw [Sections.joined_none]
  by_cases hNil : Text.trimChars text.toList = []
  · have hTrim : Text.trim text = "" := congrArg String.ofList hNil
    have hAbsent : normalizeOptional (some text) = none := by
      rw [normalizeOptional, hTrim]
      rfl
    rw [if_pos hNil, hAbsent]
    rfl
  · rw [if_neg hNil, Option.map_some, ← Text.trim, normalizeOptional, normalizeOptional,
      Text.trim_trim]

/-- The sections that are collected from the lines normalise as the texts do. -/
theorem Fields.Unmarked.normalizeOptional_get (h : f.Unmarked) (hCovers : f.Covers places)
    (place : Section) :
    normalizeOptional (((collect (f.titledLines places).toList).get place).map String.ofList) =
      normalizeOptional (f.textOf place) := by
  -- Only the sections that have a text have a line.
  set given := places.filter fun place => (f.textOf place).isSome with hGiven
  have hMem (place : Section) : place ∈ given ↔ (f.textOf place).isSome := by
    rw [hGiven, List.mem_filter]
    exact and_iff_right_of_imp (hCovers.complete place)
  have hMarks (place : Section) : ∀ c ∈ ((f.textOf place).getD "").toList,
      c ∉ ['\n', '*', '_', Json.backtick] := by
    cases hText : f.textOf place with
    | none => exact nofun
    | some t => exact h place t hText
  -- None of these lines holds a line feed, so they are read one by one.
  have hLines : ∀ line ∈ given.map f.titledLine, '\n' ∉ line ∧ line ≠ [] := by
    intro line hLine
    obtain ⟨place, -, rfl⟩ := List.mem_map.mp hLine
    refine ⟨fun hFeed => ?_, by simp [titledLine]⟩
    rw [titledLine, List.mem_append, List.mem_cons, List.mem_cons] at hFeed
    rcases hFeed with hTitle | hColon | hSpace | hText
    · revert hTitle
      cases place <;> decide
    · cases hColon
    · cases hSpace
    · exact hMarks place _ hText (by decide)
  have hSome : given.map f.titledLine ≠ [] :=
    List.ne_nil_of_mem (List.mem_map_of_mem ((hMem .rationale).mpr rfl))
  have hSame := Text.lineChars_intercalate hLines hSome (.inl rfl)
  rw [List.forall₂_map_left_iff, List.append_nil] at hSame
  have hFiles : List.Forall₂
      (fun place line => Files line place (Text.trimChars ((f.textOf place).getD "").toList)) given
      (Text.lineChars (f.titledLines places).toList) := by
    rw [titledLines, String.toList_ofList]
    refine hSame.imp fun place line hLine => files_titled_of_sameLine ?_ ?_ hLine
    · exact fun hStar => hMarks place _ hStar (by decide)
    · exact fun hLow => hMarks place _ hLow (by decide)
  rw [get_collect hFiles (hCovers.nodup.filter _) place]
  cases hText : f.textOf place with
  | none =>
      rw [if_neg (by rw [hMem, hText]; exact Bool.false_ne_true)]
      rfl
  | some t =>
      rw [if_pos ((hMem place).mpr (by rw [hText]; rfl)), Option.getD_some]
      exact normalizeOptional_joined t

end SteadyTask.Narrative

namespace SteadyTask.Reflection

open Narrative

variable {f narrative : Fields} {places places' : List Section}

/-- As JSON a narrative is accepted if it is valid when it is made normal. -/
theorem schemaNarrative_object_iff (h : f.Unmarked) (hCovers : f.Covers places) :
    schemaNarrative (Json.compact (f.object places)) = .ok narrative ↔
      f.normalize.validate = .ok () ∧ narrative = f.normalize := by
  have hJson : Json.embedded? (Json.compact (f.object places)) =
      some (Json.compact (f.object places)) := by
    rw [Json.embedded?, Json.compact, String.toList_ofList]
    exact congrArg _ (Json.embeddedChars?_compactChars_obj (h.not_openFence places))
  rw [schemaNarrative_eq_ok_iff, HoldsBySchema, hJson]
  constructor
  · rintro ⟨json, fields, hSome, hRecord, hValid, rfl⟩
    cases hSome
    rw [Fields.parseRecord_object hCovers] at hRecord
    cases hRecord
    exact ⟨hValid, rfl⟩
  · rintro ⟨hValid, rfl⟩
    exact ⟨_, f, rfl, Fields.parseRecord_object hCovers, hValid, rfl⟩

/-- In lines it is accepted if its rationale, besides, does not stand for an absent one. -/
theorem labelNarrative_titledLines_iff (h : f.Unmarked) (hCovers : f.Covers places) :
    labelNarrative (f.titledLines places) = .ok narrative ↔
      isPlaceholder (Text.trim f.rationale) = false ∧ f.normalize.validate = .ok () ∧
        narrative = f.normalize := by
  rw [labelNarrative_eq_ok_iff, parse, Sections.toFields_eq_ok_iff (h.normalizeOptional_get hCovers)]

/-- Both ways come to the same, success or failure, exactly if the rationale does not stand for an
absent one in a narrative that is valid otherwise.  Such a narrative is accepted as JSON, and no
narrative with such a rationale is accepted in lines. -/
theorem both_ways_agree_iff (h : f.Unmarked) (hCovers : f.Covers places)
    (hCovers' : f.Covers places') :
    ((∀ narrative, schemaNarrative (Json.compact (f.object places)) = .ok narrative ↔
        labelNarrative (f.titledLines places') = .ok narrative) ↔
      ¬ (isPlaceholder (Text.trim f.rationale) = true ∧ f.normalize.validate = .ok ())) ∧
    (isPlaceholder (Text.trim f.rationale) = true →
      (f.normalize.validate = .ok () →
        schemaNarrative (Json.compact (f.object places)) = .ok f.normalize) ∧
      ∀ narrative, labelNarrative (f.titledLines places') ≠ .ok narrative) := by
  have hSchema (narrative : Fields) :
      schemaNarrative (Json.compact (f.object places)) = .ok narrative ↔
        f.normalize.validate = .ok () ∧ narrative = f.normalize :=
    schemaNarrative_object_iff h hCovers
  have hLabels (narrative : Fields) :
      labelNarrative (f.titledLines places') = .ok narrative ↔
        isPlaceholder (Text.trim f.rationale) = false ∧ f.normalize.validate = .ok () ∧
          narrative = f.normalize :=
    labelNarrative_titledLines_iff h hCovers'
  constructor
  · constructor
    · rintro hAgree ⟨hAbsent, hValid⟩
      have hRead := (hAgree f.normalize).mp ((hSchema _).mpr ⟨hValid, rfl⟩)
      have hKept := ((hLabels _).mp hRead).1
      rw [hAbsent] at hKept
      cases hKept
    · intro hNot narrative
      rw [hSchema, hLabels]
      refine ⟨fun hBoth => ⟨?_, hBoth⟩, And.right⟩
      exact Bool.eq_false_of_not_eq_true fun hAbsent => hNot ⟨hAbsent, hBoth.1⟩
  · intro hAbsent
    refine ⟨fun hValid => (hSchema _).mpr ⟨hValid, rfl⟩, fun narrative hRead => ?_⟩
    have hKept := ((hLabels narrative).mp hRead).1
    rw [hAbsent] at hKept
    cases hKept

/-- A proposed change that stands for an absent one makes no difference between the ways. -/
theorem absent_change_in_both_ways :
    (⟨"it was late", some "None", none⟩ : Fields).Unmarked ∧
      (⟨"it was late", some "None", none⟩ : Fields).Covers [.change, .rationale] ∧
      (⟨"it was late", some "None", none⟩ : Fields).Covers [.rationale, .change, .impact] ∧
      ∀ narrative,
        schemaNarrative
            "\x7b\"proposed_change\":\"None\",\"rationale\":\"it was late\"\x7d" = .ok narrative ↔
          labelNarrative "RATIONALE: it was late\nPROPOSED CHANGE: None" = .ok narrative := by
  have hUnmarked : (⟨"it was late", some "None", none⟩ : Fields).Unmarked := by
    intro place text hText
    cases place with
    | rationale =>
        cases hText
        exact Json.forall_mem_of_all (by decide)
    | change =>
        cases hText
        exact Json.forall_mem_of_all (by decide)
    | impact => cases hText
  have hCovers : (⟨"it was late", some "None", none⟩ : Fields).Covers [.change, .rationale] :=
    ⟨by decide, fun place => by cases place <;> decide⟩
  have hCovers' : (⟨"it was late", some "None", none⟩ : Fields).Covers
      [.rationale, .change, .impact] :=
    ⟨by decide, fun place => by cases place <;> decide⟩
  exact ⟨hUnmarked, hCovers, hCovers',
    (both_ways_agree_iff hUnmarked hCovers hCovers').1.mpr (by decide)⟩

/-- A rationale that stands for an absent one is accepted as JSON, and not in a line. -/
theorem absent_rationale_accepted_by_schema :
    schemaNarrative "\x7b\"rationale\":\"none\"\x7d" = .ok ⟨"none", none, none⟩ ∧
      isPlaceholder "none" = true ∧
      ∀ narrative, labelNarrative "RATIONALE: none" ≠ .ok narrative := by
  have hUnmarked : (⟨"none", none, none⟩ : Fields).Unmarked := by
    intro place text hText
    cases place with
    | rationale =>
        cases hText
        exact Json.forall_mem_of_all (by decide)
    | change => cases hText
    | impact => cases hText
  have hCovers : (⟨"none", none, none⟩ : Fields).Covers [.rationale] :=
    ⟨by decide, fun place => by cases place <;> decide⟩
  refine ⟨(schemaNarrative_object_iff hUnmarked hCovers).mpr ⟨by decide, by decide⟩, by decide,
    fun narrative hRead => ?_⟩
  have hKept := ((labelNarrative_titledLines_iff hUnmarked hCovers).mp hRead).1
  revert hKept
  decide

end SteadyTask.Reflection
