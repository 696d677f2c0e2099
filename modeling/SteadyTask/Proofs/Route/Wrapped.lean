import SteadyTask.Proofs.Json.Wrapping
import SteadyTask.Proofs.Route.Classification

/-!
# Routes in a fence

The routing model may put its JSON into a fence and write around it.  It then comes to the same
route, or to the same error, as if it had answered with the JSON alone: the blanks around an answer
are outside of its fence, so trimming the answer does not touch what is in the fence.
-/

namespace SteadyTask.Route

open Json (Fenceable fence openFence)

-- JSON, what is written before it, and blanks on both of its sides
variable {j p w w' : String}

theorem embedded?_of_chars {text json : String}
    (h : Json.embeddedChars? text.toList = some json.toList) :
    Json.embedded? text = some json := by
  rw [Json.embedded?, h, Option.map_some, String.ofList_toList]

/-! ## The JSON in prose, and alone -/

theorem embedded?_prose (hj : Fenceable j.toList) {s : String} (hp : '\x7b' ∉ p.toList)
    (hs : '\x7d' ∉ s.toList) (hNone : ¬ openFence <:+: (p ++ j ++ s).toList) :
    Json.embedded? (p ++ j ++ s) = some j := by
  apply embedded?_of_chars
  rw [String.toList_append, String.toList_append] at hNone ⊢
  exact hj.embeddedChars?_of_prose hp hs hNone

theorem embedded?_bare (hj : Fenceable j.toList) : Json.embedded? j = some j := by
  have hNothing : "" ++ j ++ "" = j := by rw [String.empty_append, String.append_empty]
  have hNone : ¬ openFence <:+: ("" ++ j ++ "").toList := by
    rw [hNothing]
    exact hj.not_openFence
  have h := embedded?_prose hj (by decide) (by decide) hNone
  rwa [hNothing] at h

theorem decode_bare (hj : Fenceable j.toList) : decode j = ofJson j := by
  have hTrim : Text.trim j = j := by
    rw [Text.trim, hj.trimChars_eq, String.ofList_toList]
  apply decode_of_looksLikeJson
  · rw [hTrim]
    exact .inr hj.opens
  · rw [hTrim]
    exact embedded?_bare hj

/-! ## The JSON in a fence -/

section Fenced

variable (hj : Fenceable j.toList) (hp : ¬ openFence <:+: p.toList)
  (hw : Text.isAllBlank w = true) (hw' : Text.isAllBlank w' = true)

include hj hp hw hw'

theorem embedded?_fenced (s : String) :
    Json.embedded? (p ++ "```json" ++ w ++ j ++ w' ++ "```" ++ s) = some j := by
  have hParts : (p ++ "```json" ++ w ++ j ++ w' ++ "```" ++ s).toList = p.toList ++
      (openFence ++ (w.toList ++ j.toList ++ w'.toList ++ (fence ++ s.toList))) := by
    simp only [String.toList_append, List.append_assoc]
    rfl
  apply embedded?_of_chars
  rw [hParts]
  exact hj.embeddedChars?_fenced (List.all_eq_true.mp hw) (List.all_eq_true.mp hw') hp s.toList

theorem embedded?_unclosed : Json.embedded? (p ++ "```json" ++ w ++ j ++ w') = some j := by
  have hParts : (p ++ "```json" ++ w ++ j ++ w').toList = p.toList ++
      (openFence ++ (w.toList ++ j.toList ++ w'.toList)) := by
    simp only [String.toList_append, List.append_assoc]
    rfl
  apply embedded?_of_chars
  rw [hParts]
  exact hj.embeddedChars?_unclosed (List.all_eq_true.mp hw) (List.all_eq_true.mp hw') hp

end Fenced

/-! ## Trimming around a fence -/

/-- What starts with a fence and does not end with a blank is not touched. -/
theorem trimChars_of_fence {core middle : List Char} {last : Char}
    (hCore : core = openFence ++ middle ++ [last]) (hLast : Text.isBlank last = false) :
    Text.trimChars core = core := by
  have hEnds : core = Json.backtick :: ("``json".toList ++ middle ++ [last]) := by
    rw [hCore]
    rfl
  rw [hEnds]
  exact Text.dropAround_of_ends Json.isBlank_backtick hLast

/-- Around a text that starts and ends with something else, only blanks are dropped. -/
theorem exists_trim_eq {core : String} (hCore : Text.trimChars core.toList = core.toList)
    (hNe : core.toList ≠ []) (p s : String) :
    ∃ p' s', Text.trim (p ++ core ++ s) = p' ++ core ++ s' ∧ p'.toList <:+ p.toList ∧
      s'.toList <+: s.toList := by
  refine ⟨String.ofList (p.toList.dropWhile Text.isBlank),
    String.ofList (Text.dropEndWhile Text.isBlank s.toList), ?_, ?_, ?_⟩
  · rw [← String.toList_inj, Text.toList_trim, String.toList_append, String.toList_append]
    rw [Text.trimChars, Text.dropAround_append_append hNe hCore]
    simp
  · rw [String.toList_ofList]
    exact List.dropWhile_suffix _
  · rw [String.toList_ofList]
    exact Text.isPrefix_dropEndWhile _ _

theorem looksLikeJson_of_fence {front back : String} :
    LooksLikeJson (front ++ "```json" ++ back) := by
  refine .inl ⟨front.toList, back.toList, ?_⟩
  rw [String.toList_append, String.toList_append]
  rfl

section Decoded

variable (hj : Fenceable j.toList) (hp : ¬ openFence <:+: p.toList)
  (hw : Text.isAllBlank w = true) (hw' : Text.isAllBlank w' = true)

include hj hp hw hw'

/-- What is written around a fence does not matter. -/
theorem decode_fenced (s : String) :
    decode (p ++ "```json" ++ w ++ j ++ w' ++ "```" ++ s) = decode j := by
  have hCore : Text.trimChars ("```json" ++ w ++ j ++ w' ++ "```").toList =
      ("```json" ++ w ++ j ++ w' ++ "```").toList := by
    have hParts : ("```json" ++ w ++ j ++ w' ++ "```").toList = openFence ++
        (w.toList ++ j.toList ++ w'.toList ++ "``".toList) ++ [Json.backtick] := by
      simp only [String.toList_append, List.append_assoc]
      rfl
    exact trimChars_of_fence hParts Json.isBlank_backtick
  obtain ⟨p', s', hTrim, hFront, -⟩ := exists_trim_eq hCore (by simp) p s
  have hFront : ¬ openFence <:+: p'.toList := fun h => hp (h.trans hFront.isInfix)
  have hEmbedded := embedded?_fenced hj hFront hw hw' s'
  have hLooks : LooksLikeJson (p' ++ "```json" ++ (w ++ j ++ w' ++ "```" ++ s')) :=
    looksLikeJson_of_fence
  simp only [String.append_assoc] at hTrim hEmbedded hLooks ⊢
  rw [decode_bare hj]
  exact decode_of_looksLikeJson (hTrim ▸ hLooks) (hTrim ▸ hEmbedded)

theorem decode_unclosed : decode (p ++ "```json" ++ w ++ j ++ w') = decode j := by
  have hCore : Text.trimChars ("```json" ++ w ++ j).toList = ("```json" ++ w ++ j).toList := by
    obtain ⟨middle, hMiddle⟩ := hj.exists_middle
    have hParts : ("```json" ++ w ++ j).toList =
        openFence ++ (w.toList ++ '\x7b' :: middle) ++ ['\x7d'] := by
      rw [String.toList_append, String.toList_append, hMiddle]
      simp only [List.append_assoc, List.cons_append]
      rfl
    exact trimChars_of_fence hParts (by decide)
  obtain ⟨p', s', hTrim, hFront, hBack⟩ := exists_trim_eq hCore (by simp) p w'
  have hFront : ¬ openFence <:+: p'.toList := fun h => hp (h.trans hFront.isInfix)
  have hBack : Text.isAllBlank s' = true :=
    List.all_eq_true.mpr fun c hc => List.all_eq_true.mp hw' c (hBack.subset hc)
  have hEmbedded := embedded?_unclosed hj hFront hw hBack
  have hLooks : LooksLikeJson (p' ++ "```json" ++ (w ++ j ++ s')) := looksLikeJson_of_fence
  simp only [String.append_assoc] at hTrim hEmbedded hLooks ⊢
  rw [decode_bare hj]
  exact decode_of_looksLikeJson (hTrim ▸ hLooks) (hTrim ▸ hEmbedded)

end Decoded

/-! ## The law -/

/-- JSON between braces with no fence in it is recovered from its wrapping: from a fence with any
text after it and any text before it that names no fence of JSON, from a fence that is not closed,
and from prose with no brace that opens before it and no brace that closes after it.  In a fence it
comes to what it comes to alone.  Found and cut out by offsets in bytes, it is the same in every
text, and no cut on the way is out of range or inside a character. -/
theorem wrapped_json_recovered :
    (∀ j : String, Fenceable j.toList →
      (∀ p w w' s : String, ¬ openFence <:+: p.toList → Text.isAllBlank w = true →
        Text.isAllBlank w' = true →
          Json.embedded? (p ++ "```json" ++ w ++ j ++ w' ++ "```" ++ s) = some j ∧
          Json.embedded? (p ++ "```json" ++ w ++ j ++ w') = some j ∧
          decode (p ++ "```json" ++ w ++ j ++ w' ++ "```" ++ s) = decode j ∧
          decode (p ++ "```json" ++ w ++ j ++ w') = decode j) ∧
      ∀ p s : String, '\x7b' ∉ p.toList → '\x7d' ∉ s.toList →
        ¬ openFence <:+: (p ++ j ++ s).toList → Json.embedded? (p ++ j ++ s) = some j) ∧
    ∀ text : String, Json.embeddedByOffsets text = some (Json.embedded? text) := by
  refine ⟨fun j hj => ⟨?_, ?_⟩, Json.embeddedByOffsets_eq⟩
  · intro p w w' s hp hw hw'
    exact ⟨embedded?_fenced hj hp hw hw' s, embedded?_unclosed hj hp hw hw',
      decode_fenced hj hp hw hw' s, decode_unclosed hj hp hw hw'⟩
  · intro p s hp hs hNone
    exact embedded?_prose hj hp hs hNone

/-- A tool's call in a fence, with braces around it that do not matter. -/
theorem fenced_call_recovered :
    let call := "\x7b\"tool\": \"echo\"\x7d"
    Json.embedded? ("Use \x7b:" ++ "```json" ++ "\n" ++ call ++ " \n" ++ "```" ++ "\x7d") =
        some call ∧
      decode ("Use \x7b:" ++ "```json" ++ "\n" ++ call ++ " \n" ++ "```" ++ "\x7d") =
        decode call ∧
      Json.embedded? ("\x7d é " ++ call ++ " \x7b") = some call ∧
      Json.embeddedByOffsets "é\x7b" = some (Json.embedded? "é\x7b") := by
  intro call
  have hCall : Fenceable call.toList := ⟨by decide, by decide, by decide⟩
  obtain ⟨hWrapped, hOffsets⟩ := wrapped_json_recovered
  obtain ⟨hFence, hProse⟩ := hWrapped call hCall
  obtain ⟨hEmbedded, -, hDecode, -⟩ := hFence "Use \x7b:" "\n" " \n" "\x7d" (by decide) (by decide)
    (by decide)
  exact ⟨hEmbedded, hDecode, hProse "\x7d é " " \x7b" (by decide) (by decide) (by decide),
    hOffsets _⟩

end SteadyTask.Route
