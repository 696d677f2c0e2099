import SteadyTask.Proofs.Json.Mentions
import SteadyTask.Proofs.Text.Blanks
import SteadyTask.Proofs.Text.Offsets

/-!
# JSON and what it is wrapped in

JSON between braces that has no fence in it is taken out of its wrapping as it is: out of a fence
with anything before and after it, out of a fence that is not closed, and out of prose without
braces of its own on the outer sides.  What is found does not depend on whether texts are searched
as characters or by offsets in bytes, and by offsets every cut on the way is possible.

Prose before a fence must not name another fence of JSON, since the first one wins.
-/

namespace SteadyTask.Json

-- JSON, what is written before it and behind it, and blanks on both of its sides
variable {j p s w w' : List Char}

/-! ## Occurrences of fences -/

/-- A text between braces that can stand in a fence. -/
structure Fenceable (j : List Char) : Prop where
  opens : j.head? = some '\x7b'
  closes : j.getLast? = some '\x7d'
  unfenced : ¬ fence <:+: j

theorem isBlank_backtick : Text.isBlank backtick = false := by
  decide

theorem backtick_notMem_of_blank {cs : List Char} (h : ∀ c ∈ cs, Text.isBlank c = true) :
    backtick ∉ cs := by
  intro hMem
  have hBlank := h _ hMem
  rw [isBlank_backtick] at hBlank
  cases hBlank

theorem fenceLike_fence : FenceLike fence :=
  ⟨by decide, forall_mem_of_all (by decide), forall_mem_of_all (by decide)⟩

theorem openFence_eq : openFence = "```jso".toList ++ ['n'] := rfl

theorem fence_isInfix_openFence : fence <:+: openFence := by
  decide

/-- The first fence of JSON is the one whose front does not name one. -/
theorem splitFirst?_openFence (hFront : ¬ openFence <:+: p) (rest : List Char) :
    Text.splitFirst? openFence (p ++ (openFence ++ rest)) = some (p, rest) := by
  refine Text.splitFirst?_append (by decide) ?_ rest
  -- the fence ends with a letter that is nowhere else in it
  have hRest : openFence.dropLast = "```jso".toList := rfl
  rw [hRest, openFence_eq, Text.concat_infix_append_iff_of_notMem (by decide)]
  exact hFront

namespace Fenceable

variable (hj : Fenceable j) (hw : ∀ c ∈ w, Text.isBlank c = true)
  (hw' : ∀ c ∈ w', Text.isBlank c = true)

include hj

theorem exists_middle : ∃ middle, j = '\x7b' :: (middle ++ ['\x7d']) := by
  obtain ⟨rest, rfl⟩ := List.head?_eq_some_iff.mp hj.opens
  obtain ⟨front, hFront⟩ := List.getLast?_eq_some_iff.mp hj.closes
  cases front with
  | nil => cases hFront
  | cons c middle =>
      obtain ⟨-, rfl⟩ := List.cons.inj hFront
      exact ⟨middle, rfl⟩

theorem not_openFence : ¬ openFence <:+: j :=
  fun h => hj.unfenced (fence_isInfix_openFence.trans h)

theorem trimChars_eq : Text.trimChars j = j := by
  obtain ⟨middle, rfl⟩ := hj.exists_middle
  exact Text.dropAround_of_ends (by decide) (by decide)

include hw hw'

/-- Blanks around it do not matter where it is trimmed. -/
theorem trimChars_blanks : Text.trimChars (w ++ j ++ w') = j := by
  rw [Text.trimChars, Text.dropAround_append hw', Text.dropAround_append_left hw]
  exact hj.trimChars_eq

/-- There is a fence in what follows the JSON only if it is behind the blanks. -/
theorem not_fence_isInfix {ticks : List Char} (hTicks : ¬ fence <:+: ticks) :
    ¬ fence <:+: w ++ j ++ w' ++ ticks := by
  obtain ⟨middle, hMiddle⟩ := hj.exists_middle
  have hOpen : '\x7b' :: middle <+: j := ⟨['\x7d'], by rw [hMiddle, List.cons_append]⟩
  -- the closing brace is in no fence, so a fence stands on one side of it
  have hSides : w ++ j ++ w' ++ ticks = w ++ ('\x7b' :: middle ++ '\x7d' :: (w' ++ ticks)) := by
    simp [hMiddle]
  rw [hSides, fenceLike_fence.infix_append_iff (backtick_notMem_of_blank hw),
    Text.infix_append_cons_iff (by decide),
    fenceLike_fence.infix_append_iff (backtick_notMem_of_blank hw'), not_or]
  exact ⟨fun h => hj.unfenced (h.trans hOpen.isInfix), hTicks⟩

variable (hp : ¬ openFence <:+: p)

include hp

/-- JSON in a fence is taken out of it, whatever is around the fence. -/
theorem embeddedChars?_fenced (s : List Char) :
    embeddedChars? (p ++ (openFence ++ (w ++ j ++ w' ++ (fence ++ s)))) = some j := by
  have hFirst : ¬ fence <:+: w ++ j ++ w' ++ fence.dropLast :=
    hj.not_fence_isInfix hw hw' (by decide)
  rw [embeddedChars?, splitFirst?_openFence hp]
  simp only [Text.splitFirst?_append (by decide : fence ≠ []) hFirst, hj.trimChars_blanks hw hw']

/-- A fence that is not closed goes to the end. -/
theorem embeddedChars?_unclosed :
    embeddedChars? (p ++ (openFence ++ (w ++ j ++ w'))) = some j := by
  have hNone : ¬ fence <:+: w ++ j ++ w' := by
    have h := hj.not_fence_isInfix hw hw' (by decide : ¬ fence <:+: [])
    rwa [List.append_nil] at h
  rw [embeddedChars?, splitFirst?_openFence hp]
  simp only [Text.splitFirst?_eq_none_iff.mpr hNone, hj.trimChars_blanks hw hw']

end Fenceable

/-! ## Between braces -/

section Braces

variable {before inside after rest : List Char}

theorem braced?_eq_none {cs : List Char} (h : '\x7b' ∉ cs) : braced? cs = none := by
  have hDrop : cs.dropWhile (· ≠ '\x7b') = [] := by
    refine List.dropWhile_eq_nil_iff.mpr fun c hc => ?_
    rw [decide_eq_true_iff]
    rintro rfl
    exact h hc
  rw [braced?, hDrop]

theorem dropWhile_append_brace (h : '\x7b' ∉ before) (rest : List Char) :
    (before ++ '\x7b' :: rest).dropWhile (· ≠ '\x7b') = '\x7b' :: rest := by
  rw [List.dropWhile_append_of_pos]
  · exact List.dropWhile_cons_of_neg (by simp)
  · intro c hc
    rw [decide_eq_true_iff]
    rintro rfl
    exact h hc

theorem not_closing_of_notMem {cs : List Char} (h : '\x7d' ∉ cs) :
    ∀ c ∈ cs, decide (c = '\x7d') = false := by
  intro c hc
  rw [decide_eq_false_iff_not]
  rintro rfl
  exact h hc

/-- From the first brace that opens to the last one that closes. -/
theorem braced?_closed (hFirst : '\x7b' ∉ before) (hLast : '\x7d' ∉ after) :
    braced? (before ++ '\x7b' :: (inside ++ '\x7d' :: after)) =
      some ('\x7b' :: (inside ++ ['\x7d'])) := by
  have hThrough : Text.throughLast? (· = '\x7d') ('\x7b' :: inside ++ '\x7d' :: after) =
      some ('\x7b' :: inside ++ ['\x7d']) :=
    Text.throughLast?_append_cons (by decide) (not_closing_of_notMem hLast)
  rw [List.cons_append] at hThrough
  rw [braced?, dropWhile_append_brace hFirst]
  simp only [hThrough, List.cons_append]

/-- From the first brace that opens to the end. -/
theorem braced?_open (hFirst : '\x7b' ∉ before) (hNone : '\x7d' ∉ rest) :
    braced? (before ++ '\x7b' :: rest) = some ('\x7b' :: rest) := by
  have hThrough : Text.throughLast? (· = '\x7d') ('\x7b' :: rest) = none :=
    Text.throughLast?_eq_none (not_closing_of_notMem (by simpa using hNone))
  rw [braced?, dropWhile_append_brace hFirst]
  simp only [hThrough]

end Braces

/-- Between prose without braces on the outer sides, JSON is found by its braces. -/
theorem Fenceable.embeddedChars?_of_prose (hj : Fenceable j) (hp : '\x7b' ∉ p) (hs : '\x7d' ∉ s)
    (hNone : ¬ openFence <:+: p ++ j ++ s) : embeddedChars? (p ++ j ++ s) = some j := by
  obtain ⟨middle, rfl⟩ := hj.exists_middle
  have hParts : p ++ '\x7b' :: (middle ++ ['\x7d']) ++ s =
      p ++ '\x7b' :: (middle ++ '\x7d' :: s) := by
    simp
  rw [embeddedChars?, Text.splitFirst?_eq_none_iff.mpr hNone, hParts]
  exact braced?_closed hp hs

/-! ## By offsets -/

/-- What stands between braces, found and cut out by offsets in bytes.  There is no result if a cut
on the way is not possible. -/
def bracedByOffsets (text : String) : Option (Option String) :=
  match Text.find? "\x7b" text with
  | none => some none
  | some start =>
    match (Text.findLast? '\x7d' text).filter (start < ·) with
    | some last => (Text.slice? text start (last + 1)).map some
    | none => (Text.slice? text start text.utf8ByteSize).map some

/-- The JSON inside a text, found and cut out by offsets in bytes.  There is no result if a cut on
the way is not possible. -/
def embeddedByOffsets (text : String) : Option (Option String) :=
  match Text.find? "```json" text with
  | some start => do
    let rest ← Text.slice? text (start + 7) text.utf8ByteSize
    match Text.find? "```" rest with
    | some stop => (Text.slice? rest 0 stop).map fun inside => some (Text.trim inside)
    | none => some (some (Text.trim rest))
  | none => bracedByOffsets text

section Braces

variable {before inside after rest : String}

theorem find?_brace (hFirst : '\x7b' ∉ before.toList) (rest : String) :
    Text.find? "\x7b" (before ++ "\x7b" ++ rest) = some before.utf8ByteSize := by
  refine (Text.find?_eq_some_iff (by decide)).mpr ⟨before, rest, rfl, rfl, ?_⟩
  simpa [List.singleton_infix_iff] using hFirst

theorem bracedByOffsets_closed (hFirst : '\x7b' ∉ before.toList) (hLast : '\x7d' ∉ after.toList) :
    bracedByOffsets (before ++ "\x7b" ++ (inside ++ "\x7d" ++ after)) =
      some (some ("\x7b" ++ inside ++ "\x7d")) := by
  have hParts : before ++ "\x7b" ++ (inside ++ "\x7d" ++ after) =
      before ++ "\x7b" ++ inside ++ "\x7d" ++ after := by
    simp only [String.append_assoc]
  have hFindLast : Text.findLast? '\x7d' (before ++ "\x7b" ++ (inside ++ "\x7d" ++ after)) =
      some (before ++ "\x7b" ++ inside).utf8ByteSize := by
    rw [hParts]
    exact Text.findLast?_append _ hLast
  have hOne : "\x7b".utf8ByteSize = 1 ∧ "\x7d".utf8ByteSize = 1 := ⟨rfl, rfl⟩
  have hCut : Text.slice? (before ++ "\x7b" ++ (inside ++ "\x7d" ++ after)) before.utf8ByteSize
      ((before ++ "\x7b" ++ inside).utf8ByteSize + 1) = some ("\x7b" ++ inside ++ "\x7d") := by
    have h := Text.slice?_append before ("\x7b" ++ inside ++ "\x7d") after
    simp only [String.append_assoc, String.utf8ByteSize_append, hOne, Nat.add_assoc] at h ⊢
    exact h
  have hLater : before.utf8ByteSize < (before ++ "\x7b" ++ inside).utf8ByteSize := by
    simp only [String.utf8ByteSize_append, hOne]
    omega
  simp only [bracedByOffsets, find?_brace hFirst, hFindLast, Option.filter_some, hLater,
    decide_true, if_true, hCut, Option.map_some]

theorem bracedByOffsets_open (hFirst : '\x7b' ∉ before.toList) (hNone : '\x7d' ∉ rest.toList) :
    bracedByOffsets (before ++ "\x7b" ++ rest) = some (some ("\x7b" ++ rest)) := by
  have hNotLater : (Text.findLast? '\x7d' (before ++ "\x7b" ++ rest)).filter
      (before.utf8ByteSize < ·) = none := by
    by_cases hClose : '\x7d' ∈ before.toList
    · -- the last brace that closes comes before the one that opens
      obtain ⟨front, back, rfl, hLast⟩ := Text.exists_last_of_mem hClose
      have hBack : '\x7d' ∉ (back ++ "\x7b" ++ rest).toList := by
        simp [hLast, hNone]
      have hFindLast := Text.findLast?_append front hBack
      simp only [String.append_assoc] at hFindLast ⊢
      rw [hFindLast, Option.filter_some, if_neg]
      simp only [String.utf8ByteSize_append, decide_eq_true_iff]
      omega
    · rw [Text.findLast?_eq_none (by simp [hClose, hNone]), Option.filter_none]
  have hCut : Text.slice? (before ++ "\x7b" ++ rest) before.utf8ByteSize
      (before ++ "\x7b" ++ rest).utf8ByteSize = some ("\x7b" ++ rest) := by
    rw [String.append_assoc]
    exact Text.slice?_end before ("\x7b" ++ rest)
  simp only [bracedByOffsets, find?_brace hFirst, hNotLater, hCut, Option.map_some]

end Braces

theorem bracedByOffsets_eq (text : String) :
    bracedByOffsets text = some ((braced? text.toList).map String.ofList) := by
  by_cases hOpen : '\x7b' ∈ text.toList
  · obtain ⟨before, rest, rfl, hFirst⟩ := Text.exists_first_of_mem hOpen
    by_cases hClose : '\x7d' ∈ rest.toList
    · obtain ⟨inside, after, rfl, hLast⟩ := Text.exists_last_of_mem hClose
      have hBraced : braced? (before ++ "\x7b" ++ (inside ++ "\x7d" ++ after)).toList =
          some ("\x7b" ++ inside ++ "\x7d").toList := by
        simpa using braced?_closed hFirst hLast
      refine (bracedByOffsets_closed hFirst hLast).trans ?_
      refine congrArg some (Eq.symm ?_)
      exact (congrArg _ hBraced).trans (congrArg some String.ofList_toList)
    · have hBraced : braced? (before ++ "\x7b" ++ rest).toList = some ("\x7b" ++ rest).toList := by
        simpa using braced?_open hFirst hClose
      refine (bracedByOffsets_open hFirst hClose).trans ?_
      refine congrArg some (Eq.symm ?_)
      exact (congrArg _ hBraced).trans (congrArg some String.ofList_toList)
  · have hFind : Text.find? "\x7b" text = none :=
      Text.find?_eq_none (Text.splitFirst?_eq_none_iff.mpr
        fun h => hOpen ((List.singleton_infix_iff _ _).mp h))
    simp only [bracedByOffsets, hFind, braced?_eq_none hOpen, Option.map_none]

/-- The JSON inside a text is found by offsets as it is by characters, and every cut on the way is
possible. -/
theorem embeddedByOffsets_eq (text : String) :
    embeddedByOffsets text = some (embedded? text) := by
  cases hSplit : Text.splitFirst? openFence text.toList with
  | none =>
      have hFind : Text.find? "```json" text = none :=
        Text.find?_eq_none hSplit
      rw [embeddedByOffsets, hFind, embedded?, embeddedChars?, hSplit]
      exact bracedByOffsets_eq text
  | some parts =>
      obtain ⟨before, after⟩ := parts
      obtain ⟨hText, hFind⟩ : text = String.ofList before ++ "```json" ++ String.ofList after ∧
          Text.find? "```json" text = some (String.ofList before).utf8ByteSize :=
        Text.find?_of_splitFirst? hSplit
      have hCut : Text.slice? text ((String.ofList before).utf8ByteSize + 7) text.utf8ByteSize =
          some (String.ofList after) := by
        have h := Text.slice?_end (String.ofList before ++ "```json") (String.ofList after)
        rwa [← hText, String.utf8ByteSize_append] at h
      have hTrim (cs : List Char) : Text.trim (String.ofList cs) =
          String.ofList (Text.trimChars cs) := by
        rw [Text.trim, String.toList_ofList]
      rw [embeddedByOffsets, hFind, embedded?, embeddedChars?, hSplit]
      simp only [hCut, Option.bind_eq_bind, Option.bind_some]
      cases hRest : Text.splitFirst? fence after with
      | none =>
          have hFindRest : Text.find? "```" (String.ofList after) = none :=
            Text.find?_eq_none ((congrArg (Text.splitFirst? fence) String.toList_ofList).trans hRest)
          simp only [hFindRest, hTrim, Option.map_some]
      | some parts =>
          obtain ⟨inside, rest⟩ := parts
          obtain ⟨hAfter, hFindRest⟩ : String.ofList after =
              String.ofList inside ++ "```" ++ String.ofList rest ∧
              Text.find? "```" (String.ofList after) = some (String.ofList inside).utf8ByteSize :=
            Text.find?_of_splitFirst?
              ((congrArg (Text.splitFirst? fence) String.toList_ofList).trans hRest)
          have hInside : Text.slice? (String.ofList after) 0 (String.ofList inside).utf8ByteSize =
              some (String.ofList inside) := by
            rw [hAfter, String.append_assoc]
            exact Text.slice?_start _ _
          simp only [hFindRest, hInside, hTrim, Option.map_some]

end SteadyTask.Json
