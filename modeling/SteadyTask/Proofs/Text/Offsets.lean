import SteadyTask.Proofs.Text.Occurrence

/-!
# Offsets in bytes

A text that is held in bytes is searched and cut by offsets in its UTF-8 form.  A cut is possible
exactly between two offsets of the text that lie in order and on the borders of characters, and
then it gives what stands between them.  What is found stands on such borders.
-/

namespace SteadyTask.Text

/-- Cuts the part between two offsets out of a text.  There is none if an offset is out of range or
inside a character, or if the offsets are not in order. -/
def slice? (s : String) (start stop : Nat) : Option String :=
  if h : start ≤ stop ∧ String.Pos.Raw.IsValid s ⟨start⟩ ∧ String.Pos.Raw.IsValid s ⟨stop⟩ then
    some (String.extract (s.pos ⟨start⟩ h.2.1) (s.pos ⟨stop⟩ h.2.2))
  else none

/-- The offset of the first occurrence of a pattern. -/
def find? (pattern s : String) : Option Nat :=
  (splitFirst? pattern.toList s.toList).map fun parts => (String.ofList parts.1).utf8ByteSize

/-- The offset of the last occurrence of a character. -/
def findLast? (c : Char) (s : String) : Option Nat :=
  match s.toList.reverse.dropWhile (fun d => !(d == c)) with
  | [] => none
  | _ :: before => some (String.ofList before.reverse).utf8ByteSize

/-! ## Cutting -/

/-- An offset is on the border of characters exactly if it is the size of a first part. -/
theorem isValid_iff {s : String} {offset : Nat} :
    String.Pos.Raw.IsValid s ⟨offset⟩ ↔
      ∃ before after, s = before ++ after ∧ offset = before.utf8ByteSize := by
  rw [String.Pos.Raw.isValid_iff_exists_append]
  refine exists_congr fun before => exists_congr fun after => and_congr_right fun _ => ?_
  rw [String.Pos.Raw.ext_iff, String.byteIdx_rawEndPos]

/-- What stands between two parts of a text is cut out. -/
theorem slice?_append (before part after : String) :
    slice? (before ++ part ++ after) before.utf8ByteSize
      (before.utf8ByteSize + part.utf8ByteSize) = some part := by
  have hStart : String.Pos.Raw.IsValid (before ++ part ++ after) ⟨before.utf8ByteSize⟩ :=
    isValid_iff.mpr ⟨before, part ++ after, String.append_assoc, rfl⟩
  have hStop : String.Pos.Raw.IsValid (before ++ part ++ after)
      ⟨before.utf8ByteSize + part.utf8ByteSize⟩ :=
    isValid_iff.mpr ⟨before ++ part, after, rfl, String.utf8ByteSize_append.symm⟩
  rw [slice?, dif_pos ⟨Nat.le_add_right _ _, hStart, hStop⟩, Option.some_inj,
    ← String.toByteArray_inj, String.toByteArray_extract, String.offset_pos, String.offset_pos,
    String.toByteArray_append, String.toByteArray_append, ByteArray.append_assoc]
  calc (before.toByteArray ++ (part.toByteArray ++ after.toByteArray)).extract
        before.toByteArray.size (before.toByteArray.size + part.toByteArray.size)
      = (part.toByteArray ++ after.toByteArray).extract 0 part.toByteArray.size :=
        ByteArray.extract_append_size_add (i := 0)
    _ = part.toByteArray := ByteArray.extract_append_eq_left rfl

theorem slice?_start (part after : String) :
    slice? (part ++ after) 0 part.utf8ByteSize = some part := by
  have h := slice?_append "" part after
  rwa [String.empty_append, String.utf8ByteSize_empty, Nat.zero_add] at h

theorem slice?_end (before part : String) :
    slice? (before ++ part) before.utf8ByteSize (before ++ part).utf8ByteSize = some part := by
  have h := slice?_append before part ""
  rwa [String.append_empty, ← String.utf8ByteSize_append] at h

/-- Of two first parts of a text the one that is not larger starts the other. -/
theorem exists_append_of_utf8ByteSize_le {a b c d : String} (h : a ++ b = c ++ d)
    (hSize : a.utf8ByteSize ≤ c.utf8ByteSize) : ∃ part, c = a ++ part := by
  have hText {u v : String} {cs : List Char} (hEq : u.toList = v.toList ++ cs) :
      u = v ++ String.ofList cs := by
    rw [← String.toList_inj, hEq, String.toList_append, String.toList_ofList]
  have hList : a.toList ++ b.toList = c.toList ++ d.toList := by
    rw [← String.toList_append, ← String.toList_append, h]
  rcases List.append_eq_append_iff.mp hList with ⟨cs, hEq, -⟩ | ⟨cs, hEq, -⟩
  · exact ⟨_, hText hEq⟩
  · -- then the rest of the first part is empty
    obtain rfl := hText hEq
    rw [String.utf8ByteSize_append] at hSize
    have hNone : String.ofList cs = "" := String.utf8ByteSize_eq_zero_iff.mp (by omega)
    exact ⟨"", by rw [hNone, String.append_empty, String.append_empty]⟩

/-- A cut is what stands between two parts of the text. -/
theorem slice?_eq_some_iff {s part : String} {start stop : Nat} :
    slice? s start stop = some part ↔ ∃ before after, s = before ++ part ++ after ∧
      start = before.utf8ByteSize ∧ stop = before.utf8ByteSize + part.utf8ByteSize := by
  constructor
  · intro h
    have hValid := h
    unfold slice? at hValid
    split at hValid
    · next hBorders =>
        obtain ⟨hLe, hStart, hStop⟩ := hBorders
        obtain ⟨before, rest, rfl, rfl⟩ := isValid_iff.mp hStart
        obtain ⟨through, after, hEq, rfl⟩ := isValid_iff.mp hStop
        obtain ⟨between, rfl⟩ := exists_append_of_utf8ByteSize_le hEq hLe
        rw [hEq, String.utf8ByteSize_append, slice?_append] at h
        obtain rfl := Option.some.inj h
        exact ⟨before, after, hEq, rfl, String.utf8ByteSize_append⟩
    · cases hValid
  · rintro ⟨before, after, rfl, rfl, rfl⟩
    exact slice?_append before part after

-- the letter takes two bytes, and there is no cut between them
example : slice? "é\x7b" 1 3 = none ∧ slice? "é\x7b" 2 3 = some "\x7b" := by decide

/-! ## Searching -/

/-- A pattern that is found stands between two parts of the text, at the size of the first. -/
theorem find?_of_splitFirst? {pattern s : String} {before after : List Char}
    (h : splitFirst? pattern.toList s.toList = some (before, after)) :
    s = String.ofList before ++ pattern ++ String.ofList after ∧
      find? pattern s = some (String.ofList before).utf8ByteSize := by
  constructor
  · rw [← String.toList_inj, eq_append_of_splitFirst? h]
    simp
  · rw [find?, h, Option.map_some]

theorem find?_eq_none {pattern s : String} (h : splitFirst? pattern.toList s.toList = none) :
    find? pattern s = none := by
  rw [find?, h, Option.map_none]

/-- What is found is the first occurrence: the pattern does not end anywhere before. -/
theorem find?_eq_some_iff {pattern s : String} {offset : Nat} (hNe : pattern.toList ≠ []) :
    find? pattern s = some offset ↔ ∃ before after, s = before ++ pattern ++ after ∧
      offset = before.utf8ByteSize ∧
        ¬ pattern.toList <:+: before.toList ++ pattern.toList.dropLast := by
  constructor
  · intro h
    rw [find?, Option.map_eq_some_iff] at h
    obtain ⟨⟨before, after⟩, hSplit, rfl⟩ := h
    refine ⟨String.ofList before, String.ofList after, (find?_of_splitFirst? hSplit).1, rfl, ?_⟩
    rw [String.toList_ofList]
    exact ((splitFirst?_eq_some_iff hNe).mp hSplit).2
  · rintro ⟨before, after, rfl, rfl, hFirst⟩
    have hSplit : splitFirst? pattern.toList (before ++ pattern ++ after).toList =
        some (before.toList, after.toList) := by
      refine (splitFirst?_eq_some_iff hNe).mpr ⟨?_, hFirst⟩
      rw [String.toList_append, String.toList_append, List.append_assoc]
    rw [find?, hSplit, Option.map_some, String.ofList_toList]

/-- A character that is nowhere behind is found at the size of what is before it. -/
theorem findLast?_append {c : Char} {after : String} (before : String) (h : c ∉ after.toList) :
    findLast? c (before ++ String.singleton c ++ after) = some before.utf8ByteSize := by
  have hNone : ∀ d ∈ after.toList, (d == c) = false := fun d hd => by
    rw [beq_eq_false_iff_ne]
    rintro rfl
    exact h hd
  have hDrop : (before.toList ++ c :: after.toList).reverse.dropWhile (fun d => !(d == c)) =
      c :: before.toList.reverse := dropWhile_reverse_append_cons (beq_self_eq_true c) hNone
  have hParts : (before ++ String.singleton c ++ after).toList =
      before.toList ++ c :: after.toList := by
    simp
  rw [findLast?, hParts, hDrop]
  simp

theorem findLast?_eq_none {c : Char} {s : String} (h : c ∉ s.toList) : findLast? c s = none := by
  have hDrop : s.toList.reverse.dropWhile (fun d => !(d == c)) = [] := by
    refine List.dropWhile_eq_nil_iff.mpr fun d hd => ?_
    rw [Bool.not_eq_true', beq_eq_false_iff_ne]
    rintro rfl
    exact h (List.mem_reverse.mp hd)
  rw [findLast?, hDrop]

/-! ## The first and the last character of a kind -/

theorem exists_first_of_mem {c : Char} {s : String} (h : c ∈ s.toList) :
    ∃ before after, s = before ++ String.singleton c ++ after ∧ c ∉ before.toList := by
  obtain ⟨before, after, hEq, hFirst⟩ := List.eq_append_cons_of_mem h
  refine ⟨String.ofList before, String.ofList after, ?_, by simpa using hFirst⟩
  rw [← String.toList_inj, hEq]
  simp

theorem exists_last_of_mem {c : Char} {s : String} (h : c ∈ s.toList) :
    ∃ before after, s = before ++ String.singleton c ++ after ∧ c ∉ after.toList := by
  obtain ⟨after, before, hEq, hLast⟩ := List.eq_append_cons_of_mem (List.mem_reverse.mpr h)
  refine ⟨String.ofList before.reverse, String.ofList after.reverse, ?_, by simpa using hLast⟩
  rw [← String.toList_inj, ← List.reverse_reverse s.toList, hEq]
  simp

end SteadyTask.Text
