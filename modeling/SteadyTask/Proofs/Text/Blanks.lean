import Mathlib.Data.List.DropRight
import Mathlib.Data.List.Forall2
import Mathlib.Tactic
import SteadyTask.Text.Blank

/-!
# Trimming and cutting into lines

What satisfies a test is dropped from the ends of a list and nowhere else, so dropping once is
enough, and nothing is dropped exactly if neither end satisfies the test.  Lines that are joined by
line feeds are cut again as they were, apart from a carriage return just before a line feed.
-/

namespace SteadyTask.Text

/-! ## Trimming -/

section Around

variable {α : Type} {test : α → Bool} {xs ys : List α}

theorem isPrefix_dropEndWhile (test : α → Bool) (xs : List α) : dropEndWhile test xs <+: xs :=
  List.rdropWhile_prefix test xs

theorem dropAround_of_ends {first last : α} {middle : List α}
    (hFirst : test first = false) (hLast : test last = false) :
    dropAround test (first :: (middle ++ [last])) = first :: (middle ++ [last]) := by
  rw [dropAround, List.dropWhile_cons_of_neg (by simp [hFirst]), dropEndWhile]
  simp [hLast]

theorem dropAround_infix (test : α → Bool) (xs : List α) : dropAround test xs <:+: xs :=
  (isPrefix_dropEndWhile test _).isInfix.trans (List.dropWhile_suffix test).isInfix

theorem dropWhile_eq_self (h : ∀ x ∈ xs.head?, test x = false) : xs.dropWhile test = xs := by
  cases xs with
  | nil => rfl
  | cons x xs => exact List.dropWhile_cons_of_neg (by simp [h x rfl])

theorem dropEndWhile_eq_self (h : ∀ x ∈ xs.getLast?, test x = false) :
    dropEndWhile test xs = xs := by
  refine List.rdropWhile_eq_self_iff.mpr fun hNe => ?_
  rw [h _ (List.getLast?_eq_some_getLast hNe)]
  exact Bool.false_ne_true

theorem head?_dropAround (test : α → Bool) (xs : List α) :
    ∀ x ∈ (dropAround test xs).head?, test x = false := by
  intro x hx
  obtain ⟨tail, hTail⟩ := isPrefix_dropEndWhile test (xs.dropWhile test)
  have hHead : (xs.dropWhile test).head? = some x := by
    rw [← hTail, List.head?_append_of_ne_nil _ (by rintro hNil; simp [dropAround, hNil] at hx)]
    exact hx
  have hNot := List.head?_dropWhile_not test xs
  rw [hHead] at hNot
  exact hNot

theorem getLast?_dropAround (test : α → Bool) (xs : List α) :
    ∀ x ∈ (dropAround test xs).getLast?, test x = false := by
  intro x hx
  have hNe : (xs.dropWhile test).rdropWhile test ≠ [] := by
    rintro hNil
    rw [dropAround, dropEndWhile, ← List.rdropWhile, hNil] at hx
    cases hx
  have hLast : ((xs.dropWhile test).rdropWhile test).getLast hNe = x :=
    Option.some.inj ((List.getLast?_eq_some_getLast hNe).symm.trans hx)
  rw [← hLast]
  exact Bool.eq_false_of_not_eq_true (List.rdropWhile_last_not test _ hNe)

/-- Nothing is dropped exactly if neither end satisfies the test. -/
theorem dropAround_eq_self_iff :
    dropAround test xs = xs ↔
      (∀ x ∈ xs.head?, test x = false) ∧ ∀ x ∈ xs.getLast?, test x = false := by
  constructor
  · intro h
    rw [← h]
    exact ⟨head?_dropAround test xs, getLast?_dropAround test xs⟩
  · rintro ⟨hHead, hLast⟩
    rw [dropAround, dropWhile_eq_self hHead, dropEndWhile_eq_self hLast]

@[simp]
theorem dropAround_dropAround (test : α → Bool) (xs : List α) :
    dropAround test (dropAround test xs) = dropAround test xs :=
  dropAround_eq_self_iff.mpr ⟨head?_dropAround test xs, getLast?_dropAround test xs⟩

/-- Nothing is left exactly if everything satisfies the test. -/
theorem dropAround_eq_nil_iff : dropAround test xs = [] ↔ ∀ x ∈ xs, test x = true := by
  constructor
  · intro h
    have hAll : ∀ x ∈ xs.dropWhile test, test x = true := List.rdropWhile_eq_nil_iff.mp h
    refine List.dropWhile_eq_nil_iff.mp (List.eq_nil_iff_forall_not_mem.mpr fun x hx => ?_)
    -- The first character that is left does not satisfy the test.
    have hNe : xs.dropWhile test ≠ [] := List.ne_nil_of_mem hx
    have hFirst := List.head_dropWhile_not test hNe
    rw [hAll _ (List.head_mem hNe)] at hFirst
    cases hFirst
  · intro h
    rw [dropAround, List.dropWhile_eq_nil_iff.mpr h]
    rfl

theorem dropEndWhile_append (h : ∀ y ∈ ys, test y = true) :
    dropEndWhile test (xs ++ ys) = dropEndWhile test xs := by
  rw [dropEndWhile, List.reverse_append,
    List.dropWhile_append_of_pos (fun y hy => h y (List.mem_reverse.mp hy)), ← dropEndWhile]

theorem dropAround_append (h : ∀ y ∈ ys, test y = true) :
    dropAround test (xs ++ ys) = dropAround test xs := by
  rw [dropAround, List.dropWhile_append]
  split
  · next hEmpty =>
      rw [dropAround, List.isEmpty_iff.mp hEmpty, List.dropWhile_eq_nil_iff.mpr h]
  · exact dropEndWhile_append h

theorem dropAround_append_left (h : ∀ y ∈ ys, test y = true) :
    dropAround test (ys ++ xs) = dropAround test xs := by
  rw [dropAround, List.dropWhile_append_of_pos h, ← dropAround]

/-- Dropping from the start stops at what does not start with something that is dropped. -/
theorem dropWhile_append_of_head (h : ∀ y ∈ ys.head?, test y = false) :
    (xs ++ ys).dropWhile test = xs.dropWhile test ++ ys := by
  rw [List.dropWhile_append]
  split
  · next hEmpty => rw [List.isEmpty_iff.mp hEmpty, dropWhile_eq_self h, List.nil_append]
  · rfl

theorem dropEndWhile_append_of_last (h : ∀ x ∈ xs.getLast?, test x = false) :
    dropEndWhile test (xs ++ ys) = xs ++ dropEndWhile test ys := by
  have hHead : ∀ x ∈ xs.reverse.head?, test x = false := by rwa [List.head?_reverse]
  rw [dropEndWhile, List.reverse_append, dropWhile_append_of_head hHead, List.reverse_append,
    List.reverse_reverse, dropEndWhile]

/-- What neither starts nor ends with something that is dropped stays as it is. -/
theorem dropAround_append_append {core : List α} (hNe : core ≠ [])
    (hCore : dropAround test core = core) (xs ys : List α) :
    dropAround test (xs ++ core ++ ys) = xs.dropWhile test ++ core ++ dropEndWhile test ys := by
  obtain ⟨hHead, hLast⟩ := dropAround_eq_self_iff.mp hCore
  have hHead : ∀ x ∈ (core ++ ys).head?, test x = false := by
    rwa [List.head?_append_of_ne_nil _ hNe]
  have hLast : ∀ x ∈ (xs.dropWhile test ++ core).getLast?, test x = false := by
    rwa [List.getLast?_append_of_ne_nil _ hNe]
  rw [dropAround, List.append_assoc, dropWhile_append_of_head hHead, ← List.append_assoc,
    dropEndWhile_append_of_last hLast]

end Around

@[simp]
theorem trimChars_trimChars (cs : List Char) : trimChars (trimChars cs) = trimChars cs :=
  dropAround_dropAround isBlank cs

theorem toList_trim (s : String) : (trim s).toList = trimChars s.toList := by
  rw [trim, String.toList_ofList]

@[simp]
theorem trim_trim (s : String) : trim (trim s) = trim s := by
  rw [trim, toList_trim, trimChars_trimChars, ← trim]

theorem isAllBlank_iff {s : String} : isAllBlank s = true ↔ trim s = "" := by
  rw [isAllBlank, List.all_eq_true, trim, ← String.toList_eq_nil_iff, String.toList_ofList,
    trimChars, dropAround_eq_nil_iff]

/-- A trimmed text is blank exactly if it is empty. -/
theorem isAllBlank_trim_iff {s : String} : isAllBlank (trim s) = true ↔ trim s = "" := by
  rw [isAllBlank_iff, trim_trim]

theorem length_trim_le (s : String) : (trim s).length ≤ s.length := by
  rw [← String.length_toList, ← String.length_toList, toList_trim]
  have hInside : trimChars s.toList <:+: s.toList := dropAround_infix isBlank s.toList
  exact hInside.length_le

/-! ## Lines -/

variable {cs line : List Char}

theorem linePieces_append_lineFeed (h : '\n' ∉ line) (cs : List Char) :
    linePieces (line ++ '\n' :: cs) = (line ++ ['\n']) :: linePieces cs := by
  induction line with
  | nil => rfl
  | cons c line ih =>
      rw [List.mem_cons, not_or] at h
      rw [List.cons_append, linePieces, if_neg (Ne.symm h.1), ih h.2]
      rfl

theorem linePieces_of_notMem (h : '\n' ∉ line) (hNe : line ≠ []) : linePieces line = [line] := by
  induction line with
  | nil => exact absurd rfl hNe
  | cons c line ih =>
      rw [List.mem_cons, not_or] at h
      rw [linePieces, if_neg (Ne.symm h.1)]
      cases line with
      | nil => rfl
      | cons d line => rw [ih h.2 (List.cons_ne_nil d line)]

/-- A line as it is read, apart from a carriage return at its end. -/
def SameLine (line read : List Char) : Prop :=
  line = read ∨ line = read ++ ['\r']

theorem dropLineEnd_of_notMem (h : '\n' ∉ line) : dropLineEnd line = line := by
  unfold dropLineEnd
  split
  · next hRev => exact absurd (List.mem_reverse.mp (hRev ▸ List.mem_cons_self)) h
  · next hRev => exact absurd (List.mem_reverse.mp (hRev ▸ List.mem_cons_self)) h
  · rfl

theorem sameLine_dropLineEnd (line : List Char) : SameLine line (dropLineEnd (line ++ ['\n'])) := by
  have hEnd : (line ++ ['\n']).reverse = '\n' :: line.reverse := List.reverse_concat
  unfold dropLineEnd
  split
  · next rest hRev =>
      right
      rw [← List.reverse_reverse line, (List.cons.inj (hEnd.symm.trans hRev)).2, List.reverse_cons]
  · next rest _ hRev =>
      left
      rw [← (List.cons.inj (hEnd.symm.trans hRev)).2, List.reverse_reverse]
  · next hNot => exact absurd hEnd (hNot _)

theorem dropLineEnd_concat (h : ∀ c ∈ line.getLast?, c ≠ '\r') :
    dropLineEnd (line ++ ['\n']) = line := by
  rcases sameLine_dropLineEnd line with hSame | hReturn
  · exact hSame.symm
  · rw [hReturn, List.getLast?_concat] at h
    exact absurd rfl (h '\r' rfl)

/-- A line that a line feed ends is read as it is, unless it ends in a carriage return. -/
theorem lineChars_append_of_last (h : '\n' ∉ line) (hLast : ∀ c ∈ line.getLast?, c ≠ '\r')
    (cs : List Char) : lineChars (line ++ '\n' :: cs) = line :: lineChars cs := by
  rw [lineChars, linePieces_append_lineFeed h, List.map_cons, dropLineEnd_concat hLast]
  rfl

theorem flatten_linePieces (cs : List Char) : (linePieces cs).flatten = cs := by
  induction cs with
  | nil => rfl
  | cons c cs ih =>
      rw [linePieces]
      split
      · next hFeed => rw [List.flatten_cons, ih, hFeed]; rfl
      · cases hPieces : linePieces cs with
        | nil => simpa [hPieces] using ih
        | cons piece pieces => simpa [hPieces] using ih

theorem isPrefix_dropLineEnd (piece : List Char) : dropLineEnd piece <+: piece := by
  unfold dropLineEnd
  split
  · next rest hRev =>
      have hPiece : piece = rest.reverse ++ ['\r', '\n'] := by
        simpa using congrArg List.reverse hRev
      exact ⟨_, hPiece.symm⟩
  · next rest _ hRev =>
      have hPiece : piece = rest.reverse ++ ['\n'] := by
        simpa using congrArg List.reverse hRev
      exact ⟨_, hPiece.symm⟩
  · exact List.prefix_rfl

/-- A line has no character that the text does not have. -/
theorem mem_of_mem_lineChars {c : Char} (hLine : line ∈ lineChars cs) (hc : c ∈ line) :
    c ∈ cs := by
  obtain ⟨piece, hPiece, rfl⟩ := List.mem_map.mp hLine
  rw [← flatten_linePieces cs]
  exact List.mem_flatten.mpr ⟨piece, hPiece, (isPrefix_dropLineEnd piece).subset hc⟩

/-- Lines that are joined by line feeds are read one by one. -/
theorem lineChars_intercalate {lines : List (List Char)} {ending : List Char}
    (h : ∀ line ∈ lines, '\n' ∉ line ∧ line ≠ []) (hNe : lines ≠ [])
    (hEnding : ending = [] ∨ ending = ['\n']) :
    List.Forall₂ SameLine lines (lineChars (['\n'].intercalate lines ++ ending)) := by
  -- Only the last line may come without a line feed, and it is no line if it is empty.
  induction lines with
  | nil => exact absurd rfl hNe
  | cons line lines ih =>
      obtain ⟨hLine, hLines⟩ := List.forall_mem_cons.mp h
      cases lines with
      | nil =>
          rw [List.intercalate_singleton]
          rcases hEnding with rfl | rfl
          · rw [List.append_nil, lineChars, linePieces_of_notMem hLine.1 hLine.2, List.map_singleton,
              dropLineEnd_of_notMem hLine.1]
            exact .cons (.inl rfl) .nil
          · rw [lineChars, linePieces_append_lineFeed hLine.1]
            exact .cons (sameLine_dropLineEnd line) .nil
      | cons next lines =>
          rw [List.intercalate_cons_cons, List.append_assoc, List.append_assoc, List.singleton_append,
            lineChars, linePieces_append_lineFeed hLine.1]
          exact .cons (sameLine_dropLineEnd line) (ih hLines (List.cons_ne_nil next lines))

/-- What follows a line feed is cut into lines on its own. -/
theorem lineChars_append_lineFeed (front back : List Char) :
    lineChars (front ++ '\n' :: back) = lineChars (front ++ ['\n']) ++ lineChars back := by
  rw [lineChars, lineChars, lineChars, ← List.map_append]
  congr 1
  induction front with
  | nil => rfl
  | cons c front ih =>
      rw [List.cons_append, List.cons_append, linePieces, linePieces, ih]
      split
      · rfl
      · cases hPieces : linePieces (front ++ ['\n']) with
        | cons piece pieces => rfl
        | nil =>
            -- There is a piece that ends with the line feed.
            cases front with
            | nil => cases hPieces
            | cons d front =>
                rw [List.cons_append, linePieces] at hPieces
                split at hPieces
                · cases hPieces
                · split at hPieces <;> cases hPieces

/-- A line feed at the end makes another, empty line, or ends the last one. -/
theorem lineChars_concat_lineFeed (cs : List Char) :
    lineChars (cs ++ ['\n']) = lineChars cs ++ [[]] ∨
      ∃ front line read, lineChars cs = front ++ [line] ∧
        lineChars (cs ++ ['\n']) = front ++ [read] ∧ SameLine line read := by
  have hLast (cs : List Char) (h : '\n' ∉ cs) : lineChars (cs ++ ['\n']) = lineChars cs ++ [[]] ∨
      ∃ line read, lineChars cs = [line] ∧ lineChars (cs ++ ['\n']) = [read] ∧
        SameLine line read := by
    rcases eq_or_ne cs [] with rfl | hNe
    · exact .inl rfl
    · refine .inr ⟨cs, _, ?_, ?_, sameLine_dropLineEnd cs⟩
      · rw [lineChars, linePieces_of_notMem h hNe, List.map_singleton, dropLineEnd_of_notMem h]
      · rw [lineChars, linePieces_append_lineFeed h]
        rfl
  -- Only what follows the last line feed matters.
  by_cases hMem : '\n' ∈ cs.reverse
  · obtain ⟨back, front, hCut, hBack⟩ := List.eq_append_cons_of_mem hMem
    have hCs : cs = front.reverse ++ '\n' :: back.reverse := by
      simpa using congrArg List.reverse hCut
    have hNot : '\n' ∉ back.reverse := fun h => hBack (List.mem_reverse.mp h)
    have hMore : cs ++ ['\n'] = front.reverse ++ '\n' :: (back.reverse ++ ['\n']) := by
      rw [hCs, List.append_assoc, List.cons_append]
    rw [hMore, hCs, lineChars_append_lineFeed, lineChars_append_lineFeed _ back.reverse]
    rcases hLast _ hNot with hEmpty | ⟨line, read, hLine, hRead, hSame⟩
    · exact .inl (by rw [hEmpty, List.append_assoc])
    · exact .inr ⟨_, line, read, by rw [hLine], by rw [hRead], hSame⟩
  · rcases hLast cs (fun h => hMem (List.mem_reverse.mpr h)) with hEmpty | ⟨line, read, hLines⟩
    · exact .inl hEmpty
    · exact .inr ⟨[], line, read, hLines⟩

end SteadyTask.Text
