import SteadyTask.Proofs.Json.Numbers

/-!
# What is read where a value was written

In front of anything that cannot go on a number, the compact form of a value is read as one value,
and the reader stops where that form ends.  Texts, whole numbers of 64 bits and the order of items
come back as they were; the fields of an object come back sorted by name, of two with one name the
later one.  A number that is not finite was written as `null` and comes back so.  The compact form
stands on one line, whatever texts the value holds.

How binary numbers are rounded is not settled here.  That the text of a finite number is read as
some number is part of the relation, stated for the number on its own.
-/

namespace SteadyTask.Json

/-- A value and what is read where it was written, with arrays and objects nested at most so
deep. -/
inductive ReadsAs : Nat → Value → Value → Prop
  | null {depth : Nat} : ReadsAs depth .null .null
  | bool {depth : Nat} (b : Bool) : ReadsAs depth (.bool b) (.bool b)
  | int {depth : Nat} {n : Int} (hLow : -(Nat.pow 2 63 : Int) ≤ n) (hHigh : n ≤ (maxWord : Int)) :
      ReadsAs depth (.int n) (.int n)
  | float {depth : Nat} {x y : Float} (h : parse (compact (.float x)) = .ok (.float y)) :
      ReadsAs depth (.float x) (.float y)
  | notFinite {depth : Nat} {x : Float} (h : Decimal.jsonText? x = none) :
      ReadsAs depth (.float x) .null
  | str {depth : Nat} (s : String) : ReadsAs depth (.str s) (.str s)
  | arr {depth : Nat} {items : List (Value × Value)} (h : ∀ i ∈ items, ReadsAs depth i.1 i.2) :
      ReadsAs (depth + 1) (.arr (items.map fun i => i.1)) (.arr (items.map fun i => i.2))
  | obj {depth : Nat} {fields : List (String × Value × Value)}
      (h : ∀ f ∈ fields, ReadsAs depth f.2.1 f.2.2) :
      ReadsAs (depth + 1) (.obj (fields.map fun f => (f.1, f.2.1)))
        (.ofFields (fields.map fun f => (f.1, f.2.2)))

/-! ## How arrays and objects are written -/

/-- A field in compact form. -/
def fieldChars (field : String × Value) : List Char :=
  quoteChars field.1.toList ++ ':' :: compactChars field.2

theorem compactItems_cons (v : Value) (items : List Value) :
    compactItems (v :: items) = compactChars v ++ items.flatMap fun w => ',' :: compactChars w := by
  induction items generalizing v with
  | nil => simp [compactItems]
  | cons w items ih => simp [compactItems, ih]

theorem compactFields_cons (field : String × Value) (fields : List (String × Value)) :
    compactFields (field :: fields) =
      fieldChars field ++ fields.flatMap fun g => ',' :: fieldChars g := by
  induction fields generalizing field with
  | nil => simp [compactFields, fieldChars]
  | cons g fields ih => simp [compactFields, fieldChars, ih]

/-- There are at least as many characters as there are parts with a comma in front. -/
theorem length_le_length_flatMap_comma {α : Type} (write : α → List Char) (parts : List α) :
    parts.length ≤ (parts.flatMap fun a => ',' :: write a).length := by
  induction parts with
  | nil => simp
  | cons a parts ih =>
      simp only [List.length_cons, List.flatMap_cons, List.length_append]
      omega

namespace Reader

/-! ## Scalars -/

/-- What starts with neither bracket nor brace is read as a scalar, at any depth. -/
theorem value_of_scalar (depth : Nat) {c : Char} (hSpace : isSpace c = false) (hList : c ≠ '[')
    (hObject : c ≠ '\x7b') (rest : List Char) :
    value depth (c :: rest) = scalar c (c :: rest) := by
  cases depth with
  | zero =>
      rw [value, bind_of_ok (token_cons hSpace rest)]
      simp [hList, hObject]
  | succ depth =>
      rw [value, bind_of_ok (token_cons hSpace rest)]
      simp [hList, hObject]

theorem scalar_minus {cs rest : List Char} {n : Number} (h : number false cs = .ok (n, rest)) :
    scalar '-' ('-' :: cs) = .ok (numberValue n, rest) := by
  change (skip >>= fun _ => number false >>= fun n => pure (numberValue n)) ('-' :: cs) = _
  rw [bind_of_ok (skip_cons '-' cs), bind_of_ok h]
  rfl

theorem ne_of_isDigit {c d : Char} (h : Decimal.isDigit c = true) (hd : Decimal.isDigit d = false) :
    c ≠ d := by
  rintro rfl
  rw [hd] at h
  cases h

theorem scalar_digit {c : Char} (hc : Decimal.isDigit c = true) {cs rest : List Char} {n : Number}
    (h : number true cs = .ok (n, rest)) : scalar c cs = .ok (numberValue n, rest) := by
  have hn : c ≠ 'n' := ne_of_isDigit hc (by decide)
  have ht : c ≠ 't' := ne_of_isDigit hc (by decide)
  have hf : c ≠ 'f' := ne_of_isDigit hc (by decide)
  have hQuote : c ≠ '"' := ne_of_isDigit hc (by decide)
  have hMinus : c ≠ '-' := ne_of_isDigit hc (by decide)
  rw [scalar, if_neg hn, if_neg ht, if_neg hf, if_neg hQuote, if_neg hMinus, if_pos hc,
    bind_of_ok h]
  rfl

theorem value_ne_float_of_list {cs left : List Char} {x : Float} (depth : Nat) :
    value (depth + 1) ('[' :: cs) ≠ .ok (.float x, left) := by
  intro h
  rw [value, bind_of_ok (token_cons (by decide) cs)] at h
  obtain ⟨_, _, _, h⟩ := exists_of_bind_ok h
  obtain ⟨_, _, _, h⟩ := exists_of_bind_ok h
  obtain ⟨_, _, _, h⟩ := exists_of_bind_ok h
  cases h

theorem value_ne_float_of_object {cs left : List Char} {x : Float} (depth : Nat) :
    value (depth + 1) ('\x7b' :: cs) ≠ .ok (.float x, left) := by
  intro h
  rw [value, bind_of_ok (token_cons (by decide) cs)] at h
  obtain ⟨_, _, _, h⟩ := exists_of_bind_ok h
  obtain ⟨_, _, _, h⟩ := exists_of_bind_ok h
  obtain ⟨_, _, _, h⟩ := exists_of_bind_ok h
  cases h

/-- A binary number is read only where a sign or a digit comes first. -/
theorem number_of_scalar_float {c : Char} {cs left : List Char} {x : Float}
    (h : scalar c (c :: cs) = .ok (.float x, left)) :
    (c = '-' ∧ number false cs = .ok (.real x, left)) ∨
      (Decimal.isDigit c = true ∧ number true (c :: cs) = .ok (.real x, left)) := by
  -- words and texts are read as values of other kinds; what is left are the two ways to a number
  unfold scalar at h
  split at h
  · obtain ⟨_, _, _, h⟩ := exists_of_bind_ok h
    obtain ⟨_, _, _, h⟩ := exists_of_bind_ok h
    cases h
  split at h
  · obtain ⟨_, _, _, h⟩ := exists_of_bind_ok h
    obtain ⟨_, _, _, h⟩ := exists_of_bind_ok h
    cases h
  split at h
  · obtain ⟨_, _, _, h⟩ := exists_of_bind_ok h
    obtain ⟨_, _, _, h⟩ := exists_of_bind_ok h
    cases h
  split at h
  · obtain ⟨_, _, _, h⟩ := exists_of_bind_ok h
    obtain ⟨_, _, _, h⟩ := exists_of_bind_ok h
    cases h
  split at h
  · next hMinus =>
      rw [bind_of_ok (skip_cons c cs)] at h
      obtain ⟨n, between, hNumber, h⟩ := exists_of_bind_ok h
      cases n with
      | whole n => cases h
      | real y =>
          cases h
          exact Or.inl ⟨hMinus, hNumber⟩
  split at h
  · next hDigit =>
      obtain ⟨n, between, hNumber, h⟩ := exists_of_bind_ok h
      cases n with
      | whole n => cases h
      | real y =>
          cases h
          exact Or.inr ⟨hDigit, hNumber⟩
  · cases h

end Reader

/-- A text that holds one value was read to its end, blanks aside. -/
theorem exists_of_run_ok {α : Type} {read : Reader α} {s : String} {a : α}
    (h : Reader.run read s = .ok a) :
    ∃ left, read s.toList = .ok (a, left) ∧ left.dropWhile isSpace = [] := by
  unfold Reader.run at h
  split at h
  · cases h
  · next b left hRead =>
      split at h
      · next hLeft =>
          cases h
          exact ⟨left, hRead, List.isEmpty_iff.mp hLeft⟩
      · cases h

/-- Where no character may stand between tokens, blanks at the end are none at all. -/
theorem eq_nil_of_suffix_unspaced {s : String} (hs : Unspaced s) {left : List Char}
    (hSuffix : left <:+ s.toList) (hLeft : left.dropWhile isSpace = []) : left = [] := by
  cases left with
  | nil => rfl
  | cons c left =>
      have hc : isSpace c = false := hs c (hSuffix.subset List.mem_cons_self)
      rw [List.dropWhile_cons_of_neg (by simp [hc])] at hLeft
      cases hLeft

/-- The text of a binary number that is read as a number is one from end to end. -/
theorem number_of_float {x y : Float} (h : parse (compact (.float x)) = .ok (.float y)) :
    ∃ c cs, (floatText x).toList = c :: cs ∧
      ((c = '-' ∧ readNumber false cs = .ok (.real y, [])) ∨
        (Decimal.isDigit c = true ∧ readNumber true (c :: cs) = .ok (.real y, []))) := by
  have hText : (compact (.float x)).toList = (floatText x).toList := by
    rw [compact, String.toList_ofList, compactChars]
  obtain ⟨left, hValue, hLeft⟩ := exists_of_run_ok h
  rw [hText] at hValue
  have hUnspaced := unspaced_floatText x
  cases hChars : (floatText x).toList with
  | nil =>
      rw [hChars] at hValue
      cases hValue
  | cons c cs =>
      have hSpace : isSpace c = false := hUnspaced c (by rw [hChars]; exact List.mem_cons_self)
      have hEnd : ∀ after, left <:+ after → after <:+ c :: cs → left = [] := fun after hl ha =>
        eq_nil_of_suffix_unspaced hUnspaced (by rw [hChars]; exact hl.trans ha) hLeft
      rw [hChars] at hValue
      -- a bracket or a brace would open something that is no number
      by_cases hList : c = '['
      · subst hList
        exact absurd hValue (Reader.value_ne_float_of_list _)
      by_cases hObject : c = '\x7b'
      · subst hObject
        exact absurd hValue (Reader.value_ne_float_of_object _)
      rw [Reader.value_of_scalar _ hSpace hList hObject] at hValue
      refine ⟨c, cs, rfl, ?_⟩
      rcases Reader.number_of_scalar_float hValue with ⟨hMinus, hNumber⟩ | ⟨hDigit, hNumber⟩
      · have hNil : left = [] := hEnd cs (readNumber_takes hNumber).suffix (List.suffix_cons _ _)
        rw [hNil] at hNumber
        exact Or.inl ⟨hMinus, hNumber⟩
      · have hNil : left = [] := hEnd _ (readNumber_takes hNumber).suffix List.suffix_rfl
        rw [hNil] at hNumber
        exact Or.inr ⟨hDigit, hNumber⟩

/-! ## Whole numbers -/

theorem toList_toString_natCast (n : Nat) : (toString (n : Int)).toList = Nat.toDigits 10 n :=
  Nat.toList_repr

theorem toList_toString_negSucc (n : Nat) :
    (toString (Int.negSucc n)).toList = '-' :: Nat.toDigits 10 (n + 1) := by
  change ("-" ++ (n + 1).repr).toList = _
  rw [String.toList_append, Nat.toList_repr]
  rfl

/-- The text of a whole number of 64 bits is a number from end to end. -/
theorem number_of_int {n : Int} (hLow : -(Nat.pow 2 63 : Int) ≤ n) (hHigh : n ≤ (maxWord : Int)) :
    ∃ c cs, (toString n).toList = c :: cs ∧
      ((c = '-' ∧ readNumber false cs = .ok (.whole n, [])) ∨
        (Decimal.isDigit c = true ∧ readNumber true (c :: cs) = .ok (.whole n, []))) := by
  cases n with
  | ofNat n =>
      have hFits : n ≤ maxWord := Int.ofNat_le.mp hHigh
      have hRead := readNumber_toDigits true hFits
      have hText : (toString (Int.ofNat n)).toList = Nat.toDigits 10 n := toList_toString_natCast n
      cases hDigits : Nat.toDigits 10 n with
      | nil => exact absurd hDigits Nat.toDigits_ne_nil
      | cons c cs =>
          rw [hDigits] at hText hRead
          have hDigit : Decimal.isDigit c = true :=
            isDigit_of_mem_toDigits (by rw [hDigits]; exact List.mem_cons_self)
          exact ⟨c, cs, hText, Or.inr ⟨hDigit, hRead⟩⟩
  | negSucc n =>
      -- the magnitude is one more than what the constructor holds
      have hSmall : n + 1 ≤ Nat.pow 2 63 := by
        have hCast : ((n + 1 : Nat) : Int) ≤ (Nat.pow 2 63 : Int) := by omega
        exact_mod_cast hCast
      have hFits : n + 1 ≤ maxWord := le_trans hSmall (by decide)
      have hWhole : wholeOf false (n + 1) = .whole (Int.negSucc n) := by
        rw [wholeOf, if_neg (by decide), if_neg (by omega)]
        rfl
      have hRead := readNumber_toDigits false hFits
      rw [hWhole] at hRead
      exact ⟨'-', _, toList_toString_negSucc n, Or.inl ⟨rfl, hRead⟩⟩

namespace Reader

/-- A text that is a number from end to end is read as that number in front of anything that
cannot go on it. -/
theorem value_of_number (depth : Nat) {c : Char} {cs rest : List Char} {n : Number}
    (h : (c = '-' ∧ readNumber false cs = .ok (n, [])) ∨
      (Decimal.isDigit c = true ∧ readNumber true (c :: cs) = .ok (n, [])))
    (hRest : EndsNumber rest) :
    value depth (c :: cs ++ rest) = .ok (numberValue n, rest) := by
  rcases h with ⟨rfl, hNumber⟩ | ⟨hDigit, hNumber⟩
  · have hRead : number false (cs ++ rest) = .ok (n, rest) := readNumber_append hNumber hRest
    rw [List.cons_append, value_of_scalar depth (by decide) (by decide) (by decide)]
    exact scalar_minus hRead
  · have hRead : number true (c :: cs ++ rest) = .ok (n, rest) := readNumber_append hNumber hRest
    have hList : c ≠ '[' := ne_of_isDigit hDigit (by decide)
    have hObject : c ≠ '\x7b' := ne_of_isDigit hDigit (by decide)
    rw [List.cons_append, value_of_scalar depth (isSpace_of_isDigit hDigit) hList hObject]
    exact scalar_digit hDigit hRead

end Reader

/-- A number that is not finite is written as `null` is. -/
theorem compactChars_of_notFinite {x : Float} (h : Decimal.jsonText? x = none) :
    compactChars (.float x) = compactChars .null := by
  have hText : floatText x = "null" := by simp [floatText, h]
  simp [compactChars, hText]

/-! ## Arrays and objects -/

theorem isValueHead_of_number {c : Char} {p q : Prop}
    (h : (c = '-' ∧ p) ∨ (Decimal.isDigit c = true ∧ q)) : isSpace c = false ∧ c ≠ ']' := by
  rcases h with ⟨rfl, -⟩ | ⟨hDigit, -⟩
  · exact ⟨by decide, by decide⟩
  · exact ⟨isSpace_of_isDigit hDigit, Reader.ne_of_isDigit hDigit (by decide)⟩

theorem ne_n_of_number {c : Char} {p q : Prop}
    (h : (c = '-' ∧ p) ∨ (Decimal.isDigit c = true ∧ q)) : c ≠ 'n' := by
  rcases h with ⟨rfl, -⟩ | ⟨hDigit, -⟩
  · decide
  · exact Reader.ne_of_isDigit hDigit (by decide)

/-- A value starts at once, not with the bracket that closes an array, and only what is read as
`null` starts as `null` does. -/
theorem ReadsAs.head {depth : Nat} {v w : Value} (h : ReadsAs depth v w) :
    ∃ c cs, compactChars v = c :: cs ∧ (isSpace c = false ∧ c ≠ ']') ∧ (c = 'n' → w = .null) := by
  cases h with
  | null => exact ⟨_, _, rfl, ⟨by decide, by decide⟩, fun _ => rfl⟩
  | bool b =>
      cases b with
      | true => exact ⟨_, _, rfl, ⟨by decide, by decide⟩, fun h => absurd h (by decide)⟩
      | false => exact ⟨_, _, rfl, ⟨by decide, by decide⟩, fun h => absurd h (by decide)⟩
  | int hLow hHigh =>
      obtain ⟨c, cs, hText, hNumber⟩ := number_of_int hLow hHigh
      exact ⟨c, cs, by rw [compactChars, hText], isValueHead_of_number hNumber,
        fun h => absurd h (ne_n_of_number hNumber)⟩
  | float hRead =>
      obtain ⟨c, cs, hText, hNumber⟩ := number_of_float hRead
      exact ⟨c, cs, by rw [compactChars, hText], isValueHead_of_number hNumber,
        fun h => absurd h (ne_n_of_number hNumber)⟩
  | notFinite hNone =>
      exact ⟨_, _, compactChars_of_notFinite hNone, ⟨by decide, by decide⟩, fun _ => rfl⟩
  | str s =>
      exact ⟨'"', _, by rw [compactChars, quoteChars], ⟨by decide, by decide⟩,
        fun h => absurd h (by decide)⟩
  | arr =>
      exact ⟨'[', _, by rw [compactChars], ⟨by decide, by decide⟩, fun h => absurd h (by decide)⟩
  | obj =>
      exact ⟨'\x7b', _, by rw [compactChars], ⟨by decide, by decide⟩, fun h => absurd h (by decide)⟩

theorem endsNumber_comma (rest : List Char) : EndsNumber (',' :: rest) :=
  endsNumber_cons (by decide)

/-- What follows an item of an array, or a field of an object, cannot go on a number. -/
theorem endsNumber_flatMap_comma {α : Type} (write : α → List Char) (parts : List α) {c : Char}
    (hc : Decimal.isDigit c = false ∧ c ≠ '.' ∧ c ≠ 'e' ∧ c ≠ 'E') (rest : List Char) :
    EndsNumber ((parts.flatMap fun a => ',' :: write a) ++ c :: rest) := by
  cases parts with
  | nil => exact endsNumber_cons hc
  | cons a parts => exact endsNumber_comma _

namespace Reader

variable {depth : Nat}

/-- Puts the value that is read in front of those read before. -/
theorem value_item {v : Value} (acc : List Value) {cs rest : List Char}
    (h : value depth cs = .ok (v, rest)) :
    (do return (← value depth) :: acc : Reader (List Value)) cs = .ok (v :: acc, rest) := by
  rw [bind_of_ok h]
  rfl

/-- The items after the first are read one by one, and kept in reverse. -/
theorem itemsWithin_flatMap_comma {items : List (Value × Value)}
    (hItems : ∀ i ∈ items, ReadsAs depth i.1 i.2)
    (hRead : ∀ i ∈ items, ∀ rest, EndsNumber rest →
      value depth (compactChars i.1 ++ rest) = .ok (i.2, rest))
    {steps : Nat} (hSteps : items.length < steps) (acc : List Value) (rest : List Char) :
    itemsWithin (fun acc => do return (← value depth) :: acc) steps false acc
        ((items.flatMap fun i => ',' :: compactChars i.1) ++ ']' :: rest) =
      .ok ((items.map fun i => i.2).reverse ++ acc, ']' :: rest) := by
  induction items generalizing steps acc with
  | nil =>
      obtain ⟨steps, rfl⟩ := Nat.exists_eq_succ_of_ne_zero (Nat.ne_of_gt hSteps)
      exact itemsWithin_close steps false acc rest
  | cons i items ih =>
      obtain ⟨steps, rfl⟩ := Nat.exists_eq_succ_of_ne_zero (Nat.ne_of_gt (Nat.zero_lt_of_lt hSteps))
      obtain ⟨c, cs, hHead, ⟨hSpace, hClose⟩, -⟩ := (hItems i List.mem_cons_self).head
      have hValue := hRead i List.mem_cons_self _ (endsNumber_flatMap_comma
        (fun i => compactChars i.1) items (by decide : _ ∧ ']' ≠ '.' ∧ _) rest)
      have hItem := value_item acc hValue
      rw [hHead, List.cons_append] at hItem
      have hRest := ih (fun j hj => hItems j (List.mem_cons_of_mem _ hj))
        (fun j hj => hRead j (List.mem_cons_of_mem _ hj)) (Nat.lt_of_succ_lt_succ hSteps)
        (i.2 :: acc)
      rw [List.flatMap_cons, List.cons_append, List.cons_append, List.append_assoc, hHead,
        List.cons_append, itemsWithin_comma hSpace hClose hItem, hRest]
      simp

/-- Reads the value of a field into fields that are sorted by name. -/
theorem value_field (name : String) {v : Value} (acc : List (String × Value))
    {cs rest : List Char} (h : value depth cs = .ok (v, rest)) :
    (do colon; return setField name (← value depth) acc : Reader (List (String × Value)))
      (':' :: cs) = .ok (setField name v acc, rest) := by
  rw [bind_of_ok (colon_cons cs), bind_of_ok h]
  rfl

/-- Fields are read one after the other into what was read before, each in front of whatever cannot
go on a number. -/
inductive ReadsFields {σ : Type} (read : String → σ → Reader σ) :
    σ → List (String × Value) → σ → Prop
  | nil {acc : σ} : ReadsFields read acc [] acc
  | cons {f : String × Value} {fields : List (String × Value)} {acc next final : σ}
      (hRead : ∀ rest, EndsNumber rest →
        read f.1 acc (':' :: (compactChars f.2 ++ rest)) = .ok (next, rest))
      (hFields : ReadsFields read next fields final) : ReadsFields read acc (f :: fields) final

section ReadsFields

variable {σ : Type} {read : String → σ → Reader σ} {fields : List (String × Value)}
  {acc final : σ}

/-- The fields after the first are read one by one. -/
theorem ReadsFields.within (h : ReadsFields read acc fields final) {steps : Nat}
    (hSteps : fields.length < steps) (rest : List Char) :
    fieldsWithin read steps false acc
        ((fields.flatMap fun f => ',' :: fieldChars f) ++ '\x7d' :: rest) =
      .ok (final, '\x7d' :: rest) := by
  induction h generalizing steps with
  | nil =>
      obtain ⟨steps, rfl⟩ := Nat.exists_eq_succ_of_ne_zero (Nat.ne_of_gt hSteps)
      exact fieldsWithin_close steps false _ rest
  | @cons f fields acc next final hRead hFields ih =>
      obtain ⟨steps, rfl⟩ := Nat.exists_eq_succ_of_ne_zero (Nat.ne_of_gt (Nat.zero_lt_of_lt hSteps))
      have hField := hRead _
        (endsNumber_flatMap_comma fieldChars fields (by decide : _ ∧ '\x7d' ≠ '.' ∧ _) rest)
      have hChars : (List.flatMap (fun f => ',' :: fieldChars f) (f :: fields)) ++ '\x7d' :: rest =
          ',' :: (quoteChars f.1.toList ++ (':' :: (compactChars f.2 ++
            (fields.flatMap (fun f => ',' :: fieldChars f) ++ '\x7d' :: rest)))) := by
        simp [fieldChars]
      rw [hChars, fieldsWithin_comma hField, ih (Nat.lt_of_succ_lt_succ hSteps)]

/-- The fields of an object are read up to its closing brace. -/
theorem ReadsFields.fields_eq (h : ReadsFields read acc fields final) (rest : List Char) :
    Reader.fields read acc (compactFields fields ++ '\x7d' :: rest) =
      .ok (final, '\x7d' :: rest) := by
  cases h with
  | nil => exact fieldsWithin_close _ true _ rest
  | @cons f fields _ next _ hRead hFields =>
      have hField := hRead _
        (endsNumber_flatMap_comma fieldChars fields (by decide : _ ∧ '\x7d' ≠ '.' ∧ _) rest)
      -- the reader allows a step for each character, and each further field has its comma
      have hFuel := length_le_length_flatMap_comma fieldChars fields
      have hChars : compactFields (f :: fields) ++ '\x7d' :: rest =
          quoteChars f.1.toList ++ (':' :: (compactChars f.2 ++
            (fields.flatMap (fun g => ',' :: fieldChars g) ++ '\x7d' :: rest))) := by
        simp [compactFields_cons, fieldChars]
      rw [hChars, Reader.fields, fieldsWithin_first hField, hFields.within]
      simp only [List.length_cons, List.length_append]
      omega

end ReadsFields

/-- The fields of an object are put in their places one by one. -/
theorem readsFields_setField {fields : List (String × Value × Value)}
    (hRead : ∀ f ∈ fields, ∀ rest, EndsNumber rest →
      value depth (compactChars f.2.1 ++ rest) = .ok (f.2.2, rest))
    (acc : List (String × Value)) :
    ReadsFields (fun name acc => do colon; return setField name (← value depth) acc) acc
      (fields.map fun f => (f.1, f.2.1))
      ((fields.map fun f => (f.1, f.2.2)).foldl (fun sorted f => setField f.1 f.2 sorted) acc) := by
  induction fields generalizing acc with
  | nil => exact .nil
  | cons f fields ih =>
      obtain ⟨hFirst, hRest⟩ := List.forall_mem_cons.mp hRead
      exact .cons (fun rest hEnd => value_field f.1 acc (hFirst rest hEnd)) (ih hRest _)

/-- An array is read item by item. -/
theorem value_arr {items : List (Value × Value)} (hItems : ∀ i ∈ items, ReadsAs depth i.1 i.2)
    (hRead : ∀ i ∈ items, ∀ rest, EndsNumber rest →
      value depth (compactChars i.1 ++ rest) = .ok (i.2, rest)) (rest : List Char) :
    value (depth + 1) (compactChars (.arr (items.map fun i => i.1)) ++ rest) =
      .ok (.arr (items.map fun i => i.2), rest) := by
  have hAll : Reader.items (fun acc => do return (← value depth) :: acc) []
      (compactItems (items.map fun i => i.1) ++ ']' :: rest) =
        .ok ((items.map fun i => i.2).reverse, ']' :: rest) := by
    cases items with
    | nil => exact itemsWithin_close _ true [] rest
    | cons i items =>
        obtain ⟨c, cs, hHead, ⟨hSpace, hClose⟩, -⟩ := (hItems i List.mem_cons_self).head
        have hValue := hRead i List.mem_cons_self _ (endsNumber_flatMap_comma
          (fun i => compactChars i.1) items (by decide : _ ∧ ']' ≠ '.' ∧ _) rest)
        have hItem := value_item [] hValue
        -- the reader allows a step for each character, and each further item has its comma
        have hFuel := length_le_length_flatMap_comma (fun i => compactChars i.1) items
        rw [List.map_cons, compactItems_cons, List.flatMap_map, List.append_assoc, Reader.items]
        rw [hHead, List.cons_append] at hItem ⊢
        rw [itemsWithin_first hSpace hClose hItem, itemsWithin_flatMap_comma
          (fun j hj => hItems j (List.mem_cons_of_mem _ hj))
          (fun j hj => hRead j (List.mem_cons_of_mem _ hj))]
        · simp
        · simp only [List.length_cons, List.length_append]
          omega
  rw [compactChars, List.cons_append, List.append_assoc, List.singleton_append, value,
    bind_of_ok (token_cons (by decide) _)]
  change (skip >>= fun _ => Reader.items _ [] >>= _) ('[' :: _) = _
  rw [bind_of_ok (skip_cons '[' _), bind_of_ok hAll, bind_of_ok (closeList_cons rest),
    List.reverse_reverse]
  rfl

/-- An object is read field by field, and its fields are sorted. -/
theorem value_obj {fields : List (String × Value × Value)}
    (hRead : ∀ f ∈ fields, ∀ rest, EndsNumber rest →
      value depth (compactChars f.2.1 ++ rest) = .ok (f.2.2, rest)) (rest : List Char) :
    value (depth + 1) (compactChars (.obj (fields.map fun f => (f.1, f.2.1))) ++ rest) =
      .ok (.ofFields (fields.map fun f => (f.1, f.2.2)), rest) := by
  have hFields := (readsFields_setField hRead []).fields_eq rest
  rw [compactChars, List.cons_append, List.append_assoc, List.singleton_append, value,
    bind_of_ok (token_cons (by decide) _)]
  change (skip >>= fun _ => Reader.fields _ [] >>= _) ('\x7b' :: _) = _
  rw [bind_of_ok (skip_cons '\x7b' _), bind_of_ok hFields, bind_of_ok (closeObject_cons rest)]
  rfl

theorem value_null (depth : Nat) (rest : List Char) :
    value depth (compactChars .null ++ rest) = .ok (.null, rest) := by
  rw [show compactChars .null = 'n' :: "ull".toList from rfl, List.cons_append,
    value_of_scalar depth (by decide) (by decide) (by decide)]
  change (skip >>= fun _ => word "ull".toList >>= _) ('n' :: _) = _
  rw [bind_of_ok (skip_cons 'n' _), bind_of_ok (word_append _ rest)]
  rfl

/-- What is read where a value was written, in front of anything that cannot go on a number. -/
theorem value_of_readsAs {v w : Value} (h : ReadsAs depth v w) {rest : List Char}
    (hRest : EndsNumber rest) : value depth (compactChars v ++ rest) = .ok (w, rest) := by
  -- what follows is general, since items and fields are followed by commas and brackets
  induction h generalizing rest with
  | @null depth => exact value_null depth rest
  | @bool depth b =>
      cases b with
      | true =>
          rw [show compactChars (.bool true) = 't' :: "rue".toList from rfl, List.cons_append,
            value_of_scalar depth (by decide) (by decide) (by decide)]
          change (skip >>= fun _ => word "rue".toList >>= _) ('t' :: _) = _
          rw [bind_of_ok (skip_cons 't' _), bind_of_ok (word_append _ rest)]
          rfl
      | false =>
          rw [show compactChars (.bool false) = 'f' :: "alse".toList from rfl, List.cons_append,
            value_of_scalar depth (by decide) (by decide) (by decide)]
          change (skip >>= fun _ => word "alse".toList >>= _) ('f' :: _) = _
          rw [bind_of_ok (skip_cons 'f' _), bind_of_ok (word_append _ rest)]
          rfl
  | @int depth n hLow hHigh =>
      obtain ⟨c, cs, hText, hNumber⟩ := number_of_int hLow hHigh
      rw [compactChars, hText]
      exact value_of_number depth hNumber hRest
  | @float depth x y hRead =>
      obtain ⟨c, cs, hText, hNumber⟩ := number_of_float hRead
      rw [compactChars, hText]
      exact value_of_number depth hNumber hRest
  | @notFinite depth x hNone =>
      rw [compactChars_of_notFinite hNone]
      exact value_null depth rest
  | @str depth s =>
      rw [compactChars, quoteChars, List.cons_append, List.append_assoc, List.singleton_append,
        value_of_scalar depth (by decide) (by decide) (by decide)]
      change (skip >>= fun _ => text >>= _) ('"' :: _) = _
      rw [bind_of_ok (skip_cons '"' _), bind_of_ok (text_quoted s rest)]
      rfl
  | arr hItems ih => exact value_arr hItems (fun i hi rest hRest => ih i hi hRest) rest
  | obj _ ih => exact value_obj (fun f hf rest hRest => ih f hf hRest) rest

end Reader

/-- What the compact form of a value is parsed to. -/
theorem parse_of_readsAs {v w : Value} (h : ReadsAs maxDepth v w) : parse (compact v) = .ok w := by
  have hValue := Reader.value_of_readsAs h endsNumber_nil
  rw [List.append_nil] at hValue
  rw [parse, Reader.run, compact, String.toList_ofList, hValue]
  rfl

/-! ## Numbers up to rounding -/

/-- What is read where a binary number was written. -/
def rereadFloat (x : Float) : Value :=
  match Decimal.jsonText? x with
  | none => .null
  | some text => (parse text).toOption.getD .null

/-- A binary number that is not finite, or whose text is read as some binary number. -/
def Legible (x : Float) : Prop :=
  ∀ text, Decimal.jsonText? x = some text → ∃ y, parse text = .ok (.float y)

theorem Legible.readsAs {depth : Nat} {x : Float} (h : Legible x) :
    ReadsAs depth (.float x) (rereadFloat x) := by
  unfold rereadFloat
  split
  · next hNone => exact .notFinite hNone
  · next text hText =>
      obtain ⟨y, hRead⟩ := h text hText
      have hCompact : compact (.float x) = text := by
        simp [compact, compactChars, floatText, hText]
      rw [hRead]
      exact .float (by rw [hCompact, hRead])

/-! ## Line breaks -/

theorem lineFeed_ne_hexDigit : ∀ n < 16, '\n' ≠ hexDigit n := by
  decide

/-- Control characters are written as escapes, line feeds among them. -/
theorem lineFeed_notMem_escapeChar (c : Char) : '\n' ∉ escapeChar c := by
  unfold escapeChar
  split
  · decide
  split
  · decide
  split
  · decide
  split
  · decide
  split
  · decide
  split
  · decide
  split
  · decide
  split
  · next hControl =>
      have hHigh := lineFeed_ne_hexDigit (c.toNat / 16) (by omega)
      have hLow := lineFeed_ne_hexDigit (c.toNat % 16) (by omega)
      simp [hHigh, hLow]
  · next _ _ hLineFeed _ _ _ _ _ => simpa using Ne.symm hLineFeed

theorem lineFeed_notMem_quoteChars (cs : List Char) : '\n' ∉ quoteChars cs := by
  simp [quoteChars, lineFeed_notMem_escapeChar]

theorem lineFeed_notMem_toString (n : Int) : '\n' ∉ (toString n).toList := by
  have hDigits (n : Nat) : '\n' ∉ Nat.toDigits 10 n :=
    fun hMem => absurd (isSpace_of_mem_toDigits hMem) (by decide)
  cases n with
  | ofNat n =>
      have hText : (toString (Int.ofNat n)).toList = Nat.toDigits 10 n := toList_toString_natCast n
      rw [hText]
      exact hDigits n
  | negSucc n =>
      rw [toList_toString_negSucc]
      exact List.not_mem_cons_of_ne_of_not_mem (by decide) (hDigits (n + 1))

mutual

/-- What a value is written as stands on one line. -/
theorem lineFeed_notMem_compactChars : ∀ v : Value, '\n' ∉ compactChars v
  | .null => by decide
  | .bool true => by decide
  | .bool false => by decide
  | .int n => lineFeed_notMem_toString n
  | .float x => fun hMem => absurd (unspaced_floatText x '\n' hMem) (by decide)
  | .str s => lineFeed_notMem_quoteChars s.toList
  | .arr items => by simpa [compactChars] using lineFeed_notMem_compactItems items
  | .obj fields => by simpa [compactChars] using lineFeed_notMem_compactFields fields

theorem lineFeed_notMem_compactItems : ∀ items : List Value, '\n' ∉ compactItems items
  | [] => by simp [compactItems]
  | [v] => by simpa [compactItems] using lineFeed_notMem_compactChars v
  | v :: w :: rest => by
      have hRest := lineFeed_notMem_compactItems (w :: rest)
      simpa [compactItems, lineFeed_notMem_compactChars v] using hRest

theorem lineFeed_notMem_compactFields :
    ∀ fields : List (String × Value), '\n' ∉ compactFields fields
  | [] => by simp [compactFields]
  | [(name, v)] => by
      simpa [compactFields, lineFeed_notMem_quoteChars] using lineFeed_notMem_compactChars v
  | (name, v) :: field :: rest => by
      have hRest := lineFeed_notMem_compactFields (field :: rest)
      simpa [compactFields, lineFeed_notMem_quoteChars, lineFeed_notMem_compactChars v] using hRest

end

end SteadyTask.Json
