import SteadyTask.Json.Embedded
import SteadyTask.Json.Record
import SteadyTask.Proofs.Json.RoundTrip
import SteadyTask.Proofs.Text.Blanks
import SteadyTask.Proofs.Text.Occurrence

/-!
# Records read back

A record that is given as an object is read field by field.  Each field of the object whose name
the record knows, and which was not given before, goes to the reader of that field; the record is
complete once no required field is missing.  The compact form of an object that mentions no fence is
found as a whole where JSON is looked for.
-/

namespace SteadyTask.Json

variable {σ : Type}

namespace Reader

theorem needToken_cons {c : Char} (h : isSpace c = false) (rest : List Char) :
    needToken (c :: rest) = .ok (c, c :: rest) := by
  rw [needToken, bind_of_ok (token_cons h rest)]
  rfl

/-- A text is read back where a text is expected. -/
theorem str_quoteChars (s : String) (rest : List Char) :
    str (quoteChars s.toList ++ rest) = .ok (s, rest) := by
  rw [quoteChars, List.cons_append, List.append_assoc, List.singleton_append, str, strNamed,
    bind_of_ok (needToken_cons (by decide) _), if_pos rfl, bind_of_ok (skip_cons '"' _)]
  exact text_quoted s rest

/-- What does not start as `null` does is read as something that is there. -/
theorem optional_of_ok {α : Type} {read : Reader α} {c : Char} {cs rest : List Char} {a : α}
    (hSpace : isSpace c = false) (hNull : c ≠ 'n') (h : read (c :: cs) = .ok (a, rest)) :
    optional read (c :: cs) = .ok (some a, rest) := by
  rw [optional, bind_of_ok (token_cons hSpace cs)]
  rw [if_neg (fun hEq => hNull (Option.some.inj hEq)), bind_of_ok h]
  rfl

theorem optional_str_quoteChars (s : String) (rest : List Char) :
    optional str (quoteChars s.toList ++ rest) = .ok (some s, rest) := by
  have h := str_quoteChars s rest
  rw [quoteChars, List.cons_append] at h ⊢
  exact optional_of_ok (by decide) (by decide) h

/-- A value other than `null` is read back where a value may be absent. -/
theorem optional_value_compactChars {depth : Nat} {v : Value} (h : Storable depth v)
    (hNull : v ≠ .null) {rest : List Char} (hRest : EndsNumber rest) :
    optional (value depth) (compactChars v ++ rest) = .ok (some v, rest) := by
  obtain ⟨c, cs, hHead, ⟨hSpace, -⟩, hStart⟩ := h.head
  have hValue := value_compactChars h hRest
  rw [hHead, List.cons_append] at hValue ⊢
  exact optional_of_ok hSpace (fun hc => hNull (hStart hc)) hValue

/-- `null` is read as nothing. -/
theorem optional_null {α : Type} (read : Reader α) (rest : List Char) :
    optional read (compactChars .null ++ rest) = .ok (none, rest) := by
  rw [show compactChars .null ++ rest = 'n' :: ("ull".toList ++ rest) from rfl, optional,
    bind_of_ok (token_cons (by decide) _), if_pos rfl, bind_of_ok (skip_cons 'n' _),
    bind_of_ok (word_append _ rest)]
  rfl

/-- A text that may be absent is read back. -/
theorem optional_str_ofText? (text : Option String) (rest : List Char) :
    optional str (compactChars (.ofText? text) ++ rest) = .ok (text, rest) := by
  cases text with
  | none => exact optional_null str rest
  | some s =>
      rw [Value.ofText?, Value.ofOption, compactChars]
      exact optional_str_quoteChars s rest

/-- A known field that was not given before is read by its own reader. -/
theorem namedField_of_read {shape : Shape σ} {field : Field σ} {depth : Nat} {name : String}
    {seen : List String} {acc next : σ} {cs rest : List Char}
    (hFind : shape.fields.find? (fun field => field.name == name) = some field)
    (hNew : name ∉ seen) (hRead : field.read depth acc cs = .ok (next, rest)) :
    namedField shape depth name (seen, acc) (':' :: cs) = .ok ((name :: seen, next), rest) := by
  unfold namedField
  simp only [hFind, if_neg hNew]
  rw [bind_of_ok (colon_cons cs), bind_of_ok hRead]
  rfl

/-- An object with all the fields that a record needs is read as the record. -/
theorem record_of_fields {shape : Shape σ} {depth : Nat} {seen : List String} {result : σ}
    {cs rest : List Char}
    (hFields : fields (namedField shape depth) ([], shape.start) cs =
      .ok ((seen, result), '\x7d' :: rest))
    (hRequired : shape.fields.find?
      (fun field => field.need == .required && !(field.name ∈ seen)) = none) :
    record shape (depth + 1) ('\x7b' :: cs) = .ok (result, rest) := by
  rw [record, bind_of_ok (needToken_cons (by decide) cs)]
  change (skip >>= fun _ => fields _ _ >>= _) ('\x7b' :: cs) = _
  rw [bind_of_ok (skip_cons '\x7b' cs), bind_of_ok hFields]
  simp only [hRequired]
  rw [bind_of_ok (closeObject_cons rest)]
  rfl

end Reader

open Reader

/-- An object in compact form whose fields can be read is the record they make. -/
theorem parseRecord_compact {shape : Shape σ} {fields : List (String × Value)}
    {seen : List String} {result : σ}
    (h : ReadsFields (namedField shape (maxDepth - 1)) ([], shape.start) fields (seen, result))
    (hRequired : shape.fields.find?
      (fun field => field.need == .required && !(field.name ∈ seen)) = none) :
    parseRecord shape (compact (.obj fields)) = .ok result := by
  -- nothing follows the brace that closes the object
  have hRecord := record_of_fields (h.fields_eq []) hRequired
  rw [parseRecord, run, compact, String.toList_ofList, compactChars,
    show maxDepth = maxDepth - 1 + 1 from rfl, hRecord]
  rfl

/-! ## The JSON of an object in compact form -/

theorem trimChars_compactChars_obj (fields : List (String × Value)) :
    Text.trimChars (compactChars (.obj fields)) = compactChars (.obj fields) := by
  rw [compactChars]
  exact Text.dropAround_of_ends (by decide) (by decide)

/-- What starts and ends with a brace is all there is between braces. -/
theorem braced?_compactChars_obj (fields : List (String × Value)) :
    braced? (compactChars (.obj fields)) = some (compactChars (.obj fields)) := by
  rw [compactChars, braced?, List.dropWhile_cons_of_neg (by simp)]
  simp [Text.throughLast?]

/-- Without a fence the whole text is the JSON in it. -/
theorem embeddedChars?_compactChars_obj {fields : List (String × Value)}
    (h : ¬ openFence <:+: compactChars (.obj fields)) :
    embeddedChars? (compactChars (.obj fields)) = some (compactChars (.obj fields)) := by
  rw [embeddedChars?, Text.splitFirst?_eq_none_iff.mpr h]
  exact braced?_compactChars_obj fields

end SteadyTask.Json
