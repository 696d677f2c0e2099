import SteadyTask.Proofs.Json.Reread

/-!
# Values read back

A value that is written in compact form is read back as the same value, in front of anything that
cannot go on a number.  The condition is `Storable`: the value is one that a text can hold at all.
Its arrays and objects are nested no deeper than the reader goes, its whole numbers fit in 64 bits,
and each of its objects is sorted by name and holds a name once.

How binary numbers are rounded is not settled here.  That the reader gives back each binary number
of the value is part of the condition, stated for the number on its own.
-/

namespace SteadyTask.Json

/-- A binary number that is read back from its own text. -/
def ReadsBack (x : Float) : Prop :=
  parse (compact (.float x)) = .ok (.float x)

/-- A value that a text can hold, with arrays and objects nested at most so deep. -/
inductive Storable : Nat → Value → Prop
  | null {depth : Nat} : Storable depth .null
  | bool {depth : Nat} (b : Bool) : Storable depth (.bool b)
  | int {depth : Nat} {n : Int} (hLow : -(Nat.pow 2 63 : Int) ≤ n) (hHigh : n ≤ (maxWord : Int)) :
      Storable depth (.int n)
  | float {depth : Nat} {x : Float} (h : ReadsBack x) : Storable depth (.float x)
  | str {depth : Nat} (s : String) : Storable depth (.str s)
  | arr {depth : Nat} {items : List Value} (h : ∀ v ∈ items, Storable depth v) :
      Storable (depth + 1) (.arr items)
  | obj {depth : Nat} {fields : List (String × Value)}
      (hSorted : fields.Pairwise fun f g => f.1 < g.1) (h : ∀ f ∈ fields, Storable depth f.2) :
      Storable (depth + 1) (.obj fields)

/-! ## Sorted fields -/

theorem setField_of_lt {name : String} (v : Value) {fields : List (String × Value)}
    (h : ∀ f ∈ fields, f.1 < name) : setField name v fields = fields ++ [(name, v)] := by
  induction fields with
  | nil => rfl
  | cons field fields ih =>
      have hLess : field.1 < name := h field List.mem_cons_self
      have hNe : name ≠ field.1 := fun hEq => absurd hLess (by rw [hEq]; exact String.lt_irrefl _)
      have hNotLess : ¬ name < field.1 := String.lt_asymm hLess
      rw [setField, if_neg hNe, if_neg hNotLess, ih fun f hf => h f (List.mem_cons_of_mem _ hf)]
      rfl

/-- Fields that come in order of their names are kept as they come. -/
theorem foldl_setField (fields before : List (String × Value))
    (h : (before ++ fields).Pairwise fun f g => f.1 < g.1) :
    fields.foldl (fun sorted f => setField f.1 f.2 sorted) before = before ++ fields := by
  induction fields generalizing before with
  | nil => simp
  | cons field fields ih =>
      -- the name is greater than all before it, so the field goes to the end
      have hBefore : ∀ f ∈ before, f.1 < field.1 := fun f hf =>
        (List.pairwise_append.mp h).2.2 f hf field List.mem_cons_self
      have hShift : before ++ field :: fields = (before ++ [field]) ++ fields := by simp
      rw [List.foldl_cons, setField_of_lt field.2 hBefore, hShift]
      exact ih _ (hShift ▸ h)

/-- What a text can hold is read as it was written. -/
theorem Storable.readsAs {depth : Nat} {v : Value} (h : Storable depth v) : ReadsAs depth v v := by
  induction h with
  | null => exact .null
  | bool b => exact .bool b
  | int hLow hHigh => exact .int hLow hHigh
  | float hBack => exact .float hBack
  | str s => exact .str s
  | @arr depth items _ ih =>
      have hItems : ∀ i ∈ items.map (fun v => (v, v)), ReadsAs depth i.1 i.2 :=
        List.forall_mem_map.mpr ih
      simpa [Function.comp_def] using ReadsAs.arr hItems
  | @obj depth fields hSorted _ ih =>
      have hFields : ∀ f ∈ fields.map (fun f => (f.1, f.2, f.2)), ReadsAs depth f.2.1 f.2.2 :=
        List.forall_mem_map.mpr ih
      -- sorted fields stay as they are when they are put in their places
      simpa [Function.comp_def, Value.ofFields, foldl_setField fields [] hSorted] using
        ReadsAs.obj hFields

/-- A value starts at once, not with the bracket that closes an array, and only `null` starts as
`null` does. -/
theorem Storable.head {depth : Nat} {v : Value} (h : Storable depth v) :
    ∃ c cs, compactChars v = c :: cs ∧ (isSpace c = false ∧ c ≠ ']') ∧ (c = 'n' → v = .null) :=
  h.readsAs.head

/-- A value that a text can hold is read back from its compact form, in front of anything that
cannot go on a number. -/
theorem Reader.value_compactChars {depth : Nat} {v : Value} (h : Storable depth v)
    {rest : List Char} (hRest : EndsNumber rest) :
    value depth (compactChars v ++ rest) = .ok (v, rest) :=
  value_of_readsAs h.readsAs hRest

/-- A value that a text can hold is what its compact form is parsed to. -/
theorem parse_compact {v : Value} (h : Storable maxDepth v) : parse (compact v) = .ok v :=
  parse_of_readsAs h.readsAs

end SteadyTask.Json
