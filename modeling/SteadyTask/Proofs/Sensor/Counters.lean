import Mathlib.Data.List.Forall2
import Mathlib.Data.List.GetD
import Mathlib.Data.UInt
import Mathlib.Tactic
import SteadyTask.Proofs.Decimal.Whole
import SteadyTask.Proofs.Text.Occurrence
import SteadyTask.Proofs.Text.Words
import SteadyTask.Sensor.Host

/-!
# The processor's counters

A text has counters if its first line with their label goes on with at least four words, each a
number of 64 bits.  Such texts, and no others, are read, and what is read are two sums: all ticks
are the first eight counters, and busy ones are those of them in which the processor neither idled
nor waited for devices.  The counters behind the eighth are time of guests, which the first two
already hold; they have to be numbers, but which ones does not matter.

The sums are sums of 64 bits.  Added one after another, counters come to too much at some point
exactly if all ticks do not fit in 64 bits (`overflowsFrom_iff`).  Then the program panics, or goes
on with what is left, as it was built.  Otherwise both sums are those of the natural numbers.
-/

namespace SteadyTask.Sensor.Host

/-- The label of the counters. -/
def label : List Char :=
  "cpu ".toList

/-- The first line of a text that starts with the label goes on with these numbers of 64 bits, at
least four. -/
def HasCounters (stat : String) (counters : List Nat) : Prop :=
  ∃ before rest after words,
    Text.lineChars stat.toList = before ++ (label ++ rest) :: after ∧
    (∀ line ∈ before, ¬ label <+: line) ∧ Text.CutInto rest words ∧
    List.Forall₂ (Decimal.WritesWhole (Nat.pow 2 64 - 1)) words counters ∧ 4 ≤ counters.length

/-- All ticks: user, nice, system, idle, iowait, irq, softirq and steal, as far as they are
there. -/
def allTicks (counters : List Nat) : Nat :=
  (counters.take 8).sum

/-- Ticks without work: idle, and iowait if it is there. -/
def idleTicks (counters : List Nat) : Nat :=
  ((counters.drop 3).take 2).sum

/-- Ticks with work: user, nice and system, then irq, softirq and steal as far as they are there. -/
def busyTicks (counters : List Nat) : Nat :=
  (counters.take 3).sum + ((counters.drop 5).take 3).sum

variable {stat : String} {counters : List Nat}

/-! ## Sums -/

theorem busyTicks_add_idleTicks (counters : List Nat) :
    busyTicks counters + idleTicks counters = allTicks counters := by
  have hCut : counters.take 8 =
      counters.take 3 ++ ((counters.drop 3).take 2 ++ (counters.drop 5).take 3) := by
    rw [show 8 = 3 + (2 + 3) from rfl, List.take_add, List.take_add, List.drop_drop]
  rw [busyTicks, idleTicks, allTicks, hCut, List.sum_append, List.sum_append]
  omega

/-- Counters in the first eight places decide the idle ticks. -/
theorem idleTicks_congr {others : List Nat} (h : others.take 8 = counters.take 8) :
    idleTicks others = idleTicks counters := by
  have hMiddle : (others.drop 3).take 2 = (counters.drop 3).take 2 := by
    simpa [List.drop_take, List.take_take] using congrArg (fun ns => (ns.drop 3).take 2) h
  rw [idleTicks, idleTicks, hMiddle]

/-- The sum of words of 64 bits is the sum of the numbers, as far as 64 bits hold it. -/
theorem toNat_sum_ofNat (ns : List Nat) :
    ((ns.map UInt64.ofNat).sum).toNat = ns.sum % Nat.pow 2 64 := by
  induction ns with
  | nil => rfl
  | cons n ns ih =>
      rw [List.map_cons, List.sum_cons, List.sum_cons, UInt64.toNat_add, ih, UInt64.toNat_ofNat']
      exact (Nat.add_mod n ns.sum _).symm

/-- Idle ticks are in two fields, of which the second may be missing. -/
theorem getD_add_getD_eq {α : Type} [AddMonoid α] {fields : List α} (hFour : 4 ≤ fields.length) :
    fields.getD 3 0 + fields.getD 4 0 = ((fields.drop 3).take 2).sum := by
  rcases fields with - | ⟨user, - | ⟨nice, - | ⟨system, - | ⟨idle, - | ⟨iowait, more⟩⟩⟩⟩⟩
  all_goals simp_all

theorem sum_eq (fields : List UInt64) : sum fields = fields.sum :=
  (List.sum_eq_foldl).symm

theorem toNat_ofNat_of_le {ns : List Nat} (hFit : ∀ n ∈ ns, n ≤ Nat.pow 2 64 - 1) :
    (ns.map UInt64.ofNat).map UInt64.toNat = ns := by
  rw [List.map_map]
  refine (List.map_congr_left fun n hn => ?_).trans (List.map_id ns)
  exact UInt64.toNat_ofNat_of_lt' (Nat.lt_of_le_pred (by decide) (hFit n hn))

/-- A sum of 64 bits comes to too much on the way exactly if it does in the end. -/
theorem overflowsFrom_iff (sum : UInt64) (fields : List UInt64) :
    overflowsFrom sum fields = true ↔
      Nat.pow 2 64 ≤ sum.toNat + (fields.map UInt64.toNat).sum := by
  induction fields generalizing sum with
  | nil =>
      exact iff_of_false Bool.false_ne_true (Nat.not_le.mpr sum.toNat_lt)
  | cons n fields ih =>
      rw [overflowsFrom, Bool.or_eq_true, decide_eq_true_iff, ih, List.map_cons, List.sum_cons]
      by_cases hNext : Nat.pow 2 64 ≤ sum.toNat + n.toNat
      · exact iff_of_true (.inl hNext) (by omega)
      · -- nothing is lost by this addition, so the rest starts from the sum of the two
        have hAdd : (sum + n).toNat = sum.toNat + n.toNat := by
          rw [UInt64.toNat_add]
          exact Nat.mod_eq_of_lt (Nat.lt_of_not_le hNext)
        rw [hAdd, Nat.add_assoc]
        exact or_iff_right hNext

/-- Totals are the two sums, as far as 64 bits hold them. -/
theorem ofFields_ofNat (hFour : 4 ≤ counters.length) :
    CpuTotals.ofFields (counters.map UInt64.ofNat) =
      ⟨allTicks counters % Nat.pow 2 64 - idleTicks counters % Nat.pow 2 64,
        allTicks counters % Nat.pow 2 64⟩ := by
  have hAll : (sum ((counters.map UInt64.ofNat).take 8)).toNat =
      allTicks counters % Nat.pow 2 64 := by
    rw [sum_eq, ← List.map_take, toNat_sum_ofNat, allTicks]
  have hIdle : ((counters.map UInt64.ofNat).getD 3 0 + (counters.map UInt64.ofNat).getD 4 0).toNat =
      idleTicks counters % Nat.pow 2 64 := by
    rw [getD_add_getD_eq (by simpa using hFour), ← List.map_drop, ← List.map_take,
      toNat_sum_ofNat, idleTicks]
  simp only [CpuTotals.ofFields, hAll, hIdle]

/-- One of the additions for the totals comes to too much exactly if all ticks do. -/
theorem overflows_ofNat (hFour : 4 ≤ counters.length)
    (hFit : ∀ n ∈ counters, n ≤ Nat.pow 2 64 - 1) :
    overflows (counters.map UInt64.ofNat) = true ↔ Nat.pow 2 64 ≤ allTicks counters := by
  have hAll : overflowsFrom 0 ((counters.map UInt64.ofNat).take 8) = true ↔
      Nat.pow 2 64 ≤ allTicks counters := by
    rw [overflowsFrom_iff, UInt64.toNat_zero, Nat.zero_add, List.map_take, toNat_ofNat_of_le hFit,
      allTicks]
  have hIdle : overflowsFrom ((counters.map UInt64.ofNat).getD 3 0)
      [(counters.map UInt64.ofNat).getD 4 0] = true ↔ Nat.pow 2 64 ≤ idleTicks counters := by
    have hField : ∀ k, ((counters.map UInt64.ofNat).getD k 0).toNat = counters.getD k 0 := by
      intro k
      rw [← List.getD_map _ _ UInt64.toNat, toNat_ofNat_of_le hFit, UInt64.toNat_zero]
    rw [overflowsFrom_iff, List.map_singleton, List.sum_singleton, hField, hField,
      getD_add_getD_eq hFour, idleTicks]
  have hSum := busyTicks_add_idleTicks counters
  rw [overflows, Bool.or_eq_true, hAll, hIdle]
  exact or_iff_left_of_imp fun hMuch => hMuch.trans (by omega)

/-! ## Reading -/

theorem readFields_eq_ok_iff {words : List (List Char)} {fields : List UInt64} :
    readFields words = .ok fields ↔
      ∃ counters, List.Forall₂ (Decimal.WritesWhole (Nat.pow 2 64 - 1)) words counters ∧
        fields = counters.map UInt64.ofNat := by
  induction words generalizing fields with
  | nil =>
      simp only [readFields, List.forall₂_nil_left_iff, Except.ok.injEq]
      constructor
      · rintro rfl
        exact ⟨[], rfl, rfl⟩
      · rintro ⟨counters, rfl, rfl⟩
        rfl
  | cons word words ih =>
      simp only [List.forall₂_cons_left_iff, readFields, ← Decimal.readNat_eq_ok_iff]
      cases Decimal.readNat (Nat.pow 2 64 - 1) word with
      | error e => simp
      | ok n =>
          have hMap : (readFields words).map (UInt64.ofNat n :: ·) = .ok fields ↔
              ∃ rest, readFields words = .ok rest ∧ UInt64.ofNat n :: rest = fields := by
            cases readFields words with
            | error e => simp [Except.map]
            | ok rest => simp [Except.map]
          simp only [hMap, ih]
          constructor
          · rintro ⟨rest, ⟨counters, hWords, rfl⟩, rfl⟩
            exact ⟨n :: counters, ⟨n, counters, rfl, hWords, rfl⟩, rfl⟩
          · rintro ⟨_, ⟨_, counters, ⟨⟩, hWords, rfl⟩, rfl⟩
            exact ⟨_, ⟨counters, hWords, rfl⟩, rfl⟩

/-- Behind the label stand the words of the rest of the line. -/
theorem drop_wordChars_label (rest : List Char) :
    (Text.wordChars (label ++ rest)).drop 1 = Text.wordChars rest := by
  have hWord : ∀ c ∈ "cpu".toList, Text.isBlank c = false := by
    have hAll : "cpu".toList.all (fun c => !Text.isBlank c) = true := by decide
    intro c hc
    simpa using List.all_eq_true.mp hAll c hc
  have hEnd : ∀ c ∈ (' ' :: rest).head?, Text.isBlank c = true := by
    rintro c ⟨⟩
    decide
  have hLabel : label ++ rest = "cpu".toList ++ ' ' :: rest := rfl
  rw [hLabel, Text.wordChars_append_of_word (by decide) hWord hEnd,
    Text.wordChars_cons_of_blank (by decide), List.drop_one, List.tail_cons]

/-- The line of the counters is the first one that starts with their label. -/
theorem find?_label_eq_some_iff {line : List Char} :
    (Text.lineChars stat.toList).find? (Text.startsWith label) = some line ↔
      ∃ before rest after, line = label ++ rest ∧
        Text.lineChars stat.toList = before ++ (label ++ rest) :: after ∧
        ∀ other ∈ before, ¬ label <+: other := by
  rw [List.find?_eq_some_iff_append]
  simp only [Text.startsWith_iff, Bool.not_eq_true', ← Bool.not_eq_true]
  constructor
  · rintro ⟨⟨rest, rfl⟩, before, after, hLines, hBefore⟩
    exact ⟨before, rest, after, rfl, hLines, hBefore⟩
  · rintro ⟨before, rest, after, rfl, hLines, hBefore⟩
    exact ⟨⟨rest, rfl⟩, before, after, hLines, hBefore⟩

/-- The fields of a text are its counters, as numbers of 64 bits. -/
theorem cpuFields_eq_ok_iff {fields : List UInt64} : cpuFields stat = .ok fields ↔
    ∃ counters, HasCounters stat counters ∧ fields = counters.map UInt64.ofNat := by
  constructor
  · intro h
    unfold cpuFields at h
    split at h
    · cases h
    · next line hLine =>
        obtain ⟨before, rest, after, rfl, hLines, hBefore⟩ := find?_label_eq_some_iff.mp hLine
        rw [drop_wordChars_label] at h
        split at h
        · cases h
        · next found hFound =>
            obtain ⟨counters, hCounters, rfl⟩ := readFields_eq_ok_iff.mp hFound
            rw [List.length_map] at h
            split at h
            · cases h
            · next hFour =>
                cases h
                exact ⟨counters, ⟨before, rest, after, _, hLines, hBefore,
                  Text.cutInto_wordChars rest, hCounters, Nat.le_of_not_lt hFour⟩, rfl⟩
  · rintro ⟨counters, ⟨before, rest, after, words, hLines, hBefore, hWords, hCounters, hFour⟩,
      rfl⟩
    have hLine := find?_label_eq_some_iff.mpr ⟨before, rest, after, rfl, hLines, hBefore⟩
    have hRead : readFields ((Text.wordChars (label ++ rest)).drop 1) =
        .ok (counters.map UInt64.ofNat) := by
      rw [drop_wordChars_label, Text.wordChars_of_cutInto hWords, readFields_eq_ok_iff]
      exact ⟨counters, hCounters, rfl⟩
    rw [label] at hLine hRead
    simp only [cpuFields, hLine, hRead, List.length_map, if_neg (Nat.not_lt.mpr hFour)]

/-- Counters are numbers of 64 bits. -/
theorem le_of_hasCounters (h : HasCounters stat counters) :
    ∀ n ∈ counters, n ≤ Nat.pow 2 64 - 1 := by
  obtain ⟨before, rest, after, words, -, -, -, hCounters, -⟩ := h
  have hWritten : List.Forall₂ (fun n word => n ≤ Nat.pow 2 64 - 1 ∧
      Decimal.WritesWhole (Nat.pow 2 64 - 1) word n) counters words := by
    refine hCounters.flip.imp fun n word hWord => ⟨?_, hWord⟩
    obtain ⟨digits, -, -, -, -, hBound⟩ := hWord
    exact hBound
  exact ((List.forall₂_and_left _ _).mp hWritten).1

/-- What comes of a text with counters: their two sums if all ticks fit in 64 bits, else a panic
or what 64 bits hold of the sums. -/
theorem readTotals_of_hasCounters (h : HasCounters stat counters) (overflow : Overflow) :
    readTotals overflow stat =
      if overflow = .panics ∧ Nat.pow 2 64 ≤ allTicks counters then
        .panic "attempt to add with overflow"
      else .totals ⟨allTicks counters % Nat.pow 2 64 - idleTicks counters % Nat.pow 2 64,
        allTicks counters % Nat.pow 2 64⟩ := by
  have hFour : 4 ≤ counters.length := by
    obtain ⟨_, _, _, _, -, -, -, -, hFour⟩ := h
    exact hFour
  have hFields := cpuFields_eq_ok_iff.mpr ⟨counters, h, rfl⟩
  have hTotals := congrArg (Except.map CpuTotals.ofFields) hFields
  simp only [readTotals, cpuTotals, hFields, Except.map, ofFields_ofNat hFour, Except.toOption,
    Option.any_some, overflows_ofNat hFour (le_of_hasCounters h)]

/-- While all ticks fit in 64 bits, the totals are the sums of the busy ticks and of all. -/
theorem readTotals_of_lt (h : HasCounters stat counters) (hFits : allTicks counters < Nat.pow 2 64)
    (overflow : Overflow) :
    readTotals overflow stat = .totals ⟨busyTicks counters, allTicks counters⟩ := by
  have hSum := busyTicks_add_idleTicks counters
  have hIdle : idleTicks counters < Nat.pow 2 64 := by omega
  rw [readTotals_of_hasCounters h, if_neg (fun hMuch => Nat.not_le.mpr hFits hMuch.2),
    Nat.mod_eq_of_lt hFits, Nat.mod_eq_of_lt hIdle, ← hSum, Nat.add_sub_cancel]

/-- A fault comes of exactly the texts without counters. -/
theorem readTotals_fault_iff (overflow : Overflow) :
    (∃ fault, readTotals overflow stat = .fault fault) ↔
      ¬ ∃ counters, HasCounters stat counters := by
  constructor
  · rintro ⟨fault, hFault⟩ ⟨counters, h⟩
    rw [readTotals_of_hasCounters h] at hFault
    split at hFault
    · cases hFault
    · cases hFault
  · intro hNone
    cases hFields : cpuFields stat with
    | error fault =>
        exact ⟨fault, by simp only [readTotals, cpuTotals, hFields, Except.map]⟩
    | ok fields =>
        obtain ⟨counters, h, -⟩ := cpuFields_eq_ok_iff.mp hFields
        exact absurd ⟨counters, h⟩ hNone

/-- A fault comes of exactly the texts that have no counters.  While all ticks fit in 64 bits,
the totals of a text with counters are the sums of its busy ticks and of all ticks, however the
program was built, and what is taken away from all ticks to have the busy ones is never more than
there is.  If all ticks do not fit, the program panics, or goes on with what 64 bits hold.  Time of
guests makes no difference. -/
theorem counters_decide_totals (stat : String) :
    (∀ overflow, (∃ fault, readTotals overflow stat = .fault fault) ↔
      ¬ ∃ counters, HasCounters stat counters) ∧
    ∀ counters, HasCounters stat counters →
      (allTicks counters < Nat.pow 2 64 → ∀ overflow,
        readTotals overflow stat = .totals ⟨busyTicks counters, allTicks counters⟩) ∧
      (Nat.pow 2 64 ≤ allTicks counters →
        readTotals .panics stat = .panic "attempt to add with overflow" ∧
        readTotals .wraps stat =
          .totals ⟨allTicks counters % Nat.pow 2 64 - idleTicks counters % Nat.pow 2 64,
            allTicks counters % Nat.pow 2 64⟩) ∧
      busyTicks counters + idleTicks counters = allTicks counters ∧
      idleTicks counters ≤ allTicks counters ∧
      ∀ overflow other others, HasCounters other others → others.take 8 = counters.take 8 →
        readTotals overflow other = readTotals overflow stat := by
  refine ⟨readTotals_fault_iff, fun counters hCounters => ?_⟩
  have hSum := busyTicks_add_idleTicks counters
  refine ⟨readTotals_of_lt hCounters, fun hMuch => ⟨?_, ?_⟩, hSum, by omega, ?_⟩
  · rw [readTotals_of_hasCounters hCounters, if_pos ⟨rfl, hMuch⟩]
  · rw [readTotals_of_hasCounters hCounters, if_neg (fun h => nomatch h.1)]
  · intro overflow other others hOthers hSame
    have hAll : allTicks others = allTicks counters := by rw [allTicks, allTicks, hSame]
    have hIdle : idleTicks others = idleTicks counters := idleTicks_congr hSame
    rw [readTotals_of_hasCounters hCounters, readTotals_of_hasCounters hOthers, hAll, hIdle]

/-- A text with other lines around the counters, and with time of guests, has them, and all its
ticks fit. -/
theorem counters_between_lines :
    ∃ counters, HasCounters "cpu0 9 9\r\ncpu \t100 +0 50 800 050 1 2 3 7 7\ncpu  x" counters ∧
      (⟨156, 1006⟩ : CpuTotals) = ⟨busyTicks counters, allTicks counters⟩ := by
  have hDecided :=
    counters_decide_totals "cpu0 9 9\r\ncpu \t100 +0 50 800 050 1 2 3 7 7\ncpu  x"
  have hRead : readTotals .panics "cpu0 9 9\r\ncpu \t100 +0 50 800 050 1 2 3 7 7\ncpu  x" =
      .totals ⟨156, 1006⟩ := by
    decide
  obtain ⟨counters, hCounters⟩ : ∃ counters,
      HasCounters "cpu0 9 9\r\ncpu \t100 +0 50 800 050 1 2 3 7 7\ncpu  x" counters := by
    by_contra hNone
    obtain ⟨fault, hFault⟩ := (hDecided.1 .panics).mpr hNone
    rw [hRead] at hFault
    cases hFault
  obtain ⟨hFits, hMuch, -⟩ := hDecided.2 counters hCounters
  refine ⟨counters, hCounters, ?_⟩
  rcases Nat.lt_or_ge (allTicks counters) (Nat.pow 2 64) with hLess | hMore
  · exact CpuReading.totals.inj (hRead.symm.trans (hFits hLess .panics))
  · have hPanic := hRead.symm.trans (hMuch hMore).1
    cases hPanic

example : readTotals .panics "cpu  18446744073709551615 1 0 0" =
      .panic "attempt to add with overflow" ∧
    readTotals .wraps "cpu  18446744073709551615 1 0 0" = .totals ⟨0, 0⟩ := by
  decide

end SteadyTask.Sensor.Host
