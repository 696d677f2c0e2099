import SteadyTask.Proofs.Sensor.Counters

/-!
# The processor's load between two polls

A poll compares the counters it has read with those of the last poll that could read them; the first
such poll compares with zero.  Busy time and all time are compared each on its own, and neither
difference goes below zero.  So busy time can exceed all time: it does exactly if busy time has
grown while idle time has fallen, which counters of a processor may do.

A poll whose sums do not fit in 64 bits panics, before anything is kept, or goes on with what 64
bits hold of them.  Busy time is within all time in what it keeps as well.

What the share of two such differences is as a binary number is not looked at here, except that
nothing is divided by zero.
-/

namespace SteadyTask.Sensor.Host

/-- Ticks without work. -/
def CpuTotals.idle (t : CpuTotals) : Nat :=
  t.total - t.busy

/-- The totals that were read, if any were. -/
def CpuReading.totals? : CpuReading → Option CpuTotals
  | .totals t => some t
  | .fault _ => none
  | .panic _ => none

@[simp]
theorem CpuReading.totals?_eq_some_iff {r : CpuReading} {t : CpuTotals} :
    r.totals? = some t ↔ r = .totals t := by
  cases r with
  | totals _ => simp [totals?]
  | fault _ => simp [totals?]
  | panic _ => simp [totals?]

/-- What is kept after some polls from the start on, each of a text of counters and one of
memory. -/
def keptAfter (overflow : Overflow) (polls : List (String × String)) : Option CpuTotals :=
  polls.foldl (fun kept texts => (poll overflow kept texts.1 texts.2).2) none

/-- The totals of the last text of counters that could be read, or zero if there was none. -/
def lastRead (overflow : Overflow) (polls : List (String × String)) : CpuTotals :=
  (polls.filterMap fun texts => (readTotals overflow texts.1).totals?).getLast?.getD ⟨0, 0⟩

variable {overflow : Overflow} {stat meminfo : String} {now before : CpuTotals}

/-! ## What a poll keeps -/

/-- Totals that were read are those of some fields. -/
theorem exists_fields (hRead : readTotals overflow stat = .totals now) :
    ∃ fields, CpuTotals.ofFields fields = now := by
  unfold readTotals cpuTotals at hRead
  cases hFields : cpuFields stat with
  | error e =>
      rw [hFields] at hRead
      cases hRead
  | ok fields =>
      rw [hFields] at hRead
      simp only [Except.map] at hRead
      split at hRead
      · cases hRead
      · exact ⟨fields, CpuReading.totals.inj hRead⟩

/-- No reading has more busy ticks than ticks. -/
theorem busy_le_total (hRead : readTotals overflow stat = .totals now) : now.busy ≤ now.total := by
  obtain ⟨fields, rfl⟩ := exists_fields hRead
  exact Nat.sub_le _ _

/-- A reading has ticks of 64 bits. -/
theorem total_lt (hRead : readTotals overflow stat = .totals now) : now.total < Nat.pow 2 64 := by
  obtain ⟨fields, rfl⟩ := exists_fields hRead
  exact UInt64.toNat_lt _

theorem ticks_of_hasCounters {counters : List Nat} (h : HasCounters stat counters)
    (hFits : allTicks counters < Nat.pow 2 64) (hRead : readTotals overflow stat = .totals now) :
    now.busy = busyTicks counters ∧ now.idle = idleTicks counters := by
  obtain rfl := CpuReading.totals.inj ((readTotals_of_lt h hFits overflow).symm.trans hRead)
  have hSum := busyTicks_add_idleTicks counters
  refine ⟨rfl, ?_⟩
  simp only [CpuTotals.idle]
  omega

/-- A poll keeps the totals that it has read, or else what was kept before. -/
theorem poll_snd (kept : Option CpuTotals) (stat meminfo : String) :
    (poll overflow kept stat meminfo).2 = (readTotals overflow stat).totals?.or kept := by
  unfold poll
  cases readTotals overflow stat with
  | panic text => rfl
  | fault e => rfl
  | totals t =>
      cases memoryPercent meminfo with
      | error e => rfl
      | ok memory => rfl

/-- After any polls the totals that were read last are kept. -/
theorem foldl_poll (polls : List (String × String)) (kept : Option CpuTotals) :
    polls.foldl (fun kept texts => (poll overflow kept texts.1 texts.2).2) kept =
      (polls.filterMap fun texts => (readTotals overflow texts.1).totals?).getLast?.or kept := by
  induction polls generalizing kept with
  | nil => rfl
  | cons texts polls ih =>
      rw [List.foldl_cons, ih, poll_snd, List.filterMap_cons]
      generalize polls.filterMap (fun texts => (readTotals overflow texts.1).totals?) = later
      cases (readTotals overflow texts.1).totals? with
      | none => rfl
      | some totals =>
          change later.getLast?.or (some totals) = (totals :: later).getLast?.or kept
          rw [List.getLast?_cons]
          cases later.getLast? with
          | none => rfl
          | some last => rfl

theorem keptAfter_getD (overflow : Overflow) (polls : List (String × String)) :
    (keptAfter overflow polls).getD ⟨0, 0⟩ = lastRead overflow polls := by
  rw [keptAfter, foldl_poll, Option.or_none, lastRead]

/-- The totals that were read last do not have more busy ticks than ticks. -/
theorem busy_lastRead_le (overflow : Overflow) (polls : List (String × String)) :
    (lastRead overflow polls).busy ≤ (lastRead overflow polls).total := by
  unfold lastRead
  cases hLast : (polls.filterMap fun texts => (readTotals overflow texts.1).totals?).getLast? with
  | none => exact le_rfl
  | some last =>
      obtain ⟨texts, -, hTexts⟩ := List.mem_filterMap.mp (List.mem_of_getLast? hLast)
      exact busy_le_total (CpuReading.totals?_eq_some_iff.mp hTexts)

/-! ## Differences -/

/-- Of two differences that do not go below zero, the busy one is within all exactly if busy ticks
have not grown or idle ones have not fallen. -/
theorem busy_since_le_iff (hBefore : before.busy ≤ before.total) (hNow : now.busy ≤ now.total) :
    now.busy - before.busy ≤ now.total - before.total ↔
      now.busy ≤ before.busy ∨ before.idle ≤ now.idle := by
  unfold CpuTotals.idle
  omega

theorem poll_fst (kept : Option CpuTotals) (hRead : readTotals overflow stat = .totals now) :
    (poll overflow kept stat meminfo).1 = match memoryPercent meminfo with
      | .error e => .fault e
      | .ok memory => .values (Metric.Values.ofList
          [(Metric.cpuPercent, Metric.round2 (CpuDelta.since kept now).percent),
            (Metric.memoryPercent, Metric.round2 memory)]) := by
  unfold poll
  rw [hRead]
  cases memoryPercent meminfo with
  | error e => rfl
  | ok memory => rfl

/-- A poll takes the two differences to the totals that were read last.  Busy time is within elapsed
time exactly if busy ticks have not grown, or if those of idle and iowait have not fallen, since
then; and the share of the one in the other is taken only if time has elapsed. -/
theorem busy_within_elapsed_iff (overflow : Overflow) (earlier : List (String × String))
    {stat meminfo : String} {now : CpuTotals} (hRead : readTotals overflow stat = .totals now) :
    ∃ delta : CpuDelta,
      ((poll overflow (keptAfter overflow earlier) stat meminfo).1 =
        match memoryPercent meminfo with
        | .error e => .fault e
        | .ok memory => .values (Metric.Values.ofList
            [(Metric.cpuPercent, Metric.round2 delta.percent),
              (Metric.memoryPercent, Metric.round2 memory)])) ∧
      delta = ⟨now.busy - (lastRead overflow earlier).busy,
        now.total - (lastRead overflow earlier).total⟩ ∧
      (delta.busy ≤ delta.total ↔ now.busy ≤ (lastRead overflow earlier).busy ∨
        (lastRead overflow earlier).idle ≤ now.idle) ∧
      (∀ counters, HasCounters stat counters → allTicks counters < Nat.pow 2 64 →
        now.busy = busyTicks counters ∧ now.idle = idleTicks counters) ∧
      (delta.total = 0 → delta.percent = 0.0) ∧
      (0 < delta.total → delta.total.toUInt64 ≠ 0 ∧
        delta.percent = delta.busy.toUInt64.toFloat / delta.total.toUInt64.toFloat * 100.0) := by
  have hDelta : CpuDelta.since (keptAfter overflow earlier) now =
      ⟨now.busy - (lastRead overflow earlier).busy,
        now.total - (lastRead overflow earlier).total⟩ := by
    rw [CpuDelta.since, keptAfter_getD]
  refine ⟨CpuDelta.since (keptAfter overflow earlier) now, poll_fst _ hRead, hDelta, ?_, ?_, ?_,
    ?_⟩
  · rw [hDelta]
    exact busy_since_le_iff (busy_lastRead_le overflow earlier) (busy_le_total hRead)
  · intro counters hCounters hFits
    exact ticks_of_hasCounters hCounters hFits hRead
  · intro hNone
    rw [CpuDelta.percent, if_pos hNone]
  · intro hSome
    refine ⟨?_, by rw [CpuDelta.percent, if_neg hSome.ne']⟩
    have hLess : (CpuDelta.since (keptAfter overflow earlier) now).total < Nat.pow 2 64 := by
      rw [hDelta]
      exact lt_of_le_of_lt (Nat.sub_le _ _) (total_lt hRead)
    intro hZero
    have hNat : (CpuDelta.since (keptAfter overflow earlier) now).total % Nat.pow 2 64 = 0 := by
      simpa using congrArg UInt64.toNat hZero
    rw [Nat.mod_eq_of_lt hLess] at hNat
    exact hSome.ne' hNat

/-- The differences of a second poll, when busy time has gone on and idle time as well. -/
theorem second_poll_within_elapsed :
    readTotals .panics "cpu  120 0 50 890 50" = .totals ⟨170, 1110⟩ ∧ ∃ delta : CpuDelta,
      ((poll .panics (keptAfter .panics [("cpu  100 0 50 800 50", "")])
          "cpu  120 0 50 890 50" "").1 =
        match memoryPercent "" with
        | .error e => .fault e
        | .ok memory => .values (Metric.Values.ofList
            [(Metric.cpuPercent, Metric.round2 delta.percent),
              (Metric.memoryPercent, Metric.round2 memory)])) ∧
      delta = ⟨20, 110⟩ ∧ delta.busy ≤ delta.total ∧
      delta.percent = delta.busy.toUInt64.toFloat / delta.total.toUInt64.toFloat * 100.0 := by
  have hRead : readTotals .panics "cpu  120 0 50 890 50" = .totals ⟨170, 1110⟩ := by decide
  have hLast : lastRead .panics [("cpu  100 0 50 800 50", "")] = ⟨150, 1000⟩ := by decide
  obtain ⟨delta, hPoll, hDelta, hWithin, -, -, hShare⟩ :=
    busy_within_elapsed_iff .panics [("cpu  100 0 50 800 50", "")] hRead
  rw [hLast] at hDelta hWithin
  have hElapsed : 0 < delta.total := by
    rw [hDelta]
    decide
  exact ⟨hRead, delta, hPoll, hDelta, hWithin.mpr (.inr (by decide)), (hShare hElapsed).2⟩

/-- When iowait falls by eight ticks while user grows by ten, ten ticks of two were busy. -/
theorem busy_beyond_elapsed_of_falling_iowait :
    readTotals .panics "cpu  100 0 50 800 50" = .totals ⟨150, 1000⟩ ∧
      readTotals .panics "cpu  110 0 50 800 42" = .totals ⟨160, 1002⟩ ∧
      ¬ (CpuDelta.since (keptAfter .panics [("cpu  100 0 50 800 50", "")]) ⟨160, 1002⟩).busy ≤
        (CpuDelta.since (keptAfter .panics [("cpu  100 0 50 800 50", "")]) ⟨160, 1002⟩).total := by
  decide

end SteadyTask.Sensor.Host
