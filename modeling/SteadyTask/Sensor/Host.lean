import SteadyTask.Decimal.Reading
import SteadyTask.Sensor.Basic
import SteadyTask.Text.Blank
import SteadyTask.Text.Search

/-!
# Host counters

The processor's counters are the fields of the first line that starts with `cpu` and a space, in
the order user, nice, system, idle, iowait, irq, softirq, steal, guest, guest nice.  The guest
fields are already part of user and nice.  How busy the processor was is a difference of two
readings.  The use of memory follows from the total and the available amount.

Counters are numbers of 64 bits, and so are their sums.  What happens when a sum does not fit is
decided when the program is built: it panics, or it goes on with what 64 bits hold.
-/

namespace SteadyTask.Sensor.Host

/-- Ticks in which the processor was busy, and all ticks. -/
structure CpuTotals where
  busy : Nat
  total : Nat
  deriving Repr, DecidableEq, Inhabited

/-- What becomes of a sum that 64 bits cannot hold. -/
inductive Overflow where
  /-- It is noticed, and the program panics. -/
  | panics
  /-- It is not noticed, and the program goes on with what 64 bits hold of it. -/
  | wraps
  deriving Repr, DecidableEq

/-- The sum of numbers, or what 64 bits hold of it. -/
def sum (ns : List UInt64) : UInt64 :=
  ns.foldl (· + ·) 0

/-- Whether numbers that are added one after another to a sum ever come to more than 64 bits
hold. -/
def overflowsFrom (sum : UInt64) : List UInt64 → Bool
  | [] => false
  | n :: rest => decide (Nat.pow 2 64 ≤ sum.toNat + n.toNat) || overflowsFrom (sum + n) rest

/-- The totals that counter fields add up to.  The field behind idle may be missing. -/
def CpuTotals.ofFields (fields : List UInt64) : CpuTotals :=
  let total := sum (fields.take 8)
  let waiting := fields.getD 3 0 + fields.getD 4 0
  ⟨total.toNat - waiting.toNat, total.toNat⟩

/-- Whether one of the additions for the totals comes to more than 64 bits hold. -/
def overflows (fields : List UInt64) : Bool :=
  overflowsFrom 0 (fields.take 8) || overflowsFrom (fields.getD 3 0) [fields.getD 4 0]

/-- Reads words as numbers of 64 bits; the first word that is none decides the fault. -/
def readFields : List (List Char) → Except Decimal.WholeFault (List UInt64)
  | [] => .ok []
  | word :: rest =>
    match Decimal.readNat (Nat.pow 2 64 - 1) word with
    | .error e => .error e
    | .ok n => (readFields rest).map (UInt64.ofNat n :: ·)

/-- The processor's counters in a text; the first four have to be there. -/
def cpuFields (stat : String) : Except Fault (List UInt64) :=
  match (Text.lineChars stat.toList).find? (Text.startsWith "cpu ".toList) with
  | none => .error (.unparsable "no aggregate cpu line in /proc/stat")
  | some line =>
    match readFields ((Text.wordChars line).drop 1) with
    | .error e => .error (.unparsable ("/proc/stat: " ++ e.message))
    | .ok fields =>
      if fields.length < 4 then .error (.unparsable "/proc/stat: too few cpu fields")
      else .ok fields

/-- The processor's totals in a text, as far as 64 bits hold them. -/
def cpuTotals (stat : String) : Except Fault CpuTotals :=
  (cpuFields stat).map CpuTotals.ofFields

/-- How the reading of the processor's totals ends. -/
inductive CpuReading where
  | totals (t : CpuTotals)
  | fault (f : Fault)
  | panic (text : String)
  deriving Repr, DecidableEq

/-- Reads the processor's totals from a text. -/
def readTotals (overflow : Overflow) (stat : String) : CpuReading :=
  match cpuTotals stat with
  | .error e => .fault e
  | .ok totals =>
    if overflow = .panics ∧ (cpuFields stat).toOption.any overflows then
      .panic "attempt to add with overflow"
    else .totals totals

/-- The number behind a label, on the first line that starts with it. -/
def labelled? (label : String) (text : String) : Option Float := do
  let line ← (Text.lineChars text.toList).find? (Text.startsWith label.toList)
  let word ← (Text.wordChars line)[1]?
  Decimal.readFloat? word

/-- The share of memory in use. -/
def memoryPercent (meminfo : String) : Except Fault Float :=
  match labelled? "MemTotal:" meminfo with
  | none => .error (.unparsable "MemTotal missing")
  | some total =>
    match labelled? "MemAvailable:" meminfo with
    | none => .error (.unparsable "MemAvailable missing")
    | some available =>
      if total <= 0.0 then .error (.unparsable "MemTotal is zero")
      else .ok ((1.0 - available / total) * 100.0)

/-- What the processor did between two readings. -/
structure CpuDelta where
  busy : Nat
  total : Nat
  deriving Repr, DecidableEq

/-- The ticks since an earlier reading; without one all ticks count. -/
def CpuDelta.since (earlier : Option CpuTotals) (now : CpuTotals) : CpuDelta :=
  let before := earlier.getD ⟨0, 0⟩
  ⟨now.busy - before.busy, now.total - before.total⟩

/-- The share of ticks in which the processor was busy. -/
def CpuDelta.percent (d : CpuDelta) : Float :=
  if d.total = 0 then 0.0
  else d.busy.toUInt64.toFloat / d.total.toUInt64.toFloat * 100.0

/-- Reads the host; the counters read last are kept for the next reading even if the memory
cannot be read. -/
def poll (overflow : Overflow) (earlier : Option CpuTotals) (stat meminfo : String) :
    PollAnswer × Option CpuTotals :=
  match readTotals overflow stat with
  | .panic text => (.panic text, earlier)
  | .fault e => (.fault e, earlier)
  | .totals totals =>
    let cpu := (CpuDelta.since earlier totals).percent
    match memoryPercent meminfo with
    | .error e => (.fault e, some totals)
    | .ok memory =>
      (.values (Metric.Values.ofList
        [(Metric.cpuPercent, Metric.round2 cpu), (Metric.memoryPercent, Metric.round2 memory)]),
        some totals)

end SteadyTask.Sensor.Host
