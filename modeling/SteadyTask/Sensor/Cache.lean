import SteadyTask.Sensor.Basic

/-!
# The sensor cache

All readers share one cache.  Each group has a slot with the last reading and a place for one
owner; readers that find the place taken wait in line.  The owner looks at the reading: one that
is younger than the time to live is a hit and ends the ownership at once, anything else is a miss
and the owner polls the source while the others wait.  A successful poll replaces the reading; a
poll that fails, or an owner that goes away, leaves it as it was.  When an owner leaves, the first
in line becomes the owner.
-/

namespace SteadyTask.Sensor

/-- A reading and when it was stored. -/
structure Entry where
  values : Metric.Values
  storedAt : Millis
  deriving Repr, Inhabited

/-- How far the owner of a slot is. -/
inductive Tenure where
  /-- It has not looked at the reading yet. -/
  | granted
  /-- It is polling the source. -/
  | polling
  deriving Repr, DecidableEq

/-- The place of one group in the cache. -/
structure Slot (κ : Type) where
  entry : Option Entry
  owner : Option (κ × Tenure)
  waiting : List κ
  deriving Repr, Inhabited

/-- Counters of a cache. -/
structure CacheStats where
  hits : Nat
  misses : Nat
  polls : Nat
  pollFailures : Nat
  deriving Repr, DecidableEq, Inhabited

/-- The share of readings that were hits. -/
def CacheStats.hitRate (s : CacheStats) : Float :=
  let total := s.hits + s.misses
  if total = 0 then 0.0 else s.hits.toUInt64.toFloat / total.toUInt64.toFloat

namespace Slot

variable {κ : Type} [DecidableEq κ]

/-- A slot that was never used. -/
def empty : Slot κ :=
  ⟨none, none, []⟩

/-- A reader asks for the slot. -/
def request (s : Slot κ) (reader : κ) : Slot κ :=
  match s.owner with
  | none => { s with owner := some (reader, .granted) }
  | some _ => { s with waiting := s.waiting ++ [reader] }

/-- The owner gives the slot up to the first in line. -/
def release (s : Slot κ) : Slot κ :=
  match s.waiting with
  | [] => { s with owner := none }
  | next :: rest => { s with owner := some (next, .granted), waiting := rest }

/-- A reader goes away, out of the line or out of the ownership. -/
def leave (s : Slot κ) (reader : κ) : Slot κ :=
  match s.owner with
  | some (owner, _) =>
    if owner = reader then s.release
    else { s with waiting := s.waiting.filter (· ≠ reader) }
  | none => s

/-- Whether a reader owns the slot and has not looked yet. -/
def isGranted (s : Slot κ) (reader : κ) : Bool :=
  s.owner = some (reader, .granted)

/-- Whether a reader owns the slot and polls. -/
def isPolling (s : Slot κ) (reader : κ) : Bool :=
  s.owner = some (reader, .polling)

/-- The reading, if it is younger than the time to live. -/
def fresh? (s : Slot κ) (ttl now : Millis) : Option Metric.Values :=
  match s.entry with
  | none => none
  | some e => if now - e.storedAt < ttl then some e.values else none

end Slot

/-- The cache of all groups. -/
structure Cache (κ : Type) where
  ttl : Millis
  pollLimit : Millis
  slots : PerGroup (Slot κ)
  stats : CacheStats
  deriving Repr, Inhabited

/-- What the owner of a slot finds. -/
inductive Lookup where
  | hit (values : Metric.Values)
  | miss
  deriving Repr

namespace Cache

variable {κ : Type} [DecidableEq κ]

/-- A cache without readings. -/
def make (ttl pollLimit : Millis) : Cache κ where
  ttl := ttl
  pollLimit := pollLimit
  slots := .both .empty
  stats := ⟨0, 0, 0, 0⟩

/-- Changes the slot of a group. -/
def modifySlot (c : Cache κ) (g : Group) (f : Slot κ → Slot κ) : Cache κ :=
  { c with slots := c.slots.modify g f }

/-- A reader asks for a group. -/
def request (c : Cache κ) (g : Group) (reader : κ) : Cache κ :=
  c.modifySlot g fun s => s.request reader

/-- The owner of a slot looks at the reading.  A hit gives the slot up. -/
def look (c : Cache κ) (g : Group) (reader : κ) (now : Millis) : Cache κ × Lookup :=
  match (c.slots.get g).fresh? c.ttl now with
  | some values =>
    ({ c.modifySlot g Slot.release with stats := { c.stats with hits := c.stats.hits + 1 } },
      .hit values)
  | none =>
    ({ c.modifySlot g (fun s => { s with owner := some (reader, .polling) }) with
        stats := { c.stats with misses := c.stats.misses + 1, polls := c.stats.polls + 1 } },
      .miss)

/-- The owner's poll has succeeded. -/
def store (c : Cache κ) (g : Group) (values : Metric.Values) (now : Millis) : Cache κ :=
  c.modifySlot g fun s => { s with entry := some ⟨values, now⟩ }.release

/-- The owner's poll has failed. -/
def reject (c : Cache κ) (g : Group) : Cache κ :=
  { c.modifySlot g Slot.release with
    stats := { c.stats with pollFailures := c.stats.pollFailures + 1 } }

/-- A reader goes away. -/
def leave (c : Cache κ) (g : Group) (reader : κ) : Cache κ :=
  c.modifySlot g fun s => s.leave reader

/-- The owner of a slot drops the reading and gives the slot up. -/
def drop (c : Cache κ) (g : Group) : Cache κ :=
  c.modifySlot g fun s => { s with entry := none }.release

/-! ## Histories -/

/-- What can happen to a cache. -/
inductive Event (κ : Type) where
  | pass (duration : Millis)
  | request (reader : κ) (g : Group)
  | look (reader : κ) (g : Group)
  | succeed (reader : κ) (g : Group) (values : Metric.Values)
  | fail (reader : κ) (g : Group)
  | leave (reader : κ) (g : Group)
  | drop (reader : κ) (g : Group)

/-- A cache at a point in time. -/
structure Moment (κ : Type) where
  cache : Cache κ
  now : Millis

/-- Whether an event can happen: a reader waits in one line at a time, only an owner looks or
drops, and only a polling owner has its poll answered. -/
def Moment.Enabled (m : Moment κ) : Event κ → Prop
  | .pass _ => True
  | .request reader g =>
    (m.cache.slots.get g).owner.map Prod.fst ≠ some reader ∧
      reader ∉ (m.cache.slots.get g).waiting
  | .look reader g => (m.cache.slots.get g).isGranted reader
  | .succeed reader g _ => (m.cache.slots.get g).isPolling reader
  | .fail reader g => (m.cache.slots.get g).isPolling reader
  | .leave _ _ => True
  | .drop reader g => (m.cache.slots.get g).isGranted reader

/-- What an event does. -/
def Moment.step (m : Moment κ) : Event κ → Moment κ
  | .pass duration => { m with now := m.now + duration }
  | .request reader g => { m with cache := m.cache.request g reader }
  | .look reader g => { m with cache := (m.cache.look g reader m.now).1 }
  | .succeed _ g values => { m with cache := m.cache.store g values m.now }
  | .fail _ g => { m with cache := m.cache.reject g }
  | .leave reader g => { m with cache := m.cache.leave g reader }
  | .drop _ g => { m with cache := m.cache.drop g }

end Cache

/-! ## Records -/

/-- The counters as a record. -/
def CacheStats.toJson (s : CacheStats) : Json.Value :=
  .ofFields [("hits", .ofNat s.hits), ("misses", .ofNat s.misses), ("polls", .ofNat s.polls),
    ("poll_failures", .ofNat s.pollFailures), ("hit_rate", .float s.hitRate)]

/-- The cache in one line. -/
def Cache.describe {κ : Type} (c : Cache κ) : String :=
  "SensorCache \x7b ttl: " ++ c.ttl.text ++ ", poll_timeout: " ++ c.pollLimit.text ++
    ", stats: CacheStats \x7b hits: " ++ toString c.stats.hits ++ ", misses: " ++
    toString c.stats.misses ++ ", polls: " ++ toString c.stats.polls ++ ", poll_failures: " ++
    toString c.stats.pollFailures ++ " \x7d \x7d"

end SteadyTask.Sensor
