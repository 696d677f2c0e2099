import SteadyTask.Proofs.Sensor.SingleFlight
import SteadyTask.Sensor.Source

/-!
# What the counters of the cache count

A get that has its turn takes the slot of its group: it finds a fresh reading, or it polls.  A poll
then succeeds, fails, or comes to nothing because its reader goes away, and until one of these has
happened it is in flight.  The counters are read off a history in these terms: each of them changes
with one kind of event, and what has not come to an end yet is what is in flight.

A get that goes away while it waits has not taken its slot, and no counter knows of it.  Counters
have no upper limit here.
-/

namespace SteadyTask.Sensor.Cache

variable {κ : Type} [DecidableEq κ]

/-! ## Gets and their ends -/

/-- What an event means for a get that has taken the slot of its group. -/
inductive Mark where
  /-- It finds a fresh reading and returns that. -/
  | served
  /-- It finds none and polls. -/
  | polls
  /-- Its poll has succeeded, and it returns what it has polled. -/
  | refreshed
  /-- Its poll has failed or has taken too long, and it returns the fault. -/
  | failed
  /-- It goes away while it polls: it is cancelled, or its poll has panicked. -/
  | gone
  deriving DecidableEq

/-- A get takes the slot of its group. -/
def Event.takesSlot : Event κ → Bool
  | .look _ _ => true
  | _ => false

/-- What has happened, for the get that it has happened to. -/
def Happening.mark? (h : Happening κ) : Option Mark :=
  match h.event with
  | .look _ g =>
    match (h.moment.slot g).fresh? h.moment.cache.ttl h.moment.now with
    | some _ => some .served
    | none => some .polls
  | .succeed _ _ _ => some .refreshed
  | .fail _ _ => some .failed
  | .leave reader g => if (h.moment.slot g).isPolling reader then some .gone else none
  | _ => none

/-- How many gets have come to something. -/
def marked (mark : Mark) (past : List (Happening κ)) : Nat :=
  past.countP fun h => h.mark? = some mark

/-- Something for each group, for both groups together. -/
def inBothGroups (count : Group → Nat) : Nat :=
  count .host + count .accelerator

/-- The source after what has happened: it is polled for each get that polls. -/
def pollSource (source : Source) (h : Happening κ) : Source :=
  match h.event with
  | .look reader g =>
    match (h.moment.cache.look g reader h.moment.now).2 with
    | .miss => source.countPoll g
    | .hit _ => source
  | _ => source

section Counting

variable {m m' : Moment κ} {h : Happening κ} {event : Event κ} {past : List (Happening κ)}
  {g : Group} {mark : Mark}

@[simp]
theorem marked_nil : marked mark ([] : List (Happening κ)) = 0 := rfl

theorem marked_cons :
    marked mark (h :: past) = marked mark past + if h.mark? = some mark then 1 else 0 := by
  simp [marked, List.countP_cons]

/-- Gets that take a slot are served or poll. -/
theorem countP_takesSlot :
    past.countP (fun h => h.event.takesSlot) = marked .served past + marked .polls past := by
  induction past with
  | nil => rfl
  | cons h past ih =>
      obtain ⟨m, event⟩ := h
      rw [List.countP_cons, ih, marked_cons, marked_cons]
      cases event with
      | look reader g =>
          cases hFresh : (m.slot g).fresh? m.cache.ttl m.now with
          | none => simp [Happening.mark?, Event.takesSlot, hFresh]; omega
          | some values => simp [Happening.mark?, Event.takesSlot, hFresh]; omega
      | leave reader g => cases hPolling : (m.slot g).isPolling reader <;>
          simp [Happening.mark?, Event.takesSlot, hPolling]
      | _ => simp [Happening.mark?, Event.takesSlot]

/-! ## The counters -/

/-- Each counter changes with one kind of event. -/
theorem stats_step (m : Moment κ) (event : Event κ) :
    (m.step event).cache.stats =
      match (Happening.mk m event).mark? with
      | some .served => { m.cache.stats with hits := m.cache.stats.hits + 1 }
      | some .polls => { m.cache.stats with
          misses := m.cache.stats.misses + 1, polls := m.cache.stats.polls + 1 }
      | some .failed => { m.cache.stats with pollFailures := m.cache.stats.pollFailures + 1 }
      | _ => m.cache.stats := by
  cases event with
  | look reader g =>
      have hSlot : m.cache.slots.get g = m.slot g := rfl
      cases hFresh : (m.slot g).fresh? m.cache.ttl m.now <;>
        simp [Happening.mark?, Moment.step, look, hFresh, hSlot]
  | leave reader g =>
      cases hPolling : (m.slot g).isPolling reader <;>
        simp [Happening.mark?, Moment.step, leave, modifySlot, hPolling]
  | _ => rfl

/-- Over a history each counter grows by the gets that it counts. -/
theorem History.stats_eq (hPast : History m past m') :
    m'.cache.stats =
      { hits := m.cache.stats.hits + marked .served past
        misses := m.cache.stats.misses + marked .polls past
        polls := m.cache.stats.polls + marked .polls past
        pollFailures := m.cache.stats.pollFailures + marked .failed past } := by
  induction hPast with
  | nil m => rfl
  | @cons m m' event past hEnabled rest ih =>
      rw [ih, stats_step]
      simp only [marked_cons]
      cases (Happening.mk m event).mark? with
      | none => simp
      | some mark => cases mark <;> simp <;> omega

/-! ## Polls in flight -/

omit [DecidableEq κ] in
/-- What is counted changes in both groups together as it does in the one that it changes in. -/
theorem inBothGroups_change {count count' : Group → Nat} {gained lost : Nat}
    (hGroup : count g + gained = count' g + lost)
    (hOther : ∀ other, other ≠ g → count' other = count other) :
    inBothGroups count + gained = inBothGroups count' + lost := by
  unfold inBothGroups
  cases g with
  | host =>
      have hSame := hOther .accelerator (by decide)
      omega
  | accelerator =>
      have hSame := hOther .host (by decide)
      omega

/-- How many readers poll. -/
def Moment.pollCount (m : Moment κ) : Nat :=
  inBothGroups fun g => (m.slot g).polling.length

/-- How many gets have ended that had begun to poll. -/
def ended (past : List (Happening κ)) : Nat :=
  marked .refreshed past + marked .failed past + marked .gone past

theorem length_polling_of_isPolling {s : Slot κ} {reader : κ} (h : s.isPolling reader = true) :
    s.polling.length = 1 := by
  rw [Slot.polling_of_owner (Slot.isPolling_iff.mp h)]
  rfl

theorem length_polling_of_isGranted {s : Slot κ} {reader : κ} (h : s.isGranted reader = true) :
    s.polling.length = 0 := by
  rw [Slot.polling_of_owner (Slot.isGranted_iff.mp h)]
  rfl

/-- Whoever goes away polls no longer, and nobody else is touched by that. -/
theorem length_polling_leave (s : Slot κ) (reader : κ) :
    s.polling.length = (s.leave reader).polling.length + if s.isPolling reader then 1 else 0 := by
  rw [Slot.polling_leave]
  unfold Slot.isPolling Slot.polling
  split
  · next owner hOwner => by_cases hReader : owner = reader <;> simp [hOwner, hReader]
  · next hIdle => simpa using hIdle reader

/-- In the group of an event, whoever begins to poll polls, and whoever has ended does not. -/
theorem length_polling_step (hEnabled : m.Enabled event) (hGroup : event.group? = some g) :
    (m.slot g).polling.length + marked .polls [⟨m, event⟩] =
      ((m.step event).slot g).polling.length + ended [⟨m, event⟩] := by
  rw [step_slot hGroup]
  simp only [ended, marked_cons, marked_nil, Nat.zero_add]
  cases event with
  | pass duration => cases hGroup
  | request reader g' =>
      cases hGroup
      simp [slotAfter, Slot.polling_request, Happening.mark?]
  | look reader g' =>
      cases hGroup
      rw [length_polling_of_isGranted hEnabled]
      cases hFresh : (m.slot g).fresh? m.cache.ttl m.now with
      | none => simp [slotAfter, Happening.mark?, hFresh, Slot.polling]
      | some values => simp [slotAfter, Happening.mark?, hFresh, Slot.polling_release]
  | succeed reader g' values =>
      cases hGroup
      rw [length_polling_of_isPolling hEnabled]
      simp [slotAfter, Happening.mark?, Slot.polling_release]
  | fail reader g' =>
      cases hGroup
      rw [length_polling_of_isPolling hEnabled]
      simp [slotAfter, Happening.mark?, Slot.polling_release]
  | leave reader g' =>
      cases hGroup
      rw [length_polling_leave _ reader]
      cases hPolling : (m.slot g).isPolling reader <;>
        simp [slotAfter, Happening.mark?, hPolling]
  | drop reader g' =>
      cases hGroup
      rw [length_polling_of_isGranted hEnabled]
      simp [slotAfter, Happening.mark?, Slot.polling_release]

theorem pollCount_step (hEnabled : m.Enabled event) :
    m.pollCount + marked .polls [⟨m, event⟩] =
      (m.step event).pollCount + ended [⟨m, event⟩] := by
  cases hGroup : event.group? with
  | none =>
      cases event with
      | pass duration => rfl
      | _ => cases hGroup
  | some g =>
      refine inBothGroups_change (length_polling_step hEnabled hGroup) fun other hne => ?_
      rw [step_slot_of_ne]
      rw [hGroup]
      exact fun hSame => hne (Option.some.inj hSame).symm

/-- Of the gets that have begun to poll, those that have not ended are in flight. -/
theorem History.pollCount (hPast : History m past m') :
    m.pollCount + marked .polls past = m'.pollCount + ended past := by
  induction hPast with
  | nil m => rfl
  | cons hEnabled rest ih =>
      have hStep := pollCount_step hEnabled
      simp only [ended, marked_cons, marked_nil] at hStep ih ⊢
      omega

/-! ## Calls of the source -/

omit [DecidableEq κ] in
/-- Each get of a group that polls is one call of the source for that group. -/
theorem polls_pollSource (source : Source) (h : Happening κ) (g : Group) :
    (pollSource source h).polls.get g = source.polls.get g + (h.poller? g).toList.length := by
  obtain ⟨m, event⟩ := h
  cases event with
  | look reader group =>
      by_cases hGroup : group = g
      · subst hGroup
        cases hLook : (m.cache.look group reader m.now).2 <;>
          simp [pollSource, Happening.poller?, hLook, Source.countPoll, PerGroup.modify]
      · have hOther : g ≠ group := fun hSame => hGroup hSame.symm
        cases hLook : (m.cache.look group reader m.now).2 <;>
          simp [pollSource, Happening.poller?, hLook, hGroup, hOther, Source.countPoll,
            PerGroup.modify]
  | _ => rfl

omit [DecidableEq κ] in
theorem polls_foldl_pollSource (source : Source) (past : List (Happening κ)) (g : Group) :
    (past.foldl pollSource source).polls.get g =
      source.polls.get g + (pollers g past).length := by
  induction past generalizing source with
  | nil => rfl
  | cons h past ih =>
      rw [List.foldl_cons, ih, polls_pollSource, pollers_cons, List.length_append]
      omega

/-- A get that polls is a poll of one group. -/
theorem length_poller? (h : Happening κ) :
    (inBothGroups fun g => (h.poller? g).toList.length) =
      if h.mark? = some .polls then 1 else 0 := by
  obtain ⟨m, event⟩ := h
  cases event with
  | look reader g =>
      have hSlot : m.cache.slots.get g = m.slot g := rfl
      cases hFresh : (m.slot g).fresh? m.cache.ttl m.now <;> cases g <;>
        simp [inBothGroups, Happening.mark?, Happening.poller?, look_snd, hSlot, hFresh]
  | leave reader g => cases hPolling : (m.slot g).isPolling reader <;>
      simp [inBothGroups, Happening.mark?, Happening.poller?, hPolling]
  | _ => simp [inBothGroups, Happening.mark?, Happening.poller?]

theorem marked_polls (past : List (Happening κ)) :
    marked .polls past = inBothGroups fun g => (pollers g past).length := by
  induction past with
  | nil => rfl
  | cons h past ih =>
      rw [marked_cons, ih, ← length_poller?]
      simp only [inBothGroups, pollers_cons, List.length_append]
      omega

end Counting

/-! ## The accounts -/

/-- The counters of a cache account for what has happened to it. -/
structure Accounted (past : List (Happening κ)) (m : Moment κ) : Prop where
  /-- Whatever the source was, the polls are the calls of it, those of each group and of both. -/
  calls : ∀ (source : Source) (g : Group), (past.foldl pollSource source).polls.get g =
    source.polls.get g + (pollers g past).length
  polls : m.cache.stats.polls = inBothGroups fun g => (pollers g past).length
  misses : m.cache.stats.misses = m.cache.stats.polls
  /-- Every get that has taken its slot is a hit or a miss. -/
  taken : m.cache.stats.hits + m.cache.stats.misses = past.countP fun h => h.event.takesSlot
  hits : m.cache.stats.hits = marked .served past
  failures : m.cache.stats.pollFailures = marked .failed past
  /-- The polls that have not failed have succeeded, have come to nothing, or are in flight. -/
  others : m.cache.stats.pollFailures ≤ m.cache.stats.polls ∧
    m.cache.stats.polls - m.cache.stats.pollFailures =
      marked .refreshed past +
        (marked .gone past + inBothGroups fun g => (inFlight g past).length)
  /-- Who makes the cache forget a reading asks for the slot and drops what it holds, or goes away
  before: no counter changes. -/
  forgetting : ∀ h ∈ past, ∀ reader g, h.event = .request reader g ∨ h.event = .drop reader g ∨
    h.event = .leave reader g → (h.moment.step h.event).cache.stats = h.moment.cache.stats

/-- At the end of every history of a cache, and so at every moment, its counters account for what
has happened. -/
theorem counters_account_for_gets {ttl pollLimit start : Millis} {past : List (Happening κ)}
    {m : Moment κ} (hPast : History (unused ttl pollLimit start) past m) : Accounted past m := by
  have hStats : m.cache.stats = ⟨marked .served past, marked .polls past, marked .polls past,
      marked .failed past⟩ := by
    rw [hPast.stats_eq]
    simp [unused, Cache.make]
  have hInFlight : m.pollCount = inBothGroups fun g => (inFlight g past).length := by
    have hUnused (g : Group) : ((unused ttl pollLimit start : Moment κ).slot g).polling = [] := by
      rw [slot_unused]
      rfl
    refine congrArg inBothGroups (funext fun g => ?_)
    rw [inFlight, ← hUnused g, hPast.foldl_stillInFlight]
  have hPolls : marked .polls past = m.pollCount + ended past := by
    have hCount := hPast.pollCount
    have hNone : (unused ttl pollLimit start : Moment κ).pollCount = 0 := rfl
    omega
  refine ⟨fun source g => polls_foldl_pollSource source past g, ?_, ?_, ?_, ?_, ?_, ?_, ?_⟩
  · rw [hStats, marked_polls]
  · rw [hStats]
  · rw [hStats, countP_takesSlot]
  · rw [hStats]
  · rw [hStats]
  · unfold ended at hPolls
    rw [hStats, ← hInFlight]
    constructor
    · show marked .failed past ≤ marked .polls past
      omega
    · show marked .polls past - marked .failed past = _
      omega
  · rintro ⟨m, event⟩ - reader g (rfl | rfl | rfl) <;> rfl

/-- Of six gets one finds a reading, one polls it, one fails, one goes away while it polls, one goes
away while it waits, and one is still polling; between them somebody makes the cache forget the
host. -/
def sixGets : List (Event Nat) :=
  [.request 0 .host, .look 0 .host, .request 1 .host, .request 2 .accelerator,
    .look 2 .accelerator, .succeed 0 .host [], .look 1 .host, .fail 2 .accelerator,
    .request 3 .host, .request 4 .host, .request 5 .host, .drop 3 .host, .look 4 .host,
    .leave 5 .host, .leave 4 .host, .request 6 .host, .look 6 .host]

theorem six_gets_accounted_for :
    AllEnabled (unused 10000 5000 0) sixGets ∧
      Accounted (happenings (unused 10000 5000 0) sixGets)
        (sixGets.foldl Moment.step (unused 10000 5000 0)) ∧
      (sixGets.foldl Moment.step (unused 10000 5000 0)).cache.stats = ⟨1, 4, 4, 1⟩ := by
  have hEnabled : AllEnabled (unused 10000 5000 0) sixGets := by decide
  exact ⟨hEnabled, counters_account_for_gets (history_happenings hEnabled), by decide⟩

end SteadyTask.Sensor.Cache
