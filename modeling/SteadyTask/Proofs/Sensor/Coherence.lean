import SteadyTask.Proofs.Sensor.Histories

/-!
# What a get returns

What is stored for a group is the reading of its last successful poll, unless the group was dropped
since; a poll that ends in any other way leaves it alone.  So a get returns the reading that it has
polled itself, or the one of the last successful poll while that is younger than the time to live,
and never one from before a drop.

The groups do not see each other: without everything that was done to the other group, the same
happens to a group, at the same times and with the same results.
-/

namespace SteadyTask.Sensor.Cache

variable {κ : Type} [DecidableEq κ]

/-! ## The last successful poll -/

/-- Of what happened, this is the last successful poll of a group; it gave these values, and the
group was not dropped since. -/
structure LastSuccess (g : Group) (past : List (Happening κ)) (success : Happening κ)
    (values : Metric.Values) : Prop where
  succeeds : ∃ reader, success.event = .succeed reader g values
  last : ∃ earlier since, past = earlier ++ success :: since ∧ ∀ h ∈ since,
    (∀ reader values, h.event ≠ .succeed reader g values) ∧ ∀ reader, h.event ≠ .drop reader g

section LastSuccess

variable {m m' : Moment κ} {h success : Happening κ} {before past : List (Happening κ)} {g : Group}
  {values : Metric.Values}

omit [DecidableEq κ] in
theorem lastSuccess_snoc {reader : κ} (hEvent : h.event = .succeed reader g values) :
    LastSuccess g (before ++ [h]) h values :=
  ⟨⟨reader, hEvent⟩, before, [], rfl, fun _ hNone => (List.not_mem_nil hNone).elim⟩

omit [DecidableEq κ] in
theorem LastSuccess.snoc (hLast : LastSuccess g before success values)
    (hSucceed : ∀ reader values, h.event ≠ .succeed reader g values)
    (hDrop : ∀ reader, h.event ≠ .drop reader g) :
    LastSuccess g (before ++ [h]) success values := by
  obtain ⟨hSuccess, earlier, since, rfl, hSince⟩ := hLast
  refine ⟨hSuccess, earlier, since ++ [h], by simp, ?_⟩
  intro x hx
  rcases List.mem_append.mp hx with hx | hx
  · exact hSince x hx
  · obtain rfl := List.mem_singleton.mp hx
    exact ⟨hSucceed, hDrop⟩

/-- What is stored comes from the last successful poll, and was stored when it ended. -/
theorem History.exists_lastSuccess (hPast : History m past m') (hStart : (m.slot g).entry = none)
    {e : Entry} (hEntry : (m'.slot g).entry = some e) :
    ∃ success, LastSuccess g past success e.values ∧ success.moment.now = e.storedAt := by
  -- along the history from its end: the last event has stored the entry or left it alone
  induction past using List.reverseRecOn generalizing m' with
  | nil =>
      obtain rfl := history_nil_iff.mp hPast
      cases hStart.symm.trans hEntry
  | append_singleton before h ih =>
      obtain ⟨hBefore, -, hEnd⟩ := hPast.cut
      obtain rfl := history_nil_iff.mp hEnd
      rcases entry_step_cases h.event g with ⟨reader, values, hEvent, hNew⟩ | ⟨reader, -, hNone⟩ |
        ⟨hSucceed, hDrop, hSame⟩
      · obtain rfl := Option.some.inj (hNew.symm.trans hEntry)
        exact ⟨h, lastSuccess_snoc hEvent, rfl⟩
      · cases hNone.symm.trans hEntry
      · obtain ⟨success, hLast, hStored⟩ := ih hBefore (hSame.symm.trans hEntry)
        exact ⟨success, hLast.snoc hSucceed hDrop, hStored⟩

/-- What neither stores nor drops a reading leaves it as it is. -/
theorem entry_step_eq {event : Event κ}
    (hSucceed : ∀ reader values, event ≠ .succeed reader g values)
    (hDrop : ∀ reader, event ≠ .drop reader g) :
    ((m.step event).slot g).entry = (m.slot g).entry := by
  rcases entry_step_cases event g with ⟨reader, values, hEvent, -⟩ | ⟨reader, hEvent, -⟩ |
    ⟨-, -, hSame⟩
  · exact absurd hEvent (hSucceed reader values)
  · exact absurd hEvent (hDrop reader)
  · exact hSame

end LastSuccess

/-! ## The other group -/

/-- An event is about a group, or about none. -/
def Event.Concerns (g : Group) (event : Event κ) : Prop :=
  event.group? = none ∨ event.group? = some g

instance (g : Group) (event : Event κ) : Decidable (event.Concerns g) :=
  inferInstanceAs (Decidable (_ ∨ _))

/-- What happened without everything that was done to the other group. -/
def onlyAbout (g : Group) (past : List (Happening κ)) : List (Happening κ) :=
  past.filter fun h => h.event.Concerns g

/-- Two moments look the same to the readers of a group. -/
structure Moment.Alike (g : Group) (m n : Moment κ) : Prop where
  now : m.now = n.now
  ttl : m.cache.ttl = n.cache.ttl
  slot : m.slot g = n.slot g

/-- The same happened to a group, with the same results. -/
structure Happening.Alike (g : Group) (h k : Happening κ) : Prop where
  event : h.event = k.event
  moment : h.moment.Alike g k.moment
  poller : h.poller? g = k.poller? g
  reading : h.reading? g = k.reading? g

section Groups

variable {m n m' : Moment κ} {event : Event κ} {past : List (Happening κ)} {g : Group}

omit [DecidableEq κ] in
theorem alike_poller? (h : m.Alike g n) :
    (Happening.mk m event).poller? g = (Happening.mk n event).poller? g := by
  ext reader
  simp only [poller?_eq_some_iff, h.slot, h.ttl, h.now]

omit [DecidableEq κ] in
theorem alike_reading? (h : m.Alike g n) :
    (Happening.mk m event).reading? g = (Happening.mk n event).reading? g := by
  ext values
  simp only [reading?_eq_some_iff, h.slot, h.ttl, h.now]

theorem enabled_of_alike (h : m.Alike g n) (hConcerns : event.Concerns g)
    (hEnabled : m.Enabled event) : n.Enabled event := by
  have hSlot : m.cache.slots.get g = n.cache.slots.get g := h.slot
  rcases hConcerns with hNone | hSome
  · cases event with
    | pass duration => trivial
    | _ => cases hNone
  · cases event <;> cases hSome <;> simp only [Moment.Enabled, hSlot] at hEnabled ⊢ <;>
      exact hEnabled

theorem alike_step (h : m.Alike g n) : (m.step event).Alike g (n.step event) := by
  refine ⟨?_, ?_, ?_⟩
  · cases event with
    | pass duration => exact congrArg (· + duration) h.now
    | _ => exact h.now
  · rw [step_ttl, step_ttl]
    exact h.ttl
  · by_cases hGroup : event.group? = some g
    · rw [step_slot hGroup, step_slot hGroup, h.slot, h.ttl, h.now]
    · rw [step_slot_of_ne hGroup, step_slot_of_ne hGroup]
      exact h.slot

/-- What is done to the other group cannot be seen. -/
theorem alike_step_of_not_concerns (h : m.Alike g n) (hOther : ¬ event.Concerns g) :
    (m.step event).Alike g n := by
  have hGroup : event.group? ≠ some g := fun hGroup => hOther (.inr hGroup)
  refine ⟨?_, step_ttl.trans h.ttl, (step_slot_of_ne hGroup).trans h.slot⟩
  cases event with
  | pass duration => exact absurd (.inl rfl) hOther
  | _ => exact h.now

/-- Without what was done to the other group, the same happens to a group. -/
theorem History.alone (hPast : History m past m') (h : m.Alike g n) :
    ∃ alone n', History n alone n' ∧ List.Forall₂ (Happening.Alike g) (onlyAbout g past) alone ∧
      m'.Alike g n' := by
  induction hPast generalizing n with
  | nil m => exact ⟨[], n, .nil n, .nil, h⟩
  | @cons m m' event past hEnabled rest ih =>
      by_cases hConcerns : event.Concerns g
      · obtain ⟨alone, n', hAlone, hAlike, hEnd⟩ := ih (alike_step h)
        refine ⟨⟨n, event⟩ :: alone, n', .cons (enabled_of_alike h hConcerns hEnabled) hAlone, ?_,
          hEnd⟩
        rw [onlyAbout, List.filter_cons_of_pos (by simpa using hConcerns)]
        exact .cons ⟨rfl, h, alike_poller? h, alike_reading? h⟩ hAlike
      · obtain ⟨alone, n', hAlone, hAlike, hEnd⟩ := ih (alike_step_of_not_concerns h hConcerns)
        refine ⟨alone, n', hAlone, ?_, hEnd⟩
        rw [onlyAbout, List.filter_cons_of_neg (by simpa using hConcerns)]
        exact hAlike

omit [DecidableEq κ] in
/-- What is done to the other group begins no poll of a group. -/
theorem pollers_onlyAbout : pollers g (onlyAbout g past) = pollers g past := by
  induction past with
  | nil => rfl
  | cons h past ih =>
      by_cases hConcerns : h.event.Concerns g
      · rw [onlyAbout, List.filter_cons_of_pos (by simpa using hConcerns), pollers_cons,
          pollers_cons]
        exact congrArg _ ih
      · have hNone : h.poller? g = none := by
          refine poller?_eq_none ?_
          intro reader hLook
          exact hConcerns (.inr (congrArg Event.group? hLook))
        rw [onlyAbout, List.filter_cons_of_neg (by simpa using hConcerns), pollers_cons, hNone]
        exact ih

omit [DecidableEq κ] in
theorem pollers_eq_of_alike {these those : List (Happening κ)}
    (h : List.Forall₂ (Happening.Alike g) these those) : pollers g these = pollers g those := by
  induction h with
  | nil => rfl
  | cons hAlike _ ih => rw [pollers_cons, pollers_cons, hAlike.poller, ih]

end Groups

/-! ## Coherence -/

/-- Gets of a group return what its polls gave, as far as it is fresh and was not dropped. -/
structure Coherent (ttl pollLimit start : Millis) (g : Group) (past : List (Happening κ))
    (m : Moment κ) : Prop where
  /-- A get returns what it has just polled itself, or what the last successful poll gave, which was
  not dropped since and is younger than the time to live. -/
  served : ∀ (before : List (Happening κ)) h (after : List (Happening κ)) values,
    past = before ++ h :: after → h.reading? g = some values →
    (∃ reader, h.event = .succeed reader g values) ∨
      ∃ success, LastSuccess g before success values ∧
        h.moment.now < success.moment.now + ttl
  /-- A poll that does not succeed leaves what is stored as it was when the poll began. -/
  spared : ∀ (before : List (Happening κ)) poll (during : List (Happening κ)) ending
    (after : List (Happening κ)) reader,
    past = before ++ poll :: (during ++ ending :: after) → poll.poller? g = some reader →
    (∀ h ∈ during, ¬ h.event.EndsPoll reader g) →
    ending.event = .fail reader g ∨ ending.event = .leave reader g →
    ((ending.moment.step ending.event).slot g).entry = (poll.moment.slot g).entry
  /-- A reading that has reached the time to live is never found again: as long as no later poll
  succeeds, whoever looks has to poll. -/
  expires : ∀ (before : List (Happening κ)) success (since : List (Happening κ)) h
    (after : List (Happening κ)) reader other values,
    past = before ++ success :: (since ++ h :: after) →
    success.event = .succeed reader g values →
    (∀ x ∈ since, ∀ reader values, x.event ≠ .succeed reader g values) →
    success.moment.now + ttl ≤ h.moment.now → h.event = .look other g →
    h.poller? g = some other
  /-- Without everything that was done to the other group the same happens to this one, at the same
  times and with the same results, and as many polls begin. -/
  apart : ∃ alone m', History (unused ttl pollLimit start) alone m' ∧
    List.Forall₂ (Happening.Alike g) (onlyAbout g past) alone ∧
    pollers g alone = pollers g past ∧ m.slot g = m'.slot g

section Coherent

variable {m m' : Moment κ} {h : Happening κ} {before after past : List (Happening κ)} {g : Group}

/-- A get that finds a reading finds that of the last successful poll. -/
theorem History.served (hPast : History m (before ++ h :: after) m')
    (hStart : (m.slot g).entry = none) (hInTime : m.StoredInTime) {values : Metric.Values}
    (hReading : h.reading? g = some values) :
    (∃ reader, h.event = .succeed reader g values) ∨
      ∃ success, LastSuccess g before success values ∧
        h.moment.now < success.moment.now + m.cache.ttl := by
  obtain ⟨hBefore, -, -⟩ := hPast.cut
  rcases reading?_eq_some_iff.mp hReading with ⟨reader, -, hFresh⟩ | hOwn
  · obtain ⟨e, hEntry, hYoung, rfl⟩ := Slot.fresh?_eq_some_iff.mp hFresh
    obtain ⟨success, hLast, hStored⟩ := hBefore.exists_lastSuccess hStart hEntry
    refine .inr ⟨success, hLast, ?_⟩
    rw [hStored, ← hBefore.ttl_eq]
    exact (Nat.sub_lt_iff_lt_add' (hBefore.storedInTime hInTime g e hEntry)).mp hYoung
  · exact .inl hOwn

/-- Without a later success what is stored is no younger than the last one. -/
theorem History.storedAt_le {time : Millis} (hPast : History m past m')
    (hSucceed : ∀ h ∈ past, ∀ reader values, h.event ≠ .succeed reader g values)
    (hStart : ∀ e, (m.slot g).entry = some e → e.storedAt ≤ time) :
    ∀ e, (m'.slot g).entry = some e → e.storedAt ≤ time := by
  refine hPast.preserves (P := fun m => ∀ e, (m.slot g).entry = some e → e.storedAt ≤ time)
    (C := fun h => ∀ reader values, h.event ≠ .succeed reader g values) hSucceed ?_ hStart
  intro m event _ hEvent hBefore e hEntry
  rcases entry_step_cases event g with ⟨reader, values, hSuccess, -⟩ | ⟨reader, -, hNone⟩ |
    ⟨-, -, hSame⟩
  · exact absurd hSuccess (hEvent reader values)
  · cases hNone.symm.trans hEntry
  · exact hBefore e (hSame.symm.trans hEntry)

/-- Whoever looks at a reading that has expired polls. -/
theorem History.expires {success : Happening κ} {since : List (Happening κ)}
    (hPast : History success.moment (success :: (since ++ h :: after)) m')
    {reader other : κ} {values : Metric.Values}
    (hSuccess : success.event = .succeed reader g values)
    (hLast : ∀ x ∈ since, ∀ reader values, x.event ≠ .succeed reader g values)
    (hOld : success.moment.now + success.moment.cache.ttl ≤ h.moment.now)
    (hLook : h.event = .look other g) : h.poller? g = some other := by
  obtain ⟨-, -, hRest⟩ := history_cons_iff.mp hPast
  obtain ⟨hSince, -, -⟩ := hRest.cut
  refine poller?_eq_some_iff.mpr ⟨hLook, Slot.fresh?_eq_none_iff.mpr ?_⟩
  intro e hEntry
  have hStored : e.storedAt ≤ success.moment.now := by
    refine hSince.storedAt_le hLast ?_ e hEntry
    intro e' hEntry'
    obtain rfl := Option.some.inj ((entry_of_succeed hSuccess).symm.trans hEntry')
    exact Nat.le_refl _
  rw [hSince.ttl_eq, step_ttl]
  refine Nat.le_sub_of_add_le (Nat.le_trans ?_ hOld)
  rw [Nat.add_comm]
  exact Nat.add_le_add_right hStored _

/-- A poll that does not succeed changes nothing that is stored. -/
theorem History.spared {poll ending : Happening κ} {during : List (Happening κ)} {reader : κ}
    (hPast : History poll.moment (poll :: (during ++ ending :: after)) m')
    (hPoller : poll.poller? g = some reader)
    (hGoesOn : ∀ h ∈ during, ¬ h.event.EndsPoll reader g)
    (hEnding : ending.event = .fail reader g ∨ ending.event = .leave reader g) :
    ((ending.moment.step ending.event).slot g).entry = (poll.moment.slot g).entry := by
  obtain ⟨-, -, hRest⟩ := history_cons_iff.mp hPast
  obtain ⟨hDuring, -, -⟩ := hRest.cut
  obtain ⟨hLook, -⟩ := poller?_eq_some_iff.mp hPoller
  have hBegin : ((poll.moment.step poll.event).slot g).entry = (poll.moment.slot g).entry := by
    rw [hLook]
    exact entry_step_eq nofun nofun
  have hEnd : ((ending.moment.step ending.event).slot g).entry = (ending.moment.slot g).entry := by
    rcases hEnding with hFail | hLeave
    · rw [hFail]
      exact entry_step_eq nofun nofun
    · rw [hLeave]
      exact entry_step_eq nofun nofun
  rw [hEnd, (hDuring.polling hGoesOn (owner_of_poller? hPoller)).2.1, hBegin]

end Coherent

/-- In every history of a cache, gets of each group are coherent. -/
theorem gets_are_coherent {ttl pollLimit start : Millis} {past : List (Happening κ)}
    {m : Moment κ} (hPast : History (unused ttl pollLimit start) past m) (g : Group) :
    Coherent ttl pollLimit start g past m := by
  have hInTime : (unused ttl pollLimit start : Moment κ).StoredInTime := storedInTime_unused
  refine ⟨?_, ?_, ?_, ?_⟩
  · rintro before h after values rfl hReading
    refine hPast.served ?_ hInTime hReading
    rw [slot_unused]
    rfl
  · rintro before poll during ending after reader rfl hPoller hGoesOn hEnding
    obtain ⟨-, hEnabled, hRest⟩ := hPast.cut
    exact History.spared (history_cons_iff.mpr ⟨rfl, hEnabled, hRest⟩) hPoller hGoesOn hEnding
  · rintro before success since h after reader other values rfl hSuccess hLast hOld hLook
    obtain ⟨hBefore, hEnabled, hRest⟩ := hPast.cut
    refine History.expires (history_cons_iff.mpr ⟨rfl, hEnabled, hRest⟩) hSuccess hLast ?_ hLook
    rw [hBefore.ttl_eq]
    exact hOld
  · obtain ⟨alone, m', hAlone, hAlike, hEnd⟩ := hPast.alone (g := g) ⟨rfl, rfl, rfl⟩
    refine ⟨alone, m', hAlone, hAlike, ?_, hEnd.slot⟩
    rw [← pollers_eq_of_alike hAlike, pollers_onlyAbout]

/-- A get polls the host, another one finds its reading, the accelerator does not answer, and the
host is dropped. -/
def hostAndAccelerator : List (Event Nat) :=
  [.request 0 .host, .look 0 .host, .request 1 .accelerator, .look 1 .accelerator, .pass 300,
    .succeed 0 .host [], .fail 1 .accelerator, .request 2 .host, .look 2 .host, .request 3 .host,
    .drop 3 .host]

theorem host_is_coherent_beside_accelerator :
    AllEnabled (unused 10000 5000 0) hostAndAccelerator ∧
      Coherent 10000 5000 0 .host (happenings (unused 10000 5000 0) hostAndAccelerator)
        (hostAndAccelerator.foldl Moment.step (unused 10000 5000 0)) ∧
      pollers .host (happenings (unused 10000 5000 0) hostAndAccelerator) = [0] := by
  have hEnabled : AllEnabled (unused 10000 5000 0) hostAndAccelerator := by decide
  exact ⟨hEnabled, gets_are_coherent (history_happenings hEnabled) .host, by decide⟩

end SteadyTask.Sensor.Cache
