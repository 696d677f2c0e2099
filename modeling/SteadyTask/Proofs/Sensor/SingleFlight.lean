import SteadyTask.Proofs.Sensor.Histories

/-!
# One poll at a time

Whose polls are in flight is read off a history: those that began and have not ended.  The lock of
a slot makes that at most one for each group, in every history.  A poll begins only where nothing is
stored or what is stored has reached the time to live; so after a successful poll, and as long as
nothing is dropped, the next one begins no earlier than one time to live after it.

A get that waits while another one polls finds the new reading when its turn comes, unless its turn
comes so late that the reading has expired already; then it polls again (`late_turn_polls_again`).
So a successful poll stays the only one exactly if each turn comes in time.  Where time stands still
while somebody who could go on has not gone on yet, every turn comes at once.
-/

namespace SteadyTask.Sensor

namespace Slot

variable {κ : Type} {s : Slot κ} {reader : κ}

/-- Who polls: the owner, if he has looked. -/
def polling (s : Slot κ) : List κ :=
  match s.owner with
  | some (reader, .polling) => [reader]
  | _ => []

theorem length_polling_le_one : s.polling.length ≤ 1 := by
  unfold polling
  split <;> simp

theorem polling_release : s.release.polling = [] := by
  unfold release
  split <;> rfl

theorem polling_request : (s.request reader).polling = s.polling := by
  unfold request polling
  cases s.owner <;> rfl

theorem polling_of_owner {t : Tenure} (h : s.owner = some (reader, t)) :
    s.polling = if t = .polling then [reader] else [] := by
  unfold polling
  rw [h]
  cases t <;> rfl

/-- The first in line gets the slot, so whoever waited has it now or still waits. -/
theorem release_of_mem_waiting (h : reader ∈ s.waiting) :
    ∃ next, s.release.owner = some (next, .granted) ∧
      (next = reader ∨ reader ∈ s.release.waiting) := by
  unfold release
  cases hWaiting : s.waiting with
  | nil =>
      rw [hWaiting] at h
      cases h
  | cons next rest =>
      rw [hWaiting] at h
      rcases List.mem_cons.mp h with rfl | hRest
      · exact ⟨reader, rfl, .inl rfl⟩
      · exact ⟨next, rfl, .inr hRest⟩

theorem polling_leave [DecidableEq κ] : (s.leave reader).polling = s.polling.erase reader := by
  unfold leave
  cases hOwner : s.owner with
  | none => simp [polling, hOwner]
  | some owner =>
      obtain ⟨owner, t⟩ := owner
      by_cases hReader : owner = reader
      · subst hReader
        rw [polling_of_owner hOwner]
        cases t <;> simp [polling_release]
      · cases t <;> simp [polling, hOwner, hReader]

end Slot

namespace Cache

variable {κ : Type} [DecidableEq κ]

/-! ## Polls in flight -/

/-- Whose polls of a group are in flight after something more has happened. -/
def stillInFlight (g : Group) (polling : List κ) (h : Happening κ) : List κ :=
  match h.event with
  | .succeed reader group _ => if group = g then polling.erase reader else polling
  | .fail reader group => if group = g then polling.erase reader else polling
  | .leave reader group => if group = g then polling.erase reader else polling
  | _ => polling ++ (h.poller? g).toList

/-- Whose polls of a group are in flight: those that began and have not ended. -/
def inFlight (g : Group) (past : List (Happening κ)) : List κ :=
  past.foldl (stillInFlight g) []

section InFlight

variable {m m' : Moment κ} {past : List (Happening κ)} {g : Group}

/-- The owner of a slot who has looked is the one whose poll is in flight. -/
theorem stillInFlight_polling {event : Event κ} (hEnabled : m.Enabled event) :
    stillInFlight g (m.slot g).polling ⟨m, event⟩ = ((m.step event).slot g).polling := by
  by_cases hGroup : event.group? = some g
  · rw [step_slot hGroup]
    cases event with
    | pass duration => cases hGroup
    | request reader g' =>
        show _ ++ [] = (Slot.request _ _).polling
        rw [List.append_nil, Slot.polling_request]
    | look reader g' =>
        cases hGroup
        have hGranted : (m.slot g).polling = [] :=
          Slot.polling_of_owner (Slot.isGranted_iff.mp hEnabled)
        simp only [stillInFlight, slotAfter, hGranted, List.nil_append]
        cases hFresh : (m.slot g).fresh? m.cache.ttl m.now with
        | none =>
            rw [poller?_eq_some_iff.mpr ⟨rfl, hFresh⟩]
            rfl
        | some values =>
            have hNone : (Happening.mk m (.look reader g)).poller? g = none := by
              simp [Happening.poller?, look_snd, hFresh]
            rw [hNone]
            exact Slot.polling_release.symm
    | succeed reader g' values =>
        cases hGroup
        have hPolling : (m.slot g).polling = [reader] :=
          Slot.polling_of_owner (Slot.isPolling_iff.mp hEnabled)
        simp [stillInFlight, slotAfter, hPolling, Slot.polling_release]
    | fail reader g' =>
        cases hGroup
        have hPolling : (m.slot g).polling = [reader] :=
          Slot.polling_of_owner (Slot.isPolling_iff.mp hEnabled)
        simp [stillInFlight, slotAfter, hPolling, Slot.polling_release]
    | leave reader g' =>
        cases hGroup
        simp only [stillInFlight, slotAfter, if_true]
        exact Slot.polling_leave.symm
    | drop reader g' =>
        cases hGroup
        have hGranted : (m.slot g).polling = [] :=
          Slot.polling_of_owner (Slot.isGranted_iff.mp hEnabled)
        rw [hGranted]
        exact Slot.polling_release.symm
  · rw [step_slot_of_ne hGroup]
    have hNone : (Happening.mk m event).poller? g = none := by
      refine poller?_eq_none ?_
      rintro reader rfl
      exact hGroup rfl
    have hOther (group : Group) (hEvent : event.group? = some group) : group ≠ g := by
      rintro rfl
      exact hGroup hEvent
    cases event with
    | succeed reader g' values => simp [stillInFlight, hOther g' rfl]
    | fail reader g' => simp [stillInFlight, hOther g' rfl]
    | leave reader g' => simp [stillInFlight, hOther g' rfl]
    | _ => simp [stillInFlight, hNone]

theorem History.foldl_stillInFlight (hPast : History m past m') :
    past.foldl (stillInFlight g) (m.slot g).polling = (m'.slot g).polling := by
  induction hPast with
  | nil m => rfl
  | cons hEnabled rest ih =>
      rw [List.foldl_cons, stillInFlight_polling hEnabled]
      exact ih

/-- Of a cache that was not used before, at most one poll of a group is in flight. -/
theorem length_inFlight_le_one {ttl pollLimit start : Millis}
    (hPast : History (unused ttl pollLimit start) past m) : (inFlight g past).length ≤ 1 := by
  have hUnused : ((unused ttl pollLimit start : Moment κ).slot g).polling = [] := by
    rw [slot_unused]
    rfl
  rw [inFlight, ← hUnused, hPast.foldl_stillInFlight]
  exact Slot.length_polling_le_one

end InFlight

/-! ## The distance between polls -/

section Distance

variable {m m' : Moment κ} {h : Happening κ} {past before after : List (Happening κ)} {g : Group}
  {time : Millis}

/-- What is stored for a group was stored at a time or later. -/
def Moment.StoredSince (m : Moment κ) (g : Group) (time : Millis) : Prop :=
  time ≤ m.now ∧ ∃ e, (m.slot g).entry = some e ∧ time ≤ e.storedAt

theorem storedSince_step {event : Event κ} (hKept : ∀ reader, event ≠ .drop reader g)
    (h : m.StoredSince g time) : (m.step event).StoredSince g time := by
  obtain ⟨hNow, e, hEntry, hStored⟩ := h
  refine ⟨Nat.le_trans hNow le_step_now, ?_⟩
  rcases entry_step_cases event g with ⟨reader, values, -, hNew⟩ | ⟨reader, hDrop, -⟩ |
    ⟨-, -, hSame⟩
  · exact ⟨_, hNew, hNow⟩
  · exact absurd hDrop (hKept reader)
  · exact ⟨e, hSame.trans hEntry, hStored⟩

theorem History.storedSince (hPast : History m past m')
    (hKept : ∀ h ∈ past, ∀ reader, h.event ≠ .drop reader g) (h : m.StoredSince g time) :
    m'.StoredSince g time :=
  hPast.preserves (P := fun m => m.StoredSince g time)
    (C := fun h => ∀ reader, h.event ≠ .drop reader g) hKept
    (fun _ _ _ hEvent hBefore => storedSince_step hEvent hBefore) h

theorem storedSince_of_succeed {reader : κ} {values : Metric.Values}
    (hEvent : h.event = .succeed reader g values) :
    (h.moment.step h.event).StoredSince g h.moment.now :=
  ⟨le_step_now, _, entry_of_succeed hEvent, Nat.le_refl _⟩

omit [DecidableEq κ] in
/-- A poll begins only where nothing is stored, or what is stored has reached the time to live. -/
theorem expired_of_poller? {reader : κ} (hInTime : h.moment.StoredInTime)
    (hPoller : h.poller? g = some reader) {e : Entry} (he : (h.moment.slot g).entry = some e) :
    e.storedAt + h.moment.cache.ttl ≤ h.moment.now := by
  have hAge := Slot.fresh?_eq_none_iff.mp (poller?_eq_some_iff.mp hPoller).2 e he
  exact Nat.add_le_of_le_sub' (hInTime g e he) hAge

/-- While nothing is dropped, a poll begins no earlier than one time to live after the last reading
was stored. -/
theorem History.le_now_of_poller? (hPast : History m (before ++ h :: after) m')
    (hInTime : m.StoredInTime) (hSince : m.StoredSince g time)
    (hKept : ∀ h ∈ before, ∀ reader, h.event ≠ .drop reader g) {reader : κ}
    (hPoller : h.poller? g = some reader) : time + m.cache.ttl ≤ h.moment.now := by
  obtain ⟨hBefore, -, -⟩ := hPast.cut
  obtain ⟨-, e, hEntry, hStored⟩ := hBefore.storedSince hKept hSince
  have hExpired := expired_of_poller? (hBefore.storedInTime hInTime) hPoller hEntry
  rw [hBefore.ttl_eq] at hExpired
  exact Nat.le_trans (Nat.add_le_add_right hStored _) hExpired

/-- While nobody polls and nothing is dropped, a reading stays as it is. -/
theorem History.entry_of_pollers_eq_nil (hPast : History m past m') {e : Entry}
    (hEntry : (m.slot g).entry = some e) (hIdle : (m.slot g).polling = [])
    (hKept : ∀ h ∈ past, ∀ reader, h.event ≠ .drop reader g) (hNone : pollers g past = []) :
    (m'.slot g).entry = some e := by
  refine (hPast.preserves
    (P := fun m => (m.slot g).entry = some e ∧ (m.slot g).polling = [])
    (C := fun h => h.poller? g = none ∧ ∀ reader, h.event ≠ .drop reader g)
    (fun h hh => ⟨List.filterMap_eq_nil_iff.mp hNone h hh, hKept h hh⟩) ?_ ⟨hEntry, hIdle⟩).1
  rintro m event hEnabled ⟨hNobody, hNoDrop⟩ ⟨hEntry, hIdle⟩
  have hStill := stillInFlight_polling (g := g) hEnabled
  rw [hIdle] at hStill
  refine ⟨?_, ?_⟩
  · rcases entry_step_cases event g with ⟨reader, values, rfl, -⟩ | ⟨reader, hDrop, -⟩ |
      ⟨-, -, hSame⟩
    · -- only a reader who polls can succeed
      rw [Slot.polling_of_owner (Slot.isPolling_iff.mp hEnabled), if_pos rfl] at hIdle
      cases hIdle
    · exact absurd hDrop (hNoDrop reader)
    · exact hSame.trans hEntry
  · rw [← hStill, stillInFlight]
    split
    all_goals simp [hNobody]

/-- From a reading on, and while nothing is dropped, nobody polls exactly if everyone looks before
the reading expires. -/
theorem History.pollers_eq_nil_iff (hPast : History m past m') (hInTime : m.StoredInTime)
    {values : Metric.Values} (hEntry : (m.slot g).entry = some ⟨values, m.now⟩)
    (hIdle : (m.slot g).polling = []) (hKept : ∀ h ∈ past, ∀ reader, h.event ≠ .drop reader g) :
    pollers g past = [] ↔ ∀ h ∈ past, ∀ reader, h.event = .look reader g →
      h.moment.now < m.now + m.cache.ttl := by
  constructor
  · intro hNone h hh reader hLook
    obtain ⟨before, after, rfl⟩ := List.append_of_mem hh
    rw [pollers_append, List.append_eq_nil_iff] at hNone
    obtain ⟨hBefore, -, -⟩ := hPast.cut
    have hStays := hBefore.entry_of_pollers_eq_nil hEntry hIdle
      (fun h' hh' => hKept h' (List.mem_append_left _ hh')) hNone.1
    by_contra hLate
    have hPoller : h.poller? g = some reader := by
      refine poller?_eq_some_iff.mpr ⟨hLook, Slot.fresh?_eq_none_iff.mpr fun e he => ?_⟩
      obtain rfl := Option.some.inj (hStays.symm.trans he)
      rw [hBefore.ttl_eq]
      exact Nat.le_sub_of_add_le' (Nat.le_of_not_lt hLate)
    rw [pollers_cons, hPoller] at hNone
    cases hNone.2
  · intro hInTurn
    rw [pollers, List.filterMap_eq_nil_iff]
    intro h hh
    rw [Option.eq_none_iff_forall_ne_some]
    intro reader hPoller
    obtain ⟨before, after, rfl⟩ := List.append_of_mem hh
    have hLate := hPast.le_now_of_poller? hInTime ⟨Nat.le_refl _, _, hEntry, Nat.le_refl _⟩
      (fun h' hh' => hKept h' (List.mem_append_left _ hh')) hPoller
    exact Nat.not_le.mpr (hInTurn h hh reader (poller?_eq_some_iff.mp hPoller).1) hLate

end Distance

/-! ## Waiting for a poll -/

/-- While somebody who was given a slot has not gone on yet, time stands still. -/
def Happening.Prompt (h : Happening κ) : Prop :=
  ∀ duration, h.event = .pass duration → 0 < duration →
    ∀ g reader, (h.moment.slot g).isGranted reader = false

/-- A reading was just stored, and a reader's turn to look at it comes before time goes on. -/
structure Moment.InTurn (m : Moment κ) (g : Group) (reader : κ) (time : Millis) : Prop where
  now : m.now = time
  stored : ∃ e, (m.slot g).entry = some e ∧ e.storedAt = time
  inLine : ∃ owner, (m.slot g).owner = some (owner, .granted) ∧
    (owner = reader ∨ reader ∈ (m.slot g).waiting)

/-- The get of a reader goes on waiting: it does not have its turn, and nobody drops the reading. -/
def Event.LeavesWaiting (reader : κ) (g : Group) : Event κ → Prop
  | .look r group => ¬ (r = reader ∧ group = g)
  | .leave r group => ¬ (r = reader ∧ group = g)
  | .drop _ group => group ≠ g
  | _ => True

section Waiting

variable {m m' : Moment κ} {h : Happening κ} {past : List (Happening κ)} {g : Group} {reader : κ}
  {time : Millis}

omit [DecidableEq κ] in
/-- The one before has gone on or has gone away. -/
theorem inTurn_release (hNow : m.now = time) {slot : Slot κ}
    (hStored : ∃ e, slot.entry = some e ∧ e.storedAt = time) (hWaiting : reader ∈ slot.waiting)
    (hSlot : m.slot g = slot.release) : m.InTurn g reader time := by
  refine ⟨hNow, ?_, ?_⟩
  · rw [hSlot, Slot.entry_release]
    exact hStored
  · rw [hSlot]
    exact Slot.release_of_mem_waiting hWaiting

theorem inTurn_step {event : Event κ} (hTtl : 0 < m.cache.ttl) (hEnabled : m.Enabled event)
    (hPrompt : (Happening.mk m event).Prompt) (hWaits : event.LeavesWaiting reader g)
    (h : m.InTurn g reader time) : (m.step event).InTurn g reader time := by
  obtain ⟨hNow, ⟨e, hEntry, hStored⟩, owner, hOwner, hInLine⟩ := h
  have hGranted : (m.slot g).isGranted owner = true := Slot.isGranted_iff.mpr hOwner
  have hNotPolling (r : κ) : (m.slot g).isPolling r = false := by
    simp [Slot.isPolling, hOwner]
  by_cases hGroup : event.group? = some g
  · have hSlot := step_slot (m := m) hGroup
    cases event with
    | pass duration => cases hGroup
    | request r g' =>
        have hOwner' : ((m.slot g).request r).owner = some (owner, .granted) :=
          Slot.owner_request_of_some hOwner
        have hLine : ((m.slot g).request r).waiting = (m.slot g).waiting ++ [r] := by
          simp [Slot.request, hOwner]
        refine ⟨hNow, ⟨e, ?_, hStored⟩, owner, ?_, hInLine.imp_right ?_⟩
        · rw [hSlot]
          exact Slot.entry_request.trans hEntry
        · rw [hSlot]
          exact hOwner'
        · intro hMem
          rw [hSlot]
          show reader ∈ ((m.slot g).request r).waiting
          rw [hLine]
          exact List.mem_append_left _ hMem
    | look r g' =>
        cases hGroup
        -- the owner looks; the reading was stored at this very time, so it is fresh
        have hLooks : owner = r := by
          have hSame := hOwner.symm.trans (Slot.isGranted_iff.mp hEnabled)
          simpa using hSame
        have hMem : reader ∈ (m.slot g).waiting := by
          refine hInLine.resolve_left fun hReader => hWaits ⟨?_, rfl⟩
          rw [← hLooks, hReader]
        have hAge : m.now - e.storedAt < m.cache.ttl := by
          rw [hNow, hStored, Nat.sub_self]
          exact hTtl
        have hFresh : (m.slot g).fresh? m.cache.ttl m.now = some e.values :=
          Slot.fresh?_eq_some_iff.mpr ⟨e, hEntry, hAge, rfl⟩
        refine inTurn_release hNow ⟨e, hEntry, hStored⟩ hMem ?_
        rw [hSlot, slotAfter, hFresh]
    | succeed r g' values =>
        cases hGroup
        exact absurd hEnabled (by simp [Moment.Enabled, hNotPolling])
    | fail r g' =>
        cases hGroup
        exact absurd hEnabled (by simp [Moment.Enabled, hNotPolling])
    | leave r g' =>
        cases hGroup
        have hOther : r ≠ reader := fun hr => hWaits ⟨hr, rfl⟩
        by_cases hLeaves : owner = r
        · have hMem : reader ∈ (m.slot g).waiting :=
            hInLine.resolve_left fun hReader => hOther (hLeaves.symm.trans hReader)
          refine inTurn_release hNow ⟨e, hEntry, hStored⟩ hMem ?_
          rw [hSlot]
          simp [slotAfter, Slot.leave, hOwner, hLeaves]
        · have hLine : ((m.slot g).leave r).waiting = (m.slot g).waiting.filter (· ≠ r) := by
            simp [Slot.leave, hOwner, hLeaves]
          refine ⟨hNow, ⟨e, ?_, hStored⟩, owner, ?_, hInLine.imp_right ?_⟩
          · rw [hSlot]
            exact Slot.entry_leave.trans hEntry
          · rw [hSlot]
            exact Slot.owner_leave_of_ne hOwner hLeaves
          · intro hMem
            rw [hSlot]
            show reader ∈ ((m.slot g).leave r).waiting
            rw [hLine]
            exact List.mem_filter.mpr ⟨hMem, by simpa using hOther.symm⟩
    | drop r g' =>
        cases hGroup
        exact absurd rfl hWaits
  · have hSlot := step_slot_of_ne (m := m) hGroup
    refine ⟨?_, ⟨e, hSlot ▸ hEntry, hStored⟩, owner, hSlot ▸ hOwner, hSlot ▸ hInLine⟩
    cases event with
    | pass duration =>
        -- the owner has not looked yet
        rcases Nat.eq_zero_or_pos duration with rfl | hPos
        · exact hNow
        · exact absurd (hPrompt duration rfl hPos g owner) (by simp [hGranted])
    | _ => exact hNow

theorem History.inTurn (hPast : History m past m') (hTtl : 0 < m.cache.ttl)
    (hPrompt : ∀ h ∈ past, h.Prompt) (hWaits : ∀ h ∈ past, h.event.LeavesWaiting reader g)
    (h : m.InTurn g reader time) : m'.InTurn g reader time := by
  refine (hPast.preserves (P := fun m => 0 < m.cache.ttl ∧ m.InTurn g reader time)
    (C := fun h => h.Prompt ∧ h.event.LeavesWaiting reader g)
    (fun h hh => ⟨hPrompt h hh, hWaits h hh⟩) ?_ ⟨hTtl, h⟩).2
  intro m event hEnabled hBoth hBefore
  obtain ⟨hTtl, hBefore⟩ := hBefore
  exact ⟨by rw [step_ttl]; exact hTtl, inTurn_step hTtl hEnabled hBoth.1 hBoth.2 hBefore⟩

/-- Whoever waits while a poll succeeds is in turn right after it. -/
theorem inTurn_of_succeed {owner : κ} {values : Metric.Values}
    (hEvent : h.event = .succeed owner g values) (hWaits : reader ∈ (h.moment.slot g).waiting) :
    (h.moment.step h.event).InTurn g reader h.moment.now := by
  rw [hEvent]
  have hSlot : (h.moment.step (.succeed owner g values)).slot g =
      { h.moment.slot g with entry := some ⟨values, h.moment.now⟩ }.release := step_slot rfl
  refine inTurn_release rfl ?_ ?_ hSlot
  · exact ⟨_, rfl, rfl⟩
  · exact hWaits

end Waiting

/-! ## Single flight -/

/-- A poll of a group that begins, goes on, and succeeds, and what came after it. -/
structure SuccessfulPoll (g : Group) (poll : Happening κ) (during : List (Happening κ))
    (success : Happening κ) (after : List (Happening κ)) (reader : κ) : Prop where
  begins : poll.poller? g = some reader
  goesOn : ∀ h ∈ during, ¬ h.event.EndsPoll reader g
  succeeds : ∃ values, success.event = .succeed reader g values
  kept : ∀ h ∈ after, ∀ r, h.event ≠ .drop r g

/-- Another reader was in line when a poll succeeded, waited on, and has its turn: time did not pass
while somebody who could go on had not gone on. -/
structure WaitsForTurn (g : Group) (success : Happening κ) (after : List (Happening κ))
    (turn : Happening κ) (other : κ) : Prop where
  waits : other ∈ (success.moment.slot g).waiting
  waitsOn : ∀ h ∈ after, h.event.LeavesWaiting other g
  looks : turn.event = .look other g
  prompt : ∀ h ∈ after, h.Prompt

/-- Polls of a group come one at a time and keep their distance. -/
structure SingleFlight (ttl : Millis) (g : Group) (past : List (Happening κ)) : Prop where
  /-- At every moment at most one poll is in flight. -/
  single : ∀ before, before <+: past → (inFlight g before).length ≤ 1
  /-- A poll begins only where nothing is stored, or what is stored has reached the time to live. -/
  expired : ∀ h ∈ past, ∀ reader, h.poller? g = some reader →
    ∀ e, (h.moment.slot g).entry = some e → e.storedAt + ttl ≤ h.moment.now
  /-- After a successful poll, and without a drop between, the next poll begins at least one time to
  live later. -/
  spaced : ∀ (before : List (Happening κ)) success (between : List (Happening κ)) poll
    (after : List (Happening κ)) reader next values,
    past = before ++ success :: (between ++ poll :: after) →
    success.event = .succeed reader g values → poll.poller? g = some next →
    (∀ h ∈ between, ∀ r, h.event ≠ .drop r g) → success.moment.now + ttl ≤ poll.moment.now
  /-- A successful poll is the only one exactly if every get that looks after it does so before its
  reading expires. -/
  only : ∀ (before : List (Happening κ)) poll (during : List (Happening κ)) success
    (after rest : List (Happening κ)) reader,
    past = before ++ poll :: (during ++ success :: (after ++ rest)) →
    SuccessfulPoll g poll during success after reader →
    (pollers g (poll :: (during ++ success :: after)) = [reader] ↔
      ∀ h ∈ after, ∀ other, h.event = .look other g →
        h.moment.now < success.moment.now + ttl)
  /-- However many gets wait for a successful poll, it is the only one up to the turn of each. -/
  shared : ∀ (before : List (Happening κ)) poll (during : List (Happening κ)) success
    (after : List (Happening κ)) turn (rest : List (Happening κ)) reader other,
    past = before ++ poll :: (during ++ success :: (after ++ turn :: rest)) →
    SuccessfulPoll g poll during success after reader →
    WaitsForTurn g success after turn other → 0 < ttl →
    pollers g (poll :: (during ++ success :: (after ++ [turn]))) = [reader]

section SuccessfulPolls

variable {m m' : Moment κ} {poll success turn : Happening κ}
  {during after rest : List (Happening κ)} {g : Group} {reader other : κ}

/-- From its beginning on, a successful poll is the only one exactly if everyone who looks after it
looks before its reading expires. -/
theorem SuccessfulPoll.pollers_eq_iff (hPoll : SuccessfulPoll g poll during success after reader)
    (hPast : History m (poll :: (during ++ success :: (after ++ rest))) m')
    (hInTime : m.StoredInTime) :
    pollers g (poll :: (during ++ success :: after)) = [reader] ↔
      ∀ h ∈ after, ∀ other, h.event = .look other g →
        h.moment.now < success.moment.now + m.cache.ttl := by
  obtain ⟨values, hSuccess⟩ := hPoll.succeeds
  obtain ⟨rfl, hEnabled, hRest⟩ := history_cons_iff.mp hPast
  obtain ⟨hDuring, -, hAfterRest⟩ := hRest.cut
  obtain ⟨m₁, hAfter, -⟩ := history_append_iff.mp hAfterRest
  -- nobody else can poll while the reader does
  have hNoneDuring : pollers g during = [] := by
    refine (hDuring.polling hPoll.goesOn ?_).2.2
    exact owner_of_poller? hPoll.begins
  have hNoneSuccess : success.poller? g = none := by
    refine poller?_eq_none ?_
    intro r hr
    cases hr.symm.trans hSuccess
  have hSplit : pollers g (poll :: (during ++ success :: after)) = reader :: pollers g after := by
    simp only [pollers_cons, pollers_append, hPoll.begins, hNoneDuring, hNoneSuccess,
      Option.toList_some, Option.toList_none, List.nil_append, List.singleton_append]
  have hNow : (success.moment.step success.event).now = success.moment.now := by
    rw [hSuccess]
    rfl
  have hIdle : ((success.moment.step success.event).slot g).polling = [] := by
    rw [hSuccess, step_slot rfl]
    exact Slot.polling_release
  have hTtl : (success.moment.step success.event).cache.ttl = poll.moment.cache.ttl := by
    rw [step_ttl, hDuring.ttl_eq, step_ttl]
  have hAfter' := hAfter.pollers_eq_nil_iff
    (storedInTime_step (hDuring.storedInTime (storedInTime_step hInTime)))
    (by rw [hNow]; exact entry_of_succeed hSuccess) hIdle hPoll.kept
  rw [hSplit, List.cons_eq_cons, eq_self, true_and, hAfter', hNow, hTtl]

/-- Whoever waited has his turn at the very time at which the poll succeeded. -/
theorem WaitsForTurn.now_eq (hWaits : WaitsForTurn g success after turn other)
    (hSuccess : ∃ values, success.event = .succeed reader g values)
    (hPast : History success.moment (success :: (after ++ turn :: rest)) m')
    (hTtl : 0 < success.moment.cache.ttl) : turn.moment.now = success.moment.now := by
  obtain ⟨values, hSuccess⟩ := hSuccess
  obtain ⟨-, -, hRest⟩ := history_cons_iff.mp hPast
  obtain ⟨hAfter, -, -⟩ := hRest.cut
  refine (hAfter.inTurn ?_ hWaits.prompt hWaits.waitsOn ?_).now
  · rw [step_ttl]
    exact hTtl
  · exact inTurn_of_succeed hSuccess hWaits.waits

end SuccessfulPolls

/-- In every history of a cache, polls of each group come one at a time and keep their distance. -/
theorem polls_come_one_at_a_time {ttl pollLimit start : Millis} {past : List (Happening κ)}
    {m : Moment κ} (hPast : History (unused ttl pollLimit start) past m) (g : Group) :
    SingleFlight ttl g past := by
  have hInTime : (unused ttl pollLimit start : Moment κ).StoredInTime := storedInTime_unused
  refine ⟨?_, ?_, ?_, ?_, ?_⟩
  · rintro before ⟨after, rfl⟩
    obtain ⟨m₁, hBefore, -⟩ := history_append_iff.mp hPast
    exact length_inFlight_le_one hBefore
  · intro h hh reader hPoller e hEntry
    obtain ⟨before, after, rfl⟩ := List.append_of_mem hh
    obtain ⟨hBefore, -, -⟩ := hPast.cut
    have hExpired := expired_of_poller? (hBefore.storedInTime hInTime) hPoller hEntry
    rw [hBefore.ttl_eq] at hExpired
    exact hExpired
  · rintro before success between poll after reader next values rfl hSuccess hPoller hKept
    obtain ⟨hBefore, -, hRest⟩ := hPast.cut
    have hLate := hRest.le_now_of_poller? (storedInTime_step (hBefore.storedInTime hInTime))
      (storedSince_of_succeed hSuccess) hKept hPoller
    rw [step_ttl, hBefore.ttl_eq] at hLate
    exact hLate
  · rintro before poll during success after rest reader rfl hPoll
    obtain ⟨m₁, hBefore, hRest⟩ := history_append_iff.mp hPast
    have hIff := hPoll.pollers_eq_iff hRest (hBefore.storedInTime hInTime)
    rw [hBefore.ttl_eq] at hIff
    exact hIff
  · rintro before poll during success after turn rest reader other rfl hPoll hWaits hTtl
    obtain ⟨m₁, hBefore, hRest⟩ := history_append_iff.mp hPast
    obtain ⟨rfl, hEnabled, hRest'⟩ := history_cons_iff.mp hRest
    obtain ⟨hDuring, hSucceeds, hAfter⟩ := hRest'.cut
    have hTurn : turn.moment.now = success.moment.now := by
      refine hWaits.now_eq hPoll.succeeds (history_cons_iff.mpr ⟨rfl, hSucceeds, hAfter⟩) ?_
      rw [hDuring.ttl_eq, step_ttl, hBefore.ttl_eq]
      exact hTtl
    have hPoll' : SuccessfulPoll g poll during success (after ++ [turn]) reader := by
      refine ⟨hPoll.begins, hPoll.goesOn, hPoll.succeeds, ?_⟩
      intro h hh r
      rcases List.mem_append.mp hh with hh | hh
      · exact hPoll.kept h hh r
      · obtain rfl := List.mem_singleton.mp hh
        rw [hWaits.looks]
        nofun
    have hRegrouped : after ++ turn :: rest = (after ++ [turn]) ++ rest := by
      rw [List.append_assoc, List.singleton_append]
    rw [hRegrouped] at hRest
    refine (hPoll'.pollers_eq_iff hRest (hBefore.storedInTime hInTime)).mpr ?_
    intro h hh r _
    have hNow : h.moment.now ≤ success.moment.now := by
      rcases List.mem_append.mp hh with hh | hh
      · rw [← hTurn]
        exact hAfter.now_le_of_mem h hh
      · obtain rfl := List.mem_singleton.mp hh
        exact Nat.le_of_eq hTurn
    rw [hBefore.ttl_eq]
    exact Nat.lt_of_le_of_lt hNow (Nat.lt_add_of_pos_right hTtl)

/-- The second of two gets waits while the first one polls. -/
def twoGets : List (Event Nat) :=
  [.request 0 .host, .look 0 .host, .request 1 .host, .pass 200, .succeed 0 .host [],
    .look 1 .host]

theorem two_gets_share_a_poll :
    AllEnabled (unused 10000 5000 0) twoGets ∧
      SingleFlight 10000 .host (happenings (unused 10000 5000 0) twoGets) ∧
      pollers .host (happenings (unused 10000 5000 0) twoGets) = [0] := by
  have hEnabled : AllEnabled (unused 10000 5000 0) twoGets := by decide
  exact ⟨hEnabled, polls_come_one_at_a_time (history_happenings hEnabled) .host, by decide⟩

/-- The second of two gets waits while the first one polls, and has its turn when the reading has
expired. -/
def lateTurn : List (Event Nat) :=
  [.request 0 .host, .look 0 .host, .request 1 .host, .pass 200, .succeed 0 .host [], .pass 1,
    .look 1 .host]

/-- Both gets are there while the one successful poll is in flight, and each of them polls. -/
theorem late_turn_polls_again :
    AllEnabled (unused 1 5000 0) lateTurn ∧
      ((happenings (unused 1 5000 0) lateTurn)[4]?.map fun h =>
        ((h.moment.slot .host).owner, (h.moment.slot .host).waiting)) =
          some (some (0, .polling), [1]) ∧
      pollers .host (happenings (unused 1 5000 0) lateTurn) = [0, 1] := by
  decide

end Cache

end SteadyTask.Sensor
