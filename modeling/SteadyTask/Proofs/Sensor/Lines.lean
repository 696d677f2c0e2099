import SteadyTask.Proofs.Sensor.Histories

/-!
# Who is at a slot

The owner of a slot and those who wait for it stand in one line.  A reader that asks gets to its
end, whoever gives the slot up leaves its front, and a reader that goes away leaves it from wherever
he is.  In every history nobody stands in a line twice, and nobody waits for a slot that is free.
-/

namespace SteadyTask.Sensor

namespace Slot

variable {κ : Type} {s : Slot κ} {reader : κ}

/-- The owner and those who wait, in the order of their turns. -/
def line (s : Slot κ) : List κ :=
  (s.owner.map Prod.fst).toList ++ s.waiting

theorem line_of_owner {t : Tenure} (h : s.owner = some (reader, t)) :
    s.line = reader :: s.waiting := by
  simp [line, h]

/-- Whoever owns a slot is the only one that leaves the line when he gives it up. -/
theorem mem_waiting_iff_of_owner {owner : κ} {t : Tenure} (hOwner : s.owner = some (owner, t))
    (hne : reader ≠ owner) : reader ∈ s.waiting ↔ reader ∈ s.line := by
  rw [line_of_owner hOwner, List.mem_cons]
  exact ⟨.inr, fun h => h.resolve_left hne⟩

@[simp]
theorem line_release : s.release.line = s.waiting := by
  unfold release line
  cases s.waiting <;> rfl

/-- Nobody waits for a slot that is free, and nobody stands in line twice. -/
structure Orderly (s : Slot κ) : Prop where
  free : s.owner = none → s.waiting = []
  once : s.line.Nodup

namespace Orderly

theorem empty : Orderly (.empty : Slot κ) :=
  ⟨fun _ => rfl, List.nodup_nil⟩

/-- Whoever owns the slot does not wait. -/
theorem not_mem_waiting (h : s.Orderly) {t : Tenure} (hOwner : s.owner = some (reader, t)) :
    reader ∉ s.waiting := by
  have hOnce := h.once
  rw [line_of_owner hOwner] at hOnce
  exact (List.nodup_cons.mp hOnce).1

theorem line_eq_nil_iff (h : s.Orderly) : s.line = [] ↔ s.owner = none := by
  constructor
  · intro hLine
    cases hOwner : s.owner with
    | none => rfl
    | some owner =>
        rw [line_of_owner hOwner] at hLine
        cases hLine
  · intro hOwner
    simp [line, hOwner, h.free hOwner]

theorem line_request (h : s.Orderly) : (s.request reader).line = s.line ++ [reader] := by
  unfold request
  cases hOwner : s.owner with
  | none => simp [line, hOwner, h.free hOwner]
  | some owner => simp [line, hOwner]

theorem request (h : s.Orderly) (hNew : reader ∉ s.line) : (s.request reader).Orderly := by
  refine ⟨?_, ?_⟩
  · intro hFree
    unfold Slot.request at hFree
    split at hFree
    · cases hFree
    · next hOwner => rw [hOwner] at hFree; cases hFree
  · rw [h.line_request, List.nodup_append]
    refine ⟨h.once, List.nodup_singleton _, ?_⟩
    rintro other hOther _ hReader rfl
    exact hNew (List.mem_singleton.mp hReader ▸ hOther)

theorem release (h : s.Orderly) : s.release.Orderly := by
  refine ⟨?_, ?_⟩
  · intro hFree
    unfold Slot.release at hFree ⊢
    cases hWaiting : s.waiting with
    | nil => rfl
    | cons next rest =>
        rw [hWaiting] at hFree
        cases hFree
  · rw [line_release]
    exact (List.nodup_append.mp h.once).2.1

variable [DecidableEq κ]

/-- Whoever goes away leaves the line, and nobody else does. -/
theorem line_leave (h : s.Orderly) (reader : κ) :
    (s.leave reader).line = s.line.filter (· ≠ reader) := by
  unfold leave
  cases hOwner : s.owner with
  | none => simp [line, hOwner, h.free hOwner]
  | some owner =>
      obtain ⟨owner, t⟩ := owner
      rw [line_of_owner hOwner]
      by_cases hReader : owner = reader
      · subst hReader
        have hWaiting : s.waiting.filter (· ≠ owner) = s.waiting := by
          refine List.filter_eq_self.mpr fun other hOther => ?_
          have hne : other ≠ owner := fun hSame => h.not_mem_waiting hOwner (hSame ▸ hOther)
          simpa using hne
        simp only [if_true, line_release]
        rw [List.filter_cons_of_neg (by simp), hWaiting]
      · simp [line, hReader]

/-- Whoever asks and goes away again has changed nothing. -/
theorem leave_request (h : s.Orderly) (hNew : reader ∉ s.line) :
    (s.request reader).leave reader = s := by
  obtain ⟨entry, owner, waiting⟩ := s
  cases owner with
  | none =>
      obtain rfl : waiting = [] := h.free rfl
      simp [Slot.request, Slot.leave, Slot.release]
  | some owner =>
      obtain ⟨owner, t⟩ := owner
      have hNotOwner : owner ≠ reader := by
        rintro rfl
        exact hNew (List.mem_cons_self ..)
      have hNotWaiting : reader ∉ waiting := fun hMem => hNew (List.mem_cons_of_mem _ hMem)
      have hWaiting : waiting.filter (· ≠ reader) = waiting := by
        refine List.filter_eq_self.mpr fun other hOther => ?_
        simpa using fun hSame : other = reader => hNotWaiting (hSame ▸ hOther)
      simp only [Slot.request, Slot.leave, hNotOwner, if_false, List.filter_append, hWaiting]
      simp

theorem leave (h : s.Orderly) (reader : κ) : (s.leave reader).Orderly := by
  refine ⟨?_, ?_⟩
  · intro hFree
    unfold Slot.leave at hFree ⊢
    split at hFree
    · next owner t hOwner =>
        split at hFree
        · next hReader =>
            rw [hOwner]
            simp only [hReader, if_true]
            exact h.release.free hFree
        · rw [hOwner] at hFree
          cases hFree
    · next hOwner => exact h.free hOwner
  · rw [h.line_leave]
    exact h.once.filter _

end Orderly

end Slot

namespace Cache

variable {κ : Type}

/-- The reader that an event is by. -/
def Event.reader? : Event κ → Option κ
  | .pass _ => none
  | .request reader _ => some reader
  | .look reader _ => some reader
  | .succeed reader _ _ => some reader
  | .fail reader _ => some reader
  | .leave reader _ => some reader
  | .drop reader _ => some reader

/-- The lines of both groups are in order. -/
def Moment.Orderly (m : Moment κ) : Prop :=
  ∀ g, (m.slot g).Orderly

theorem orderly_unused (ttl pollLimit now : Millis) :
    (unused ttl pollLimit now : Moment κ).Orderly := by
  intro g
  rw [slot_unused]
  exact .empty

variable [DecidableEq κ] {m m' : Moment κ} {event : Event κ} {g : Group} {reader : κ}

/-- A reader can ask for a group if he does not stand in its line. -/
theorem enabled_request_iff : m.Enabled (.request reader g) ↔ reader ∉ (m.slot g).line := by
  rw [Slot.line, List.mem_append, Option.mem_toList, not_or]
  exact Iff.rfl

theorem orderly_step (h : m.Orderly) (hEnabled : m.Enabled event) : (m.step event).Orderly := by
  intro g
  have hSlot := h g
  by_cases hGroup : event.group? = some g
  · rw [step_slot hGroup]
    cases event with
    | pass duration => cases hGroup
    | request reader g' => cases hGroup; exact hSlot.request (enabled_request_iff.mp hEnabled)
    | look reader g' =>
        cases hGroup
        simp only [slotAfter]
        split
        · exact hSlot.release
        · -- the owner stays
          have hOwner := Slot.isGranted_iff.mp hEnabled
          refine ⟨by rintro ⟨⟩, ?_⟩
          have hOnce := hSlot.once
          rw [Slot.line_of_owner hOwner] at hOnce
          exact hOnce
    | succeed reader g' values =>
        exact Slot.Orderly.release (s := { m.slot g with entry := _ }) ⟨hSlot.free, hSlot.once⟩
    | fail reader g' => exact hSlot.release
    | leave reader g' => exact hSlot.leave reader
    | drop reader g' =>
        exact Slot.Orderly.release (s := { m.slot g with entry := _ }) ⟨hSlot.free, hSlot.once⟩
  · rw [step_slot_of_ne hGroup]
    exact hSlot

/-- Whoever asks for a group and goes away again has changed nothing. -/
theorem leave_request (h : m.Orderly) (hNew : reader ∉ (m.slot g).line) :
    (m.step (.request reader g)).step (.leave reader g) = m := by
  have hSlot : ((m.slot g).request reader).leave reader = m.slot g := (h g).leave_request hNew
  obtain ⟨⟨ttl, pollLimit, ⟨host, accelerator⟩, stats⟩, now⟩ := m
  cases g with
  | host =>
      have hHost : (host.request reader).leave reader = host := hSlot
      simp [Moment.step, request, leave, modifySlot, PerGroup.modify, PerGroup.set, PerGroup.get,
        hHost]
  | accelerator =>
      have hAccelerator : (accelerator.request reader).leave reader = accelerator := hSlot
      simp [Moment.step, request, leave, modifySlot, PerGroup.modify, PerGroup.set, PerGroup.get,
        hAccelerator]

/-! ## One reader among others -/

/-- Nobody gets into a line or out of it by what others do. -/
theorem mem_line_step_of_ne (h : m.Orderly) (hEnabled : m.Enabled event)
    (hOther : event.reader? ≠ some reader) (g : Group) :
    reader ∈ ((m.step event).slot g).line ↔ reader ∈ (m.slot g).line := by
  by_cases hGroup : event.group? = some g
  · rw [step_slot hGroup]
    have hne {r : κ} (hr : event.reader? = some r) : reader ≠ r := by
      rintro rfl
      exact hOther hr
    cases event with
    | pass duration => cases hGroup
    | request r g' =>
        show reader ∈ ((m.slot g).request r).line ↔ _
        rw [(h g).line_request, List.mem_append, List.mem_singleton]
        exact ⟨fun hMem => hMem.resolve_right (hne rfl), .inl⟩
    | look r g' =>
        cases hGroup
        have hOwner := Slot.isGranted_iff.mp hEnabled
        simp only [slotAfter]
        split
        · rw [Slot.line_release]
          exact Slot.mem_waiting_iff_of_owner hOwner (hne rfl)
        · rw [Slot.line_of_owner hOwner]
          exact Iff.rfl
    | succeed r g' values =>
        cases hGroup
        show reader ∈ (Slot.release _).line ↔ _
        rw [Slot.line_release]
        exact Slot.mem_waiting_iff_of_owner (Slot.isPolling_iff.mp hEnabled) (hne rfl)
    | fail r g' =>
        cases hGroup
        show reader ∈ (Slot.release _).line ↔ _
        rw [Slot.line_release]
        exact Slot.mem_waiting_iff_of_owner (Slot.isPolling_iff.mp hEnabled) (hne rfl)
    | leave r g' =>
        show reader ∈ ((m.slot g).leave r).line ↔ _
        rw [(h g).line_leave, List.mem_filter]
        exact ⟨And.left, fun hMem => ⟨hMem, by simpa using hne rfl⟩⟩
    | drop r g' =>
        cases hGroup
        show reader ∈ (Slot.release _).line ↔ _
        rw [Slot.line_release]
        exact Slot.mem_waiting_iff_of_owner (Slot.isGranted_iff.mp hEnabled) (hne rfl)
  · rw [step_slot_of_ne hGroup]

/-- Nobody's poll is ended by what others do. -/
theorem isPolling_step_of_ne (hEnabled : m.Enabled event) (hOther : event.reader? ≠ some reader)
    (hPolling : (m.slot g).isPolling reader = true) :
    ((m.step event).slot g).isPolling reader = true := by
  rw [Slot.isPolling_iff] at hPolling ⊢
  refine (polling_step hEnabled (fun hEnds => ?_) hPolling).1
  cases event with
  | succeed | fail | leave =>
      obtain ⟨rfl, -⟩ := hEnds
      exact hOther rfl
  | _ => exact hEnds

end Cache

end SteadyTask.Sensor
