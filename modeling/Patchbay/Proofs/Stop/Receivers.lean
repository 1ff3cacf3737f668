/-
Receivers of a stop signal: a receiver stays quiet, present and with nothing to read, until the
next signal after its subscription or until it is dropped. Operations on other receivers leave it
as it is.
-/
import Patchbay.StopSignal

namespace Patchbay.StopSignal

/-- Receiver `k`, if it has not been dropped. -/
def receiver? (s : StopSignal) (k : Nat) : Option Receiver := s.receivers[k]?.join

theorem pending_eq (s : StopSignal) (k : Nat) :
    s.pending k = (s.receiver? k).any (·.pending s.sent) := by
  unfold pending receiver?
  cases s.receivers[k]? with
  | none => rfl
  | some held => cases held <;> rfl

theorem receiver?_subscribe (s : StopSignal) (k : Nat) :
    s.subscribe.2.receiver? k =
      if k = s.receivers.length then some ⟨s.sent⟩ else s.receiver? k := by
  simp only [receiver?, subscribe, List.getElem?_append]
  rcases Nat.lt_trichotomy k s.receivers.length with h | h | h
  · rw [if_pos h, if_neg (by omega)]
  · simp [h]
  · rw [if_neg (by omega), if_neg (by omega), List.getElem?_eq_none (Nat.le_of_lt h),
      List.getElem?_eq_none (by simp only [List.length_singleton]; omega)]

theorem receivers_trigger (s : StopSignal) : s.trigger.receivers = s.receivers := by
  unfold trigger
  split <;> rfl

theorem receiver?_trigger (s : StopSignal) (k : Nat) : s.trigger.receiver? k = s.receiver? k := by
  rw [receiver?, receivers_trigger, receiver?]

/-- A signal is sent as soon as there is a receiver for it. -/
theorem sent_trigger {s : StopSignal} {k : Nat} {r : Receiver} (h : s.receiver? k = some r) :
    s.trigger.sent = s.sent + 1 := by
  have counted : 0 < s.receiverCount := List.countP_pos_iff.2
    ⟨some r, List.mem_of_getElem? (Option.join_eq_some_iff.1 h), rfl⟩
  rw [trigger, if_neg (Nat.ne_of_gt counted)]

theorem receiver?_drop (s : StopSignal) (i k : Nat) :
    (s.drop i).2.receiver? k = if k = i then none else s.receiver? k := by
  unfold drop receiver?
  by_cases hk : k = i
  · subst hk
    rw [if_pos rfl]
    split
    · rename_i r hr
      simp [(List.getElem?_eq_some_iff.1 hr).1]
    · rename_i absent
      cases hr : s.receivers[k]? with
      | none => rfl
      | some held =>
        cases held with
        | none => rfl
        | some r => exact absurd hr (absent r)
  · rw [if_neg hk]
    split
    · simp [List.getElem?_set_ne (Ne.symm hk)]
    · rfl

theorem sent_drop (s : StopSignal) (i : Nat) : (s.drop i).2.sent = s.sent := by
  unfold drop
  split <;> rfl

theorem length_drop (s : StopSignal) (i : Nat) :
    (s.drop i).2.receivers.length = s.receivers.length := by
  unfold drop
  split <;> simp

theorem poll_fst (s : StopSignal) (i : Nat) :
    (s.poll i).1 = (s.receiver? i).map fun r => (r.poll s.sent).1 := by
  unfold poll receiver?
  rcases s.receivers[i]? with _ | _ | _ <;> rfl

theorem receiver?_poll (s : StopSignal) (i k : Nat) :
    (s.poll i).2.receiver? k =
      if k = i then (s.receiver? i).map fun r => (r.poll s.sent).2 else s.receiver? k := by
  unfold poll receiver?
  by_cases hk : k = i
  · subst hk
    rw [if_pos rfl]
    cases hr : s.receivers[k]? with
    | none => simp [hr]
    | some held =>
      obtain ⟨there, -⟩ := List.getElem?_eq_some_iff.1 hr
      cases held with
      | none => simp [hr]
      | some r => simp [there]
  · rw [if_neg hk]
    split
    · simp [List.getElem?_set_ne (Ne.symm hk)]
    · rfl

theorem sent_poll (s : StopSignal) (i : Nat) : (s.poll i).2.sent = s.sent := by
  unfold poll
  split <;> rfl

theorem length_poll (s : StopSignal) (i : Nat) :
    (s.poll i).2.receivers.length = s.receivers.length := by
  unfold poll
  split <;> simp

theorem receiverCount_eq (s : StopSignal) :
    s.receiverCount = (List.range s.receivers.length).countP fun k => (s.receiver? k).isSome := by
  have listed : (List.range s.receivers.length).map s.receiver? = s.receivers := by
    refine List.ext_getElem (by simp) fun k _ hk => ?_
    simp [receiver?, List.getElem?_eq_getElem hk]
  exact (congrArg (List.countP Option.isSome) listed).symm.trans List.countP_map

/-! ## Bounds -/

/-- No receiver is ahead of what was sent. -/
def Bounded (s : StopSignal) : Prop := ∀ k r, s.receiver? k = some r → r.next ≤ s.sent

theorem Bounded.subscribe {s : StopSignal} (h : s.Bounded) : s.subscribe.2.Bounded := by
  intro k r hr
  rw [receiver?_subscribe] at hr
  split at hr
  · cases hr
    exact Nat.le_refl _
  · exact h k r hr

theorem Bounded.trigger {s : StopSignal} (h : s.Bounded) : s.trigger.Bounded := by
  intro k r hr
  rw [receiver?_trigger] at hr
  rw [sent_trigger hr]
  exact Nat.le_succ_of_le (h k r hr)

theorem Bounded.drop {s : StopSignal} (h : s.Bounded) (i : Nat) : (s.drop i).2.Bounded := by
  intro k r hr
  rw [receiver?_drop] at hr
  rw [sent_drop]
  split at hr
  · cases hr
  · exact h k r hr

/-! ## Quiet receivers -/

/-- Receiver `k` has not been dropped and has nothing to read. -/
def Quiet (s : StopSignal) (k : Nat) : Prop :=
  ∃ r, s.receiver? k = some r ∧ s.sent ≤ r.next

theorem quiet_iff {s : StopSignal} {k : Nat} :
    s.Quiet k ↔ (s.receiver? k).isSome ∧ s.pending k = false := by
  rw [pending_eq]
  unfold Quiet
  cases s.receiver? k <;> simp [Receiver.pending]

/-- A new receiver has nothing to read. -/
theorem quiet_subscribe {s : StopSignal} {k : Nat} :
    s.subscribe.2.Quiet k ↔ k = s.receivers.length ∨ s.Quiet k := by
  unfold Quiet
  rw [receiver?_subscribe]
  split
  · rename_i hk
    simp [hk, subscribe]
  · rename_i hk
    simp [hk, subscribe]

/-- After a signal every receiver has something to read. -/
theorem not_quiet_trigger {s : StopSignal} (h : s.Bounded) (k : Nat) : ¬ s.trigger.Quiet k := by
  rintro ⟨r, hr, hsent⟩
  rw [receiver?_trigger] at hr
  rw [sent_trigger hr] at hsent
  have bound := h k r hr
  omega

theorem quiet_drop {s : StopSignal} {i k : Nat} : (s.drop i).2.Quiet k ↔ k ≠ i ∧ s.Quiet k := by
  unfold Quiet
  rw [receiver?_drop, sent_drop]
  split
  · rename_i hk
    simp [hk]
  · rename_i hk
    simp [hk]

end Patchbay.StopSignal
