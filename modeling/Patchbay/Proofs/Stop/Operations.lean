/-
Operations on several signals: what each can do, that receivers stay apart, and what becomes of one
of them. Only its own poll and its own drop change a receiver.
-/
import Patchbay.Proofs.Stop.Receivers
import Mathlib.Data.List.Nodup

namespace Patchbay

/-- How many signals a poll tells of. -/
def Poll.worth : Poll → Nat
  | .empty => 0
  | .signal => 1
  | .lagged missed => missed

/-- What a poll finds when so many signals are unread. -/
def Poll.ofUnread : Nat → Poll
  | 0 => .empty
  | 1 => .signal
  | n + 2 => .lagged (n + 1)

theorem Poll.ofUnread_eq_empty_iff {n : Nat} : ofUnread n = .empty ↔ n = 0 := by
  unfold ofUnread
  split <;> simp

theorem Poll.worth_ofUnread_le (n : Nat) : (ofUnread n).worth ≤ n := by
  unfold ofUnread
  split <;> simp [worth]

namespace Receiver

theorem poll_fst (r : Receiver) (sent : Nat) : (r.poll sent).1 = .ofUnread (sent - r.next) := by
  unfold poll
  split
  · rename_i all
    rw [Nat.sub_eq_zero_of_le all]
    rfl
  · split
    · rename_i one
      rw [one, Nat.add_sub_cancel_left]
      rfl
    · obtain ⟨n, hn⟩ : ∃ n, sent - r.next = n + 2 := ⟨sent - r.next - 2, by omega⟩
      rw [hn]
      exact congrArg Poll.lagged (by omega)

theorem poll_snd (r : Receiver) (sent : Nat) :
    (r.poll sent).2 = ⟨r.next + (r.poll sent).1.worth⟩ := by
  unfold poll
  split
  · rfl
  · split
    · rename_i next
      simp [Poll.worth, next]
    · simp only [Poll.worth, mk.injEq]
      omega

end Receiver

namespace Signals

/-- What one operation can do. -/
inductive Performs (s : Signals) : Operation → Answer → Signals → Prop where
  | clone {h i : Nat} {signal : StopSignal}
      (handle : s.handles[h]? = some i) (there : s.signals[i]? = some signal) :
      Performs s (.clone h) (.index s.handles.length) { s with handles := s.handles ++ [i] }
  | new : Performs s .new (.index s.handles.length)
      { s with signals := s.signals ++ [{}], handles := s.handles ++ [s.signals.length] }
  | subscribe {h i : Nat} {signal : StopSignal}
      (handle : s.handles[h]? = some i) (there : s.signals[i]? = some signal) :
      Performs s (.subscribe h) (.index s.receivers.length)
        { s.replace i signal.subscribe.2 with
          receivers := s.receivers ++ [(i, signal.receivers.length)] }
  | trigger {h i : Nat} {signal : StopSignal}
      (handle : s.handles[h]? = some i) (there : s.signals[i]? = some signal) :
      Performs s (.trigger h) .done (s.replace i signal.trigger)
  | count {h i : Nat} {signal : StopSignal}
      (handle : s.handles[h]? = some i) (there : s.signals[i]? = some signal) :
      Performs s (.count h) (.count signal.receiverCount) s
  | drop {r i k : Nat} {signal : StopSignal}
      (receiver : s.receivers[r]? = some (i, k)) (there : s.signals[i]? = some signal) :
      Performs s (.drop r) (.dropped (signal.drop k).1) (s.replace i (signal.drop k).2)
  | poll {r i k : Nat} {signal : StopSignal}
      (receiver : s.receivers[r]? = some (i, k)) (there : s.signals[i]? = some signal) :
      Performs s (.poll r) (.polled (signal.poll k).1) (s.replace i (signal.poll k).2)

theorem performs_iff {s after : Signals} {op : Operation} {answer : Answer} :
    s.perform? op = some (answer, after) ↔ Performs s op answer after := by
  constructor
  · intro h
    cases op with
    | new =>
      cases h
      exact .new
    | clone | subscribe | trigger | count =>
      simp only [perform?, reach?, Option.bind_eq_bind, Option.bind_eq_some_iff, Option.pure_def,
        Option.some.injEq] at h
      obtain ⟨⟨i, signal⟩, ⟨_, handle, _, there, heq⟩, hsome⟩ := h
      cases heq
      cases hsome
      first
        | exact .clone handle there
        | exact .subscribe handle there
        | exact .trigger handle there
        | exact .count handle there
    | drop | poll =>
      simp only [perform?, reachReceiver?, Option.bind_eq_bind, Option.bind_eq_some_iff,
        Option.pure_def, Option.some.injEq] at h
      obtain ⟨⟨i, k, signal⟩, ⟨⟨_, _⟩, receiver, _, there, heq⟩, hsome⟩ := h
      cases heq
      cases hsome
      first
        | exact .drop receiver there
        | exact .poll receiver there
  · intro h
    cases h with
    | new => rfl
    | clone handle there | subscribe handle there | trigger handle there | count handle there =>
      simp [perform?, reach?, handle, there, StopSignal.subscribe, replace]
    | drop receiver there | poll receiver there =>
      simp [perform?, reachReceiver?, receiver, there]

theorem getElem?_of_prefix {α : Type} {xs ys : List α} (grown : xs <+: ys) {n : Nat} {a : α}
    (h : xs[n]? = some a) : ys[n]? = some a := by
  obtain ⟨more, rfl⟩ := grown
  rw [List.getElem?_append_left (List.getElem?_eq_some_iff.1 h).1, h]

theorem Performs.handles_prefix {s after : Signals} {op : Operation} {answer : Answer}
    (step : Performs s op answer after) : s.handles <+: after.handles := by
  cases step with
  | clone | new => exact List.prefix_append ..
  | subscribe | trigger | count | drop | poll => exact List.prefix_refl _

theorem Performs.receivers_prefix {s after : Signals} {op : Operation} {answer : Answer}
    (step : Performs s op answer after) : s.receivers <+: after.receivers := by
  cases step with
  | subscribe => exact List.prefix_append ..
  | clone | new | trigger | count | drop | poll => exact List.prefix_refl _

/-! ## Receivers apart -/

/-- Handles and receivers name signals that exist, and those subscribed to one signal have the
numbers from zero on there, in order of subscription. -/
structure Sound (s : Signals) : Prop where
  handles : ∀ i ∈ s.handles, i < s.signals.length
  receivers : ∀ p ∈ s.receivers, p.1 < s.signals.length
  numbered : ∀ i signal, s.signals[i]? = some signal →
    (s.receivers.filter fun p => p.1 = i).map Prod.snd = List.range signal.receivers.length

theorem sound_start : Sound {} := by
  refine ⟨by simp, by simp, fun i signal there => ?_⟩
  obtain ⟨rfl, rfl⟩ : i = 0 ∧ signal = {} := by
    simpa [List.getElem?_singleton, eq_comm] using there
  rfl

@[simp] theorem handles_replace (s : Signals) (i : Nat) (signal : StopSignal) :
    (s.replace i signal).handles = s.handles := rfl

@[simp] theorem receivers_replace (s : Signals) (i : Nat) (signal : StopSignal) :
    (s.replace i signal).receivers = s.receivers := rfl

@[simp] theorem length_replace (s : Signals) (i : Nat) (signal : StopSignal) :
    (s.replace i signal).signals.length = s.signals.length := List.length_set

theorem getElem?_replace {s : Signals} {i : Nat} {old : StopSignal}
    (there : s.signals[i]? = some old) (new : StopSignal) (j : Nat) :
    (s.replace i new).signals[j]? = if j = i then some new else s.signals[j]? := by
  obtain ⟨hi, -⟩ := List.getElem?_eq_some_iff.1 there
  rw [replace, List.getElem?_set]
  by_cases hj : j = i
  · subst hj
    simp [hi]
  · rw [if_neg (Ne.symm hj), if_neg hj]

/-- An operation on a signal that makes no new receiver. -/
theorem Sound.replace {s : Signals} (h : s.Sound) {i : Nat} {old new : StopSignal}
    (there : s.signals[i]? = some old) (same : new.receivers.length = old.receivers.length) :
    (s.replace i new).Sound := by
  refine ⟨by simpa using h.handles, by simpa using h.receivers, fun j signal hj => ?_⟩
  rw [getElem?_replace there] at hj
  split at hj
  · rename_i hji
    subst hji
    cases hj
    rw [same]
    exact h.numbered j old there
  · exact h.numbered j signal hj

theorem Sound.step {s after : Signals} {op : Operation} {answer : Answer} (h : s.Sound)
    (step : Performs s op answer after) : after.Sound := by
  cases step with
  | clone handle there =>
    refine ⟨fun i hi => ?_, h.receivers, h.numbered⟩
    rcases List.mem_append.1 hi with hi | hi
    · exact h.handles i hi
    · rw [List.mem_singleton.1 hi]
      exact (List.getElem?_eq_some_iff.1 there).1
  | new =>
    refine ⟨fun i hi => ?_, fun p hp => ?_, fun i signal hi => ?_⟩
    · rw [List.length_append, List.length_singleton]
      rcases List.mem_append.1 hi with hi | hi
      · exact Nat.lt_succ_of_lt (h.handles i hi)
      · rw [List.mem_singleton.1 hi]
        exact Nat.lt_succ_self _
    · rw [List.length_append, List.length_singleton]
      exact Nat.lt_succ_of_lt (h.receivers p hp)
    · rw [List.getElem?_append] at hi
      split at hi
      · exact h.numbered i signal hi
      · -- nothing is subscribed to the new signal
        obtain ⟨-, rfl⟩ : i - s.signals.length = 0 ∧ signal = {} := by
          simpa [List.getElem?_singleton, eq_comm] using hi
        have none : s.receivers.filter (fun p => p.1 = i) = [] := by
          refine List.filter_eq_nil_iff.2 fun p hp => ?_
          have bound := h.receivers p hp
          simp only [decide_eq_true_eq]
          omega
        rw [none]
        rfl
  | @subscribe _ i signal handle there =>
    have bound : i < s.signals.length := (List.getElem?_eq_some_iff.1 there).1
    refine ⟨by simpa using h.handles, fun p hp => ?_, fun j later hj => ?_⟩
    · rw [length_replace]
      rcases List.mem_append.1 hp with hp | hp
      · exact h.receivers p hp
      · rw [List.mem_singleton.1 hp]
        exact bound
    · rw [List.filter_append, List.map_append]
      replace hj := (getElem?_replace there _ j).symm.trans hj
      split at hj
      · rename_i hji
        subst hji
        cases hj
        simp [h.numbered j signal there, StopSignal.subscribe, List.range_succ]
      · rename_i hji
        simp [h.numbered j later hj, Ne.symm hji]
  | trigger handle there => exact h.replace there (by rw [StopSignal.receivers_trigger])
  | count => exact h
  | drop receiver there => exact h.replace there (StopSignal.length_drop ..)
  | poll receiver there => exact h.replace there (StopSignal.length_poll ..)

/-- No two subscriptions have the same receiver. -/
theorem Sound.nodup {s : Signals} (h : s.Sound) : s.receivers.Nodup := by
  refine List.nodup_iff_count_le_one.2 fun p => ?_
  by_cases hp : p ∈ s.receivers
  · have there := List.getElem?_eq_getElem (h.receivers p hp)
    calc s.receivers.count p
      _ = (s.receivers.filter fun q => q.1 = p.1).count p := (List.count_filter (by simp)).symm
      _ ≤ ((s.receivers.filter fun q => q.1 = p.1).map Prod.snd).count p.2 :=
        List.count_le_count_map
      _ ≤ 1 := by
        rw [h.numbered p.1 _ there]
        exact List.nodup_iff_count_le_one.1 List.nodup_range p.2
  · rw [List.count_eq_zero.2 hp]
    exact Nat.zero_le 1

theorem Sound.number_lt {s : Signals} (h : s.Sound) {r i k : Nat} {signal : StopSignal}
    (receiver : s.receivers[r]? = some (i, k)) (there : s.signals[i]? = some signal) :
    k < signal.receivers.length := by
  rw [← List.mem_range, ← h.numbered i signal there]
  exact List.mem_map.2
    ⟨(i, k), List.mem_filter.2 ⟨List.mem_of_getElem? receiver, by simp⟩, rfl⟩

/-! ## One receiver -/

/-- A receiver, if it has not been dropped. -/
def receiver? (s : Signals) (r : Nat) : Option Receiver :=
  s.receivers[r]?.bind fun (i, k) => s.signals[i]?.bind fun signal => signal.receiver? k

/-- How many signals were sent. -/
def sent? (s : Signals) (i : Nat) : Option Nat := s.signals[i]?.map StopSignal.sent

/-- How many signals the answer of an operation tells receiver `r` of. -/
def told (r : Nat) : Operation × Answer → Nat
  | (.poll p, .polled (some found)) => if p = r then found.worth else 0
  | _ => 0

theorem told_of_ne {r : Nat} {op : Operation} (other : op ≠ .poll r) (answer : Answer) :
    told r (op, answer) = 0 := by
  unfold told
  split
  · rename_i heq
    cases heq
    exact if_neg fun hp => other (congrArg _ hp)
  · rfl

theorem receiver?_eq {s : Signals} {r i k : Nat} {signal : StopSignal}
    (receiver : s.receivers[r]? = some (i, k)) (there : s.signals[i]? = some signal) :
    s.receiver? r = signal.receiver? k := by
  simp [receiver?, receiver, there]

theorem receiver?_replace {s : Signals} {r i j k : Nat} {old : StopSignal}
    (receiver : s.receivers[r]? = some (j, k)) (there : s.signals[i]? = some old)
    (new : StopSignal) :
    (s.replace i new).receiver? r = if j = i then new.receiver? k else s.receiver? r := by
  have same : (s.replace i new).receivers[r]? = some (j, k) := receiver
  simp only [receiver?, same, receiver, getElem?_replace there, Option.bind_some]
  split <;> rfl

/-- An operation on a signal that leaves the receiver as it is. -/
theorem receiver?_replace_same {s : Signals} {r i j k : Nat} {old new : StopSignal}
    (receiver : s.receivers[r]? = some (j, k)) (there : s.signals[i]? = some old)
    (same : j = i → new.receiver? k = old.receiver? k) :
    (s.replace i new).receiver? r = s.receiver? r := by
  rw [receiver?_replace receiver there]
  split
  · rename_i hj
    subst hj
    rw [same rfl, receiver?_eq receiver there]
  · rfl

/-- Only its own drop takes a receiver away, and only its own polls move it on. -/
theorem Sound.receiver?_step {s after : Signals} {op : Operation} {answer : Answer} (h : s.Sound)
    (step : Performs s op answer after) {r : Nat} (subscribed : r < s.receivers.length) :
    after.receiver? r =
      if op = .drop r then none
      else (s.receiver? r).map fun x => ⟨x.next + told r (op, answer)⟩ := by
  obtain ⟨⟨j, k⟩, receiver⟩ : ∃ p, s.receivers[r]? = some p :=
    ⟨_, List.getElem?_eq_getElem subscribed⟩
  have apart {p i k' : Nat} (other : s.receivers[p]? = some (i, k')) (hp : p ≠ r) (hj : j = i) :
      k ≠ k' := by
    rintro rfl
    subst hj
    exact hp ((List.getElem?_inj (List.getElem?_eq_some_iff.1 other).1 h.nodup).1
      (other.trans receiver.symm))
  -- all but its own poll and its own drop leave it where it is
  have left (other : op ≠ .poll r) (still : op ≠ .drop r)
      (same : after.receiver? r = s.receiver? r) : after.receiver? r =
        if op = .drop r then none
        else (s.receiver? r).map fun x => ⟨x.next + told r (op, answer)⟩ := by
    rw [if_neg still, told_of_ne other, same]
    exact Option.map_id_apply.symm
  cases step with
  | clone | count => exact left nofun nofun rfl
  | new =>
    refine left nofun nofun ?_
    have bound := h.receivers _ (List.mem_of_getElem? receiver)
    simp only [receiver?, receiver, Option.bind_some, List.getElem?_append_left bound]
  | @subscribe _ i signal handle there =>
    have same : (s.replace i signal.subscribe.2).receiver? r = s.receiver? r := by
      refine receiver?_replace_same receiver there fun hj => ?_
      subst hj
      have earlier := h.number_lt receiver there
      rw [StopSignal.receiver?_subscribe, if_neg (by omega)]
    refine left nofun nofun (Eq.trans ?_ same)
    simp only [receiver?, List.getElem?_append_left subscribed]
    rfl
  | trigger handle there =>
    refine left nofun nofun (receiver?_replace_same receiver there fun _ => ?_)
    exact StopSignal.receiver?_trigger ..
  | @drop p i k' signal other there =>
    by_cases hp : p = r
    · subst hp
      obtain ⟨rfl, rfl⟩ := Prod.mk.inj (Option.some.inj (other.symm.trans receiver))
      rw [receiver?_replace receiver there, StopSignal.receiver?_drop]
      simp
    · refine left nofun (fun same => hp (by cases same; rfl))
        (receiver?_replace_same receiver there fun hj => ?_)
      rw [StopSignal.receiver?_drop, if_neg (apart other hp hj)]
  | @poll p i k' signal other there =>
    by_cases hp : p = r
    · subst hp
      obtain ⟨rfl, rfl⟩ := Prod.mk.inj (Option.some.inj (other.symm.trans receiver))
      rw [receiver?_replace receiver there, StopSignal.receiver?_poll, StopSignal.poll_fst,
        receiver?_eq receiver there, if_pos rfl, if_pos rfl, if_neg nofun]
      cases signal.receiver? k' with
      | none => rfl
      | some x => simp [told, Receiver.poll_snd]
    · refine left (fun same => hp (by cases same; rfl)) nofun
        (receiver?_replace_same receiver there fun hj => ?_)
      rw [StopSignal.receiver?_poll, if_neg (apart other hp hj)]

/-- The operation triggers signal `i`, where `handles` are the signals that the handles name. -/
def reaches (handles : List Nat) (i : Nat) : Operation → Bool
  | .trigger h => decide (handles[h]? = some i)
  | _ => false

/-- As long as a signal has a receiver, no trigger is lost. -/
theorem Sound.sent?_step {s after : Signals} {op : Operation} {answer : Answer} (h : s.Sound)
    (step : Performs s op answer after) {r i k : Nat} {x : Receiver}
    (receiver : s.receivers[r]? = some (i, k)) (present : s.receiver? r = some x) :
    after.sent? i = (s.sent? i).map (· + (reaches s.handles i op).toNat) := by
  have replaced {j : Nat} {old new : StopSignal} (there : s.signals[j]? = some old)
      (same : new.sent = old.sent) : (s.replace j new).sent? i = s.sent? i := by
    rw [sent?, sent?, getElem?_replace there]
    split
    · rename_i hj
      rw [hj, there]
      exact congrArg some same
    · rfl
  have left (same : after.sent? i = s.sent? i) (other : reaches s.handles i op = false) :
      after.sent? i = (s.sent? i).map (· + (reaches s.handles i op).toNat) := by
    rw [same, other]
    exact Option.map_id_apply.symm
  cases step with
  | clone | count => exact left rfl rfl
  | new =>
    have bound := h.receivers _ (List.mem_of_getElem? receiver)
    exact left (by rw [sent?, sent?, List.getElem?_append_left bound]) rfl
  | subscribe handle there => exact left (replaced there rfl) rfl
  | @trigger _ j signal handle there =>
    by_cases hj : j = i
    · subst hj
      rw [receiver?_eq receiver there] at present
      simp [sent?, getElem?_replace there, there, StopSignal.sent_trigger present, reaches, handle]
    · refine left ?_ (by simp [reaches, handle, hj])
      rw [sent?, getElem?_replace there, if_neg (Ne.symm hj), sent?]
  | drop other there => exact left (replaced there (StopSignal.sent_drop ..)) rfl
  | poll other there => exact left (replaced there (StopSignal.sent_poll ..)) rfl

/-- Receiver `r` of signal `i` has not been dropped, and has `next` of `sent` signals behind it. -/
structure Stands (s : Signals) (r i next sent : Nat) : Prop where
  receiver : ∃ k, s.receivers[r]? = some (i, k)
  present : s.receiver? r = some ⟨next⟩
  count : s.sent? i = some sent
  bound : next ≤ sent

theorem stands_subscribe {s after : Signals} {h r : Nat}
    (step : Performs s (.subscribe h) (.index r) after) :
    ∃ i sent, after.handles[h]? = some i ∧ after.Stands r i sent sent := by
  cases step with
  | @subscribe _ i signal handle there =>
    have last : (s.receivers ++ [(i, signal.receivers.length)])[s.receivers.length]? =
        some (i, signal.receivers.length) := List.getElem?_concat_length
    have new := (getElem?_replace there signal.subscribe.2 i).trans (if_pos rfl)
    refine ⟨i, signal.sent, handle, ⟨_, last⟩, ?_, ?_, Nat.le_refl _⟩
    · simp only [receiver?, last, new, Option.bind_some, StopSignal.receiver?_subscribe, if_pos]
    · exact congrArg (Option.map StopSignal.sent) new

theorem Stands.poll {s : Signals} {r i next sent : Nat} (h : s.Stands r i next sent) :
    ∃ after, s.perform? (.poll r) = some (.polled (some (.ofUnread (sent - next))), after) := by
  obtain ⟨k, receiver⟩ := h.receiver
  obtain ⟨signal, there, rfl⟩ := Option.map_eq_some_iff.1 h.count
  have present := (receiver?_eq receiver there).symm.trans h.present
  refine ⟨s.replace i (signal.poll k).2, ?_⟩
  rw [performs_iff.2 (.poll receiver there), StopSignal.poll_fst, present]
  exact congrArg (fun found => some (Answer.polled (some found), _)) (Receiver.poll_fst ..)

theorem Stands.told_le {s after : Signals} {op : Operation} {answer : Answer} {r i next sent : Nat}
    (h : s.Stands r i next sent) (step : Performs s op answer after) :
    next + told r (op, answer) ≤ sent := by
  by_cases hr : op = .poll r
  · subst hr
    obtain ⟨polled, hpoll⟩ := h.poll
    cases Option.some.inj ((performs_iff.2 step).symm.trans hpoll)
    have some_unread := Poll.worth_ofUnread_le (sent - next)
    have bound := h.bound
    simp only [told, if_pos]
    omega
  · rw [told_of_ne hr]
    exact h.bound

/-- A receiver that is not dropped moves on by what it is told, and its signal by the triggers. -/
theorem Stands.step {s after : Signals} {op : Operation} {answer : Answer} {r i next sent : Nat}
    (h : s.Stands r i next sent) (sound : s.Sound) (step : Performs s op answer after)
    (kept : op ≠ .drop r) :
    after.Stands r i (next + told r (op, answer))
      (sent + (reaches s.handles i op).toNat) := by
  obtain ⟨k, receiver⟩ := h.receiver
  have subscribed := (List.getElem?_eq_some_iff.1 receiver).1
  refine ⟨⟨k, ?_⟩, ?_, ?_, Nat.le_add_right_of_le (h.told_le step)⟩
  · exact getElem?_of_prefix step.receivers_prefix receiver
  · rw [sound.receiver?_step step subscribed, if_neg kept, h.present]
    rfl
  · rw [sound.sent?_step step receiver h.present, h.count]
    rfl

/-! ## All receivers of a signal -/

/-- A signal counts the receivers that were subscribed to it and have not been dropped. -/
theorem Sound.receiverCount_eq {s : Signals} (h : s.Sound) {i : Nat} {signal : StopSignal}
    (there : s.signals[i]? = some signal) :
    signal.receiverCount =
      s.receivers.zipIdx.countP fun q => q.1.1 = i && (s.receiver? q.2).isSome := by
  have listed : s.receivers.zipIdx.map Prod.fst = s.receivers := List.zipIdx_map_fst 0 s.receivers
  calc signal.receiverCount
    _ = (List.range signal.receivers.length).countP fun k => (signal.receiver? k).isSome :=
      signal.receiverCount_eq
    _ = s.receivers.countP fun p => (signal.receiver? p.2).isSome && p.1 = i := by
      rw [← h.numbered i signal there, List.countP_map, List.countP_filter]
      rfl
    _ = s.receivers.zipIdx.countP fun q => (signal.receiver? q.1.2).isSome && q.1.1 = i :=
      (congrArg (List.countP _) listed).symm.trans List.countP_map
    _ = s.receivers.zipIdx.countP fun q => q.1.1 = i && (s.receiver? q.2).isSome := by
      refine List.countP_congr fun ⟨⟨j, k⟩, r⟩ hq => ?_
      have receiver := List.mem_zipIdx_iff_getElem?.1 hq
      by_cases hj : j = i
      · subst hj
        simp [receiver?_eq receiver there]
      · simp [hj]

end Signals

end Patchbay
