/-
The account of a stop signal. A history of operations alone says which handles are clones of one
another, which triggers were made through them, what each receiver was told, and which receivers are
left. The signals that the operations ran on agree with it: nothing that was triggered is lost on a
receiver or told to it twice, and nothing else reaches it.
-/
import Mathlib
import Patchbay.Proofs.Stop.Operations

namespace Patchbay

/-- Operations on signals with their answers, in order. -/
abbrev History := List (Signals.Operation × Signals.Answer)

namespace History

/-! ## Reading a history -/

/-- The origins of the handles after one more operation. -/
def originsAfter (origins : List Nat) : Signals.Operation → List Nat
  | .clone h => origins ++ origins[h]?.toList
  | .new => origins ++ [origins.length]
  | _ => origins

/-- For each handle the one that its chain of clones began with. -/
def origins (history : History) : List Nat :=
  history.foldl (fun origins e => originsAfter origins e.1) [0]

/-- The handles are clones of one another. -/
def Clones (history : History) (a b : Nat) : Prop := history.origins[a]? = history.origins[b]?

instance (history : History) (a b : Nat) : Decidable (history.Clones a b) :=
  inferInstanceAs (Decidable (_ = _))

/-- The triggers in `later`, a part of `history`, that were made through clones of `h`. -/
def made (history : History) (h : Nat) (later : History) : Nat :=
  later.countP fun e => match e.1 with
    | .trigger t => history.Clones t h
    | _ => false

/-- The signals that receiver `r` was told of. -/
def read (history : History) (r : Nat) : Nat := (history.map (Signals.told r)).sum

/-- The subscriptions, each as the handle and the receiver. -/
def subscriptions (history : History) : List (Nat × Nat) :=
  history.filterMap fun
    | (.subscribe h, .index r) => some (h, r)
    | _ => none

def drops (history : History) (r : Nat) : Bool := history.any fun e => e.1 = .drop r

/-- The receivers that were subscribed through clones of `h` and have not been dropped. -/
def living (history : History) (h : Nat) : Nat :=
  history.subscriptions.countP fun (a, r) => history.Clones a h && !history.drops r

/-- The operation names a handle or a receiver that there is. -/
def Names (history : History) : Signals.Operation → Prop
  | .new => True
  | .clone h | .subscribe h | .trigger h | .count h => h < history.origins.length
  | .drop r | .poll r => r < history.subscriptions.length

end History

namespace Signals

/-- The state after a history; `none` if the operations do not have these answers. -/
def replay? (s : Signals) : History → Option Signals
  | [] => some s
  | (op, answer) :: rest => do
    let (given, s) ← s.perform? op
    if given = answer then s.replay? rest else none

theorem replay?_cons {s after : Signals} {op : Operation} {answer : Answer} {rest : History} :
    s.replay? ((op, answer) :: rest) = some after ↔
      ∃ mid, Performs s op answer mid ∧ mid.replay? rest = some after := by
  simp only [replay?, Option.bind_eq_bind, Option.bind_eq_some_iff, ← performs_iff]
  constructor
  · rintro ⟨⟨given, mid⟩, step, h⟩
    obtain ⟨rfl, hrest⟩ := Option.ite_none_right_eq_some.1 h
    exact ⟨mid, step, hrest⟩
  · rintro ⟨mid, step, hrest⟩
    exact ⟨(answer, mid), step, by simpa using hrest⟩

theorem replay?_append {s after : Signals} {before later : History} :
    s.replay? (before ++ later) = some after ↔
      ∃ mid, s.replay? before = some mid ∧ mid.replay? later = some after := by
  induction before generalizing s with
  | nil => simp [replay?]
  | cons e before ih =>
    obtain ⟨op, answer⟩ := e
    simp only [List.cons_append, replay?_cons, ih]
    constructor
    · rintro ⟨next, step, mid, hbefore, hlater⟩
      exact ⟨mid, ⟨next, step, hbefore⟩, hlater⟩
    · rintro ⟨mid, ⟨next, step, hbefore⟩, hlater⟩
      exact ⟨next, step, mid, hbefore, hlater⟩

theorem Sound.replay {s after : Signals} {history : History} (h : s.Sound)
    (run : s.replay? history = some after) : after.Sound := by
  induction history generalizing s with
  | nil =>
    cases run
    exact h
  | cons e rest ih =>
    obtain ⟨mid, step, hrest⟩ := replay?_cons.1 run
    exact ih (h.step step) hrest

theorem handles_prefix_replay {s after : Signals} {history : History}
    (run : s.replay? history = some after) : s.handles <+: after.handles := by
  induction history generalizing s with
  | nil =>
    cases run
    exact List.prefix_refl _
  | cons e rest ih =>
    obtain ⟨mid, step, hrest⟩ := replay?_cons.1 run
    exact step.handles_prefix.trans (ih hrest)

/-! ## Clones -/

/-- The origin of a handle is the first handle of its signal: `firsts` holds one for each signal. -/
structure Named (s : Signals) (origins firsts : List Nat) : Prop where
  length : firsts.length = s.signals.length
  nodup : firsts.Nodup
  bound : ∀ o ∈ firsts, o < s.handles.length
  named : origins.map some = s.handles.map fun i => firsts[i]?

theorem Named.origin {s : Signals} {origins firsts : List Nat} (h : s.Named origins firsts)
    {a i : Nat} (handle : s.handles[a]? = some i) : origins[a]? = firsts[i]? := by
  have both := congrArg (fun os => os[a]?) h.named
  simp only [List.getElem?_map, handle, Option.map_some, Option.map_eq_some_iff] at both
  obtain ⟨o, origin, found⟩ := both
  rw [origin, found]

theorem Named.step {s after : Signals} {op : Operation} {answer : Answer}
    {origins firsts : List Nat} (h : s.Named origins firsts) (sound : s.Sound)
    (step : Performs s op answer after) :
    ∃ firsts, after.Named (History.originsAfter origins op) firsts := by
  cases step with
  | @clone a i signal handle there =>
    have hi := (List.getElem?_eq_some_iff.1 there).1
    have first := List.getElem?_eq_getElem (h.length ▸ hi)
    refine ⟨firsts, h.length, h.nodup, fun o ho => ?_, ?_⟩
    · rw [List.length_append]
      exact Nat.lt_add_right _ (h.bound o ho)
    · simp [History.originsAfter, h.origin handle, first, h.named]
  | new =>
    have length : origins.length = s.handles.length := by
      simpa using congrArg List.length h.named
    refine ⟨firsts ++ [s.handles.length], by simp [h.length], ?_, fun o ho => ?_, ?_⟩
    · refine List.nodup_append.2 ⟨h.nodup, List.nodup_singleton _, fun o ho n hn => ?_⟩
      rw [List.mem_singleton.1 hn]
      exact Nat.ne_of_lt (h.bound o ho)
    · rw [List.length_append, List.length_singleton]
      rcases List.mem_append.1 ho with ho | ho
      · exact Nat.lt_succ_of_lt (h.bound o ho)
      · rw [List.mem_singleton.1 ho]
        exact Nat.lt_succ_self _
    · have earlier : s.handles.map (fun i => (firsts ++ [s.handles.length])[i]?) =
          s.handles.map fun i => firsts[i]? :=
        List.map_congr_left fun i hi =>
          List.getElem?_append_left (h.length.symm ▸ sound.handles i hi)
      simp [History.originsAfter, earlier, h.named, length, ← h.length]
  | subscribe | trigger | drop | poll =>
    exact ⟨firsts, by simpa using h.length, h.nodup, h.bound, h.named⟩
  | count => exact ⟨firsts, h⟩

theorem Named.replay {s after : Signals} {history : History} {origins firsts : List Nat}
    (h : s.Named origins firsts) (sound : s.Sound) (run : s.replay? history = some after) :
    ∃ firsts, after.Named (history.foldl (fun os e => History.originsAfter os e.1) origins) firsts := by
  induction history generalizing s origins firsts with
  | nil =>
    cases run
    exact ⟨firsts, h⟩
  | cons e rest ih =>
    obtain ⟨mid, step, hrest⟩ := replay?_cons.1 run
    obtain ⟨_, next⟩ := h.step sound step
    exact ih next (sound.step step) hrest

theorem named_of_replay {history : History} {s : Signals} (run : replay? {} history = some s) :
    ∃ firsts, s.Named history.origins firsts :=
  Named.replay ⟨rfl, List.nodup_singleton 0, by simp, rfl⟩ sound_start run

theorem length_origins {history : History} {s : Signals} (run : replay? {} history = some s) :
    history.origins.length = s.handles.length := by
  obtain ⟨firsts, named⟩ := named_of_replay run
  simpa using congrArg List.length named.named

/-- Handles are clones of one another exactly if they name one signal. -/
theorem clones_iff {history : History} {s : Signals} (run : replay? {} history = some s)
    {a b i : Nat} (handle : s.handles[b]? = some i) :
    history.Clones a b ↔ s.handles[a]? = some i := by
  obtain ⟨firsts, named⟩ := named_of_replay run
  have bound : i < firsts.length :=
    named.length ▸ (sound_start.replay run).handles i (List.mem_of_getElem? handle)
  rw [History.Clones, named.origin handle]
  cases other : s.handles[a]? with
  | some j =>
    rw [named.origin other, Option.some.injEq, eq_comm, List.getElem?_inj bound named.nodup, eq_comm]
  | none =>
    have missing : history.origins[a]? = none := by
      rw [List.getElem?_eq_none_iff, length_origins run]
      exact List.getElem?_eq_none_iff.1 other
    rw [missing, List.getElem?_eq_getElem bound]
    exact iff_of_false nofun nofun

/-! ## The account of a receiver -/

theorem Performs.reaches_eq {s after : Signals} {op : Operation} {answer : Answer}
    (step : Performs s op answer after) {handles : List Nat} (grown : s.handles <+: handles)
    (i : Nat) : reaches handles i op = reaches s.handles i op := by
  cases step with
  | trigger handle => simp only [reaches, handle, getElem?_of_prefix grown handle]
  | clone | new | subscribe | count | drop | poll => rfl

theorem Stands.replay {s after : Signals} {later : History} {r i next sent : Nat}
    (h : s.Stands r i next sent) (sound : s.Sound) (run : s.replay? later = some after)
    (kept : later.drops r = false) {handles : List Nat} (grown : after.handles <+: handles) :
    after.Stands r i (next + History.read later r)
      (sent + later.countP fun e => reaches handles i e.1) := by
  induction later generalizing s next sent with
  | nil =>
    cases run
    exact h
  | cons e rest ih =>
    obtain ⟨op, answer⟩ := e
    obtain ⟨mid, step, hrest⟩ := replay?_cons.1 run
    obtain ⟨hop, hkept⟩ : op ≠ .drop r ∧ History.drops rest r = false := by
      simpa [History.drops] using kept
    have moved := ih (h.step sound step hop) (sound.step step) hrest hkept
    have reached := step.reaches_eq (step.handles_prefix.trans
      ((handles_prefix_replay hrest).trans grown)) i
    have read : History.read ((op, answer) :: rest) r = told r (op, answer) + History.read rest r :=
      List.sum_cons
    have counted : (((op, answer) :: rest).countP fun e => reaches handles i e.1) =
        (reaches s.handles i op).toNat + rest.countP fun e => reaches handles i e.1 := by
      rw [List.countP_cons, reached, Bool.toNat, Bool.cond_eq_ite, Nat.add_comm]
    rwa [read, counted, ← Nat.add_assoc, ← Nat.add_assoc]

/-! ## All receivers -/

/-- The receivers, each with its signal. -/
def listed (s : Signals) : List (Option Nat × Nat) :=
  s.receivers.zipIdx.map fun q => (some q.1.1, q.2)

theorem listed_step {s after : Signals} {op : Operation} {answer : Answer}
    (step : Performs s op answer after) {handles : List Nat} (grown : s.handles <+: handles) :
    after.listed = s.listed ++
      (History.subscriptions [(op, answer)]).map fun q => (handles[q.1]?, q.2) := by
  cases step with
  | subscribe handle there =>
    simp [listed, List.zipIdx_append, History.subscriptions, getElem?_of_prefix grown handle]
  | clone | new | trigger | count | drop | poll => exact (List.append_nil _).symm

/-- Each subscription of a history makes one receiver, of the signal that its handle names. -/
theorem listed_replay {s after : Signals} {history : History}
    (run : s.replay? history = some after) {handles : List Nat}
    (grown : after.handles <+: handles) :
    after.listed = s.listed ++ history.subscriptions.map fun q => (handles[q.1]?, q.2) := by
  induction history generalizing s with
  | nil =>
    cases run
    exact (List.append_nil _).symm
  | cons e rest ih =>
    obtain ⟨mid, step, hrest⟩ := replay?_cons.1 run
    have first := listed_step step (step.handles_prefix.trans
      ((handles_prefix_replay hrest).trans grown))
    have both : History.subscriptions (e :: rest) =
        History.subscriptions [e] ++ History.subscriptions rest := by
      rw [History.subscriptions, ← List.singleton_append, List.filterMap_append]
      rfl
    rw [ih hrest, first, both, List.map_append, List.append_assoc]

/-- The receiver has not been dropped; it may be still to come. -/
def kept (s : Signals) (r : Nat) : Bool :=
  decide (s.receivers.length ≤ r) || (s.receiver? r).isSome

theorem Sound.kept_step {s after : Signals} {op : Operation} {answer : Answer} (h : s.Sound)
    (step : Performs s op answer after) (r : Nat) :
    after.kept r = (s.kept r && op ≠ .drop r) := by
  by_cases subscribed : r < s.receivers.length
  · have still := Nat.lt_of_lt_of_le subscribed step.receivers_prefix.length_le
    have there : ¬ s.receivers.length ≤ r := Nat.not_le_of_lt subscribed
    have there_after : ¬ after.receivers.length ≤ r := Nat.not_le_of_lt still
    rw [kept, kept, h.receiver?_step step subscribed]
    by_cases dropped : op = .drop r
    · simp [dropped, there_after]
    · simp [dropped, there, there_after]
  · have coming : s.receivers.length ≤ r := Nat.le_of_not_lt subscribed
    have yet : s.kept r = true := by simp [kept, coming]
    rw [yet, Bool.true_and]
    cases step with
    | @subscribe a i signal handle there =>
      by_cases hr : r = s.receivers.length
      · subst hr
        obtain ⟨_, _, -, new⟩ := stands_subscribe (.subscribe handle there)
        rw [kept, new.present]
        simp
      · have later : s.receivers.length + 1 ≤ r := by omega
        simp [kept, later]
    | @drop p i k signal receiver there =>
      have earlier := (List.getElem?_eq_some_iff.1 receiver).1
      have other : p ≠ r := by omega
      simp [kept, coming, other]
    | clone | new | trigger | count | poll => simp [kept, coming]

theorem Sound.kept_replay {s after : Signals} {history : History} (h : s.Sound)
    (run : s.replay? history = some after) (r : Nat) :
    after.kept r = (s.kept r && !history.drops r) := by
  induction history generalizing s with
  | nil =>
    cases run
    simp [History.drops]
  | cons e rest ih =>
    obtain ⟨mid, step, hrest⟩ := replay?_cons.1 run
    rw [ih (h.step step) hrest, h.kept_step step]
    simp [History.drops, Bool.and_assoc]

/-! ## Conservation -/

/-- The account of the signals after a history. -/
structure Conserved (history : History) (s : Signals) : Prop where
  /-- What a receiver was told of so far and what it finds next make up the triggers through clones
  of its handle since it was subscribed. -/
  told : ∀ before h r (later : History), history = before ++ (.subscribe h, .index r) :: later →
    later.drops r = false →
    later.read r ≤ history.made h later ∧
      ∃ found after, s.perform? (.poll r) = some (.polled (some found), after) ∧
        found = .ofUnread (history.made h later - later.read r) ∧
        (found = .empty ↔ later.read r = history.made h later)
  /-- Each handle counts the receivers that are left of those subscribed through its clones. -/
  counted : ∀ h < history.origins.length,
    s.perform? (.count h) = some (.count (history.living h), s)
  /-- A history can go on with any operation. -/
  performed : ∀ op, history.Names op → ∃ answer after, s.perform? op = some (answer, after)

theorem made_eq {history : History} {s : Signals} (run : replay? {} history = some s) {h i : Nat}
    (handle : s.handles[h]? = some i) (later : History) :
    history.made h later = later.countP fun e => reaches s.handles i e.1 := by
  refine List.countP_congr fun ⟨op, _⟩ _ => ?_
  cases op with
  | trigger t => simp only [reaches, clones_iff run handle]
  | clone | new | subscribe | count | drop | poll => rfl

theorem living_eq {history : History} {s : Signals} (run : replay? {} history = some s) {h i : Nat}
    (handle : s.handles[h]? = some i) :
    history.living h =
      s.receivers.zipIdx.countP fun q => q.1.1 = i && (s.receiver? q.2).isSome := by
  calc history.living h
    _ = (history.subscriptions.map fun q => (s.handles[q.1]?, q.2)).countP
          fun q => q.1 = some i && !history.drops q.2 := by
      rw [List.countP_map]
      refine List.countP_congr fun q _ => ?_
      simp only [Function.comp_apply, clones_iff run handle]
    _ = s.listed.countP fun q => q.1 = some i && !history.drops q.2 := by
      rw [listed_replay run (List.prefix_refl _)]
      rfl
    _ = s.receivers.zipIdx.countP fun q => q.1.1 = i && (s.receiver? q.2).isSome := by
      rw [listed, List.countP_map]
      refine List.countP_congr fun ⟨p, r⟩ hq => ?_
      have subscribed := (List.getElem?_eq_some_iff.1 (List.mem_zipIdx_iff_getElem?.1 hq)).1
      have left : (s.receiver? r).isSome = !history.drops r := by
        simpa [kept, Nat.not_le_of_lt subscribed] using sound_start.kept_replay run r
      simp [left]

theorem exists_handle {history : History} {s : Signals} (run : replay? {} history = some s)
    {h : Nat} (hh : h < history.origins.length) :
    ∃ i signal, s.handles[h]? = some i ∧ s.signals[i]? = some signal := by
  have handle := List.getElem?_eq_getElem (length_origins run ▸ hh)
  have bound := (sound_start.replay run).handles _ (List.mem_of_getElem? handle)
  exact ⟨_, _, handle, List.getElem?_eq_getElem bound⟩

theorem exists_receiver {history : History} {s : Signals} (run : replay? {} history = some s)
    {r : Nat} (hr : r < history.subscriptions.length) :
    ∃ i k signal, s.receivers[r]? = some (i, k) ∧ s.signals[i]? = some signal := by
  have length : s.receivers.length = history.subscriptions.length := by
    simpa [listed] using congrArg List.length (listed_replay run (List.prefix_refl _))
  have receiver := List.getElem?_eq_getElem (length ▸ hr)
  have bound := (sound_start.replay run).receivers _ (List.mem_of_getElem? receiver)
  exact ⟨_, _, _, receiver, List.getElem?_eq_getElem bound⟩

theorem perform?_of_names {history : History} {s : Signals} (run : replay? {} history = some s)
    {op : Operation} (names : history.Names op) :
    ∃ answer after, s.perform? op = some (answer, after) := by
  cases op with
  | new => exact ⟨_, _, rfl⟩
  | clone h =>
    obtain ⟨i, signal, handle, there⟩ := exists_handle run names
    exact ⟨_, _, performs_iff.2 (.clone handle there)⟩
  | subscribe h =>
    obtain ⟨i, signal, handle, there⟩ := exists_handle run names
    exact ⟨_, _, performs_iff.2 (.subscribe handle there)⟩
  | trigger h =>
    obtain ⟨i, signal, handle, there⟩ := exists_handle run names
    exact ⟨_, _, performs_iff.2 (.trigger handle there)⟩
  | count h =>
    obtain ⟨i, signal, handle, there⟩ := exists_handle run names
    exact ⟨_, _, performs_iff.2 (.count handle there)⟩
  | drop r =>
    obtain ⟨i, k, signal, receiver, there⟩ := exists_receiver run names
    exact ⟨_, _, performs_iff.2 (.drop receiver there)⟩
  | poll r =>
    obtain ⟨i, k, signal, receiver, there⟩ := exists_receiver run names
    exact ⟨_, _, performs_iff.2 (.poll receiver there)⟩

/-- No trigger is lost on a receiver that is left or told to it twice, nothing else reaches it, and
no receiver is counted that was dropped or belongs to other handles. -/
theorem conserved {history : History} {s : Signals} (run : replay? {} history = some s) :
    Conserved history s := by
  have sound := sound_start.replay run
  refine ⟨fun before h r later split kept => ?_, fun h hh => ?_, fun op names => ?_⟩
  · subst split
    obtain ⟨mid, hbefore, hmid⟩ := replay?_append.1 run
    obtain ⟨next, step, hlater⟩ := replay?_cons.1 hmid
    obtain ⟨i, sent, handle, fresh⟩ := stands_subscribe step
    have stands := fresh.replay ((sound_start.replay hbefore).step step) hlater kept
      (List.prefix_refl _)
    obtain ⟨after, polled⟩ := stands.poll
    have named := getElem?_of_prefix (handles_prefix_replay hlater) handle
    have bound := stands.bound
    rw [Nat.add_sub_add_left] at polled
    rw [made_eq run named later]
    refine ⟨by omega, _, after, polled, rfl, ?_⟩
    rw [Poll.ofUnread_eq_empty_iff]
    omega
  · obtain ⟨i, signal, handle, there⟩ := exists_handle run hh
    rw [performs_iff.2 (.count handle there), living_eq run handle, sound.receiverCount_eq there]
  · exact perform?_of_names run names

/-- Three triggers through three clones, of which one was overwritten and told of, and one through an
unrelated handle; of two receivers one was dropped. -/
def cloned : History := [
  (.clone 0, .index 1), (.new, .index 2), (.subscribe 1, .index 0), (.trigger 0, .done),
  (.trigger 2, .done), (.clone 1, .index 3), (.trigger 3, .done), (.subscribe 0, .index 1),
  (.poll 0, .polled (some (.lagged 1))), (.trigger 1, .done), (.drop 1, .dropped true)]

theorem conserved_through_clones :
    ∃ s, replay? {} cloned = some s ∧
      (∃ after, s.perform? (.poll 0) = some (.polled (some (.lagged 1)), after)) ∧
      s.perform? (.count 3) = some (.count 1, s) := by
  have run : replay? {} cloned = some
      ⟨[⟨3, [some ⟨1⟩, none]⟩, {}], [0, 0, 1, 0], [(0, 0), (0, 1)]⟩ := by decide
  obtain ⟨told, counted, -⟩ := conserved run
  obtain ⟨-, found, after, polled, rfl, -⟩ := told (cloned.take 2) 1 0 (cloned.drop 3) rfl rfl
  exact ⟨_, run, ⟨after, polled⟩, counted 3 (by decide)⟩

end Signals

end Patchbay
