/-
Reloading under load: whatever reloads come between the steps of the lanes, each message is
dispatched under the one routing that was active when it was loaded. The invariant ties what a lane
is doing to the routing it loaded and never to the one that is published now.

Nothing is torn because nothing is given up either: the next step of a lane is always possible, and it
depends on what the lane is doing and not on what is published. So a lane that is at work gets through
the rest of its plan with its next steps, whatever the others do meanwhile.
-/
import Patchbay.Dispatch
import Patchbay.Relay
import Mathlib.Data.List.Permutation

namespace Patchbay

/-! ## One lane -/

namespace Lane

variable {σ : Type}

/-- What a mark says was done to the network. -/
def Mark.perform (wire : Wire σ) (s : σ) : Mark → σ
  | .sent m pool f => (pool.sink wire s f.target f.path m).2
  | _ => s

/-- The marks that belong to a step. -/
inductive Step.Shows : Step → Mark → Prop where
  | taken (m : Osc.Message) : Shows .take (.taken m)
  | loaded (m : Osc.Message) (routing : Routing) : Shows .load (.loaded m routing)
  | sent (m : Osc.Message) (pool : Pool) (f : Forward) : Shows .send (.sent m pool f)
  | finished (m : Osc.Message) : Shows .send (.finished m)

/-- The step that a lane can take. -/
def next? (lane : Lane) : Option Step :=
  match lane.work, lane.queue with
  | .idle, [] => none
  | .idle, _ :: _ => some .take
  | .taken _, _ => some .load
  | .sending .., _ => some .send

/-- Sends through the clients of one routing, each once and in order. -/
def sends (m : Osc.Message) (routing : Routing) (plan : List Forward) : List Mark :=
  plan.map fun f => .sent m routing.pool f

/-- What a lane shows for a message that it has dispatched under a routing. -/
def dispatched (m : Osc.Message) (routing : Routing) : List Mark :=
  .taken m :: .loaded m routing ::
    (sends m routing (routing.table.plan m.address) ++ [.finished m])

/-- What a lane has taken from its queue and shown since it was last idle. -/
inductive Pending : Work → List Osc.Message → List Mark → Prop where
  | idle : Pending .idle [] []
  | taken (m : Osc.Message) : Pending (.taken m) [m] [.taken m]
  | sending {m : Osc.Message} {routing : Routing} {made rest : List Forward}
      (plan : routing.table.plan m.address = made ++ rest) :
      Pending (.sending m routing rest) [m] (.taken m :: .loaded m routing :: sends m routing made)

/-- The marks of a lane are those of the messages at the front of its queue, dispatched one after
the other under one routing each, and of the message it is at work on. -/
def Follows (queue : List Osc.Message) (lane : Lane) (marks : List Mark) : Prop :=
  ∃ (done : List (Osc.Message × Routing)) (current : List Osc.Message) (tail : List Mark),
    queue = done.map (·.1) ++ current ++ lane.queue ∧
    marks = done.flatMap (fun d => dispatched d.1 d.2) ++ tail ∧
    Pending lane.work current tail

section

variable {lane after : Lane} {wire : Wire σ} {published : Routing} {s s' : σ} {a : Step}
  {mark : Mark}

/-- Everything one step of a lane can do. -/
theorem step_cases (h : lane.step wire published s a = some (after, s', mark)) :
    (∃ m queue, a = .take ∧ lane = ⟨m :: queue, .idle⟩ ∧ after = ⟨queue, .taken m⟩ ∧ s' = s ∧
      mark = .taken m) ∨
    (∃ m queue, a = .load ∧ lane = ⟨queue, .taken m⟩ ∧
      after = ⟨queue, .sending m published (published.table.plan m.address)⟩ ∧ s' = s ∧
      mark = .loaded m published) ∨
    (∃ m routing f rest queue, a = .send ∧ lane = ⟨queue, .sending m routing (f :: rest)⟩ ∧
      after = ⟨queue, .sending m routing rest⟩ ∧
      s' = (routing.pool.sink wire s f.target f.path m).2 ∧ mark = .sent m routing.pool f) ∨
    (∃ m routing queue, a = .send ∧ lane = ⟨queue, .sending m routing []⟩ ∧
      after = ⟨queue, .idle⟩ ∧ s' = s ∧ mark = .finished m) := by
  obtain ⟨queue, work⟩ := lane
  cases a with
  | take =>
    cases work with
    | taken | sending => cases h
    | idle =>
      cases queue with
      | nil => cases h
      | cons m queue =>
        cases h
        exact .inl ⟨m, queue, rfl, rfl, rfl, rfl, rfl⟩
  | load =>
    cases work with
    | idle | sending => cases h
    | taken m =>
      cases h
      exact .inr (.inl ⟨m, queue, rfl, rfl, rfl, rfl, rfl⟩)
  | send =>
    cases work with
    | idle | taken => cases h
    | sending m routing rest =>
      cases rest with
      | cons f rest =>
        cases h
        exact .inr (.inr (.inl ⟨m, routing, f, rest, queue, rfl, rfl, rfl, rfl, rfl⟩))
      | nil =>
        cases h
        exact .inr (.inr (.inr ⟨m, routing, queue, rfl, rfl, rfl, rfl, rfl⟩))

/-- A step is possible exactly if it is the next one, whatever is published. -/
theorem step_isSome_iff (lane : Lane) (wire : Wire σ) (published : Routing) (s : σ) (a : Step) :
    (lane.step wire published s a).isSome = true ↔ lane.next? = some a := by
  obtain ⟨queue, work⟩ := lane
  cases work with
  | idle => cases queue <;> cases a <;> simp [step, next?]
  | taken m => cases a <;> simp [step, next?]
  | sending m routing rest => cases rest <;> cases a <;> simp [step, next?]

theorem step_shows (h : lane.step wire published s a = some (after, s', mark)) : a.Shows mark := by
  rcases step_cases h with ⟨m, -, rfl, -, -, -, rfl⟩ | ⟨m, -, rfl, -, -, -, rfl⟩ |
    ⟨m, _, f, -, -, rfl, -, -, -, rfl⟩ | ⟨m, -, -, rfl, -, -, -, rfl⟩
  · exact .taken m
  · exact .loaded m published
  · exact .sent m _ f
  · exact .finished m

/-- A step does to the network what its mark says. -/
theorem step_perform (h : lane.step wire published s a = some (after, s', mark)) :
    s' = mark.perform wire s := by
  rcases step_cases h with ⟨_, _, -, -, -, rfl, rfl⟩ | ⟨_, _, -, -, -, rfl, rfl⟩ |
    ⟨_, _, _, _, _, -, -, -, rfl, rfl⟩ | ⟨_, _, _, -, -, -, rfl, rfl⟩ <;> rfl

/-- A lane loads what is published at that moment. -/
theorem loaded_eq {routing : Routing} {m : Osc.Message}
    (h : lane.step wire published s a = some (after, s', .loaded m routing)) :
    routing = published := by
  rcases step_cases h with ⟨_, _, -, -, -, -, shown⟩ | ⟨_, _, -, -, -, -, shown⟩ |
    ⟨_, _, _, _, _, -, -, -, -, shown⟩ | ⟨_, _, _, -, -, -, -, shown⟩ <;> cases shown
  rfl

theorem follows_start (queue : List Osc.Message) : Follows queue { queue } [] :=
  ⟨[], [], [], rfl, rfl, .idle⟩

/-- A step of a lane keeps to its queue, whatever is published when it is taken. -/
theorem Follows.step {queue : List Osc.Message} {marks : List Mark} (h : Follows queue lane marks)
    (hstep : lane.step wire published s a = some (after, s', mark)) :
    Follows queue after (marks ++ [mark]) := by
  obtain ⟨done, current, tail, hqueue, hmarks, pending⟩ := h
  -- what is pending is told by what the lane is doing
  rcases step_cases hstep with ⟨m, left, rfl, rfl, rfl, -, rfl⟩ | ⟨m, left, rfl, rfl, rfl, -, rfl⟩ |
    ⟨m, routing, f, rest, left, rfl, rfl, rfl, -, rfl⟩ | ⟨m, routing, left, rfl, rfl, rfl, -, rfl⟩
  · cases pending
    exact ⟨done, [m], [.taken m], by simpa using hqueue, by simp [hmarks], .taken m⟩
  · cases pending
    exact ⟨done, [m], [.taken m, .loaded m published], hqueue, by simp [hmarks],
      .sending (List.nil_append _).symm⟩
  · cases pending with
    | @sending _ _ made _ plan =>
      have grown : routing.table.plan m.address = (made ++ [f]) ++ rest := by
        rw [plan, List.append_assoc, List.singleton_append]
      exact ⟨done, [m], _, hqueue, by simp [hmarks, sends], .sending grown⟩
  · cases pending with
    | @sending _ _ made _ plan =>
      have whole : made = routing.table.plan m.address := by
        rw [plan, List.append_nil]
      refine ⟨done ++ [(m, routing)], [], [], by simpa using hqueue, ?_, .idle⟩
      simp [hmarks, dispatched, whole]

end

end Lane

/-! ## All lanes -/

namespace Relay

variable {σ : Type} {wire : Wire σ}

/-- The step of lane `i` that an action is, if it is one. -/
def Action.ofLane? (i : Nat) : Action → Option Lane.Step
  | .lane j x => if j = i then some x else none
  | .reload _ => none

def Mark.ofLane? (i : Nat) : Mark → Option Lane.Mark
  | .lane j mark => if j = i then some mark else none
  | .published _ => none
  | .kept _ => none

/-- The steps of lane `i`, in order. -/
def stepsOf (i : Nat) (actions : List Action) : List Lane.Step := actions.filterMap (·.ofLane? i)

/-- What lane `i` shows, in order. -/
def marksOf (i : Nat) (marks : List Mark) : List Lane.Mark := marks.filterMap (·.ofLane? i)

section

variable {i j : Nat}

@[simp] theorem stepsOf_nil : stepsOf i [] = [] := rfl

@[simp] theorem stepsOf_self (x : Lane.Step) (rest : List Action) :
    stepsOf i (.lane i x :: rest) = x :: stepsOf i rest := by
  simp [stepsOf, Action.ofLane?]

theorem stepsOf_other (h : j ≠ i) (x : Lane.Step) (rest : List Action) :
    stepsOf i (.lane j x :: rest) = stepsOf i rest := by
  simp [stepsOf, Action.ofLane?, h]

@[simp] theorem stepsOf_reload (result : Except StartError Routing) (rest : List Action) :
    stepsOf i (.reload result :: rest) = stepsOf i rest := rfl

@[simp] theorem marksOf_nil : marksOf i [] = [] := rfl

@[simp] theorem marksOf_self (mark : Lane.Mark) (rest : List Mark) :
    marksOf i (.lane i mark :: rest) = mark :: marksOf i rest := by
  simp [marksOf, Mark.ofLane?]

theorem marksOf_other (h : j ≠ i) (mark : Lane.Mark) (rest : List Mark) :
    marksOf i (.lane j mark :: rest) = marksOf i rest := by
  simp [marksOf, Mark.ofLane?, h]

@[simp] theorem marksOf_published (routing : Routing) (rest : List Mark) :
    marksOf i (.published routing :: rest) = marksOf i rest := rfl

@[simp] theorem marksOf_kept (e : StartError) (rest : List Mark) :
    marksOf i (.kept e :: rest) = marksOf i rest := rfl

@[simp] theorem marksOf_append (before after : List Mark) :
    marksOf i (before ++ after) = marksOf i before ++ marksOf i after :=
  List.filterMap_append

end

def Mark.perform (wire : Wire σ) (s : σ) : Mark → σ
  | .lane _ mark => mark.perform wire s
  | _ => s

/-- The mark that belongs to an action. -/
inductive Action.Shows : Action → Mark → Prop where
  | lane (i : Nat) {x : Lane.Step} {mark : Lane.Mark} (shows : x.Shows mark) :
      Shows (.lane i x) (.lane i mark)
  | published (routing : Routing) : Shows (.reload (.ok routing)) (.published routing)
  | kept (e : StartError) : Shows (.reload (.error e)) (.kept e)

/-- The routing that is active after some actions: that of the last reload that succeeded. -/
def activeAfter (routing : Routing) : List Action → Routing
  | [] => routing
  | .reload (.ok next) :: rest => activeAfter next rest
  | .reload (.error _) :: rest => activeAfter routing rest
  | .lane _ _ :: rest => activeAfter routing rest

theorem activeAfter_append (routing : Routing) (before after : List Action) :
    activeAfter routing (before ++ after) = activeAfter (activeAfter routing before) after := by
  induction before generalizing routing with
  | nil => rfl
  | cons a before ih =>
    rcases a with _ | (_ | _) <;> exact ih _

/-- Everything one step can do. -/
theorem step_cases {r after : Relay σ} {a : Action} {mark : Mark}
    (h : r.step wire a = some (after, mark)) :
    (∃ i x lane next s shown, a = .lane i x ∧ r.lanes[i]? = some lane ∧
      lane.step wire r.routing r.network x = some (next, s, shown) ∧
      after = { r with lanes := r.lanes.set i next, network := s } ∧ mark = .lane i shown) ∨
    (∃ routing, a = .reload (.ok routing) ∧ after = { r with routing := routing } ∧
      mark = .published routing) ∨
    (∃ e, a = .reload (.error e) ∧ after = r ∧ mark = .kept e) := by
  cases a with
  | lane i x =>
    simp only [step, Option.bind_eq_bind, Option.bind_eq_some_iff, Option.pure_def,
      Option.some.injEq] at h
    obtain ⟨lane, hlane, ⟨next, s, shown⟩, hstep, heq⟩ := h
    cases heq
    exact .inl ⟨i, x, lane, next, s, shown, rfl, hlane, hstep, rfl, rfl⟩
  | reload result =>
    cases result with
    | ok routing =>
      cases h
      exact .inr (.inl ⟨routing, rfl, rfl, rfl⟩)
    | error e =>
      cases h
      exact .inr (.inr ⟨e, rfl, rfl, rfl⟩)

/-- A step of a lane is a step of all. -/
theorem step_lane {r : Relay σ} {i : Nat} {lane next : Lane} {x : Lane.Step} {s : σ}
    {mark : Lane.Mark} (hlane : r.lanes[i]? = some lane)
    (hstep : lane.step wire r.routing r.network x = some (next, s, mark)) :
    r.step wire (.lane i x) =
      some ({ r with lanes := r.lanes.set i next, network := s }, .lane i mark) := by
  simp only [step, hlane, hstep, Option.bind_eq_bind, Option.bind_some, Option.pure_def]

theorem step_lane_isSome_iff {r : Relay σ} {i : Nat} {lane : Lane}
    (hlane : r.lanes[i]? = some lane) (x : Lane.Step) :
    (r.step wire (.lane i x)).isSome = true ↔ lane.next? = some x := by
  rw [← lane.step_isSome_iff wire r.routing r.network x]
  cases hstep : lane.step wire r.routing r.network x with
  | none => simp [step, hlane, hstep]
  | some result => simp [step_lane hlane hstep]

theorem step_shows {r after : Relay σ} {a : Action} {mark : Mark}
    (h : r.step wire a = some (after, mark)) : a.Shows mark := by
  rcases step_cases h with ⟨i, x, lane, next, s, shown, rfl, -, hstep, -, rfl⟩ |
    ⟨routing, rfl, -, rfl⟩ | ⟨e, rfl, -, rfl⟩
  · exact .lane i (Lane.step_shows hstep)
  · exact .published routing
  · exact .kept e

theorem run_cons {r mid last : Relay σ} {a : Action} {rest : List Action} {mark : Mark}
    {marks : List Mark} (first : r.step wire a = some (mid, mark))
    (later : mid.run wire rest = some (last, marks)) :
    r.run wire (a :: rest) = some (last, mark :: marks) := by
  simp only [run, first, later, Option.bind_eq_bind, Option.bind_some, Option.pure_def]

theorem run_cons_cases {r last : Relay σ} {a : Action} {rest : List Action} {marks : List Mark}
    (h : r.run wire (a :: rest) = some (last, marks)) :
    ∃ mid mark more, r.step wire a = some (mid, mark) ∧ mid.run wire rest = some (last, more) ∧
      marks = mark :: more := by
  simp only [run, Option.bind_eq_bind, Option.bind_eq_some_iff, Option.pure_def,
    Option.some.injEq] at h
  obtain ⟨⟨mid, mark⟩, first, ⟨end_, more⟩, later, heq⟩ := h
  cases heq
  exact ⟨mid, mark, more, first, later, rfl⟩

theorem run_append {r mid last : Relay σ} {before after : List Action} {shown marks : List Mark}
    (first : r.run wire before = some (mid, shown))
    (later : mid.run wire after = some (last, marks)) :
    r.run wire (before ++ after) = some (last, shown ++ marks) := by
  induction before generalizing r shown with
  | nil =>
    cases first
    exact later
  | cons a before ih =>
    obtain ⟨next, mark, more, hstep, hrest, rfl⟩ := run_cons_cases first
    exact run_cons hstep (ih hrest)

/-! ## What a run keeps -/

/-- What holds after the actions `seen`, with a mark for each of them. -/
structure Coherent (wire : Wire σ) (start : Routing) (queues : List (List Osc.Message)) (s : σ)
    (seen : List Action) (marks : List Mark) (r : Relay σ) : Prop where
  shown : List.Forall₂ Action.Shows seen marks
  network : r.network = marks.foldl (Mark.perform wire) s
  active : r.routing = activeAfter start seen
  loads : ∀ n i m routing, marks[n]? = some (.lane i (.loaded m routing)) →
    routing = activeAfter start (seen.take n)
  lanes : r.lanes.length = queues.length
  follows : ∀ i queue lane, queues[i]? = some queue → r.lanes[i]? = some lane →
    Lane.Follows queue lane (marksOf i marks)

theorem coherent_start (start : Routing) (queues : List (List Osc.Message)) (s : σ) :
    Coherent wire start queues s [] [] (ofQueues start queues s) := by
  refine ⟨.nil, rfl, rfl, by simp, by simp [ofQueues], fun i queue lane hqueue hlane => ?_⟩
  simp only [ofQueues, List.getElem?_map, hqueue, Option.map_some, Option.some.injEq] at hlane
  subst hlane
  exact Lane.follows_start queue

theorem Coherent.step {start : Routing} {queues : List (List Osc.Message)} {s : σ}
    {seen : List Action} {marks : List Mark} {r after : Relay σ} {a : Action} {mark : Mark}
    (h : Coherent wire start queues s seen marks r) (hstep : r.step wire a = some (after, mark)) :
    Coherent wire start queues s (seen ++ [a]) (marks ++ [mark]) after := by
  have shown : List.Forall₂ Action.Shows (seen ++ [a]) (marks ++ [mark]) :=
    List.rel_append h.shown (.cons (step_shows hstep) .nil)
  have length : marks.length = seen.length := h.shown.length_eq.symm
  -- the new mark is the last one; a routing it shows as loaded is the one that was published
  have loads (last : ∀ i m routing, mark = .lane i (.loaded m routing) → routing = r.routing) :
      ∀ n i m routing, (marks ++ [mark])[n]? = some (.lane i (.loaded m routing)) →
        routing = activeAfter start ((seen ++ [a]).take n) := by
    intro n i m routing hn
    rcases Nat.lt_trichotomy n marks.length with hlt | heq | hgt
    · rw [List.getElem?_append_left hlt] at hn
      rw [List.take_append_of_le_length (by omega)]
      exact h.loads n i m routing hn
    · rw [heq, List.getElem?_concat_length] at hn
      rw [heq, length, List.take_left', ← h.active]
      · exact last i m routing (Option.some.inj hn)
      · rfl
    · rw [List.getElem?_eq_none (by simp only [List.length_append, List.length_singleton]; omega)]
        at hn
      cases hn
  have follows_of_none (none : ∀ i, mark.ofLane? i = none) :
      ∀ i queue lane, queues[i]? = some queue → r.lanes[i]? = some lane →
        Lane.Follows queue lane (marksOf i (marks ++ [mark])) := by
    intro i queue lane hqueue hlane
    have same : marksOf i (marks ++ [mark]) = marksOf i marks := by
      simp [marksOf, none i]
    exact same ▸ h.follows i queue lane hqueue hlane
  have network (performed : after.network = mark.perform wire r.network) :
      after.network = (marks ++ [mark]).foldl (Mark.perform wire) s := by
    rw [List.foldl_concat, ← h.network]
    exact performed
  rcases step_cases hstep with ⟨i, x, lane, next, s', shown', rfl, hlane, hnext, rfl, rfl⟩ |
    ⟨routing, rfl, rfl, rfl⟩ | ⟨e, rfl, rfl, rfl⟩
  · refine ⟨shown, network (Lane.step_perform hnext), ?_, loads ?_, by simpa using h.lanes, ?_⟩
    · rw [activeAfter_append, ← h.active]
      rfl
    · intro j m routing heq
      cases heq
      exact Lane.loaded_eq hnext
    · intro j queue other hqueue hother
      by_cases hij : i = j
      · subst hij
        rw [List.getElem?_set_self (List.getElem?_eq_some_iff.1 hlane).1] at hother
        cases hother
        simpa using (h.follows i queue lane hqueue hlane).step hnext
      · rw [List.getElem?_set_ne hij] at hother
        simpa [marksOf_other hij] using h.follows j queue other hqueue hother
  · refine ⟨shown, network rfl, ?_, loads nofun, h.lanes, follows_of_none fun _ => rfl⟩
    rw [activeAfter_append]
    rfl
  · refine ⟨shown, network rfl, ?_, loads nofun, h.lanes, follows_of_none fun _ => rfl⟩
    rw [activeAfter_append, ← h.active]
    rfl

theorem Coherent.run {start : Routing} {queues : List (List Osc.Message)} {s : σ}
    {seen actions : List Action} {shown marks : List Mark} {r after : Relay σ}
    (h : Coherent wire start queues s seen shown r)
    (hrun : r.run wire actions = some (after, marks)) :
    Coherent wire start queues s (seen ++ actions) (shown ++ marks) after := by
  induction actions generalizing seen shown marks r with
  | nil =>
    cases hrun
    simpa using h
  | cons a rest ih =>
    obtain ⟨next, mark, later, hstep, hrest, rfl⟩ := run_cons_cases hrun
    simpa using ih (h.step hstep) hrest

/-! ## How a lane gets on -/

/-- Only lane `i` moves; reloads may be attempted between its steps. -/
def Alone (i : Nat) (actions : List Action) : Prop :=
  ∀ a ∈ actions, (∃ x, a = .lane i x) ∨ ∃ result, a = .reload result

/-- A lane that is at work gets through the rest of its plan with its next steps, whatever the other
lanes do between them and whatever is published. -/
theorem resumed_of_run {r last : Relay σ} {i : Nat} {queue : List Osc.Message} {m : Osc.Message}
    {routing : Routing} {rest : List Forward} {later : List Action} {shown : List Mark}
    (hlane : r.lanes[i]? = some ⟨queue, .sending m routing rest⟩)
    (hrun : r.run wire later = some (last, shown)) (enough : rest.length < (stepsOf i later).length) :
    Lane.sends m routing rest ++ [.finished m] <+: marksOf i shown := by
  induction later generalizing r rest shown with
  | nil => cases enough
  | cons a later ih =>
    obtain ⟨next, mark, more, hstep, hrest, rfl⟩ := run_cons_cases hrun
    rcases step_cases hstep with ⟨j, x, lane, after, s, shown, rfl, hother, hnext, rfl, rfl⟩ |
      ⟨fresh, rfl, rfl, rfl⟩ | ⟨_, rfl, rfl, rfl⟩
    · by_cases hij : j = i
      · subst hij
        rw [hlane, Option.some.injEq] at hother
        subst hother
        have there := List.getElem?_set_self (a := after) (List.getElem?_eq_some_iff.1 hlane).1
        rw [stepsOf_self, List.length_cons] at enough
        rw [marksOf_self]
        rcases Lane.step_cases hnext with ⟨_, _, -, doing, -⟩ | ⟨_, _, -, doing, -⟩ |
          ⟨_, _, f, rest, _, rfl, doing, rfl, -, rfl⟩ | ⟨_, _, _, rfl, doing, rfl, -, rfl⟩
        · cases doing
        · cases doing
        · cases doing
          rw [List.length_cons] at enough
          exact List.cons_prefix_cons.2 ⟨rfl, ih there hrest (by omega)⟩
        · cases doing
          exact List.cons_prefix_cons.2 ⟨rfl, List.nil_prefix⟩
      · have there : (r.lanes.set j after)[i]? = some ⟨queue, .sending m routing rest⟩ := by
          rwa [List.getElem?_set_ne hij]
        rw [stepsOf_other hij] at enough
        rw [marksOf_other hij]
        exact ih there hrest enough
    · rw [marksOf_published]
      exact ih (r := { r with routing := fresh }) hlane hrest enough
    · rw [marksOf_kept]
      exact ih hlane hrest enough

/-- Reload attempts change nothing but what is published. -/
theorem run_reloads (wire : Wire σ) (r : Relay σ) {i : Nat} {actions : List Action}
    (alone : Alone i actions) (still : stepsOf i actions = []) :
    ∃ shown, r.run wire actions = some ({ r with routing := activeAfter r.routing actions }, shown) ∧
      marksOf i shown = [] := by
  induction actions generalizing r with
  | nil => exact ⟨[], rfl, rfl⟩
  | cons a rest ih =>
    obtain ⟨first, others⟩ := List.forall_mem_cons.1 alone
    rcases first with ⟨x, rfl⟩ | ⟨_ | fresh, rfl⟩
    · simp at still
    · obtain ⟨shown, hrun, none⟩ := ih r others still
      exact ⟨_, run_cons rfl hrun, none⟩
    · obtain ⟨shown, hrun, none⟩ := ih { r with routing := fresh } others still
      exact ⟨_, run_cons rfl hrun, none⟩

/-- Only reload attempts come before the next step of a lane that is alone. -/
theorem exists_next (wire : Wire σ) (r : Relay σ) {i : Nat} {actions : List Action} {x : Lane.Step}
    {later : List Lane.Step} (alone : Alone i actions) (steps : stepsOf i actions = x :: later) :
    ∃ before after shown, actions = before ++ .lane i x :: after ∧ Alone i after ∧
      stepsOf i after = later ∧
      r.run wire before = some ({ r with routing := activeAfter r.routing before }, shown) ∧
      marksOf i shown = [] := by
  obtain ⟨before, a, after, rfl, none, next, rest⟩ := List.filterMap_eq_cons_iff.1 steps
  obtain ⟨first, others⟩ := List.forall_mem_append.1 alone
  have a_eq : a = .lane i x := by
    rcases (List.forall_mem_cons.1 others).1 with ⟨y, rfl⟩ | ⟨result, rfl⟩
    · simpa [Action.ofLane?] using next
    · cases next
  subst a_eq
  obtain ⟨shown, hrun, empty⟩ := run_reloads wire r first (List.filterMap_eq_nil_iff.2 none)
  exact ⟨before, after, shown, rfl, (List.forall_mem_cons.1 others).2, rest, hrun, empty⟩

/-- A lane that is alone makes the rest of its sends through the clients of the routing it loaded,
whatever is published between them. -/
theorem run_sends (wire : Wire σ) {r : Relay σ} {i : Nat} {queue : List Osc.Message} {m : Osc.Message}
    {routing : Routing} {rest : List Forward} {later : List Action}
    (hlane : r.lanes[i]? = some ⟨queue, .sending m routing rest⟩) (alone : Alone i later)
    (steps : stepsOf i later = List.replicate (rest.length + 1) .send) (d : Dispatcher) :
    ∃ shown, r.run wire later = some (⟨activeAfter r.routing later, r.lanes.set i { queue },
        (d.sendAll (routing.pool.sink wire) m r.network rest).2.2⟩, shown) ∧
      marksOf i shown = Lane.sends m routing rest ++ [.finished m] := by
  obtain ⟨there, -⟩ := List.getElem?_eq_some_iff.1 hlane
  induction rest generalizing r later with
  | nil =>
    obtain ⟨before, after, shown, rfl, others, still, waiting, empty⟩ :=
      exists_next wire r alone steps
    let idle : Relay σ := { r with
      routing := activeAfter r.routing before, lanes := r.lanes.set i { queue } }
    have last : { r with routing := activeAfter r.routing before }.step wire (.lane i .send) =
        some (idle, .lane i (.finished m)) := step_lane hlane rfl
    obtain ⟨more, hrun, none⟩ := run_reloads wire idle others still
    have whole := run_append waiting (run_cons last hrun)
    rw [activeAfter_append]
    exact ⟨_, whole, by simp [empty, none, Lane.sends]⟩
  | cons f rest ih =>
    obtain ⟨before, after, shown, rfl, others, still, waiting, empty⟩ :=
      exists_next wire r alone steps
    let next : Relay σ := ⟨activeAfter r.routing before,
      r.lanes.set i ⟨queue, .sending m routing rest⟩,
      (routing.pool.sink wire r.network f.target f.path m).2⟩
    have sent : { r with routing := activeAfter r.routing before }.step wire (.lane i .send) =
        some (next, .lane i (.sent m routing.pool f)) := step_lane hlane rfl
    obtain ⟨more, hrun, marks⟩ := ih (r := next) (List.getElem?_set_self there) others still
      (by simpa [next] using there)
    have whole := run_append waiting (run_cons sent hrun)
    rw [List.set_set] at whole
    rw [activeAfter_append]
    exact ⟨_, whole, by simp [empty, marks, Lane.sends]⟩

/-- A lane that is alone dispatches its next message under the routing that is active when it loads
it, whatever is published before and after. -/
theorem run_message (wire : Wire σ) {r : Relay σ} {i : Nat} {m : Osc.Message}
    {queue : List Osc.Message} {before after : List Action}
    (hlane : r.lanes[i]? = some { queue := m :: queue }) (alone : Alone i (before ++ after))
    (waits : stepsOf i before = [.take])
    (steps : stepsOf i after =
      List.replicate (((activeAfter r.routing before).table.plan m.address).length + 1) .send)
    (d : Dispatcher) :
    let active := activeAfter r.routing before
    ∃ shown, r.run wire (before ++ .lane i .load :: after) = some (⟨activeAfter active after,
        r.lanes.set i { queue },
        (d.dispatch active.table (active.pool.sink wire) r.network m).sink⟩, shown) ∧
      marksOf i shown = Lane.dispatched m active := by
  intro active
  obtain ⟨there, -⟩ := List.getElem?_eq_some_iff.1 hlane
  obtain ⟨aloneBefore, aloneAfter⟩ := List.forall_mem_append.1 alone
  obtain ⟨early, late, shown, rfl, others, still, waiting, empty⟩ :=
    exists_next wire r aloneBefore waits
  let taken : Relay σ := { r with
    routing := activeAfter r.routing early, lanes := r.lanes.set i ⟨queue, .taken m⟩ }
  have taking : { r with routing := activeAfter r.routing early }.step wire (.lane i .take) =
      some (taken, .lane i (.taken m)) := step_lane hlane rfl
  obtain ⟨more, idling, none⟩ := run_reloads wire taken others still
  have is_active : activeAfter taken.routing late = active := by
    simp only [active, activeAfter_append]
    rfl
  rw [is_active] at idling
  let loaded : Relay σ := { taken with
    routing := active
    lanes := taken.lanes.set i ⟨queue, .sending m active (active.table.plan m.address)⟩ }
  have hloaded : loaded.lanes[i]? = some ⟨queue, .sending m active (active.table.plan m.address)⟩ :=
    List.getElem?_set_self (by simpa [taken] using there)
  have loading : { taken with routing := active }.step wire (.lane i .load) =
      some (loaded, .lane i (.loaded m active)) := step_lane (List.getElem?_set_self there) rfl
  obtain ⟨marks, sending, sent⟩ :=
    run_sends wire hloaded aloneAfter steps { d with activity := .dispatching }
  have sets : loaded.lanes.set i { queue } = r.lanes.set i { queue } := by
    simp [loaded, taken, List.set_set]
  rw [sets] at sending
  refine ⟨_, run_append (run_append waiting (run_cons taking idling)) (run_cons loading sending), ?_⟩
  simp only [marksOf_append, marksOf_self, empty, none, sent, List.nil_append]
  rfl

/-! ## Whole dispatches -/

/-- What a run comes to when lanes start with their queues under the routing `start`, whatever reload
attempts come between their steps. -/
structure Undisturbed (wire : Wire σ) (start : Routing) (queues : List (List Osc.Message)) (s : σ)
    (actions : List Action) (r : Relay σ) (marks : List Mark) : Prop where
  /-- Each action shows what belongs to it. -/
  shown : List.Forall₂ Action.Shows actions marks
  active : r.routing = activeAfter start actions
  /-- A message is loaded under the routing that is active at that moment. -/
  loads : ∀ n i m routing, marks[n]? = some (.lane i (.loaded m routing)) →
    routing = activeAfter start (actions.take n)
  /-- Nothing is done to the network but the sends that are shown. -/
  network : r.network = marks.foldl (Mark.perform wire) s
  lanes : r.lanes.length = queues.length
  /-- Each lane shows its messages in the order of its queue, every one dispatched as a whole under
  the routing it was loaded with. What is taken is dispatched or in the middle of it, and the rest of
  the queue is left. -/
  follows : ∀ i queue lane, queues[i]? = some queue → r.lanes[i]? = some lane →
    Lane.Follows queue lane (marksOf i marks)
  /-- A lane can take its next step, and no other, whatever is published. -/
  possible : ∀ i lane x, r.lanes[i]? = some lane →
    ((r.step wire (.lane i x)).isSome = true ↔ lane.next? = some x)
  reloads : ∀ result, (r.step wire (.reload result)).isSome = true
  /-- A lane that is at work gets through the rest of its plan with its next steps, whatever happens
  between them. -/
  resumed : ∀ i queue m routing rest, r.lanes[i]? = some ⟨queue, .sending m routing rest⟩ →
    ∀ later last more, r.run wire later = some (last, more) →
      rest.length < (stepsOf i later).length →
      Lane.sends m routing rest ++ [.finished m] <+: marksOf i more
  /-- While only reloads are attempted, these are the sends of a dispatcher that is not disturbed. -/
  sends : ∀ i queue m routing rest, r.lanes[i]? = some ⟨queue, .sending m routing rest⟩ →
    ∀ later, Alone i later → stepsOf i later = List.replicate (rest.length + 1) .send →
    ∀ d : Dispatcher, ∃ more,
      r.run wire later = some (⟨activeAfter r.routing later, r.lanes.set i { queue },
        (d.sendAll (routing.pool.sink wire) m r.network rest).2.2⟩, more) ∧
      marksOf i more = Lane.sends m routing rest ++ [.finished m]
  /-- So it is from one message to the next, under the routing that is active when it is loaded. -/
  message : ∀ i m queue, r.lanes[i]? = some { queue := m :: queue } →
    ∀ before after, Alone i (before ++ after) → stepsOf i before = [.take] →
    let active := activeAfter r.routing before
    stepsOf i after = List.replicate ((active.table.plan m.address).length + 1) .send →
    ∀ d : Dispatcher, ∃ more,
      r.run wire (before ++ .lane i .load :: after) = some (⟨activeAfter active after,
        r.lanes.set i { queue },
        (d.dispatch active.table (active.pool.sink wire) r.network m).sink⟩, more) ∧
      marksOf i more = Lane.dispatched m active

/-- In every run of the lanes with reload attempts between their steps, a message is loaded under
the routing that is active at that moment, and each lane dispatches the messages of its queue in
order, every one as a whole under the routing it was loaded with: the plan of that routing's table,
send by send, through the clients of that routing. Nothing else is sent, and nothing that is begun is
given up. -/
theorem run_dispatches_whole {start : Routing} {queues : List (List Osc.Message)} {s : σ}
    {actions : List Action} {r : Relay σ} {marks : List Mark}
    (h : (ofQueues start queues s).run wire actions = some (r, marks)) :
    Undisturbed wire start queues s actions r marks := by
  have coherent := (coherent_start start queues s).run h
  exact {
    shown := coherent.shown
    active := coherent.active
    loads := coherent.loads
    network := coherent.network
    lanes := coherent.lanes
    follows := coherent.follows
    possible := fun _ _ x hlane => step_lane_isSome_iff hlane x
    reloads := fun result => by cases result <;> rfl
    resumed := fun _ _ _ _ _ hlane _ _ _ hrun => resumed_of_run hlane hrun
    sends := fun _ _ _ _ _ hlane _ => run_sends wire hlane
    message := fun _ _ _ hlane _ _ => run_message wire hlane }

/-- Two lanes. A reload comes between the sends of the first, which makes them to the addresses it
loaded; the second loads after it and sends to another address of the same endpoint. -/
theorem run_dispatches_whole_reload :
    let rule (ids : List TargetId) : Rule := ⟨"a", false, ids, ⟨"rules", 1⟩⟩
    let h : Target := ⟨"h", 1, none⟩
    let k : Target := ⟨"k", 2, none⟩
    let address (last : UInt8) : Net.SocketAddress := ⟨.v4 10 0 0 last, 2, 0⟩
    let old : Routing := ⟨⟨[rule [⟨0⟩, ⟨1⟩]], ⟨[h, k]⟩⟩,
      ⟨[⟨h.endpoint, address 1⟩, ⟨k.endpoint, address 2⟩], 500⟩⟩
    let new : Routing := ⟨⟨[rule [⟨0⟩]], ⟨[k]⟩⟩, ⟨[⟨k.endpoint, address 9⟩], 500⟩⟩
    let x : Osc.Message := ⟨"/a/x", []⟩
    let y : Osc.Message := ⟨"/a/y", []⟩
    let queues : List (List Osc.Message) := [[x], [y, ⟨"/b", []⟩]]
    let wire : Wire (List (Net.SocketAddress × List UInt8)) := fun sent a bytes =>
      (.sent, sent ++ [(a, bytes)])
    let actions : List Action := [.lane 0 .take, .lane 0 .load, .lane 0 .send, .lane 1 .take,
      .reload (.ok new), .lane 1 .load, .lane 0 .send, .lane 1 .send, .lane 0 .send,
      .reload (.error (.watch "gone")), .lane 1 .send]
    let r : Relay _ := ⟨new, [{ queue := [] }, { queue := [⟨"/b", []⟩] }],
      [(address 1, Osc.encode "/a/x" []), (address 2, Osc.encode "/a/x" []),
        (address 9, Osc.encode "/a/y" [])]⟩
    let marks : List Mark := [.lane 0 (.taken x), .lane 0 (.loaded x old),
      .lane 0 (.sent x old.pool ⟨0, rule [⟨0⟩, ⟨1⟩], h, "/a/x"⟩), .lane 1 (.taken y),
      .published new, .lane 1 (.loaded y new),
      .lane 0 (.sent x old.pool ⟨0, rule [⟨0⟩, ⟨1⟩], k, "/a/x"⟩),
      .lane 1 (.sent y new.pool ⟨0, rule [⟨0⟩], k, "/a/y"⟩), .lane 0 (.finished x),
      .kept (.watch "gone"), .lane 1 (.finished y)]
    (ofQueues old queues []).run wire actions = some (r, marks) ∧
      Undisturbed wire old queues [] actions r marks := by
  intro rule h k address old new x y queues wire actions r marks
  have possible : (ofQueues old queues []).run wire actions = some (r, marks) := by
    cbv
  exact ⟨possible, run_dispatches_whole possible⟩

end Relay

end Patchbay
