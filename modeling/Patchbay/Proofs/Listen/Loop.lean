/-
A receive loop among what happens around it. Arrivals come, the stop signal is sent or its last
sender is dropped, and the loop looks again and again; what its looks find are the waits that it gets
through.

The course of a loop is read off its waits: which arrivals it received, which messages its handler
was given, what was recorded meanwhile, and how it ended. Each received message is handed over once,
and only the handler and the stop signal end the loop. What is received is found by counting arrivals
and looks, so a loop that goes on misses nothing.
-/
import Patchbay.Proofs.Journal
import Patchbay.Proofs.Listen.Waits

namespace Patchbay

variable {σ : Type}

/-! ## Recording calls -/

/-- A call of a handler: the message, whether the loop was to go on, and what was recorded. -/
structure Handling where
  message : Osc.Message
  flow : Flow
  journal : Journal

/-- The handler with a record of its calls beside its own state. -/
def Handler.recording (handler : Handler σ) : Handler (σ × List Handling) := fun (s, calls) m =>
  let (flow, journal, s) := handler s m
  (flow, journal, s, calls ++ [⟨m, flow, journal⟩])

namespace Listener

/-! ## The course of a loop -/

/-- What is received at waits, up to the one that finds the stop signal. -/
def received : List Wait → List Arrival
  | .arrival a :: ws => a :: received ws
  | _ => []

theorem received_arrivals (as : List Arrival) (signalled : Prop) [Decidable signalled] :
    received (as.map .arrival ++ if signalled then [.stopSignal] else []) = as := by
  induction as with
  | nil => by_cases h : signalled <;> simp [h, received]
  | cons a as ih => exact congrArg (a :: ·) ih

theorem received_waits (happenings : List Happening) :
    received (waits happenings) = readable (untilStop happenings) := by
  rw [waits_eq, received_arrivals]

/-- The arrival is a bundle, of whatever content. -/
def isBundle : Arrival → Bool
  | .failure _ => false
  | .datagram _ bytes => match Osc.decode (bytes.take datagramLimit) with
    | .ok (.bundle _) => true
    | _ => false

/-- What is recorded about a message when the handler is called. -/
def heard (port : UInt16) (peer : String) (m : Osc.Message) : Journal :=
  [.increment (.received port), .event (.messageReceived port peer m)]

/-- How a loop gets through waits: the arrivals it receives, the calls of its handler, whether it is
to go on, and what is recorded. -/
inductive Course (port : UInt16) :
    List Wait → List Arrival → List Handling → Flow → Journal → Prop where
  | drained : Course port [] [] [] .goOn []
  | signalled (rest : List Wait) :
      Course port (.stopSignal :: rest) [] [] .stop [.event (.stopSignalReceived port)]
  | passed {a : Arrival} {shown : Journal} {ws : List Wait} {taken : List Arrival}
      {calls : List Handling} {flow : Flow} {journal : Journal}
      (nothing : messageOf? a = none)
      (never_set : ∀ m, shown.Counts m)
      (counted : ∀ m, shown.increments m =
        if m = .bundlesDropped port then (isBundle a).toNat else 0)
      (later : Course port ws taken calls flow journal) :
      Course port (.arrival a :: ws) (a :: taken) calls flow (shown ++ journal)
  | handled {a : Arrival} {m : Osc.Message} {own : Journal} {ws : List Wait} {taken : List Arrival}
      {calls : List Handling} {flow : Flow} {journal : Journal} (peer : String)
      (holds : messageOf? a = some m) (later : Course port ws taken calls flow journal) :
      Course port (.arrival a :: ws) (a :: taken) (⟨m, .goOn, own⟩ :: calls) flow
        (heard port peer m ++ own ++ journal)
  | broken {a : Arrival} {m : Osc.Message} {own : Journal} (peer : String)
      (holds : messageOf? a = some m) (rest : List Wait) :
      Course port (.arrival a :: rest) [a] [⟨m, .stop, own⟩] .stop
        (heard port peer m ++ own ++ [.event (.stoppedByHandler port)])

theorem receive_of_none {a : Arrival} (nothing : messageOf? a = none) (port : UInt16) :
    ∃ shown : Journal, (∀ {σ : Type} (handler : Handler σ) (s : σ),
        receive port handler s a = (.goOn, shown, s)) ∧
      (∀ m, shown.Counts m) ∧
      ∀ m, shown.increments m = if m = .bundlesDropped port then (isBundle a).toNat else 0 := by
  cases a with
  | failure reason =>
    exact ⟨_, fun _ _ => rfl, by simp [Journal.Counts],
      by simp [Journal.increments, Entry.raises, isBundle]⟩
  | datagram peer bytes =>
    cases decoded : Osc.decode (bytes.take datagramLimit) with
    | error e =>
      exact ⟨[.event (.decodeFailed port peer e)], by simp [receive, decoded],
        by simp [Journal.Counts], by simp [Journal.increments, Entry.raises, isBundle, decoded]⟩
    | ok packet =>
      cases packet with
      | message m => simp [messageOf?, decoded] at nothing
      | bundle elements =>
        exact ⟨[.increment (.bundlesDropped port), .event (.bundleDropped port peer elements)],
          by simp [receive, decoded], by simp [Journal.Counts],
          by simp [Journal.increments, Entry.raises, isBundle, decoded, List.countP_cons, eq_comm]⟩

theorem isBundle_of_some {a : Arrival} {m : Osc.Message} (holds : messageOf? a = some m) :
    isBundle a = false := by
  cases a with
  | failure reason => rfl
  | datagram peer bytes =>
    simp only [messageOf?, isBundle] at holds ⊢
    split at holds
    · rename_i decoded
      rw [decoded]
    · cases holds

theorem receive_of_some {a : Arrival} {m : Osc.Message} (holds : messageOf? a = some m)
    (port : UInt16) :
    ∃ peer, ∀ {σ : Type} (handler : Handler σ) (s : σ),
      receive port handler s a = match handler s m with
        | (.goOn, own, s) => (.goOn, heard port peer m ++ own, s)
        | (.stop, own, s) =>
          (.stop, heard port peer m ++ own ++ [.event (.stoppedByHandler port)], s) := by
  cases a with
  | failure reason => cases holds
  | datagram peer bytes =>
    cases decoded : Osc.decode (bytes.take datagramLimit) with
    | error e => simp [messageOf?, decoded] at holds
    | ok packet =>
      cases packet with
      | bundle elements => simp [messageOf?, decoded] at holds
      | message found =>
        obtain rfl : found = m := by simpa [messageOf?, decoded] using holds
        refine ⟨peer, fun handler s => ?_⟩
        rcases called : handler s found with ⟨_ | _, own, after⟩ <;>
          simp [receive, decoded, called, heard]

/-- Recording the calls changes nothing else, and they are those of a course of the loop. -/
theorem course_of_run (port : UInt16) (handler : Handler σ) (s : σ) (made : List Handling)
    (ws : List Wait) :
    ∃ taken calls flow journal last, Course port ws taken calls flow journal ∧
      run port handler s ws = (flow, journal, last) ∧
      run port handler.recording (s, made) ws = (flow, journal, last, made ++ calls) := by
  induction ws generalizing s made with
  | nil => exact ⟨[], [], .goOn, [], s, .drained, rfl, by simp [run]⟩
  | cons w ws ih =>
    cases w with
    | stopSignal => exact ⟨[], [], .stop, _, s, .signalled ws, rfl, by simp [run]⟩
    | arrival a =>
      cases holds : messageOf? a with
      | none =>
        obtain ⟨shown, passes, never_set, counted⟩ := receive_of_none holds port
        obtain ⟨taken, calls, flow, journal, last, course, runs, records⟩ := ih s made
        exact ⟨a :: taken, calls, flow, shown ++ journal, last,
          .passed holds never_set counted course, by simp only [run, passes, runs],
          by simp only [run, passes, records]⟩
      | some m =>
        obtain ⟨peer, receives⟩ := receive_of_some holds port
        rcases called : handler s m with ⟨_ | _, own, after⟩
        · obtain ⟨taken, calls, flow, journal, last, course, runs, records⟩ :=
            ih after (made ++ [⟨m, .goOn, own⟩])
          refine ⟨a :: taken, ⟨m, .goOn, own⟩ :: calls, flow, heard port peer m ++ own ++ journal,
            last, .handled peer holds course, ?_, ?_⟩
          · simp only [run, receives, called, runs]
          · simp only [run, receives, Handler.recording, called, records, List.append_assoc,
              List.singleton_append]
        · refine ⟨[a], [⟨m, .stop, own⟩], .stop, _, after, .broken peer holds ws, ?_, ?_⟩
          · simp only [run, receives, called]
          · simp only [run, receives, Handler.recording, called]

theorem counts_heard (port : UInt16) (peer : String) (message : Osc.Message) (m : Metric) :
    (heard port peer message).Counts m := by
  simp [heard, Journal.Counts]

theorem increments_heard (port : UInt16) (peer : String) (message : Osc.Message) (m : Metric) :
    (heard port peer message).increments m = if m = .received port then 1 else 0 := by
  simp [heard, Journal.increments, List.countP_cons, Entry.raises, eq_comm]

namespace Course

variable {port : UInt16} {ws : List Wait} {taken : List Arrival} {calls : List Handling} {flow : Flow}
  {journal : Journal}

theorem handed (h : Course port ws taken calls flow journal) :
    calls.map Handling.message = taken.filterMap messageOf? := by
  induction h with
  | drained | signalled => rfl
  | passed nothing _ _ _ ih => rw [List.filterMap_cons_none nothing, ih]
  | handled _ holds _ ih => rw [List.filterMap_cons_some holds, List.map_cons, ih]
  | broken _ holds => rw [List.filterMap_cons_some holds]; rfl

theorem taken_prefix (h : Course port ws taken calls flow journal) : taken <+: received ws := by
  induction h with
  | drained | signalled => exact List.nil_prefix
  | passed _ _ _ _ ih => exact List.cons_prefix_cons.2 ⟨rfl, ih⟩
  | handled _ _ _ ih => exact List.cons_prefix_cons.2 ⟨rfl, ih⟩
  | broken => exact List.cons_prefix_cons.2 ⟨rfl, List.nil_prefix⟩

/-- As long as the handler goes on, so does the loop. -/
theorem taken_eq (h : Course port ws taken calls flow journal)
    (goes_on : ∀ c ∈ calls, c.flow = .goOn) : taken = received ws := by
  induction h with
  | drained | signalled => rfl
  | passed _ _ _ _ ih => exact congrArg (_ :: ·) (ih goes_on)
  | handled _ _ _ ih => exact congrArg (_ :: ·) (ih (List.forall_mem_cons.1 goes_on).2)
  | broken => cases (List.forall_mem_cons.1 goes_on).1

/-- The call that breaks is the last, and nothing is received after its message. -/
theorem broke (h : Course port ws taken calls flow journal) {front back : List Handling}
    {c : Handling} (split : calls = front ++ c :: back) (breaks : c.flow = .stop) :
    back = [] ∧ ∃ a, taken.getLast? = some a ∧ messageOf? a = some c.message := by
  induction h generalizing front with
  | drained | signalled => simp at split
  | passed _ _ _ _ ih =>
    obtain ⟨last, a, ends, holds⟩ := ih split
    exact ⟨last, a, by simp [List.getLast?_cons, ends], holds⟩
  | handled _ _ _ ih =>
    rcases List.cons_eq_append_iff.1 split with ⟨rfl, same⟩ | ⟨front, rfl, rfl⟩
    · cases same
      cases breaks
    · obtain ⟨last, a, ends, holds⟩ := ih rfl
      exact ⟨last, a, by simp [List.getLast?_cons, ends], holds⟩
  | broken _ holds =>
    rcases List.cons_eq_append_iff.1 split with ⟨rfl, same⟩ | ⟨front, rfl, more⟩
    · cases same
      exact ⟨rfl, _, rfl, holds⟩
    · simp at more

/-- Only the handler and the stop signal end the loop. -/
theorem flow_eq_stop_iff (h : Course port ws taken calls flow journal) :
    flow = .stop ↔ (∃ c ∈ calls, c.flow = .stop) ∨ .stopSignal ∈ ws := by
  induction h with
  | drained => simp
  | signalled => simp
  | passed _ _ _ _ ih => simp [ih]
  | handled _ _ _ ih => simp [ih]
  | broken => simp

theorem counts (h : Course port ws taken calls flow journal) {m : Metric}
    (own : ∀ c ∈ calls, c.journal.Counts m) : journal.Counts m := by
  induction h with
  | drained => exact nofun
  | signalled => simp [Journal.Counts]
  | passed _ never_set _ _ ih => exact (never_set m).append (ih own)
  | handled peer _ _ ih =>
    obtain ⟨first, rest⟩ := List.forall_mem_cons.1 own
    exact .append (.append (counts_heard port peer _ m) first) (ih rest)
  | broken peer _ =>
    obtain ⟨first, -⟩ := List.forall_mem_cons.1 own
    exact .append (.append (counts_heard port peer _ m) first) (by simp [Journal.Counts])

/-- Beside what its handler counts, a loop counts the calls and the bundles. -/
theorem increments_eq (h : Course port ws taken calls flow journal) (m : Metric) :
    journal.increments m =
      (if m = .received port then calls.length else 0) +
        (if m = .bundlesDropped port then taken.countP isBundle else 0) +
        (calls.map fun c => c.journal.increments m).sum := by
  induction h with
  | drained => simp [Journal.increments]
  | signalled => simp [Journal.increments, Entry.raises]
  | @passed a _ _ _ _ _ _ _ _ counted _ ih =>
    rw [Journal.increments_append, counted, ih, List.countP_cons]
    cases isBundle a <;> split <;> simp
    omega
  | handled _ holds _ ih =>
    rw [Journal.increments_append, Journal.increments_append, increments_heard, ih, List.countP_cons,
      isBundle_of_some holds]
    simp
    split <;> omega
  | broken _ holds =>
    rw [Journal.increments_append, Journal.increments_append, increments_heard]
    simp [isBundle_of_some holds, Journal.increments, Entry.raises]

theorem value_eq (h : Course port ws taken calls flow journal) {m : Metric}
    (own : ∀ c ∈ calls, c.journal.Counts m) :
    journal.value m =
      (if m = .received port then calls.length else 0) +
        (if m = .bundlesDropped port then taken.countP isBundle else 0) +
        (calls.map fun c => c.journal.value m).sum := by
  have same : (calls.map fun c => c.journal.value m) = calls.map fun c => c.journal.increments m :=
    List.map_congr_left fun c hc => Journal.value_eq_increments (own c hc)
  rw [Journal.value_eq_increments (h.counts own), h.increments_eq, same]

end Course

/-! ## One more happening -/

/-- A loop gets through waits one after the other. -/
theorem run_append (port : UInt16) (handler : Handler σ) (s : σ) (ws more : List Wait) :
    run port handler s (ws ++ more) = match run port handler s ws with
      | (.stop, journal, s) => (.stop, journal, s)
      | (.goOn, journal, s) =>
        let (flow, later, s) := run port handler s more
        (flow, journal ++ later, s) := by
  induction ws generalizing s with
  | nil => rfl
  | cons w ws ih =>
    cases w with
    | stopSignal => rfl
    | arrival a =>
      simp only [List.cons_append, run]
      rcases receive port handler s a with ⟨_ | _, shown, after⟩
      · simp only [ih]
        rcases run port handler after ws with ⟨_ | _, journal, last⟩
        · simp
        · rfl
      · rfl

/-- What one more happening does to a loop that came through `happenings`, with `flow`, `journal` and
`last`. -/
structure Moves (port : UInt16) (handler : Handler σ) (s : σ) (happenings : List Happening)
    (flow : Flow) (journal : Journal) (last : σ) : Prop where
  /-- Only a look does anything. -/
  idle : ∀ h, h ≠ .look →
    run port handler s (waits (happenings ++ [h])) = (flow, journal, last)
  ended : flow = .stop →
    run port handler s (waits (happenings ++ [.look])) = (.stop, journal, last)
  /-- The stop signal is found before any arrival, however many wait. -/
  stopped : flow = .goOn → (∃ h ∈ happenings, h.stops = true) →
    run port handler s (waits (happenings ++ [.look])) =
      (.stop, journal ++ [.event (.stopSignalReceived port)], last)
  nothing : flow = .goOn → (∀ h ∈ happenings, h.stops = false) → oldest? happenings = none →
    run port handler s (waits (happenings ++ [.look])) = (.goOn, journal, last)
  /-- Without a stop signal, the oldest arrival that waits is received. -/
  receives : flow = .goOn → (∀ h ∈ happenings, h.stops = false) →
    ∀ a, oldest? happenings = some a →
      run port handler s (waits (happenings ++ [.look])) =
        let (flow, shown, last) := receive port handler last a
        (flow, journal ++ shown, last)

theorem moves_of_run {port : UInt16} {handler : Handler σ} {s last : σ}
    {happenings : List Happening} {flow : Flow} {journal : Journal}
    (runs : run port handler s (waits happenings) = (flow, journal, last))
    (unseen : flow = .goOn → ¬ Seen happenings) :
    Moves port handler s happenings flow journal last := by
  have look (going : flow = .goOn) :
      run port handler s (waits (happenings ++ [.look])) =
        let found := Sight.look? ⟨happenings.any (·.stops), (oldest? happenings).toList⟩
        let (flow, later, last) := run port handler last found.toList
        (flow, journal ++ later, last) := by
    rw [waits_look (unseen going), run_append, runs, going]
  have none_stops (quiet : ∀ h ∈ happenings, h.stops = false) :
      happenings.any (·.stops) = false := by
    simpa using quiet
  constructor
  case idle =>
    intro h other
    rw [waits_concat (.inl other), runs]
  case ended =>
    intro done
    by_cases seen : Seen happenings
    · rw [waits_concat (.inr seen), runs, done]
    · rw [waits_look seen, run_append, runs, done]
  case stopped =>
    rintro going ⟨stop, there, stops⟩
    have found : happenings.any (·.stops) = true := List.any_eq_true.2 ⟨stop, there, stops⟩
    rw [look going, found]
    rfl
  case nothing =>
    intro going quiet empty
    rw [look going, none_stops quiet, empty]
    simp [Sight.look?, run]
  case receives =>
    intro going quiet a oldest
    rw [look going, none_stops quiet, oldest]
    simp only [Sight.look?, Option.toList_some, List.head?_cons, Option.map_some, Bool.false_eq_true,
      if_false, run]
    rcases receive port handler last a with ⟨_ | _, shown, after⟩ <;> simp

/-! ## Delivery -/

/-- What becomes of a loop on `port` among `happenings`: it receives `taken`, its handler gets
`calls`, and it ends with `flow` and `journal`. -/
structure Delivered (port : UInt16) (happenings : List Happening) (taken : List Arrival)
    (calls : List Handling) (flow : Flow) (journal : Journal) : Prop where
  /-- Arrivals are received in the order in which they came, none of them twice. -/
  arrived : taken <+: arrivals happenings
  /-- Each message that is received is handed over once, and nothing else is. -/
  handed : calls.map Handling.message = taken.filterMap messageOf?
  /-- Nothing is received after the message on which the handler breaks. -/
  broke : ∀ front c back, calls = front ++ c :: back → c.flow = .stop →
    back = [] ∧ ∃ a, taken.getLast? = some a ∧ messageOf? a = some c.message
  /-- Unless the handler breaks, every arrival is received that does not wait any more when the stop
  signal can be read. -/
  all : (∀ c ∈ calls, c.flow = .goOn) → taken = readable (untilStop happenings)
  /-- Without a break and a stop signal, as many looks as arrivals receive them all. -/
  enough : ∀ before n, happenings = before ++ List.replicate n .look →
    (∀ h ∈ before, h.stops = false) → (arrivals before).length ≤ n →
    (∀ c ∈ calls, c.flow = .goOn) → taken = arrivals happenings
  /-- No wait receives anything once the stop signal can be read. -/
  barred : ∀ before stop after, happenings = before ++ stop :: after → stop.stops = true →
    taken <+: readable (untilStop before)
  ended : flow = .stop ↔ (∃ c ∈ calls, c.flow = .stop) ∨ Seen happenings
  /-- Beside what the handler itself counts, each call is counted. -/
  calls_counted : (∀ c ∈ calls, c.journal.Counts (.received port)) →
    journal.value (.received port) =
      calls.length + (calls.map fun c => c.journal.value (.received port)).sum
  /-- Beside what the handler itself counts, each bundle is counted. -/
  bundles_counted : (∀ c ∈ calls, c.journal.Counts (.bundlesDropped port)) →
    journal.value (.bundlesDropped port) =
      taken.countP isBundle + (calls.map fun c => c.journal.value (.bundlesDropped port)).sum

/-- As many looks as arrivals leave nothing that waits. -/
theorem Course.taken_looks {port : UInt16} {before : List Happening} {n : Nat}
    {taken : List Arrival} {calls : List Handling} {flow : Flow} {journal : Journal}
    (h : Course port (waits (before ++ List.replicate n .look)) taken calls flow journal)
    (quiet : ∀ h ∈ before, h.stops = false) (enough : (arrivals before).length ≤ n)
    (goes_on : ∀ c ∈ calls, c.flow = .goOn) :
    taken = arrivals (before ++ List.replicate n .look) := by
  have still : ∀ h ∈ before ++ List.replicate n .look, h.stops = false := by
    refine List.forall_mem_append.2 ⟨quiet, fun h there => ?_⟩
    rw [List.eq_of_mem_replicate there]
    rfl
  rw [h.taken_eq goes_on, received_waits, (cut_quiet still).1, readable_looks before enough,
    arrivals_looks]

/-- A loop delivers each message that it receives exactly once and in order of arrival, up to the
first on which its handler breaks, and ends only on that or on the stop signal. Whatever has happened
to it, its next look receives the oldest arrival that waits unless the stop signal can be read. -/
theorem delivered (port : UInt16) (handler : Handler σ) (s : σ) (happenings : List Happening) :
    ∃ taken calls flow journal last,
      run port handler s (waits happenings) = (flow, journal, last) ∧
      run port handler.recording (s, []) (waits happenings) = (flow, journal, last, calls) ∧
      Delivered port happenings taken calls flow journal ∧
      Moves port handler s happenings flow journal last := by
  obtain ⟨taken, calls, flow, journal, last, course, runs, records⟩ :=
    course_of_run port handler s [] (waits happenings)
  have ended : flow = .stop ↔ (∃ c ∈ calls, c.flow = .stop) ∨ Seen happenings := by
    rw [course.flow_eq_stop_iff, stopSignal_mem_waits]
  have readable_taken : taken <+: readable (untilStop happenings) :=
    received_waits happenings ▸ course.taken_prefix
  refine ⟨taken, calls, flow, journal, last, runs, records, ?_, moves_of_run runs ?_⟩
  · exact {
      arrived := readable_taken.trans ((readable_arrived _).trans (arrivals_untilStop happenings))
      handed := course.handed
      broke := fun _ _ _ => course.broke
      all := fun goes_on => (course.taken_eq goes_on).trans (received_waits happenings)
      enough := by
        rintro before n rfl quiet enough goes_on
        exact course.taken_looks quiet enough goes_on
      barred := by
        rintro before stop after rfl stops
        rwa [untilStop_append stops] at readable_taken
      ended := ended
      calls_counted := fun own => by simpa using course.value_eq own
      bundles_counted := fun own => by simpa using course.value_eq own }
  · rintro rfl seen
    cases ended.2 (.inr seen)

/-- Two messages among a failed receive, a bundle and a datagram that is no packet. A third message
arrives after the stop signal, and the last look finds the signal. -/
theorem delivered_around_stop :
    let failure : Arrival := .failure "reset"
    let bundle : Arrival := .datagram "peer" ("#bundle\x00".toUTF8.toList ++ List.replicate 8 0)
    let junk : Arrival := .datagram "peer" [1, 2, 3]
    let message (address : String) : Arrival := .datagram "peer" (Osc.encode address [.int 7])
    let happenings : List Happening := [.arrive failure, .look, .arrive bundle,
      .arrive (message "/a"), .look, .arrive junk, .look, .look, .look, .arrive (message "/b"),
      .look, .signal, .arrive (message "/c"), .look]
    let handler : Handler (List String) := fun heard m => (.goOn, [], heard ++ [m.address])
    ∃ taken calls flow journal last,
      run 9000 handler [] (waits happenings) = (flow, journal, last) ∧
      run 9000 handler.recording ([], []) (waits happenings) = (flow, journal, last, calls) ∧
      Delivered 9000 happenings taken calls flow journal ∧
      Moves 9000 handler [] happenings flow journal last ∧
      taken = [failure, bundle, message "/a", junk, message "/b"] ∧
      calls.map Handling.message = [⟨"/a", [.int 7]⟩, ⟨"/b", [.int 7]⟩] ∧
      flow = .stop ∧ last = ["/a", "/b"] ∧ journal.value (.received 9000) = 2 ∧
      journal.value (.bundlesDropped 9000) = 1 := by
  intro failure bundle junk message happenings handler
  obtain ⟨taken, calls, flow, journal, last, runs, records, done, moves⟩ :=
    delivered 9000 handler [] happenings
  have flows : (run 9000 handler.recording ([], []) (waits happenings)).2.2.2.map Handling.flow =
      [.goOn, .goOn] := by
    decide +kernel
  have goes_on : ∀ c ∈ calls, c.flow = .goOn := by
    rw [records] at flows
    intro c hc
    have there : c.flow ∈ calls.map Handling.flow := List.mem_map_of_mem hc
    rw [flows] at there
    simpa using there
  have received : taken = [failure, bundle, message "/a", junk, message "/b"] := by
    rw [done.all goes_on]
    decide +kernel
  have ends : (run 9000 handler [] (waits happenings)).1 = .stop ∧
      (run 9000 handler [] (waits happenings)).2.2 = ["/a", "/b"] ∧
      (run 9000 handler [] (waits happenings)).2.1.value (.received 9000) = 2 ∧
      (run 9000 handler [] (waits happenings)).2.1.value (.bundlesDropped 9000) = 1 := by
    decide +kernel
  rw [runs] at ends
  refine ⟨taken, calls, flow, journal, last, runs, records, done, moves, received, ?_, ends⟩
  rw [done.handed, received]
  cbv

end Listener

end Patchbay
