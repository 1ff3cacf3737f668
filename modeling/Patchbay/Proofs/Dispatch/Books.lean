/-
The books of a dispatcher. Over any run of messages, whatever compiled table is active for each of
them and whatever comes of each send, the reports, the counters and the events give the same account
of the sends that were made. A run is a list of rounds, one for each message with the calls that it
caused; every round keeps the books in step, and their sums are those of the run.

Counters are kept under the text of a target. In compiled tables no two targets have the same text,
so each counter belongs to one target alone.
-/
import Patchbay.Proofs.Dispatch.Calls
import Patchbay.Proofs.Journal
import Patchbay.Proofs.Rules.Compiled

namespace Patchbay

/-! ## One call -/

namespace Call

/-- The counter that a call is counted on. -/
def metric (c : Call) : Metric :=
  if c.succeeded then .forwards c.target.text else .sendErrors c.target.text

/-- What is reported of a call of the listener on `port`. -/
def event (port : UInt16) (c : Call) : Event :=
  match c.outcome with
  | .ok () => .forwarded port c.target c.path c.message.arguments
  | .error e => .forwardFailed port c.target c.path e.message

def entries (port : UInt16) (c : Call) : Journal := [.increment c.metric, .event (c.event port)]

end Call

/-- The level, the topic and the message of an event. -/
def Event.heading (e : Event) : Level × Topic × String := (e.level, e.topic, e.message)

theorem Call.heading_event (port : UInt16) (c : Call) :
    (c.event port).heading =
      if c.succeeded then (.debug, .scope .outgoing, "OSC out")
      else (.warn, .dispatching, "Forward failed") := by
  unfold Call.event Call.succeeded Dispatcher.succeeded
  cases c.outcome <;> rfl

namespace Dispatcher

variable {σ : Type}

theorem sendEntries_eq (d : Dispatcher) (m : Osc.Message) (f : Forward)
    (outcome : Except SendError Unit) :
    d.sendEntries m f outcome = Call.entries d.port ⟨f.send m, outcome⟩ := by
  cases outcome <;> rfl

/-- The journal of the sends is that of the calls, in order. -/
theorem sendAll_journal {d : Dispatcher} {sink : Sink σ} {m : Osc.Message} {s : σ}
    {plan : List Forward} {made : List Call} (sends : made.map (·.toSend) = plan.map (·.send m))
    (outcomes : made.map (·.outcome) = (d.sendAll sink m s plan).1) :
    (d.sendAll sink m s plan).2.1 = made.flatMap (·.entries d.port) := by
  induction plan generalizing s made with
  | nil =>
    rw [List.map_nil, List.map_eq_nil_iff] at sends
    subst sends
    rfl
  | cons f rest ih =>
    obtain ⟨call, later, rfl, first, others⟩ := List.map_eq_cons_iff.1 sends
    have outcome : call.outcome = (sink s f.target f.path m).1 := (List.cons.inj outcomes).1
    have same : call = ⟨f.send m, (sink s f.target f.path m).1⟩ := by
      rw [← outcome]
      exact congrArg (fun send => (⟨send, call.outcome⟩ : Call)) first
    rw [List.flatMap_cons, ← ih others (List.cons.inj outcomes).2, same, ← sendEntries_eq]
    rfl

end Dispatcher

/-! ## One message -/

/-- The head of the rule is the first segment of the address. -/
def Rule.concerns (rule : Rule) (address : String) : Bool :=
  (Path.segments address).take 2 == [[], rule.head.toList]

/-- A message and the table that is active when it is dispatched. -/
structure Turn where
  table : Table
  message : Osc.Message

namespace Turn

/-- The sends that are to be made for the message. -/
def plan (turn : Turn) : List Forward := turn.table.plan turn.message.address

/-- Some record of the table concerns the message. -/
def matched (turn : Turn) : Bool := turn.table.rules.any (·.concerns turn.message.address)

end Turn

theorem Rule.concerns_iff {rule : Rule} {address : String} (h : rule.head ≠ "") :
    rule.concerns address = true ↔ (some rule.head == Path.head? address) = true := by
  rw [beq_iff_eq, eq_comm (a := some rule.head), Path.head?_eq_some_iff, concerns, beq_iff_eq]
  constructor
  · intro first
    refine ⟨h, (Path.segments address).drop 2, ?_⟩
    rw [← List.take_append_drop 2 (Path.segments address), first]
    rfl
  · rintro ⟨-, rest, hs⟩
    rw [hs]
    rfl

/-- Every record of a compiled table has a target, so a message without a send is one that no record
concerns. -/
theorem Turn.plan_eq_nil_iff {turn : Turn} (h : turn.table.Compiled) :
    turn.plan = [] ↔ turn.matched = false := by
  have unsent : turn.plan = [] ↔ ∀ r ∈ turn.table.meanings,
      ¬ (some r.head == Path.head? turn.message.address) = true := by
    rw [← List.map_eq_nil_iff (f := fun f : Forward => (f.target, f.path)), plan,
      Table.sends_plan, List.flatMap_eq_nil_iff]
    simp only [List.mem_filter, and_imp, Record.Meaning.sends, List.map_eq_nil_iff]
    refine forall₂_congr fun r hr => ⟨fun none_sent same => ?_, fun other same => absurd same other⟩
    exact (h.writable r hr).targets_ne (none_sent same)
  rw [unsent, matched, List.any_eq_false, Table.meanings, List.forall_mem_map]
  refine forall₂_congr fun rule hrule => not_congr ?_
  exact (Rule.concerns_iff (h.writable _ (List.mem_map_of_mem hrule)).head_ne).symm

/-- A turn and the calls that it caused. -/
structure Round extends Turn where
  calls : List Call

namespace Round

/-- The calls are the planned sends. -/
def Whole (r : Round) : Prop := r.calls.map (·.toSend) = r.plan.map (·.send r.message)

def report (r : Round) : Report :=
  ⟨matchedRules r.plan, r.calls.countP (·.succeeded), r.calls.countP (!·.succeeded)⟩

def entries (port : UInt16) (r : Round) : Journal :=
  (if r.matched then [] else
    [.increment (.unmatched port), .event (.unmatched port r.message.address)]) ++
    r.calls.flatMap (·.entries port)

/-- What is reported of a round: each call, or that there is none. -/
def events (port : UInt16) (r : Round) : List Event :=
  if r.matched then r.calls.map (·.event port) else [.unmatched port r.message.address]

end Round

namespace Round

theorem Whole.calls_eq_nil {r : Round} (whole : r.Whole) (h : r.table.Compiled) :
    r.calls = [] ↔ r.matched = false := by
  rw [← Turn.plan_eq_nil_iff h, ← List.map_eq_nil_iff (f := (·.toSend)), whole, List.map_eq_nil_iff]

theorem Whole.events_entries {r : Round} (whole : r.Whole) (h : r.table.Compiled) (port : UInt16) :
    Journal.events (r.entries port) = r.events port := by
  have calls : Journal.events (r.calls.flatMap (·.entries port)) = r.calls.map (·.event port) := by
    rw [Journal.events_flatMap, List.map_eq_flatMap]
    rfl
  rw [entries, Journal.events_append, calls, events]
  split
  · rfl
  · rename_i unmatched
    rw [(whole.calls_eq_nil h).2 (Bool.not_eq_true _ ▸ unmatched)]
    rfl

end Round

/-! ## Counting -/

theorem sum_map_ite {α : Type} (as : List α) (p : α → Bool) :
    (as.map fun a => if p a then 1 else 0).sum = as.countP p := by
  induction as with
  | nil => rfl
  | cons a as ih => rw [List.map_cons, List.sum_cons, ih, List.countP_cons, Nat.add_comm]

/-- What is counted for each of several keys is counted once for all of them. -/
theorem sum_countP {α β : Type} [DecidableEq β] {keys : List β} (distinct : keys.Nodup)
    {as : List α} (key : α → β) (p : α → Bool) (known : ∀ a ∈ as, key a ∈ keys) :
    (keys.map fun k => as.countP fun a => decide (key a = k) && p a).sum = as.countP p := by
  induction as with
  | nil => simp
  | cons a as ih =>
    obtain ⟨here, tail⟩ := List.forall_mem_cons.1 known
    have one : (keys.map fun k => if decide (key a = k) && p a then 1 else 0).sum =
        if p a then 1 else 0 := by
      cases hp : p a with
      | false => simp
      | true =>
        have once := List.count_eq_one_of_mem distinct here
        rw [List.count_eq_countP] at once
        simp only [Bool.and_true, sum_map_ite, if_true]
        rw [← once]
        exact List.countP_congr fun k _ => by rw [decide_eq_true_eq, beq_iff_eq, eq_comm]
    simp only [List.countP_cons, List.sum_map_add, ih tail, one]

namespace Call

theorem increments_entries (calls : List Call) (port : UInt16) (m : Metric) :
    Journal.increments (calls.flatMap (·.entries port)) m = calls.countP (·.metric = m) := by
  have one : ∀ c : Call, Journal.increments (c.entries port) m = if c.metric = m then 1 else 0 := by
    intro c
    simp [Journal.increments, entries, List.countP_cons, Entry.raises]
  rw [Journal.increments_flatMap, ← sum_map_ite]
  simp only [one, decide_eq_true_eq]

theorem counts_entries (calls : List Call) (port : UInt16) (m : Metric) :
    Journal.Counts (calls.flatMap (·.entries port)) m :=
  Journal.counts_flatMap fun c _ v => by simp [entries]

end Call

namespace Round

/-- No round sets a metric. -/
theorem counts_entries (rounds : List Round) (port : UInt16) (m : Metric) :
    Journal.Counts (rounds.flatMap (·.entries port)) m := by
  refine Journal.counts_flatMap fun r _ => ?_
  have first : Journal.Counts (if r.matched then [] else
      [.increment (.unmatched port), .event (.unmatched port r.message.address)]) m := by
    intro v
    split <;> simp
  exact first.append (Call.counts_entries r.calls port m)

theorem increments_unmatched (rounds : List Round) (port : UInt16) :
    Journal.increments (rounds.flatMap (·.entries port)) (.unmatched port) =
      rounds.countP (!·.matched) := by
  have none_of_calls : ∀ r : Round, r.calls.countP (·.metric = .unmatched port) = 0 := by
    intro r
    refine List.countP_eq_zero.2 fun c _ => ?_
    unfold Call.metric
    split <;> simp
  have one : ∀ r : Round, Journal.increments (r.entries port) (.unmatched port) =
      if !r.matched then 1 else 0 := by
    intro r
    rw [entries, Journal.increments_append, Call.increments_entries, none_of_calls]
    cases r.matched <;> simp [Journal.increments, Entry.raises]
  rw [Journal.increments_flatMap, ← sum_map_ite]
  simp only [one]

/-- The counters of targets count calls, whatever rounds these belong to. -/
theorem increments_calls (rounds : List Round) (port : UInt16) {m : Metric}
    (h : m ≠ .unmatched port) :
    Journal.increments (rounds.flatMap (·.entries port)) m =
      (rounds.flatMap (·.calls)).countP (·.metric = m) := by
  have one : ∀ r : Round, Journal.increments (r.entries port) m =
      r.calls.countP (·.metric = m) := by
    intro r
    rw [entries, Journal.increments_append, Call.increments_entries]
    cases r.matched <;> simp [Journal.increments, Entry.raises, h.symm]
  rw [Journal.increments_flatMap, List.countP_flatMap]
  simp only [one, Function.comp_def]

end Round

/-! ## Targets and their counters -/

/-- The targets that occur in the tables. -/
def Round.named (rounds : List Round) : List Target := rounds.flatMap (·.table.registry.targets)

/-- All calls, in the order in which they are made. -/
def Round.allCalls (rounds : List Round) : List Call := rounds.flatMap (·.calls)

section

variable {rounds : List Round} (compiled : ∀ r ∈ rounds, r.table.Compiled)

include compiled

theorem Round.wellFormed_of_named {target : Target} (h : target ∈ named rounds) :
    target.WellFormed := by
  obtain ⟨r, hr, ht⟩ := List.mem_flatMap.1 h
  exact (compiled r hr).wellFormed ht

theorem Round.named_text_inj {target other : Target} (ht : target ∈ named rounds)
    (ho : other ∈ named rounds) (h : target.text = other.text) : target = other :=
  Target.text_inj (wellFormed_of_named compiled ht) (wellFormed_of_named compiled ho) h

/-- Calls go to targets that occur in the tables. -/
theorem Round.target_mem_named (whole : ∀ r ∈ rounds, r.Whole) {c : Call}
    (h : c ∈ allCalls rounds) : c.target ∈ named rounds := by
  obtain ⟨r, hr, hc⟩ := List.mem_flatMap.1 h
  have planned : c.toSend ∈ r.plan.map (·.send r.message) := by
    rw [← whole r hr]
    exact List.mem_map_of_mem hc
  obtain ⟨f, hf, same⟩ := List.mem_map.1 planned
  have target : f.target = c.target := congrArg Send.target same
  refine List.mem_flatMap.2 ⟨r, hr, ?_⟩
  rw [← target, (compiled r hr).mem_targets_iff]
  exact Table.exists_rule_of_plan hf

/-- The counters under the text of a target count the calls to that target and no others. -/
theorem Round.countP_metric (whole : ∀ r ∈ rounds, r.Whole) {target : Target}
    (h : target ∈ named rounds) :
    (allCalls rounds).countP (·.metric = .forwards target.text) =
        (allCalls rounds).countP (fun c => c.target = target && c.succeeded) ∧
      (allCalls rounds).countP (·.metric = .sendErrors target.text) =
        (allCalls rounds).countP (fun c => c.target = target && !c.succeeded) := by
  have told_apart : ∀ c ∈ allCalls rounds, c.target.text = target.text ↔ c.target = target :=
    fun c hc => ⟨named_text_inj compiled (target_mem_named compiled whole hc) h,
      congrArg Target.text⟩
  constructor <;> refine List.countP_congr fun c hc => ?_ <;>
    cases hs : c.succeeded <;> simp [Call.metric, hs, told_apart c hc]

/-- What is counted for each target of the tables is counted once for all rounds. -/
theorem Round.sum_named (whole : ∀ r ∈ rounds, r.Whole) {value : Target → Nat} {p : Call → Bool}
    (counted : ∀ target ∈ named rounds,
      value target = (allCalls rounds).countP fun c => c.target = target && p c) :
    ((named rounds).eraseDups.map value).sum = (rounds.map fun r => r.calls.countP p).sum := by
  have known : ∀ c ∈ allCalls rounds, c.target ∈ (named rounds).eraseDups :=
    fun c hc => List.mem_eraseDups.2 (target_mem_named compiled whole hc)
  calc ((named rounds).eraseDups.map value).sum
    _ = ((named rounds).eraseDups.map fun target =>
          (allCalls rounds).countP fun c => c.target = target && p c).sum := by
      rw [List.map_congr_left fun target h => counted target (List.mem_eraseDups.1 h)]
    _ = (allCalls rounds).countP p := sum_countP (Registry.nodup_eraseDups _) _ p known
    _ = (rounds.map fun r => r.calls.countP p).sum := List.countP_flatMap

end

/-! ## A whole run -/

namespace Dispatcher

variable {σ : Type}

/-- What a run of messages leaves: the reports in order, and the journal. -/
structure Books (σ : Type) where
  dispatcher : Dispatcher
  reports : List Report
  journal : Journal
  sink : σ

/-- Dispatches one message after the other, each under its own table. -/
def dispatchAll (d : Dispatcher) (sink : Sink σ) (s : σ) : List Turn → Books σ
  | [] => ⟨d, [], [], s⟩
  | turn :: rest =>
    let out := d.dispatch turn.table sink s turn.message
    let books := out.dispatcher.dispatchAll sink out.sink rest
    { books with
      reports := out.report :: books.reports
      journal := out.journal ++ books.journal }

/-- One dispatch is one round. -/
theorem dispatch_round {turn : Turn} (h : turn.table.Compiled) (d : Dispatcher) (sink : Sink σ)
    (s : σ) (calls : List Call) :
    let out := d.dispatch turn.table sink s turn.message
    ∃ r : Round, r.toTurn = turn ∧ r.Whole ∧ out.report = r.report ∧
      out.journal = r.entries d.port ∧
      d.dispatch turn.table sink.recording (s, calls) turn.message =
        { out with sink := (out.sink, calls ++ r.calls) } := by
  intro out
  obtain ⟨made, sends, outcomes, report, recorded⟩ :=
    d.dispatch_recording_onto turn.table sink s calls turn.message
  refine ⟨⟨turn, made⟩, rfl, sends, report, ?_, recorded⟩
  have journal := sendAll_journal sends outcomes
  have unmatched : (turn.table.plan turn.message.address).isEmpty = !turn.matched := by
    rw [Bool.eq_iff_iff, List.isEmpty_iff, Bool.not_eq_true']
    exact Turn.plan_eq_nil_iff h
  simp only [out, dispatch, journal, unmatched, Round.entries]
  cases turn.matched <;> rfl

theorem dispatchAll_rounds {turns : List Turn} (compiled : ∀ turn ∈ turns, turn.table.Compiled)
    (d : Dispatcher) (sink : Sink σ) (s : σ) (calls : List Call) :
    let books := d.dispatchAll sink s turns
    ∃ rounds : List Round, rounds.map (·.toTurn) = turns ∧ (∀ r ∈ rounds, r.Whole) ∧
      books.reports = rounds.map (·.report) ∧
      books.journal = rounds.flatMap (·.entries d.port) ∧
      d.dispatchAll sink.recording (s, calls) turns =
        { books with sink := (books.sink, calls ++ rounds.flatMap (·.calls)) } := by
  induction turns generalizing d s calls with
  | nil => exact ⟨[], rfl, nofun, rfl, rfl, by simp [dispatchAll]⟩
  | cons turn rest ih =>
    obtain ⟨first, later⟩ := List.forall_mem_cons.1 compiled
    obtain ⟨r, rfl, whole, report, journal, recorded⟩ := d.dispatch_round first sink s calls
    let out := d.dispatch r.table sink s r.message
    obtain ⟨rounds, turns_eq, wholes, reports, journals, recordings⟩ :=
      ih later out.dispatcher out.sink (calls ++ r.calls)
    refine ⟨r :: rounds, ?_, List.forall_mem_cons.2 ⟨whole, wholes⟩, ?_, ?_, ?_⟩
    · rw [List.map_cons, turns_eq]
    · simp only [dispatchAll, List.map_cons, report]
      rw [reports]
    · simp only [dispatchAll, List.flatMap_cons, journal]
      rw [journals]
      rfl
    · simp only [dispatchAll, recorded, List.flatMap_cons]
      rw [recordings, List.append_assoc]

/-- The books of a run on `port` agree with the rounds: reports, counters and events give the same
account of the calls. -/
structure Books.Agree (books : Books σ) (port : UInt16) (rounds : List Round) : Prop where
  unmatched : books.journal.value (.unmatched port) = rounds.countP (!·.matched)
  forwards : ∀ target ∈ Round.named rounds, books.journal.value (.forwards target.text) =
    (Round.allCalls rounds).countP fun c => c.target = target && c.succeeded
  sendErrors : ∀ target ∈ Round.named rounds, books.journal.value (.sendErrors target.text) =
    (Round.allCalls rounds).countP fun c => c.target = target && !c.succeeded
  labels : ∀ target ∈ Round.named rounds, ∀ other ∈ Round.named rounds,
    target.text = other.text → target = other
  forwarded : ((Round.named rounds).eraseDups.map fun target =>
    books.journal.value (.forwards target.text)).sum = (books.reports.map (·.forwarded)).sum
  failed : ((Round.named rounds).eraseDups.map fun target =>
    books.journal.value (.sendErrors target.text)).sum = (books.reports.map (·.failed)).sum
  events : books.journal.events = rounds.flatMap (·.events port)
  headings : books.journal.events.map Event.heading = rounds.flatMap fun r =>
    if r.matched then r.calls.map fun c =>
      if c.succeeded then (.debug, .scope .outgoing, "OSC out")
      else (.warn, .dispatching, "Forward failed")
    else [(.trace, .dispatching, "No rule matched")]

/-- Books that are written round by round agree with the rounds. -/
theorem Books.agree_of_rounds {books : Books σ} {port : UInt16} {rounds : List Round}
    (compiled : ∀ r ∈ rounds, r.table.Compiled) (whole : ∀ r ∈ rounds, r.Whole)
    (reports : books.reports = rounds.map (·.report))
    (journal : books.journal = rounds.flatMap (·.entries port)) : books.Agree port rounds := by
  have counted : ∀ m, m ≠ .unmatched port →
      books.journal.value m = (Round.allCalls rounds).countP (·.metric = m) := by
    intro m hm
    rw [journal, Journal.value_eq_increments (Round.counts_entries rounds port m),
      Round.increments_calls rounds port hm]
    rfl
  have forwards : ∀ target ∈ Round.named rounds, books.journal.value (.forwards target.text) =
      (Round.allCalls rounds).countP fun c => c.target = target && c.succeeded :=
    fun target h => (counted (.forwards target.text) nofun).trans
      (Round.countP_metric compiled whole h).1
  have sendErrors : ∀ target ∈ Round.named rounds,
      books.journal.value (.sendErrors target.text) =
        (Round.allCalls rounds).countP fun c => c.target = target && !c.succeeded :=
    fun target h => (counted (.sendErrors target.text) nofun).trans
      (Round.countP_metric compiled whole h).2
  have events : books.journal.events = rounds.flatMap (·.events port) := by
    rw [journal, Journal.events_flatMap]
    exact List.flatMap_congr fun r hr => (whole r hr).events_entries (compiled r hr) port
  refine ⟨?_, forwards, sendErrors, fun target ht other ho => Round.named_text_inj compiled ht ho,
    ?_, ?_, events, ?_⟩
  · rw [journal, Journal.value_eq_increments (Round.counts_entries rounds port _),
      Round.increments_unmatched]
  · rw [Round.sum_named compiled whole forwards, reports, List.map_map]
    rfl
  · rw [Round.sum_named compiled whole sendErrors, reports, List.map_map]
    rfl
  · rw [events, List.map_flatMap]
    refine List.flatMap_congr fun r _ => ?_
    unfold Round.events
    split
    · simp only [List.map_map, Function.comp_def, Call.heading_event]
    · rfl

/-- Over every run of messages, under whatever compiled tables and whatever comes of each send, the
books agree with one list of rounds, which are those of the messages and hold all calls made. -/
theorem dispatchAll_books {turns : List Turn} (compiled : ∀ turn ∈ turns, turn.table.Compiled)
    (d : Dispatcher) (sink : Sink σ) (s : σ) :
    let books := d.dispatchAll sink s turns
    ∃ rounds : List Round, rounds.map (·.toTurn) = turns ∧ (∀ r ∈ rounds, r.Whole) ∧
      d.dispatchAll sink.recording (s, []) turns =
        { books with sink := (books.sink, Round.allCalls rounds) } ∧
      books.Agree d.port rounds := by
  intro books
  obtain ⟨rounds, turns_eq, whole, reports, journal, recorded⟩ :=
    dispatchAll_rounds compiled d sink s []
  have tables : ∀ r ∈ rounds, r.table.Compiled := fun r hr =>
    compiled r.toTurn (turns_eq ▸ List.mem_map_of_mem hr)
  exact ⟨rounds, turns_eq, whole, recorded, Books.agree_of_rounds tables whole reports journal⟩

/-- Two tables that number their targets differently, a target named twice in one rule, a message
that no rule matches, and a sink of which every second send fails. -/
theorem dispatchAll_books_swapped :
    let sink : Sink Nat := fun n _ _ _ =>
      (if n % 2 = 0 then .ok () else .error (.failed ⟨"h", 1⟩ "refused"), n + 1)
    ∃ first second, Table.ofText "first" "/a + h:1 k:2/x\n/b - h:1\n" = .ok first ∧
      Table.ofText "second" "/a - k:2/x h:1 h:1\n" = .ok second ∧
      let turns : List Turn := [⟨first, ⟨"/a/1", [.int 1]⟩⟩, ⟨second, ⟨"/a", []⟩⟩,
        ⟨second, ⟨"/zz", []⟩⟩, ⟨first, ⟨"/b/c", []⟩⟩]
      let books := dispatchAll ⟨9000, .idle⟩ sink 0 turns
      (∃ rounds : List Round, rounds.map (·.toTurn) = turns ∧ (∀ r ∈ rounds, r.Whole) ∧
        dispatchAll ⟨9000, .idle⟩ sink.recording (0, []) turns =
          { books with sink := (books.sink, Round.allCalls rounds) } ∧
        books.Agree 9000 rounds) ∧
      books.reports = [⟨1, 1, 1⟩, ⟨1, 2, 1⟩, ⟨0, 0, 0⟩, ⟨1, 0, 1⟩] ∧
      [.forwards "h:1", .sendErrors "h:1", .forwards "k:2/x", .sendErrors "k:2/x",
        .unmatched 9000].map books.journal.value = [2, 2, 1, 1, 1] := by
  intro sink
  have first : Table.ofText "first" "/a + h:1 k:2/x\n/b - h:1\n" =
      .ok ⟨[⟨"a", false, [⟨0⟩, ⟨1⟩], ⟨"first", 1⟩⟩, ⟨"b", true, [⟨0⟩], ⟨"first", 2⟩⟩],
        ⟨[⟨"h", 1, none⟩, ⟨"k", 2, some "/x"⟩]⟩⟩ := by decide +kernel
  have second : Table.ofText "second" "/a - k:2/x h:1 h:1\n" =
      .ok ⟨[⟨"a", true, [⟨0⟩, ⟨1⟩, ⟨1⟩], ⟨"second", 1⟩⟩],
        ⟨[⟨"k", 2, some "/x"⟩, ⟨"h", 1, none⟩]⟩⟩ := by decide +kernel
  refine ⟨_, _, first, second, dispatchAll_books ?_ ⟨9000, .idle⟩ sink 0, by decide +kernel,
    by decide +kernel⟩
  simp only [List.forall_mem_cons]
  exact ⟨Table.compiled_of_ofText first, Table.compiled_of_ofText second,
    Table.compiled_of_ofText second, Table.compiled_of_ofText first, nofun⟩

end Dispatcher

end Patchbay
