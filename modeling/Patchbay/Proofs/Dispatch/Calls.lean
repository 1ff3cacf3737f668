/-
Calls: what a dispatch asks of its sink, read off the text of the rules. A sink that also keeps a
record of its calls shows that there is one call for each target token of each matching record, in
the order of the text and whatever the outcome of the calls before.
-/
import Patchbay.Dispatch
import Patchbay.Proofs.Dispatch.Path
import Patchbay.Proofs.Dispatch.Plan

namespace Patchbay

/-! ## Recording calls -/

/-- What a sink is asked to send. -/
structure Send where
  target : Target
  path : String
  message : Osc.Message

/-- A send and what came of it. -/
structure Call extends Send where
  outcome : Except SendError Unit

def Call.succeeded (call : Call) : Bool := Dispatcher.succeeded call.outcome

/-- The sink with a record of its calls beside its own state. -/
def Sink.recording {σ : Type} (sink : Sink σ) : Sink (σ × List Call) :=
  fun (s, calls) target path message =>
    let (outcome, s) := sink s target path message
    (outcome, s, calls ++ [⟨⟨target, path, message⟩, outcome⟩])

def Forward.send (m : Osc.Message) (f : Forward) : Send := ⟨f.target, f.path, m⟩

namespace Dispatcher

variable {σ : Type}

/-- Recording changes nothing for the dispatch, and it records each planned send with its outcome. -/
theorem sendAll_recording (d : Dispatcher) (sink : Sink σ) (m : Osc.Message) (s : σ)
    (calls : List Call) (plan : List Forward) :
    ∃ made : List Call, made.map (·.toSend) = plan.map (·.send m) ∧
      made.map (·.outcome) = (d.sendAll sink m s plan).1 ∧
      d.sendAll sink.recording m (s, calls) plan =
        ((d.sendAll sink m s plan).1, (d.sendAll sink m s plan).2.1,
          (d.sendAll sink m s plan).2.2, calls ++ made) := by
  -- the record grows at its end, so the induction is for every record to begin with
  induction plan generalizing s calls with
  | nil => exact ⟨[], rfl, rfl, by simp [sendAll]⟩
  | cons f rest ih =>
    let call : Call := ⟨f.send m, (sink s f.target f.path m).1⟩
    obtain ⟨made, sends, outcomes, later⟩ := ih (sink s f.target f.path m).2 (calls ++ [call])
    refine ⟨call :: made, ?_, ?_, ?_⟩
    · rw [List.map_cons, List.map_cons, sends]
    · rw [List.map_cons, outcomes]
      rfl
    · have first : sink.recording (s, calls) f.target f.path m =
          (call.outcome, (sink s f.target f.path m).2, calls ++ [call]) := rfl
      simp only [sendAll, first, later, List.append_assoc, List.singleton_append]
      rfl

/-- The calls of a dispatch are the plan of the message, and the report counts their outcomes. They are
added to the calls that the sink has recorded before. -/
theorem dispatch_recording_onto (d : Dispatcher) (t : Table) (sink : Sink σ) (s : σ)
    (calls : List Call) (m : Osc.Message) :
    ∃ made : List Call, made.map (·.toSend) = (t.plan m.address).map (·.send m) ∧
      made.map (·.outcome) =
        (sendAll { d with activity := .dispatching } sink m s (t.plan m.address)).1 ∧
      (d.dispatch t sink s m).report =
        ⟨matchedRules (t.plan m.address), made.countP (·.succeeded), made.countP (!·.succeeded)⟩ ∧
      d.dispatch t sink.recording (s, calls) m =
        { d.dispatch t sink s m with sink := ((d.dispatch t sink s m).sink, calls ++ made) } := by
  let busy : Dispatcher := { d with activity := .dispatching }
  obtain ⟨made, sends, outcomes, recorded⟩ :=
    busy.sendAll_recording sink m s calls (t.plan m.address)
  refine ⟨made, sends, outcomes, ?_, ?_⟩
  · simp only [dispatch]
    rw [← outcomes, List.countP_map, List.countP_map]
    rfl
  · simp only [dispatch]
    rw [recorded]

theorem dispatch_recording (d : Dispatcher) (t : Table) (sink : Sink σ) (s : σ) (m : Osc.Message) :
    ∃ made : List Call, made.map (·.toSend) = (t.plan m.address).map (·.send m) ∧
      (d.dispatch t sink s m).report =
        ⟨matchedRules (t.plan m.address), made.countP (·.succeeded), made.countP (!·.succeeded)⟩ ∧
      d.dispatch t sink.recording (s, []) m =
        { d.dispatch t sink s m with sink := ((d.dispatch t sink s m).sink, made) } := by
  obtain ⟨made, sends, -, report, recorded⟩ := d.dispatch_recording_onto t sink s [] m
  exact ⟨made, sends, report, recorded⟩

end Dispatcher

/-! ## Records -/

namespace Record

/-- The head of the record is the first segment of the address. -/
def concerns (address : String) (fs : List String) : Bool :=
  match Path.segments address, fs with
  | [] :: segment :: _, first :: _ => Text.strip (· == '/') first.toList == segment
  | _, _ => false

/-- The target tokens of a record, each with the flag of the record. -/
def tokens : List String → List (Bool × String)
  | _ :: second :: tokens => tokens.map fun token => (second == "-", token)
  | _ => []

/-- The send does what a target token says: `m` goes to the target that the token stands for, under
its path, or else under that of the message, which loses the head if the record says so. -/
structure Answers (m : Osc.Message) (token : Bool × String) (send : Send) : Prop where
  target : Target.parse token.2 = .ok send.target
  path : send.path = send.target.replacement.getD
    (if token.1 then Path.behindHead m.address else m.address)
  message : send.message = m

theorem concerns_iff {address : String} {fs : List String} {r : Meaning} (h : Asks fs r) :
    concerns address fs = true ↔ (some r.head == Path.head? address) = true := by
  obtain ⟨first, toks, rfl, -, hhead, -⟩ := readFields_eq_rule_iff.1 h
  obtain ⟨hstrip, hne, -⟩ := head_eq_ok_iff.1 hhead
  rw [beq_iff_eq, eq_comm (a := some r.head), Path.head?_eq_some_iff]
  constructor
  · intro hc
    unfold concerns at hc
    split at hc
    · rename_i segment rest _ _ hs hfs
      cases hfs
      rw [beq_iff_eq, hstrip] at hc
      exact ⟨hne, rest, hc ▸ hs⟩
    · cases hc
  · rintro ⟨-, rest, hs⟩
    simp [concerns, hs, hstrip]

/-- The sends of a rule answer the tokens of its record, one by one. -/
theorem answers_tokens {m : Osc.Message} {fs : List String} {r : Meaning} (h : Asks fs r)
    (absolute : ∃ rest, m.address.toList = '/' :: rest) :
    List.Forall₂ (Answers m) (tokens fs)
      ((r.sends m.address).map fun p => ⟨p.1, p.2, m⟩) := by
  obtain ⟨first, toks, rfl, -, -, htargets⟩ := readFields_eq_rule_iff.1 h
  obtain ⟨rest, hrest⟩ := absolute
  have flag : (indicator r.truncate == "-") = r.truncate := by
    cases r.truncate <;> decide
  simp only [tokens, Meaning.sends, List.map_map, List.forall₂_map_left_iff,
    List.forall₂_map_right_iff, flag, Function.comp_def]
  refine htargets.imp fun token target hparse => ⟨hparse, ?_, rfl⟩
  rw [outboundPath, Path.dropHead_eq hrest]
  cases target.replacement <;> rfl

end Record

/-! ## Dispatching -/

/-- The records with the head of an address ask for the rules with that head. -/
theorem Table.asks_matching {file text : String} {t : Table} (h : ofText file text = .ok t)
    (address : String) :
    List.Forall₂ Record.Asks ((Record.ofText text).filter (Record.concerns address))
      (t.meanings.filter fun r => some r.head == Path.head? address) :=
  List.rel_filter (fun _ _ asks => Record.concerns_iff asks) (ofText_asks h)

/-- The sends of a plan answer the tokens of the matching records. -/
theorem Table.answers_plan {file text : String} {t : Table} (h : ofText file text = .ok t)
    (m : Osc.Message) :
    List.Forall₂ (Record.Answers m)
      (((Record.ofText text).filter (Record.concerns m.address)).flatMap Record.tokens)
      ((t.plan m.address).map (·.send m)) := by
  have matching := asks_matching h m.address
  have sends : (t.plan m.address).map (·.send m) =
      (t.meanings.filter fun r => some r.head == Path.head? m.address).flatMap fun r =>
        (r.sends m.address).map fun p => ⟨p.1, p.2, m⟩ := by
    rw [← List.map_flatMap, ← sends_plan, List.map_map]
    rfl
  rw [sends]
  cases hhead : Path.head? m.address with
  | none =>
    have nothing : (t.meanings.filter fun r => some r.head == Path.head? m.address) = [] := by
      simp [hhead]
    rw [nothing] at matching
    rw [List.forall₂_nil_right_iff.1 matching]
    simp
  | some head =>
    obtain ⟨-, rest, hs⟩ := Path.head?_eq_some_iff.1 hhead
    have absolute := Path.absolute_of_segments hs
    rw [hhead] at matching
    exact List.rel_flatMap matching fun _ _ asks => Record.answers_tokens asks absolute

/-- Every rule of a compiled table has a target, so each matching record is a matched rule. -/
theorem Table.matchedRules_ofText {file text : String} {t : Table} (h : ofText file text = .ok t)
    (address : String) :
    matchedRules (t.plan address) =
      ((Record.ofText text).filter (Record.concerns address)).length := by
  rw [matchedRules_plan, (asks_matching h address).length_eq, ← List.countP_eq_length_filter]
  refine List.countP_congr fun r hr => ?_
  simp [(ofText_writable h r hr).targets_ne]

/-- A path without a head has no record that concerns it. -/
theorem Record.concerns_eq_false {address : String}
    (h : address.toList.head? ≠ some '/' ∨ (Path.segments address)[1]? = some [])
    {fs : List String} {r : Meaning} (asks : Asks fs r) : concerns address fs = false := by
  rw [← Bool.not_eq_true, concerns_iff asks, beq_iff_eq, eq_comm, Path.head?_eq_some_iff]
  rintro ⟨hne, rest, hs⟩
  obtain ⟨tail, absolute⟩ := Path.absolute_of_segments hs
  rcases h with h | h
  · exact h (by rw [absolute]; rfl)
  · rw [hs] at h
    exact hne (String.toList_eq_nil_iff.1 (Option.some.inj h))

namespace Dispatcher

/-- Dispatching a message under the table of a text makes one call for each target token of each
record whose head is the first segment of the address, in the order of the text and with what the
token says, whatever comes of each call. The report counts the records, the calls that succeed and
those that fail. A relative address, or one whose first segment is empty, matches no record. -/
theorem dispatch_calls {σ : Type} {file text : String} {t : Table}
    (h : Table.ofText file text = .ok t) (d : Dispatcher) (sink : Sink σ) (s : σ)
    (m : Osc.Message) :
    let matching := (Record.ofText text).filter (Record.concerns m.address)
    let out := d.dispatch t sink s m
    ∃ calls : List Call,
      d.dispatch t sink.recording (s, []) m = { out with sink := (out.sink, calls) } ∧
      List.Forall₂ (Record.Answers m) (matching.flatMap Record.tokens)
        (calls.map (·.toSend)) ∧
      out.report = ⟨matching.length, calls.countP (·.succeeded), calls.countP (!·.succeeded)⟩ ∧
      (m.address.toList.head? ≠ some '/' ∨ (Path.segments m.address)[1]? = some [] →
        matching = []) ∧
      out.dispatcher = { d with activity := .idle } := by
  intro matching out
  obtain ⟨calls, sends, report, recorded⟩ := d.dispatch_recording t sink s m
  refine ⟨calls, recorded, ?_, ?_, fun headless => ?_, rfl⟩
  · rw [sends]
    exact Table.answers_plan h m
  · rw [← Table.matchedRules_ofText h m.address]
    exact report
  · refine List.filter_eq_nil_iff.2 fun fs hfs => ?_
    obtain ⟨r, -, asks⟩ := exists_left_of_forall₂ (Table.ofText_asks h).flip hfs
    rw [Record.concerns_eq_false headless asks]
    exact Bool.false_ne_true

/-- Every second send fails: records with one head, a target named three times, a replacement, and
a record that drops the head. -/
theorem dispatch_calls_failing :
    let text := "/a + h:1 h:1 k:2/fx\n/b + h:1\n//a/ - h:01 # again\n"
    let sink : Sink Nat := fun n _ _ _ =>
      (if n % 2 = 0 then .ok () else .error (.failed ⟨"h", 1⟩ "refused"), n + 1)
    let m : Osc.Message := ⟨"/a/x", [.int 7]⟩
    ∃ t, Table.ofText "rules" text = .ok t ∧
      let out := Dispatcher.dispatch ⟨9000, .idle⟩ t sink 0 m
      ∃ calls : List Call,
        Dispatcher.dispatch ⟨9000, .idle⟩ t sink.recording (0, []) m =
          { out with sink := (out.sink, calls) } ∧
        List.Forall₂ (Record.Answers m)
          [(false, "h:1"), (false, "h:1"), (false, "k:2/fx"), (true, "h:01")]
          (calls.map (·.toSend)) ∧
        out.report = ⟨2, calls.countP (·.succeeded), calls.countP (!·.succeeded)⟩ ∧
        out.report = ⟨2, 2, 2⟩ := by
  intro text sink m
  have compiled : Table.ofText "rules" text =
      .ok ⟨[⟨"a", false, [⟨0⟩, ⟨0⟩, ⟨1⟩], ⟨"rules", 1⟩⟩, ⟨"b", false, [⟨0⟩], ⟨"rules", 2⟩⟩,
          ⟨"a", true, [⟨0⟩], ⟨"rules", 3⟩⟩],
        ⟨[⟨"h", 1, none⟩, ⟨"k", 2, some "/fx"⟩]⟩⟩ := by
    decide +kernel
  have matching : (Record.ofText text).filter (Record.concerns "/a/x") =
      [["/a", "+", "h:1", "h:1", "k:2/fx"], ["//a/", "-", "h:01"]] := by
    decide +kernel
  obtain ⟨calls, recorded, answers, report, -⟩ := dispatch_calls compiled ⟨9000, .idle⟩ sink 0 m
  rw [matching] at answers report
  exact ⟨_, compiled, calls, recorded, answers, report, by decide +kernel⟩

end Dispatcher

end Patchbay
