/-
What a watching service has published against what its rule files hold. A load is current if every
text that it has read is still that of its file. A write while the watcher is installed is noticed,
and as long as no notice is under way nothing has been written since the load began; so a reload that
ends then has published the routing of the present files, if they have one.

The watcher is installed after the start has read the files. What is written in between is noticed
by nobody: until a reload begins for another reason, the routing is that of the texts that the start
has read.
-/
import Patchbay.Proofs.Load.Routing
import Patchbay.Proofs.Serve.History

namespace Patchbay

namespace Service

variable {machine : Machine} {s after : Service} {a : Action} {journal : Journal}

/-! ## The present files -/

/-- Reads the files as they are now. -/
def reader (s : Service) : FileReader := fun file => (s.files.read file).mapError FileError.message

/-- What loading the present files comes to. -/
def present (machine : Machine) (s : Service) : Except StartError Routing :=
  (Routing.load s.reader machine s.settings.sendTimeout s.settings.ruleFiles).1

/-- No notice of a change is on its way or queued. -/
def Quiet (s : Service) : Prop := s.notices = [] ∧ s.inbox.changes = []

/-- What a load has read so far is what the files hold, and the files that are left are the others. -/
def Current (s : Service) (p : Progress) : Prop :=
  ∃ done, s.settings.ruleFiles = done ++ p.left ∧ Table.TextsOf s.reader done p.texts

theorem reader_eq_ok_iff {file text : String} :
    s.reader file = .ok text ↔ s.files.read file = .ok text := by
  unfold reader
  cases s.files.read file <;> simp [Except.mapError]

/-- A load that has read all files, and found them as they are now, gives what loading them gives. -/
theorem present_of_texts {texts : List (String × String)}
    (read : Table.TextsOf s.reader s.settings.ruleFiles texts) :
    s.present machine = (Routing.ofSources machine s.settings.sendTimeout texts).1 := by
  rw [present, Routing.load, Table.readAll_of_texts read]

/-- A file that cannot be read makes loading impossible. -/
theorem present_of_unreadable {file : String} {e : FileError} (asked : file ∈ s.settings.ruleFiles)
    (gone : s.files.read file = .error e) (routing : Routing) : s.present machine ≠ .ok routing := by
  intro loaded
  rcases Table.readAll_cases s.reader s.settings.ruleFiles with ⟨sources, hread, found⟩ |
    ⟨e, hread, -⟩
  · obtain ⟨source, -, -, there⟩ := exists_left_of_forall₂ found.flip asked
    rw [reader_eq_ok_iff, gone] at there
    cases there
  · rw [present, Routing.load, hread] at loaded
    cases loaded

/-! ## What is written and noticed -/

/-- Nothing but rule files is written. -/
def Moment.writesRules (m : Moment) : Bool :=
  match m.action with
  | .write edits => edits.all fun e => (m.state.changed? e).isSome
  | _ => true

/-- A file is written while the watcher is installed. -/
def Moment.noticed (m : Moment) : Bool :=
  match m.action with
  | .write edits => m.state.watching && !edits.isEmpty
  | _ => false

/-- A reload has begun. -/
def Begun (past : List Moment) : Prop := ∃ m ∈ past, m.beginsReload

/-- The start has read these texts. -/
def StartRead (past : List Moment) (texts : List (String × String)) : Prop :=
  ∃ m ∈ past, m.state.phase = .starting ⟨[], texts⟩

theorem begun_concat {past : List Moment} {m : Moment} :
    Begun (past ++ [m]) ↔ Begun past ∨ m.beginsReload := by
  simp [Begun, or_and_right, exists_or]

theorem StartRead.concat {past : List Moment} {texts : List (String × String)}
    (h : StartRead past texts) (m : Moment) : StartRead (past ++ [m]) texts := by
  obtain ⟨first, hfirst, read⟩ := h
  exact ⟨first, List.mem_append_left _ hfirst, read⟩

/-- If no notice is under way after a write that would be noticed, nothing was written. -/
theorem quiet_before_write {edits : List Edit} (watching : s.watching = true)
    (only : Moment.writesRules ⟨s, machine, .write edits⟩ = true)
    (quiet : Quiet { s with
      files := s.files.applyAll edits
      notices := s.notices ++ if s.watching then edits.filterMap s.changed? else [] }) :
    edits = [] ∧ s.Quiet := by
  obtain ⟨notices, changes⟩ := quiet
  rw [if_pos watching] at notices
  cases edits with
  | nil => exact ⟨rfl, by simpa using notices, changes⟩
  | cons e edits =>
    have told : (s.changed? e).isSome = true := List.all_eq_true.1 only e (List.mem_cons_self ..)
    obtain ⟨path, hpath⟩ := Option.isSome_iff_exists.1 told
    simp [hpath] at notices

/-! ## Reading -/

/-- While nothing is under way, a reload in the loop has read what the files hold. -/
theorem Steps.current (h : Steps machine s a after journal) (watch : s.watch = true)
    (only : Moment.writesRules ⟨s, machine, a⟩ = true)
    (before : ∀ p, s.phase = .reloading p → s.Quiet → s.Current p) {p : Progress}
    (reloads : after.phase = .reloading p) (quiet : after.Quiet) : after.Current p := by
  cases h with
  | deliver r =>
    have same : (s.deliver r).inbox.changes = s.inbox.changes := by cases r <;> rfl
    exact before p reloads ⟨quiet.1, same ▸ quiet.2⟩
  | write edits =>
    have phase : s.phase = .reloading p := reloads
    have watching : s.watching = true := by simp [Service.watching, watch, phase]
    obtain ⟨rfl, earlier⟩ := quiet_before_write watching only quiet
    exact before p reloads earlier
  | report => simp [Quiet] at quiet
  | leave _ _ ends =>
    rw [choose_phase_of_ends s ends] at reloads
    cases reloads
  | hangup | drained =>
    cases reloads
    exact ⟨[], rfl, .nil⟩
  | @readAgain file text left texts phase there =>
    cases reloads
    obtain ⟨done, split, read⟩ := before _ phase quiet
    refine ⟨done ++ [file], by simpa using split, ?_⟩
    exact List.rel_append read (.cons ⟨rfl, reader_eq_ok_iff.2 there⟩ .nil)
  | drain phase =>
    rw [phase] at reloads
    cases reloads
  | giveUp | finish => simp at reloads
  | change | readFirst | listen | arm | enter | fail | settle => cases reloads

/-! ## Publishing -/

/-- If the present files have a routing, it is the published one. -/
def UpToDate (machine : Machine) (s : Service) : Prop :=
  ∀ routing, s.present machine = .ok routing → ∃ f, s.forwarder = some f ∧ f.routing = routing

@[simp] theorem finishReload_notices (s : Service) (result : Except StartError Routing)
    (journal : Journal) : (s.finishReload result journal).1.notices = s.notices := by
  unfold finishReload
  split <;> rfl

@[simp] theorem finishReload_present (s : Service) (result : Except StartError Routing)
    (journal : Journal) :
    (s.finishReload result journal).1.present machine = s.present machine := by
  unfold finishReload
  split <;> rfl

theorem finishReload_forwarder {f : Forwarder} (there : s.forwarder = some f)
    (result : Except StartError Routing) (journal : Journal) :
    (s.finishReload result journal).1.forwarder = some (f.publish result).1 := by
  simp [finishReload, there, wait]

/-- A reload that has read the present files publishes their routing, if they have one. -/
theorem Steps.upToDate (h : Steps machine s a after journal) (watch : s.watch = true)
    (only : Moment.writesRules ⟨s, machine, a⟩ = true) {f : Forwarder} (there : s.forwarder = some f)
    (armed : s.phase ≠ .armed) (reads : ∀ p, s.phase = .reloading p → s.Quiet → s.Current p)
    (before : s.phase = .waiting → s.Quiet → s.UpToDate machine) (waits : after.phase = .waiting)
    (quiet : after.Quiet) : after.UpToDate machine := by
  cases h with
  | deliver r =>
    have same : (s.deliver r).inbox.changes = s.inbox.changes := by cases r <;> rfl
    exact before waits ⟨quiet.1, same ▸ quiet.2⟩
  | write edits =>
    have phase : s.phase = .waiting := waits
    have watching : s.watching = true := by simp [Service.watching, watch, phase]
    obtain ⟨rfl, earlier⟩ := quiet_before_write watching only quiet
    exact before phase earlier
  | report => simp [Quiet] at quiet
  | leave _ _ ends =>
    rw [choose_phase_of_ends s ends] at waits
    cases waits
  | enter phase => exact absurd phase armed
  | drain phase =>
    rw [phase] at waits
    cases waits
  | @giveUp file left texts e phase gone =>
    obtain ⟨done, split, -⟩ := reads _ phase (by simpa [Quiet] using quiet)
    have asked : file ∈ s.settings.ruleFiles := by simp [split]
    intro routing loaded
    rw [finishReload_present] at loaded
    exact absurd loaded (present_of_unreadable asked gone routing)
  | @finish texts result built phase loaded =>
    obtain ⟨done, split, read⟩ := reads _ phase (by simpa [Quiet] using quiet)
    have all : s.settings.ruleFiles = done := by simpa using split
    rw [← all] at read
    intro routing present
    rw [finishReload_present, present_of_texts read, loaded] at present
    refine ⟨_, finishReload_forwarder there result built, ?_⟩
    rw [show result = .ok routing from present]
    rfl
  | hangup | change | readFirst | listen | arm | fail | settle | drained | readAgain => cases waits

/-! ## Runs -/

/-- What holds of a watching service after the steps of `past`. -/
structure Watches (machine : Machine) (past : List Moment) (s : Service) : Prop where
  watch : s.watch = true
  /-- A reload only begins in the loop. -/
  entered : Begun past → s.serving = true ∨ s.phase = .stopped
  /-- A reload has begun, or it is just about to. -/
  reading : ∀ p, s.phase = .reloading p → s.committed = true ∨ Begun past
  /-- A reload that nothing will follow has read the present files. -/
  reads : ∀ p, s.phase = .reloading p → s.Quiet → s.Current p
  published : s.phase = .waiting → s.Quiet → Begun past → s.UpToDate machine
  /-- The routing is that of the start until a reload has begun. -/
  started : s.phase = .listening ∨ s.phase = .armed ∨ s.serving = true →
    ∃ f, s.forwarder = some f ∧ (Begun past ∨ ∃ texts, StartRead past texts ∧
      (Routing.ofSources machine s.settings.sendTimeout texts).1 = .ok f.routing)
  /-- A noticed write leads to a reload. -/
  noticed : (∃ m ∈ past, m.noticed = true) →
    ¬ s.Quiet ∨ s.committed = true ∨ Begun past ∨ s.phase = .stopped

theorem watches_launch (settings : ForwarderSettings) (files : Files) :
    Watches machine [] (launch settings true files) where
  watch := rfl
  entered := by simp [Begun]
  reading := by simp [launch]
  reads := by simp [launch]
  published := by simp [launch]
  started := by simp [launch, serving]
  noticed := by simp

theorem Watches.begun_of_reloading {past : List Moment} (h : Watches machine past s) {p : Progress}
    (phase : s.phase = .reloading p) : Begun (past ++ [⟨s, machine, .proceed⟩]) := by
  rcases h.reading p phase with committed | begun
  · exact begun_concat.2 (.inr ⟨rfl, (committed_iff_of_reloading phase).1 committed⟩)
  · exact begun_concat.2 (.inl begun)

theorem Watches.entered_concat {past : List Moment} (h : Watches machine past s)
    (begun : Begun (past ++ [⟨s, machine, a⟩])) : s.serving = true ∨ s.phase = .stopped := by
  rcases begun_concat.1 begun with begun | begins
  · exact h.entered begun
  · exact .inl (serving_of_committed (committed_of_toReload begins.2))

theorem Watches.reading_step {past : List Moment} (h : Watches machine past s)
    (step : Steps machine s a after journal) {p : Progress} (phase : after.phase = .reloading p) :
    after.committed = true ∨ Begun (past ++ [⟨s, machine, a⟩]) := by
  cases step with
  | deliver | write | report =>
    exact (h.reading p phase).imp id fun begun => begun_concat.2 (.inl begun)
  | leave _ _ ends =>
    rw [choose_phase_of_ends s ends] at phase
    cases phase
  | hangup | drained => exact .inl (committed_of_toReload rfl)
  | drain drains =>
    rw [drains] at phase
    cases phase
  | readAgain reloads => exact .inr (h.begun_of_reloading reloads)
  | giveUp | finish => simp at phase
  | change | readFirst | listen | arm | enter | fail | settle => cases phase

theorem Watches.published_step {past : List Moment} (h : Watches machine past s)
    (step : Steps machine s a after journal) (only : Moment.writesRules ⟨s, machine, a⟩ = true)
    (waits : after.phase = .waiting) (quiet : after.Quiet)
    (begun : Begun (past ++ [⟨s, machine, a⟩])) : after.UpToDate machine := by
  rcases h.entered_concat begun with serving | stopped
  · obtain ⟨f, there, -⟩ := h.started (.inr (.inr serving))
    refine step.upToDate h.watch only there (running_of_serving serving).2 h.reads
      (fun phase still => ?_) waits quiet
    rcases begun_concat.1 begun with begun | begins
    · exact h.published phase still begun
    · have reloads := begins.2
      simp [phase, toReload] at reloads
  · have ended := step.stopped stopped
    rw [waits] at ended
    cases ended

/-- What is left of `started` after a step that leaves the forwarder as it is. -/
theorem Watches.started_concat {past : List Moment} (h : Watches machine past s)
    (live : s.phase = .listening ∨ s.phase = .armed ∨ s.serving = true) (m : Moment) :
    ∃ f, s.forwarder = some f ∧ (Begun (past ++ [m]) ∨ ∃ texts, StartRead (past ++ [m]) texts ∧
      (Routing.ofSources machine s.settings.sendTimeout texts).1 = .ok f.routing) := by
  obtain ⟨f, there, begun | ⟨texts, read, loaded⟩⟩ := h.started live
  · exact ⟨f, there, .inl (begun_concat.2 (.inl begun))⟩
  · exact ⟨f, there, .inr ⟨texts, read.concat m, loaded⟩⟩

theorem routing_of_listen {settings : ForwarderSettings} {routing : Routing} {f : Forwarder}
    (h : Forwarder.listen machine settings routing = (.ok f, journal)) : f.routing = routing := by
  rw [Forwarder.listen_eq] at h
  split at h
  · cases h
  · cases h
    rfl

theorem Watches.started_step {past : List Moment} (h : Watches machine past s)
    (step : Steps machine s a after journal)
    (live : after.phase = .listening ∨ after.phase = .armed ∨ after.serving = true) :
    ∃ f, after.forwarder = some f ∧ (Begun (past ++ [⟨s, machine, a⟩]) ∨
      ∃ texts, StartRead (past ++ [⟨s, machine, a⟩]) texts ∧
        (Routing.ofSources machine after.settings.sendTimeout texts).1 = .ok f.routing) := by
  cases step with
  | deliver | write | report => exact h.started_concat live _
  | leave _ _ ends =>
    have stopped := choose_phase_of_ends s ends
    simp [stopped, serving] at live
  | hangup phase | change phase | settle phase | drain phase | drained phase | readAgain phase =>
    exact h.started_concat (.inr (.inr (by simp [serving, phase]))) _
  | @listen texts routing f loading binding phase loaded bound =>
    refine ⟨f, rfl, .inr ⟨texts, ⟨_, List.mem_append_right _ (List.mem_singleton_self _), phase⟩, ?_⟩⟩
    rw [routing_of_listen bound]
    exact congrArg Prod.fst loaded
  | arm phase => exact h.started_concat (.inl phase) _
  | enter phase => exact h.started_concat (.inr (.inl phase)) _
  | giveUp phase | finish phase =>
    obtain ⟨f, there, -⟩ := h.started (.inr (.inr (by simp [serving, phase])))
    exact ⟨_, finishReload_forwarder there _ _, .inl (h.begun_of_reloading phase)⟩
  | readFirst | fail => simp [serving] at live

/-- A notice that is under way goes on to the loop, which is then committed to a reload. -/
theorem Steps.unquiet (h : Steps machine s a after journal) (told : ¬ s.Quiet) :
    ¬ after.Quiet ∨ after.committed = true ∨ after.phase = .stopped := by
  cases h with
  | deliver r => cases r <;> exact .inl told
  | write => exact .inl fun quiet => told ⟨(List.append_eq_nil_iff.1 quiet.1).1, quiet.2⟩
  | report => exact .inl fun quiet => by simp [Quiet] at quiet
  | leave _ _ ends => exact .inr (.inr (choose_phase_of_ends s ends))
  | hangup | drained => exact .inr (.inl (committed_of_toReload rfl))
  | change | settle => exact .inr (.inl rfl)
  | drain phase => exact .inr (.inl (by simp [Service.committed, phase]))
  | giveUp | finish => exact .inl (by simpa [Quiet] using told)
  | readFirst | listen | arm | enter | fail | readAgain => exact .inl told

theorem Watches.noticed_step {past : List Moment} (h : Watches machine past s)
    (step : Steps machine s a after journal) (only : Moment.writesRules ⟨s, machine, a⟩ = true)
    (told : ∃ m ∈ past ++ [⟨s, machine, a⟩], m.noticed = true) :
    ¬ after.Quiet ∨ after.committed = true ∨ Begun (past ++ [⟨s, machine, a⟩]) ∨
      after.phase = .stopped := by
  obtain ⟨m, hm, noticed⟩ := told
  rcases List.mem_append.1 hm with hm | hm
  · rcases h.noticed ⟨m, hm, noticed⟩ with unquiet | committed | begun | stopped
    · exact (step.unquiet unquiet).imp id fun rest => rest.imp id .inr
    · rcases step.committed committed with committed | begins
      · exact .inr (.inl committed)
      · exact .inr (.inr (.inl (begun_concat.2 (.inr begins))))
    · exact .inr (.inr (.inl (begun_concat.2 (.inl begun))))
    · exact .inr (.inr (.inr (step.stopped stopped)))
  · obtain rfl := List.mem_singleton.1 hm
    cases step with
    | write edits =>
      simp only [Moment.noticed, Bool.and_eq_true] at noticed
      obtain ⟨watching, wrote⟩ := noticed
      refine .inl fun quiet => ?_
      obtain ⟨rfl, -⟩ := quiet_before_write watching only quiet
      cases wrote
    | _ => cases noticed

theorem Watches.step {past : List Moment} (h : Watches machine past s)
    (step : Steps machine s a after journal) (only : Moment.writesRules ⟨s, machine, a⟩ = true) :
    Watches machine (past ++ [⟨s, machine, a⟩]) after where
  watch := step.watch_eq.trans h.watch
  entered begun := (h.entered_concat begun).elim step.serving fun ended => .inr (step.stopped ended)
  reading _ phase := h.reading_step step phase
  reads _ phase quiet := step.current h.watch only h.reads phase quiet
  published waits quiet begun := h.published_step step only waits quiet begun
  started live := h.started_step step live
  noticed told := h.noticed_step step only told

theorem watches_of_history {settings : ForwarderSettings} {files : Files}
    {inputs : List (Machine × Action)} {past : List Moment}
    (h : (launch settings true files).history inputs = some (past, s))
    (steady : ∀ m ∈ past, m.machine = machine) (only : ∀ m ∈ past, m.writesRules = true) :
    Watches machine past s := by
  refine history_induction
    (fun past s => (∀ m ∈ past, m.machine = machine) → (∀ m ∈ past, m.writesRules = true) →
      Watches machine past s) ?_ ?_ h steady only
  · exact fun _ _ => watches_launch settings files
  · intro past s other a after journal ih step steady only
    obtain ⟨steady, last⟩ := List.forall_mem_append.1 steady
    obtain ⟨only, rules⟩ := List.forall_mem_append.1 only
    obtain rfl : other = machine := last _ (List.mem_singleton_self _)
    exact (ih steady only).step step (rules _ (List.mem_singleton_self _))

/-- The routing of a watching service whose rule files are written at any time, at a wait with no
notice under way. If a reload has begun, and it has as soon as a file was written while the watcher
was installed, the routing is that of the present files, if they have one. If none has, it is that
of the texts that the start read, which is that of the present files if they still hold them. -/
theorem routing_at_quiet_wait {settings : ForwarderSettings} {files : Files}
    {inputs : List (Machine × Action)} {past : List Moment}
    (h : (launch settings true files).history inputs = some (past, s))
    (steady : ∀ m ∈ past, m.machine = machine) (only : ∀ m ∈ past, m.writesRules = true)
    (waits : s.phase = .waiting) (quiet : s.Quiet) :
    ∃ f, s.forwarder = some f ∧
      (Begun past → ∀ routing, s.present machine = .ok routing → f.routing = routing) ∧
      ((∃ m ∈ past, m.noticed = true) → Begun past) ∧
      (¬ Begun past → ∃ texts, StartRead past texts ∧
        (Routing.ofSources machine s.settings.sendTimeout texts).1 = .ok f.routing ∧
        (Table.TextsOf s.reader s.settings.ruleFiles texts → s.present machine = .ok f.routing)) := by
  have holds := watches_of_history h steady only
  obtain ⟨f, there, since⟩ := holds.started (.inr (.inr (by simp [serving, waits])))
  refine ⟨f, there, fun begun routing loaded => ?_, fun told => ?_, fun none => ?_⟩
  · obtain ⟨g, published, rfl⟩ := holds.published waits quiet begun routing loaded
    rw [there] at published
    cases published
    rfl
  · rcases holds.noticed told with unquiet | committed | begun | stopped
    · exact absurd quiet unquiet
    · simp [Service.committed, waits, toReload] at committed
    · exact begun
    · rw [waits] at stopped
      cases stopped
  · obtain ⟨texts, read, loaded⟩ := since.resolve_left none
    exact ⟨texts, read, loaded, fun still => (present_of_texts still).trans loaded⟩

theorem ok_of_toOption {ε α : Type} {result : Except ε α} {a : α}
    (h : result.toOption = some a) : result = .ok a := by
  cases result with
  | error e => cases h
  | ok b => exact congrArg _ (Option.some.inj h)

/-- The start reads the file, the file is written, and then the watcher is installed and the file is
written once more. -/
theorem routing_at_quiet_wait_rewritten :
    let machine : Machine := .offline []
    let save (text : String) : Edit := .write "r" (Text.Utf8.encode text)
    let start := launch ⟨["r"], 500, "127.0.0.1", [9000]⟩ true
      (.ofEdits [save "/a + 127.0.0.1:1\n"])
    let actions : List Action := [.proceed, .proceed, .write [save "/b + 127.0.0.1:1\n"], .proceed,
      .proceed, .write [save "/c + 127.0.0.1:1\n"], .report, .choose .change, .proceed, .proceed,
      .proceed, .proceed]
    ∃ past s f routing, start.history (actions.map (machine, ·)) = some (past, s) ∧
      (∀ m ∈ past, m.writesRules = true) ∧ s.phase = .waiting ∧ s.Quiet ∧
      (∃ m ∈ past, m.noticed = true) ∧ s.present machine = .ok routing ∧
      s.forwarder = some f ∧ f.routing = routing ∧
      f.routing.table.render = "/c + 127.0.0.1:1\n" := by
  intro machine save start actions
  have reached : (start.history (actions.map (machine, ·))).map (fun r =>
      (r.1.all Moment.writesRules, r.1.any Moment.noticed, r.2.phase,
        r.2.notices ++ r.2.inbox.changes, (r.2.present machine).toOption.map (·.table.render))) =
        some (true, true, .waiting, [], some "/c + 127.0.0.1:1\n") := by
    decide +kernel
  obtain ⟨⟨past, s⟩, h, heq⟩ := Option.map_eq_some_iff.1 reached
  simp only [Prod.mk.injEq, Option.map_eq_some_iff] at heq
  obtain ⟨rules, told, waits, empty, routing, loaded, shown⟩ := heq
  have steady : ∀ m ∈ past, m.machine = machine := by
    intro m hm
    have given := List.mem_map_of_mem (f := fun m : Moment => (m.machine, m.action)) hm
    rw [history_inputs h] at given
    obtain ⟨a, -, heq⟩ := List.mem_map.1 given
    exact (congrArg Prod.fst heq).symm
  have only : ∀ m ∈ past, m.writesRules = true := List.all_eq_true.1 rules
  have noticed : ∃ m ∈ past, m.noticed = true := List.any_eq_true.1 told
  have quiet : s.Quiet := List.append_eq_nil_iff.1 empty
  have present := ok_of_toOption loaded
  obtain ⟨f, there, same, begun, -⟩ := routing_at_quiet_wait h steady only waits quiet
  have published := same (begun noticed) routing present
  exact ⟨past, s, f, routing, h, only, waits, quiet, noticed, present, there, published,
    published ▸ shown⟩

/-- What the start has read is behind what the file holds, and nothing tells the service so: the file
is written after the start has read it and before the watcher is installed. -/
theorem not_upToDate_of_early_write :
    let machine : Machine := .offline []
    let save (text : String) : Edit := .write "r" (Text.Utf8.encode text)
    let start := launch ⟨["r"], 500, "127.0.0.1", [9000]⟩ true
      (.ofEdits [save "/a + 127.0.0.1:1\n"])
    let actions : List Action := [.proceed, .proceed, .write [save "/b + 127.0.0.1:1\n"], .proceed,
      .proceed]
    ∃ past s f routing, start.history (actions.map (machine, ·)) = some (past, s) ∧
      (∀ m ∈ past, m.writesRules = true) ∧ s.phase = .waiting ∧ s.Quiet ∧ s.next? = none ∧
      s.present machine = .ok routing ∧ s.forwarder = some f ∧
      f.routing.table.same routing.table = false := by
  intro machine save start actions
  have reached : (start.history (actions.map (machine, ·))).map (fun r =>
      (r.1.all Moment.writesRules, r.2.phase, r.2.inbox, r.2.notices,
        r.2.forwarder.bind fun f => (r.2.present machine).toOption.map fun routing =>
          f.routing.table.same routing.table)) =
        some (true, .waiting, {}, [], some false) := by
    decide +kernel
  obtain ⟨⟨past, s⟩, h, heq⟩ := Option.map_eq_some_iff.1 reached
  simp only [Prod.mk.injEq, Option.bind_eq_some_iff, Option.map_eq_some_iff] at heq
  obtain ⟨rules, waits, inbox, notices, f, there, routing, loaded, behind⟩ := heq
  have only : ∀ m ∈ past, m.writesRules = true := List.all_eq_true.1 rules
  have quiet : s.Quiet := ⟨notices, by rw [inbox]⟩
  have present := ok_of_toOption loaded
  have unready : ∀ b, s.ready b = false := fun b => by cases b <;> simp [ready, inbox]
  have settled : s.next? = none := by simp [next?, waits, notices, unready]
  exact ⟨past, s, f, routing, h, only, waits, quiet, settled, present, there, behind⟩

end Service

end Patchbay
