/-
Starting a forwarder. The stages of a start follow each other: the files are read, their texts are
compiled, clients are built for what the texts name, the ports are bound. Each stage takes its items
in order and stops at the first that fails, and no stage begins before all items of the one before
have gone well; so of several faults the one that is reported is the first of the earliest stage.

When sockets are bound and when their receive loops begin is seen by starting on a stage, which
answers for the machine and may keep a record. No loop begins before every port is bound.

Nothing is asked of the machine twice: the endpoints are distinct, the endpoints of an address family
share a socket, and a port is bound by its place in the list. So a machine can answer in any way.
-/
import Patchbay.Proofs.Load.Routing

namespace Patchbay

open Net

/-! ## Loading -/

/-- The files behind the first that cannot be read are never asked for. -/
theorem Table.readAll_unreadable {read : FileReader} {before : List String} {file reason : String}
    (readable : ∀ f ∈ before, ∃ text, read f = .ok text) (refused : read file = .error reason)
    (after : List String) :
    readAll read (before ++ file :: after) = .error (.unreadable file reason) := by
  induction before with
  | nil => simp only [List.nil_append, readAll, refused]
  | cons f before ih =>
    obtain ⟨⟨text, there⟩, others⟩ := List.forall_mem_cons.1 readable
    simp only [List.cons_append, readAll, there, ih others]
    rfl

theorem Table.exists_textsOf {read : FileReader} {files : List String}
    (readable : ∀ f ∈ files, ∃ text, read f = .ok text) :
    ∃ sources, TextsOf read files sources := by
  refine exists_forall₂ fun file hfile => ?_
  obtain ⟨text, there⟩ := readable file hfile
  exact ⟨(file, text), rfl, there⟩

namespace Routing

/-- The endpoints that the lines of sources name, as often as they name them. -/
def mentions (sources : List (String × String)) : List Endpoint :=
  (sources.flatMap fun source =>
    (Table.lines source.2).flatMap fun line => Record.named (Record.fields line)).map Target.endpoint

theorem endpoints_eq_mentions {sources : List (String × String)} {table : Table}
    (h : Table.addSources {} sources = .ok table) :
    table.registry.endpoints = (mentions sources).eraseDups := by
  rw [Registry.endpoints, Table.addSources_targets h, Registry.eraseDups_map_eraseDups, mentions]

section

variable {read : FileReader} {machine : Machine} {files : List String}
  {sources : List (String × String)}

theorem load_of_texts (texts : Table.TextsOf read files sources) (timeout : Nat) :
    load read machine timeout files = ofSources machine timeout sources := by
  simp only [load, Table.readAll_of_texts texts]

/-- Sound sources fail at the first mention of an endpoint that cannot be reached. -/
theorem ofSources_refused (sound : ∀ source ∈ sources, Table.IsSound source)
    {before after : List Endpoint} {e : Endpoint} {fault : ClientError}
    (named : mentions sources = before ++ e :: after)
    (reachable : ∀ b ∈ before, ¬ Pool.Unreachable machine b)
    (refused : Pool.Refusal machine e fault) (timeout : Nat) :
    (ofSources machine timeout sources).1 = .error (.client fault) := by
  -- its first mention, so it keeps its place in the list without the repetitions
  have new : e ∉ before := fun there => reachable e there refused.unreachable
  have hadd := Table.addSources_sound sound {}
  obtain ⟨others, first⟩ := Registry.eraseDups_append_cons_of_not_mem new after
  rw [← named, ← endpoints_eq_mentions hadd] at first
  have failed := Pool.build_refused first
    (fun b hb => reachable b (List.mem_eraseDups.1 hb)) refused timeout
  rcases hbuild : Pool.build machine timeout
      (Table.absorbAll {} (sources.map Table.wholeShare)).registry with ⟨e | pool, journal⟩
  · rw [hbuild] at failed
    cases failed
    simp only [ofSources, hadd, hbuild]
  · rw [hbuild] at failed
    cases failed

/-- Sound sources that name nothing but what can be reached. -/
theorem not_fault_of_mentions (texts : Table.TextsOf read files sources)
    (sound : ∀ source ∈ sources, Table.IsSound source)
    (reachable : ∀ e ∈ mentions sources, ¬ Pool.Unreachable machine e) :
    ¬ Fault read machine files := by
  have hadd := Table.addSources_sound sound {}
  refine not_fault texts hadd fun e he => reachable e ?_
  rwa [endpoints_eq_mentions hadd, List.mem_eraseDups] at he

theorem exists_load (h : ¬ Fault read machine files) (timeout : Nat) :
    ∃ routing, (load read machine timeout files).1 = .ok routing := by
  rcases load_cases read machine timeout files with ⟨routing, quiet, hload, -⟩ |
    ⟨e, journal, -, -, fault⟩
  · exact ⟨routing, by rw [hload]⟩
  · exact absurd fault h

end

end Routing

namespace Listener

/-! ## Binding the ports -/

/-- The addresses that ports are bound to, the first of which is in the given place. -/
def Bound (machine : Machine) (host : String) (place : Nat) (ports : List UInt16)
    (addresses : List SocketAddress) : Prop :=
  List.Forall₂ (fun p address => machine.bind p.2 host p.1 = .ok address) (ports.zipIdx place)
    addresses

theorem bindAll_cons {machine : Machine} {host : String} {place : Nat} {port : UInt16}
    {address : SocketAddress} (hb : machine.bind place host port = .ok address) (rest : List UInt16) :
    bindAll machine host place (port :: rest) =
      let later := bindAll machine host (place + 1) rest
      (later.1.map (address :: ·), .event (.listening address) :: later.2) := by
  simp only [bindAll_cons_eq, hb]

theorem bindThrough_cons {σ : Type} {binder : Binder σ} {s s' : σ} {host : String} {place : Nat}
    {port : UInt16} {address : SocketAddress}
    (hb : binder s place host port = (.ok address, s')) (rest : List UInt16) :
    bindThrough binder host s place (port :: rest) =
      let later := bindThrough binder host s' (place + 1) rest
      ((later.1.1.map (address :: ·), .event (.listening address) :: later.1.2), later.2) := by
  simp only [bindThrough, hb]
  rcases bindThrough binder host s' (place + 1) rest with ⟨⟨_ | _, _⟩, _⟩ <;> rfl

/-- A record beside the answers of a machine changes nothing for the addresses. -/
theorem bindThrough_fst {σ : Type} {machine : Machine} {binder : Binder σ} {host : String}
    (answers : ∀ s place port, (binder s place host port).1 = machine.bind place host port) (s : σ)
    (place : Nat) (ports : List UInt16) :
    (bindThrough binder host s place ports).1 = bindAll machine host place ports := by
  induction ports generalizing s place with
  | nil => rfl
  | cons port rest ih =>
    have same := answers s place port
    rcases asked : binder s place host port with ⟨reason | address, s'⟩
    · rw [asked] at same
      simp only [bindThrough, asked, bindAll_cons_eq, ← same]
    · rw [asked] at same
      rw [bindThrough_cons asked, bindAll_cons same.symm, ← ih s' (place + 1)]

/-- The ports that can be bound, up to the first that cannot. -/
theorem bound_or_refused (machine : Machine) (host : String) (place : Nat) (ports : List UInt16) :
    (∃ addresses, Bound machine host place ports addresses) ∨
    ∃ before port after addresses reason, ports = before ++ port :: after ∧
      Bound machine host place before addresses ∧
      machine.bind (place + before.length) host port = .error reason := by
  induction ports generalizing place with
  | nil => exact .inl ⟨[], .nil⟩
  | cons port rest ih =>
    cases hb : machine.bind place host port with
    | error reason => exact .inr ⟨[], port, rest, [], reason, rfl, .nil, hb⟩
    | ok address =>
      rcases ih (place + 1) with ⟨addresses, bound⟩ |
        ⟨before, bad, after, addresses, reason, rfl, bound, refused⟩
      · exact .inl ⟨address :: addresses, .cons hb bound⟩
      · refine .inr ⟨port :: before, bad, after, address :: addresses, reason, rfl,
          .cons hb bound, ?_⟩
        rwa [List.length_cons, Nat.add_comm before.length, ← Nat.add_assoc]

end Listener

namespace Forwarder

/-! ## Starting on a stage -/

/-- What is done with listen sockets. -/
inductive Deed where
  | bound (address : SocketAddress)
  | served (address : SocketAddress)
  deriving DecidableEq, Repr

/-- The listen sockets of a machine, with a record of what is done with them. -/
def recorded (machine : Machine) : Stage (List Deed) where
  bind done place host port := match machine.bind place host port with
    | .error reason => (.error reason, done)
    | .ok address => (.ok address, done ++ [.bound address])
  serve done address := done ++ [.served address]

section

variable {machine : Machine} {host reason : String} {place : Nat} {port : UInt16}
  {address : SocketAddress} {addresses : List SocketAddress}

theorem recorded_bind (hb : machine.bind place host port = .ok address) (done : List Deed) :
    (recorded machine).bind done place host port = (.ok address, done ++ [.bound address]) := by
  simp only [recorded, hb]

theorem recorded_bind_refused (hb : machine.bind place host port = .error reason)
    (done : List Deed) : (recorded machine).bind done place host port = (.error reason, done) := by
  simp only [recorded, hb]

theorem recorded_bind_fst (machine : Machine) (done : List Deed) (place : Nat) (host : String)
    (port : UInt16) :
    ((recorded machine).bind done place host port).1 = machine.bind place host port := by
  cases hb : machine.bind place host port with
  | error reason => rw [recorded_bind_refused hb]
  | ok address => rw [recorded_bind hb]

/-- Ports that can be bound are bound one by one, before the others are asked for. -/
theorem bindThrough_append {before : List UInt16}
    (h : Listener.Bound machine host place before addresses) (done : List Deed)
    (rest : List UInt16) :
    let whole := Listener.bindThrough (recorded machine).bind host done place (before ++ rest)
    let later := Listener.bindThrough (recorded machine).bind host (done ++ addresses.map .bound)
      (place + before.length) rest
    whole.1.1 = later.1.1.map (addresses ++ ·) ∧ whole.2 = later.2 := by
  induction before generalizing place addresses done with
  | nil =>
    cases h
    simp only [List.map_nil, List.append_nil, List.length_nil, Nat.add_zero, List.nil_append,
      and_true]
    cases (Listener.bindThrough (recorded machine).bind host done place rest).1.1 <;> rfl
  | cons port before ih =>
    rw [Listener.Bound, List.zipIdx_cons] at h
    cases h with
    | @cons _ address _ addresses hb h =>
      obtain ⟨result, deeds⟩ := ih h (done ++ [.bound address])
      have shift : place + 1 + before.length = place + (port :: before).length := by
        rw [List.length_cons]; omega
      rw [List.append_assoc, List.singleton_append, ← List.map_cons, shift] at result deeds
      rw [List.cons_append, Listener.bindThrough_cons (recorded_bind hb done)]
      dsimp only
      rw [result, deeds]
      refine ⟨?_, rfl⟩
      cases (Listener.bindThrough (recorded machine).bind host (done ++ (address :: addresses).map .bound)
        (place + (port :: before).length) rest).1.1 <;> rfl

theorem foldl_serve (machine : Machine) (done : List Deed) (addresses : List SocketAddress) :
    addresses.foldl (recorded machine).serve done = done ++ addresses.map .served := by
  induction addresses generalizing done with
  | nil => exact (List.append_nil done).symm
  | cons address rest ih =>
    rw [List.foldl_cons, ih, recorded, List.append_assoc, List.singleton_append, List.map_cons]

end

/-! ## What a start comes to -/

/-- The record changes nothing for the forwarder. -/
theorem startThrough_recorded (read : FileReader) (machine : Machine) (done : List Deed)
    (settings : ForwarderSettings) :
    (startThrough read machine (recorded machine) done settings).1 = start read machine settings := by
  rw [start_eq]
  unfold startThrough
  rcases Routing.load read machine settings.sendTimeout settings.ruleFiles with
    ⟨e | routing, journal⟩
  · rfl
  · have same := Listener.bindThrough_fst (recorded_bind_fst machine · · settings.bindHost) done 0
      settings.ports
    dsimp only
    rw [listen_eq, ← same, listenThrough]
    rcases Listener.bindThrough (recorded machine).bind settings.bindHost done 0 settings.ports with
      ⟨⟨_ | _, _⟩, _⟩ <;> rfl

/-- The report of a start: where the forwarder listens or why there is none, and what was done with
listen sockets. -/
def report (read : FileReader) (machine : Machine) (settings : ForwarderSettings) :
    Except StartError (List SocketAddress) × List Deed :=
  ((start read machine settings).1.map (·.addresses),
    (startThrough read machine (recorded machine) [] settings).2)

/-- What may be reported of a start, and when. -/
inductive Reports (read : FileReader) (machine : Machine) (settings : ForwarderSettings) :
    Except StartError (List SocketAddress) → List Deed → Prop
  /-- The first file that cannot be read, whatever the files before it hold. -/
  | unreadable {before after : List String} {file reason : String}
      (files : settings.ruleFiles = before ++ file :: after)
      (readable : ∀ f ∈ before, ∃ text, read f = .ok text) (refused : read file = .error reason) :
      Reports read machine settings (.error (.rules (.unreadable file reason))) []
  /-- The first line that is not grammatical, in the first file that has one, with its number in
  that file. -/
  | ungrammatical {sources before after : List (String × String)} {file text : String}
      {front back : List (List Char)} {line : List Char} {fault : RecordError} {ts : List Target}
      (texts : Table.TextsOf read settings.ruleFiles sources)
      (files : sources = before ++ (file, text) :: after)
      (sound : ∀ source ∈ before, Table.IsSound source)
      (lines : Table.lines text = front ++ line :: back)
      (good : ∀ l ∈ front, Record.Grammatical (Record.fields l))
      (faulty : Record.Faulty (Record.fields line) fault ts) :
      Reports read machine settings (.error (.rules (.badRecord ⟨file, front.length + 1⟩
        (String.ofList (Text.trim (Record.content line))) fault))) []
  /-- The first endpoint that cannot be reached, as the lines of all files mention them. -/
  | unreachable {sources : List (String × String)} {before after : List Endpoint} {e : Endpoint}
      {fault : ClientError} (texts : Table.TextsOf read settings.ruleFiles sources)
      (sound : ∀ source ∈ sources, Table.IsSound source)
      (named : Routing.mentions sources = before ++ e :: after)
      (reachable : ∀ b ∈ before, ¬ Pool.Unreachable machine b)
      (refused : Pool.Refusal machine e fault) :
      Reports read machine settings (.error (.client fault)) []
  /-- The first port that cannot be bound. The ports before it are bound, but none is served. -/
  | unbound {before after : List UInt16} {port : UInt16} {addresses : List SocketAddress}
      {reason : String} (loads : ¬ Routing.Fault read machine settings.ruleFiles)
      (ports : settings.ports = before ++ port :: after)
      (bound : Listener.Bound machine settings.bindHost 0 before addresses)
      (refused : machine.bind before.length settings.bindHost port = .error reason) :
      Reports read machine settings (.error (.listener ⟨settings.bindHost, port, reason⟩))
        (addresses.map .bound)
  /-- All ports are bound, and then all are served. -/
  | listening {addresses : List SocketAddress}
      (loads : ¬ Routing.Fault read machine settings.ruleFiles)
      (bound : Listener.Bound machine settings.bindHost 0 settings.ports addresses) :
      Reports read machine settings (.ok addresses) (addresses.map .bound ++ addresses.map .served)

section

variable {read : FileReader} {machine : Machine} {settings : ForwarderSettings}

theorem report_of_load_error {e : StartError}
    (h : (Routing.load read machine settings.sendTimeout settings.ruleFiles).1 = .error e) :
    report read machine settings = (.error e, []) := by
  rcases hload : Routing.load read machine settings.sendTimeout settings.ruleFiles with
    ⟨_ | routing, journal⟩
  · rw [hload] at h
    cases h
    simp only [report, start_eq, startThrough, hload, Except.map]
  · rw [hload] at h
    cases h

/-- Once the rules are loaded, all depends on the ports. -/
theorem report_of_loads (loads : ¬ Routing.Fault read machine settings.ruleFiles)
    {bindings : (Except BindError (List SocketAddress) × Journal) × List Deed}
    (h : Listener.bindThrough (recorded machine).bind settings.bindHost [] 0 settings.ports = bindings) :
    report read machine settings = match bindings.1.1 with
      | .error e => (.error (.listener e), bindings.2)
      | .ok addresses => (.ok addresses, bindings.2 ++ addresses.map .served) := by
  obtain ⟨routing, loaded⟩ := Routing.exists_load loads settings.sendTimeout
  rcases hload : Routing.load read machine settings.sendTimeout settings.ruleFiles with
    ⟨e | routing', journal⟩
  · rw [hload] at loaded
    cases loaded
  · rw [report, ← startThrough_recorded read machine []]
    rcases bindings with ⟨⟨e | addresses, more⟩, deeds⟩
    · simp only [startThrough, listenThrough, hload, h, Except.map]
    · simp only [startThrough, listenThrough, hload, h, foldl_serve, Except.map]

/-- What may be reported is reported. -/
theorem Reports.eq {result : Except StartError (List SocketAddress)} {deeds : List Deed}
    (h : Reports read machine settings result deeds) :
    report read machine settings = (result, deeds) := by
  cases h with
  | unreadable files readable refused =>
    refine report_of_load_error ?_
    rw [files, Routing.load, Table.readAll_unreadable readable refused]
  | ungrammatical texts files sound lines good faulty =>
    refine report_of_load_error ?_
    subst files
    rw [Routing.load_of_texts texts, Routing.ofSources,
      Table.addSources_error sound (.broken lines good faulty) rfl]
  | unreachable texts sound named reachable refused =>
    refine report_of_load_error ?_
    rw [Routing.load_of_texts texts]
    exact Routing.ofSources_refused sound named reachable refused _
  | @unbound before after port addresses reason loads ports bound refused =>
    obtain ⟨result, deeds⟩ := bindThrough_append bound [] (port :: after)
    rw [Nat.zero_add, List.nil_append] at result deeds
    simp only [Listener.bindThrough, recorded_bind_refused refused] at result deeds
    rw [report_of_loads loads rfl, ports, result, deeds]
    rfl
  | @listening addresses loads bound =>
    obtain ⟨result, deeds⟩ := bindThrough_append bound [] []
    rw [List.append_nil, List.nil_append] at result deeds
    simp only [Listener.bindThrough, Except.map, List.append_nil] at result deeds
    rw [report_of_loads loads rfl, result, deeds]

/-- Every start has a report. -/
theorem exists_reports (read : FileReader) (machine : Machine) (settings : ForwarderSettings) :
    ∃ result deeds, Reports read machine settings result deeds := by
  -- stage by stage: all items go well, or there is a first that does not
  rcases forall_or_first (fun file => ∃ text, read file = .ok text) settings.ruleFiles with
    readable | ⟨before, file, after, files, readable, gone⟩
  · obtain ⟨sources, texts⟩ := Table.exists_textsOf readable
    rcases forall_or_first Table.IsSound sources with
      sound | ⟨before, ⟨file, text⟩, after, files, sound, bad⟩
    · rcases forall_or_first (fun e => ¬ Pool.Unreachable machine e) (Routing.mentions sources) with
        reachable | ⟨before, e, after, named, reachable, gone⟩
      · have loads := Routing.not_fault_of_mentions texts sound reachable
        rcases Listener.bound_or_refused machine settings.bindHost 0 settings.ports with
          ⟨addresses, bound⟩ | ⟨before, port, after, addresses, reason, ports, bound, refused⟩
        · exact ⟨_, _, .listening loads bound⟩
        · rw [Nat.zero_add] at refused
          exact ⟨_, _, .unbound loads ports bound refused⟩
      · obtain ⟨fault, refused⟩ := (not_not.1 gone).exists_refusal
        exact ⟨_, _, .unreachable texts sound named reachable refused⟩
    · obtain ⟨front, line, back, fault, ts, lines, good, faulty⟩ := Table.exists_first_fault bad
      exact ⟨_, _, .ungrammatical texts files sound lines good faulty⟩
  · cases hr : read file with
    | error reason => exact ⟨_, _, .unreadable files readable hr⟩
    | ok text => exact absurd ⟨text, hr⟩ gone

end

/-- What a start comes to. The first file that cannot be read is reported, even if a file before it
has a bad line; else the first bad line; else the first endpoint that cannot be reached; else the
first port that cannot be bound, and no port is served then. Else every port has its address. -/
theorem start_reports (read : FileReader) (machine : Machine) (settings : ForwarderSettings) :
    (startThrough read machine (recorded machine) [] settings).1 = start read machine settings ∧
      ∀ result deeds, Reports read machine settings result deeds ↔
        report read machine settings = (result, deeds) := by
  refine ⟨startThrough_recorded read machine [] settings, fun result deeds => ⟨Reports.eq, ?_⟩⟩
  intro reported
  obtain ⟨result', deeds', reports⟩ := exists_reports read machine settings
  obtain ⟨rfl, rfl⟩ := Prod.mk.inj (reported.symm.trans reports.eq)
  exact reports

/-- A file that cannot be read, a bad line and a port that cannot be bound, reported in this order. -/
example :
    let read : FileReader := fun file => if file = "a" then .ok "\n/a" else .error "gone"
    let asked (files : List String) :=
      report read (.offline []) ⟨files, 500, "127.0.0.1", [9000, 1]⟩
    asked ["a", "b"] = (.error (.rules (.unreadable "b" "gone")), []) ∧
      asked ["a"] = (.error (.rules (.badRecord ⟨"a", 2⟩ "/a" .tooFewFields)), []) ∧
      asked [] = (.error (.listener ⟨"127.0.0.1", 1, "Permission denied (os error 13)"⟩),
        [.bound ⟨.v4 127 0 0 1, 9000, 0⟩]) := by
  decide +kernel

end Forwarder

end Patchbay
