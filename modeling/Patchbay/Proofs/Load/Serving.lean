/-
What is published can be sent to. The clients of a loaded routing are those of the endpoints that its
rules name, one each, and a plan goes nowhere else. Table and clients change together, and a lane
sends through the clients that it loaded with the table; so over any run no send lacks its client.
-/
import Patchbay.Proofs.Dispatch.Reload
import Patchbay.Proofs.Load.Reloads

namespace Patchbay

/-! ## Finding a client -/

/-- There is a client for the target. -/
def Pool.Finds (p : Pool) (target : Target) : Prop := ∃ c, p.client? target.endpoint = some c

theorem Pool.finds_iff {p : Pool} {target : Target} :
    p.Finds target ↔ target.endpoint ∈ p.clients.map (·.endpoint) := by
  rw [Finds, ← Option.isSome_iff_exists, client?, List.find?_isSome, List.mem_map]
  simp only [beq_iff_eq]

/-- A send to a target with a client may fail, but not for want of one. -/
theorem Pool.Finds.sink_ne {σ : Type} {p : Pool} {target : Target} (h : p.Finds target)
    (wire : Wire σ) (s : σ) (path : String) (m : Osc.Message) (e : Endpoint) :
    (p.sink wire s target path m).1 ≠ .error (.noClient e) := by
  obtain ⟨c, hc⟩ := h
  simp only [sink, lookup, hc]
  split <;> simp

namespace Routing

/-- There is one client for each endpoint that the rules name and none for any other, every number in
a rule has its target, and no address family was asked for a socket twice. -/
structure Complete (machine : Machine) (routing : Routing) : Prop where
  distinct : (routing.pool.clients.map (·.endpoint)).Nodup
  clients : ∀ e, e ∈ routing.pool.clients.map (·.endpoint) ↔
    ∃ rule ∈ routing.table.rules, ∃ id ∈ rule.targets,
      ∃ target, routing.table.target? id = some target ∧ target.endpoint = e
  resolved : ∀ rule ∈ routing.table.rules, ∀ id ∈ rule.targets,
    ∃ target, routing.table.target? id = some target
  sockets : ∃ journal asked, asked.Nodup ∧
    Pool.connectThrough machine (Pool.recorded machine) [] [] routing.table.registry.endpoints =
      ((.ok routing.pool.clients, journal), asked)

theorem Sound.mem_clients_iff {routing : Routing} (h : routing.Sound) {e : Endpoint} :
    e ∈ routing.pool.clients.map (·.endpoint) ↔
      ∃ target ∈ routing.table.registry.targets, target.endpoint = e := by
  rw [h.clients, Registry.endpoints, List.mem_eraseDups, List.mem_map]

/-- A plan goes to endpoints that have a client. -/
theorem Sound.finds {routing : Routing} (h : routing.Sound) {address : String} {f : Forward}
    (planned : f ∈ routing.table.plan address) : routing.pool.Finds f.target := by
  rw [Pool.finds_iff, h.mem_clients_iff]
  exact ⟨f.target, h.compiled.mem_targets_iff.2 (Table.exists_rule_of_plan planned), rfl⟩

theorem connect_of_load {read : FileReader} {machine : Machine} {timeout : Nat}
    {files : List String} {routing : Routing}
    (h : (load read machine timeout files).1 = .ok routing) :
    (Pool.connect machine [] routing.table.registry.endpoints).1 = .ok routing.pool.clients := by
  cases hread : Table.readAll read files with
  | error e =>
    simp only [load, hread] at h
    cases h
  | ok sources =>
    cases hadd : Table.addSources {} sources with
    | error e =>
      simp only [load, hread, ofSources, hadd] at h
      cases h
    | ok table =>
      rcases hc : Pool.connect machine [] table.registry.endpoints with ⟨fault | clients, journal⟩
      · simp only [load, hread, ofSources, hadd, Pool.build, hc] at h
        cases h
      · simp only [load, hread, ofSources, hadd, Pool.build, hc] at h
        cases h
        rw [hc]

/-- What a load gives is complete. -/
theorem complete_of_load {read : FileReader} {machine : Machine} {timeout : Nat}
    {files : List String} {routing : Routing}
    (h : (load read machine timeout files).1 = .ok routing) : routing.Complete machine := by
  have sound := sound_of_load h
  refine ⟨?_, fun e => ?_, fun rule hr id hid => ?_, ?_⟩
  · rw [sound.clients]
    exact Registry.nodup_eraseDups _
  · rw [sound.mem_clients_iff]
    simp only [sound.compiled.mem_targets_iff]
    constructor
    · rintro ⟨target, ⟨rule, hr, id, hid, known⟩, rfl⟩
      exact ⟨rule, hr, id, hid, target, known, rfl⟩
    · rintro ⟨rule, hr, id, hid, target, known, rfl⟩
      exact ⟨target, ⟨rule, hr, id, hid, known⟩, rfl⟩
  · exact Registry.exists_get? (sound.compiled.resolved rule hr id hid)
  · obtain ⟨asked, distinct, -, through⟩ :=
      Pool.connectThrough_recorded machine [] [] routing.table.registry.endpoints
    have connected := connect_of_load h
    rcases hc : Pool.connect machine [] routing.table.registry.endpoints with ⟨result, journal⟩
    rw [hc] at through connected
    exact ⟨journal, asked, distinct, connected ▸ through⟩

end Routing

/-! ## Runs -/

/-- Every send that the lane is still to make has its client. -/
def Lane.Served (lane : Lane) : Prop :=
  ∀ m routing rest, lane.work = .sending m routing rest → ∀ f ∈ rest, routing.pool.Finds f.target

/-- A send that is shown had its client. -/
def Lane.Mark.Found : Lane.Mark → Prop
  | .sent _ pool f => pool.Finds f.target
  | _ => True

theorem Lane.Served.step {σ : Type} {lane next : Lane} {wire : Wire σ} {published : Routing}
    {s s' : σ} {x : Step} {mark : Mark} (h : lane.Served) (sound : published.Sound)
    (hstep : lane.step wire published s x = some (next, s', mark)) : next.Served ∧ mark.Found := by
  rcases step_cases hstep with ⟨m, queue, -, rfl, rfl, -, rfl⟩ | ⟨m, queue, -, rfl, rfl, -, rfl⟩ |
    ⟨m, routing, f, rest, queue, -, rfl, rfl, -, rfl⟩ | ⟨m, routing, queue, -, rfl, rfl, -, rfl⟩
  · exact ⟨nofun, trivial⟩
  · refine ⟨fun _ _ _ same f hf => ?_, trivial⟩
    cases same
    exact sound.finds hf
  · have found := List.forall_mem_cons.1 (h m routing (f :: rest) rfl)
    refine ⟨fun _ _ _ same => ?_, found.1⟩
    cases same
    exact found.2
  · exact ⟨nofun, trivial⟩

namespace Relay

variable {σ : Type} {wire : Wire σ}

def Mark.Found : Mark → Prop
  | .lane _ mark => mark.Found
  | _ => True

/-- The published routing is sound, and every lane has its clients. -/
structure Served (r : Relay σ) : Prop where
  published : r.routing.Sound
  lanes : ∀ lane ∈ r.lanes, lane.Served

theorem served_ofQueues {routing : Routing} (h : routing.Sound) (queues : List (List Osc.Message))
    (s : σ) : (ofQueues routing queues s).Served := by
  refine ⟨h, fun lane hlane => ?_⟩
  obtain ⟨queue, -, rfl⟩ := List.mem_map.1 hlane
  exact nofun

theorem Served.step {r after : Relay σ} {a : Action} {mark : Mark} (h : r.Served)
    (loads : ∀ routing, a = .reload (.ok routing) → routing.Sound)
    (hstep : r.step wire a = some (after, mark)) : after.Served ∧ mark.Found := by
  rcases step_cases hstep with ⟨i, x, lane, next, s, shown, rfl, hlane, hnext, rfl, rfl⟩ |
    ⟨routing, rfl, rfl, rfl⟩ | ⟨e, rfl, rfl, rfl⟩
  · obtain ⟨served, found⟩ := (h.lanes lane (List.mem_of_getElem? hlane)).step h.published hnext
    refine ⟨⟨h.published, fun other hother => ?_⟩, found⟩
    rcases List.mem_or_eq_of_mem_set hother with old | rfl
    · exact h.lanes other old
    · exact served
  · exact ⟨⟨loads routing rfl, h.lanes⟩, trivial⟩
  · exact ⟨h, trivial⟩

theorem Served.run {r after : Relay σ} {actions : List Action} {marks : List Mark} (h : r.Served)
    (loads : ∀ routing, .reload (.ok routing) ∈ actions → routing.Sound)
    (hrun : r.run wire actions = some (after, marks)) : ∀ mark ∈ marks, mark.Found := by
  induction actions generalizing r marks with
  | nil =>
    cases hrun
    exact nofun
  | cons a rest ih =>
    obtain ⟨next, mark, later, hstep, hrest, rfl⟩ := run_cons_cases hrun
    obtain ⟨served, found⟩ :=
      h.step (fun routing same => loads routing (same ▸ List.mem_cons_self ..)) hstep
    refine List.forall_mem_cons.2 ⟨found, ih served (fun routing hr => ?_) hrest⟩
    exact loads routing (List.mem_cons_of_mem a hr)

end Relay

/-! ## What is published -/

namespace Forwarder

variable {settings : ForwarderSettings}

theorem sound_of_result {a : Attempt} {routing : Routing} (h : a.result settings = .ok routing) :
    routing.Sound :=
  Routing.sound_of_load h

/-- A start publishes what it loads. -/
theorem sound_of_start {read : FileReader} {machine : Machine} {f : Forwarder} {journal : Journal}
    (h : start read machine settings = (.ok f, journal)) : f.routing.Sound := by
  obtain ⟨first, loaded, agrees⟩ := agrees_start h
  have published : f.routing = first := agrees.published
  rw [published]
  cases hr : Attempt.result settings ⟨read, machine⟩ with
  | error e =>
    rw [Attempt.loaded?, hr] at loaded
    cases loaded
  | ok routing =>
    rw [Attempt.loaded?, hr] at loaded
    cases loaded
    exact sound_of_result hr

/-- Every load that goes well gives a complete routing. From a start on, over any run of the lanes on
their messages and of reloads between their steps, no send that is made lacks its client, whatever
the state of the wire. -/
theorem run_finds_clients :
    (∀ read machine timeout files routing,
      (Routing.load read machine timeout files).1 = .ok routing → routing.Complete machine) ∧
    ∀ read machine settings f journal, start read machine settings = (.ok f, journal) →
      ∀ (σ : Type) (wire : Wire σ) (s : σ) (queues : List (List Osc.Message))
        (actions : List Relay.Action),
        (∀ result, .reload result ∈ actions → ∃ a : Attempt, result = a.result settings) →
        ∀ r marks, (Relay.ofQueues f.routing queues s).run wire actions = some (r, marks) →
          ∀ i m pool forward, .lane i (.sent m pool forward) ∈ marks →
            ∀ now e, (pool.sink wire now forward.target forward.path m).1 ≠ .error (.noClient e) := by
  refine ⟨fun _ _ _ _ _ => Routing.complete_of_load, ?_⟩
  intro read machine settings f journal started σ wire s queues actions loads r marks hrun
    i m pool forward sent now e
  have served := Relay.served_ofQueues (sound_of_start started) queues s
  have found := served.run (fun routing hr => ?_) hrun _ sent
  · exact Pool.Finds.sink_ne found wire now forward.path m e
  · obtain ⟨a, same⟩ := loads _ hr
    exact sound_of_result same.symm

/-- Two lanes, and a reload between the sends of the first. Two targets share an endpoint. -/
theorem run_finds_clients_reload :
    let machine : Machine := .offline []
    let settings : ForwarderSettings := ⟨["rules"], 500, "127.0.0.1", [9000]⟩
    let written (text : String) : Attempt := ⟨fun _ => .ok text, machine⟩
    let old := written "/a + 127.0.0.1:1 127.0.0.1:1/x localhost:1\n"
    let new := written "/b - 127.0.0.1:2/y\n"
    let actions : List Relay.Action := [.lane 0 .take, .lane 0 .load, .lane 0 .send, .lane 1 .take,
      .reload (new.result settings), .lane 1 .load, .lane 0 .send, .lane 1 .send, .lane 0 .send]
    (∃ routing, old.result settings = .ok routing ∧ routing.Complete machine) ∧
      ∃ f journal r marks, start old.read machine settings = (.ok f, journal) ∧
        (Relay.ofQueues f.routing [[⟨"/a/1", []⟩], [⟨"/b/c", []⟩]] ()).run Machine.Offline.wire
          actions = some (r, marks) ∧
        ∀ i m pool forward, .lane i (.sent m pool forward) ∈ marks →
          ∀ now e, (pool.sink Machine.Offline.wire now forward.target forward.path m).1 ≠
            .error (.noClient e) := by
  intro machine settings written old new actions
  have loads : (old.result settings).toOption.isSome = true := by decide +kernel
  have runs : ((start old.read machine settings).1.toOption.bind fun f =>
      (Relay.ofQueues f.routing [[⟨"/a/1", []⟩], [⟨"/b/c", []⟩]] ()).run Machine.Offline.wire
        actions).isSome = true := by decide +kernel
  have reloads : ∀ result, .reload result ∈ actions → ∃ a : Attempt, result = a.result settings := by
    intro result hr
    simp only [actions, List.mem_cons, Relay.Action.reload.injEq, reduceCtorEq, false_or,
      List.not_mem_nil, or_false] at hr
    exact ⟨new, hr⟩
  constructor
  · rcases hr : old.result settings with _ | routing
    · rw [hr] at loads
      cases loads
    · exact ⟨routing, rfl, run_finds_clients.1 _ _ _ _ _ hr⟩
  · rcases hs : start old.read machine settings with ⟨_ | f, journal⟩
    · rw [hs] at runs
      cases runs
    · rw [hs] at runs
      obtain ⟨⟨r, marks⟩, hrun⟩ := Option.isSome_iff_exists.1 runs
      exact ⟨f, journal, r, marks, rfl, hrun,
        run_finds_clients.2 _ _ _ _ _ hs _ _ _ _ _ reloads _ _ hrun⟩
end Forwarder

end Patchbay
