/-
The clients of a registry: one for each endpoint, in the order of the endpoints, if every endpoint
can be reached; none at all otherwise, and the first endpoint that cannot be reached is reported.
Nothing but events is recorded on the way.

How often sockets are asked for is seen by building the clients through an opener, which answers for
the machine and may keep a record. An address family is asked for once, whatever endpoints share it.
-/
import Patchbay.Pool
import Patchbay.Proofs.Journal
import Patchbay.Proofs.Rules.Registry

namespace Patchbay

namespace Pool

/-! ## One endpoint -/

/-- Why there is no client for an endpoint. -/
inductive Unreachable (machine : Machine) (e : Endpoint) : Prop
  | unresolved {reason : String} (refused : machine.resolve e = .error reason)
  | noAddress (empty : machine.resolve e = .ok [])
  | unbound {addresses : List Net.SocketAddress} {address : Net.SocketAddress} {reason : String}
      (resolved : machine.resolve e = .ok addresses) (chosen : preferred? addresses = some address)
      (refused : machine.openOutbound address.ip.isV4 = .error reason)

theorem preferred?_eq_none_iff {addresses : List Net.SocketAddress} :
    preferred? addresses = none ↔ addresses = [] := by
  rw [preferred?, Option.or_eq_none_iff, List.head?_eq_none_iff]
  exact ⟨And.right, by rintro rfl; exact ⟨rfl, rfl⟩⟩

/-- Everything that resolving an endpoint can come to. -/
theorem resolve_cases (machine : Machine) (e : Endpoint) :
    (∃ fault, resolve machine e = (.error fault, []) ∧ Unreachable machine e) ∨
    ∃ addresses address journal, resolve machine e = (.ok address, journal) ∧
      machine.resolve e = .ok addresses ∧ preferred? addresses = some address ∧
      journal.Silent := by
  unfold resolve
  cases hr : machine.resolve e with
  | error reason => exact .inl ⟨_, rfl, .unresolved hr⟩
  | ok addresses =>
    cases hp : preferred? addresses with
    | none =>
      have empty : machine.resolve e = .ok [] := by rw [hr, preferred?_eq_none_iff.1 hp]
      simp only [hp]
      exact .inl ⟨_, rfl, .noAddress empty⟩
    | some address =>
      simp only [hp]
      refine .inr ⟨addresses, address, _, rfl, rfl, hp, ?_⟩
      split
      · exact Journal.silent_event _
      · exact nofun

/-- The sockets that are there are those that the machine has given. -/
def Granted (machine : Machine) (opened : List Bool) : Prop :=
  ∀ v4 ∈ opened, machine.openOutbound v4 = .ok ()

theorem socket_eq {machine : Machine} {opened : List Bool} (h : Granted machine opened)
    (v4 : Bool) :
    (if opened.contains v4 then .ok () else machine.openOutbound v4) = machine.openOutbound v4 := by
  split
  · rename_i there
    exact (h v4 (List.contains_iff_mem.1 there)).symm
  · rfl

/-- The first endpoint has its address and its socket. -/
theorem connect_ready {machine : Machine} {opened : List Bool} {e : Endpoint}
    {address : Net.SocketAddress} {journal : Journal}
    (hr : resolve machine e = (.ok address, journal))
    (given : (if opened.contains address.ip.isV4 then .ok ()
      else machine.openOutbound address.ip.isV4) = .ok ()) (rest : List Endpoint) :
    connect machine opened (e :: rest) =
      ((connect machine (address.ip.isV4 :: opened) rest).1.map (⟨e, address⟩ :: ·),
        journal ++ [.event (.clientReady e address)] ++
          (connect machine (address.ip.isV4 :: opened) rest).2) := by
  simp only [connect_cons_eq, hr, given]

/-- Everything that the first of several endpoints can come to. -/
theorem connect_cons {machine : Machine} {opened : List Bool} (h : Granted machine opened)
    (e : Endpoint) (rest : List Endpoint) :
    (∃ fault journal, connect machine opened (e :: rest) = (.error fault, journal) ∧
      journal.Silent ∧ Unreachable machine e) ∨
    ∃ address journal, ¬ Unreachable machine e ∧ journal.Silent ∧
      Granted machine (address.ip.isV4 :: opened) ∧
      connect machine opened (e :: rest) =
        ((connect machine (address.ip.isV4 :: opened) rest).1.map (⟨e, address⟩ :: ·),
          journal ++ (connect machine (address.ip.isV4 :: opened) rest).2) := by
  rcases resolve_cases machine e with ⟨fault, hr, unreachable⟩ |
    ⟨addresses, address, journal, hr, resolved, chosen, silent⟩
  · exact .inl ⟨fault, [], by simp only [connect_cons_eq, hr], nofun, unreachable⟩
  · cases ho : machine.openOutbound address.ip.isV4 with
    | error reason =>
      have socket := (socket_eq h address.ip.isV4).trans ho
      exact .inl ⟨.unbound address.ip.isV4 reason, journal, by simp only [connect_cons_eq, hr, socket],
        silent, .unbound resolved chosen ho⟩
    | ok _ =>
      have socket := (socket_eq h address.ip.isV4).trans ho
      refine .inr ⟨address, journal ++ [.event (.clientReady e address)], ?_,
        silent.append (Journal.silent_event _), List.forall_mem_cons.2 ⟨ho, h⟩,
        connect_ready hr socket rest⟩
      rintro (refused | empty | ⟨resolved', chosen', refused⟩)
      · simp [resolved] at refused
      · rw [resolved] at empty
        cases empty
        cases chosen
      · rw [resolved] at resolved'
        cases resolved'
        rw [chosen] at chosen'
        cases chosen'
        rw [ho] at refused
        cases refused

/-! ## All endpoints -/

/-- Every endpoint gets its client, or one of them cannot be reached. -/
theorem connect_cases {machine : Machine} {opened : List Bool} (h : Granted machine opened)
    (endpoints : List Endpoint) :
    (∃ clients journal, connect machine opened endpoints = (.ok clients, journal) ∧
      journal.Silent ∧ clients.map (·.endpoint) = endpoints ∧
      ∀ e ∈ endpoints, ¬ Unreachable machine e) ∨
    ∃ fault journal, connect machine opened endpoints = (.error fault, journal) ∧
      journal.Silent ∧ ∃ e ∈ endpoints, Unreachable machine e := by
  induction endpoints generalizing opened with
  | nil => exact .inl ⟨[], [], rfl, nofun, rfl, nofun⟩
  | cons e rest ih =>
    rcases connect_cons h e rest with ⟨fault, journal, hc, silent, unreachable⟩ |
      ⟨address, journal, reachable, silent, granted, hc⟩
    · exact .inr ⟨fault, journal, hc, silent, e, List.mem_cons_self .., unreachable⟩
    · rw [hc]
      rcases ih granted with ⟨clients, more, hrest, quiet, same, others⟩ |
        ⟨fault, more, hrest, quiet, bad, hbad, why⟩
      · rw [hrest]
        refine .inl ⟨⟨e, address⟩ :: clients, journal ++ more, rfl, silent.append quiet, ?_,
          List.forall_mem_cons.2 ⟨reachable, others⟩⟩
        rw [List.map_cons, same]
      · rw [hrest]
        exact .inr ⟨fault, journal ++ more, rfl, silent.append quiet, bad,
          List.mem_cons_of_mem e hbad, why⟩

/-- A pool with one client for each endpoint of the registry, or some endpoint that cannot be
reached. -/
theorem build_cases (machine : Machine) (timeout : Nat) (registry : Registry) :
    (∃ pool journal, build machine timeout registry = (.ok pool, journal) ∧ journal.Silent ∧
      pool.clients.map (·.endpoint) = registry.endpoints ∧
      ∀ e ∈ registry.endpoints, ¬ Unreachable machine e) ∨
    ∃ fault journal, build machine timeout registry = (.error fault, journal) ∧
      journal.Silent ∧ ∃ e ∈ registry.endpoints, Unreachable machine e := by
  have granted : Granted machine [] := nofun
  unfold build
  rcases connect_cases granted registry.endpoints with
    ⟨clients, journal, hc, silent, same, reachable⟩ | ⟨fault, journal, hc, silent, unreachable⟩
  · rw [hc]
    exact .inl ⟨⟨clients, timeout⟩, journal, rfl, silent, same, reachable⟩
  · rw [hc]
    exact .inr ⟨fault, journal, rfl, silent, unreachable⟩

/-! ## The first that cannot be reached -/

/-- What is reported of an endpoint that cannot be reached. -/
inductive Refusal (machine : Machine) (e : Endpoint) : ClientError → Prop
  | unresolved {reason : String} (refused : machine.resolve e = .error reason) :
      Refusal machine e (.unresolved e reason)
  | noAddress (empty : machine.resolve e = .ok []) : Refusal machine e (.noAddress e)
  | unbound {addresses : List Net.SocketAddress} {address : Net.SocketAddress} {reason : String}
      (resolved : machine.resolve e = .ok addresses) (chosen : preferred? addresses = some address)
      (refused : machine.openOutbound address.ip.isV4 = .error reason) :
      Refusal machine e (.unbound address.ip.isV4 reason)

section

variable {machine : Machine} {e : Endpoint} {fault : ClientError}

theorem Unreachable.exists_refusal (h : Unreachable machine e) : ∃ fault, Refusal machine e fault := by
  rcases h with refused | empty | ⟨resolved, chosen, refused⟩
  · exact ⟨_, .unresolved refused⟩
  · exact ⟨_, .noAddress empty⟩
  · exact ⟨_, .unbound resolved chosen refused⟩

theorem Refusal.unreachable (h : Refusal machine e fault) : Unreachable machine e := by
  cases h with
  | unresolved refused => exact .unresolved refused
  | noAddress empty => exact .noAddress empty
  | unbound resolved chosen refused => exact .unbound resolved chosen refused

theorem connect_of_refusal {opened : List Bool} (granted : Granted machine opened)
    (h : Refusal machine e fault) (rest : List Endpoint) :
    (connect machine opened (e :: rest)).1 = .error fault := by
  cases h with
  | unresolved refused => simp only [connect_cons_eq, resolve, refused]
  | noAddress empty =>
    have none_there : preferred? [] = none := rfl
    simp only [connect_cons_eq, resolve, empty, none_there]
  | unbound resolved chosen refused =>
    simp only [connect_cons_eq, resolve, resolved, chosen, (socket_eq granted _).trans refused]

/-- The endpoints behind the first that cannot be reached are never asked for. -/
theorem connect_refused {opened : List Bool} (granted : Granted machine opened)
    {before : List Endpoint} (reachable : ∀ b ∈ before, ¬ Unreachable machine b)
    (h : Refusal machine e fault) (after : List Endpoint) :
    (connect machine opened (before ++ e :: after)).1 = .error fault := by
  induction before generalizing opened with
  | nil => exact connect_of_refusal granted h after
  | cons b before ih =>
    obtain ⟨first, others⟩ := List.forall_mem_cons.1 reachable
    rcases connect_cons granted b (before ++ e :: after) with ⟨_, _, -, -, gone⟩ |
      ⟨address, journal, -, -, granted, hc⟩
    · exact absurd gone first
    · rw [List.cons_append, hc, ih granted others]
      rfl

theorem build_refused {registry : Registry} {before after : List Endpoint}
    (endpoints : registry.endpoints = before ++ e :: after)
    (reachable : ∀ b ∈ before, ¬ Unreachable machine b) (h : Refusal machine e fault)
    (timeout : Nat) : (build machine timeout registry).1 = .error fault := by
  have granted : Granted machine [] := nofun
  have refused := connect_refused granted reachable h after
  rw [← endpoints] at refused
  unfold build
  rcases hc : connect machine [] registry.endpoints with ⟨e | clients, journal⟩
  · rw [hc] at refused
    cases refused
    rfl
  · rw [hc] at refused
    cases refused

end

/-! ## The sockets -/

/-- The sockets of a machine, with a record of the address families that it was asked for. -/
def recorded (machine : Machine) : Opener (List Bool) := fun asked v4 =>
  (machine.openOutbound v4, asked ++ [v4])

theorem connectThrough_ready {σ : Type} {machine : Machine} {opener : Opener σ} {s s' : σ}
    {opened : List Bool} {e : Endpoint} {address : Net.SocketAddress} {journal : Journal}
    (hr : resolve machine e = (.ok address, journal))
    (given : (if opened.contains address.ip.isV4 then (.ok (), s)
      else opener s address.ip.isV4) = (.ok (), s')) (rest : List Endpoint) :
    connectThrough machine opener s opened (e :: rest) =
      let later := connectThrough machine opener s' (address.ip.isV4 :: opened) rest
      ((later.1.1.map (⟨e, address⟩ :: ·),
        journal ++ [.event (.clientReady e address)] ++ later.1.2), later.2) := by
  simp only [connectThrough, hr, given]
  rcases connectThrough machine opener s' (address.ip.isV4 :: opened) rest with
    ⟨⟨_ | clients, more⟩, s''⟩ <;> rfl

/-- The record changes nothing for the clients, and no address family is in it twice. -/
theorem connectThrough_recorded (machine : Machine) (asked opened : List Bool)
    (endpoints : List Endpoint) :
    ∃ more : List Bool, more.Nodup ∧ (∀ v4 ∈ more, v4 ∉ opened) ∧
      connectThrough machine (recorded machine) asked opened endpoints =
        (connect machine opened endpoints, asked ++ more) := by
  induction endpoints generalizing asked opened with
  | nil => exact ⟨[], .nil, nofun, by simp [connectThrough, connect]⟩
  | cons e rest ih =>
    rcases hr : resolve machine e with ⟨fault | address, journal⟩
    · exact ⟨[], .nil, nofun, by simp only [connectThrough, connect_cons_eq, hr, List.append_nil]⟩
    by_cases there : address.ip.isV4 ∈ opened
    · obtain ⟨more, distinct, fresh, later⟩ := ih asked (address.ip.isV4 :: opened)
      refine ⟨more, distinct, fun v4 hv hopened => ?_, ?_⟩
      · exact fresh v4 hv (List.mem_cons_of_mem _ hopened)
      · have contained := List.contains_iff_mem.2 there
        rw [connectThrough_ready hr (if_pos contained), later, connect_ready hr (if_pos contained)]
    · have missing : ¬ opened.contains address.ip.isV4 = true := mt List.contains_iff_mem.1 there
      cases ho : machine.openOutbound address.ip.isV4 with
      | error reason =>
        refine ⟨[address.ip.isV4], List.pairwise_singleton .., by simpa using there, ?_⟩
        simp only [connectThrough, connect_cons_eq, hr, if_neg missing, recorded, ho]
      | ok _ =>
        have given : recorded machine asked address.ip.isV4 =
            (.ok (), asked ++ [address.ip.isV4]) := by
          rw [recorded, ho]
        obtain ⟨more, distinct, fresh, later⟩ :=
          ih (asked ++ [address.ip.isV4]) (address.ip.isV4 :: opened)
        refine ⟨address.ip.isV4 :: more, ?_, ?_, ?_⟩
        · exact List.nodup_cons.2 ⟨fun hm => fresh _ hm (List.mem_cons_self ..), distinct⟩
        · refine List.forall_mem_cons.2 ⟨there, fun v4 hv hopened => ?_⟩
          exact fresh v4 hv (List.mem_cons_of_mem _ hopened)
        · rw [connectThrough_ready hr ((if_neg missing).trans given), later,
            connect_ready hr ((if_neg missing).trans ho), List.append_assoc, List.singleton_append]

end Pool

end Patchbay
