/-
What the check of the forwarder's settings reports. `Settings.Acceptable` says what settings must be
like, with each condition about the settings as a whole; the check goes through the ports one by one.
It reports nothing exactly if all conditions hold, and otherwise each failure, none of them hidden by
another: a port once for every place at which it repeats, the others once.
-/
import Patchbay.Proofs.Settings.Ports
import Mathlib.Data.List.Count
import Mathlib.Data.List.Nodup

namespace Patchbay

namespace Ports

/-- No port but zero is in the list twice. -/
theorem nodup_iff_repeated_eq_nil {ports : List UInt16} :
    (ports.filter (· ≠ 0)).Nodup ↔ repeated ports = [] := by
  rw [List.nodup_iff_count_le_one, List.eq_nil_iff_forall_not_mem]
  refine forall_congr' fun p => ?_
  have reported := count_repeated ports p
  rw [← List.count_eq_zero]
  by_cases zero : p = 0
  · have filtered : (ports.filter (· ≠ 0)).count p = 0 :=
      List.count_eq_zero_of_not_mem (by simp [zero])
    rw [if_pos zero] at reported
    omega
  · have filtered : (ports.filter (· ≠ 0)).count p = ports.count p :=
      List.count_filter (by simpa using zero)
    rw [if_neg zero] at reported
    omega

end Ports

theorem portProblems_eq_nil_iff {ports : List UInt16} :
    portProblems ports = [] ↔ ports ≠ [] ∧ (ports.filter (· ≠ 0)).Nodup := by
  rw [portProblems_eq, Ports.nodup_iff_repeated_eq_nil]
  split <;> simp [*]

namespace Settings

/-- What the settings of a forwarder must be like. -/
structure Acceptable (s : Settings) : Prop where
  some_port : s.listener.ports ≠ []
  distinct_ports : (s.listener.ports.filter (· ≠ 0)).Nodup
  some_file : s.rules.files ≠ []
  send_timeout : 0 < s.forwarding.sendTimeout
  poll_interval : s.rules.watch = true → 0 < s.rules.pollInterval
  metrics_address : s.observability.metricsEnabled = true →
    ∃ a, Net.SocketAddress.parse? s.observability.metricsAddress = some a

/-! ## Single problems -/

variable {condition : Prop} [Decidable condition] {p q : Problem}

theorem mem_problemUnless : q ∈ problemUnless condition p ↔ ¬ condition ∧ q = p := by
  unfold problemUnless
  split <;> simp [*]

theorem problemUnless_eq_nil_iff : problemUnless condition p = [] ↔ condition := by
  unfold problemUnless
  split <;> simp [*]

theorem problemUnless_sublist : (problemUnless condition p).Sublist [p] := by
  unfold problemUnless
  split
  · exact List.nil_sublist _
  · exact List.Sublist.refl _

/-! ## All problems -/

theorem problems_eq_nil_iff (s : Settings) : s.problems = [] ↔ s.Acceptable := by
  simp only [problems, List.append_eq_nil_iff, portProblems_eq_nil_iff, problemUnless_eq_nil_iff]
  constructor
  · rintro ⟨⟨⟨⟨⟨some_port, distinct⟩, file⟩, timeout⟩, interval⟩, address⟩
    exact ⟨some_port, distinct, file, timeout, interval,
      fun enabled => Option.isSome_iff_exists.1 (address enabled)⟩
  · rintro ⟨some_port, distinct, file, timeout, interval, address⟩
    exact ⟨⟨⟨⟨⟨some_port, distinct⟩, file⟩, timeout⟩, interval⟩,
      fun enabled => Option.isSome_iff_exists.2 (address enabled)⟩

instance (s : Settings) : Decidable s.Acceptable := decidable_of_iff _ s.problems_eq_nil_iff

/-- The problems that have nothing to do with ports. -/
def otherProblems (s : Settings) : List Problem :=
  problemUnless (s.rules.files ≠ []) .noRuleFiles ++
    (problemUnless (0 < s.forwarding.sendTimeout) .zeroSendTimeout ++
      (problemUnless (s.rules.watch → 0 < s.rules.pollInterval) .zeroPollInterval ++
        problemUnless (s.observability.metricsEnabled →
            (Net.SocketAddress.parse? s.observability.metricsAddress).isSome)
          (.badMetricsAddress s.observability.metricsAddress)))

theorem problems_eq (s : Settings) :
    s.problems = portProblems s.listener.ports ++ s.otherProblems := by
  simp only [problems, otherProblems, List.append_assoc]

/-- Each of them is reported once at most, in a fixed order. -/
theorem otherProblems_sublist (s : Settings) :
    s.otherProblems.Sublist [.noRuleFiles, .zeroSendTimeout, .zeroPollInterval,
      .badMetricsAddress s.observability.metricsAddress] :=
  problemUnless_sublist.append (problemUnless_sublist.append
    (problemUnless_sublist.append problemUnless_sublist))

/-- A port is reported once less than it is listed. -/
theorem count_repeatedPort (s : Settings) (p : UInt16) :
    s.problems.count (.repeatedPort p) = if p = 0 then 0 else s.listener.ports.count p - 1 := by
  have elsewhere : .repeatedPort p ∉ s.otherProblems := fun h => by
    simpa using s.otherProblems_sublist.subset h
  rw [problems_eq, List.count_append, List.count_eq_zero_of_not_mem elsewhere, Nat.add_zero,
    portProblems_eq]
  split
  · rename_i no_port
    simp [no_port]
  · have told_apart : Function.Injective Problem.repeatedPort := fun _ _ => Problem.repeatedPort.inj
    rw [List.count_map_of_injective _ _ told_apart, Ports.count_repeated]

/-- The settings are taken exactly if they are acceptable; otherwise all problems are reported. First
come those of the ports: that there is none, or each repetition of a port in its place, so that a port
is reported once less than it is listed. Then come the other problems in a fixed order, each of them
at most once and exactly if its own condition fails. -/
theorem problems_report (s : Settings) :
    s.checked s.problems = (if s.Acceptable then .ok s else .error (.invalid s.problems)) ∧
      ∃ others, s.problems = (if s.listener.ports = [] then [.noListenPorts]
          else (Ports.repeated s.listener.ports).map .repeatedPort) ++ others ∧
        (∀ p, s.problems.count (.repeatedPort p) =
          if p = 0 then 0 else s.listener.ports.count p - 1) ∧
        others.Sublist [.noRuleFiles, .zeroSendTimeout, .zeroPollInterval,
          .badMetricsAddress s.observability.metricsAddress] ∧
        (.noRuleFiles ∈ others ↔ s.rules.files = []) ∧
        (.zeroSendTimeout ∈ others ↔ s.forwarding.sendTimeout = 0) ∧
        (.zeroPollInterval ∈ others ↔ s.rules.watch = true ∧ s.rules.pollInterval = 0) ∧
        (.badMetricsAddress s.observability.metricsAddress ∈ others ↔
          s.observability.metricsEnabled = true ∧
            Net.SocketAddress.parse? s.observability.metricsAddress = none) := by
  refine ⟨?_, s.otherProblems, ?_, s.count_repeatedPort, s.otherProblems_sublist, ?_, ?_, ?_, ?_⟩
  · simp only [checked, List.isEmpty_iff, problems_eq_nil_iff]
  · rw [problems_eq, portProblems_eq]
  all_goals simp [otherProblems, mem_problemUnless]

example : problems { ({} : Settings) with
      listener.ports := [9000, 0, 9001, 9000, 0, 9000]
      forwarding.sendTimeout := 0
      observability.metricsEnabled := true
      observability.metricsAddress := "nope" } =
    [.repeatedPort 9000, .repeatedPort 9000, .noRuleFiles, .zeroSendTimeout,
      .badMetricsAddress "nope"] := by
  decide

end Settings

end Patchbay
