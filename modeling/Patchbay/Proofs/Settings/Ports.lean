/-
Lists of ports. Merging keeps the first place of every port, the check of a list reports all later
ones, and both let port zero repeat. They go about it in two ways: merging looks a port up in what it
has kept so far, the check in all that stands before it. Here both are read off one predicate,
`Repeats`, so what merging leaves out is what the check reports.
-/
import Patchbay.Command.Listen
import Mathlib.Data.List.Induction

namespace Patchbay

namespace Ports

/-- A port repeats one of those before it. Port zero stands for any free port and never does. -/
def Repeats (before : List UInt16) (p : UInt16) : Prop := p ≠ 0 ∧ p ∈ before

instance (before : List UInt16) (p : UInt16) : Decidable (Repeats before p) :=
  inferInstanceAs (Decidable (_ ∧ _))

/-- The ports at those places that `keep` selects, given all ports before the place. -/
def selected (keep : List UInt16 → UInt16 → Bool) (ports : List UInt16) : List UInt16 :=
  (ports.zipIdx.filter fun x => keep (ports.take x.2) x.1).map (·.1)

/-- The ports that repeat none before them. -/
def firsts (ports : List UInt16) : List UInt16 :=
  selected (fun before p => !decide (Repeats before p)) ports

/-- The ports that repeat one before them. -/
def repeated (ports : List UInt16) : List UInt16 :=
  selected (fun before p => decide (Repeats before p)) ports

theorem selected_concat (keep : List UInt16 → UInt16 → Bool) (ports : List UInt16) (p : UInt16) :
    selected keep (ports ++ [p]) = selected keep ports ++ if keep ports p then [p] else [] := by
  have before : ∀ x ∈ ports.zipIdx,
      keep ((ports ++ [p]).take x.2) x.1 = keep (ports.take x.2) x.1 := by
    rintro ⟨q, i⟩ hx
    have hi : i < ports.length := by simpa using List.snd_lt_of_mem_zipIdx hx
    rw [List.take_append_of_le_length (Nat.le_of_lt hi)]
  simp only [selected, List.zipIdx_append, List.filter_append, List.map_append,
    List.filter_congr before]
  congr 1
  cases hkeep : keep ports p <;> simp [hkeep]

theorem selected_sublist (keep : List UInt16 → UInt16 → Bool) (ports : List UInt16) :
    (selected keep ports).Sublist ports := by
  have kept : (selected keep ports).Sublist (ports.zipIdx.map Prod.fst) :=
    List.filter_sublist.map Prod.fst
  rwa [List.zipIdx_map_fst] at kept

theorem firsts_concat (ports : List UInt16) (p : UInt16) :
    firsts (ports ++ [p]) = firsts ports ++ if Repeats ports p then [] else [p] := by
  rw [firsts, selected_concat, ← firsts]
  by_cases h : Repeats ports p <;> simp [h]

theorem repeated_concat (ports : List UInt16) (p : UInt16) :
    repeated (ports ++ [p]) = repeated ports ++ if Repeats ports p then [p] else [] := by
  rw [repeated, selected_concat, ← repeated]
  by_cases h : Repeats ports p <;> simp [h]

/-! ## The first places -/

theorem mem_firsts_iff {ports : List UInt16} {p : UInt16} : p ∈ firsts ports ↔ p ∈ ports := by
  induction ports using List.reverseRecOn with
  | nil => rfl
  | append_singleton ports q ih =>
    rw [firsts_concat, List.mem_append, List.mem_append, ih, List.mem_singleton]
    split
    · rename_i known
      have old : p = q → p ∈ ports := fun same => same ▸ known.2
      simpa using old
    · rw [List.mem_singleton]

theorem repeats_congr {xs ys : List UInt16} (h : ∀ p, p ∈ xs ↔ p ∈ ys) (p : UInt16) :
    Repeats xs p ↔ Repeats ys p := and_congr_right fun _ => h p

/-- Ports that are left out may be left out beforehand. -/
theorem firsts_firsts_append (xs ys : List UInt16) : firsts (firsts xs ++ ys) = firsts (xs ++ ys) := by
  induction ys using List.reverseRecOn with
  | nil =>
    rw [List.append_nil, List.append_nil]
    induction xs using List.reverseRecOn with
    | nil => rfl
    | append_singleton xs p ih =>
      rw [firsts_concat]
      split
      · rwa [List.append_nil]
      · rename_i fresh
        have still : ¬ Repeats (firsts xs) p := by rwa [repeats_congr fun _ => mem_firsts_iff]
        rw [firsts_concat, ih, if_neg still]
  | append_singleton ys p ih =>
    have same : Repeats (firsts xs ++ ys) p ↔ Repeats (xs ++ ys) p :=
      repeats_congr (fun q => by rw [List.mem_append, List.mem_append, mem_firsts_iff]) p
    rw [← List.append_assoc, ← List.append_assoc, firsts_concat, firsts_concat, ih]
    simp only [same]

theorem firsts_append_firsts (xs ys : List UInt16) : firsts (xs ++ firsts ys) = firsts (xs ++ ys) := by
  induction ys using List.reverseRecOn with
  | nil => rfl
  | append_singleton ys p ih =>
    have same : Repeats (xs ++ firsts ys) p ↔ Repeats (xs ++ ys) p :=
      repeats_congr (fun q => by rw [List.mem_append, List.mem_append, mem_firsts_iff]) p
    rw [firsts_concat, ← List.append_assoc xs ys, firsts_concat]
    split
    · rename_i known
      have later : Repeats (xs ++ ys) p := ⟨known.1, List.mem_append_right xs known.2⟩
      rw [if_pos later, List.append_nil, List.append_nil, ih]
    · rw [← List.append_assoc, firsts_concat, ih]
      simp only [same]

/-- Every zero is kept. -/
theorem count_zero_firsts (ports : List UInt16) : (firsts ports).count 0 = ports.count 0 := by
  induction ports using List.reverseRecOn with
  | nil => rfl
  | append_singleton ports q ih =>
    rw [firsts_concat, List.count_append, ih, List.count_append]
    split
    · rename_i known
      have other : (0 : UInt16) ∉ [q] := by simpa using known.1.symm
      rw [List.count_nil, List.count_eq_zero_of_not_mem other]
    · rfl

/-- Any other port is kept once. -/
theorem count_firsts {p : UInt16} (some_port : p ≠ 0) (ports : List UInt16) :
    (firsts ports).count p = if p ∈ ports then 1 else 0 := by
  induction ports using List.reverseRecOn with
  | nil => rfl
  | append_singleton ports q ih =>
    rw [firsts_concat, List.count_append, ih]
    by_cases same : q = p
    · subst same
      by_cases known : q ∈ ports <;> simp [Repeats, some_port, known]
    · have added : (if Repeats ports q then [] else [q]).count p = 0 := by
        split <;> simp [same]
      simp [added, Ne.symm same]

/-- Each place of a list is a first one or a repetition. -/
theorem repeated_append_firsts_perm (ports : List UInt16) :
    (repeated ports ++ firsts ports).Perm ports := by
  have places := (List.filter_append_perm
    (fun x => decide (Repeats (ports.take x.2) x.1)) ports.zipIdx).map (·.1)
  rwa [List.map_append, List.zipIdx_map_fst] at places

theorem count_repeated (ports : List UInt16) (p : UInt16) :
    (repeated ports).count p = if p = 0 then 0 else ports.count p - 1 := by
  have places := (repeated_append_firsts_perm ports).count_eq p
  rw [List.count_append] at places
  split
  · rename_i zero
    rw [zero, count_zero_firsts] at places
    rw [zero]
    omega
  · rename_i some_port
    rw [count_firsts some_port] at places
    split at places
    · omega
    · rename_i absent
      rw [List.count_eq_zero_of_not_mem absent] at places ⊢
      omega

/-- A list is its own first places exactly if it has no others. -/
theorem firsts_eq_self_iff {ports : List UInt16} : firsts ports = ports ↔ repeated ports = [] := by
  have places := (repeated_append_firsts_perm ports).length_eq
  rw [List.length_append] at places
  constructor
  · intro same
    rw [same] at places
    exact List.eq_nil_of_length_eq_zero (by omega)
  · intro none_left
    rw [none_left, List.length_nil, Nat.zero_add] at places
    exact (selected_sublist _ ports).eq_of_length places

theorem repeated_firsts (ports : List UInt16) : repeated (firsts ports) = [] := by
  rw [← firsts_eq_self_iff]
  simpa using firsts_firsts_append ports []

theorem firsts_eq_nil_iff {ports : List UInt16} : firsts ports = [] ↔ ports = [] := by
  rw [List.eq_nil_iff_forall_not_mem, List.eq_nil_iff_forall_not_mem]
  simp only [mem_firsts_iff]

end Ports

open Ports

/-! ## Merging and checking -/

/-- Looking a port up in what was kept is as good as looking it up in all that came before. -/
theorem mergePorts_eq (a b : List UInt16) : mergePorts a b = firsts (a ++ b) := by
  unfold mergePorts
  generalize a ++ b = ports
  induction ports using List.reverseRecOn with
  | nil => rfl
  | append_singleton ports p ih =>
    have same : (p = 0 ∨ ¬ p ∈ firsts ports) ↔ ¬ Repeats ports p := by
      rw [mem_firsts_iff, Repeats, not_and_or, not_not]
    rw [List.foldl_append, ih, List.foldl_cons, List.foldl_nil, firsts_concat]
    simp only [same]
    by_cases known : Repeats ports p <;> simp [known]

theorem repetitions_append (before xs ys : List UInt16) :
    repetitions before (xs ++ ys) = repetitions before xs ++ repetitions (before ++ xs) ys := by
  induction xs generalizing before with
  | nil => simp [repetitions]
  | cons p xs ih => simp [repetitions, ih]

theorem repetitions_eq (ports : List UInt16) : repetitions [] ports = repeated ports := by
  induction ports using List.reverseRecOn with
  | nil => rfl
  | append_singleton ports p ih =>
    have last : repetitions ports [p] = if Repeats ports p then [p] else [] := List.append_nil _
    rw [repetitions_append, ih, repeated_concat, List.nil_append, last]

theorem portProblems_eq (ports : List UInt16) :
    portProblems ports =
      if ports = [] then [.noListenPorts] else (repeated ports).map .repeatedPort := by
  rw [portProblems, repetitions_eq]
  simp only [List.isEmpty_iff]

theorem repeatedPort_mem_iff {ports : List UInt16} {p : UInt16} :
    .repeatedPort p ∈ portProblems ports ↔ p ∈ repeated ports := by
  rw [portProblems_eq]
  split
  · rename_i no_port
    subst no_port
    simp [repeated, selected]
  · simp

/-- Merged ports can only be too few. -/
theorem portProblems_mergePorts (a b : List UInt16) :
    portProblems (mergePorts a b) = if a = [] ∧ b = [] then [.noListenPorts] else [] := by
  rw [portProblems_eq, mergePorts_eq, repeated_firsts]
  simp only [firsts_eq_nil_iff, List.append_eq_nil_iff, List.map_nil]

/-- The monitor's settings are refused only if neither the file nor the command line has a port. -/
theorem listen_settings_eq (isFile : String → Bool) (read : FileReader)
    (o : Command.Listen.Options) :
    Command.Listen.settings isFile read o =
      (Settings.resolve isFile read o.config).bind fun found =>
        if found.1.monitor.ports = [] ∧ o.ports = [] then .error (.invalid [.noListenPorts])
        else .ok (o.override found.1) := by
  have merged (s : Settings) : (o.override s).monitorProblems =
      if s.monitor.ports = [] ∧ o.ports = [] then [.noListenPorts] else [] :=
    portProblems_mergePorts s.monitor.ports o.ports
  unfold Command.Listen.settings
  rcases Settings.resolve isFile read o.config with e | ⟨s, path⟩
  · rfl
  · show (o.override s).checked (o.override s).monitorProblems = _
    simp only [Settings.checked, merged s, Except.bind]
    split <;> rfl

/-- What merging does to lists of ports, and what the check of a list makes of it. The merged list is
that of the first places of both lists one after the other: each port but zero once, and every zero.
Merging is associative. It changes a list exactly if the check reports a repetition in it, so the
check of a merged list reports none; in the program that listens, settings are refused for their
ports only if neither the file nor the command line has any. -/
theorem mergePorts_laws (a b c : List UInt16) :
    mergePorts a b = firsts (a ++ b) ∧
      (∀ p, (mergePorts a b).count p =
        if p = 0 then a.count 0 + b.count 0 else if p ∈ a ++ b then 1 else 0) ∧
      mergePorts (mergePorts a b) c = mergePorts a (mergePorts b c) ∧
      (mergePorts a [] = a ↔ ∀ p, .repeatedPort p ∉ portProblems a) ∧
      (∀ s : Settings, let merged := { s with monitor.ports := mergePorts a b }
        (merged.checked merged.monitorProblems = .ok merged ↔ a ≠ [] ∨ b ≠ []) ∧
          ∀ p, .repeatedPort p ∉ merged.monitorProblems) ∧
      ∀ isFile read o, Command.Listen.settings isFile read o =
        (Settings.resolve isFile read o.config).bind fun found =>
          if found.1.monitor.ports = [] ∧ o.ports = [] then .error (.invalid [.noListenPorts])
          else .ok { found.1 with
            monitor.ports := mergePorts found.1.monitor.ports o.ports
            monitor.bindHost := o.bind.getD found.1.monitor.bindHost
            monitor.verbose := found.1.monitor.verbose || o.verbose } := by
  refine ⟨mergePorts_eq a b, fun p => ?_, ?_, ?_, fun s => ?_, listen_settings_eq⟩
  · rw [mergePorts_eq]
    split
    · rename_i zero
      rw [zero, count_zero_firsts, List.count_append]
    · rename_i some_port
      exact count_firsts some_port _
  · simp only [mergePorts_eq]
    rw [firsts_firsts_append, firsts_append_firsts, List.append_assoc]
  · rw [mergePorts_eq, List.append_nil, firsts_eq_self_iff, List.eq_nil_iff_forall_not_mem]
    simp only [repeatedPort_mem_iff]
  · intro merged
    have problems : merged.monitorProblems = if a = [] ∧ b = [] then [.noListenPorts] else [] :=
      portProblems_mergePorts a b
    rw [problems]
    split
    · rename_i no_port
      exact ⟨by simp [Settings.checked, no_port], by simp⟩
    · rename_i some_port
      have accepted : merged.checked [] = .ok merged := rfl
      exact ⟨iff_of_true accepted (by rwa [← not_and_or]), fun _ => List.not_mem_nil⟩

example : mergePorts [9001, 0, 9000, 0] [9000, 9002, 9001, 0] = [9001, 0, 9000, 0, 9002, 0] := by
  decide

end Patchbay
