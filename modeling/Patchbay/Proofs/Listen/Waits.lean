/-
What the looks of a receive loop find. An arrival is received by the first look at which it is the
oldest that was not received, unless the stop signal can be read by then; so what is received is found
by counting: every arrival makes the backlog longer by one and every look takes one off. Once the stop
signal can be read, the next look finds it and nothing is received any more.
-/
import Patchbay.Listener
import Mathlib.Data.List.Basic

namespace Patchbay.Listener

/-! ## Counting -/

def Happening.stops : Happening → Bool
  | .signal | .close => true
  | .arrive _ | .look => false

/-- Everything that arrives, in order. -/
def arrivals (happenings : List Happening) : List Arrival :=
  happenings.filterMap fun
    | .arrive a => some a
    | _ => none

/-- How many arrivals wait after one more happening. -/
def Happening.count (n : Nat) : Happening → Nat
  | .arrive _ => n + 1
  | .look => n - 1
  | .signal | .close => n

/-- How many arrivals wait after all that happened, while every look takes one. -/
def backlog (happenings : List Happening) : Nat := happenings.foldl Happening.count 0

/-- The arrivals that do not wait any more. -/
def readable (happenings : List Happening) : List Arrival :=
  (arrivals happenings).take ((arrivals happenings).length - backlog happenings)

/-- The first of those that wait. -/
def oldest? (happenings : List Happening) : Option Arrival :=
  (arrivals happenings)[(arrivals happenings).length - backlog happenings]?

/-- What happens before the stop signal can be read. -/
def untilStop (happenings : List Happening) : List Happening := happenings.takeWhile (!·.stops)

/-- What happens from then on. -/
def fromStop (happenings : List Happening) : List Happening := happenings.dropWhile (!·.stops)

/-- The loop looks when the stop signal can be read. -/
def Seen (happenings : List Happening) : Prop :=
  ∃ before stop after, happenings = before ++ stop :: after ∧ stop.stops = true ∧ .look ∈ after

theorem arrivals_append (before after : List Happening) :
    arrivals (before ++ after) = arrivals before ++ arrivals after :=
  List.filterMap_append

theorem arrivals_untilStop (happenings : List Happening) :
    arrivals (untilStop happenings) <+: arrivals happenings :=
  (List.takeWhile_prefix _).filterMap _

theorem count_foldl_le (n : Nat) (happenings : List Happening) :
    happenings.foldl Happening.count n ≤ n + (arrivals happenings).length := by
  induction happenings generalizing n with
  | nil => exact Nat.le_refl n
  | cons h rest ih =>
    have later := ih (h.count n)
    rw [List.foldl_cons]
    cases h with
    | arrive a =>
      have more : (arrivals (.arrive a :: rest)).length = (arrivals rest).length + 1 := rfl
      simp only [Happening.count] at later ⊢
      omega
    | look =>
      have same : (arrivals (.look :: rest)).length = (arrivals rest).length := rfl
      simp only [Happening.count] at later ⊢
      omega
    | signal | close => exact later

theorem backlog_le (happenings : List Happening) :
    backlog happenings ≤ (arrivals happenings).length := by
  simpa [backlog] using count_foldl_le 0 happenings

theorem backlog_concat (happenings : List Happening) (h : Happening) :
    backlog (happenings ++ [h]) = h.count (backlog happenings) :=
  List.foldl_concat ..

theorem backlog_looks (happenings : List Happening) (n : Nat) :
    backlog (happenings ++ List.replicate n .look) = backlog happenings - n := by
  induction n with
  | zero => simp
  | succ n ih =>
    rw [List.replicate_succ', ← List.append_assoc, backlog_concat, ih]
    simp only [Happening.count]
    omega

/-- What does not wait any more has arrived, and came before what waits. -/
theorem readable_arrived (happenings : List Happening) :
    readable happenings <+: arrivals happenings :=
  List.take_prefix ..

theorem arrivals_looks (happenings : List Happening) (n : Nat) :
    arrivals (happenings ++ List.replicate n .look) = arrivals happenings := by
  have none : arrivals (List.replicate n .look) = [] := by
    rw [arrivals, List.filterMap_eq_nil_iff]
    intro h there
    rw [List.eq_of_mem_replicate there]
  rw [arrivals_append, none, List.append_nil]

/-- With as many looks at the end as there are arrivals, none of them waits. -/
theorem readable_looks (happenings : List Happening) {n : Nat}
    (enough : (arrivals happenings).length ≤ n) :
    readable (happenings ++ List.replicate n .look) = arrivals happenings := by
  have empty : backlog happenings - n = 0 := by
    have := backlog_le happenings
    omega
  rw [readable, arrivals_looks, backlog_looks, empty, Nat.sub_zero, List.take_length]

/-- A look takes the oldest arrival that waits. -/
theorem readable_look (happenings : List Happening) :
    readable (happenings ++ [.look]) = readable happenings ++ (oldest? happenings).toList := by
  have same : arrivals (happenings ++ [.look]) = arrivals happenings := by
    rw [arrivals_append]
    exact List.append_nil _
  have le := backlog_le happenings
  simp only [readable, oldest?, same, backlog_concat, Happening.count]
  rcases Nat.eq_zero_or_pos (backlog happenings) with zero | pos
  · simp [zero]
  · have next : (arrivals happenings).length - (backlog happenings - 1) =
        (arrivals happenings).length - backlog happenings + 1 := by
      omega
    rw [next, List.take_add_one]

/-- Nothing but a look takes an arrival. -/
theorem readable_concat {h : Happening} (other : h ≠ .look) (happenings : List Happening) :
    readable (happenings ++ [h]) = readable happenings := by
  have le := backlog_le happenings
  cases h with
  | look => exact absurd rfl other
  | arrive a =>
    have more : arrivals (happenings ++ [.arrive a]) = arrivals happenings ++ [a] :=
      arrivals_append ..
    simp only [readable, more, backlog_concat, Happening.count, List.length_append,
      List.length_singleton, Nat.add_sub_add_right]
    exact List.take_append_of_le_length (Nat.sub_le ..)
  | signal | close =>
    simp only [readable, backlog_concat, arrivals_append, Happening.count]
    exact congrArg (fun l => List.take (l.length - backlog happenings) l) (List.append_nil _)

/-! ## The stop signal -/

@[simp] theorem untilStop_nil : untilStop [] = [] := rfl

@[simp] theorem fromStop_nil : fromStop [] = [] := rfl

@[simp] theorem untilStop_cons (h : Happening) (rest : List Happening) :
    untilStop (h :: rest) = if h.stops then [] else h :: untilStop rest := by
  cases h <;> rfl

@[simp] theorem fromStop_cons (h : Happening) (rest : List Happening) :
    fromStop (h :: rest) = if h.stops then h :: rest else fromStop rest := by
  cases h <;> rfl

/-- What happens is cut where the stop signal can be read for the first time. -/
theorem cut_at_stop {before : List Happening} (quiet : ∀ h ∈ before, h.stops = false)
    {stop : Happening} (stops : stop.stops = true) (after : List Happening) :
    untilStop (before ++ stop :: after) = before ∧
      fromStop (before ++ stop :: after) = stop :: after := by
  induction before with
  | nil => simp [stops]
  | cons h before ih =>
    obtain ⟨first, rest⟩ := List.forall_mem_cons.1 quiet
    simpa [first] using ih rest

theorem cut_quiet {happenings : List Happening} (quiet : ∀ h ∈ happenings, h.stops = false) :
    untilStop happenings = happenings ∧ fromStop happenings = [] := by
  induction happenings with
  | nil => simp
  | cons h rest ih =>
    obtain ⟨first, others⟩ := List.forall_mem_cons.1 quiet
    simpa [first] using ih others

/-- What happens from a stop signal on makes no difference to what happens before. -/
theorem untilStop_append {stop : Happening} (stops : stop.stops = true)
    (before after : List Happening) :
    untilStop (before ++ stop :: after) = untilStop before := by
  induction before with
  | nil => simp [stops]
  | cons h before ih => simp [ih]

theorem quiet_or_stopped (happenings : List Happening) :
    (∀ h ∈ happenings, h.stops = false) ∨
      ∃ before stop after, happenings = before ++ stop :: after ∧
        (∀ h ∈ before, h.stops = false) ∧ stop.stops = true := by
  induction happenings with
  | nil => exact .inl nofun
  | cons h rest ih =>
    cases stops : h.stops with
    | true => exact .inr ⟨[], h, rest, rfl, nofun, stops⟩
    | false =>
      rcases ih with quiet | ⟨before, stop, after, rfl, quiet, found⟩
      · exact .inl (List.forall_mem_cons.2 ⟨stops, quiet⟩)
      · exact .inr ⟨h :: before, stop, after, rfl, List.forall_mem_cons.2 ⟨stops, quiet⟩, found⟩

theorem seen_cons {h : Happening} {rest : List Happening} :
    Seen (h :: rest) ↔ (h.stops = true ∧ .look ∈ rest) ∨ Seen rest := by
  constructor
  · rintro ⟨before, stop, after, split, stops, looks⟩
    rcases List.cons_eq_append_iff.1 split with ⟨rfl, same⟩ | ⟨before, rfl, rfl⟩
    · cases same
      exact .inl ⟨stops, looks⟩
    · exact .inr ⟨before, stop, after, rfl, stops, looks⟩
  · rintro (⟨stops, looks⟩ | ⟨before, stop, after, rfl, stops, looks⟩)
    · exact ⟨[], h, rest, rfl, stops, looks⟩
    · exact ⟨h :: before, stop, after, rfl, stops, looks⟩

theorem seen_iff {happenings : List Happening} :
    Seen happenings ↔ .look ∈ fromStop happenings := by
  induction happenings with
  | nil => simp [Seen]
  | cons h rest ih =>
    have looks : Seen rest → .look ∈ rest := by
      rintro ⟨before, stop, after, rfl, -, looks⟩
      simp [looks]
    rw [seen_cons]
    cases h with
    | arrive | look => simp [Happening.stops, ih]
    | signal | close =>
      simp only [Happening.stops, true_and, fromStop_cons, if_true, List.mem_cons, reduceCtorEq,
        false_or]
      exact or_iff_left_of_imp looks

/-! ## What looks find -/

/-- Nothing is received once the stop signal can be read. -/
theorem waitsFrom_stopped (unread : List Arrival) (happenings : List Happening) :
    waitsFrom ⟨true, unread⟩ happenings = if .look ∈ happenings then [.stopSignal] else [] := by
  induction happenings generalizing unread with
  | nil => rfl
  | cons h rest ih => cases h <;> simp [waitsFrom, Sight.look?, Sight.heed, ih]

/-- When `unread` waits at first, the looks before the stop signal find what has its turn by counting,
and one look after it finds the signal. -/
theorem waitsFrom_eq (unread : List Arrival) (happenings : List Happening) :
    waitsFrom ⟨false, unread⟩ happenings =
      ((unread ++ arrivals (untilStop happenings)).take
        (unread.length + (arrivals (untilStop happenings)).length -
          (untilStop happenings).foldl Happening.count unread.length)).map .arrival ++
        if .look ∈ fromStop happenings then [.stopSignal] else [] := by
  induction happenings generalizing unread with
  | nil => simp [waitsFrom, arrivals]
  | cons h rest ih =>
    cases h with
    | arrive a =>
      have more : arrivals (.arrive a :: untilStop rest) = a :: arrivals (untilStop rest) := rfl
      rw [waitsFrom_heed (by nofun), Sight.heed, ih]
      simp [Happening.stops, Happening.count, more, Nat.add_assoc, Nat.add_comm 1]
    | signal | close =>
      rw [waitsFrom_heed (by nofun), Sight.heed, waitsFrom_stopped]
      simp [Happening.stops, arrivals]
    | look =>
      have front : untilStop (.look :: rest) = .look :: untilStop rest := rfl
      have back : fromStop (.look :: rest) = fromStop rest := rfl
      have same : arrivals (.look :: untilStop rest) = arrivals (untilStop rest) := rfl
      rw [front, back, same, List.foldl_cons]
      cases unread with
      | nil => exact ih []
      | cons a unread =>
        -- the oldest has its turn, and the others wait for the later looks
        have le := count_foldl_le unread.length (untilStop rest)
        have turn : (a :: unread).length + (arrivals (untilStop rest)).length -
              (untilStop rest).foldl Happening.count (Happening.look.count (a :: unread).length) =
            unread.length + (arrivals (untilStop rest)).length -
              (untilStop rest).foldl Happening.count unread.length + 1 := by
          simp only [List.length_cons, Happening.count, Nat.add_sub_cancel]
          omega
        have found : waitsFrom ⟨false, a :: unread⟩ (.look :: rest) =
            .arrival a :: waitsFrom ⟨false, unread⟩ rest := rfl
        rw [found, ih, turn]
        rfl

theorem waits_eq (happenings : List Happening) :
    waits happenings = (readable (untilStop happenings)).map .arrival ++
      if .look ∈ fromStop happenings then [.stopSignal] else [] := by
  have whole := waitsFrom_eq [] happenings
  rwa [List.nil_append, List.length_nil, Nat.zero_add] at whole

/-- What has arrived stays where it is if the stop signal can be read as well. -/
example (a : Arrival) : waits [.arrive a, .signal, .look, .look] = [.stopSignal] := rfl

/-- The stop signal is found exactly if the loop looks when it can be read. -/
theorem stopSignal_mem_waits {happenings : List Happening} :
    .stopSignal ∈ waits happenings ↔ Seen happenings := by
  rw [waits_eq, seen_iff]
  by_cases looks : .look ∈ fromStop happenings <;> simp [looks]

/-- One more look finds the stop signal if it can be read, and else the oldest arrival that waits. -/
theorem waits_look {happenings : List Happening} (unseen : ¬ Seen happenings) :
    waits (happenings ++ [.look]) =
      waits happenings ++
        (Sight.look? ⟨happenings.any (·.stops), (oldest? happenings).toList⟩).toList := by
  rw [waits_eq, waits_eq, if_neg (mt seen_iff.2 unseen), List.append_nil]
  rcases quiet_or_stopped happenings with quiet | ⟨before, stop, after, rfl, quiet, stops⟩
  · have still : ∀ h ∈ happenings ++ [.look], h.stops = false :=
      List.forall_mem_append.2 ⟨quiet, by simp [Happening.stops]⟩
    have none_stops : happenings.any (·.stops) = false := by simpa using quiet
    rw [(cut_quiet quiet).1, (cut_quiet still).1, (cut_quiet still).2, readable_look, none_stops]
    cases oldest? happenings <;> simp [Sight.look?]
  · have found : (before ++ stop :: after).any (·.stops) = true := by simp [stops]
    rw [(cut_at_stop quiet stops after).1, List.append_assoc, List.cons_append,
      (cut_at_stop quiet stops _).1, (cut_at_stop quiet stops _).2, found]
    simp [Sight.look?]

/-- Nothing but a look finds anything, and no look does behind one that found the stop signal. -/
theorem waits_concat {happenings : List Happening} {h : Happening}
    (idle : h ≠ .look ∨ Seen happenings) : waits (happenings ++ [h]) = waits happenings := by
  rw [waits_eq, waits_eq]
  rcases quiet_or_stopped happenings with quiet | ⟨before, stop, after, rfl, quiet, stops⟩
  · rw [seen_iff, (cut_quiet quiet).2] at idle
    have other : h ≠ .look := idle.resolve_right List.not_mem_nil
    rw [(cut_quiet quiet).1, (cut_quiet quiet).2]
    cases stops : h.stops with
    | true =>
      rw [(cut_at_stop quiet stops []).1, (cut_at_stop quiet stops []).2]
      simp [other.symm]
    | false =>
      have still : ∀ x ∈ happenings ++ [h], x.stops = false :=
        List.forall_mem_append.2 ⟨quiet, by simp [stops]⟩
      rw [(cut_quiet still).1, (cut_quiet still).2, readable_concat other]
  · rw [seen_iff, (cut_at_stop quiet stops after).2] at idle
    rw [List.append_assoc, List.cons_append, (cut_at_stop quiet stops after).1,
      (cut_at_stop quiet stops after).2, (cut_at_stop quiet stops _).1,
      (cut_at_stop quiet stops _).2]
    have same : .look ∈ stop :: (after ++ [h]) ↔ .look ∈ stop :: after := by
      rw [← List.cons_append, List.mem_append, List.mem_singleton]
      constructor
      · rintro (there | rfl)
        · exact there
        · exact idle.resolve_left (by simp)
      · exact .inl
    rw [if_congr same rfl rfl]

end Patchbay.Listener
