/-
Lines of the monitor. A listing holds a line feed for each one in the texts that come with the message,
which are its address and its strings and characters at every depth of arrays; whatever else is
written holds none. So a loop that echoes prints one line for each message and one more for each of
these line feeds, and its output can be cut into the listings of the messages exactly if no
message has any.
-/
import Patchbay.Echo
import Patchbay.Proofs.Listen.Loop
import Patchbay.Proofs.Osc.RoundTrip
import Patchbay.Proofs.Text.Number
import Patchbay.Proofs.Text.Words

namespace Patchbay

/-! ## Line feeds -/

namespace Text

def lineFeeds (s : String) : Nat := s.toList.count '\n'

theorem lineFeeds_eq_zero_iff {s : String} : lineFeeds s = 0 ↔ '\n' ∉ s.toList :=
  List.count_eq_zero

@[simp] theorem lineFeeds_append (s t : String) : lineFeeds (s ++ t) = lineFeeds s + lineFeeds t := by
  simp [lineFeeds]

theorem lineFeeds_ofList {cs : List Char} (h : '\n' ∉ cs) : lineFeeds (String.ofList cs) = 0 := by
  rwa [lineFeeds_eq_zero_iff, String.toList_ofList]

theorem lineFeeds_intercalate {separator : String} (h : lineFeeds separator = 0)
    (items : List String) :
    lineFeeds (String.intercalate separator items) = (items.map lineFeeds).sum := by
  induction items with
  | nil => rfl
  | cons s items ih =>
    cases items with
    | nil => simp
    | cons t items => simp [String.intercalate_cons_cons, h, ih]

theorem lineFeeds_nat (n : Nat) : lineFeeds (toString n) = 0 := by
  rw [lineFeeds_eq_zero_iff]
  intro h
  exact absurd (isDigit_of_mem_toString h) (by decide)

theorem lineFeeds_int (n : Int) : lineFeeds (toString n) = 0 := by
  cases n with
  | ofNat n => exact lineFeeds_nat n
  | negSucc n =>
    change lineFeeds ("-" ++ toString (n + 1)) = 0
    rw [lineFeeds_append, lineFeeds_nat]
    rfl

end Text

/-! ## Numbers -/

namespace Decimal

open Text

theorem lineFeeds_numeral (d : Numeral) : lineFeeds d.text = 0 := by
  have digits : '\n' ∉ (toString d.digits).toList := lineFeeds_eq_zero_iff.1 (lineFeeds_nat d.digits)
  have zeros (n : Nat) : '\n' ∉ List.replicate n '0' := by
    simp [List.mem_replicate]
  unfold Numeral.text
  generalize (toString d.digits).toList = ds at digits
  dsimp only
  split_ifs with positional whole
  · -- zeros fill up to the point
    have filled : '\n' ∉ ds ++ List.replicate d.exp.toNat '0' := by
      rw [List.mem_append]
      exact not_or.2 ⟨digits, zeros _⟩
    rw [lineFeeds_append, lineFeeds_ofList filled]
    rfl
  · -- the point stands between two parts of the padded digits
    refine lineFeeds_ofList fun h => ?_
    have padded : '\n' ∈ List.replicate (-(d.exp + ds.length - 1)).toNat '0' ++ ds := by
      rcases List.mem_append.1 h with h | h
      · exact List.mem_of_mem_take h
      · exact List.mem_of_mem_drop ((List.mem_cons.1 h).resolve_left (by decide))
    exact (List.mem_append.1 padded).elim (zeros _) digits
  · -- a point stands behind the first digit, unless that is the only one
    have mark : lineFeeds "e" = 0 := rfl
    rw [lineFeeds_append, lineFeeds_append, lineFeeds_int, mark, Nat.add_zero]
    refine lineFeeds_ofList ?_
    split
    · exact digits
    · exact digits
    · simpa using digits

theorem lineFeeds_reading (r : Reading) : lineFeeds r.text = 0 := by
  cases r with
  | nan => rfl
  | infinite negative | zero negative => cases negative <;> rfl
  | finite negative x =>
    cases negative
    · exact lineFeeds_numeral x.shortest
    · rw [Reading.text, lineFeeds_append, lineFeeds_numeral]
      rfl

end Decimal

/-! ## Listings -/

namespace Osc

open Text

mutual

/-- The strings and characters of an argument, at every depth. -/
def Argument.texts : Argument → List String
  | .string s => [s]
  | .char c => [c.toString]
  | .array items => textsOf items
  | _ => []

def textsOf : List Argument → List String
  | [] => []
  | a :: rest => a.texts ++ textsOf rest

end

/-- The texts that come with a message. -/
def Message.texts (m : Message) : List String := m.address :: textsOf m.arguments

/-- How many line feeds come with a message. -/
def Message.lineFeeds (m : Message) : Nat := (m.texts.map Text.lineFeeds).sum

/-- No text that comes with the message breaks the line. -/
def Message.OneLine (m : Message) : Prop := ∀ text ∈ m.texts, '\n' ∉ text.toList

instance (m : Message) : Decidable m.OneLine :=
  inferInstanceAs (Decidable (∀ text ∈ m.texts, '\n' ∉ text.toList))

theorem Message.lineFeeds_eq_zero_iff {m : Message} : m.lineFeeds = 0 ↔ m.OneLine := by
  rw [lineFeeds, List.sum_eq_zero_iff]
  simp [OneLine, Text.lineFeeds_eq_zero_iff]

theorem lineFeeds_bracketed (items : List String) :
    lineFeeds (bracketed items) = (items.map lineFeeds).sum := by
  have plain : lineFeeds "[" = 0 ∧ lineFeeds "]" = 0 := ⟨rfl, rfl⟩
  rw [bracketed, lineFeeds_append, lineFeeds_append, lineFeeds_intercalate rfl, plain.1, plain.2,
    Nat.zero_add, Nat.add_zero]

theorem lineFeeds_bytesText (bytes : List UInt8) : lineFeeds (bytesText bytes) = 0 := by
  rw [bytesText, lineFeeds_bracketed, List.map_map, List.sum_eq_zero_iff]
  intro n hn
  obtain ⟨b, -, rfl⟩ := List.mem_map.1 hn
  exact lineFeeds_nat b.toNat

theorem lineFeeds_timeText (seconds fractional : UInt32) :
    lineFeeds (timeText seconds fractional) = 0 := by
  unfold timeText
  simp only [lineFeeds_append, lineFeeds_nat]
  decide +kernel

theorem lineFeeds_midiText (port status data1 data2 : UInt8) :
    lineFeeds (midiText port status data1 data2) = 0 := by
  unfold midiText
  simp only [lineFeeds_append, lineFeeds_nat]
  decide +kernel

theorem lineFeeds_colorText (red green blue alpha : UInt8) :
    lineFeeds (colorText red green blue alpha) = 0 := by
  unfold colorText
  simp only [lineFeeds_append, lineFeeds_nat]
  decide +kernel

/-- A text in quotes. -/
theorem lineFeeds_enclosed {front back s : String} (hf : lineFeeds front = 0)
    (hb : lineFeeds back = 0) : lineFeeds (front ++ s ++ back) = ([s].map lineFeeds).sum := by
  simp [hf, hb]

mutual

theorem Argument.lineFeeds_listing (a : Argument) :
    lineFeeds a.listing = (a.texts.map lineFeeds).sum := by
  cases a with
  | int v | long v => exact lineFeeds_int v.toInt
  | float bits | double bits => exact Decimal.lineFeeds_reading _
  | string s => exact lineFeeds_enclosed rfl rfl
  | char c => exact lineFeeds_enclosed rfl rfl
  | blob bytes =>
    rw [Argument.listing, lineFeeds_append, lineFeeds_bytesText]
    rfl
  | time seconds fractional => exact lineFeeds_timeText ..
  | midi port status data1 data2 => exact lineFeeds_midiText ..
  | color red green blue alpha => exact lineFeeds_colorText ..
  | bool v => cases v <;> rfl
  | nil | infinitum => rfl
  | array items => rw [Argument.listing, lineFeeds_bracketed, lineFeeds_listings items, Argument.texts]

theorem lineFeeds_listings (as : List Argument) :
    ((listings as).map lineFeeds).sum = ((textsOf as).map lineFeeds).sum := by
  cases as with
  | nil => rfl
  | cons a rest =>
    simp [listings, textsOf, a.lineFeeds_listing, lineFeeds_listings rest]

end

/-- A listing breaks the line where the texts of the message do. -/
theorem Message.lineFeeds_listing (m : Message) (port : UInt16) :
    Text.lineFeeds (m.listing port) = m.lineFeeds := by
  have marks : Text.lineFeeds ": " = 0 ∧ Text.lineFeeds " " = 0 := ⟨rfl, rfl⟩
  simp only [Message.listing, lineFeeds, texts, lineFeeds_append, lineFeeds_bracketed,
    lineFeeds_listings, lineFeeds_nat port.toNat, marks, List.map_cons, List.sum_cons, Nat.zero_add,
    Nat.add_zero]

end Osc

/-! ## Output -/

namespace Echo

/-- A loop whose messages are no exit commands goes on, and prints the listing of each of them, in
order and with a line feed behind it. -/
theorem run_handler (port : UInt16) (printed : String) (arrivals : List Arrival)
    (echoed : ∀ m ∈ arrivals.filterMap Listener.messageOf?, isExitCommand m = false) :
    ∃ journal, Listener.run port (handler port none) printed (arrivals.map .arrival) =
      (.goOn, journal, printed ++ String.join ((arrivals.filterMap Listener.messageOf?).map
        fun m => m.listing port ++ "\n")) := by
  induction arrivals generalizing printed with
  | nil => exact ⟨[], by simp [Listener.run]⟩
  | cons a arrivals ih =>
    cases holds : Listener.messageOf? a with
    | none =>
      obtain ⟨shown, passes, -⟩ := Listener.receive_of_none holds port
      rw [List.filterMap_cons_none holds] at echoed ⊢
      obtain ⟨journal, runs⟩ := ih printed echoed
      exact ⟨shown ++ journal, by simp only [List.map_cons, Listener.run, passes, runs]⟩
    | some m =>
      obtain ⟨peer, receives⟩ := Listener.receive_of_some holds port
      rw [List.filterMap_cons_some holds] at echoed ⊢
      obtain ⟨first, rest⟩ := List.forall_mem_cons.1 echoed
      have prints : handler port none printed m = (.goOn, [], printed ++ (m.listing port ++ "\n")) := by
        simp [handler, echo, first]
      obtain ⟨journal, runs⟩ := ih (printed ++ (m.listing port ++ "\n")) rest
      refine ⟨Listener.heard port peer m ++ [] ++ journal, ?_⟩
      simp only [List.map_cons, Listener.run, receives, prints, runs, String.join_cons,
        String.append_assoc]

/-- Messages that are printed with a line feed behind each. -/
def printed (port : UInt16) (messages : List Osc.Message) : String :=
  String.join (messages.map fun m => m.listing port ++ "\n")

theorem printed_toList (port : UInt16) (messages : List Osc.Message) :
    (printed port messages).toList =
      (messages.map fun m => (m.listing port).toList).flatMap (· ++ ['\n']) := by
  simp [printed, String.toList_join, List.flatMap_map]

theorem lineFeeds_printed (port : UInt16) (messages : List Osc.Message) :
    Text.lineFeeds (printed port messages) =
      messages.length + (messages.map (·.lineFeeds)).sum := by
  induction messages with
  | nil => rfl
  | cons m messages ih =>
    have more : printed port (m :: messages) =
        m.listing port ++ "\n" ++ printed port messages := by
      simp [printed, String.join_cons]
    have mark : Text.lineFeeds "\n" = 1 := rfl
    rw [more, Text.lineFeeds_append, Text.lineFeeds_append, m.lineFeeds_listing port, mark, ih,
      List.length_cons, List.map_cons, List.sum_cons]
    omega

/-- The output has a line for each message, one for each line feed that came with one, and the empty
rest. -/
theorem length_lines_printed (port : UInt16) (messages : List Osc.Message) :
    ((printed port messages).toList.splitOn '\n').length =
      messages.length + (messages.map (·.lineFeeds)).sum + 1 := by
  rw [Text.length_splitOn, ← lineFeeds_printed port messages]
  rfl

/-- The output is cut into the listings of the messages exactly if no message breaks its line. -/
theorem lines_printed_iff (port : UInt16) (messages : List Osc.Message) :
    (printed port messages).toList.splitOn '\n' =
        messages.map (fun m => (m.listing port).toList) ++ [[]] ↔
      ∀ m ∈ messages, m.OneLine := by
  constructor
  · intro h m hm
    have total := congrArg List.length h
    rw [length_lines_printed] at total
    have none : (messages.map (·.lineFeeds)).sum = 0 := by
      simp at total
      omega
    rw [List.sum_eq_zero_iff] at none
    exact Osc.Message.lineFeeds_eq_zero_iff.1 (none _ (List.mem_map_of_mem hm))
  · intro h
    rw [printed_toList]
    refine Text.splitOn_lines fun l hl => ?_
    obtain ⟨m, hm, rfl⟩ := List.mem_map.1 hl
    rw [← Text.lineFeeds_eq_zero_iff, m.lineFeeds_listing port]
    exact Osc.Message.lineFeeds_eq_zero_iff.2 (h m hm)

/-- What a loop prints of messages that are no exit commands is cut into their listings, one line for
each message and in order, exactly if no text that comes with a message holds a line feed. Each of them
makes one line more. -/
theorem lines_iff_one_line (port : UInt16) (arrivals : List Arrival)
    (echoed : ∀ m ∈ arrivals.filterMap Listener.messageOf?, isExitCommand m = false) :
    let messages := arrivals.filterMap Listener.messageOf?
    ∃ journal text,
      Listener.run port (handler port none) "" (arrivals.map .arrival) = (.goOn, journal, text) ∧
      (text.toList.splitOn '\n' = messages.map (fun m => (m.listing port).toList) ++ [[]] ↔
        ∀ m ∈ messages, m.OneLine) ∧
      (text.toList.splitOn '\n').length =
        messages.length + (messages.map (·.lineFeeds)).sum + 1 ∧
      ∀ m ∈ messages, '\n' ∉ (m.listing port).toList ↔ m.OneLine := by
  intro messages
  obtain ⟨journal, runs⟩ := run_handler port "" arrivals echoed
  rw [String.empty_append] at runs
  refine ⟨journal, printed port messages, runs, lines_printed_iff port messages,
    length_lines_printed port messages, fun m _ => ?_⟩
  rw [← Text.lineFeeds_eq_zero_iff, m.lineFeeds_listing port, Osc.Message.lineFeeds_eq_zero_iff]

/-- Two messages, one of them with a text and with characters in nested arrays, and a failed receive
between them. -/
theorem lines_iff_one_line_nested :
    let first : Osc.Message :=
      ⟨"/mix/1", [.string "it's", .array [.char 'x', .array [.float 0x3F000000]]]⟩
    let arrivals : List Arrival := [.datagram "peer" (Osc.encode first.address first.arguments),
      .failure "reset", .datagram "peer" (Osc.encode "/b" [])]
    (∀ m ∈ arrivals.filterMap Listener.messageOf?, isExitCommand m = false) ∧
      ∃ journal text,
        Listener.run 9000 (handler 9000 none) "" (arrivals.map .arrival) =
          (.goOn, journal, text) ∧
        text.toList.splitOn '\n' =
          ["9000: /mix/1 ['it's', ['x', [0.5]]]".toList, "9000: /b []".toList, []] := by
  intro first arrivals
  have holds : arrivals.filterMap Listener.messageOf? = [first, ⟨"/b", []⟩] := by
    cbv
  have echoed : ∀ m ∈ arrivals.filterMap Listener.messageOf?, isExitCommand m = false := by
    rw [holds]
    decide +kernel
  obtain ⟨journal, text, runs, lines, -⟩ := lines_iff_one_line 9000 arrivals echoed
  refine ⟨echoed, journal, text, runs, ?_⟩
  rw [lines.2 (by rw [holds]; decide +kernel), holds]
  decide +kernel

/-- A datagram holds one message, of which a loop prints two lines: just those that it and a loop on
another port print of two other messages. -/
theorem not_one_line_of_address :
    let forged := Osc.encode "/a []\n9001: /b" []
    let m : Osc.Message := ⟨"/a []\n9001: /b", []⟩
    Osc.decode forged = .ok (.message m) ∧ isExitCommand m = false ∧
      ∃ journal text,
        Listener.run 9000 (handler 9000 none) "" [.arrival (.datagram "peer" forged)] =
          (.goOn, journal, text) ∧
        text.toList.splitOn '\n' ≠ [(m.listing 9000).toList, []] ∧
        text.toList.splitOn '\n' =
          [(Osc.Message.listing ⟨"/a", []⟩ 9000).toList,
            (Osc.Message.listing ⟨"/b", []⟩ 9001).toList, []] := by
  intro forged m
  have legal : Osc.IsAddress m.address :=
    ⟨⟨"a []\n9001: /b".toList, by decide +kernel⟩, by decide +kernel⟩
  have decoded : Osc.decode forged = .ok (.message m) := Osc.decode_encode legal trivial
  have short : forged.take datagramLimit = forged := by
    decide +kernel
  have holds : [Arrival.datagram "peer" forged].filterMap Listener.messageOf? = [m] := by
    simp [Listener.messageOf?, short, decoded]
  have plain : isExitCommand m = false := by
    decide +kernel
  obtain ⟨journal, runs⟩ := run_handler 9000 "" [.datagram "peer" forged] (by simp [holds, plain])
  rw [holds] at runs
  exact ⟨decoded, plain, journal, _, runs, by decide +kernel, by decide +kernel⟩

end Echo

end Patchbay
