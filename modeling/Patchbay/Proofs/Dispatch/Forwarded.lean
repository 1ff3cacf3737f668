/-
What a forward carries. A planned path is the message's own, a tail of it behind a slash, or the
replacement of a target; the first two come from the datagram, which is cut at zero bytes, and the
third from the text of the rules. So nothing is lost in writing a received message anew: whoever
reads a forward of it sees the planned path and the arguments that were received.
-/
import Patchbay.Proofs.Dispatch.Plan
import Patchbay.Proofs.Osc.Decoded

namespace Patchbay

/-! ## Characters of the rules -/

/-- The characters of a record's fields stand in the text. -/
theorem Record.mem_of_mem_ofText {text field : String} {fs : List String} (h : fs ∈ ofText text)
    (hfield : field ∈ fs) {c : Char} (hc : c ∈ field.toList) : c ∈ text.toList := by
  obtain ⟨line, hline, rfl⟩ := List.mem_map.1 (List.mem_filter.1 h).1
  obtain ⟨w, hw, rfl⟩ := List.mem_map.1 hfield
  rw [String.toList_ofList] at hc
  have in_content : c ∈ content line := Text.mem_of_mem_words hw hc
  have in_line : c ∈ line := (List.takeWhile_sublist _).subset in_content
  exact (Text.mem_of_mem_splitOnP hline c in_line).1

/-- Apart from the digits of ports, the targets of a table hold only characters of its text. -/
theorem Table.mem_of_mem_target {file text : String} {t : Table} (h : ofText file text = .ok t)
    {r : Record.Meaning} (hr : r ∈ t.meanings) {target : Target} (htarget : target ∈ r.targets)
    {c : Char} (hc : c ∈ target.text.toList) : c ∈ text.toList ∨ c.isDigit = true := by
  obtain ⟨fs, hfs, asks⟩ := exists_left_of_forall₂ (ofText_asks h) hr
  obtain ⟨first, tokens, rfl, -, -, parsed⟩ := Record.readFields_eq_rule_iff.1 asks
  obtain ⟨token, htoken, hparse⟩ := exists_left_of_forall₂ parsed htarget
  rcases Target.mem_text_of_parse hparse hc with hc | hc
  · exact .inl (Record.mem_of_mem_ofText hfs (by simp [htoken]) hc)
  · exact .inr hc

/-! ## Planned paths -/

/-- Without its head a path is a slash and an end of what stood behind the first one. -/
theorem Path.exists_dropHead {path : String} {rest : List Char} (h : path.toList = '/' :: rest) :
    ∃ tail, (dropHead path).toList = '/' :: tail ∧ tail <:+ rest := by
  simp only [dropHead, h]
  cases hcut : Text.cut? '/' rest with
  | none => exact ⟨[], rfl, List.nil_suffix⟩
  | some p =>
    obtain ⟨hrest, -⟩ := Text.cut?_eq_some_iff.1 hcut
    exact ⟨p.2, String.toList_ofList, p.1 ++ ['/'], by rw [hrest]; simp⟩

theorem isAddress_dropHead {path : String} (h : Osc.IsAddress path) :
    Osc.IsAddress (Path.dropHead path) := by
  obtain ⟨⟨rest, hpath⟩, nul_free⟩ := h
  obtain ⟨tail, hdrop, hend⟩ := Path.exists_dropHead hpath
  refine ⟨⟨tail, hdrop⟩, fun hnul => nul_free ?_⟩
  rw [hdrop] at hnul
  rw [hpath]
  rcases List.mem_cons.1 hnul with hslash | hnul
  · exact absurd hslash (by decide)
  · exact List.mem_cons_of_mem _ (hend.subset hnul)

theorem isAddress_outboundPath {address : String} {target : Target} (truncate : Bool)
    (own : Osc.IsAddress address)
    (replaced : ∀ path ∈ target.replacement, Osc.IsAddress path) :
    Osc.IsAddress (outboundPath truncate target address) := by
  unfold outboundPath
  split
  · rename_i path hpath
    exact replaced path hpath
  · cases truncate with
    | true => exact isAddress_dropHead own
    | false => exact own

namespace Table

variable {file text : String} {t : Table}

theorem isAddress_replacement (nul : '\x00' ∉ text.toList) (h : ofText file text = .ok t)
    {r : Record.Meaning} (hr : r ∈ t.meanings) {target : Target} (htarget : target ∈ r.targets) :
    ∀ path ∈ target.replacement, Osc.IsAddress path := by
  intro path hpath
  refine ⟨((ofText_writable h r hr).wellFormed target htarget).path_slash path hpath, fun hnul => ?_⟩
  have in_target : '\x00' ∈ target.text.toList := by
    rw [Target.text_toList, Target.pathText, Option.mem_def.1 hpath]
    simp [hnul]
  -- the text of a target adds only digits to what was written
  rcases mem_of_mem_target h hr htarget in_target with hnul | digit
  · exact nul hnul
  · exact absurd digit (by decide)

theorem isAddress_plan (nul : '\x00' ∉ text.toList) (h : ofText file text = .ok t)
    {address : String} (own : Osc.IsAddress address) {f : Forward} (hf : f ∈ t.plan address) :
    Osc.IsAddress f.path := by
  have sent : (f.target, f.path) ∈ (t.plan address).map fun f => (f.target, f.path) :=
    List.mem_map_of_mem hf
  rw [sends_plan] at sent
  obtain ⟨r, hr, sent⟩ := List.mem_flatMap.1 sent
  obtain ⟨target, htarget, pair⟩ := List.mem_map.1 sent
  obtain ⟨-, hpath⟩ := Prod.mk.inj pair
  have listed : r ∈ t.meanings := (List.mem_filter.1 hr).1
  rw [← hpath]
  exact isAddress_outboundPath r.truncate own (isAddress_replacement nul h listed htarget)

/-- Whatever datagram a message was read from, each forward that a table plans for it goes to an
absolute path and is read back as the message with that path and just the arguments received. -/
theorem decode_forward (nul : '\x00' ∉ text.toList) (compiled : ofText file text = .ok t)
    {datagram : List UInt8} {m : Osc.Message} (received : Osc.decode datagram = .ok (.message m))
    {f : Forward} (planned : f ∈ t.plan m.address) :
    (∃ rest, f.path.toList = '/' :: rest) ∧
      Osc.decode (m.encodeAs f.path) = .ok (.message ⟨f.path, m.arguments⟩) := by
  obtain ⟨own, portable⟩ := Osc.exists_decode_iff.1 ⟨datagram, received⟩
  have legal := isAddress_plan nul compiled own planned
  exact ⟨legal.slash, Osc.decode_encode legal portable⟩

/-- A datagram with odd padding, an `i` as the first type tag, a bracket that is never closed and so
drops the number before it, and a byte left over; its forward loses the head of the path. -/
theorem decode_forward_irregular :
    let datagram : List UInt8 := [47, 97, 47, 98, 0, 1, 2, 3, 105, 105, 91, 115, 91, 84, 93, 0,
      0, 0, 0, 7, 104, 105, 0, 9, 255]
    let m : Osc.Message := ⟨"/a/b", [.string "hi", .array [.bool true]]⟩
    let f : Forward := ⟨0, ⟨"a", true, [⟨0⟩, ⟨1⟩], ⟨"rules", 1⟩⟩, ⟨"h", 1, none⟩, "/b"⟩
    (∃ t, ofText "rules" "/a - h:1 k:2/x" = .ok t ∧ f ∈ t.plan m.address) ∧
      Osc.decode datagram = .ok (.message m) ∧
      (∃ rest, f.path.toList = '/' :: rest) ∧
      Osc.decode (m.encodeAs f.path) = .ok (.message ⟨f.path, m.arguments⟩) := by
  intro datagram m f
  let t : Table := ⟨[f.rule], ⟨[⟨"h", 1, none⟩, ⟨"k", 2, some "/x"⟩]⟩⟩
  have compiled : ofText "rules" "/a - h:1 k:2/x" = .ok t := by
    decide +kernel
  have planned : f ∈ t.plan m.address := by
    decide +kernel
  have received : Osc.decode datagram = .ok (.message m) := by
    cbv
  exact ⟨⟨t, compiled, planned⟩, received, decode_forward (by decide) compiled received planned⟩

end Table

end Patchbay
