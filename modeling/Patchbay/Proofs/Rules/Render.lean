/-
Rendering: the canonical text of a compiled table compiles to the same table, under any file name.
The registry comes back number for number, because both texts name the same targets in the same
order; the rules stand on the lines one, two, three and so on.
-/
import Patchbay.Proofs.Rules.Compile

namespace Patchbay.Table

/-- The lines of a rendered table are the canonical ones of its rules; the last is empty. -/
theorem lines_render {t : Table} (h : ∀ r ∈ t.meanings, r.Writable) :
    lines t.render = (t.meanings.map fun r => r.text.toList) ++ [[]] := by
  have chars : t.render.toList = (t.meanings.map fun r => r.text.toList).flatMap (· ++ ['\n']) := by
    simp [render_eq, String.toList_join, List.flatMap_map]
  rw [lines, chars, Text.splitOn_lines]
  intro l hl
  obtain ⟨r, hr, rfl⟩ := List.mem_map.1 hl
  exact (h r hr).newline_not_mem

theorem sound_lines_render {t : Table} (h : ∀ r ∈ t.meanings, r.Writable) :
    ∀ line ∈ lines t.render, Record.IsSound line := by
  rw [lines_render h]
  intro line hline fault targets hread
  rcases List.mem_append.1 hline with hline | hline
  · obtain ⟨r, hr, rfl⟩ := List.mem_map.1 hline
    rw [(h r hr).read_text] at hread
    cases hread
  · rw [List.mem_singleton.1 hline] at hread
    cases hread

theorem numbered_lines_render {t : Table} (h : ∀ r ∈ t.meanings, r.Writable) :
    Record.numbered 1 (lines t.render) = (t.meanings.zipIdx 1).map fun r => (r.2, r.1) := by
  rw [lines_render h, Record.numbered_append, Record.numbered_texts h]
  exact List.append_nil _

/-- Rendering and compiling again gives the same table: the same registry, the same rules on the
lines from one on, and the same text. No target of the registry is without a rule. -/
theorem ofText_render {file text : String} {t : Table} (h : ofText file text = .ok t)
    (again : String) :
    ∃ u, ofText again t.render = .ok u ∧ u.same t = true ∧ u.registry = t.registry ∧
      (∀ i < t.registry.size, ∃ rule ∈ t.rules, ⟨i⟩ ∈ rule.targets) ∧
      u.rules.map (·.origin) = (List.range t.rules.length).map (fun i => ⟨again, i + 1⟩) ∧
      u.render = t.render := by
  have writable := ofText_writable h
  have numbers := numbered_lines_render writable
  obtain ⟨u, hu⟩ : ∃ u, ofText again t.render = .ok u :=
    ⟨_, ofText_eq_ok_iff.2 ⟨sound_lines_render writable, rfl⟩⟩
  have meanings : u.meanings = t.meanings := by
    rw [ofText_meanings hu, numbers, List.map_map]
    exact List.zipIdx_map_fst 1 t.meanings
  have origins : u.rules.map (·.origin) =
      (List.range t.rules.length).map fun i => ⟨again, i + 1⟩ := by
    rw [ofText_origins hu, numbers, List.map_map,
      show t.rules.length = t.meanings.length by simp [Table.meanings]]
    calc (t.meanings.zipIdx 1).map (fun r => (⟨again, r.2⟩ : Origin))
        = ((t.meanings.zipIdx 1).map (·.2)).map fun n => ⟨again, n⟩ := by rw [List.map_map]; rfl
      _ = (List.range t.meanings.length).map fun i => ⟨again, i + 1⟩ := by
          rw [List.zipIdx_map_snd, List.range'_eq_map_range, List.map_map]
          simp [Function.comp_def, Nat.add_comm]
  have registry : u.registry = t.registry := by
    rw [ofText_registry hu, ofText_registry h, meanings]
  have same := same_of_meanings (ofText_resolved hu) (ofText_resolved h) meanings
  exact ⟨u, hu, same, registry, ofText_covered h, origins, by rw [render_eq, render_eq, meanings]⟩

/-- A table from a text with slashes around a head, a comment within a token, a host with a slash,
a port with a sign and zeros, a path with a colon, blanks of several kinds, and repeated targets. -/
theorem ofText_render_irregular :
    let text := "# none\n//synth/\u00a0-  a/b:+0080//x:1#y\r\n\n/s + h:1\ra/b:80//x:1"
    let t : Table :=
      ⟨[⟨"synth", true, [⟨0⟩], ⟨"rules", 2⟩⟩, ⟨"s", false, [⟨1⟩, ⟨0⟩], ⟨"rules", 4⟩⟩],
        ⟨[⟨"a/b", 80, some "//x:1"⟩, ⟨"h", 1, none⟩]⟩⟩
    ofText "rules" text = .ok t ∧
      t.render = "/synth - a/b:80//x:1\n/s + h:1 a/b:80//x:1\n" ∧
      ∃ u, ofText "again" t.render = .ok u ∧ u.same t = true ∧ u.registry = t.registry ∧
        (∀ i < t.registry.size, ∃ rule ∈ t.rules, ⟨i⟩ ∈ rule.targets) ∧
        u.rules.map (·.origin) = (List.range t.rules.length).map (fun i => ⟨"again", i + 1⟩) ∧
        u.render = t.render := by
  intro text t
  have compiled : ofText "rules" text = .ok t := by decide +kernel
  exact ⟨compiled, by decide +kernel, ofText_render compiled "again"⟩

end Patchbay.Table
