/-
Target tokens as a grammar. A token stands for a target when it is a host without a colon, a colon,
the number of a port and a path (`Target.Spells`); every other token is refused for one reason, which
depends on where its first colon is. How a port is spelled does not matter afterwards: the text of a
registered target is a token for it, and two tokens get one number exactly if they agree in host,
port and path.
-/
import Patchbay.Proofs.Rules.Numbers
import Patchbay.Proofs.Rules.Target
import Patchbay.Proofs.Text.Number
import Patchbay.Proofs.Text.Words

namespace Patchbay

namespace Target

/-! ## The grammar -/

/-- The token is a host that is not empty and has no colon, a colon, a port from 1 on, and either
nothing more or the replacement, which starts with the first slash behind that colon. -/
structure Spells (token : String) (t : Target) : Prop where
  host_ne : t.host ≠ ""
  host_colon : ':' ∉ t.host.toList
  port_ne : t.port ≠ 0
  written : ∃ digits path, token.toList = t.host.toList ++ ':' :: (digits ++ path) ∧
    '/' ∉ digits ∧ Text.Numeral digits t.port.toNat ∧
    (path = [] ∧ t.replacement = none ∨
      ∃ rest, path = '/' :: rest ∧ t.replacement = some (String.ofList path))

/-- What can stand behind the digits of a port. -/
theorem pathText_eq_iff {replacement : Option String} {path : List Char} :
    path = pathText replacement ∧ (∀ p ∈ replacement, ∃ rest, p.toList = '/' :: rest) ↔
      path = [] ∧ replacement = none ∨
        ∃ rest, path = '/' :: rest ∧ replacement = some (String.ofList path) := by
  cases replacement with
  | none => simp [pathText]
  | some p =>
    simp only [pathText, Option.getD_some, Option.mem_def, Option.some.injEq, reduceCtorEq,
      and_false, false_or]
    constructor
    · rintro ⟨rfl, slash⟩
      obtain ⟨rest, hp⟩ := slash p rfl
      exact ⟨rest, hp, String.ofList_toList.symm⟩
    · rintro ⟨rest, rfl, rfl⟩
      refine ⟨String.toList_ofList.symm, ?_⟩
      rintro p rfl
      exact ⟨rest, String.toList_ofList⟩

theorem parse_eq_ok_iff_spells {token : String} {t : Target} :
    parse token = .ok t ↔ Spells token t := by
  rw [parse_eq_ok_iff]
  constructor
  · rintro ⟨digits, htoken, hslash, hport, hw⟩
    refine ⟨hw.host_ne, hw.host_colon, hw.port_ne, digits, _, htoken, hslash,
      Text.portOf?_eq_some_iff.1 hport, ?_⟩
    exact pathText_eq_iff.1 ⟨rfl, hw.path_slash⟩
  · rintro ⟨host_ne, host_colon, port_ne, digits, path, htoken, hslash, number, hpath⟩
    obtain ⟨rfl, path_slash⟩ := pathText_eq_iff.2 hpath
    exact ⟨digits, htoken, hslash, Text.portOf?_eq_some_iff.2 number,
      ⟨host_ne, host_colon, port_ne, path_slash⟩⟩

/-! ## Refusals -/

/-- The digits of a port end at the next slash. -/
theorem splitPort_fst (rest : List Char) : (splitPort rest).1 = rest.takeWhile (· != '/') := by
  unfold splitPort
  split
  · rename_i digits path hc
    exact (Text.takeWhile_of_cut? hc).symm
  · rename_i hc
    exact (Text.takeWhile_of_cut?_none hc).symm

/-- Without a colon the port is missing, with one in front the host is empty, and else the token
stands for a target or its port is no good. -/
theorem parse_cases (token : String) :
    (':' ∉ token.toList ∧ parse token = .error .missingPort) ∨
      (∃ rest, token.toList = ':' :: rest ∧ parse token = .error .emptyHost) ∨
      ∃ host rest, token.toList = host ++ ':' :: rest ∧ host ≠ [] ∧ ':' ∉ host ∧
        ((∃ t, parse token = .ok t) ∨
          parse token = .error (.invalidPort (String.ofList (rest.takeWhile (· != '/'))))) := by
  unfold parse
  split
  · rename_i hc
    exact .inl ⟨Text.cut?_eq_none_iff.1 hc, rfl⟩
  · rename_i host rest hc
    obtain ⟨htoken, hcolon⟩ := Text.cut?_eq_some_iff.1 hc
    right
    split
    · rename_i hempty
      rw [List.isEmpty_iff.1 hempty] at htoken
      exact .inl ⟨rest, htoken, rfl⟩
    · rename_i hsome
      refine .inr ⟨host, rest, htoken, by simpa using hsome, hcolon, ?_⟩
      simp only [← splitPort_fst]
      split
      · split
        · exact .inr rfl
        · exact .inl ⟨_, rfl⟩
      · exact .inr rfl

theorem parse_eq_missingPort_iff {token : String} :
    parse token = .error .missingPort ↔ ':' ∉ token.toList := by
  rcases parse_cases token with ⟨none_there, h⟩ | ⟨rest, htoken, h⟩ | ⟨host, rest, htoken, -, -, h⟩
  · simp [h, none_there]
  · simp [h, htoken]
  · rcases h with ⟨t, h⟩ | h <;> simp [h, htoken]

/-- A colon behind other characters is not the first one of the token. -/
theorem colon_front_ne {host rest tail : List Char} (hne : host ≠ []) (hcolon : ':' ∉ host) :
    host ++ ':' :: rest ≠ ':' :: tail := by
  intro h
  obtain ⟨c, cs, rfl⟩ := List.exists_cons_of_ne_nil hne
  rw [List.cons_append, List.cons.injEq] at h
  exact hcolon (h.1 ▸ List.mem_cons_self)

theorem parse_eq_emptyHost_iff {token : String} :
    parse token = .error .emptyHost ↔ ∃ rest, token.toList = ':' :: rest := by
  rcases parse_cases token with
    ⟨none_there, h⟩ | ⟨rest, htoken, h⟩ | ⟨host, rest, htoken, hne, hcolon, h⟩
  · constructor
    · intro refused
      rw [h] at refused
      cases refused
    · rintro ⟨rest, htoken⟩
      exact absurd (htoken ▸ List.mem_cons_self) none_there
  · exact ⟨fun _ => ⟨rest, htoken⟩, fun _ => h⟩
  · constructor
    · intro refused
      rcases h with ⟨t, h⟩ | h
      · rw [h] at refused; cases refused
      · rw [h] at refused; cases refused
    · rintro ⟨tail, front⟩
      exact absurd (htoken.symm.trans front) (colon_front_ne hne hcolon)

theorem parse_eq_invalidPort_iff {token text : String} :
    parse token = .error (.invalidPort text) ↔
      (∀ t, ¬ Spells token t) ∧ ∃ host rest, token.toList = host ++ ':' :: rest ∧ host ≠ [] ∧
        ':' ∉ host ∧ text.toList = rest.takeWhile (· != '/') := by
  constructor
  · intro refused
    refine ⟨fun t spelled => ?_, ?_⟩
    · rw [parse_eq_ok_iff_spells.2 spelled] at refused
      cases refused
    · rcases parse_cases token with ⟨-, h⟩ | ⟨-, -, h⟩ | ⟨host, rest, htoken, hne, hcolon, ⟨t, h⟩ | h⟩
      · rw [h] at refused; cases refused
      · rw [h] at refused; cases refused
      · rw [h] at refused; cases refused
      · rw [h] at refused
        cases refused
        exact ⟨host, rest, htoken, hne, hcolon, String.toList_ofList⟩
  · rintro ⟨unspelled, host, rest, htoken, hne, hcolon, htext⟩
    rcases parse_cases token with
      ⟨none_there, -⟩ | ⟨tail, front, -⟩ | ⟨host', rest', htoken', -, hcolon', ⟨t, h⟩ | h⟩
    · exact absurd (htoken ▸ List.mem_append_right host List.mem_cons_self) none_there
    · exact absurd (htoken.symm.trans front) (colon_front_ne hne hcolon)
    · exact absurd (parse_eq_ok_iff_spells.1 h) (unspelled t)
    · -- both cuts are made at the first colon
      have first := Text.cut?_eq_some_iff.2 ⟨htoken, hcolon⟩
      have second := Text.cut?_eq_some_iff.2 ⟨htoken', hcolon'⟩
      rw [first] at second
      cases second
      rw [h, ← htext, String.ofList_toList]

/-! ## Registered tokens -/

/-- The target registered for a token has a text that is a token for the same target. -/
theorem exists_registered {ts : List Target} {i : Nat} {token : String} {t : Target}
    (ht : ts[i]? = some t) (accepted : parse token = .ok t) :
    ∃ id v, (Registry.registerAll {} ts).1[i]? = some id ∧
      (Registry.registerAll {} ts).2.get? id = some v ∧ parse v.text = .ok t := by
  obtain ⟨id, hid, stands⟩ := Registry.exists_number {} ht
  exact ⟨id, t, hid, stands [], parse_text (wellFormed_of_parse accepted)⟩

/-- The tokens that are accepted are those that spell a target, and they give that target. A token
without a colon lacks a port, one that starts with it lacks a host, and any other is refused for what
stands between its first colon and the next slash. Of accepted tokens that are registered in one run,
among any other targets, those get the same number that agree in host, port and replacement. -/
theorem parse_spells (token : String) :
    (∀ t, parse token = .ok t ↔ Spells token t) ∧
      (parse token = .error .missingPort ↔ ':' ∉ token.toList) ∧
      (parse token = .error .emptyHost ↔ ∃ rest, token.toList = ':' :: rest) ∧
      (∀ text, parse token = .error (.invalidPort text) ↔
        (∀ t, ¬ Spells token t) ∧ ∃ host rest, token.toList = host ++ ':' :: rest ∧ host ≠ [] ∧
          ':' ∉ host ∧ text.toList = rest.takeWhile (· != '/')) ∧
      ∀ (ts : List Target) (i : Nat) (t : Target), ts[i]? = some t → parse token = .ok t →
        ∃ id v, (Registry.registerAll {} ts).1[i]? = some id ∧
          (Registry.registerAll {} ts).2.get? id = some v ∧ parse v.text = .ok t ∧
          ∀ (other : String) (j : Nat) (u : Target), ts[j]? = some u → parse other = .ok u →
            ((Registry.registerAll {} ts).1[j]? = some id ↔
              u.host = t.host ∧ u.port = t.port ∧ u.replacement = t.replacement) := by
  refine ⟨fun t => parse_eq_ok_iff_spells, parse_eq_missingPort_iff, parse_eq_emptyHost_iff,
    fun text => parse_eq_invalidPort_iff, ?_⟩
  intro ts i t ht accepted
  obtain ⟨id, v, hid, registered, again⟩ := exists_registered ht accepted
  refine ⟨id, v, hid, registered, again, ?_⟩
  intro other j u hu _
  obtain ⟨id', hid', -⟩ := Registry.exists_number {} hu
  have agree : u.host = t.host ∧ u.port = t.port ∧ u.replacement = t.replacement ↔ t = u := by
    rcases t with ⟨host, port, replacement⟩
    rcases u with ⟨host', port', replacement'⟩
    simp [eq_comm]
  rw [hid', Option.some.injEq, agree, ← Registry.number_eq_iff hid hid' ht hu]
  exact eq_comm

/-- Two spellings of one target, with a slash in the host, a sign and zeros before the port, and slashes
and a colon in the path; and a port that is too large by one. -/
theorem parse_spells_irregular :
    let t : Target := ⟨"a/b", 65535, some "//x:1"⟩
    let ts := [⟨"", 0, none⟩, t, ⟨"a/b", 65535, none⟩, t]
    parse "a/b:+0065535//x:1" = .ok t ∧ parse "a/b:65535//x:1" = .ok t ∧
      (∃ id v, (Registry.registerAll {} ts).1[1]? = some id ∧
        (Registry.registerAll {} ts).2.get? id = some v ∧ parse v.text = .ok t ∧
        (Registry.registerAll {} ts).1[3]? = some id) ∧
      parse "a/b:65536//x:1" = .error (.invalidPort "65536") ∧ ∀ t, ¬ Spells "a/b:65536//x:1" t := by
  intro t ts
  have signed : parse "a/b:+0065535//x:1" = .ok t := by decide +kernel
  have plain : parse "a/b:65535//x:1" = .ok t := by decide +kernel
  have large : parse "a/b:65536//x:1" = .error (.invalidPort "65536") := by decide +kernel
  obtain ⟨-, -, -, -, numbers⟩ := parse_spells "a/b:+0065535//x:1"
  obtain ⟨id, v, hid, registered, again, same⟩ := numbers ts 1 t rfl signed
  obtain ⟨-, -, -, refusals, -⟩ := parse_spells "a/b:65536//x:1"
  exact ⟨signed, plain, ⟨id, v, hid, registered, again, (same _ 3 t rfl plain).2 ⟨rfl, rfl, rfl⟩⟩,
    large, ((refusals _).1 large).1⟩

end Target

end Patchbay
