/-
Verbosity scopes. A scope that is switched on lets the events of its topic pass up to debug, whatever
the general level is, and changes nothing for any other topic. It takes the place of the general
level, so it could hide events where that is more detailed; but every event on the topic of a scope is
a debug event, and so switching scopes on only ever adds events.

The statements are about every journal, so about that of every run: of a start, of reloads, of
arrivals and of the sends of several listeners, in whatever order they are recorded.
-/
import Patchbay.Forwarder
import Patchbay.Proofs.Journal

namespace Patchbay

/-! ## Events of scopes -/

/-- Every event on the topic of a scope is a debug event. -/
theorem Event.level_of_scope {e : Event} {s : Scope} (h : e.topic = .scope s) : e.level = .debug := by
  cases e with
  | messageReceived | forwarded | ruleLoaded | listenAddresses => rfl
  | _ => cases h

/-- The event is on the topic of one of the scopes. -/
def Event.within (e : Event) (scopes : List Scope) : Bool := scopes.any fun s => e.topic == .scope s

theorem Event.within_iff {e : Event} {scopes : List Scope} :
    e.within scopes = true ↔ ∃ s ∈ scopes, e.topic = .scope s := by
  simp [within]

theorem Event.level_of_within {e : Event} {scopes : List Scope} (h : e.within scopes = true) :
    e.level = .debug := by
  obtain ⟨s, -, hs⟩ := within_iff.1 h
  exact level_of_scope hs

theorem Event.within_mono {e : Event} {scopes more : List Scope} (h : scopes ⊆ more)
    (hw : e.within scopes = true) : e.within more = true := by
  obtain ⟨s, hs, topic⟩ := within_iff.1 hw
  exact within_iff.2 ⟨s, h hs, topic⟩

/-! ## Directives of scopes -/

/-- The topic of a scope begins no other topic. -/
theorem Scope.isPrefixOf_topic (s : Scope) (topic : Topic) :
    s.topic.toList.isPrefixOf topic.name.toList = (topic == .scope s) := by
  cases topic with
  | scope other => cases s <;> cases other <;> simp [Scope.topic, Topic.name] <;> decide
  | _ => cases s <;> simp [Scope.topic, Topic.name] <;> decide

theorem Scope.concerns_directive (s : Scope) (e : Event) :
    s.directive.concerns e = (e.topic == .scope s) := by
  rw [← s.isPrefixOf_topic, Directive.concerns]
  exact Bool.and_true _

theorem Scope.listOf_directiveText (s : Scope) :
    Directive.listOf s.directiveText.toList = [s.directive] := by
  have whole : s.directiveText.toList.splitOn ',' = [s.directiveText.toList] :=
    List.splitOn_eq_singleton (by cases s <;> decide +kernel)
  rw [Directive.listOf, whole, List.filterMap_cons_some (Verbosity.ofText?_directiveText s)]
  rfl

theorem Directive.listOf_append_comma (front back : List Char) :
    listOf (front ++ ',' :: back) = listOf front ++ listOf back := by
  rw [listOf, List.splitOn_append_cons_self, List.filterMap_append]
  rfl

namespace Verbosity

theorem listOf_intercalate (text : String) (scopes : List Scope) :
    Directive.listOf (String.intercalate "," (text :: scopes.map Scope.directiveText)).toList =
      Directive.listOf text.toList ++ scopes.map Scope.directive := by
  induction scopes generalizing text with
  | nil => simp
  | cons s scopes ih =>
    have cut : (String.intercalate "," (text :: (s :: scopes).map Scope.directiveText)).toList =
        text.toList ++ ',' ::
          (String.intercalate "," (s.directiveText :: scopes.map Scope.directiveText)).toList := by
      simp [String.intercalate_cons_cons]
    rw [cut, Directive.listOf_append_comma, ih, s.listOf_directiveText]
    rfl

/-- The filter goes by the directives that its text holds. -/
theorem listOf_filterText (v : Verbosity) : Directive.listOf v.filterText.toList = v.given :=
  listOf_intercalate v.level v.enabled

/-! ## General levels -/

/-- The general levels as settings name them; without a limit nothing is shown. -/
def levelText : Option Level → String
  | none => "off"
  | some .error => "error"
  | some .warn => "warn"
  | some .info => "info"
  | some .debug => "debug"
  | some .trace => "trace"

/-- How detailed the events are that a limit lets pass. -/
def detail : Option Level → Nat
  | none => 0
  | some l => l.rank

theorem listOf_levelText (limit : Option Level) :
    Directive.listOf (levelText limit).toList = [⟨[], .all, limit⟩] := by
  rcases limit with _ | _ | _ | _ | _ | _ <;> decide +kernel

theorem directives_levelText (limit : Option Level) (scopes : List Scope) :
    directives ⟨levelText limit, scopes⟩ =
      ⟨[], .all, limit⟩ :: (enabled ⟨levelText limit, scopes⟩).map Scope.directive := by
  rw [directives, given, listOf_levelText]
  rfl

/-- At most one of the scopes that are on has the topic. -/
theorem enabled_filter_topic (v : Verbosity) (topic : Topic) :
    (v.enabled.filter fun s => topic == .scope s) =
      match topic with
      | .scope s => if s ∈ v.scopes then [s] else []
      | _ => [] := by
  cases topic with
  | scope s =>
    have once : (Scope.all.filter fun other => Topic.scope s == .scope other) = [s] := by
      cases s <;> decide
    rw [enabled, List.filter_comm, once]
    simp [List.filter_cons]
  | _ => simp

theorem prevailing_directive (limit : Option Level) (s : Scope) :
    Directive.prevailing ⟨[], .all, limit⟩ s.directive = s.directive := by
  have shorter : Directive.yields ⟨[], .all, limit⟩ s.directive = true := by
    cases s <;> rfl
  rw [Directive.prevailing, if_pos shorter]

/-- A scope that is switched on takes the place of the general level. -/
theorem limitFor_directives (limit : Option Level) (scopes : List Scope) (e : Event) :
    Directive.limitFor (directives ⟨levelText limit, scopes⟩) e =
      if e.within scopes then some .debug else limit := by
  have general : Directive.concerns ⟨[], .all, limit⟩ e = true := by
    simp [Directive.concerns]
  have concerned : (directives ⟨levelText limit, scopes⟩).filter (·.concerns e) =
      ⟨[], .all, limit⟩ :: ((enabled ⟨levelText limit, scopes⟩).filter
        fun s => e.topic == .scope s).map Scope.directive := by
    simp only [directives_levelText, List.filter_cons, general, if_true, List.filter_map,
      Function.comp_def, Scope.concerns_directive]
  rw [Directive.limitFor, Directive.deciding?, concerned, enabled_filter_topic]
  cases topic : e.topic with
  | scope s =>
    by_cases on : s ∈ scopes
    · simp [Event.within, topic, on, prevailing_directive]
      rfl
    · simp [Event.within, topic, on]
  | _ => simp [Event.within, topic]

/-- An event is shown if its scope is on or the general level lets it pass. -/
theorem shows_levelText (limit : Option Level) (scopes : List Scope) (e : Event) :
    shows ⟨levelText limit, scopes⟩ e =
      (e.within scopes || decide (e.level.rank ≤ detail limit)) := by
  rw [shows, limitFor_directives]
  by_cases on : e.within scopes = true
  · simp [on, Event.level_of_within on]
  · rw [if_neg on, Bool.eq_false_of_not_eq_true on, Bool.false_or]
    cases limit with
    | none => cases e.level <;> rfl
    | some l => rfl

theorem shown_levelText (limit : Option Level) (scopes : List Scope) (journal : Journal) :
    journal.shown ⟨levelText limit, scopes⟩ =
      journal.events.filter fun e => e.within scopes || decide (e.level.rank ≤ detail limit) :=
  List.filter_congr fun e _ => shows_levelText limit scopes e

/-! ## More scopes -/

/-- A debug event on the topic of a scope that is in `more` and not in `scopes`. -/
def gains (scopes more : List Scope) (e : Event) : Bool :=
  e.level == .debug && more.any fun s => !scopes.contains s && e.topic == .scope s

theorem gains_eq (scopes more : List Scope) (e : Event) :
    gains scopes more e = (e.within more && !e.within scopes) := by
  rw [Bool.eq_iff_iff]
  simp only [gains, Bool.and_eq_true, beq_iff_eq, List.any_eq_true, Bool.not_eq_true',
    List.contains_eq_mem, decide_eq_true_eq, Bool.eq_false_iff, ne_eq, Event.within_iff]
  constructor
  · rintro ⟨-, s, hs, new, topic⟩
    refine ⟨⟨s, hs, topic⟩, ?_⟩
    rintro ⟨other, old, same⟩
    cases topic.symm.trans same
    exact new old
  · rintro ⟨⟨s, hs, topic⟩, old⟩
    exact ⟨Event.level_of_scope topic, s, hs, fun known => old ⟨s, known, topic⟩, topic⟩

/-- Switching scopes on adds to what is shown of a journal. Below debug exactly the debug events on the
topics of those scopes are added; from debug on there is nothing to add. -/
theorem shown_more_scopes (limit : Option Level) {scopes more : List Scope} (wider : scopes ⊆ more)
    (journal : Journal) :
    let before := journal.shown ⟨levelText limit, scopes⟩
    let after := journal.shown ⟨levelText limit, more⟩
    before.Sublist after ∧
      (detail limit < Level.debug.rank →
        before = after.filter (!gains scopes more ·) ∧
        after.filter (gains scopes more) = journal.events.filter (gains scopes more)) ∧
      (Level.debug.rank ≤ detail limit → before = after) := by
  have known (e : Event) : e.within scopes = true → e.within more = true := Event.within_mono wider
  have level (e : Event) : e.within more = true → e.level.rank = Level.debug.rank :=
    fun on => congrArg Level.rank (Event.level_of_within on)
  simp only [shown_levelText, List.filter_filter]
  refine ⟨List.monotone_filter_right _ fun e shown => ?_,
    fun below => ⟨List.filter_congr fun e _ => ?_, List.filter_congr fun e _ => ?_⟩,
    fun above => List.filter_congr fun e _ => ?_⟩
  · rw [Bool.or_eq_true] at shown ⊢
    exact shown.imp_left (known e)
  · -- what is gained is too detailed for the general level
    rw [gains_eq]
    by_cases on : e.within more = true
    · have hidden : ¬ e.level.rank ≤ detail limit := by
        rw [level e on]
        omega
      simp [on, hidden]
    · have old : e.within scopes = false := Bool.eq_false_of_not_eq_true fun old => on (known e old)
      simp [on, old]
  · rw [gains_eq]
    cases e.within more <;> simp
  · -- the general level lets everything pass that a scope does
    by_cases on : e.within more = true
    · have passed : e.level.rank ≤ detail limit := by
        rwa [level e on]
      simp [passed]
    · have old : e.within scopes = false := Bool.eq_false_of_not_eq_true fun old => on (known e old)
      simp [on, old]

/-- A start, a message of which every second send fails, and a reload that fails: the scope of the
received messages is switched on beside that of the rules. -/
theorem shown_more_scopes_forwarder :
    let rules : FileReader := fun _ => .ok "/a - 127.0.0.1:7001 127.0.0.1:7002/fx\n"
    let missing : FileReader := fun _ => .error "gone"
    let machine := Machine.offline []
    let wire : Wire Nat := fun n _ _ => (if n % 2 = 0 then .sent else .timedOut, n + 1)
    let heard : Arrival := .datagram "peer" (Osc.encode "/a/x" [.int 7])
    let journal := match Forwarder.start rules machine ⟨["rules"], 250, "127.0.0.1", [9000]⟩ with
      | (.error _, journal) => journal
      | (.ok f, journal) => journal ++ (f.addresses.flatMap fun address =>
          (f.receive address wire 0 heard).1) ++ (f.reload missing machine).2.2
    let before := journal.shown ⟨levelText (some .warn), [.rules]⟩
    let after := journal.shown ⟨levelText (some .warn), [.incoming, .rules]⟩
    let gained := gains [.rules] [.incoming, .rules]
    ([Scope.rules] ⊆ [.incoming, .rules] ∧ detail (some .warn) < Level.debug.rank) ∧
      before.Sublist after ∧ before = after.filter (!gained ·) ∧
      after.filter gained = journal.events.filter gained ∧
      before.map Event.message =
        ["Rule", "Forward failed", "Reload failed, keeping previous rules"] ∧
      after.map Event.message =
        ["Rule", "OSC in", "Forward failed", "Reload failed, keeping previous rules"] := by
  intro rules missing machine wire heard journal before after gained
  have wider : [Scope.rules] ⊆ [.incoming, .rules] := by decide
  have below : detail (some .warn) < Level.debug.rank := by decide
  obtain ⟨sublist, added, -⟩ := shown_more_scopes (some .warn) wider journal
  obtain ⟨kept, whole⟩ := added below
  exact ⟨⟨wider, below⟩, sublist, kept, whole, by decide +kernel, by decide +kernel⟩

end Verbosity

end Patchbay
