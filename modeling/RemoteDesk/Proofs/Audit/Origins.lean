import RemoteDesk.Compose
import RemoteDesk.Proofs.Audit.Encoding
import RemoteDesk.Proofs.Shell.Waiting

/-! # Where events come from

An event is read from a line, or it is built by the shell or for a composed task. Those that are
built carry only texts, rows of texts and a truth value, so all of them are sound, and so are those
that are read if there is no double in them. A sound event survives its encoding.
-/

namespace RemoteDesk

open Json

namespace Audit

/-- The details can be read back. -/
structure Deed.Sound (x : Deed) : Prop where
  fits : Fits Event.depth x.details
  whole : x.details.isWhole

theorem Deed.Sound.event {x : Deed} (h : x.Sound) {stamp : Stamp} (valid : stamp.time.Valid) :
    Event.Sound ⟨stamp, x⟩ :=
  ⟨valid, h.fits, h.whole⟩

theorem Transition.deed_sound (t : Transition) : t.deed.Sound := by
  cases t with
  | start index => exact ⟨.object .nil (by simp) (by decide), rfl⟩
  | discard index => exact ⟨.object .nil (by simp) (by decide), rfl⟩
  | credentials index computer username overwrite =>
      refine ⟨.ofFields ?_ (by decide), isWhole_ofFields ?_⟩
      · simp [Fits.string, Fits.bool]
      · simp [isWhole]
  | complete index subtasks =>
      refine ⟨.ofFields ?_ (by decide), isWhole_ofFields ?_⟩
      · simp [Fits.ofStrings]
      · simp [isWhole_ofStrings]

end Audit

namespace Shell

open Audit Desk

theorem subtaskDeed_sound (id : String) (source : Path) : (subtaskDeed id source).Sound := by
  refine ⟨.ofFields ?_ (by decide), isWhole_ofFields ?_⟩
  · simp [Fits.string]
  · simp [isWhole]

/-- What the shell hands to the log can be read back, and is stamped as its desk stamps. -/
structure Stamped (d : Desk) (p : Desk × Deed) : Prop where
  stamp : p.1.stamp = d.stamp
  sound : p.2.Sound

theorem announcements_stamped (source : Path) (d : Desk) (ids : List String) :
    ∀ p ∈ announcements source d ids, Stamped d p := by
  induction ids generalizing d with
  | nil => simp [announcements]
  | cons id rest ih =>
      have alike := ((announceSubtask_talk id source).told.leads d).alike
      unfold announcements
      intro p member
      rcases List.mem_cons.mp member with rfl | later
      · exact ⟨rfl, subtaskDeed_sound id source⟩
      · rcases told : (announceSubtask id source).on d with ⟨e | ⟨⟩, d'⟩ <;>
          rw [told] at alike later
        · cases later
        · have stamped := ih d' p later
          exact ⟨stamped.stamp.trans alike.stamp, stamped.sound⟩

theorem handed_stamped (d : Desk) (command : Command) : ∀ p ∈ handed d command, Stamped d p := by
  intro p member
  unfold handed at member
  split at member
  · next id path =>
      split at member
      · obtain rfl := List.mem_singleton.mp member
        exact ⟨rfl, subtaskDeed_sound id (Path.ofString path)⟩
      · cases member
  · next directory =>
      split at member
      · next ids registry _ =>
          have stamped := announcements_stamped (Path.ofString directory) { d with registry } ids p
            member
          exact ⟨stamped.stamp, stamped.sound⟩
      · cases member
  · obtain ⟨t, -, rfl⟩ := List.mem_map.mp member
    exact ⟨rfl, t.deed_sound⟩

/-- What a run hands to the log, and what the log takes of it, is sound if the stamps are. -/
theorem rounds_sound {d : Desk} (valid : d.stamp.time.Valid) (readings : List Reading) :
    ∀ x ∈ rounds d readings, ∀ p ∈ x.handed, Event.Sound ⟨p.1.stamp, p.2⟩ := by
  intro x member p within
  have stamp : x.before.stamp = d.stamp := by
    obtain ⟨past, later, split⟩ := List.append_of_mem member
    obtain ⟨heardSoFar, -, before⟩ := rounds_split split
    rw [before]
    exact (setting_stand d heardSoFar).stamp
  unfold Round.handed at within
  cases brings : x.reading.command? with
  | none =>
      rw [brings] at within
      cases within
  | some command =>
      rw [brings] at within
      have stamped := handed_stamped x.before command p within
      rw [← stamp, ← stamped.stamp] at valid
      exact stamped.sound.event valid

/-- The events that reach the log are of those that are handed to it. -/
theorem mem_recorded_stand {d : Desk} (coherent : d.session.Coherent) {readings : List Reading}
    {e : Event} (h : e ∈ (stand d readings).recorded) :
    e ∈ d.recorded ∨ ∃ x ∈ rounds d readings, ∃ p ∈ x.handed, e = ⟨p.1.stamp, p.2⟩ := by
  induction readings generalizing d with
  | nil => exact .inl h
  | cons r rest ih =>
      have onward := (turn_leads d r).effect.coherent coherent
      rcases ih (d := next d r) onward h with earlier | ⟨x, later, handed⟩
      · rw [recorded_next coherent] at earlier
        rcases List.mem_append.mp earlier with before | now
        · exact .inl before
        · obtain ⟨p, heeded, rfl⟩ := List.mem_map.mp now
          exact .inr ⟨⟨d, r⟩, List.mem_cons_self .., p, List.mem_of_mem_filter heeded, rfl⟩
      · exact .inr ⟨x, List.mem_cons_of_mem _ later, handed⟩

theorem recorded_sound (config : Config) (color : Bool) (tree : FileTree)
    (faults : List (Option DiskFault)) (operator : Operator) (sink : Sink) {stamp : Stamp}
    (valid : stamp.time.Valid) (readings : List Reading) :
    ∀ e ∈ (run (opened config color tree faults operator sink stamp) readings).desk.recorded,
      e.Sound := by
  intro e member
  generalize opening : opened config color tree faults operator sink stamp = start at member
  have echoed := introduced_echoed start
  have coherent : (introduced start).session.Coherent := by
    rw [echoed.alike.session, ← opening]
    exact .new
  have stamped : (introduced start).stamp.time.Valid := by
    rw [echoed.alike.stamp, ← opening]
    exact valid
  rw [(run_desk start readings).recorded] at member
  rcases mem_recorded_stand coherent member with before | ⟨x, done, p, handed, rfl⟩
  · rw [echoed.recorded, ← opening] at before
    cases before
  · exact rounds_sound stamped _ x done p handed

end Shell

theorem ComposeRequest.deed_sound (task : CompletedTask) : (ComposeRequest.deed task).Sound := by
  refine ⟨.ofFields ?_ (by decide), isWhole_ofFields ?_⟩
  · simp [Fits.ofStrings, Fits.string]
  · simp [isWhole_ofStrings, isWhole]

namespace Audit

open Shell Desk

/-- The line of an event is one line, and it is read as the event. -/
structure Event.Survives (e : Event) : Prop where
  oneLine : ∀ c ∈ e.line.toList, c ≠ '\n' ∧ c ≠ '\r'
  read : Event.parse e.line = some e

theorem Event.Sound.survives {e : Event} (h : e.Sound) : e.Survives :=
  ⟨fun c member => not_break (e.clean_line c member), h.parse_line⟩

/-- A line as it would be written anew. -/
def canonical? (text : String) : Option String :=
  (Event.parse text).map Event.line

/-- Events survive their encoding: those that are read from a line, if there is no double in their
    details, and all that the shell and composition build. A line that is written anew is of one form,
    which it keeps. -/
theorem events_survive_encoding :
    (∀ text e, Event.parse text = some e → e.deed.details.isWhole →
      e.Survives ∧ canonical? text = some e.line ∧ canonical? e.line = some e.line) ∧
    (∀ (config : Config) (color : Bool) (tree : FileTree) (faults : List (Option DiskFault))
      (operator : Operator) (sink : Sink) (stamp : Stamp) (readings : List Reading),
      stamp.time.Valid →
      let start := opened config color tree faults operator sink stamp
      (∀ x ∈ rounds (introduced start) readings, ∀ p ∈ x.handed,
        Event.Survives ⟨p.1.stamp, p.2⟩) ∧
      ∀ e ∈ (run start readings).desk.recorded, e.Survives) ∧
    ∀ (r : ComposeRequest) (config : Config) (tree : FileTree) (stamp : Stamp)
      (task : CompletedTask), stamp.time.Valid → r.compose config tree = .ok task →
      Event.Survives ⟨stamp, ComposeRequest.deed task⟩ := by
  refine ⟨?_, ?_, ?_⟩
  · intro text e read whole
    have survives := (Event.sound_of_parse read whole).survives
    refine ⟨survives, ?_, ?_⟩
    · rw [canonical?, read, Option.map_some]
    · rw [canonical?, survives.read, Option.map_some]
  · intro config color tree faults operator sink stamp readings valid start
    constructor
    · intro x done p handed
      have same := (introduced_echoed start).alike.stamp
      have stamped : (introduced start).stamp.time.Valid := by
        rw [same]
        exact valid
      exact (rounds_sound stamped readings x done p handed).survives
    · intro e recorded
      have sound := recorded_sound config color tree faults operator sink valid readings e recorded
      exact sound.survives
  · intro r config tree stamp task valid _
    exact ((ComposeRequest.deed_sound task).event valid).survives

/-- A line whose fields are in another order, with one that is not known, an action as an object,
    escapes and a leap second of the day before; a shell where a task is started; and a composed
    task. -/
theorem events_survive_encoding_of_three :
    ∃ text e config start request task,
      text = "\x7b\"details\":\x7b\"b\":[1,null,-3],\"a\":\"\\u00e9\\n\"\x7d,\"more\":1e5," ++
        "\"task\":null,\"actor\":\"me\",\"action\":\x7b\"start\":null\x7d," ++
        "\"ts\":\"2024-03-01T00:59:60.5+01:00\"\x7d" ∧
      Event.parse text = some e ∧ e.stamp = ⟨⟨19782, 86399, 1500000000⟩, "me"⟩ ∧
      e.line = "\x7b\"ts\":\"2024-02-29T23:59:60.500Z\",\"action\":\"start\",\"actor\":\"me\"," ++
        "\"details\":\x7b\"a\":\"é\\n\",\"b\":[1,null,-3]\x7d\x7d" ∧
      e.Survives ∧ canonical? e.line = some e.line ∧
      config = { Config.default with eventsFile := some "log" } ∧
      start = opened config false ⟨[], []⟩ [] .unreachable .unlimited ⟨⟨0, 0, 0⟩, "me"⟩ ∧
      (run start [.line "new"]).desk.recorded.length = 1 ∧
      (∀ e ∈ (run start [.line "new"]).desk.recorded, e.Survives) ∧
      request = { ComposeRequest.empty with computer := some "host" } ∧
      request.compose config ⟨[], []⟩ = .ok task ∧
      Event.Survives ⟨⟨⟨0, 0, 0⟩, "me"⟩, ComposeRequest.deed task⟩ := by
  obtain ⟨text, written⟩ : ∃ text, text =
      "\x7b\"details\":\x7b\"b\":[1,null,-3],\"a\":\"\\u00e9\\n\"\x7d,\"more\":1e5," ++
        "\"task\":null,\"actor\":\"me\",\"action\":\x7b\"start\":null\x7d," ++
        "\"ts\":\"2024-03-01T00:59:60.5+01:00\"\x7d" := ⟨_, rfl⟩
  obtain ⟨config, settings⟩ : ∃ c, c = { Config.default with eventsFile := some "log" } := ⟨_, rfl⟩
  obtain ⟨start, opening⟩ : ∃ d, d = opened config false ⟨[], []⟩ [] .unreachable .unlimited
      ⟨⟨0, 0, 0⟩, "me"⟩ := ⟨_, rfl⟩
  obtain ⟨request, wishes⟩ : ∃ r, r = { ComposeRequest.empty with computer := some "host" } :=
    ⟨_, rfl⟩
  have reads : (Event.parse text).map (fun e => (e.stamp, e.line, e.deed.details.isWhole)) =
      some (⟨⟨19782, 86399, 1500000000⟩, "me"⟩,
        "\x7b\"ts\":\"2024-02-29T23:59:60.500Z\",\"action\":\"start\",\"actor\":\"me\"," ++
          "\"details\":\x7b\"a\":\"é\\n\",\"b\":[1,null,-3]\x7d\x7d", true) := by
    rw [written]
    decide +kernel
  have composes : (request.compose config ⟨[], []⟩).toOption.isSome := by
    rw [wishes, settings]
    decide +kernel
  have valid : Timestamp.Valid ⟨0, 0, 0⟩ := ⟨by decide, by decide, by decide, by decide⟩
  obtain ⟨e, read, same⟩ := Option.map_eq_some_iff.mp reads
  obtain ⟨stamp, line, whole⟩ : e.stamp = _ ∧ e.line = _ ∧ e.deed.details.isWhole = _ := by
    simpa only [Prod.mk.injEq] using same
  obtain ⟨survives, -, again⟩ := events_survive_encoding.1 text e read whole
  obtain ⟨-, recorded⟩ := events_survive_encoding.2.1 config false ⟨[], []⟩ [] .unreachable
    .unlimited ⟨⟨0, 0, 0⟩, "me"⟩ [.line "new"] valid
  cases composed : request.compose config ⟨[], []⟩ with
  | error cause =>
      rw [composed] at composes
      cases composes
  | ok task =>
      refine ⟨text, e, config, start, request, task, written, read, stamp, line, survives, again,
        settings, opening, ?_, ?_, wishes, composed, ?_⟩
      · rw [opening, settings]
        decide +kernel
      · rw [opening]
        exact recorded
      · exact events_survive_encoding.2.2 request config ⟨[], []⟩ ⟨⟨0, 0, 0⟩, "me"⟩ task valid
          composed

end Audit

end RemoteDesk
