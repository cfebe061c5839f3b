import RemoteDesk.Proofs.Shell.Rounds

/-! # What the output refuses changes nothing else

No action looks at the output. A change that comes before all talk is the same whatever the output
does, and without an audit log talk changes nothing but the output. So two runs on the same files
whose outputs differ stay beside each other: all they can differ in is what was said, and whether a
line that was carried out could be answered.
-/

namespace RemoteDesk

namespace Desk

/-- Desks without an audit log that differ in their output at most, and the second output refuses
    nothing. -/
structure Beside (d d' : Desk) : Prop where
  same : d' = { d with sink := d'.sink }
  unlogged : d.config.eventsFile = none
  accepts : d'.sink.Accepts

/-- The two answers are the same, or the first is a failure of files or output where the second is
    none. -/
def Excused {α : Type} (first second : Except DeskError α) : Prop :=
  first = second ∨ ∃ e x, e.kind = .io ∧ first = .error e ∧ second = .ok x

theorem Beside.echoed {d₁ d₂ d₁' d₂' : Desk} (h : Beside d₁ d₂) (first : d₁.Echoed d₁')
    (second : d₂.Echoed d₂') : Beside d₁' d₂' := by
  have accepts := Frame.accepts second h.accepts
  obtain ⟨sink₁, -, rfl⟩ := first
  obtain ⟨sink₂, -, rfl⟩ := second
  refine ⟨?_, h.unlogged, accepts⟩
  rw [h.same]

namespace Action

variable {α β : Type}

/-- What an action does and answers without saying anything, and without looking at the output. -/
def Mute (a : Action α) : Prop :=
  ∀ d : Desk, d.config.eventsFile = none →
    (a.on d).2.config = d.config ∧
    ∀ sink, a.on { d with sink } = ((a.on d).1, { (a.on d).2 with sink })

/-- From desks beside each other an action leads to desks beside each other. -/
def Deaf (a : Action α) : Prop :=
  ∀ d d', Beside d d' → Beside (a.on d).2 (a.on d').2 ∧ Excused (a.on d).1 (a.on d').1

theorem Mute.record (deed : Audit.Deed) : Mute (record deed) := by
  intro d unlogged
  have still (d : Desk) (unlogged : d.config.eventsFile = none) : d.record deed = d := by
    rw [Desk.record, unlogged]
  simp only [on_record, still d unlogged, true_and]
  intro sink
  rw [still { d with sink } unlogged]

theorem Deaf.of_talk {a : Action Unit} (talk : Talk true a) : Deaf a := by
  intro d d' beside
  have unlogged' : d'.config.eventsFile = none := by
    rw [beside.same]
    exact beside.unlogged
  refine ⟨beside.echoed (talk.echoed fun _ => beside.unlogged) (talk.echoed fun _ => unlogged'), ?_⟩
  obtain ⟨x, done⟩ := talk.told.done d' beside.accepts
  rw [done]
  cases answered : (a.on d).1 with
  | ok y => exact .inl rfl
  | error e => exact .inr ⟨e, x, talk.kind_of_error answered, rfl, rfl⟩

theorem Deaf.after {a : Action α} {f : α → Action β} (mute : Mute a) (rest : ∀ x, Deaf (f x)) :
    Deaf (a >>= f) := by
  intro d d' beside
  obtain ⟨config, moved⟩ := mute d beside.unlogged
  have second := moved d'.sink
  rw [← beside.same] at second
  have onward : Beside (a.on d).2 { (a.on d).2 with sink := d'.sink } :=
    ⟨rfl, config ▸ beside.unlogged, beside.accepts⟩
  rcases answered : a.on d with ⟨e | x, d₁⟩ <;> rw [answered] at second onward
  · rw [on_bind_error answered, on_bind_error second]
    exact ⟨onward, .inl rfl⟩
  · rw [on_bind_ok answered, on_bind_ok second]
    exact rest x _ _ onward

theorem Deaf.of_speaks {f : Desk → Except DeskError α × Desk} {a : Action Unit}
    (speaks : Speaks f a) (mute : Mute (.of f)) : Deaf a := by
  obtain ⟨talk, talks, rfl⟩ := speaks
  exact .after mute fun x => .of_talk (talks x)

end Action

end Desk

namespace Shell

open Desk Desk.Action

theorem turnIn_mute : Mute (.of turnIn) := by
  intro d _
  rcases d.session.complete_cases d.registry d.store d.config.escapeCredentials with
    ⟨index, -, -, accepted⟩ | ⟨-, refused⟩
  · simp [on_of, turnIn, accepted]
  · simp [on_of, turnIn, refused]

theorem change_sink {α : Type} (d : Desk) (sink : Sink)
    (f : FileTree → Except DeskError α × FileTree) :
    ({ d with sink } : Desk).change f = ((d.change f).1, { (d.change f).2 with sink }) := by
  unfold change
  rcases d.faults with _ | ⟨_ | fault, later⟩ <;> rfl

theorem writeScript_mute (key : String) : Mute (writeScript key) := by
  intro d _
  obtain ⟨tree, faults, written, same⟩ := writeScript_frame d key
  refine ⟨by rw [same], fun sink => ?_⟩
  simp only [writeScript, on_of]
  cases d.config.outputDirectory with
  | none => rfl
  | some directory =>
      simp only [change_sink]
      rcases d.change _ with ⟨_ | _ | path, d'⟩ <;> rfl

theorem completeTask_deaf : Deaf completeTask := by
  rw [completeTask_eq]
  refine .after turnIn_mute fun task => .after (.record _) fun _ => .after (writeScript_mute _) ?_
  exact fun path => .of_talk (closing_talk task path)

theorem startTask_deaf : Deaf startTask :=
  .of_speaks startTask_speaks fun _ _ => ⟨rfl, fun _ => rfl⟩

theorem discardTask_deaf : Deaf discardTask :=
  .of_speaks discardTask_speaks fun _ _ => ⟨rfl, fun _ => rfl⟩

theorem captureCredentials_deaf : Deaf captureCredentials :=
  .of_speaks captureCredentials_speaks fun _ _ => ⟨rfl, fun _ => rfl⟩

theorem addSubtask_deaf (id : String) (path : Path) : Deaf (addSubtask id path) := by
  refine .of_speaks (addSubtask_speaks id path) fun d _ => ?_
  simp only [on_of]
  cases d.registry.loadFile d.tree id path <;> exact ⟨rfl, fun _ => rfl⟩

theorem addDirectory_deaf (directory : Path) : Deaf (addDirectory directory) :=
  .of_speaks (addDirectory_speaks directory) fun _ _ => ⟨rfl, fun _ => rfl⟩

theorem deaf_then {a : Action Unit} (h : Deaf a) (flow : Flow) :
    Deaf (do a; return flow : Action Flow) := by
  intro d d' beside
  obtain ⟨onward, excused⟩ := h d d' beside
  simp only [on_then]
  refine ⟨onward, ?_⟩
  rcases excused with same | ⟨e, x, kind, failed, done⟩
  · rw [same]
    exact .inl rfl
  · rw [failed, done]
    exact .inr ⟨e, flow, kind, rfl, rfl⟩

theorem execute_deaf (command : Command) : Deaf (execute command) := by
  cases command with
  | exit => exact fun d d' beside => ⟨beside, .inl rfl⟩
  | new => exact deaf_then startTask_deaf .goOn
  | credentials => exact deaf_then captureCredentials_deaf .goOn
  | showCredentials => exact deaf_then (.of_talk showCredentials_talk) .goOn
  | subtask id path => exact deaf_then (addSubtask_deaf id (Path.ofString path)) .goOn
  | subtaskDir directory => exact deaf_then (addDirectory_deaf (Path.ofString directory)) .goOn
  | assigned => exact deaf_then (.of_talk listSubtasks_talk) .goOn
  | complete => exact deaf_then completeTask_deaf .goOn
  | discard => exact deaf_then discardTask_deaf .goOn
  | tasks => exact deaf_then (.of_talk listTasks_talk) .goOn
  | help => exact deaf_then (.of_talk (.emit _)) .goOn
  | unknown word => exact deaf_then (.of_talk (.emitPainted _ _)) .goOn

theorem handleLine_deaf (line : String) : Deaf (handleLine line) := by
  refine .after (fun d _ => ⟨rfl, fun _ => rfl⟩) fun command => ?_
  cases command with
  | some command => exact execute_deaf command
  | none => exact fun d d' beside => ⟨beside, .inl rfl⟩

/-- The desk after a row of lines, whatever becomes of each. -/
def handled (d : Desk) (lines : List String) : Desk :=
  lines.foldl (fun d line => ((handleLine line).on d).2) d

theorem beside_handled {d d' : Desk} (beside : Beside d d') (lines : List String) :
    Beside (handled d lines) (handled d' lines) := by
  induction lines generalizing d d' with
  | nil => exact beside
  | cons line rest ih => exact ih (handleLine_deaf line d d' beside).1

/-- Without an audit log, lines lead to the same desk whatever the output refuses, up to what the
    output has taken in. The next line is answered as where the output refuses nothing, or it is
    answered there and fails here with an error of the output. -/
theorem refused_output_changes_nothing (config : Config) (color : Bool) (tree : FileTree)
    (faults : List (Option DiskFault)) (operator : Operator) (stamp : Audit.Stamp)
    (unlogged : config.eventsFile = none) (sink sink' : Sink) (accepts : sink'.Accepts)
    (lines : List String) :
    let d := handled (opened config color tree faults operator sink stamp) lines
    let d' := handled (opened config color tree faults operator sink' stamp) lines
    d' = { d with sink := d'.sink } ∧
    ∀ line, Excused ((handleLine line).on d).1 ((handleLine line).on d').1 := by
  intro d d'
  have start : Beside (opened config color tree faults operator sink stamp)
      (opened config color tree faults operator sink' stamp) := ⟨rfl, unlogged, accepts⟩
  have beside : Beside d d' := beside_handled start lines
  exact ⟨beside.same, fun line => (handleLine_deaf line d d' beside).2⟩

/-- The output takes in nothing, and the script is written all the same. -/
theorem refused_output_changes_nothing_when_full :
    ∃ config d d',
      config = { Config.default with outputDirectory := some "out" } ∧
      d = handled (opened config false ⟨[], []⟩ []
        (.scripted [.ok "host", .ok "user", .ok "word"] []) (.limited 0) ⟨⟨0, 0, 0⟩, "me"⟩)
        ["new", "credentials", "complete"] ∧
      d.sink.taken = "" ∧ d.sink.tried ≠ 0 ∧ d.written = ["RemoteDesktop_1"] ∧
      d' = { d with sink := d'.sink } ∧ d'.sink.taken ≠ "" ∧
      ((handleLine "tasks").on d).1 = .error (.output "sink full") ∧
      Excused ((handleLine "tasks").on d).1 ((handleLine "tasks").on d').1 := by
  obtain ⟨config, settings⟩ : ∃ c, c = { Config.default with outputDirectory := some "out" } :=
    ⟨_, rfl⟩
  obtain ⟨operator, answers⟩ : ∃ o, o = Operator.scripted [.ok "host", .ok "user", .ok "word"] [] :=
    ⟨_, rfl⟩
  obtain ⟨lines, typed⟩ : ∃ l, l = ["new", "credentials", "complete"] := ⟨_, rfl⟩
  obtain ⟨same, excused⟩ := refused_output_changes_nothing config false ⟨[], []⟩ [] operator
    ⟨⟨0, 0, 0⟩, "me"⟩ (by rw [settings]; rfl) (.limited 0) .unlimited (fun _ _ _ => rfl) lines
  refine ⟨config, _, _, settings, by rw [answers, typed], ?_, ?_, ?_, same, ?_, ?_,
    excused "tasks"⟩
  all_goals
    rw [settings, answers, typed]
    decide +kernel

end Shell

end RemoteDesk
