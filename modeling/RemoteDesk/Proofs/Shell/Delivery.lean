import RemoteDesk.Proofs.FileTree.Replace
import RemoteDesk.Proofs.Shell.Ledger

/-! # No finished script is lost

A finished script leaves a run in one of two ways: its own command makes it the content of its file,
or the shell prints it at the end. Which of the two it is depends on the command alone: whether
scripts shall be written at all, and whether the disk took this one. Errors of other lines, disk
failures and refused audit events change nothing about that, and neither does the way in which the
input ends.
-/

namespace RemoteDesk.Shell

open Desk Desk.Action

/-- The command of the round made the script the whole content of its file, in one step; reading the
    file then gives the script. -/
def Round.Writes (x : Round) (config : Config) (v : Delivery) : Prop :=
  ∃ task directory path, x.task? = some task ∧ task.script = v.script ∧
    config.outputDirectory = some directory ∧
    path = Store.scriptPath (Path.ofString directory) v.script.key config.scriptExtension ∧
    v.path = some path ∧
    (finished x.before task).tree.replace path (Utf8.encode v.script.text) =
      (.ok (), x.after.tree) ∧
    x.after.tree.readText path = .ok v.script.text

/-- The script was not to be written, or the command of the round failed to write it. -/
def Round.Withholds (x : Round) (config : Config) (v : Delivery) : Prop :=
  v.path = none ∧
    (config.outputDirectory = none ∨
      ∃ task e, x.task? = some task ∧ task.script = v.script ∧
        ((writeScript task.script.key).on (finished x.before task)).1 = .error e)

theorem Round.writes_or_withholds {x : Round} {v : Delivery} (h : x.delivery? = some v) :
    x.Writes x.before.config v ∨ x.Withholds x.before.config v := by
  obtain ⟨task, made, rfl⟩ := Option.map_eq_some_iff.mp h
  have effect := (turn_leads x.before x.reading).effect
  rw [show Shell.task? x.before x.reading = some task from made] at effect
  obtain ⟨sink, -, same⟩ : Desk.Echoed _ x.after := by
    cases effect with
    | completes task completed echoed => exact echoed
  have config : (finished x.before task).config = x.before.config :=
    (finished_alike x.before task).config
  unfold Round.Writes Round.Withholds file?
  rcases writeScript_cases (finished_get? x.before task) with
    ⟨unset, still⟩ | ⟨directory, set, ⟨tree, replaced, written⟩ | ⟨e, tree, faults, failed, -⟩⟩
  · rw [config] at unset
    exact .inr ⟨by rw [still], .inl unset⟩
  · rw [config] at set replaced
    rw [written] at same
    have stands : (finished x.before task).tree.replace
        (Store.scriptPath (Path.ofString directory) task.script.key x.before.config.scriptExtension)
        (Utf8.encode task.script.text) = (.ok (), x.after.tree) := by
      rw [replaced, same]
    refine .inl ⟨task, directory, _, made, rfl, set, rfl, ?_, stands,
      FileTree.readText_of_replaced stands⟩
    rw [written, config]
  · exact .inr ⟨by rw [failed], .inr ⟨task, e, made, rfl, by rw [failed]⟩⟩

/-- When the output refuses nothing, a run comes to its end, and it comes to every reading up to the
    one that closes it. Each script of a completed task is then either the content of the file that
    its own command wrote, or, where no two tasks had the same key, printed at the end: the last
    output is these scripts in the order of completion. -/
theorem run_delivers_every_script (config : Config) (color : Bool) (tree : FileTree)
    (faults : List (Option DiskFault)) (operator : Operator) (sink : Sink) (stamp : Audit.Stamp)
    (readings : List Reading) (accepts : sink.Accepts) :
    let start := opened config color tree faults operator sink stamp
    let done := rounds (introduced start) (heard readings)
    let last := stand (introduced start) (heard readings)
    let t := run start readings
    t.result = .ok () ∧
    t.exchanges.map (·.reading) = heard readings ∧
    t.unread = unheard readings ∧
    t.desk = (finish.on last).2 ∧
    (∀ x ∈ done, ∀ v, x.delivery? = some v → x.Writes config v ∨ x.Withholds config v) ∧
    (((deliveries done).map (·.script.key)).Nodup →
      t.desk.sink.taken = last.sink.taken ++
        String.join (((deliveries done).filter (·.path.isNone)).map (·.script.text))) := by
  intro start done last t
  have echoed := introduced_echoed start
  obtain ⟨result, exchanges, unread, desk⟩ := run_of_accepts (d := start) accepts readings
  refine ⟨result, exchanges, unread, desk, ?_, ?_⟩
  · intro x member v delivered
    have same : x.before.config = config :=
      (config_of_rounds member).trans echoed.alike.config
    rw [← same]
    exact x.writes_or_withholds delivered
  · intro nodup
    have ledger : Ledger done last :=
      ledger_of_rounds echoed.alike.store echoed.alike.written (heard readings)
    have onward : last.sink.Accepts :=
      accepts_of_refusal ((setting_stand _ _).refusal.trans echoed.alike.refusal) accepts
    rw [desk, taken_finish onward, ledger.pending nodup]

/-- Two tasks whose scripts shall be written, where the disk breaks off the first writing. -/
theorem run_delivers_every_script_of_two :
    ∃ config faults operator readings,
      config = { Config.default with outputDirectory := some "out" } ∧
      faults = [some ⟨"disk full", ⟨[], []⟩⟩] ∧
      operator = Operator.scripted
        [.ok "host", .ok "user", .ok "word", .ok "host", .ok "other", .ok "word"] [] ∧
      readings = [.line "new", .line "credentials", .line "complete", .line "new",
        .line "credentials", .line "complete", .line "exit", .line "new"] ∧
      let start := opened config false ⟨[], []⟩ faults operator .unlimited ⟨⟨0, 0, 0⟩, "me"⟩
      let done := rounds (introduced start) (heard readings)
      let last := stand (introduced start) (heard readings)
      (deliveries done).map (·.script.key) = ["RemoteDesktop_1", "RemoteDesktop_2"] ∧
      (run start readings).result = .ok () ∧
      (run start readings).unread = [.line "new"] ∧
      (run start readings).desk.sink.taken = last.sink.taken ++
        String.join (((deliveries done).filter (·.path.isNone)).map (·.script.text)) := by
  -- The values are named before anything is said about them: with the values in sight the run would
  -- be carried out each time that two desks are compared.
  obtain ⟨config, settings⟩ : ∃ c, c = { Config.default with outputDirectory := some "out" } :=
    ⟨_, rfl⟩
  obtain ⟨faults, broken⟩ : ∃ f, f = [some (DiskFault.mk "disk full" ⟨[], []⟩)] := ⟨_, rfl⟩
  obtain ⟨operator, answers⟩ : ∃ o, o = Operator.scripted
      [.ok "host", .ok "user", .ok "word", .ok "host", .ok "other", .ok "word"] [] := ⟨_, rfl⟩
  obtain ⟨readings, typed⟩ : ∃ r : List Reading, r = [.line "new", .line "credentials",
      .line "complete", .line "new", .line "credentials", .line "complete", .line "exit",
      .line "new"] := ⟨_, rfl⟩
  have keys : (deliveries (rounds (introduced (opened config false ⟨[], []⟩ faults operator
      .unlimited ⟨⟨0, 0, 0⟩, "me"⟩)) (heard readings))).map (·.script.key) =
        ["RemoteDesktop_1", "RemoteDesktop_2"] := by
    rw [settings, broken, answers, typed]
    decide +kernel
  have ignored : unheard readings = [.line "new"] := by
    rw [typed]
    decide +kernel
  obtain ⟨result, -, unread, -, -, printed⟩ := run_delivers_every_script config false ⟨[], []⟩
    faults operator .unlimited ⟨⟨0, 0, 0⟩, "me"⟩ readings (fun _ _ _ => rfl)
  exact ⟨config, faults, operator, readings, settings, broken, answers, typed, keys, result,
    unread.trans ignored, printed (by rw [keys]; decide)⟩

end RemoteDesk.Shell
