import RemoteDesk.Proofs.Session.Questions
import RemoteDesk.Proofs.Workbench

/-! # Refused steps

A step that says no has done nothing: the session, the counter, the waiting subtasks and the sink are
what they were. For a capture this holds wherever its questions stopped, because answers are kept
only once there are three of them.
-/

namespace RemoteDesk.Workbench

variable {σ : Type}

/-- The answers of steps that were refused, that failed, or that kept what is stored. -/
def Answer.declines : Answer → Bool
  | .started (.error _) | .captured (.error _) | .captured (.ok .kept) => true
  | .completed (.error _) | .discarded (.error _) | .inserted (.error _) => true
  | _ => false

theorem keep_of_declines {w : Workbench σ} {inserted : Except DeskError Registry}
    (no : (w.keep inserted).1.declines) : (w.keep inserted).2 = w := by
  cases inserted with
  | error e => rfl
  | ok registry => cases no

variable [TaskSink σ]

theorem perform_of_declines {w : Workbench σ} {step : Step}
    (no : (w.perform step).1.declines) : (w.perform step).2 = w := by
  cases step with
  | start =>
      rcases w.session.start_cases w.counter with ⟨index, -, refused⟩ | ⟨-, accepted⟩
      · simp [perform, refused]
      · simp [perform, accepted, Answer.declines] at no
  | capture operator =>
      rcases w.session.capture_cases operator with
        ⟨e, o, failed⟩ | ⟨o, kept⟩ | ⟨c, o, -, -, stored⟩
      · simp [perform, failed]
      · simp [perform, kept]
      · simp only [perform, stored, Session.storing] at no
        cases assigned : w.session.assigned <;> simp [assigned, Answer.declines] at no
  | complete escaped =>
      rcases w.session.complete_cases w.registry w.sink escaped with
        ⟨index, -, -, accepted⟩ | ⟨-, refused⟩
      · simp [perform, accepted, Answer.declines] at no
      · simp [perform, refused]
  | discard =>
      rcases w.session.discard_cases with ⟨index, -, accepted⟩ | ⟨-, refused⟩
      · simp [perform, accepted, Answer.declines] at no
      · simp [perform, refused]
  | insert id fragment => exact keep_of_declines no
  | loadFile tree id path => exact keep_of_declines no
  | showCredentials | render | advance => cases no

/-- The questions that a capture has before it, whether or not it comes to them. -/
theorem names_questions (s : Session) (o : Operator) :
    (s.questions o).map (·.1) =
      (if s.assigned then [Session.overwriteQuestion] else []) ++
        [Session.computerQuestion, Session.usernameQuestion, Session.passwordQuestion] := by
  unfold Session.questions
  cases s.assigned <;> rfl

/-- A step that says no leaves the whole workbench as it was. A capture asks a first part of its
    questions: none without a task, and otherwise each one whose predecessors all had good answers,
    where a declined overwriting is no good answer. It stores the credentials that are its three
    answers if all of them are given and overwriting, if asked about, is confirmed. -/
theorem declined_changes_nothing (w : Workbench σ) :
    (∀ step, (w.perform step).1.declines → (w.perform step).2 = w) ∧
    ∀ o, ∃ asked,
      let s := w.session
      (s.capture o).2.2.asked = o.asked ++ asked ∧
      asked <+: (if s.assigned then [Session.overwriteQuestion] else []) ++
        [Session.computerQuestion, Session.usernameQuestion, Session.passwordQuestion] ∧
      (s.isActive = false → asked = []) ∧
      (s.isActive → ∀ n, n < asked.length ↔
        n < (s.questions o).length ∧ ∀ earlier ∈ (s.questions o).take n, earlier.2 = true) ∧
      ∀ c, s.Stores o c ↔
        s.isActive ∧ (s.assigned → o.consent = .ok true) ∧
          o.reply 0 = .ok c.computer ∧ o.reply 1 = .ok c.username ∧ o.reply 2 = .ok c.password := by
  refine ⟨fun step => perform_of_declines, fun o => ?_⟩
  refine ⟨_, Session.asked_capture w.session o, ?_, ?_, ?_, ?_⟩
  · rw [← names_questions w.session o]
    split
    · exact Session.put_prefix _
    · exact List.nil_prefix
  · intro inactive
    rw [inactive]
    rfl
  · intro active n
    rw [if_pos active]
    exact Session.lt_length_put
  · intro c
    rw [Session.stores_iff, Session.gives_iff]

/-- An overwriting that is confirmed and then fails at the second value. -/
theorem declined_changes_nothing_midway :
    let answering := Operator.scripted [.ok "host", .ok "user", .ok "word"] []
    let failing := Operator.scripted [.ok "other"] [.ok true]
    let bench : Workbench Store :=
      ⟨((Session.new.start ⟨7⟩).2.capture answering).2.1, ⟨7⟩, .empty, .empty⟩
    (bench.perform (.capture failing)).1.declines ∧ (bench.perform (.capture failing)).2 = bench ∧
      (bench.session.capture failing).2.2.asked =
        [Session.overwriteQuestion, Session.computerQuestion, Session.usernameQuestion] ∧
      ∀ c, ¬ bench.session.Stores failing c := by
  intro answering failing bench
  obtain ⟨kept, capture⟩ := declined_changes_nothing bench
  obtain ⟨asked, -, -, -, -, stores⟩ := capture failing
  have no : (bench.perform (.capture failing)).1.declines := rfl
  refine ⟨no, kept _ no, rfl, ?_⟩
  intro c stored
  obtain ⟨-, -, -, second, -⟩ := (stores c).mp stored
  cases second

end RemoteDesk.Workbench
