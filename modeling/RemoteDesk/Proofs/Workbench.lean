import RemoteDesk.Proofs.Session.Operations

/-! # Histories of a workbench

A workbench is one session with what it draws on: a counter, the waiting subtasks and a sink for
scripts. A history is any row of steps on one workbench, with the workbench before and after each of
them and what each of them answered. Whoever is asked during a capture belongs to the step, so a
history ranges over everything that operators can do.

What a step does to the session and to the subtasks is cut into cases here, in the words of the
record that the step leaves behind.
-/

namespace RemoteDesk

/-- A session with the counter, the waiting subtasks and the sink that it works with. -/
structure Workbench (σ : Type) where
  session : Session
  counter : Counter
  registry : Registry
  sink : σ

namespace Workbench

/-- One thing to do at a workbench. -/
inductive Step where
  | start
  /-- Ask an operator for the credentials. -/
  | capture (operator : Operator)
  | showCredentials
  | complete (escaped : Bool)
  | discard
  /-- Move the counter on. -/
  | advance
  | insert (id fragment : String)
  /-- Insert what a file holds. -/
  | loadFile (tree : FileTree) (id : String) (path : Path)
  /-- Take hold of the waiting subtasks to render both projections, and let go without draining. -/
  | render

/-- What a step says when it is done. -/
inductive Answer where
  | started (result : Except SessionError UInt32)
  | captured (result : Except SessionError CaptureOutcome)
  | shown (credentials : Option Credentials)
  | completed (result : Except SessionError CompletedTask)
  | discarded (result : Except SessionError UInt32)
  | advanced
  | inserted (result : Except DeskError Unit)
  | rendered (callSites bodies : String)

variable {σ : Type}

/-! ## Records -/

/-- One step of a history. -/
structure Record (σ : Type) where
  before : Workbench σ
  step : Step
  answer : Answer
  after : Workbench σ

namespace Record

/-- A task was taken up under an index. -/
def Starts (r : Record σ) (index : UInt32) : Prop :=
  r.answer = .started (.ok index)

/-- A capture stored new credentials, the first or others in their place. -/
def Captures (r : Record σ) : Prop :=
  r.answer = .captured (.ok .captured) ∨ r.answer = .captured (.ok .overwritten)

/-- The operator of a capture answered the three questions with `c`. -/
def Answered (r : Record σ) (c : Credentials) : Prop :=
  ∃ operator, r.step = .capture operator ∧ Session.Gives operator c

/-- A task became a script. -/
def Completes (r : Record σ) (task : CompletedTask) : Prop :=
  r.answer = .completed (.ok task)

/-- A task ended, as a script or without one. -/
def Ends (r : Record σ) : Prop :=
  (∃ task, r.Completes task) ∨ ∃ index, r.answer = .discarded (.ok index)

/-- No task was taken up or ended, and no credentials were stored. -/
structure Quiet (r : Record σ) : Prop where
  noStart : ∀ index, ¬ r.Starts index
  noCapture : ¬ r.Captures
  noEnd : ¬ r.Ends

/-- A fragment was accepted under an id, as typed or as a file holds it. -/
def Stores (r : Record σ) (id fragment : String) : Prop :=
  r.answer = .inserted (.ok ()) ∧
    (r.step = .insert id fragment ∨
      ∃ tree path, r.step = .loadFile tree id path ∧ tree.readText path = .ok fragment)

theorem Answered.credentials_eq {r : Record σ} {c c' : Credentials} (h : r.Answered c)
    (h' : r.Answered c') : c = c' := by
  obtain ⟨operator, step, later, answers⟩ := h
  obtain ⟨operator', step', later', answers'⟩ := h'
  obtain rfl : operator = operator' := by simpa using step.symm.trans step'
  have same := answers.symm.trans answers'
  simp only [List.cons.injEq, Except.ok.injEq] at same
  obtain ⟨computer, username, password, -⟩ := same
  cases c
  cases c'
  simp_all

theorem Captures.not_starts {r : Record σ} (h : r.Captures) (index : UInt32) :
    ¬ r.Starts index := by
  intro started
  rcases h with stored | stored <;> exact nomatch stored.symm.trans started

theorem Captures.not_ends {r : Record σ} (h : r.Captures) : ¬ r.Ends := by
  rintro (⟨task, ended⟩ | ⟨index, ended⟩) <;>
    rcases h with stored | stored <;> exact nomatch stored.symm.trans ended

theorem Starts.not_ends {r : Record σ} {index : UInt32} (h : r.Starts index) : ¬ r.Ends := by
  rintro (⟨task, ended⟩ | ⟨other, ended⟩) <;> exact nomatch h.symm.trans ended

end Record

/-- The answers after which a session has changed. -/
def Answer.moves : Answer → Bool
  | .started (.ok _) | .completed (.ok _) | .discarded (.ok _) => true
  | .captured (.ok outcome) => outcome ≠ .kept
  | _ => false

theorem Record.Quiet.of_answer {r : Record σ} (still : r.answer.moves = false) : r.Quiet where
  noStart := by
    intro index started
    simp [show r.answer = _ from started, Answer.moves] at still
  noCapture := by
    rintro (stored | stored) <;> simp [stored, Answer.moves] at still
  noEnd := by
    rintro (⟨task, ended⟩ | ⟨index, ended⟩)
    · simp [show r.answer = _ from ended, Answer.moves] at still
    · simp [ended, Answer.moves] at still

/-! ## Steps -/

variable [TaskSink σ]

/-- Takes over the outcome of an insertion. -/
def keep (w : Workbench σ) : Except DeskError Registry → Answer × Workbench σ
  | .ok registry => (.inserted (.ok ()), { w with registry })
  | .error e => (.inserted (.error e), w)

/-- Does one thing. -/
def perform (w : Workbench σ) : Step → Answer × Workbench σ
  | .start =>
    let (result, session) := w.session.start w.counter
    (.started result, { w with session })
  | .capture operator =>
    let (result, session, _) := w.session.capture operator
    (.captured result, { w with session })
  | .showCredentials => (.shown w.session.shown?, w)
  | .complete escaped =>
    let (result, session, registry, sink) := w.session.complete w.registry w.sink escaped
    (.completed result, { w with session, registry, sink })
  | .discard =>
    let (result, session) := w.session.discard
    (.discarded result, { w with session })
  | .advance => (.advanced, { w with counter := w.counter.advance })
  | .insert id fragment => w.keep (w.registry.insert id fragment)
  | .loadFile tree id path => w.keep (w.registry.loadFile tree id path)
  | .render =>
    (.rendered (Script.callSites w.registry.subtasks) (Script.bodies w.registry.subtasks), w)

/-- The record of one step. -/
def record (w : Workbench σ) (step : Step) : Record σ :=
  ⟨w, step, (w.perform step).1, (w.perform step).2⟩

/-- The history of a row of steps. -/
def history (w : Workbench σ) : List Step → List (Record σ)
  | [] => []
  | step :: rest => w.record step :: history (w.record step).after rest

/-- What a step can do to the session. -/
inductive Record.Effect (r : Record σ) : Prop where
  | starts (idle : r.before.session.activeIndex? = none) (starts : r.Starts r.before.counter.value)
      (session : r.after.session = .started r.before.counter.value)
  | captures (c : Credentials) (active : r.before.session.isActive) (captures : r.Captures)
      (answered : r.Answered c) (session : r.after.session = r.before.session.given c)
  | ends (phase : Phase) (ended : phase.isActive = false) (ends : r.Ends)
      (session : r.after.session = .cleared phase)
  | quiet (quiet : r.Quiet) (session : r.after.session = r.before.session)

theorem record_effect (w : Workbench σ) (step : Step) : (w.record step).Effect := by
  have quiet (still : (w.record step).answer.moves = false)
      (same : (w.record step).after.session = w.session) : (w.record step).Effect :=
    .quiet (.of_answer still) same
  cases step with
  | start =>
      rcases Session.start_cases w.session w.counter with ⟨index, -, refused⟩ | ⟨idle, accepted⟩
      · apply quiet <;> simp [record, perform, refused, Answer.moves]
      · apply Record.Effect.starts idle <;> simp [Record.Starts, record, perform, accepted]
  | capture operator =>
      rcases Session.capture_cases w.session operator with
        ⟨e, o, failed⟩ | ⟨o, kept⟩ | ⟨c, o, active, gives, stored⟩
      · apply quiet <;> simp [record, perform, failed, Answer.moves]
      · apply quiet <;> simp [record, perform, kept, Answer.moves]
      · refine .captures c active ?_ ⟨operator, rfl, gives⟩ (by simp [record, perform, stored])
        simp only [Record.Captures, record, perform, stored, Session.storing]
        cases w.session.assigned
        · exact .inl rfl
        · exact .inr rfl
  | complete escaped =>
      rcases Session.complete_cases w.session w.registry w.sink escaped with
        ⟨index, -, -, accepted⟩ | ⟨-, refused⟩
      · refine .ends .completed rfl (.inl ⟨w.session.task index w.registry escaped, ?_⟩) ?_
        · simp only [Record.Completes, record, perform, accepted]
        · simp only [record, perform, accepted]
      · apply quiet <;> simp [record, perform, refused, Answer.moves]
  | discard =>
      rcases Session.discard_cases w.session with ⟨index, -, accepted⟩ | ⟨-, refused⟩
      · refine .ends .discarded rfl (.inr ⟨index, ?_⟩) ?_ <;> simp [record, perform, accepted]
      · apply quiet <;> simp [record, perform, refused, Answer.moves]
  | showCredentials | advance | render => exact quiet rfl rfl
  | insert id fragment =>
      cases inserted : w.registry.insert id fragment <;> apply quiet <;>
        simp [record, perform, keep, inserted, Answer.moves]
  | loadFile tree id path =>
      cases inserted : w.registry.loadFile tree id path <;> apply quiet <;>
        simp [record, perform, keep, inserted, Answer.moves]

/-! ## Scripts of a step -/

theorem record_completes {w : Workbench σ} {step : Step} {task : CompletedTask}
    (h : (w.record step).Completes task) :
    ∃ escaped index, step = .complete escaped ∧ w.session.taskIndex = some index ∧
      w.session.assigned = true ∧ task = w.session.task index w.registry escaped ∧
      (w.record step).after.registry = .empty ∧
      (w.record step).after.sink = TaskSink.add w.sink task.script.key task.script.text := by
  cases step with
  | complete escaped =>
      rcases Session.complete_cases w.session w.registry w.sink escaped with
        ⟨index, indexed, assigned, accepted⟩ | ⟨-, refused⟩
      · have same : w.session.task index w.registry escaped = task := by
          simpa [Record.Completes, record, perform, accepted] using h
        subst same
        exact ⟨escaped, index, rfl, indexed, assigned, rfl, by simp [record, perform, accepted],
          by simp [record, perform, accepted]⟩
      · simp [Record.Completes, record, perform, refused] at h
  | insert id fragment =>
      cases inserted : w.registry.insert id fragment <;>
        simp [Record.Completes, record, perform, keep, inserted] at h
  | loadFile tree id path =>
      cases inserted : w.registry.loadFile tree id path <;>
        simp [Record.Completes, record, perform, keep, inserted] at h
  | start | capture | showCredentials | discard | advance | render =>
      simp [Record.Completes, record, perform] at h

/-- A session with an index and credentials becomes a script. -/
theorem completes_of_assigned {w : Workbench σ} {escaped : Bool} {index : UInt32}
    (indexed : w.session.taskIndex = some index) (assigned : w.session.assigned = true) :
    (w.record (.complete escaped)).Completes (w.session.task index w.registry escaped) := by
  rcases Session.complete_cases w.session w.registry w.sink escaped with
    ⟨index', indexed', -, accepted⟩ | ⟨missing, -⟩
  · obtain rfl : index = index' := Option.some.inj (indexed.symm.trans indexed')
    simp [Record.Completes, record, perform, accepted]
  · exact nomatch assigned.symm.trans (missing index indexed)

/-- Only a task that becomes a script hands something to the sink. -/
theorem sink_of_not_completes {w : Workbench σ} {step : Step}
    (scriptless : ∀ task, ¬ (w.record step).Completes task) :
    (w.record step).after.sink = w.sink := by
  cases step with
  | complete escaped =>
      rcases Session.complete_cases w.session w.registry w.sink escaped with
        ⟨index, indexed, assigned, -⟩ | ⟨-, refused⟩
      · exact (scriptless _ (completes_of_assigned indexed assigned)).elim
      · simp [record, perform, refused]
  | insert id fragment =>
      cases inserted : w.registry.insert id fragment <;> simp [record, perform, keep, inserted]
  | loadFile tree id path =>
      cases inserted : w.registry.loadFile tree id path <;>
        simp [record, perform, keep, inserted]
  | start | capture | showCredentials | discard | advance | render => rfl

/-! ## Histories -/

/-- What holds at the start of a history and is kept by every step holds before each record. -/
theorem history_invariant {I : List (Record σ) → Workbench σ → Prop}
    (keeps : ∀ past w step, I past w → I (past ++ [record w step]) (record w step).after)
    {w : Workbench σ} {steps : List Step} {past later : List (Record σ)} {r : Record σ}
    (init : I [] w) (split : w.history steps = past ++ r :: later) :
    r = r.before.record r.step ∧ I past r.before := by
  -- The records already behind are generalized: the induction moves one record at a time to them.
  have general : ∀ steps w behind past, I behind w → history w steps = past ++ r :: later →
      r = r.before.record r.step ∧ I (behind ++ past) r.before := by
    intro steps
    induction steps with
    | nil =>
        intro w behind past _ split
        simp [history] at split
    | cons step rest ih =>
        intro w behind past holds split
        cases past with
        | nil =>
            obtain ⟨rfl, -⟩ := List.cons.inj split
            rw [List.append_nil]
            exact ⟨rfl, holds⟩
        | cons first past =>
            rw [history, List.cons_append] at split
            obtain ⟨rfl, others⟩ := List.cons.inj split
            simpa using ih _ _ past (keeps behind w step holds) others
  exact general steps w [] past init split

/-- What follows a record is the history that goes on from there. -/
theorem history_after {w : Workbench σ} {steps : List Step} {past later : List (Record σ)}
    {r : Record σ} (split : w.history steps = past ++ r :: later) :
    ∃ rest, later = r.after.history rest := by
  induction steps generalizing w past with
  | nil => simp [history] at split
  | cons step rest ih =>
      cases past with
      | nil =>
          obtain ⟨rfl, rfl⟩ := List.cons.inj split
          exact ⟨rest, rfl⟩
      | cons first past =>
          rw [history, List.cons_append] at split
          exact ih (List.cons.inj split).2

end Workbench

end RemoteDesk
