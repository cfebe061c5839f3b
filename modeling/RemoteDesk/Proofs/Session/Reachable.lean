import RemoteDesk.Proofs.Session.Questions

/-! # Sessions that operations lead to

The operations look at different fields before they act: starting and discarding at the phase and the
index, a capture at the phase, completing at the index and at whether credentials are assigned. In a
session that operations have led to these fields tell the same, so all guards can be said in terms of
the phase. Nothing more can be said of such a session: every session whose fields tell the same is
one that operations lead to.
-/

namespace RemoteDesk.Session

/-- What operations lead to from a new session, whatever each of them is given. -/
inductive Reachable : Session → Prop where
  | new : Reachable .new
  | start {s : Session} (counter : Counter) : Reachable s → Reachable (s.start counter).2
  | capture {s : Session} (o : Operator) : Reachable s → Reachable (s.capture o).2.1
  | complete {s : Session} {σ : Type} [TaskSink σ] (registry : Registry) (sink : σ)
      (escaped : Bool) : Reachable s → Reachable (s.complete registry sink escaped).2.1
  | discard {s : Session} : Reachable s → Reachable s.discard.2

theorem Reachable.coherent {s : Session} (h : s.Reachable) : s.Coherent := by
  induction h with
  | new => exact .new
  | @start s counter _ ih =>
      rcases s.start_cases counter with ⟨index, -, refused⟩ | ⟨-, accepted⟩
      · rw [refused]
        exact ih
      · rw [accepted]
        exact .started counter.value
  | @capture s o _ ih =>
      rcases s.capture_cases o with ⟨e, o', failed⟩ | ⟨o', kept⟩ | ⟨c, o', active, -, stored⟩
      · rw [failed]
        exact ih
      · rw [kept]
        exact ih
      · rw [stored]
        exact ih.given active c
  | @complete s σ _ registry sink escaped _ ih =>
      rcases s.complete_cases registry sink escaped with ⟨index, -, -, accepted⟩ | ⟨-, refused⟩
      · rw [accepted]
        exact .cleared rfl
      · rw [refused]
        exact ih
  | @discard s _ ih =>
      rcases s.discard_cases with ⟨index, -, accepted⟩ | ⟨-, refused⟩
      · rw [accepted]
        exact .cleared rfl
      · rw [refused]
        exact ih

/-! ## The forms of a coherent session -/

/-- A session has no task, or one without credentials, or one with credentials. -/
theorem forms_of_coherent {s : Session} (h : s.Coherent) :
    (∃ phase, phase.isActive = false ∧ s = cleared phase) ∨ (∃ index, s = started index) ∨
      ∃ index c, s = (started index).given c := by
  obtain ⟨indexed, assigned, blank⟩ := h
  obtain ⟨phase, taskIndex, stored, flag⟩ := s
  simp only [isActive] at indexed assigned blank
  cases phase with
  | idle | completed | discarded =>
      obtain rfl : taskIndex = none := by simpa [Phase.isActive] using indexed
      obtain rfl : flag = false := assigned
      obtain rfl : stored = .none := blank rfl
      exact .inl ⟨_, rfl, rfl⟩
  | started =>
      obtain ⟨index, rfl⟩ := Option.isSome_iff_exists.mp indexed
      obtain rfl : flag = false := assigned
      obtain rfl : stored = .none := blank rfl
      exact .inr (.inl ⟨index, rfl⟩)
  | credentialsAssigned =>
      obtain ⟨index, rfl⟩ := Option.isSome_iff_exists.mp indexed
      obtain rfl : flag = true := assigned
      exact .inr (.inr ⟨index, stored, rfl⟩)

theorem reachable_started (index : UInt32) : Reachable (started index) :=
  .start ⟨index⟩ .new

theorem reachable_given (index : UInt32) (c : Credentials) :
    Reachable ((started index).given c) :=
  .capture (.scripted [.ok c.computer, .ok c.username, .ok c.password] [])
    (reachable_started index)

theorem reachable_cleared {phase : Phase} (ended : phase.isActive = false) :
    Reachable (cleared phase) := by
  cases phase with
  | idle => exact .new
  | completed => exact .complete Registry.empty Store.empty false (reachable_given 1 .none)
  | discarded => exact .discard (reachable_started 1)
  | started | credentialsAssigned => cases ended

theorem reachable_iff_coherent {s : Session} : s.Reachable ↔ s.Coherent := by
  constructor
  · exact Reachable.coherent
  · intro coherent
    rcases forms_of_coherent coherent with ⟨phase, ended, rfl⟩ | ⟨index, rfl⟩ | ⟨index, c, rfl⟩
    · exact reachable_cleared ended
    · exact reachable_started index
    · exact reachable_given index c

/-! ## Guards -/

theorem start_ok_iff (s : Session) (counter : Counter) :
    (∃ index, (s.start counter).1 = .ok index) ↔ s.activeIndex? = none := by
  rcases s.start_cases counter with ⟨index, active, refused⟩ | ⟨idle, accepted⟩
  · simp [active, refused]
  · simp [idle, accepted]

theorem discard_ok_iff (s : Session) :
    (∃ index, s.discard.1 = .ok index) ↔ s.activeIndex?.isSome := by
  rcases s.discard_cases with ⟨index, active, accepted⟩ | ⟨idle, refused⟩
  · simp [active, accepted]
  · simp [idle, refused]

theorem complete_ok_iff {σ : Type} [TaskSink σ] (s : Session) (registry : Registry) (sink : σ)
    (escaped : Bool) :
    (∃ task, (s.complete registry sink escaped).1 = .ok task) ↔
      s.taskIndex.isSome ∧ s.assigned := by
  rcases s.complete_cases registry sink escaped with
    ⟨index, indexed, assigned, accepted⟩ | ⟨missing, refused⟩
  · simp [indexed, assigned, accepted]
  · simp only [refused, reduceCtorEq, exists_false, false_iff, Option.isSome_iff_exists, not_and,
      Bool.not_eq_true]
    rintro ⟨index, indexed⟩
    exact missing index indexed

/-- Every capture that is not refused for want of a task asks something. -/
theorem asked_capture_eq_iff (s : Session) (o : Operator) :
    (s.capture o).2.2.asked = o.asked ↔ s.isActive = false := by
  rw [asked_capture]
  cases active : s.isActive with
  | false => simp
  | true => cases assigned : s.assigned <;> simp [questions, valueQuestions, put, assigned]

theorem capture_of_inactive {s : Session} (inactive : s.isActive = false) (o : Operator) :
    s.capture o = (.error (.refused .notStarted), s, o) := by
  simp [capture, inactive]

theorem shown_isSome (s : Session) : s.shown?.isSome = s.assigned := by
  unfold shown? credentials?
  cases s.assigned <;> rfl

theorem isActive_iff (s : Session) :
    s.isActive ↔ s.phase = .started ∨ s.phase = .credentialsAssigned := by
  unfold isActive
  cases s.phase <;> simp [Phase.isActive]

/-- In every session that operations lead to, the index is there while a task is authored, the flag
    says that the phase is the one with credentials, and without the flag nothing is stored. So
    whatever field an operation looks at, it goes ahead exactly in the phases that the last five
    parts name, and a capture that does not asks nothing. -/
theorem reachable_agrees {s : Session} (h : s.Reachable) :
    (s.taskIndex.isSome ↔ s.phase = .started ∨ s.phase = .credentialsAssigned) ∧
    (s.assigned ↔ s.phase = .credentialsAssigned) ∧
    (s.assigned = false → s.stored = ⟨"", "", ""⟩) ∧
    (∀ counter, (∃ index, (s.start counter).1 = .ok index) ↔ s.isActive = false) ∧
    (∀ o, ((∃ e, (s.capture o).1 = .error e) ∧ (s.capture o).2.2.asked = o.asked) ↔
      s.isActive = false) ∧
    (∀ {σ : Type} [TaskSink σ] (registry : Registry) (sink : σ) (escaped : Bool),
      (∃ task, (s.complete registry sink escaped).1 = .ok task) ↔
        s.phase = .credentialsAssigned) ∧
    ((∃ index, s.discard.1 = .ok index) ↔ s.isActive) ∧
    (s.shown?.isSome ↔ s.phase = .credentialsAssigned) := by
  have coherent := h.coherent
  have indexed : s.taskIndex.isSome = s.isActive := coherent.indexed
  have assigned : s.assigned ↔ s.phase = .credentialsAssigned := by
    rw [coherent.assigned, decide_eq_true_eq]
  refine ⟨?_, assigned, coherent.blank, ?_, ?_, ?_, ?_, ?_⟩
  · rw [indexed]
    exact s.isActive_iff
  · intro counter
    rw [start_ok_iff, coherent.activeIndex?, ← indexed, Option.isSome_eq_false_iff,
      Option.isNone_iff_eq_none]
  · intro o
    constructor
    · rintro ⟨-, unasked⟩
      exact (s.asked_capture_eq_iff o).mp unasked
    · intro inactive
      rw [capture_of_inactive inactive]
      exact ⟨⟨_, rfl⟩, rfl⟩
  · intro σ _ registry sink escaped
    rw [complete_ok_iff, assigned]
    constructor
    · exact And.right
    · intro phase
      refine ⟨?_, phase⟩
      rw [indexed, s.isActive_iff]
      exact .inr phase
  · rw [discard_ok_iff, coherent.activeIndex?, indexed]
  · rw [shown_isSome]
    exact assigned

/-- A capture that fails midway, one that is answered in full and one that is declined leave a
    session that can be completed and cannot be started. -/
theorem reachable_agrees_after_declined_capture :
    let failing := Operator.scripted [.ok "host"] []
    let answering := Operator.scripted [.ok "host", .ok "user", .ok "word"] []
    let declining := Operator.scripted [.ok "other"] [.ok false]
    let begun := (Session.new.start ⟨7⟩).2
    let s := (((begun.capture failing).2.1.capture answering).2.1.capture declining).2.1
    s.Reachable ∧ s.phase = .credentialsAssigned ∧ s.taskIndex.isSome ∧ s.assigned ∧
      (∃ task, (s.complete Registry.empty Store.empty true).1 = .ok task) ∧
      ¬ ∃ index, (s.start ⟨8⟩).1 = .ok index := by
  intro failing answering declining begun s
  have reached : s.Reachable :=
    .capture declining (.capture answering (.capture failing (.start ⟨7⟩ .new)))
  obtain ⟨indexed, assigned, -, start, -, complete, -⟩ := reachable_agrees reached
  have phase : s.phase = .credentialsAssigned := rfl
  refine ⟨reached, phase, indexed.mpr (.inr phase), assigned.mpr phase,
    (complete Registry.empty Store.empty true).mpr phase, ?_⟩
  intro starts
  exact absurd ((start ⟨8⟩).mp starts) (by decide)

end RemoteDesk.Session
