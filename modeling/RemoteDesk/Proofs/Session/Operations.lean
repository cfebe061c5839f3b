import RemoteDesk.Session

/-! # What the operations of a session do

Every operation of a session has few outcomes: it is refused and leaves the session as it was, or it
changes the session in one way that depends on little. Here each operation is cut into its outcomes
once, so that later arguments take cases on what happened and never open an operation again.

Three fields say where a task stands: the phase, the index and whether credentials are assigned.
They agree in every session that the operations lead to, which is what `Coherent` records.
-/

namespace RemoteDesk.Session

/-! ## Answers of an operator -/

theorem input_ok {o o' : Operator} {question answer : String}
    (h : o.input question = (.ok answer, o')) :
    o.inputs = .ok answer :: o'.inputs ∧ o'.confirms = o.confirms := by
  simp only [Operator.input] at h
  split at h
  · simp at h
  · next first others same =>
      obtain ⟨rfl, rfl⟩ := Prod.mk.inj h
      exact ⟨same, rfl⟩

theorem confirm_ok {o o' : Operator} {question : String} {answer : Bool}
    (h : o.confirm question = (.ok answer, o')) :
    o.confirms = .ok answer :: o'.confirms ∧ o'.inputs = o.inputs := by
  simp only [Operator.confirm] at h
  split at h
  · simp at h
  · next first others same =>
      obtain ⟨rfl, rfl⟩ := Prod.mk.inj h
      exact ⟨same, rfl⟩

/-- The next three answers of an operator are the values of `c`. -/
def Gives (o : Operator) (c : Credentials) : Prop :=
  ∃ later, o.inputs = .ok c.computer :: .ok c.username :: .ok c.password :: later

theorem askCredentials_ok {o o' : Operator} {c : Credentials}
    (h : askCredentials o = (.ok c, o')) : Gives o c := by
  unfold askCredentials at h
  split at h
  · simp at h
  · next computer o₁ first =>
      split at h
      · simp at h
      · next username o₂ second =>
          split at h
          · simp at h
          · next password o₃ third =>
              obtain ⟨same, rfl⟩ := Prod.mk.inj h
              cases same
              refine ⟨o₃.inputs, ?_⟩
              rw [(input_ok first).1, (input_ok second).1, (input_ok third).1]

/-! ## Outcomes -/

/-- A session that starts on a task. -/
def started (index : UInt32) : Session :=
  ⟨.started, some index, .none, false⟩

/-- The session once it has been given credentials. -/
def given (s : Session) (c : Credentials) : Session :=
  { s with phase := .credentialsAssigned, stored := c, assigned := true }

/-- What storing credentials is called: the first time it is a capture, later an overwriting. -/
def storing (s : Session) : CaptureOutcome :=
  if s.assigned then .overwritten else .captured

theorem start_cases (s : Session) (counter : Counter) :
    (∃ index, s.activeIndex? = some index ∧
      s.start counter = (.error (.refused (.alreadyRunning index)), s)) ∨
    (s.activeIndex? = none ∧ s.start counter = (.ok counter.value, started counter.value)) := by
  unfold start
  cases active : s.activeIndex? with
  | some index => exact .inl ⟨index, rfl, rfl⟩
  | none => exact .inr ⟨rfl, rfl⟩

theorem captureAs_cases (s : Session) (o : Operator) (outcome : CaptureOutcome) :
    (∃ e o', s.captureAs o outcome = (.error e, s, o')) ∨
    (∃ c o', Gives o c ∧ s.captureAs o outcome = (.ok outcome, s.given c, o')) := by
  unfold captureAs
  rcases answered : askCredentials o with ⟨_ | c, o'⟩
  · exact .inl ⟨_, o', rfl⟩
  · exact .inr ⟨c, o', askCredentials_ok answered, rfl⟩

/-- A capture fails, keeps what is stored on the operator's wish, or stores three fresh answers. -/
theorem capture_cases (s : Session) (o : Operator) :
    (∃ e o', s.capture o = (.error e, s, o')) ∨
    (∃ o', s.capture o = (.ok .kept, s, o')) ∨
    (∃ c o', s.isActive ∧ Gives o c ∧ s.capture o = (.ok s.storing, s.given c, o')) := by
  unfold capture storing
  cases active : s.isActive with
  | false => exact .inl ⟨_, o, rfl⟩
  | true =>
      cases assigned : s.assigned with
      | false =>
          rcases captureAs_cases s o .captured with ⟨e, o', failed⟩ | ⟨c, o', gives, stored⟩
          · exact .inl ⟨e, o', by simpa using failed⟩
          · exact .inr (.inr ⟨c, o', rfl, gives, by simpa using stored⟩)
      | true =>
          rcases confirmed : o.confirm overwriteQuestion with ⟨_ | _ | _, o₁⟩
          · exact .inl ⟨_, o₁, rfl⟩
          · exact .inr (.inl ⟨o₁, rfl⟩)
          · have same : o₁.inputs = o.inputs := (confirm_ok confirmed).2
            rcases captureAs_cases s o₁ .overwritten with ⟨e, o', failed⟩ | ⟨c, o', gives, stored⟩
            · exact .inl ⟨e, o', by simpa using failed⟩
            · refine .inr (.inr ⟨c, o', rfl, ?_, by simpa using stored⟩)
              exact gives.imp fun later answers => same ▸ answers

theorem discard_cases (s : Session) :
    (∃ index, s.activeIndex? = some index ∧ s.discard = (.ok index, cleared .discarded)) ∨
    (s.activeIndex? = none ∧ s.discard = (.error (.refused .notStarted), s)) := by
  unfold discard
  cases active : s.activeIndex? with
  | some index => exact .inl ⟨index, rfl, rfl⟩
  | none => exact .inr ⟨rfl, rfl⟩

/-- The task that a session has become, with the subtasks that waited. -/
def task (s : Session) (index : UInt32) (registry : Registry) (escaped : Bool) : CompletedTask :=
  ⟨index, Script.assemble index s.stored registry.subtasks escaped, registry.ids⟩

theorem complete_cases {σ : Type} [TaskSink σ] (s : Session) (registry : Registry) (sink : σ)
    (escaped : Bool) :
    (∃ index, s.taskIndex = some index ∧ s.assigned ∧
      s.complete registry sink escaped =
        (.ok (s.task index registry escaped), cleared .completed, .empty,
          TaskSink.add sink (s.task index registry escaped).script.key
            (s.task index registry escaped).script.text)) ∨
    ((∀ index, s.taskIndex = some index → s.assigned = false) ∧
      s.complete registry sink escaped =
        (.error (.refused .credentialsMissing), s, registry, sink)) := by
  unfold complete
  cases indexed : s.taskIndex with
  | none => exact .inr ⟨by simp, rfl⟩
  | some index =>
      cases assigned : s.assigned with
      | false => exact .inr ⟨fun _ _ => rfl, rfl⟩
      | true => exact .inl ⟨index, rfl, rfl, rfl⟩

/-! ## Sessions that the operations lead to -/

/-- The phase, the index and the stored credentials of a session tell the same. -/
structure Coherent (s : Session) : Prop where
  indexed : s.taskIndex.isSome = s.isActive
  assigned : s.assigned = decide (s.phase = .credentialsAssigned)
  blank : s.assigned = false → s.stored = .none

namespace Coherent

theorem new : Session.new.Coherent :=
  ⟨rfl, rfl, fun _ => rfl⟩

theorem started (index : UInt32) : (started index).Coherent :=
  ⟨rfl, rfl, fun _ => rfl⟩

theorem given {s : Session} (h : s.Coherent) (active : s.isActive) (c : Credentials) :
    (s.given c).Coherent := by
  refine ⟨?_, rfl, fun blank => by cases blank⟩
  exact h.indexed.trans active

theorem cleared {phase : Phase} (ended : phase.isActive = false) : (cleared phase).Coherent := by
  refine ⟨ended.symm, ?_, fun _ => rfl⟩
  cases phase <;> first | rfl | cases ended

theorem activeIndex? {s : Session} (h : s.Coherent) : s.activeIndex? = s.taskIndex := by
  unfold Session.activeIndex?
  cases active : s.isActive with
  | true => rfl
  | false =>
      have missing := h.indexed.trans active
      rw [Option.isSome_eq_false_iff, Option.isNone_iff_eq_none] at missing
      simp [missing]

end Coherent

end RemoteDesk.Session
