import RemoteDesk.Proofs.Session.Operations

/-! # The questions of a capture

What a capture will ask is fixed before the first question: whether to overwrite, if there is
anything to overwrite, and then the three values. The questions are put in this order, up to the
first one whose answer is a failure or a refusal. Credentials are stored exactly when there is none.
-/

namespace RemoteDesk

namespace Operator

/-- What the operator says to the question for a text that `n` others come before. -/
def reply (o : Operator) (n : Nat) : Except DeskError String :=
  o.inputs[n]?.getD (.error o.noInput)

/-- What the operator says to the next yes-or-no question. -/
def consent (o : Operator) : Except DeskError Bool :=
  o.confirms.head?.getD (.error o.noConfirm)

def afterInput (o : Operator) (question : String) : Operator :=
  { o with inputs := o.inputs.tail, asked := o.asked ++ [question] }

def afterConfirm (o : Operator) (question : String) : Operator :=
  { o with confirms := o.confirms.tail, asked := o.asked ++ [question] }

variable (o : Operator) (question : String)

theorem input_eq : o.input question = (o.reply 0, o.afterInput question) := by
  obtain ⟨inputs, confirms, noInput, noConfirm, asked⟩ := o
  cases inputs <;> rfl

theorem confirm_eq : o.confirm question = (o.consent, o.afterConfirm question) := by
  obtain ⟨inputs, confirms, noInput, noConfirm, asked⟩ := o
  cases confirms <;> rfl

@[simp] theorem reply_afterInput (n : Nat) : (o.afterInput question).reply n = o.reply (n + 1) := by
  simp only [reply, afterInput, List.getElem?_tail]

@[simp] theorem reply_afterConfirm (n : Nat) : (o.afterConfirm question).reply n = o.reply n :=
  rfl

end Operator

namespace Session

/-- The questions for the three values, each with whether there is an answer. -/
def valueQuestions (o : Operator) : List (String × Bool) :=
  [(computerQuestion, (o.reply 0).isOk), (usernameQuestion, (o.reply 1).isOk),
    (passwordQuestion, (o.reply 2).isOk)]

/-- The questions of a capture in order, each with whether its answer lets the capture go on. -/
def questions (s : Session) (o : Operator) : List (String × Bool) :=
  if s.assigned then (overwriteQuestion, o.consent matches .ok true) :: valueQuestions o
  else valueQuestions o

/-- The questions that are put when the first bad answer is the last. -/
def put : List (String × Bool) → List String
  | [] => []
  | (question, good) :: rest => question :: if good then put rest else []

/-! ## How far the questions go -/

theorem put_prefix (questions : List (String × Bool)) : put questions <+: questions.map (·.1) := by
  induction questions with
  | nil => exact List.prefix_rfl
  | cons first rest ih =>
      obtain ⟨question, good⟩ := first
      rw [put, List.map_cons, List.prefix_cons_inj]
      cases good with
      | true => exact ih
      | false => exact List.nil_prefix

/-- A question is put when all before it had good answers. -/
theorem lt_length_put {questions : List (String × Bool)} {n : Nat} :
    n < (put questions).length ↔
      n < questions.length ∧ ∀ earlier ∈ questions.take n, earlier.2 = true := by
  induction questions generalizing n with
  | nil => simp [put]
  | cons first rest ih =>
      obtain ⟨question, good⟩ := first
      cases n with
      | zero => simp [put]
      | succ n =>
          cases good with
          | true => simp [put, ih]
          | false => simp [put]

/-! ## One capture -/

/-- The operator once questions have been put, each of which takes up an answer of its kind. -/
def after (o : Operator) (questions : List String) : Operator :=
  { o with
    inputs := o.inputs.drop (questions.countP (· ≠ overwriteQuestion))
    confirms := o.confirms.drop (questions.countP (· = overwriteQuestion))
    asked := o.asked ++ questions }

theorem after_nil (o : Operator) : after o [] = o := by
  simp [after]

theorem after_input (o : Operator) {question : String} (text : question ≠ overwriteQuestion)
    (questions : List String) :
    after o (question :: questions) = after (o.afterInput question) questions := by
  simp [after, Operator.afterInput, text]

theorem after_confirm (o : Operator) (questions : List String) :
    after o (overwriteQuestion :: questions) =
      after (o.afterConfirm overwriteQuestion) questions := by
  simp [after, Operator.afterConfirm]

theorem operator_askCredentials (o : Operator) :
    (askCredentials o).2 = after o (put (valueQuestions o)) := by
  have computer (o : Operator) := @after_input o computerQuestion (by decide)
  have username (o : Operator) := @after_input o usernameQuestion (by decide)
  have password (o : Operator) := @after_input o passwordQuestion (by decide)
  simp only [askCredentials, Operator.input_eq, valueQuestions]
  cases first : o.reply 0 with
  | error e => simp [put, Except.isOk, Except.toBool, computer, after_nil]
  | ok c =>
      cases second : o.reply 1 with
      | error e => simp [second, put, Except.isOk, Except.toBool, computer, username, after_nil]
      | ok u =>
          cases third : o.reply 2 <;>
            simp [second, third, put, Except.isOk, Except.toBool, computer, username, password,
              after_nil]

theorem gives_iff (o : Operator) (c : Credentials) :
    Gives o c ↔
      o.reply 0 = .ok c.computer ∧ o.reply 1 = .ok c.username ∧ o.reply 2 = .ok c.password := by
  unfold Gives Operator.reply
  constructor
  · rintro ⟨later, same⟩
    simp [same]
  · rintro ⟨first, second, third⟩
    rcases inputs : o.inputs with _ | ⟨computer, _ | ⟨username, _ | ⟨password, later⟩⟩⟩ <;>
      simp_all

theorem askCredentials_ok_iff (o : Operator) (c : Credentials) :
    (askCredentials o).1 = .ok c ↔ Gives o c := by
  rw [gives_iff]
  obtain ⟨computer, username, password⟩ := c
  simp only [askCredentials, Operator.input_eq]
  cases first : o.reply 0 with
  | error e => simp
  | ok computer' =>
      cases second : o.reply 1 with
      | error e => simp [second]
      | ok username' => cases third : o.reply 2 <;> simp [second, third]

theorem operator_captureAs (s : Session) (o : Operator) (outcome : CaptureOutcome) :
    (s.captureAs o outcome).2.2 = after o (put (valueQuestions o)) := by
  rw [← operator_askCredentials, captureAs]
  rcases askCredentials o with ⟨e | c, o'⟩ <;> rfl

theorem operator_capture (s : Session) (o : Operator) :
    (s.capture o).2.2 = after o (if s.isActive then put (s.questions o) else []) := by
  unfold capture questions
  cases active : s.isActive with
  | false => simp [after_nil]
  | true =>
      cases assigned : s.assigned with
      | false => simp [operator_captureAs]
      | true =>
          simp only [Operator.confirm_eq]
          rcases consent : o.consent with e | _ | _
          · simp [put, after_confirm, after_nil]
          · simp [put, after_confirm, after_nil]
          · simp [put, after_confirm, operator_captureAs, valueQuestions]

theorem asked_capture (s : Session) (o : Operator) :
    (s.capture o).2.2.asked = o.asked ++ if s.isActive then put (s.questions o) else [] := by
  rw [operator_capture]
  rfl

/-- The capture said that it stored credentials, and these are the ones. -/
def Stores (s : Session) (o : Operator) (c : Credentials) : Prop :=
  (s.capture o).1 = .ok s.storing ∧ (s.capture o).2.1 = s.given c

theorem captureAs_stores_iff (s : Session) (o : Operator) (outcome : CaptureOutcome)
    (c : Credentials) :
    (s.captureAs o outcome).1 = .ok outcome ∧ (s.captureAs o outcome).2.1 = s.given c ↔
      Gives o c := by
  rw [← askCredentials_ok_iff, captureAs]
  rcases askCredentials o with ⟨e | c', o'⟩
  · simp
  · constructor
    · rintro ⟨-, same⟩
      exact congrArg (Except.ok ·.stored) same
    · intro same
      cases same
      exact ⟨rfl, rfl⟩

theorem stores_iff (s : Session) (o : Operator) (c : Credentials) :
    s.Stores o c ↔ s.isActive ∧ (s.assigned → o.consent = .ok true) ∧ Gives o c := by
  unfold Stores capture storing
  cases active : s.isActive with
  | false => simp
  | true =>
      cases assigned : s.assigned with
      | false => simpa using captureAs_stores_iff s o .captured c
      | true =>
          simp only [Operator.confirm_eq]
          rcases consent : o.consent with e | _ | _
          · simp
          · simp
          · have same : Gives (o.afterConfirm overwriteQuestion) c ↔ Gives o c := Iff.rfl
            simpa [same] using
              captureAs_stores_iff s (o.afterConfirm overwriteQuestion) .overwritten c

end Session

end RemoteDesk
