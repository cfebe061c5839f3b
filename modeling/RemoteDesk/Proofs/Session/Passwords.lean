import RemoteDesk.Proofs.FileTree.Outline
import RemoteDesk.Proofs.Session.Questions

/-! # Sessions that differ in a password

A session with its password taken away behaves as before: every operation answers the same and leads
to the same session but for the password. What a capture asks does not depend on a password either.
So two operators who differ only in what they answer to questions for a password are asked the same,
and stay such operators.
-/

namespace RemoteDesk

def Credentials.veiled (c : Credentials) : Credentials :=
  { c with password := "" }

namespace Session

/-- The session with its password taken away. -/
def veiled (s : Session) : Session :=
  { s with stored := s.stored.veiled }

theorem eq_of_veiled {s s' : Session} (same : s'.veiled = s.veiled) :
    ∃ password, s' = { s with stored := { s.stored with password } } := by
  obtain ⟨phase, taskIndex, ⟨computer, username, password⟩, assigned⟩ := s
  obtain ⟨phase', taskIndex', ⟨computer', username', password'⟩, assigned'⟩ := s'
  simp only [veiled, Credentials.veiled, mk.injEq, Credentials.mk.injEq, and_true] at same
  obtain ⟨rfl, rfl, ⟨rfl, rfl⟩, rfl⟩ := same
  exact ⟨password', rfl⟩

theorem isActive_of_veiled {s s' : Session} (same : s'.veiled = s.veiled) :
    s'.isActive = s.isActive :=
  congrArg (·.phase.isActive) same

theorem activeIndex?_of_veiled {s s' : Session} (same : s'.veiled = s.veiled) :
    s'.activeIndex? = s.activeIndex? := by
  obtain ⟨password, rfl⟩ := eq_of_veiled same
  rfl

/-- The questions that a capture puts. -/
def asks (s : Session) (o : Operator) : List String :=
  if s.isActive then put (s.questions o) else []

end Session

namespace Operator

open Session

/-- The operators answer a row of questions alike, except that each may give a password of its own
    where the question is for one. -/
structure Twins (questions : List String) (o o' : Operator) : Prop where
  inputs : ∀ n : Nat, o'.inputs[n]? = o.inputs[n]? ∨
    (questions.filter (· ≠ overwriteQuestion))[n]? = some passwordQuestion ∧
      ∃ password password', o.inputs[n]? = some (.ok password) ∧
        o'.inputs[n]? = some (.ok password')
  confirms : o'.confirms = o.confirms
  noInput : o'.noInput = o.noInput
  noConfirm : o'.noConfirm = o.noConfirm
  asked : o'.asked = o.asked

namespace Twins

variable {question : String} {questions : List String} {o o' : Operator}

theorem afterInput (h : Twins (question :: questions) o o') (text : question ≠ overwriteQuestion) :
    Twins questions (o.afterInput question) (o'.afterInput question) := by
  refine ⟨fun n => ?_, h.confirms, h.noInput, h.noConfirm, congrArg (· ++ [question]) h.asked⟩
  have later := h.inputs (n + 1)
  rw [List.filter_cons_of_pos (by simpa using text), List.getElem?_cons_succ] at later
  simp only [Operator.afterInput, List.getElem?_tail]
  exact later

theorem reply (h : Twins (question :: questions) o o') (text : question ≠ overwriteQuestion)
    (plain : question ≠ passwordQuestion) : o'.reply 0 = o.reply 0 := by
  unfold Operator.reply
  rw [h.noInput]
  rcases h.inputs 0 with same | ⟨secret, -⟩
  · rw [same]
  · rw [List.filter_cons_of_pos (by simpa using text)] at secret
    exact absurd (Option.some.inj secret) plain

theorem reply_password (h : Twins (passwordQuestion :: questions) o o') :
    (o'.reply 0).map (fun _ => ()) = (o.reply 0).map fun _ => () := by
  unfold Operator.reply
  rw [h.noInput]
  rcases h.inputs 0 with same | ⟨-, password, password', first, second⟩
  · rw [same]
  · rw [first, second]
    rfl

theorem afterConfirm (h : Twins (overwriteQuestion :: questions) o o') :
    Twins questions (o.afterConfirm overwriteQuestion) (o'.afterConfirm overwriteQuestion) := by
  refine ⟨?_, congrArg List.tail h.confirms, h.noInput, h.noConfirm,
    congrArg (· ++ [overwriteQuestion]) h.asked⟩
  have inputs := h.inputs
  rw [List.filter_cons_of_neg (by simp)] at inputs
  exact inputs

theorem consent (h : Twins questions o o') : o'.consent = o.consent := by
  unfold Operator.consent
  rw [h.confirms, h.noConfirm]

end Twins

end Operator

namespace Session

variable {questions : List String} {o o' : Operator} {s s' : Session}

/-- The three questions are put to both operators alike, and their answers differ in the password at
    most. -/
theorem askCredentials_twins (h : o.Twins (put (valueQuestions o) ++ questions) o') :
    (askCredentials o').1.map Credentials.veiled = (askCredentials o).1.map Credentials.veiled ∧
      (askCredentials o).2.Twins questions (askCredentials o').2 := by
  unfold valueQuestions at h
  simp only [askCredentials, Operator.input_eq]
  have computer := h.reply (by decide) (by decide)
  have onward := h.afterInput (by decide)
  rw [computer]
  cases first : o.reply 0 with
  | error e =>
      rw [first] at onward
      exact ⟨rfl, onward⟩
  | ok c =>
      rw [first] at onward
      have username := onward.reply (by decide) (by decide)
      have onward := onward.afterInput (by decide)
      simp only [username]
      rw [Operator.reply_afterInput]
      cases second : o.reply 1 with
      | error e =>
          rw [second] at onward
          exact ⟨rfl, onward⟩
      | ok u =>
          rw [second] at onward
          have password := onward.reply_password
          have onward := onward.afterInput (by decide)
          rw [put, ite_self] at onward
          simp only
          rcases cases_of_map_eq password with ⟨e, third, third'⟩ | ⟨p, p', third, third', -⟩
          · rw [third, third']
            exact ⟨rfl, onward⟩
          · rw [third, third']
            exact ⟨rfl, onward⟩

theorem captureAs_twins (same : s'.veiled = s.veiled)
    (h : o.Twins (put (valueQuestions o) ++ questions) o') (outcome : CaptureOutcome) :
    (s'.captureAs o' outcome).1 = (s.captureAs o outcome).1 ∧
      (s'.captureAs o' outcome).2.1.veiled = (s.captureAs o outcome).2.1.veiled ∧
      (s.captureAs o outcome).2.2.Twins questions (s'.captureAs o' outcome).2.2 := by
  obtain ⟨answers, onward⟩ := askCredentials_twins h
  obtain ⟨password, rfl⟩ := eq_of_veiled same
  unfold captureAs
  generalize askCredentials o = x at answers onward ⊢
  generalize askCredentials o' = x' at answers onward ⊢
  obtain ⟨answer, o₁⟩ := x
  obtain ⟨answer', o₁'⟩ := x'
  rcases cases_of_map_eq answers with ⟨e, second, first⟩ | ⟨c', c, second, first, veiled⟩
  · obtain rfl : answer = .error e := first
    obtain rfl : answer' = .error e := second
    exact ⟨rfl, same, onward⟩
  · obtain rfl : answer = .ok c := first
    obtain rfl : answer' = .ok c' := second
    refine ⟨rfl, ?_, onward⟩
    exact congrArg (fun stored => Session.mk .credentialsAssigned s.taskIndex stored true) veiled

/-- A capture asks, answers and stores the same of two such operators, passwords aside. -/
theorem capture_twins (same : s'.veiled = s.veiled) (h : o.Twins (s.asks o ++ questions) o') :
    (s'.capture o').1 = (s.capture o).1 ∧
      (s'.capture o').2.1.veiled = (s.capture o).2.1.veiled ∧
      (s.capture o).2.2.Twins questions (s'.capture o').2.2 := by
  have assigned : s'.assigned = s.assigned := congrArg (·.assigned) same
  unfold asks Session.questions at h
  unfold capture
  rw [isActive_of_veiled same, assigned]
  cases active : s.isActive with
  | false =>
      rw [active] at h
      exact ⟨rfl, same, h⟩
  | true =>
      rw [active] at h
      cases assigned : s.assigned with
      | false =>
          rw [assigned] at h
          exact captureAs_twins same h .captured
      | true =>
          rw [assigned] at h
          have onward := h.afterConfirm
          simp only [Operator.confirm_eq, h.consent]
          rcases consent : o.consent with e | _ | _ <;> rw [consent] at onward
          · exact ⟨rfl, same, onward⟩
          · exact ⟨rfl, same, onward⟩
          · exact captureAs_twins same onward .overwritten

theorem start_veiled (same : s'.veiled = s.veiled) (counter : Counter) :
    Prod.map id veiled (s'.start counter) = Prod.map id veiled (s.start counter) := by
  unfold start
  rw [activeIndex?_of_veiled same]
  cases s.activeIndex? with
  | some index => exact Prod.ext rfl same
  | none => rfl

theorem discard_veiled (same : s'.veiled = s.veiled) :
    Prod.map id veiled s'.discard = Prod.map id veiled s.discard := by
  unfold discard
  rw [activeIndex?_of_veiled same]
  cases s.activeIndex? with
  | some index => rfl
  | none => exact Prod.ext rfl same

end Session

end RemoteDesk
