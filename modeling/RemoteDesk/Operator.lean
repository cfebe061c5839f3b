import RemoteDesk.Error

/-! # Operators

An operator answers questions, each with an answer or with a failure. Here an operator is the answers
that are still to come, what happens once they run out, and the questions asked so far.
-/

namespace RemoteDesk

/-- Whoever answers the questions of a session. -/
structure Operator where
  /-- The answers to questions for a line of text, in order. -/
  inputs : List (Except DeskError String)
  confirms : List (Except DeskError Bool)
  /-- What a question for text fails with when no answer is left. -/
  noInput : DeskError
  /-- What a yes-or-no question fails with when no answer is left. -/
  noConfirm : DeskError
  /-- The questions asked so far, in order. -/
  asked : List String

namespace Operator

/-- An operator with the given answers. -/
def scripted (inputs : List (Except DeskError String)) (confirms : List (Except DeskError Bool)) :
    Operator :=
  { inputs, confirms, asked := []
    noInput := .reported .prompt "no input queued"
    noConfirm := .reported .prompt "no confirmation queued" }

/-- An operator who cannot be reached, because there is no terminal. -/
def unreachable : Operator :=
  let failure := .reported .prompt "failed to get user input: IO error: not a terminal"
  { inputs := [], confirms := [], asked := [], noInput := failure, noConfirm := failure }

def input (o : Operator) (question : String) : Except DeskError String × Operator :=
  let o := { o with asked := o.asked ++ [question] }
  match o.inputs with
  | [] => (.error o.noInput, o)
  | answer :: others => (answer, { o with inputs := others })

def confirm (o : Operator) (question : String) : Except DeskError Bool × Operator :=
  let o := { o with asked := o.asked ++ [question] }
  match o.confirms with
  | [] => (.error o.noConfirm, o)
  | answer :: others => (answer, { o with confirms := others })

end Operator

end RemoteDesk
