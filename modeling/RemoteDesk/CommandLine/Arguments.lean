import RemoteDesk.CommandLine.Mistake
import RemoteDesk.Compose

/-! # Reading the command line

Words are read from left to right. The value of a parameter is looked at only when the next argument,
or the end, is reached; so of two mistakes the one that is reached first is reported. What a command
is told comes after its name, and its own mistakes are reported before those that wait outside. What
is known everywhere may be said outside and inside, and what is said inside counts.
-/

namespace RemoteDesk.CommandLine

/-- What the program is told to do. -/
inductive Task where
  | shell
  /-- Compose a task, into a file if one is named. -/
  | compose (request : ComposeRequest) (output : Option String)
  deriving Repr, DecidableEq

/-- What the command line says. -/
structure Arguments where
  config : Option String
  verbose : Bool
  logLevel : Option String
  noColor : Bool
  /-- What to do; the shell if nothing is said. -/
  task : Option Task
  deriving Repr, DecidableEq

/-- What was said so far, outside or inside a command. -/
structure Said where
  values : List (Parameter × String)
  /-- The value of the index, as a number. -/
  index : Option UInt32
  switches : List Switch
  /-- A parameter whose value was not looked at, or is still to come. -/
  pending : Option (Parameter × Option String)
  deriving Repr, DecidableEq

namespace Said

def nothing : Said := ⟨[], none, [], none⟩

def value? (s : Said) (p : Parameter) : Option String :=
  s.values.lookup p

/-- The digits of a number after others that make up `n`. -/
def readDigits (negative : Bool) (n : Nat) : List Char → Except NumberFault Nat
  | [] => .ok n
  | c :: rest =>
    if !c.isDigit then .error .notDigit
    else
      let m := n * 10 + (c.toNat - 48)
      if negative then if Nat.pow 2 63 < m then .error .tooSmall else readDigits negative m rest
      else if Nat.pow 2 63 ≤ m then .error .tooLarge
      else readDigits negative m rest

def readWhole (text : String) : Except NumberFault Int :=
  match text.toList with
  | [] => .error .empty
  | ['+'] | ['-'] => .error .notDigit
  | '+' :: digits => (readDigits false 0 digits).map fun n => (n : Int)
  | '-' :: digits => (readDigits true 0 digits).map fun n => -(n : Int)
  | digits => (readDigits false 0 digits).map fun n => (n : Int)

def readIndex (text : String) : Except NumberFault UInt32 := do
  let n ← readWhole text
  if 0 ≤ n ∧ n ≤ maxIndex then return UInt32.ofNat n.toNat else throw (.outside n)

def accept (s : Said) (p : Parameter) : Option String → Except Mistake Said
  | none => .error (.missingValue p)
  | some value =>
    if !p.repeats && (s.value? p).isSome then .error (.repeated (.parameter p))
    else if p.isPath && value = "" then .error (.missingValue p)
    else
      let kept := { s with values := s.values ++ [(p, value)] }
      if p = .index then
        match readIndex value with
        | .error fault => .error (.badNumber p value fault)
        | .ok n => .ok { kept with index := some n }
      else .ok kept

/-- Looks at the value that waits. -/
def settle (s : Said) : Except Mistake Said :=
  match s.pending with
  | none => .ok s
  | some (p, value) => { s with pending := none }.accept p value

def isWaiting (s : Said) : Bool :=
  match s.pending with
  | some (_, none) => true
  | _ => false

def halting {α : Type} (e : Except Mistake α) : Except Halt α :=
  e.mapError .mistake

/-- A switch. That for help has a full text if it is given by its name. -/
def flip (s : Said) (scope : Scope) (full : Bool) (switch : Switch) : Except Halt Said := do
  let s ← halting s.settle
  match switch with
  | .help => throw (.help scope full)
  | .version => throw (.version scope)
  | switch =>
    if switch ∈ s.switches then throw (.mistake (.repeated (.switch switch)))
    else return { s with switches := s.switches ++ [switch] }

/-- A parameter whose value is in the same word. -/
def attach (s : Said) (p : Parameter) (value : String) : Except Halt Said := do
  let s ← halting s.settle
  halting (s.accept p (some value))

/-- A parameter whose value is the next word. -/
def await (s : Said) (p : Parameter) : Except Halt Said := do
  let s ← halting s.settle
  return { s with pending := some (p, none) }

/-- An argument by its name, possibly with a value in the same word. -/
def takeNamed (s : Said) (scope : Scope) (name : String) (value : Option String) :
    Except Halt Said :=
  match scope.named? name, value with
  | none, _ => .error (.mistake (.unexpectedWord ("--" ++ name)))
  | some (.switch switch), some value => .error (.mistake (.unwantedValue switch value))
  | some (.switch switch), none => s.flip scope true switch
  | some (.parameter p), some value => s.attach p value
  | some (.parameter p), none => s.await p

/-- Arguments by their letters; the rest of the word is the value of the first that has one. -/
def takeLetters (s : Said) (scope : Scope) : List Char → Except Halt Said
  | [] => .ok s
  | c :: rest =>
    match scope.lettered? c with
    | none => .error (.mistake (.unexpectedWord ("-" ++ c.toString)))
    | some (.switch switch) => do (← s.flip scope false switch).takeLetters scope rest
    | some (.parameter p) =>
      match rest with
      | [] => s.await p
      | '=' :: value => s.attach p (String.ofList value)
      | value => s.attach p (String.ofList value)

end Said

/-- A word of the command line, by its hyphens. -/
inductive Word where
  | separator
  | named (name : String) (value : Option String)
  | lettered (letters : List Char)
  | bare
  deriving Repr, DecidableEq

/-- Tells words apart by their hyphens. -/
def Word.ofString (word : String) : Word :=
  match word.toList with
  | ['-', '-'] => .separator
  | '-' :: '-' :: rest =>
    let name := String.ofList (rest.takeWhile (· ≠ '='))
    match rest.dropWhile (· ≠ '=') with
    | [] => .named name none
    | _ :: value => .named name (some (String.ofList value))
  | '-' :: c :: rest => .lettered (c :: rest)
  | _ => .bare

/-- A word that no argument or command takes. -/
def stray (scope : Scope) (afterSeparator : Bool) (word : String) : Mistake :=
  if scope.commands = [] || (afterSeparator && (scope.command? word).isSome) then
    .unexpectedWord word
  else .unknownCommand word

/-- The help that the words after the command for it ask for. -/
def helpOn (scope : Scope) : List String → Halt
  | [] => .help scope true
  | word :: rest =>
    match scope.command? word with
    | some command => helpOn command rest
    | none => .mistake (.unknownCommand word)

/-- Reads words after what was said, and after the separator or not. The answer is what was said
    there and, if a command is named, what was said inside that. -/
def readWords (scope : Scope) (s : Said) (afterSeparator : Bool) :
    List String → Except Halt (Said × Option (Scope × Said))
  | [] => do return (← Said.halting s.settle, none)
  | word :: rest =>
    if afterSeparator then .error (.mistake (stray scope true word))
    else
      match if s.isWaiting then none else scope.command? word with
      | some .help => .error (helpOn scope rest)
      | some command => do
        let (inside, _) ← readWords command .nothing false rest
        return (← Said.halting s.settle, some (command, inside))
      | none =>
        match Word.ofString word with
        | .separator => readWords scope s true rest
        | .named name value => do
          readWords scope (← s.takeNamed scope name value) false rest
        | .lettered letters => do
          readWords scope (← s.takeLetters scope letters) false rest
        | .bare =>
          match s.pending with
          | some (p, none) => readWords scope { s with pending := some (p, some word) } false rest
          | _ => .error (.mistake (stray scope false word))

def Said.request (s : Said) : ComposeRequest where
  profile := s.value? .profile
  computer := s.value? .computer
  username := s.value? .username
  password := s.value? .password
  index := s.index
  subtasks := (s.values.filter (·.1 = .subtask)).map (·.2)
  subtaskDirectory := s.value? .subtaskDirectory

/-- What to do, by the command and what was said inside it. -/
def Said.task? : Option (Scope × Said) → Option Task
  | some (.shell, _) => some .shell
  | some (.compose, s) => some (.compose s.request (s.value? .output))
  | _ => none

def Arguments.parse (words : List String) : Except Halt Arguments := do
  let (outside, command) ← readWords .program .nothing false words
  let inside := (command.map (·.2)).getD .nothing
  return {
    config := inside.value? .config <|> outside.value? .config
    verbose := .verbose ∈ inside.switches || .verbose ∈ outside.switches
    logLevel := inside.value? .logLevel <|> outside.value? .logLevel
    noColor := .noColor ∈ inside.switches || .noColor ∈ outside.switches
    task := Said.task? command }

end RemoteDesk.CommandLine
