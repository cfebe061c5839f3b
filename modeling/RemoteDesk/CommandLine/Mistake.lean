import RemoteDesk.CommandLine.Argument

/-! # Mistakes on the command line -/

namespace RemoteDesk.CommandLine

/-- Why a text is no number of the wanted size. -/
inductive NumberFault where
  | empty
  | notDigit
  | tooLarge
  | tooSmall
  /-- A number of 64 bits that is not wanted. -/
  | outside (n : Int)
  deriving Repr, DecidableEq

def maxIndex : Nat := 4294967295

def NumberFault.message : NumberFault → String
  | .empty => "cannot parse integer from empty string"
  | .notDigit => "invalid digit found in string"
  | .tooLarge => "number too large to fit in target type"
  | .tooSmall => "number too small to fit in target type"
  | .outside n => toString n ++ " is not in 0..=" ++ Nat.repr maxIndex

inductive Mistake where
  | missingValue (p : Parameter)
  | badNumber (p : Parameter) (value : String) (fault : NumberFault)
  /-- A word that is not known where it stands. -/
  | unexpectedWord (word : String)
  | unknownCommand (word : String)
  | repeated (a : Argument)
  | unwantedValue (s : Switch) (value : String)
  deriving Repr, DecidableEq

def Mistake.message : Mistake → String
  | .missingValue p =>
    "a value is required for '" ++ (Argument.parameter p).form ++ "' but none was supplied"
  | .badNumber p value fault =>
    "invalid value '" ++ value ++ "' for '" ++ (Argument.parameter p).form ++ "': " ++ fault.message
  | .unexpectedWord word => "unexpected argument '" ++ word ++ "' found"
  | .unknownCommand word => "unrecognized subcommand '" ++ word ++ "'"
  | .repeated a => "the argument '" ++ a.form ++ "' cannot be used multiple times"
  | .unwantedValue s value =>
    "unexpected value '" ++ value ++ "' for '" ++ (Argument.switch s).form
      ++ "' found; no more were expected"

/-- Why reading the arguments ends before there is anything to do. -/
inductive Halt where
  | help (scope : Scope) (full : Bool)
  | version (scope : Scope)
  | mistake (m : Mistake)
  deriving Repr, DecidableEq

/-- The exit code of a run that ends there. -/
def Halt.exitCode : Halt → Nat
  | .help .. | .version _ => 0
  | .mistake _ => 2

end RemoteDesk.CommandLine
