import RemoteDesk.CommandLine.Argument
import RemoteDesk.Text.Lines

/-! # Help texts

What the program says about itself. A help text is short, with an argument on each line, or full, with
the argument above what it is for; only a command that has more to say than its heading has a full
one.
-/

namespace RemoteDesk.CommandLine

namespace Scope

def versionNumber : String := "0.1.0"

/-- What a version is asked of. -/
def fullName : Scope → String
  | .program => Scope.program.name
  | command => Scope.program.name ++ "-" ++ command.name

def versionText (s : Scope) : String :=
  s.fullName ++ " " ++ versionNumber ++ "\n"

/-- What a command is for. -/
def summary : Scope → String
  | .program =>
    "Interactive authoring of remote desktop interactions compiled to AutoIt scripts"
  | .shell => "Start the interactive authoring shell (default)"
  | .compose => "Compile one task without prompting"
  | .help => "Print this message or the help of the given subcommand(s)"

def story? : Scope → Option String
  | .compose =>
    some ("Compile one task without prompting.\n\n"
      ++ "Values come from a YAML profile, from flags, or both (flags win).")
  | _ => none

def usage : Scope → String
  | .program => "Usage: deskscript [OPTIONS] [COMMAND]"
  | .shell => "Usage: deskscript shell [OPTIONS]"
  | .compose => "Usage: deskscript compose [OPTIONS]"
  | .help => "Usage: deskscript help [COMMAND]..."

end Scope

namespace Help

def padded (width : Nat) (text : String) : String :=
  text ++ String.ofList (List.replicate (width - text.length) ' ')

def widest (texts : List String) : Nat :=
  (texts.map String.length).foldl max 0

/-- Lines of two columns. -/
def table (margin : String) (rows : List (String × String)) : List String :=
  let width := widest (rows.map (·.1))
  rows.map fun (left, right) => margin ++ padded width left ++ "  " ++ right

/-- An argument by its letter, if it has one, and its name. -/
def label (a : Argument) : String :=
  match a.letter? with
  | some c => "-" ++ c.toString ++ ", " ++ a.form
  | none => "    " ++ a.form

/-- What an argument is for. Where there are two help texts, each points to the other. -/
def purpose (full : Bool) (s : Scope) : Argument → String
  | .parameter p => p.summary
  | .switch .verbose => "Enable debug diagnostics on stderr"
  | .switch .noColor => "Disable colored output"
  | .switch .version => "Print version"
  | .switch .help =>
    if s.story?.isNone then "Print help"
    else if full then "Print help (see a summary with '-h')"
    else "Print help (see more with '--help')"

def commandLines (s : Scope) : List String :=
  if s.commands = [] then []
  else
    "Commands:" :: table "  " (s.commands.map fun c => (c.name, c.summary)) ++ [""]

/-- The list of arguments with one line for each. -/
def shortLines (s : Scope) : List String :=
  "Options:" :: table "  " (s.arguments.map fun a => (label a, purpose false s a))

/-- The list of arguments with what each is for below it. -/
def fullLines (s : Scope) : List String :=
  "Options:" :: [""].intercalate
    (s.arguments.map fun a => ["  " ++ label a, "          " ++ purpose true s a])

/-- The list of the words that the command for help takes. -/
def topicLines : List String :=
  ["Arguments:", "  [COMMAND]...  Print help for the subcommand(s)"]

def text (s : Scope) (full : Bool) : String :=
  let heading := if full then s.story?.getD s.summary else s.summary
  let details :=
    if s = .help then topicLines
    else if full && s.story?.isSome then fullLines s
    else shortLines s
  Text.unlines ([heading, "", s.usage, ""] ++ commandLines s ++ details)

end Help

end RemoteDesk.CommandLine
