import RemoteDesk.Error
import RemoteDesk.Text.Blank

/-! # Configuration

The settings of a run, their defaults and the rules they must keep. Of several broken rules the first
one is reported.
-/

namespace RemoteDesk

/-- The settings of a run. -/
structure Config where
  /-- Shown at the start of the shell prompt. -/
  operatorName : String
  /-- The index of the first task; later tasks count up from it. -/
  firstTaskIndex : UInt32
  color : Bool
  /-- Where finished scripts are written; without it they are printed when the shell ends. -/
  outputDirectory : Option String
  /-- The extension of written scripts, without a dot. -/
  scriptExtension : String
  fragmentGlob : String
  /-- The audit log; without it none is kept. -/
  eventsFile : Option String
  /-- Credentials are typed literally. -/
  escapeCredentials : Bool
  deriving Repr, DecidableEq

namespace Config

/-- The settings of a run that sets nothing. -/
def default : Config where
  operatorName := "deskscript"
  firstTaskIndex := 1
  color := true
  outputDirectory := none
  scriptExtension := "au3"
  fragmentGlob := "*.au3"
  eventsFile := none
  escapeCredentials := false

/-- The file that holds the settings when no other is named. -/
def fileName : String := "deskscript.yaml"

def bareExtension (extension : String) : String :=
  String.ofList (extension.toList.dropWhile (· = '.'))

/-- The rules for settings. -/
def validate (c : Config) : Except DeskError Unit :=
  if c.firstTaskIndex = 0 then .error .zeroFirstIndex
  else if Text.isBlank c.operatorName then .error .blankOperatorName
  else if c.scriptExtension = "" then .error .emptyExtension
  else if c.scriptExtension.toList.head? = some '.' then
    .error (.dottedExtension c.scriptExtension (bareExtension c.scriptExtension))
  else
    match Glob.parse c.fragmentGlob with
    | .error e => .error (.invalidFragmentGlob c.fragmentGlob e)
    | .ok _ => .ok ()

end Config

end RemoteDesk
