import RemoteDesk.Error
import RemoteDesk.Text.Alphanumeric
import RemoteDesk.Text.Blank

/-! # Filters for diagnostics

A filter is a row of directives, parted by commas. A directive names a level, or what it is about and
possibly a level for that. Only whether a filter can be read is decided here.
-/

namespace RemoteDesk.Filter

/-- Why a filter cannot be read. -/
inductive Fault where
  | invalidDirective
  | invalidLevel
  deriving Repr, DecidableEq

def Fault.message : Fault → String
  | .invalidDirective => "invalid filter directive"
  | .invalidLevel =>
    "error parsing level filter: expected one of \"off\", \"error\", \"warn\", \"info\", "
      ++ "\"debug\", \"trace\", or a number 0-5"

def levelNames : List String := ["off", "error", "warn", "info", "debug", "trace"]

/-- A capital letter of the alphabet made small. -/
def lowerLetter (c : Char) : Char :=
  if 'A' ≤ c ∧ c ≤ 'Z' then Char.ofNat (c.toNat + 32) else c

/-- A number from zero to five, possibly with a plus sign and with zeros in front. -/
def isLevelNumber (cs : List Char) : Bool :=
  let digits := if cs.head? = some '+' then cs.tail else cs
  digits.all Char.isDigit
    && match digits.reverse with
      | [] => false
      | last :: before => last ≤ '5' && before.all (· == '0')

/-- A level, in whatever case; nothing stands for one too. -/
def isLevel (cs : List Char) : Bool :=
  cs.isEmpty || isLevelNumber cs || String.ofList (cs.map lowerLetter) ∈ levelNames

/-- What a directive is made of, from left to right. -/
inductive Part where
  | start
  /-- A level, or the name of what the directive is about. -/
  | name
  | span
  /-- A field of a span, in braces; whether something of it was read. -/
  | field (begun : Bool)
  | afterFields
  | afterSpan

def startsName (c : Char) : Bool :=
  c == '-' || c == ':' || c == '_' || Text.isAlphanumeric c

/-- Reads a directive from a part on. A level behind an equals sign must stand alone, without the blank
    characters that may otherwise be around a directive; `isBare` says that there are none. -/
def checkFrom (isBare : Bool) : Part → List Char → Except Fault Unit
  | .name, [] | .afterSpan, [] => .ok ()
  | _, [] => .error .invalidDirective
  | .start, c :: rest =>
    if c = '[' then checkFrom isBare .span rest
    else if startsName c then checkFrom isBare .name rest
    else .error .invalidDirective
  | .name, c :: rest =>
    if c = '=' then checkLevel rest
    else checkFrom isBare (if c = '[' then .span else .name) rest
  | .span, c :: rest =>
    checkFrom isBare (if c = ']' then .afterSpan else if c = '\x7b' then .field false else .span)
      rest
  | .field begun, c :: rest =>
    if c = '\x7d' then
      if begun then checkFrom isBare .afterFields rest else .error .invalidDirective
    else checkFrom isBare (.field true) rest
  | .afterFields, c :: rest =>
    if c = ']' then checkFrom isBare .afterSpan rest else .error .invalidDirective
  | .afterSpan, c :: rest => if c = '=' then checkLevel rest else .error .invalidDirective
where
  /-- A level behind an equals sign. -/
  checkLevel (cs : List Char) : Except Fault Unit :=
    if isBare && isLevel cs then .ok () else .error .invalidLevel

def checkDirective (cs : List Char) : Except Fault Unit :=
  let bare := Text.trim cs
  checkFrom (bare == cs) .start bare

/-- The stretches between commas that are not empty. -/
def directives (filter : String) : List (List Char) :=
  (filter.toList.splitBy fun a b => a ≠ ',' ∧ b ≠ ',').filter (· ≠ [','])

def check (filter : String) : Except Fault Unit :=
  (directives filter).forM checkDirective

/-- The level that is filtered by where no filter is named. -/
def defaultLevel (verbose : Bool) : String :=
  if verbose then "debug" else "warn"

/-- Makes sure that there is a filter: the one of the environment if it can be read, or else the one
    of the command line. -/
def choose (environment commandLine : Option String) (verbose : Bool) : Except DeskError Unit :=
  if environment.any fun filter => (check filter).toBool then .ok ()
  else
    let level := commandLine.getD (defaultLevel verbose)
    (check level).mapError fun fault => .invalidLogLevel level fault.message

end RemoteDesk.Filter
