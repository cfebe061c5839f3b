import RemoteDesk.Text.Lines

/-! # Connecting, in a script

A script declares and calls one entry function. The function opens the connection dialog, types the
three credentials, calls the subtasks and closes the window. Every block is text around the few
values that vary; values are joined to it as they are.
-/

namespace RemoteDesk.Script

/-- What the name of every entry function starts with. -/
def keyStem : String := "RemoteDesktop_"

/-- The name of the entry function of a task, which is also the key of the task. -/
def taskKey (index : UInt32) : String :=
  keyStem ++ Nat.repr index.toNat

/-- What stands before each line of the call section inside the entry function. -/
def callMargin : String := "        "

/-- The banner, and the call of the entry function. -/
def declaration (index : UInt32) : String :=
  Text.unlines ["",
    "; < --------------------------------------- >",
    ";         RemoteDesktop Interaction        ",
    "; < --------------------------------------- >",
    ""] ++ taskKey index ++ "()\n\n"

/-- Opens the connection dialog, up to its first field. -/
def openPrelude : String :=
  Text.unlines ["",
    "    ; Creates a RemoteDesktop Interaction",
    "",
    "    Send(\"#r\")",
    "    ; Wait 10 seconds for the Run dialogue window to appear.",
    "    WinWaitActive(\"Run\", \"\", 10)",
    "    ; note this needs to be escaped",
    "    ; <PROGRAM EXECUTION>",
    "    Send(\"mstsc\x7bENTER\x7d\")",
    "    WinWaitActive(\"Remote Destop Connection\", \"\", 10)",
    "    ;SendKeepActive(\"[CLASS:OpusApp]\") get the name of this class",
    "    ; Send ALT 'o' to open the RDP options",
    "    Send(\"!o\")",
    "    Sleep(2000)",
    "    ;Send ALT 'c' to focus to computer",
    "    Send(\"!c\")",
    "    Sleep(2000)",
    "",
    "    ; Send RDP Connection Informaiton"]

/-- Accepts the connection and gives its window the focus. -/
def openEpilogue : String :=
  Text.unlines [
    "    Send(\"!y\")",
    "",
    "    ; pins the RDP connection as focus",
    "    WinWaitActive(\"[CLASS:TscShellContainerClass]\")",
    "    SendKeepActive(\"[CLASS:TscShellContainerClass]\")",
    "",
    "    ; sends key strokes to RDP session to focus Windows key",
    "    Send(\"\x7bALT\x7d\x7bHOME\x7d\")",
    ""]

/-- The key that moves to the next field of the dialog. -/
def tabKey : String := "\x7bTAB\x7d"

/-- The key that confirms a field of the dialog. -/
def enterKey : String := "\x7bENTER\x7d"

/-- Types a value and then presses a key. -/
def sendStatement (value key : String) : String :=
  "    Send(\"" ++ value ++ key ++ "\")\n"

/-- Waits for the dialog to take a value in. -/
def entryDelay : String := "    Sleep(2000)\n"

/-- Types one credential, presses a key and waits. -/
def typeEntry (value key : String) : String :=
  sendStatement value key ++ entryDelay

/-- Opens the entry function and the connection. -/
def openSequence (index : UInt32) (computer username password : String) : String :=
  "\n\nFunc " ++ taskKey index ++ "()\n" ++ openPrelude
    ++ typeEntry computer tabKey ++ typeEntry username enterKey ++ typeEntry password enterKey
    ++ openEpilogue

/-- Closes the connection and the entry function. -/
def closeSequence : String :=
  Text.unlines ["",
    "",
    "    Send(\"\x7bCAPSLOCK\x7d\")",
    "    ; Need a short sleep here for focus to restore properly.",
    "    Sleep(150)",
    "    Send(\"\x7bCAPSLOCK\x7d\")",
    "    WinClose(\"[CLASS:TscShellContainerClass]\")",
    "    Sleep(50)",
    "    ; probably need a check for the popup window based on visible text",
    "    ControlClick(\"Remote Desktop Connection\", \"\", \"[Class:Button;Instance:1]\")",
    "    SendKeepActive(\"\")",
    "",
    "EndFunc",
    ""]

end RemoteDesk.Script
