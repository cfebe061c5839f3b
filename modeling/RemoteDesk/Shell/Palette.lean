/-! # Colors of operator messages -/

namespace RemoteDesk

/-- A color of operator messages. -/
inductive Color where
  | red
  | green
  | yellow
  | blue
  deriving Repr, DecidableEq

/-- The sequence that switches a color on. -/
def Color.code : Color → String
  | .red => "\x1b[31m"
  | .green => "\x1b[32m"
  | .yellow => "\x1b[33m"
  | .blue => "\x1b[34m"

/-- Whether messages are colored. -/
structure Palette where
  enabled : Bool
  deriving Repr, DecidableEq

namespace Palette

/-- The sequence that goes back to the terminal's own color. -/
def plainCode : String := "\x1b[39m"

/-- A text in a color; without colors it stays as it is. -/
def paint (p : Palette) (color : Color) (text : String) : String :=
  if p.enabled then color.code ++ text ++ plainCode else text

end Palette

end RemoteDesk
