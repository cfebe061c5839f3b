/-! # Blank text

Which characters show nothing on a line. The class is Unicode `White_Space`; it decides which lines
are indented, whether a configuration file is empty and whether an operator has a name.
-/

namespace RemoteDesk.Text

/-- Unicode `White_Space`. -/
def isBlankChar (c : Char) : Bool :=
  let n := c.toNat
  (0x09 ≤ n && n ≤ 0x0d) || n == 0x20 || n == 0x85 || n == 0xa0 || n == 0x1680
    || (0x2000 ≤ n && n ≤ 0x200a) || n == 0x2028 || n == 0x2029 || n == 0x202f || n == 0x205f
    || n == 0x3000

def isBlank (s : String) : Bool :=
  s.toList.all isBlankChar

def trimStart (cs : List Char) : List Char :=
  cs.dropWhile isBlankChar

def trim (cs : List Char) : List Char :=
  (trimStart (trimStart cs).reverse).reverse

end RemoteDesk.Text
