import RemoteDesk.Text.Case

/-! # Lower case

A text in lower case. Characters are changed one by one, but for two rules: a capital I with a dot
keeps the dot as a mark of its own, and a capital sigma that ends a word takes its final form.
-/

namespace RemoteDesk.Text

def capitalSigma : Char := '\u03a3'

/-- The lower-case form of a character, out of context. -/
def lowerChar (c : Char) : List Char :=
  if c.toNat = 0x130 then ['i', '\u0307']
  else
    match caseRuns.findSome? (·.lower? c.toNat) with
    | some n => [Char.ofNat n]
    | none => [c]

/-- The nearest character that is not passed over is cased. -/
def meetsCased (cs : List Char) : Bool :=
  match cs.dropWhile isCaseIgnorable with
  | [] => false
  | c :: _ => isCased c

/-- Lower-cases the rest of a text, given the characters before it, last one first. -/
def lowercaseFrom (before : List Char) : List Char → List Char
  | [] => []
  | c :: rest =>
    let lower :=
      if c = capitalSigma then [if meetsCased before && !meetsCased rest then '\u03c2' else '\u03c3']
      else lowerChar c
    lower ++ lowercaseFrom (c :: before) rest

def lowercase (s : String) : String :=
  String.ofList (lowercaseFrom [] s.toList)

end RemoteDesk.Text
