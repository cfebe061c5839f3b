/-! # UTF-8

Files and file names are bytes; texts are characters. A byte string is read as a row of characters
and of ill-formed stretches, so that both strict reading and showing with replacement characters
are views of one reading.
-/

namespace RemoteDesk

/-- The contents of a file, or a file name. -/
abbrev Bytes := List UInt8

namespace Utf8

def encode (s : String) : Bytes :=
  s.toList.flatMap String.utf8EncodeChar

/-- A byte that continues a character. -/
def isContinuation (b : UInt8) : Bool :=
  0x80 ≤ b && b ≤ 0xbf

/-- The second byte that may follow a first byte of a character of three bytes: it excludes
    surrogates and values that need only two bytes. -/
def isSecondOfThree (a b : UInt8) : Bool :=
  isContinuation b && (a != 0xe0 || 0xa0 ≤ b) && (a != 0xed || b ≤ 0x9f)

/-- The second byte that may follow a first byte of a character of four bytes: it excludes values
    above U+10FFFF and values that need only three bytes. -/
def isSecondOfFour (a b : UInt8) : Bool :=
  isContinuation b && (a != 0xf0 || 0x90 ≤ b) && (a != 0xf4 || b ≤ 0x8f)

/-- The six payload bits of a continuation byte. -/
def low (b : UInt8) : Nat :=
  b.toNat - 0x80

/-- Reads bytes as characters; `none` stands for a longest stretch that starts a character without
    completing it, or for a byte that starts none. -/
def characters : Bytes → List (Option Char)
  | [] => []
  | a :: rest =>
    if a < 0x80 then some (Char.ofNat a.toNat) :: characters rest
    else if a < 0xc2 || 0xf4 < a then none :: characters rest
    else
      match rest with
      | [] => [none]
      | b :: rest₁ =>
        if a < 0xe0 then
          if isContinuation b then
            some (Char.ofNat ((a.toNat - 0xc0) * 64 + low b)) :: characters rest₁
          else none :: characters (b :: rest₁)
        else if a < 0xf0 then
          if isSecondOfThree a b then
            match rest₁ with
            | [] => [none]
            | c :: rest₂ =>
              if isContinuation c then
                some (Char.ofNat (((a.toNat - 0xe0) * 64 + low b) * 64 + low c))
                  :: characters rest₂
              else none :: characters (c :: rest₂)
          else none :: characters (b :: rest₁)
        else
          if isSecondOfFour a b then
            match rest₁ with
            | [] => [none]
            | c :: rest₂ =>
              if isContinuation c then
                match rest₂ with
                | [] => [none]
                | d :: rest₃ =>
                  if isContinuation d then
                    some (Char.ofNat ((((a.toNat - 0xf0) * 64 + low b) * 64 + low c) * 64 + low d))
                      :: characters rest₃
                  else none :: characters (d :: rest₃)
              else none :: characters (c :: rest₂)
          else none :: characters (b :: rest₁)

/-- The text that the bytes spell, if they spell one. -/
def decode? (bytes : Bytes) : Option String :=
  ((characters bytes).mapM id).map String.ofList

/-- The text that the bytes spell, with U+FFFD for each ill-formed stretch. -/
def decodeLossy (bytes : Bytes) : String :=
  String.ofList ((characters bytes).map (·.getD '\uFFFD'))

end Utf8

end RemoteDesk
