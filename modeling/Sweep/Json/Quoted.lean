import Sweep.Text.Hex

/-!
Strings of JSON texts: the text between two double quotes.

A quote, a backslash and the characters below the space are written by escapes. An escape of four
hexadecimal digits stands for a UTF-16 unit, and two of them may make up a surrogate pair.
-/

namespace Sweep.Json

def shortEscape? : Char → Option Char
  | '"' => some '"'
  | '\\' => some '\\'
  | '\x08' => some 'b'
  | '\x0c' => some 'f'
  | '\n' => some 'n'
  | '\r' => some 'r'
  | '\t' => some 't'
  | _ => none

def escape (c : Char) : Text :=
  match shortEscape? c with
  | some letter => ['\\', letter]
  | none => if c.toNat < 0x20 then "\\u00".toList ++ hexByte c.toNat else [c]

def quote (t : Text) : Text := '"' :: t.flatMap escape ++ ['"']

def unescape? : Char → Option Char
  | '"' => some '"'
  | '\\' => some '\\'
  | '/' => some '/'
  | 'b' => some '\x08'
  | 'f' => some '\x0c'
  | 'n' => some '\n'
  | 'r' => some '\r'
  | 't' => some '\t'
  | _ => none

/-- Reads a string from behind its opening quote: its characters and units, and the number of
characters up to the closing quote. -/
def readUnits : Text → Option (List Nat × Nat)
  | [] => none
  | '"' :: _ => some ([], 1)
  | '\\' :: 'u' :: a :: b :: c :: d :: rest =>
    if [a, b, c, d].all isHexDigit then
      (readUnits rest).map fun (units, length) => (hexNumber [a, b, c, d] :: units, length + 6)
    else
      none
  | '\\' :: letter :: rest =>
    match unescape? letter with
    | some c => (readUnits rest).map fun (units, length) => (c.toNat :: units, length + 2)
    | none => none
  | c :: rest =>
    if c.toNat < 0x20 then none
    else (readUnits rest).map fun (units, length) => (c.toNat :: units, length + 1)

def isHighSurrogate (n : Nat) : Bool := 0xD800 ≤ n && n < 0xDC00

def isLowSurrogate (n : Nat) : Bool := 0xDC00 ≤ n && n < 0xE000

/-- The text of characters and units, unless a surrogate stands alone. -/
def ofUnits? : List Nat → Option Text
  | [] => some []
  | high :: low :: rest =>
    if isHighSurrogate high then
      if isLowSurrogate low then
        (ofUnits? rest).map (Char.ofNat (0x10000 + 0x400 * (high - 0xD800) + (low - 0xDC00)) :: ·)
      else
        none
    else if isLowSurrogate high then
      none
    else
      (ofUnits? (low :: rest)).map (Char.ofNat high :: ·)
  | [n] => if isHighSurrogate n || isLowSurrogate n then none else some [Char.ofNat n]

end Sweep.Json
