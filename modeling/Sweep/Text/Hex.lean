import Sweep.Text.Basic

/-!
Hexadecimal digits.
-/

namespace Sweep

def isHexDigit (c : Char) : Bool :=
  c.isDigit || ('a' ≤ c && c ≤ 'f') || ('A' ≤ c && c ≤ 'F')

def pushHexDigit (n : Nat) (c : Char) : Nat :=
  16 * n + (if c.isDigit then c.toNat - '0'.toNat else c.toLower.toNat - 'a'.toNat + 10)

def hexNumber (digits : Text) : Nat := digits.foldl pushHexDigit 0

def hexByte (n : Nat) : Text := [Nat.digitChar (n / 16), Nat.digitChar (n % 16)]

end Sweep
