/-!
Text as the list of its characters, blank characters, trimming and lines.

Every rule of the library recurses on characters, so text is kept as a list of them. Strings appear
only where text enters or leaves the program.
-/

namespace Sweep

abbrev Text := List Char

namespace Text

/-- A character is blank when it has the Unicode property White_Space. -/
def isBlank (c : Char) : Bool :=
  let n := c.toNat
  (9 ≤ n && n ≤ 13) || n == 0x20 || n == 0x85 || n == 0xA0 || n == 0x1680 ||
    (0x2000 ≤ n && n ≤ 0x200A) || n == 0x2028 || n == 0x2029 || n == 0x202F || n == 0x205F ||
    n == 0x3000

def trimStart (t : Text) : Text := t.dropWhile isBlank

def trimEnd (t : Text) : Text := (t.reverse.dropWhile isBlank).reverse

def trim (t : Text) : Text := (trimStart t).trimEnd

/-- The lines of a text. A line ends at a line feed, with or without a carriage return in front of
it, or at the end of a text that does not end in one. -/
def lines : Text → List Text
  | [] => []
  | '\n' :: rest => [] :: lines rest
  | '\r' :: '\n' :: rest => [] :: lines rest
  | c :: rest =>
    match lines rest with
    | [] => [[c]]
    | line :: others => (c :: line) :: others

def after? : (t start : Text) → Option Text
  | t, [] => some t
  | [], _ :: _ => none
  | c :: t, s :: start => if c = s then after? t start else none

/-- The text between two double quotes, if the text begins and ends with one. -/
def unquote? : Text → Option Text
  | '"' :: rest => if rest.getLast? = some '"' then some rest.dropLast else none
  | _ => none

/-- The text in double quotes; quotes inside it stay as they are. -/
def quote (t : Text) : Text := '"' :: t ++ ['"']

def ofNat (n : Nat) : Text := Nat.toDigits 10 n

def join (separator : Text) : List Text → Text
  | [] => []
  | [t] => t
  | t :: others => t ++ separator ++ join separator others

def split (t : Text) (separator : Char) : List Text :=
  let (part, parts) := t.foldr
    (fun c (part, parts) => if c = separator then ([], part :: parts) else (c :: part, parts))
    ([], [])
  part :: parts

end Text

end Sweep
