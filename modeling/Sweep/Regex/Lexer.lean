import Sweep.Regex.Flags

/-!
Reading the small parts of a regular expression: ignored space, escapes, numbers and names.

Each reader takes the text that is left and returns what it read together with the text behind it.
-/

namespace Sweep.Regex

/-- Drops blanks and comments, which reach from `#` to the end of the line. -/
def dropIgnored : (inComment : Bool) → Text → Text
  | _, [] => []
  | true, c :: rest => dropIgnored (c != '\n') rest
  | false, c :: rest =>
    if Text.isBlank c then dropIgnored false rest
    else if c == '#' then dropIgnored true rest
    else c :: rest

def Flags.skip (flags : Flags) (t : Text) : Text :=
  if flags.ignoreSpace then dropIgnored false t else t

def readBraced (ignoreSpace : Bool) : (inComment : Bool) → Text → Option (Text × Text)
  | _, [] => none
  | true, c :: rest => readBraced ignoreSpace (c != '\n') rest
  | false, c :: rest =>
    if c == '\x7d' then some ([], rest)
    else if ignoreSpace && Text.isBlank c then readBraced ignoreSpace false rest
    else if ignoreSpace && c == '#' then readBraced ignoreSpace true rest
    else (readBraced ignoreSpace false rest).map fun (read, left) => (c :: read, left)

def readDigits (ignoreSpace : Bool) : (inComment : Bool) → Text → Text × Text
  | _, [] => ([], [])
  | true, c :: rest => readDigits ignoreSpace (c != '\n') rest
  | false, c :: rest =>
    if c.isDigit then
      let (read, left) := readDigits ignoreSpace false rest
      (c :: read, left)
    else if ignoreSpace && Text.isBlank c then readDigits ignoreSpace false rest
    else if ignoreSpace && c == '#' then readDigits ignoreSpace true rest
    else ([], c :: rest)

def charOfHex? (digits : Text) : Option Char :=
  let n := hexNumber digits
  if n.isValidChar then some (Char.ofNat n) else none

def readHexDigits (flags : Flags) : (count : Nat) → Text → Option (Text × Text)
  | 0, t => some ([], t)
  | count + 1, t =>
    match flags.skip t with
    | c :: rest =>
      if isHexDigit c then
        (readHexDigits flags count rest).map fun (digits, left) => (c :: digits, left)
      else
        none
    | [] => none

/-- A code point after `\x`, `\u` or `\U`: two, four or eight digits, or any number in braces. -/
def readHex (flags : Flags) (kind : Char) (t : Text) : Option (Primitive × Text) :=
  match flags.skip t with
  | '\x7b' :: rest =>
    match readBraced flags.ignoreSpace false rest with
    | some (digits, left) =>
      if !digits.isEmpty && digits.all isHexDigit then
        (charOfHex? digits).map fun c => (.literal c false, left)
      else
        none
    | none => none
  | t =>
    let count := if kind = 'x' then 2 else if kind = 'u' then 4 else 8
    match readHexDigits flags count t with
    | some (digits, left) => (charOfHex? digits).map fun c => (.literal c (kind = 'x'), left)
    | none => none

/-- The part of a text in front of the first occurrence of `separator`, and the part behind it. -/
def cutAt? (separator : Text) : Text → Option (Text × Text)
  | [] => none
  | c :: rest =>
    match Text.after? (c :: rest) separator with
    | some left => some ([], left)
    | none => (cutAt? separator rest).map fun (front, left) => (c :: front, left)

/-- A property in braces: a name, or a name and a value between `!=`, `:` or `=`, the first of which
takes the complement. -/
def propertyOf (negated : Bool) (t : Text) : Primitive :=
  match cutAt? ['!', '='] t with
  | some (name, value) => .property (!negated) name (some value)
  | none =>
    match (cutAt? [':'] t).or (cutAt? ['='] t) with
    | some (name, value) => .property negated name (some value)
    | none => .property negated t none

/-- A property after `\p` or `\P`: a single letter, or a name in braces. -/
def readProperty (flags : Flags) (negated : Bool) (t : Text) : Option (Primitive × Text) :=
  match flags.skip t with
  | '\x7b' :: rest =>
    (readBraced flags.ignoreSpace false rest).map fun (name, left) =>
      (propertyOf negated name, left)
  | '\\' :: _ => none
  | c :: rest => some (.property negated [c] none, rest)
  | [] => none

def wordEdge? (name : Text) : Option WordEdge :=
  if name == "start".toList then some .start
  else if name == "end".toList then some .stop
  else if name == "start-half".toList then some .startHalf
  else if name == "end-half".toList then some .stopHalf
  else none

/-- What follows `\b`. A brace with a letter or a dash behind it names a word edge; any other brace
begins a repetition. -/
def readWordEdge (flags : Flags) (t : Text) : Option (Primitive × Text) :=
  match t with
  | '\x7b' :: rest =>
    match flags.skip rest with
    | [] => none
    | c :: _ =>
      if c.isAlpha || c == '-' then
        match readBraced flags.ignoreSpace false rest with
        | some (name, left) => (wordEdge? name).map fun edge => (.word edge, left)
        | none => none
      else
        some (.word .boundary, t)
  | _ => some (.word .boundary, t)

def isMeta (c : Char) : Bool := "\\.+*?()|[]\x7b\x7d^$#&-~".toList.contains c

/-- Characters that a backslash keeps as they are: the meta characters, and all of ASCII except
letters, digits and angle brackets. -/
def isEscapable (c : Char) : Bool :=
  isMeta c || (c.toNat < 128 && !c.isAlphanum && c != '<' && c != '>')

def readEscape (flags : Flags) : Text → Option (Primitive × Text)
  | [] => none
  | c :: rest =>
    if c = 'x' ∨ c = 'u' ∨ c = 'U' then readHex flags c rest
    else if c = 'p' ∨ c = 'P' then readProperty flags (c = 'P') rest
    else if c = 'd' ∨ c = 's' ∨ c = 'w' then some (.letter c false, rest)
    else if c = 'D' ∨ c = 'S' ∨ c = 'W' then some (.letter c.toLower true, rest)
    else if isEscapable c then some (.literal c false, rest)
    else
      match c with
      | 'a' => some (.literal '\x07' false, rest)
      | 'f' => some (.literal '\x0c' false, rest)
      | 't' => some (.literal '\t' false, rest)
      | 'n' => some (.literal '\n' false, rest)
      | 'r' => some (.literal '\r' false, rest)
      | 'v' => some (.literal '\x0b' false, rest)
      | 'A' => some (.textStart, rest)
      | 'z' => some (.textEnd, rest)
      | 'b' => readWordEdge flags rest
      | 'B' => some (.word .interior, rest)
      | '<' => some (.word .start, rest)
      | '>' => some (.word .stop, rest)
      | _ => none

def readCount (flags : Flags) (t : Text) : Option Nat × Text :=
  let (digits, left) := readDigits flags.ignoreSpace false (Text.trimStart t)
  let n := digits.foldl (fun n c => 10 * n + (c.toNat - '0'.toNat)) 0
  let left := if flags.ignoreSpace then flags.skip left else Text.trimStart left
  (if digits.isEmpty || UInt32.size ≤ n then none else some n, left)

def readBounds (flags : Flags) (t : Text) : Option ((Nat × Option Nat) × Text) :=
  match readCount flags (flags.skip t) with
  | (some min, '\x7d' :: left) => some ((min, some min), left)
  | (some min, ',' :: left) =>
    match flags.skip left with
    | '\x7d' :: left => some ((min, none), left)
    | left =>
      match readCount flags left with
      | (some max, '\x7d' :: left) => if min ≤ max then some ((min, some max), left) else none
      | _ => none
  | _ => none

/-- A letter; the table of letters is asked only about characters outside of ASCII. -/
def isLetter (c : Char) : Bool :=
  if c.toNat < 128 then c.isAlpha else Unicode.alphabeticClass.contains c

def isNumeric (c : Char) : Bool :=
  if c.toNat < 128 then c.isDigit else Unicode.numericClass.contains c

def isGroupNameStart (c : Char) : Bool := c == '_' || isLetter c

def isGroupNameChar (c : Char) : Bool :=
  isGroupNameStart c || c == '.' || c == '[' || c == ']' || isNumeric c

def readGroupName (t : Text) : Option (Text × Text) :=
  match t.takeWhile (· != '>'), t.dropWhile (· != '>') with
  | c :: name, _ :: left =>
    if isGroupNameStart c && name.all isGroupNameChar then some (c :: name, left) else none
  | _, _ => none

end Sweep.Regex
