import Sweep.Regex.Node

/-!
Flags of a regular expression, and what a single item of an expression means under them.

Without the Unicode flag, classes hold ASCII characters alone; what could match part of a character
is refused.
-/

namespace Sweep.Regex

open Unicode (CharClass)

structure Flags where
  ignoreCase : Bool := false
  multiLine : Bool := false
  dotMatchesLineFeed : Bool := false
  swapGreed : Bool := false
  unicode : Bool := true
  anyLineEnd : Bool := false
  ignoreSpace : Bool := false
  deriving DecidableEq, Repr

namespace Flags

def set? (flags : Flags) (letter : Char) (value : Bool) : Option Flags :=
  match letter with
  | 'i' => some { flags with ignoreCase := value }
  | 'm' => some { flags with multiLine := value }
  | 's' => some { flags with dotMatchesLineFeed := value }
  | 'U' => some { flags with swapGreed := value }
  | 'u' => some { flags with unicode := value }
  | 'R' => some { flags with anyLineEnd := value }
  | 'x' => some { flags with ignoreSpace := value }
  | _ => none

/-- Reads flags up to a colon or a closing parenthesis, which is returned. A dash turns off the
flags behind it; nothing may occur twice, and a dash may not be the last. -/
def read? (flags : Flags) (negated : Bool) (seen : List Char) : Text → Option (Flags × Char × Text)
  | [] => none
  | c :: rest =>
    if c = ':' ∨ c = ')' then
      if seen.head? = some '-' ∨ (c = ')' ∧ seen = []) then none else some (flags, c, rest)
    else if c ∈ seen then none
    else if c = '-' then flags.read? true (c :: seen) rest
    else
      match flags.set? c (!negated) with
      | some changed => changed.read? negated (c :: seen) rest
      | none => none

def fold (flags : Flags) (c : CharClass) : CharClass :=
  if flags.ignoreCase then
    if flags.unicode then .foldCase c else .foldAsciiCase c
  else
    c

/-- A class, or the characters outside it. Without the Unicode flag the outside is refused: it holds
single bytes that are no characters. -/
def negate? (flags : Flags) (negated : Bool) (c : CharClass) : Option CharClass :=
  if negated then
    if flags.unicode then some c.compl else none
  else
    some c

def dot? (flags : Flags) : Option CharClass :=
  if !flags.unicode then none
  else if flags.dotMatchesLineFeed then some .all
  else if flags.anyLineEnd then some (.compl (.union (.char '\n') (.char '\r')))
  else some (.compl (.char '\n'))

def caret (flags : Flags) : Assertion :=
  if !flags.multiLine then .textStart
  else if flags.anyLineEnd then .anyLineStart
  else .lineStart

def dollar (flags : Flags) : Assertion :=
  if !flags.multiLine then .textEnd
  else if flags.anyLineEnd then .anyLineEnd
  else .lineEnd

end Flags

def asciiClass? (name : Text) : Option CharClass :=
  let digit := CharClass.range '0' '9'
  let lower := CharClass.range 'a' 'z'
  let upper := CharClass.range 'A' 'Z'
  let named :=
    [("alnum", CharClass.unions [digit, lower, upper]),
      ("alpha", .union lower upper),
      ("ascii", .ascii),
      ("blank", .ofList ['\t', ' ']),
      ("cntrl", .union (.range '\x00' '\x1f') (.char '\x7f')),
      ("digit", digit),
      ("graph", .range '!' '~'),
      ("lower", lower),
      ("print", .range ' ' '~'),
      ("punct", .unions [.range '!' '/', .range ':' '@', .range '[' '\x60', .range '\x7b' '~']),
      ("space", .union (.range '\t' '\r') (.char ' ')),
      ("upper", upper),
      ("word", .unions [digit, lower, upper, .char '_']),
      ("xdigit", .unions [digit, .range 'a' 'f', .range 'A' 'F'])]
  (named.find? fun entry => entry.1.toList == name).map (·.2)

def letterClass? (unicode : Bool) (letter : Char) : Option CharClass :=
  match letter with
  | 'd' => if unicode then some Unicode.digitClass else asciiClass? "digit".toList
  | 's' => if unicode then some Unicode.spaceClass else asciiClass? "space".toList
  | 'w' => if unicode then some Unicode.wordClass else asciiClass? "word".toList
  | _ => none

inductive Primitive where
  /-- A character. `byte` says that it is written as two hexadecimal digits. -/
  | literal (c : Char) (byte : Bool)
  | dot
  | caret
  | dollar
  | textStart
  | textEnd
  | word (edge : WordEdge)
  /-- One of `d`, `s` and `w`. -/
  | letter (letter : Char) (negated : Bool)
  /-- A Unicode property by name, or by name and value. -/
  | property (negated : Bool) (name : Text) (value : Option Text)
  deriving DecidableEq, Repr

namespace Primitive

/-- The class of characters that an item stands for within brackets. -/
def charClass? (flags : Flags) : Primitive → Option CharClass
  | .literal c _ => if !flags.unicode && 127 < c.toNat then none else some (.char c)
  | .letter sort negated => (letterClass? flags.unicode sort).bind (flags.negate? negated)
  | .property negated name value =>
    if flags.unicode then
      let found := match value with
        | none => CharClass.ofName? name
        | some value => CharClass.ofValue? name value
      (found.map flags.fold).bind (flags.negate? negated)
    else
      none
  | _ => none

def node? (flags : Flags) : Primitive → Option Node
  | .literal c byte =>
    if !flags.unicode && byte && 127 < c.toNat then none
    else some (.char (flags.fold (.char c)))
  | .dot => flags.dot?.map .char
  | .caret => some (.assertion flags.caret)
  | .dollar => some (.assertion flags.dollar)
  | .textStart => some (.assertion .textStart)
  | .textEnd => some (.assertion .textEnd)
  | .word edge => some (.assertion (.word edge (!flags.unicode)))
  | item => (item.charClass? flags).map .char

end Primitive

end Sweep.Regex
