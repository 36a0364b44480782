import Sweep.Json.Quoted

/-!
The tokens of JSON texts.
-/

namespace Sweep.Json

/-- A token. A string in which a surrogate stands alone has no text. -/
inductive Token where
  | openArray
  | closeArray
  | openObject
  | closeObject
  | comma
  | colon
  | null
  | bool (b : Bool)
  | number (text : Text)
  | string (text : Option Text)
  deriving DecidableEq, Repr

def isSpace (c : Char) : Bool := c == ' ' || c == '\t' || c == '\n' || c == '\r'

def afterDigits? : Text → Option Text
  | c :: rest => if c.isDigit then some (rest.dropWhile Char.isDigit) else none
  | [] => none

/-- What follows the whole part of a number. A zero in front stands alone. -/
def afterWhole? : Text → Option Text
  | '0' :: rest => some rest
  | t => afterDigits? t

/-- What follows the decimal places of a number, which may be absent. -/
def afterPlaces? : Text → Option Text
  | '.' :: rest => afterDigits? rest
  | t => some t

def afterExponent? : Text → Option Text
  | c :: rest =>
    if c = 'e' ∨ c = 'E' then
      match rest with
      | '+' :: rest => afterDigits? rest
      | '-' :: rest => afterDigits? rest
      | rest => afterDigits? rest
    else
      some (c :: rest)
  | [] => some []

def afterNumber? (t : Text) : Option Text :=
  let unsigned := match t with
    | '-' :: rest => rest
    | t => t
  ((afterWhole? unsigned).bind afterPlaces?).bind afterExponent?

/-- A word in front of a text, less its first letter, and the number of its remaining letters. -/
def word? (word : Text) (token : Token) (t : Text) : Option (Token × Nat) :=
  (Text.after? t word).map fun _ => (token, word.length)

/-- The token that begins with a character, and how much of the text behind it belongs to it. -/
def Token.read? (c : Char) (rest : Text) : Option (Token × Nat) :=
  match c with
  | '[' => some (.openArray, 0)
  | ']' => some (.closeArray, 0)
  | '\x7b' => some (.openObject, 0)
  | '\x7d' => some (.closeObject, 0)
  | ',' => some (.comma, 0)
  | ':' => some (.colon, 0)
  | 'n' => word? "ull".toList .null rest
  | 't' => word? "rue".toList (.bool true) rest
  | 'f' => word? "alse".toList (.bool false) rest
  | '"' => (readUnits rest).map fun (units, length) => (.string (ofUnits? units), length)
  | c =>
    (afterNumber? (c :: rest)).map fun left =>
      let length := rest.length - left.length
      (.number (c :: rest.take length), length)

/-- The tokens of a text. The next `skip` characters belong to the token read last. -/
def tokensFrom? : (skip : Nat) → Text → Option (List Token)
  | _, [] => some []
  | skip + 1, _ :: rest => tokensFrom? skip rest
  | 0, c :: rest =>
    if isSpace c then tokensFrom? 0 rest
    else
      match Token.read? c rest with
      | some (token, length) => (tokensFrom? length rest).map (token :: ·)
      | none => none

def tokens? (t : Text) : Option (List Token) := tokensFrom? 0 t

end Sweep.Json
