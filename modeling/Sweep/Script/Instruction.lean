import Sweep.Script.Basic

/-!
The shapes of a script line.

A keyword is followed by at least one blank. A `filter` or `in` line then carries a glob, any other
keyword a text in double quotes that reaches to the last quote of the line. No payload holds a line
feed. A line of a name, an equals sign and a quoted text assigns a variable.
-/

namespace Sweep

/-- A script line by its shape, with its payload as written. -/
inductive Instruction where
  | filter (payload : Text)
  | files (payload : Text)
  | search (mode : SearchMode) (payload : Text)
  | replacement (payload : Text)
  | assign (name value : Text)
  | unrecognized
  deriving DecidableEq, Repr

namespace Instruction

/-- A line without instruction: nothing, or a comment. -/
def isIgnorable (line : Text) : Bool := line.isEmpty || "//".toList.isPrefixOf line

def argument? (keyword : Keyword) (line : Text) : Option Text :=
  match line.after? keyword.text with
  | some (c :: rest) => if Text.isBlank c then some (Text.trimStart rest) else none
  | _ => none

/-- A payload stays on one line. -/
def singleLine? (payload : Text) : Option Text :=
  if '\n' ∈ payload then none else some payload

def globArgument? (keyword : Keyword) (line : Text) : Option Text :=
  (argument? keyword line).bind singleLine?

def quotedArgument? (keyword : Keyword) (line : Text) : Option Text :=
  ((argument? keyword line).bind Text.unquote?).bind singleLine?

/-- Variable names are made of ASCII letters, digits and underscores. -/
def isNameChar (c : Char) : Bool := c.isAlphanum || c == '_'

def assignment? (line : Text) : Option (Text × Text) :=
  let name := line.takeWhile isNameChar
  match name, Text.trimStart (line.dropWhile isNameChar) with
  | _ :: _, '=' :: rest =>
    ((Text.unquote? (Text.trimStart rest)).bind singleLine?).map (name, ·)
  | _, _ => none

/-- The instruction on a trimmed line. The first shape that fits wins, so a line that begins with
`filter` or `in` is never an assignment to a variable of that name. -/
def ofLine (line : Text) : Instruction :=
  match globArgument? .filter line with
  | some payload => .filter payload
  | none =>
  match globArgument? .files line with
  | some payload => .files payload
  | none =>
  match quotedArgument? .replace line with
  | some payload => .search .literal payload
  | none =>
  match quotedArgument? .replaceRegex line with
  | some payload => .search .regex payload
  | none =>
  match quotedArgument? .replacement line with
  | some payload => .replacement payload
  | none =>
  match assignment? line with
  | some (name, value) => .assign name value
  | none => .unrecognized

/-- The glob in a payload: trimmed, and without one pair of double quotes around it. -/
def globOf (payload : Text) : Text :=
  let trimmed := payload.trim
  match trimmed.unquote? with
  | some inner => inner.trim
  | none => trimmed

end Instruction

end Sweep
