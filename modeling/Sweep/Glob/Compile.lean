import Sweep.Glob.Parser
import Sweep.Regex.Parser

/-!
Compiling globs.

A glob is compiled into a regular expression, which must not nest deeper than the engine allows.
Reading a glob does not check that, and a glob that nests deeper is taken for a mistake of the
program: it ends with a panic.
-/

namespace Sweep

/-- Why there is no result: an error to be reported, or a panic, which ends the program. -/
inductive Failure (ε : Type) where
  | error (e : ε)
  | panic
  deriving DecidableEq, Repr

def Failure.map (f : ε → δ) : Failure ε → Failure δ
  | .error e => .error (f e)
  | .panic => .panic

namespace Glob

/-- The number of bytes or ranges of bytes that a range of characters in brackets comes to. -/
def memberCount (first last : Char) : Nat :=
  let low := (String.utf8EncodeChar first).length
  if first = last then low else low + (String.utf8EncodeChar last).length - 1

/-- How many items the regular expression has for a piece. -/
def Piece.width : Piece → Nat
  | .literal c => (String.utf8EncodeChar c).length
  | .trailingDirs => 2
  | _ => 1

/-- How deep groups, alternatives, lists, repetitions and classes nest in these items. Directories
are `(?:/?|.*/)` in front of a path and `(?:/|/.*/)` within it. -/
def Piece.height : Piece → Nat
  | .literal _ => 0
  | .one => 1
  | .star => 2
  | .leadingDirs => 4
  | .trailingDirs => 1
  | .innerDirs => 4
  | .everything => 1
  | .oneOf _ ranges =>
    let count := ranges.foldl (fun count (first, last) => count + memberCount first last) 0
    if count = 1 then 1 else 2

/-- How many items the regular expression has for a glob. -/
def width : Glob → Nat
  | .empty => 0
  | .piece p => p.width
  | .seq first second => first.width + second.width
  | .either _ _ => 1
  | .braces alternatives => if alternatives.isBlank then 0 else 1

/-- Several items make up a list, which is a level of its own. -/
def listHeight (width height : Nat) : Nat := if 1 < width then height + 1 else height

def isEither : Glob → Bool
  | .either _ _ => true
  | _ => false

/-- How deep the items of a glob nest. Braces are a group, with a level for the alternatives if
there are several. -/
def nesting : Glob → Nat
  | .empty => 0
  | .piece p => p.height
  | .seq first second => max first.nesting second.nesting
  | .either first second =>
    max (listHeight first.width first.nesting) (listHeight second.width second.nesting)
  | .braces alternatives =>
    if alternatives.isBlank then 0
    else
      listHeight alternatives.width alternatives.nesting +
        (if alternatives.isEither then 2 else 1)

/-- How deep the regular expression of a glob nests. It is a list, since the ends of the path stand
around the items. -/
def height (g : Glob) : Nat := g.nesting + 1

def fits (g : Glob) : Bool := g.height ≤ Regex.maxHeight

def compile (pattern : Text) : Except (Failure GlobError) Glob :=
  match parse pattern with
  | .error e => .error (.error e)
  | .ok g => if g.fits then .ok g else .error .panic

end Glob

end Sweep
