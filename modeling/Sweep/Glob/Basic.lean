import Sweep.Text.Bytes

/-!
Globs, and which paths they match.

A glob matches the bytes of a path. A question mark stands for one byte and a star for any number of
them, but neither for a slash. Two stars that make up a whole component stand for any number of
directories. A set in brackets stands for one byte, which may be a slash, and braces hold
alternatives.
-/

namespace Sweep

def slash : UInt8 := 0x2F

namespace Glob

/-- A part of a glob without alternatives. -/
inductive Piece where
  | literal (c : Char)
  /-- One byte that is no slash. -/
  | one
  /-- Bytes that are no slash. -/
  | star
  /-- Directories in front of a path: nothing, or anything up to a slash. -/
  | leadingDirs
  /-- Whatever lies in a directory. -/
  | trailingDirs
  /-- Directories between two components. -/
  | innerDirs
  /-- Any path. -/
  | everything
  /-- One byte of the encodings of a set of characters, or one byte outside of it. -/
  | oneOf (negated : Bool) (ranges : List (Char × Char))
  deriving DecidableEq, Repr

end Glob

/-- A glob. -/
inductive Glob where
  | empty
  | piece (p : Glob.Piece)
  | seq (first second : Glob)
  | either (first second : Glob)
  /-- The alternatives between two braces. -/
  | braces (alternatives : Glob)
  deriving DecidableEq, Repr

namespace Glob

/-- A range of characters within a set in brackets, as bytes. Between two characters lie the bytes
from the last one of the first to the first one of the last; their other bytes stand alone. -/
def rangeContains (b : UInt8) (first last : Char) : Bool :=
  let low := String.utf8EncodeChar first
  let high := String.utf8EncodeChar last
  if first = last then
    low.contains b
  else
    low.dropLast.contains b || high.tail.contains b ||
      (low.getLast?.any (· ≤ b) && high.head?.any (b ≤ ·))

/-- What is left of some bytes behind the bytes of a text in front of them. -/
def dropFront? : (front bytes : Bytes) → Option Bytes
  | [], bytes => some bytes
  | _ :: _, [] => none
  | f :: front, b :: bytes => if f = b then dropFront? front bytes else none

/-- The ends of some bytes behind any number of bytes that are no slash. -/
def starRests : Bytes → List Bytes
  | [] => [[]]
  | b :: rest => if b = slash then [b :: rest] else (b :: rest) :: starRests rest

def slashRests : Bytes → List Bytes
  | [] => []
  | b :: rest => if b = slash then rest :: slashRests rest else slashRests rest

def allRests : Bytes → List Bytes
  | [] => [[]]
  | b :: rest => (b :: rest) :: allRests rest

/-- What may be left of some bytes behind a piece. -/
def Piece.rests (bytes : Bytes) : Piece → List Bytes
  | .literal c => (dropFront? (String.utf8EncodeChar c) bytes).toList
  | .one =>
    match bytes with
    | b :: rest => if b = slash then [] else [rest]
    | [] => []
  | .star => starRests bytes
  | .leadingDirs => bytes :: slashRests bytes
  | .trailingDirs =>
    match bytes with
    | b :: rest => if b = slash then allRests rest else []
    | [] => []
  | .innerDirs =>
    match bytes with
    | b :: rest => if b = slash then rest :: slashRests rest else []
    | [] => []
  | .everything => allRests bytes
  | .oneOf negated ranges =>
    match bytes with
    | b :: rest =>
      if (ranges.any fun (first, last) => rangeContains b first last) != negated then [rest] else []
    | [] => []

def rests : Glob → List Bytes → List Bytes
  | .empty, starts => starts
  | .piece p, starts => (starts.flatMap fun bytes => p.rests bytes).eraseDups
  | .seq first second, starts => second.rests (first.rests starts)
  | .either first second, starts => (first.rests starts ++ second.rests starts).eraseDups
  | .braces alternatives, starts => alternatives.rests starts

/-- Whether the glob matches the whole of a path. -/
def isMatch (g : Glob) (path : Text) : Bool := (g.rests [path.bytes]).contains []

def isBlank : Glob → Bool
  | .empty => true
  | .piece _ => false
  | .seq first second => first.isBlank && second.isBlank
  | .either first second => first.isBlank && second.isBlank
  | .braces alternatives => alternatives.isBlank

def concat : List Glob → Glob
  | [] => .empty
  | [g] => g
  | g :: others => .seq g (concat others)

def choice : List Glob → Glob
  | [] => .empty
  | [g] => g
  | g :: others => .either g (choice others)

def alternate (globs : List Glob) : Glob := choice (globs.filter fun g => !g.isBlank)

/-- The pieces and braces that a glob is made of, in their order. -/
def items : Glob → List Glob
  | .empty => []
  | .seq first second => first.items ++ second.items
  | g => [g]

end Glob

end Sweep
