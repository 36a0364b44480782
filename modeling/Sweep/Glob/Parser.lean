import Sweep.Glob.Basic

/-!
Reading globs.

A backslash takes the next character as it is. Between brackets a circumflex or an exclamation mark
in front takes the complement, and a closing bracket or a dash in front is a member. Commas separate
alternatives between braces only.
-/

namespace Sweep

inductive GlobFault where
  | unclosedClass
  | invalidRange (first last : Char)
  | unopenedAlternates
  | unclosedAlternates
  | danglingEscape
  /-- The regular expression of a glob nests too deep. The glob is told by its index among those
  compiled with it. -/
  | notCompiled (index : Nat)
  deriving DecidableEq, Repr

def GlobFault.reason : GlobFault → Text
  | .unclosedClass => "unclosed character class; missing ']'".toList
  | .invalidRange first last =>
    "invalid range; '".toList ++ [first] ++ "' > '".toList ++ [last] ++ "'".toList
  | .unopenedAlternates =>
    "unopened alternate group; missing '\x7b' (maybe escape '\x7d' with '[\x7d]'?)".toList
  | .unclosedAlternates =>
    "unclosed alternate group; missing '\x7d' (maybe escape '\x7b' with '[\x7b]'?)".toList
  | .danglingEscape => "dangling '\\'".toList
  | .notCompiled index => "error parsing pattern ".toList ++ Text.ofNat index

structure GlobError where
  pattern : Text
  fault : GlobFault
  deriving DecidableEq, Repr

namespace Glob

/-- Braces whose end has not been reached: the alternatives before the current one, the last first,
and the items in front of the braces. -/
structure OpenBraces where
  branches : List (List Glob)
  outer : List Glob

/-- What has been read of a glob: the items of the current alternative, the last first. -/
structure Reading where
  items : List Glob := []
  stack : List OpenBraces := []
  previous : Option Char := none

/-- The members of a set in brackets, the last first, and the number of characters up to the closing
bracket. A dash between two members makes a range of them. -/
def readRanges : (first inRange : Bool) → (ranges : List (Char × Char)) → Text →
    Except GlobFault (List (Char × Char) × Nat)
  | _, _, _, [] => .error .unclosedClass
  | first, inRange, ranges, c :: rest =>
    let next := fun (inRange : Bool) (ranges : List (Char × Char)) =>
      (readRanges false inRange ranges rest).map fun (all, length) => (all, length + 1)
    if c = ']' ∧ !first then
      .ok (if inRange then ('-', '-') :: ranges else ranges, 1)
    else if c = '-' ∧ !first ∧ !inRange then
      next true ranges
    else
      match inRange, ranges with
      | true, (low, _) :: others =>
        if c < low then .error (.invalidRange low c) else next false ((low, c) :: others)
      | _, ranges => next false ((c, c) :: ranges)

/-- A set from behind its opening bracket, and the number of characters that belong to it. -/
def readSet (t : Text) : Except GlobFault (Piece × Nat) :=
  let (negated, body, sign) := match t with
    | '!' :: rest => (true, rest, 1)
    | '^' :: rest => (true, rest, 1)
    | t => (false, t, 0)
  (readRanges true false [] body).map fun (ranges, length) =>
    (.oneOf negated ranges.reverse, length + sign)

namespace Reading

def push (r : Reading) (p : Piece) : Reading := { r with items := .piece p :: r.items }

/-- Puts directories in place of the slash in front of two stars. Directories that stand there
already stay, or reach to the end if these do. -/
def pushDirs (r : Reading) (atEnd : Bool) : Reading :=
  match r.items with
  | .piece .leadingDirs :: _ => r
  | .piece .trailingDirs :: _ => r
  | items => { r with items := .piece (if atEnd then .trailingDirs else .innerDirs) :: items.tail }

/-- Reads a star, with the text behind it, and returns how much of that text belongs to it. Two
stars that do not make up a component are like one each. -/
def readStar (r : Reading) (rest : Text) : Reading × Nat :=
  let plain := ((r.push .star).push .star, 1)
  match rest with
  | '*' :: rest =>
    if r.items.isEmpty then
      match rest with
      | [] => (r.push .leadingDirs, 1)
      | '/' :: _ => (r.push .leadingDirs, 2)
      | _ => plain
    else if r.previous != some '/' &&
        (r.stack.isEmpty || (r.previous != some ',' && r.previous != some '\x7b')) then
      plain
    else
      match rest with
      | [] => (r.pushDirs true, 1)
      | '/' :: _ => (r.pushDirs false, 2)
      | c :: _ =>
        if !r.stack.isEmpty && (c = ',' || c = '\x7d') then (r.pushDirs true, 1) else plain
  | _ => (r.push .star, 0)

def closeBraces (r : Reading) : Except GlobFault Reading :=
  match r.stack with
  | [] => .error .unopenedAlternates
  | opened :: stack =>
    let branches := (r.items :: opened.branches).reverse.map fun items => concat items.reverse
    .ok { r with items := .braces (alternate branches) :: opened.outer, stack := stack }

/-- Begins the next alternative; outside of braces a comma is like any other character. -/
def comma (r : Reading) : Reading :=
  match r.stack with
  | [] => r.push (.literal ',')
  | opened :: stack =>
    { r with items := [], stack := { opened with branches := r.items :: opened.branches } :: stack }

/-- Reads a character, with the text behind it, and returns how much of that text belongs to it. -/
def step (r : Reading) (c : Char) (rest : Text) : Except GlobFault (Reading × Nat) :=
  match c with
  | '?' => .ok (r.push .one, 0)
  | '*' => .ok (r.readStar rest)
  | '[' => (readSet rest).map fun (set, length) => (r.push set, length)
  | '\x7b' => .ok ({ r with items := [], stack := ⟨[], r.items⟩ :: r.stack }, 0)
  | '\x7d' => r.closeBraces.map (·, 0)
  | ',' => .ok (r.comma, 0)
  | '\\' =>
    match rest with
    | [] => .error .danglingEscape
    | escaped :: _ => .ok (r.push (.literal escaped), 1)
  | c => .ok (r.push (.literal c), 0)

/-- Reads the rest of a glob. The next `skip` characters belong to what was read last. -/
def readAll (r : Reading) : (skip : Nat) → Text → Except GlobFault Reading
  | _, [] => .ok r
  | skip + 1, c :: rest => readAll { r with previous := some c } skip rest
  | 0, c :: rest =>
    match r.step c rest with
    | .ok (next, length) => readAll { next with previous := some c } length rest
    | .error fault => .error fault

/-- The glob that has been read. Directories alone match every path. -/
def finish (r : Reading) : Except GlobFault Glob :=
  if r.stack.isEmpty then
    match r.items with
    | [.piece .leadingDirs] => .ok (.piece .everything)
    | items => .ok (concat items.reverse)
  else
    .error .unclosedAlternates

end Reading

def parse (pattern : Text) : Except GlobError Glob :=
  let read := match Reading.readAll {} 0 pattern with
    | .ok r => r.finish
    | .error fault => .error fault
  read.mapError fun fault => ⟨pattern, fault⟩

end Glob

end Sweep
