import Sweep.Glob.Compile

/-!
Several globs at once.

Globs that are looked up together are told apart by the file name or the extension that they end
in, before whole paths are compared. A path that ends in two dots has neither.
-/

namespace Sweep

namespace Glob

/-- Reads several globs, or reports the first one that cannot be read. -/
def parseAll : List Text → Except GlobError (List Glob)
  | [] => .ok []
  | pattern :: others =>
    match parse pattern, parseAll others with
    | .error e, _ => .error e
    | .ok _, .error e => .error e
    | .ok g, .ok globs => .ok (g :: globs)

def isLiteral : Glob → Bool
  | .piece (.literal _) => true
  | _ => false

/-- Whether the glob is compared with whole paths only: it is a text, or the end of a path from a
whole component on, of several components. -/
def isPlain (g : Glob) : Bool :=
  match g.items with
  | .piece .leadingDirs :: others =>
    others.all isLiteral && others.contains (.piece (.literal '/'))
  | items => items.all isLiteral

/-- Whether the glob is looked up by an extension that is a dot alone, or by a file name that ends
in one. -/
def endsInDot (g : Glob) : Bool :=
  g.items.getLast? == some (.piece (.literal '.')) && !g.isPlain

/-! ### Compiling them -/

/-- Whether the glob is looked up as a text: a whole path, what a path begins with, or what it ends
in. -/
def isText (g : Glob) : Bool :=
  match g.items with
  | [] => false
  | .piece .leadingDirs :: others => !others.isEmpty && others.all isLiteral
  | items => items.dropLast.all isLiteral &&
      items.getLast?.any fun last => last.isLiteral || last == .piece .trailingDirs

/-- Whether the glob is looked up by an extension that any file may have. -/
def isExtension (g : Glob) : Bool :=
  match g.items with
  | .piece .leadingDirs :: .piece .star :: .piece (.literal '.') :: others =>
    others.all fun item =>
      item.isLiteral && item != .piece (.literal '.') && item != .piece (.literal '/')
  | _ => false

/-- Whether items, the last first, end in a dot and a text without a slash. -/
def endInExtension : List Glob → Bool
  | .piece (.literal c) :: others => c == '.' || (c != '/' && endInExtension others)
  | _ => false

/-- Whether the glob is compared with the paths that have the extension it ends in. -/
def needsExtension (g : Glob) : Bool :=
  !g.isText && !g.isExtension && endInExtension g.items.reverse

/-- Whether the glob is compared with every path. -/
def isCompared (g : Glob) : Bool :=
  !g.isText && !g.isExtension && !endInExtension g.items.reverse

/-- The index of a glob that nests too deep among those that are compiled with it: each one that
needs an extension is compiled by itself, and before the others. -/
def tooDeep? (globs : List Glob) : Option Nat :=
  if (globs.filter needsExtension).all fits then (globs.filter isCompared).findIdx? (!·.fits)
  else some 0

/-- Compiles several globs, or reports the first one that cannot be read, or that some of them nest
too deep. -/
def compileAll (patterns : List Text) : Except GlobError (List Glob) :=
  match parseAll patterns with
  | .error e => .error e
  | .ok globs =>
    match tooDeep? globs with
    | none => .ok globs
    | some index => .error ⟨Text.join ", ".toList patterns, .notCompiled index⟩

/-! ### Matching -/

def fileName? (path : Text) : Option Text :=
  ((Text.split path '/').getLast?).filter (· != ['.', '.'])

/-- Whether one of several globs matches a path. A glob that is looked up by how a file name ends
matches only a path that has one. -/
def anyMatches (globs : List Glob) (path : Text) : Bool :=
  globs.any fun g => g.isMatch path && (!g.endsInDot || (fileName? path).isSome)

end Glob

end Sweep
