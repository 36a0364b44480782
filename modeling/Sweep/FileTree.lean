import Sweep.Error
import Sweep.Text.Bytes

/-!
Trees of files, links and directories, and what paths lead to in them.

A tree is kept flat: each file, each symbolic link and each directory stands at its location. A path
is followed from the root directory or from the working directory, one part after the other, and
every part but the last must lead to a directory. Where a part leads to a link, the path in the link
is followed in its place. Names and paths have a greatest length, and the links on the way have a
greatest number.
-/

namespace Sweep

/-- Where something is: the names that lead to it from the root directory. -/
abbrev Location := List Text

/-- The names with slashes between them. -/
def Location.text (l : Location) : Text := Text.join ['/'] l

def Location.path (l : Location) : Path := ⟨'/' :: l.text⟩

/-- The parts of a path, between its slashes. -/
def Path.parts (p : Path) : List Text := p.text.split '/'

/-- What is at a location. -/
inductive Entry where
  | file (content : Bytes)
  | link (target : Path)
  | directory
  deriving DecidableEq, Repr

/-- Files, links and directories. The root directory is always there. -/
structure FileTree where
  files : List (Location × Bytes) := []
  links : List (Location × Path) := []
  directories : List Location := []
  /-- The directories that nobody may write to. -/
  readOnly : List Location := []
  workingDirectory : Location := []
  deriving DecidableEq, Repr

namespace FileTree

def entry? (tree : FileTree) (l : Location) : Option Entry :=
  match tree.files.find? (·.1 == l), tree.links.find? (·.1 == l) with
  | some (_, content), _ => some (.file content)
  | none, some (_, target) => some (.link target)
  | none, none => if l = [] ∨ l ∈ tree.directories then some .directory else none

def isDirectory (tree : FileTree) (l : Location) : Bool := tree.entry? l == some .directory

def isWritableDirectory (tree : FileTree) (l : Location) : Bool :=
  tree.isDirectory l && !tree.readOnly.contains l

def directoryFault (tree : FileTree) (l : Location) : FileFault :=
  if (tree.entry? l).isSome then .notDirectory else .missing

def maxNameLength : Nat := 255

/-- The greatest length of the path of a file that is read or written, in bytes. -/
def maxPathLength : Nat := 4095

/-- The greatest number of links on the way along a path. -/
def maxLinks : Nat := 40

def isTooLong (name : Text) : Bool := maxNameLength < name.bytes.length

def textFault? (p : Path) : Option FileFault :=
  if '\x00' ∈ p.text then some .nulInName
  else if p.text = [] then some .missing
  else none

def pathFault? (p : Path) : Option FileFault :=
  (textFault? p).or (if maxPathLength < p.text.bytes.length then some .nameTooLong else none)

/-! ### Following paths -/

/-- The location that a part of a path leads to from a directory. The empty part and the single dot
stay, two dots go up, and any other part is the name of an entry. -/
def enter (tree : FileTree) (l : Location) (part : Text) : Except FileFault Location :=
  if !tree.isDirectory l then .error (tree.directoryFault l)
  else if part = [] ∨ part = ['.'] then .ok l
  else if part = ['.', '.'] then .ok l.dropLast
  else if isTooLong part then .error .nameTooLong
  else if (tree.entry? (l ++ [part])).isSome then .ok (l ++ [part])
  else .error .missing

/-- What a path is followed for: something that is there, or a file that may be new. -/
inductive Purpose where
  | find
  | create
  deriving DecidableEq, Repr

/-- Whether a part is the last name of a path, which only slashes may follow. -/
def isLastName (part : Text) (others : List Text) : Bool :=
  part != [] && part != ['.'] && part != ['.', '.'] && others.all (· == [])

/-- The location that a part leads to, for a purpose. The last name of a path to a new file may be
missing, but no slash may follow it. -/
def arrive (tree : FileTree) (purpose : Purpose) (l : Location) (part : Text)
    (others : List Text) : Except FileFault Location :=
  if purpose = .create ∧ isLastName part others then
    if !tree.isDirectory l then .error (tree.directoryFault l)
    else if others ≠ [] then .error .isDirectory
    else
      match tree.enter l part with
      | .error .missing => .ok (l ++ [part])
      | result => result
  else
    tree.enter l part

/-- Where a path that starts at a location begins: there, or at the root directory. -/
def startFrom (l : Location) (p : Path) : Location :=
  match p.text with
  | '/' :: _ => []
  | _ => l

/-- Follows parts of a path up to the next link, and goes on from there by `jump`. -/
def walk (tree : FileTree) (purpose : Purpose)
    (jump : Location → List Text → Except FileFault Location) :
    Location → List Text → Except FileFault Location
  | l, [] => .ok l
  | l, part :: others =>
    match tree.arrive purpose l part others with
    | .error fault => .error fault
    | .ok next =>
      match tree.entry? next with
      | some (.link target) => jump (startFrom l target) (target.parts ++ others)
      | _ => tree.walk purpose jump next others

def follow (tree : FileTree) (purpose : Purpose) :
    (links : Nat) → Location → List Text → Except FileFault Location
  | 0 => tree.walk purpose fun _ _ => .error .tooManyLinks
  | links + 1 => tree.walk purpose (tree.follow purpose links)

/-- The location that a path leads to. Only its names are limited in length. -/
def resolve (tree : FileTree) (p : Path) : Except FileFault Location :=
  match textFault? p with
  | some fault => .error fault
  | none => tree.follow .find maxLinks (startFrom tree.workingDirectory p) p.parts

/-! ### Reading and writing -/

def read (tree : FileTree) (p : Path) : Except FileFault Bytes :=
  match pathFault? p, tree.resolve p with
  | some fault, _ => .error fault
  | none, .error fault => .error fault
  | none, .ok l =>
    match tree.entry? l with
    | some (.file content) => .ok content
    | some .directory => .error .isDirectory
    | _ => .error .missing

/-- The location of the file that a path is written to. -/
def placeOf (tree : FileTree) (p : Path) : Except FileFault Location :=
  match pathFault? p with
  | some fault => .error fault
  | none =>
    match tree.follow .create maxLinks (startFrom tree.workingDirectory p) p.parts with
    | .error fault => .error fault
    | .ok l => if tree.isDirectory l then .error .isDirectory else .ok l

def put (l : Location) (content : Bytes) : List (Location × Bytes) → List (Location × Bytes)
  | [] => [(l, content)]
  | (k, b) :: others => if k = l then (l, content) :: others else (k, b) :: put l content others

def putFile (tree : FileTree) (l : Location) (content : Bytes) : FileTree :=
  { tree with files := put l content tree.files }

def write (tree : FileTree) (p : Path) (content : Bytes) : Except FileFault FileTree :=
  (tree.placeOf p).map fun l => tree.putFile l content

/-! ### Making directories -/

/-- The location that a part of a path leads to. A directory is made if there is nothing, but not
where a link leads to nothing. -/
def enterNew (tree : FileTree) (l : Location) (part : Text) :
    Except FileFault (FileTree × Location) :=
  match tree.enter l part with
  | .ok next =>
    match tree.entry? next with
    | some (.link target) =>
      match tree.follow .find maxLinks (startFrom l target) target.parts with
      | .ok next => .ok (tree, next)
      | .error .missing => .error .alreadyExists
      | .error fault => .error fault
    | _ => .ok (tree, next)
  | .error .missing =>
    if tree.isDirectory l then
      .ok ({ tree with directories := tree.directories ++ [l ++ [part]] }, l ++ [part])
    else
      .error .missing
  | .error fault => .error fault

/-- Follows parts of a path, and makes the directories that are missing. -/
def followNew (tree : FileTree) : Location → List Text → Except FileFault (FileTree × Location)
  | l, [] => .ok (tree, l)
  | l, part :: others =>
    match tree.enterNew l part with
    | .ok (grown, next) => grown.followNew next others
    | .error fault => .error fault

/-- Makes a directory and all directories on the way to it, unless they are there. -/
def createDirectories (tree : FileTree) (p : Path) : Except FileFault FileTree :=
  if p.text = [] then .ok tree
  else
    match pathFault? p, tree.followNew (startFrom tree.workingDirectory p) p.parts with
    | some fault, _ => .error fault
    | none, .ok (grown, l) => if grown.isDirectory l then .ok grown else .error .alreadyExists
    | none, .error fault => .error fault

/-! ### Files below a location -/

/-- The locations of files and links. -/
def leaves (tree : FileTree) : List Location := tree.files.map (·.1) ++ tree.links.map (·.1)

/-- Whether a path leads to a file that can be read. -/
def leadsToFile (tree : FileTree) (p : Path) : Bool := (tree.read p).toBool

/-- The locations of the files below a location, without the names that lead to it. A file at the
location itself counts, and so do links to files. Files with a path that is too long are passed
over. -/
def filesUnder (tree : FileTree) (l : Location) : List Location :=
  tree.leaves.filterMap fun k =>
    if l.isPrefixOf k && tree.leadsToFile (Location.path k) then some (k.drop l.length) else none

end FileTree

end Sweep
