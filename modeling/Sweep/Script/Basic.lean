import Sweep.Text.Basic

/-!
A script: which files it touches, and the replacements it makes in them, in order.
-/

namespace Sweep

/-- How a command's search text is read: as it stands, or as a regular expression. -/
inductive SearchMode where
  | literal
  | regex
  deriving DecidableEq, Repr

/-- The glob that selects every file. It stands for a filter or file selection left out. -/
def everyFile : Text := "**/*".toList

/-- One replacement: the files it applies to, what it searches for and what it writes instead. -/
structure Command where
  files : Text
  search : Text
  replacement : Text
  mode : SearchMode
  deriving DecidableEq, Repr

/-- A filter glob that no selected file escapes, and the commands in the order they apply. -/
structure Script where
  filter : Text := everyFile
  commands : List Command := []
  deriving DecidableEq, Repr

/-- The words that begin an instruction line. -/
inductive Keyword where
  | filter
  | files
  | replace
  | replaceRegex
  | replacement
  deriving DecidableEq, Repr

def Keyword.text : Keyword → Text
  | .filter => "filter".toList
  | .files => "in".toList
  | .replace => "replace".toList
  | .replaceRegex => "replace-regex".toList
  | .replacement => "with".toList

def SearchMode.keyword : SearchMode → Keyword
  | .literal => .replace
  | .regex => .replaceRegex

def Command.render (command : Command) : Text :=
  Keyword.files.text ++ [' '] ++ command.files ++ [' '] ++ command.mode.keyword.text ++ [' '] ++
    command.search.quote ++ [' '] ++ Keyword.replacement.text ++ [' '] ++ command.replacement.quote

end Sweep
