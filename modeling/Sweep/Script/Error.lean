import Sweep.Script.Basic

/-!
What can be wrong with a script line, and how the user is told.
-/

namespace Sweep

/-- Why a line is refused. -/
inductive LineFault where
  /-- The keyword does not fit what has been read so far. -/
  | unexpected (keyword : Keyword)
  /-- The keyword is followed by an empty glob. -/
  | invalid (keyword : Keyword)
  /-- A variable is assigned after the first command has begun. -/
  | unexpectedVariable
  /-- The line has no known shape. -/
  | unrecognized
  deriving DecidableEq, Repr

/-- A refused line: its number, its trimmed text and the reason. -/
structure ScriptError where
  fault : LineFault
  line : Nat
  text : Text
  deriving DecidableEq, Repr

def LineFault.keyword? : LineFault → Option Keyword
  | .unexpected keyword => some keyword
  | .invalid keyword => some keyword
  | .unexpectedVariable => none
  | .unrecognized => none

def LineFault.title : LineFault → Text
  | .unexpected keyword => "Unexpected '".toList ++ keyword.text ++ "' instruction".toList
  | .invalid keyword => "Invalid '".toList ++ keyword.text ++ "' instruction".toList
  | .unexpectedVariable => "Unexpected variable".toList
  | .unrecognized => "Unrecognized instruction".toList

def ScriptError.message (e : ScriptError) : Text :=
  e.fault.title ++ " at line ".toList ++ Text.ofNat e.line ++ ": ".toList ++ e.text

end Sweep
