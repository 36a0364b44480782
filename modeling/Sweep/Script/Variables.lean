import Sweep.Text.Replace

/-!
Variables of a script, in the order their names were first assigned.

A reference to a variable is its name between `%{` and `}`. Resolving a text replaces the
references of one variable after the other, in table order; a value put in by an earlier variable
is therefore searched for references to the later ones.
-/

namespace Sweep

/-- A named text. -/
structure Variable where
  name : Text
  value : Text
  deriving DecidableEq, Repr

def Variable.reference (name : Text) : Text := '%' :: '\x7b' :: name ++ ['\x7d']

/-- Variables in the order of their first assignment. -/
structure VariableTable where
  entries : List Variable := []
  deriving DecidableEq, Repr

namespace VariableTable

/-- Puts the value of one variable in place of its references. -/
def expand (text : Text) (v : Variable) : Text :=
  text.replaceAll (Variable.reference v.name) v.value

/-- Expands the references of each variable once, in table order. -/
def resolve (table : VariableTable) (text : Text) : Text := table.entries.foldl expand text

def get? (table : VariableTable) (name : Text) : Option Text :=
  (table.entries.find? (·.name == name)).map (·.value)

def put (name value : Text) : List Variable → List Variable
  | [] => [⟨name, value⟩]
  | v :: others => if v.name = name then ⟨name, value⟩ :: others else v :: put name value others

/-- Assigns a variable. Its value is resolved against the table as it stands; a name assigned before
keeps its place. -/
def define (table : VariableTable) (name value : Text) : VariableTable :=
  ⟨put name (table.resolve value) table.entries⟩

/-- The place of a name: that of its variable, or the end of the table. -/
def place (table : VariableTable) (name : Text) : Nat := table.entries.findIdx (·.name == name)

/-- What an assignment gives: the value that then stands in the place of the name. -/
def assigned? (table : VariableTable) (name value : Text) : Option Text :=
  ((table.define name value).entries[table.place name]?).map (·.value)

def size (table : VariableTable) : Nat := table.entries.length

end VariableTable

end Sweep
