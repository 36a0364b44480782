import Sweep.Json.Value
import Sweep.Text.Bytes

/-!
The settings that a user keeps in a file.

The file holds a JSON object with the fields `exclude` and `dry_run`, or an array of their values in
this order. A field that is absent has its default; other fields are ignored. A file that cannot be
read this way counts as absent, and then all settings are the defaults.
-/

namespace Sweep

/-- Settings: the globs of files that no sweep touches, and whether sweeps write nothing. -/
structure Configuration where
  exclude : List Text := [".git/**".toList, "target/**".toList, "node_modules/**".toList]
  dryRun : Bool := false
  deriving DecidableEq, Repr

namespace Configuration

def textOf? : Json.Value → Option Text
  | .string text => text
  | _ => none

def textsOf? : Json.Value → Option (List Text)
  | .array items => items.mapM textOf?
  | _ => none

def boolOf? : Json.Value → Option Bool
  | .bool b => some b
  | _ => none

/-- The settings that a file gives. -/
structure Fields where
  exclude : Option (List Text) := none
  dryRun : Option Bool := none

def Fields.add? (fields : Fields) (key : Option Text) (v : Json.Value) : Option Fields :=
  match key with
  | none => none
  | some key =>
    if key = "exclude".toList then
      if fields.exclude.isSome then none
      else (textsOf? v).map fun exclude => { fields with exclude := some exclude }
    else if key = "dry_run".toList then
      if fields.dryRun.isSome then none
      else (boolOf? v).map fun dryRun => { fields with dryRun := some dryRun }
    else
      some fields

def Fields.addAll? : Fields → List (Option Text × Json.Value) → Option Fields
  | fields, [] => some fields
  | fields, (key, v) :: others => (fields.add? key v).bind fun next => next.addAll? others

def ofFields (fields : Fields) : Configuration :=
  let default : Configuration := {}
  ⟨fields.exclude.getD default.exclude, fields.dryRun.getD default.dryRun⟩

def ofValue? : Json.Value → Option Configuration
  | .object members => (({} : Fields).addAll? members).map ofFields
  | .array [] => some {}
  | .array [exclude] => (textsOf? exclude).map fun exclude => { exclude }
  | .array [exclude, dryRun] =>
    match textsOf? exclude, boolOf? dryRun with
    | some exclude, some dryRun => some ⟨exclude, dryRun⟩
    | _, _ => none
  | _ => none

def parse? (t : Text) : Option Configuration := (Json.Value.parse? t).bind ofValue?

/-- The settings of a file with the given content, if there is one. -/
def load (content : Option Bytes) : Configuration :=
  ((content.bind Bytes.text?).bind parse?).getD {}

def renderTexts : List Text → Text
  | [] => "[]".toList
  | texts =>
    let separator := ",\n".toList
    let lines := texts.map fun t => "    ".toList ++ Json.quote t
    "[\n".toList ++ Text.join separator lines ++ "\n  ]".toList

def render (c : Configuration) : Text :=
  let dryRun := if c.dryRun then "true".toList else "false".toList
  "\x7b\n  \"exclude\": ".toList ++ renderTexts c.exclude ++ ",\n  \"dry_run\": ".toList ++
    dryRun ++ "\n\x7d".toList

end Configuration

end Sweep
