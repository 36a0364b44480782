import Sweep.Regex.Basic
import Sweep.Text.Replace

/-!
Templates: what is written in place of a match.

A script refers to a numbered group as `$1` to `$99`, to a named group as `$<name>`, to the whole
match as `$&`, and writes a dollar sign as `$$`. A stored template refers to a group as its number
or name in braces behind a dollar sign, and every other dollar sign is doubled.
-/

namespace Sweep.Regex

/-- Turns the two characters `\r`, `\n` and `\t` into the control characters they stand for. -/
def decodeEscapes (t : Text) : Text :=
  ((t.replaceAll ['\\', 'r'] ['\r']).replaceAll ['\\', 'n'] ['\n']).replaceAll ['\\', 't'] ['\t']

def decimalNumber (digits : Text) : Nat :=
  digits.foldl (fun n c => 10 * n + (c.toNat - '0'.toNat)) 0

def storedReference (group : Text) : Text := '$' :: '\x7b' :: group ++ ['\x7d']

def storedDollar : Text := ['$', '$']

/-- The number that the first `length` digits write, if it is the number of a group. -/
def groupNumber? (r : Regex) (digits : Text) (length : Nat) : Option Nat :=
  let n := decimalNumber (digits.take length)
  if length ≤ digits.length ∧ 1 ≤ n ∧ n < r.groupCount then some n else none

/-- What stands for a dollar sign and the text `after` it, and how many characters of that text
belong to the reference. Of two digits both count if they number a group, otherwise the first one
if it does. -/
def storeReference (r : Regex) (after : Text) : Text × Nat :=
  match after with
  | '$' :: _ => (storedDollar, 1)
  | '&' :: _ => (storedReference ['0'], 1)
  | '<' :: rest =>
    let name := rest.takeWhile (· != '>')
    if name.length < rest.length ∧ r.names.any (·.1 == name) then
      (storedReference name, name.length + 2)
    else
      (storedDollar, 0)
  | _ =>
    let digits := (after.takeWhile Char.isDigit).take 2
    match groupNumber? r digits 2, groupNumber? r digits 1 with
    | some n, _ => (storedReference (Text.ofNat n), 2)
    | none, some n => (storedReference (Text.ofNat n), 1)
    | none, none => (storedDollar, 0)

/-- The stored form of a template. The next `skip` characters belong to the last reference. -/
def storeFrom (r : Regex) : (skip : Nat) → Text → Text
  | _, [] => []
  | skip + 1, _ :: rest => storeFrom r skip rest
  | 0, '$' :: rest =>
    let (stored, length) := storeReference r rest
    stored ++ storeFrom r length rest
  | 0, c :: rest => c :: storeFrom r 0 rest

def storeTemplate (r : Regex) (t : Text) : Text := storeFrom r 0 (decodeEscapes t)

/-- The text of a group of a match in `t`, by number or name; empty for a group that is unknown. -/
def referredText (r : Regex) (t : Text) (m : Match) (group : Text) : Text :=
  if !group.isEmpty && group.all Char.isDigit then
    groupText t m (decimalNumber group)
  else
    match r.names.find? (·.1 == group) with
    | some (_, index) => groupText t m index
    | none => []

/-- What a stored template writes for a match in `t`. The next `skip` characters belong to the last
reference. -/
def expandFrom (r : Regex) (t : Text) (m : Match) : (skip : Nat) → Text → Text
  | _, [] => []
  | skip + 1, _ :: rest => expandFrom r t m skip rest
  | 0, '$' :: '$' :: rest => '$' :: expandFrom r t m 1 ('$' :: rest)
  | 0, '$' :: '\x7b' :: rest =>
    let group := rest.takeWhile (· != '\x7d')
    if group.length < rest.length then
      referredText r t m group ++ expandFrom r t m (group.length + 2) ('\x7b' :: rest)
    else
      '$' :: expandFrom r t m 0 ('\x7b' :: rest)
  | 0, c :: rest => c :: expandFrom r t m 0 rest

def expand (r : Regex) (template t : Text) (m : Match) : Text := expandFrom r t m 0 template

end Sweep.Regex
