import Sweep.Text.Basic

/-!
Searching a text for a literal and replacing every occurrence.

Occurrences are taken from left to right and do not overlap. The empty text occurs in front of each
character and at the end.
-/

namespace Sweep.Text

/-- Whether `search` occurs in the text. -/
def contains : (t search : Text) → Bool
  | [], search => search.isEmpty
  | c :: rest, search => search.isPrefixOf (c :: rest) || contains rest search

/-- Replaces the occurrences of a text that is not empty. `skip` characters in front belong to the
occurrence replaced last. -/
def replaceFrom (search replacement : Text) : (skip : Nat) → Text → Text
  | _, [] => []
  | skip + 1, _ :: rest => replaceFrom search replacement skip rest
  | 0, c :: rest =>
    if search.isPrefixOf (c :: rest) then
      replacement ++ replaceFrom search replacement (search.length - 1) rest
    else
      c :: replaceFrom search replacement 0 rest

def replaceAll (t search replacement : Text) : Text :=
  if search.isEmpty then
    replacement ++ t.flatMap fun c => c :: replacement
  else
    replaceFrom search replacement 0 t

end Sweep.Text
