import Sweep.Proofs.GlobLanguage
import Sweep.Proofs.Location

/-!
# Components of a glob

The components of a glob match those of a path one after the other: two stars match any number of
them, any other component one. This says which texts a list of components matches, and that these
form a language put together from those of the components.
-/

namespace Sweep

open scoped Computability

namespace Glob

/-- What a component of a glob matches. A star stands for any bytes, a question mark for one. -/
inductive MatchesComponent : Text → Bytes → Prop
  | nil : MatchesComponent [] []
  | one {rest : Text} {b : UInt8} {bytes : Bytes} (h : MatchesComponent rest bytes) :
      MatchesComponent ('?' :: rest) (b :: bytes)
  | star {rest : Text} {front bytes : Bytes} (h : MatchesComponent rest bytes) :
      MatchesComponent ('*' :: rest) (front ++ bytes)
  | literal {c : Char} {rest : Text} {bytes : Bytes} (hone : c ≠ '?') (hstar : c ≠ '*')
      (h : MatchesComponent rest bytes) :
      MatchesComponent (c :: rest) (String.utf8EncodeChar c ++ bytes)

/-- A component that stands for any number of components of a path. -/
def twoStars : Text := ['*', '*']

/-- Which components of a path those of a glob match. Two stars at the end stand for one component
at least. -/
inductive MatchesComponents : List Text → List Text → Prop
  | nil : MatchesComponents [] []
  | lastDirs {parts : List Text} (h : parts ≠ []) : MatchesComponents [twoStars] parts
  | dirs {others front parts : List Text} (hothers : others ≠ [])
      (h : MatchesComponents others parts) : MatchesComponents (twoStars :: others) (front ++ parts)
  | component {component part : Text} {others parts : List Text} (hcomponent : component ≠ twoStars)
      (hpart : MatchesComponent component part.bytes) (h : MatchesComponents others parts) :
      MatchesComponents (component :: others) (part :: parts)

/-! ### The languages of components -/

/-- The piece that a character of a component stands for. -/
def wildcard : Char → Piece
  | '?' => .one
  | '*' => .star
  | c => .literal c

def componentLanguage (component : Text) : Language UInt8 :=
  (component.map fun c => (wildcard c).language).prod

section Bytes

end Bytes

/-! ### Matching by components -/

section Components

variable {component part : Text} {others parts : List Text} {bytes front rest : Bytes}

theorem componentLanguage_cons (c : Char) (component : Text) :
    componentLanguage (c :: component) = (wildcard c).language * componentLanguage component := by
  rw [componentLanguage, List.map_cons, List.prod_cons]
  rfl

theorem wildcard_of_ne {c : Char} (hone : c ≠ '?') (hstar : c ≠ '*') :
    wildcard c = .literal c := by
  unfold wildcard
  split
  · exact absurd rfl hone
  · exact absurd rfl hstar
  · rfl

theorem MatchesComponents.ne_nil (h : MatchesComponents others parts) (hothers : others ≠ []) :
    parts ≠ [] := by
  induction h with
  | nil => exact absurd rfl hothers
  | lastDirs hparts => exact hparts
  | dirs hne h ih => exact List.append_ne_nil_of_right_ne_nil _ (ih hne)
  | component => exact List.cons_ne_nil _ _

end Components

end Glob

end Sweep
