import Sweep.Proofs.Replace
import Sweep.Substitution

/-!
# Literals that are gone for good

A replacement that shares no character with the literal it stands for keeps apart what was left on
both sides of it. So no occurrence comes up that was not there before, and those that were there
have been taken: the literal is gone, and to look for it once more changes nothing.
-/

namespace Sweep

namespace Text

section Apart

variable {search replacement : Text} (hreplacement : replacement ≠ [])
include hreplacement

/-- What a result begins with was there before, if it shares no character with the replacement. -/
theorem prefix_of_prefix_replaceFrom {front t : Text} (hapart : ∀ c ∈ front, c ∉ replacement)
    (h : front <+: replaceFrom search replacement 0 t) : front <+: t := by
  induction t generalizing front with
  | nil => exact h
  | cons c t ih =>
      cases front with
      | nil => exact List.nil_prefix
      | cons d front =>
          by_cases hfound : search <+: c :: t
          · -- The replacement stands in front, and its first character is not `d`.
            rw [replaceFrom, if_pos (List.isPrefixOf_iff_prefix.2 hfound)] at h
            obtain ⟨e, others, rfl⟩ := List.exists_cons_of_ne_nil hreplacement
            obtain ⟨rfl, -⟩ := List.cons_prefix_cons.1 h
            exact absurd List.mem_cons_self (hapart d List.mem_cons_self)
          · rw [replaceFrom_cons hfound, List.cons_prefix_cons] at h
            have hfront := ih (fun e he => hapart e (List.mem_cons_of_mem d he)) h.2
            exact List.cons_prefix_cons.2 ⟨h.1, hfront⟩

theorem not_infix_replaceFrom (hsearch : search ≠ []) (hapart : ∀ c ∈ search, c ∉ replacement)
    (skip : Nat) (t : Text) : ¬search <:+: replaceFrom search replacement skip t := by
  induction t generalizing skip with
  | nil =>
      rw [replaceFrom, List.infix_nil]
      exact hsearch
  | cons c t ih =>
      cases skip with
      | succ skip => exact ih skip
      | zero =>
          by_cases hfound : search <+: c :: t
          · rw [replaceFrom, if_pos (List.isPrefixOf_iff_prefix.2 hfound)]
            obtain ⟨d, others, hcons⟩ := List.exists_cons_of_ne_nil hsearch
            have hd : d ∉ replacement := hapart d (hcons ▸ List.mem_cons_self)
            have hrest := ih (search.length - 1)
            rw [hcons] at hrest ⊢
            rwa [infix_append_of_not_mem hd]
          · have hbegins : ¬search <+: replaceFrom search replacement 0 (c :: t) :=
              fun h => hfound (prefix_of_prefix_replaceFrom hreplacement hapart h)
            rw [replaceFrom_cons hfound] at hbegins ⊢
            rw [List.infix_cons_iff, not_or]
            exact ⟨hbegins, ih 0⟩

theorem not_infix_replaceAll (hsearch : search ≠ []) (hapart : ∀ c ∈ search, c ∉ replacement)
    (t : Text) : ¬search <:+: t.replaceAll search replacement := by
  rw [replaceAll, if_neg (by simpa using hsearch)]
  exact not_infix_replaceFrom hreplacement hsearch hapart 0 t

end Apart

end Text

namespace Substitution

variable {search replacement t : Text}

theorem replaceIn?_literal_eq_none_iff :
    (literal search replacement).replaceIn? t = none ↔ ¬search <:+: t := by
  rw [replaceIn?, ← Text.contains_eq_true_iff]
  split
  · rename_i h
    simp [h]
  · rename_i h
    simp [h]

theorem replaceIn_literal_of_absent (h : ¬search <:+: t) :
    (literal search replacement).replaceIn t = t := by
  rw [replaceIn, replaceIn?_literal_eq_none_iff.2 h]
  rfl

theorem not_infix_replaceIn_literal (hsearch : search ≠ []) (hreplacement : replacement ≠ [])
    (hapart : ∀ c ∈ search, c ∉ replacement) (t : Text) :
    ¬search <:+: (literal search replacement).replaceIn t := by
  by_cases h : search <:+: t
  · rw [replaceIn, replaceIn?, if_pos (Text.contains_eq_true_iff.2 h)]
    exact Text.not_infix_replaceAll hreplacement hsearch hapart t
  · rwa [replaceIn_literal_of_absent h]

/-- **A literal is replaced for good.** If search and replacement are not empty and share no
character, then no text that results has an occurrence of the literal, so that the same substitution
finds no match in it and leaves it as it is. It is the text from before exactly if there was no
occurrence. -/
theorem literal_replaced_for_good (hsearch : search ≠ []) (hreplacement : replacement ≠ [])
    (hapart : ∀ c ∈ search, c ∉ replacement) :
    ∃ plain, ofSearch? search replacement .literal = some plain ∧
      ∀ t, ¬search <:+: plain.replaceIn t ∧
        plain.replaceIn? (plain.replaceIn t) = none ∧
        plain.replaceIn (plain.replaceIn t) = plain.replaceIn t ∧
        (plain.replaceIn t = t ↔ ¬search <:+: t) := by
  refine ⟨literal search replacement, rfl, fun t => ?_⟩
  have hgone := not_infix_replaceIn_literal hsearch hreplacement hapart t
  refine ⟨hgone, replaceIn?_literal_eq_none_iff.2 hgone, replaceIn_literal_of_absent hgone,
    fun h => ?_, replaceIn_literal_of_absent⟩
  rwa [h] at hgone

/-- Occurrences that overlap in the text. -/
theorem literal_replaced_for_good_overlap :
    ['a', 'b', 'a'] ≠ [] ∧ ['-'] ≠ [] ∧ (∀ c ∈ ['a', 'b', 'a'], c ∉ ['-']) ∧
      ∃ plain, ofSearch? ['a', 'b', 'a'] ['-'] .literal = some plain ∧
        plain.replaceIn "ababaaba".toList = "-ba-".toList ∧
        plain.replaceIn? "-ba-".toList = none := by
  have hapart : ∀ c ∈ ['a', 'b', 'a'], c ∉ ['-'] := by simp
  obtain ⟨plain, hplain, hgood⟩ :=
    literal_replaced_for_good (List.cons_ne_nil 'a' ['b', 'a']) (List.cons_ne_nil '-' []) hapart
  obtain rfl := Option.some.inj hplain
  have hresult : (literal ['a', 'b', 'a'] ['-']).replaceIn "ababaaba".toList = "-ba-".toList := by
    decide
  have hnone := (hgood "ababaaba".toList).2.1
  rw [hresult] at hnone
  exact ⟨List.cons_ne_nil 'a' ['b', 'a'], List.cons_ne_nil '-' [], hapart, _, rfl, hresult, hnone⟩

end Substitution

end Sweep
