import Mathlib.Data.List.Infix
import Sweep.Text.Replace

/-!
# Occurrences and their replacement

A replacement passes over what begins no occurrence, takes the occurrences that it finds whole, and
brings in no character that is neither in the text nor in what is put in.
-/

namespace Sweep.Text

theorem replaceFrom_length_append (search replacement t rest : Text) :
    replaceFrom search replacement t.length (t ++ rest) =
      replaceFrom search replacement 0 rest := by
  induction t with
  | nil => rfl
  | cons c t ih =>
      rw [List.length_cons, List.cons_append, replaceFrom]
      exact ih

theorem replaceFrom_self_append (c : Char) (search replacement rest : Text) :
    replaceFrom (c :: search) replacement 0 (c :: search ++ rest) =
      replacement ++ replaceFrom (c :: search) replacement 0 rest := by
  have hfound : (c :: search).isPrefixOf (c :: (search ++ rest)) = true :=
    List.isPrefixOf_iff_prefix.2 (List.prefix_append (c :: search) rest)
  rw [List.cons_append, replaceFrom, if_pos hfound, List.length_cons, Nat.add_sub_cancel,
    replaceFrom_length_append]

theorem replaceFrom_cons {search replacement : Text} {c : Char} {rest : Text}
    (h : ¬search <+: c :: rest) :
    replaceFrom search replacement 0 (c :: rest) = c :: replaceFrom search replacement 0 rest := by
  rw [replaceFrom, if_neg fun hfound => h (List.isPrefixOf_iff_prefix.1 hfound)]

theorem replaceFrom_append_of_not_mem {c : Char} {search replacement t : Text} (h : c ∉ t)
    (rest : Text) :
    replaceFrom (c :: search) replacement 0 (t ++ rest) =
      t ++ replaceFrom (c :: search) replacement 0 rest := by
  induction t with
  | nil => rfl
  | cons d t ih =>
      have hd : ¬c :: search <+: d :: (t ++ rest) := by
        intro hfound
        rw [(List.cons_prefix_cons.1 hfound).1] at h
        exact h List.mem_cons_self
      rw [List.cons_append, replaceFrom_cons hd, ih fun hmem => h (List.mem_cons_of_mem _ hmem)]
      rfl

/-- Without an occurrence nothing is replaced. -/
theorem replaceFrom_eq_self {search replacement t : Text} (h : ¬search <:+: t) :
    replaceFrom search replacement 0 t = t := by
  induction t with
  | nil => rfl
  | cons c t ih =>
      rw [List.infix_cons_iff, not_or] at h
      rw [replaceFrom_cons h.1, ih h.2]

theorem contains_eq_true_iff {t search : Text} : t.contains search = true ↔ search <:+: t := by
  induction t with
  | nil => rw [contains, List.isEmpty_iff, List.infix_nil]
  | cons c t ih =>
      rw [contains, Bool.or_eq_true, ih, List.isPrefixOf_iff_prefix, List.infix_cons_iff]

theorem infix_append_of_not_mem {c : Char} {search t : Text} (h : c ∉ t) {rest : Text} :
    c :: search <:+: t ++ rest ↔ c :: search <:+: rest := by
  induction t with
  | nil => rfl
  | cons d t ih =>
      have hd : ¬c :: search <+: d :: (t ++ rest) := by
        intro hfound
        rw [(List.cons_prefix_cons.1 hfound).1] at h
        exact h List.mem_cons_self
      rw [List.cons_append, List.infix_cons_iff, ih fun hmem => h (List.mem_cons_of_mem _ hmem),
        or_iff_right hd]

theorem mem_replaceFrom {search replacement t : Text} {skip : Nat} {c : Char}
    (h : c ∈ replaceFrom search replacement skip t) : c ∈ t ∨ c ∈ replacement := by
  induction t generalizing skip with
  | nil =>
      rw [replaceFrom] at h
      cases h
  | cons d t ih =>
      have hrest : ∀ {skip}, c ∈ replaceFrom search replacement skip t →
          c ∈ d :: t ∨ c ∈ replacement :=
        fun h => (ih h).imp_left (List.mem_cons_of_mem d)
      cases skip with
      | succ skip =>
          rw [replaceFrom] at h
          exact hrest h
      | zero =>
          rw [replaceFrom] at h
          split at h
          · rcases List.mem_append.1 h with h | h
            · exact Or.inr h
            · exact hrest h
          · rcases List.mem_cons.1 h with rfl | h
            · exact Or.inl List.mem_cons_self
            · exact hrest h

theorem mem_replaceAll {t search replacement : Text} {c : Char}
    (h : c ∈ t.replaceAll search replacement) : c ∈ t ∨ c ∈ replacement := by
  rw [replaceAll] at h
  split at h
  · rcases List.mem_append.1 h with h | h
    · exact Or.inr h
    · obtain ⟨d, hd, hmem⟩ := List.mem_flatMap.1 h
      rcases List.mem_cons.1 hmem with rfl | hmem
      · exact Or.inl hd
      · exact Or.inr hmem
  · exact mem_replaceFrom h

end Sweep.Text
