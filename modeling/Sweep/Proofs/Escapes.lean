import Sweep.Proofs.Replace
import Sweep.Regex.Template

/-!
# Escapes in templates

Escapes are decoded by one replacement after the other. What a replacement writes is neither a
backslash nor the letter of an escape, so it makes up no other escape and takes part in none. Hence
the replacements decode what a single pass from left to right does.
-/

namespace Sweep.Regex

/-- The letters that are escaped, each with the character that it stands for. -/
def escapes : List (Char × Char) := [('r', '\r'), ('n', '\n'), ('t', '\t')]

/-- Decodes a text from left to right. A backslash and a letter in the table become the character of
the letter; every other character is copied on its own, and so is a backslash. -/
def decodeWith (table : List (Char × Char)) : Text → Text
  | '\\' :: c :: rest =>
    match table.lookup c with
    | some decoded => decoded :: decodeWith table rest
    | none => '\\' :: decodeWith table (c :: rest)
  | c :: rest => c :: decodeWith table rest
  | [] => []

/-- A table whose characters are no part of an escape. -/
structure IsEscapeTable (table : List (Char × Char)) : Prop where
  letter : ∀ e ∈ table, e.1 ≠ '\\'
  char : ∀ e ∈ table, e.2 ≠ '\\'
  apart : ∀ e ∈ table, ∀ other ∈ table, e.2 ≠ other.1

/-- A character that begins no escape in front of `rest`. -/
def BeginsNoEscape (table : List (Char × Char)) (c : Char) (rest : Text) : Prop :=
  c = '\\' → ∀ d ∈ rest.head?, table.lookup d = none

/-! ### One step of the pass -/

section Step

variable {table : List (Char × Char)} {c decoded : Char} {rest t : Text}

theorem decodeWith_escape (h : table.lookup c = some decoded) (rest : Text) :
    decodeWith table ('\\' :: c :: rest) = decoded :: decodeWith table rest := by
  rw [decodeWith]
  simp only [h]

theorem decodeWith_cons (h : BeginsNoEscape table c rest) :
    decodeWith table (c :: rest) = c :: decodeWith table rest := by
  by_cases hc : c = '\\'
  · subst hc
    cases rest with
    | nil => rfl
    | cons d rest =>
        rw [decodeWith]
        simp only [h rfl d rfl]
  · rw [decodeWith]
    exact fun _ _ h => absurd h hc

theorem decodeWith_cons_of_ne (h : c ≠ '\\') (rest : Text) :
    decodeWith table (c :: rest) = c :: decodeWith table rest :=
  decodeWith_cons fun hc => absurd hc h

/-- A text is empty, or it begins with an escape or with another character. -/
theorem escape_induction (table : List (Char × Char)) {motive : Text → Prop} (nil : motive [])
    (escape : ∀ c decoded rest, table.lookup c = some decoded → motive rest →
      motive ('\\' :: c :: rest))
    (plain : ∀ c rest, BeginsNoEscape table c rest → motive rest → motive (c :: rest)) (t : Text) :
    motive t := by
  induction t using decodeWith.induct table with
  | case1 c rest decoded h ih => exact escape c decoded rest h ih
  | case2 c rest h ih =>
      refine plain '\\' (c :: rest) (fun _ d hd => ?_) ih
      rw [← Option.some.inj hd]
      exact h
  | case3 c rest h ih =>
      refine plain c rest (fun hc d hd => ?_) ih
      obtain ⟨tail, rfl⟩ := List.head?_eq_some_iff.1 hd
      exact (h d tail hc rfl).elim
  | case4 => exact nil

theorem mem_of_lookup (h : table.lookup c = some decoded) : (c, decoded) ∈ table := by
  obtain ⟨front, back, rfl, -⟩ := List.lookup_eq_some_iff.1 h
  exact List.mem_append_right _ List.mem_cons_self

theorem mem_head?_decodeWith (h : c ∈ (decodeWith table t).head?) :
    c ∈ t.head? ∨ ∃ e ∈ table, e.2 = c := by
  induction t using escape_induction table with
  | nil => cases h
  | escape letter decoded rest hletter ih =>
      rw [decodeWith_escape hletter] at h
      exact .inr ⟨_, mem_of_lookup hletter, Option.some.inj h⟩
  | plain d rest hplain ih =>
      rw [decodeWith_cons hplain] at h
      exact .inl h

end Step

/-! ### Passes and replacements -/

theorem lookup_eq_none {table : List (Char × Char)} {c : Char} (h : ∀ e ∈ table, c ≠ e.1) :
    table.lookup c = none :=
  List.lookup_eq_none_iff.2 fun e he => bne_iff_ne.2 (h e he)

/-- A replacement of one escape is a pass that knows no other. -/
theorem replaceAll_eq_decodeWith (letter char : Char) (t : Text) :
    t.replaceAll ['\\', letter] [char] = decodeWith [(letter, char)] t := by
  change Text.replaceFrom ['\\', letter] [char] 0 t = _
  induction t using escape_induction [(letter, char)] with
  | nil => rfl
  | escape c decoded rest h ih =>
      obtain ⟨rfl, rfl⟩ := Prod.mk.inj (List.mem_singleton.1 (mem_of_lookup h))
      rw [decodeWith_escape h, ← ih]
      exact Text.replaceFrom_self_append '\\' [c] [decoded] rest
  | plain c rest h ih =>
      have hnot : ¬['\\', letter] <+: c :: rest := by
        intro hbegins
        obtain ⟨hc, hletter⟩ := List.cons_prefix_cons.1 hbegins
        obtain ⟨others, rfl⟩ := hletter
        have hnone := h hc.symm letter rfl
        simp at hnone
      rw [decodeWith_cons h, Text.replaceFrom_cons hnot, ih]

section Table

variable {table : List (Char × Char)} (h : IsEscapeTable table)
include h

/-- No escape is left behind. -/
theorem not_infix_decodeWith {e : Char × Char} (he : e ∈ table) (t : Text) :
    ¬['\\', e.1] <:+: decodeWith table t := by
  induction t using escape_induction table with
  | nil => simp [decodeWith]
  | escape c decoded rest hletter ih =>
      rw [decodeWith_escape hletter, List.infix_cons_iff, not_or]
      refine ⟨fun hbegins => ?_, ih⟩
      exact h.char _ (mem_of_lookup hletter) (List.cons_prefix_cons.1 hbegins).1.symm
  | plain c rest hplain ih =>
      rw [decodeWith_cons hplain, List.infix_cons_iff, not_or]
      refine ⟨fun hbegins => ?_, ih⟩
      obtain ⟨hc, others, hothers⟩ := List.cons_prefix_cons.1 hbegins
      have hhead : e.1 ∈ (decodeWith table rest).head? := by
        rw [← hothers]
        rfl
      rcases mem_head?_decodeWith hhead with hhead | ⟨other, hother, heq⟩
      · have hnone := List.lookup_eq_none_iff.1 (hplain hc.symm e.1 hhead) e he
        exact bne_iff_ne.1 hnone rfl
      · exact h.apart other hother e he heq

end Table

theorem decodeWith_eq_self {table : List (Char × Char)} {t : Text}
    (h : ∀ e ∈ table, ¬['\\', e.1] <:+: t) : decodeWith table t = t := by
  induction t using escape_induction table with
  | nil => rfl
  | escape c decoded rest hletter ih =>
      exact absurd (List.prefix_append ['\\', c] rest).isInfix (h _ (mem_of_lookup hletter))
  | plain c rest hplain ih =>
      rw [decodeWith_cons hplain, ih fun e he hoccurs => h e he (List.infix_cons hoccurs)]

/-- Two passes, one after the other, are a single one with both tables. -/
theorem decodeWith_decodeWith {first second : List (Char × Char)}
    (h : IsEscapeTable (first ++ second)) (t : Text) :
    decodeWith second (decodeWith first t) = decodeWith (first ++ second) t := by
  induction t using escape_induction (first ++ second) with
  | nil => rfl
  | escape c decoded rest hletter ih =>
      have hmem := mem_of_lookup hletter
      rw [decodeWith_escape hletter, ← ih]
      rw [List.lookup_append, Option.or_eq_some_iff] at hletter
      rcases hletter with hfirst | ⟨hnone, hsecond⟩
      · rw [decodeWith_escape hfirst, decodeWith_cons_of_ne (h.char _ hmem)]
      · have hc : c ≠ '\\' := h.letter _ hmem
        have hplain : BeginsNoEscape first '\\' (c :: rest) := by
          intro _ d hd
          rw [← Option.some.inj hd]
          exact hnone
        rw [decodeWith_cons hplain, decodeWith_cons_of_ne hc, decodeWith_escape hsecond]
  | plain c rest hplain ih =>
      have hfirst : BeginsNoEscape first c rest := by
        intro hc d hd
        have hnone := hplain hc d hd
        rw [List.lookup_append, Option.or_eq_none_iff] at hnone
        exact hnone.1
      have hsecond : BeginsNoEscape second c (decodeWith first rest) := by
        intro hc d hd
        rcases mem_head?_decodeWith hd with hd | ⟨e, he, rfl⟩
        · have hnone := hplain hc d hd
          rw [List.lookup_append, Option.or_eq_none_iff] at hnone
          exact hnone.2
        · exact lookup_eq_none fun other hother =>
            h.apart e (List.mem_append_left _ he) other (List.mem_append_right _ hother)
      rw [decodeWith_cons hfirst, decodeWith_cons hsecond, decodeWith_cons hplain, ih]

/-- The pass may be cut wherever no escape is. -/
theorem decodeWith_append {table : List (Char × Char)} {front back : Text}
    (h : front.getLast? ≠ some '\\' ∨ ∀ c ∈ back.head?, table.lookup c = none) :
    decodeWith table (front ++ back) = decodeWith table front ++ decodeWith table back := by
  induction front using escape_induction table with
  | nil => rfl
  | escape c decoded rest hletter ih =>
      have hrest : rest.getLast? ≠ some '\\' ∨ ∀ c ∈ back.head?, table.lookup c = none := by
        refine h.imp_left fun hlast heq => hlast ?_
        rw [List.getLast?_cons_of_ne_nil (List.cons_ne_nil c rest), List.getLast?_cons, heq]
        rfl
      rw [List.cons_append, List.cons_append, decodeWith_escape hletter, ih hrest,
        decodeWith_escape hletter, List.cons_append]
  | plain c rest hplain ih =>
      cases rest with
      | nil =>
          have hback : BeginsNoEscape table c back := by
            rintro rfl
            exact h.resolve_left fun hlast => hlast rfl
          rw [List.singleton_append, decodeWith_cons hback, decodeWith_cons hplain]
          rfl
      | cons d rest =>
          rw [List.getLast?_cons_of_ne_nil (List.cons_ne_nil d rest)] at h
          have hfront : BeginsNoEscape table c (d :: rest ++ back) := hplain
          rw [List.cons_append, decodeWith_cons hfront, ih h, decodeWith_cons hplain,
            List.cons_append]

theorem IsEscapeTable.of_append_left {first second : List (Char × Char)}
    (h : IsEscapeTable (first ++ second)) : IsEscapeTable first where
  letter e he := h.letter e (List.mem_append_left _ he)
  char e he := h.char e (List.mem_append_left _ he)
  apart e he other hother :=
    h.apart e (List.mem_append_left _ he) other (List.mem_append_left _ hother)

/-- One replacement for each escape, in the order of the table. -/
theorem foldl_replaceAll_eq_decodeWith {table : List (Char × Char)} (h : IsEscapeTable table)
    (t : Text) :
    table.foldl (fun t e => t.replaceAll ['\\', e.1] [e.2]) t = decodeWith table t := by
  induction table using List.reverseRecOn with
  | nil => exact (decodeWith_eq_self fun e he => absurd he List.not_mem_nil).symm
  | append_singleton table e ih =>
      rw [List.foldl_append, ih h.of_append_left]
      exact (replaceAll_eq_decodeWith e.1 e.2 _).trans (decodeWith_decodeWith h t)

/-! ### The escapes of a template -/

theorem isEscapeTable_escapes : IsEscapeTable escapes := ⟨by decide, by decide, by decide⟩

theorem decodeEscapes_eq_decodeWith (t : Text) : decodeEscapes t = decodeWith escapes t :=
  foldl_replaceAll_eq_decodeWith isEscapeTable_escapes t

/-- **Escapes are decoded in one pass.** The three replacements do what a pass from left to right
does. They leave no escape, so to decode once more changes nothing, and a text may be cut wherever
no escape is. -/
theorem decodeEscapes_in_one_pass (t : Text) :
    decodeEscapes t = decodeWith escapes t ∧
      (∀ c ∈ ['r', 'n', 't'], ¬['\\', c] <:+: decodeEscapes t) ∧
      decodeEscapes (decodeEscapes t) = decodeEscapes t ∧
      ∀ back : Text, t.getLast? ≠ some '\\' ∨ (∀ c ∈ back.head?, c ∉ ['r', 'n', 't']) →
        decodeEscapes (t ++ back) = decodeEscapes t ++ decodeEscapes back := by
  have hletters : escapes.map Prod.fst = ['r', 'n', 't'] := rfl
  have hnone : ∀ e ∈ escapes, ¬['\\', e.1] <:+: decodeEscapes t := by
    intro e he
    rw [decodeEscapes_eq_decodeWith]
    exact not_infix_decodeWith isEscapeTable_escapes he t
  refine ⟨decodeEscapes_eq_decodeWith t, ?_, ?_, fun back h => ?_⟩
  · intro c hc
    rw [← hletters] at hc
    obtain ⟨e, he, rfl⟩ := List.mem_map.1 hc
    exact hnone e he
  · rw [decodeEscapes_eq_decodeWith (decodeEscapes t), decodeWith_eq_self hnone]
  · rw [← hletters] at h
    simp only [decodeEscapes_eq_decodeWith]
    refine decodeWith_append (h.imp_right fun hback c hc => lookup_eq_none fun e he heq => ?_)
    exact hback c hc (heq ▸ List.mem_map_of_mem he)

/-- A backslash at the end, but in front of an escape and not of its letter. -/
theorem decodeEscapes_in_one_pass_backslashes :
    (∀ c ∈ ['\\', 'n'].head?, c ∉ ['r', 'n', 't']) ∧
      decodeEscapes (['\\', '\\', 'r', '\\'] ++ ['\\', 'n']) =
        decodeEscapes ['\\', '\\', 'r', '\\'] ++ decodeEscapes ['\\', 'n'] ∧
      decodeEscapes (['\\', '\\', 'r', '\\'] ++ ['\\', 'n']) = ['\\', '\r', '\\', '\n'] := by
  have hback : ∀ c ∈ ['\\', 'n'].head?, c ∉ ['r', 'n', 't'] := by simp
  have hcut := (decodeEscapes_in_one_pass ['\\', '\\', 'r', '\\']).2.2.2 ['\\', 'n'] (.inr hback)
  exact ⟨hback, hcut, by decide⟩

end Sweep.Regex
