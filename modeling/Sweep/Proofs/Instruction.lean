import Mathlib.Data.List.DropRight
import Sweep.Script.Instruction
import Sweep.Script.Variables

/-!
# Shapes of script lines

A line has the shape of a keyword exactly if it is the keyword, blanks and the payload, and it has
the shape of one keyword at most. So a written line is read as the instruction that it was written
for.
-/

namespace Sweep

/-! ### Blanks, quotes and beginnings -/

namespace Text

section Span

variable {p : Char → Bool} {front rest : Text} (hfront : ∀ c ∈ front, p c = true)
  (hrest : ∀ c ∈ rest.head?, p c = false)
include hfront hrest

theorem takeWhile_append_of_head? : (front ++ rest).takeWhile p = front := by
  rw [List.takeWhile_append_of_pos hfront]
  cases rest with
  | nil => exact List.append_nil front
  | cons c rest =>
      rw [List.takeWhile_cons_of_neg (by rw [hrest c rfl]; decide), List.append_nil]

theorem dropWhile_append_of_head? : (front ++ rest).dropWhile p = rest := by
  rw [List.dropWhile_append_of_pos hfront]
  cases rest with
  | nil => rfl
  | cons c rest => rw [List.dropWhile_cons_of_neg (by rw [hrest c rfl]; decide)]

end Span

def IsBlank (t : Text) : Prop := ∀ c ∈ t, isBlank c = true

/-- A text that begins with something other than a blank, or with nothing. -/
def BeginsInk (t : Text) : Prop := ∀ c ∈ t.head?, isBlank c = false

theorem beginsInk_quote (t : Text) : BeginsInk (quote t) := by
  intro c hc
  rw [← Option.some.inj hc]
  decide

theorem trimStart_of_beginsInk {t : Text} (h : BeginsInk t) : trimStart t = t := by
  cases t with
  | nil => rfl
  | cons c t =>
      have hc := h c rfl
      rw [trimStart, List.dropWhile_cons_of_neg (by rw [hc]; decide)]

theorem beginsInk_trimStart (t : Text) : BeginsInk (trimStart t) := by
  intro c hc
  have hnot := List.head?_dropWhile_not isBlank t
  rw [trimStart] at hc
  rw [hc] at hnot
  simpa using hnot

theorem trimStart_append {blanks t : Text} (hblanks : IsBlank blanks) (ht : BeginsInk t) :
    trimStart (blanks ++ t) = t := by
  exact dropWhile_append_of_head? hblanks ht

theorem exists_blanks (t : Text) : ∃ blanks, IsBlank blanks ∧ t = blanks ++ trimStart t :=
  ⟨t.takeWhile isBlank, fun _ hc => List.mem_takeWhile_imp hc,
    List.takeWhile_append_dropWhile.symm⟩

/-- A text that ends in something other than a blank, or with nothing. -/
def EndsInk (t : Text) : Prop := ∀ c ∈ t.getLast?, isBlank c = false

theorem endsInk_trimEnd (t : Text) : EndsInk (trimEnd t) := by
  intro c hc
  rw [trimEnd, List.getLast?_reverse] at hc
  exact beginsInk_trimStart t.reverse c hc

theorem trimEnd_of_endsInk {t : Text} (h : EndsInk t) : trimEnd t = t := by
  have hreverse : BeginsInk t.reverse := by
    intro c hc
    rw [List.head?_reverse] at hc
    exact h c hc
  have htrim := trimStart_of_beginsInk hreverse
  rw [trimStart] at htrim
  rw [trimEnd, htrim, List.reverse_reverse]

theorem mem_of_mem_trim {t : Text} {c : Char} (h : c ∈ t.trim) : c ∈ t := by
  have hfront := List.rdropWhile_prefix isBlank (trimStart t)
  exact (List.dropWhile_sublist isBlank).subset (hfront.subset h)

theorem trim_eq_self {t : Text} (hbegin : BeginsInk t) (hend : EndsInk t) : t.trim = t := by
  rw [trim, trimStart_of_beginsInk hbegin, trimEnd_of_endsInk hend]

theorem beginsInk_trim (t : Text) : BeginsInk t.trim := by
  intro c hc
  obtain ⟨rest, hrest⟩ := List.rdropWhile_prefix isBlank (trimStart t)
  refine beginsInk_trimStart t c ?_
  rw [← hrest]
  exact List.mem_head?_append_of_mem_head? hc

theorem trim_trim (t : Text) : t.trim.trim = t.trim :=
  trim_eq_self (beginsInk_trim t) (endsInk_trimEnd (trimStart t))

theorem after?_eq_some_iff {t start rest : Text} :
    t.after? start = some rest ↔ t = start ++ rest := by
  induction start generalizing t with
  | nil =>
      rw [List.nil_append]
      cases t <;> exact Option.some_inj
  | cons s start ih =>
      cases t with
      | nil => simp [after?]
      | cons c t =>
          rw [after?]
          by_cases heq : c = s
          · rw [if_pos heq, ih, heq, List.cons_append, List.cons.injEq, and_iff_right rfl]
          · rw [if_neg heq]
            simp [heq]

theorem endsInk_append_quote (t inner : Text) : EndsInk (t ++ quote inner) := by
  intro c hc
  rw [quote, ← List.append_assoc, List.getLast?_concat] at hc
  rw [← Option.some.inj hc]
  decide

theorem trim_quote (t : Text) : (quote t).trim = quote t :=
  trim_eq_self (beginsInk_quote t) (endsInk_append_quote [] t)

theorem unquote?_quote (t : Text) : unquote? (quote t) = some t := by
  rw [quote, List.cons_append, unquote?, List.getLast?_concat, if_pos rfl, List.dropLast_concat]

theorem unquote?_eq_some_iff {t inner : Text} : unquote? t = some inner ↔ t = quote inner := by
  constructor
  · intro h
    unfold unquote? at h
    split at h
    · split at h
      · rename_i rest hlast
        rw [← Option.some.inj h, quote, List.cons_append]
        obtain ⟨front, rfl⟩ := List.getLast?_eq_some_iff.1 hlast
        rw [List.dropLast_concat]
      · cases h
    · cases h
  · rintro rfl
    exact unquote?_quote inner

end Text

/-- A name that the grammar of scripts admits. -/
def Variable.IsName (name : Text) : Prop := name ≠ [] ∧ ∀ c ∈ name, Instruction.isNameChar c = true

instance : DecidablePred Variable.IsName := fun name =>
  decidable_of_iff (name ≠ [] ∧ name.all Instruction.isNameChar = true)
    (and_congr_right fun _ => List.all_eq_true)

namespace Instruction

open Text

theorem singleLine?_eq_some_iff {t payload : Text} :
    singleLine? t = some payload ↔ t = payload ∧ '\n' ∉ payload := by
  rw [singleLine?]
  split
  · rename_i hmem
    constructor
    · intro h
      cases h
    · rintro ⟨rfl, hnot⟩
      exact absurd hmem hnot
  · rename_i hnot
    rw [Option.some_inj]
    constructor
    · rintro rfl
      exact ⟨rfl, hnot⟩
    · exact And.left

/-! ### Globs -/

theorem globOf_quote {glob : Text} (h : glob.trim = glob) : globOf (quote glob) = glob := by
  rw [globOf, trim_quote, unquote?_quote]
  exact h

theorem trim_globOf (payload : Text) : (globOf payload).trim = globOf payload := by
  rw [globOf]
  split
  · exact trim_trim _
  · exact trim_trim payload

theorem mem_of_mem_globOf {payload : Text} {c : Char} (h : c ∈ globOf payload) : c ∈ payload := by
  rw [globOf] at h
  split at h
  · rename_i inner hinner
    apply mem_of_mem_trim
    rw [unquote?_eq_some_iff.1 hinner, quote]
    exact List.mem_append_left _ (List.mem_cons_of_mem _ (mem_of_mem_trim h))
  · exact mem_of_mem_trim h

/-! ### Keyword lines -/

theorem isBlank_of_mem_keyword {keyword : Keyword} {c : Char} (h : c ∈ keyword.text) :
    isBlank c = false := by
  have hall : keyword.text.all (!isBlank ·) = true := by
    cases keyword <;> decide
  rw [← Bool.not_eq_true']
  exact List.all_eq_true.1 hall c h

theorem text_inj {keyword other : Keyword} (h : keyword.text = other.text) : keyword = other := by
  revert h
  cases keyword <;> cases other <;> decide

theorem argument?_eq_some_iff {keyword : Keyword} {line argument : Text} :
    argument? keyword line = some argument ↔
      BeginsInk argument ∧ ∃ blanks, blanks ≠ [] ∧ IsBlank blanks ∧
        line = keyword.text ++ blanks ++ argument := by
  constructor
  · intro h
    unfold argument? at h
    split at h
    · rename_i c rest hafter
      split at h
      · rename_i hc
        obtain rfl := Option.some.inj h
        obtain ⟨blanks, hblanks, hrest⟩ := exists_blanks rest
        refine ⟨beginsInk_trimStart rest, c :: blanks, List.cons_ne_nil _ _, ?_, ?_⟩
        · intro d hd
          rcases List.mem_cons.1 hd with rfl | hd
          · exact hc
          · exact hblanks d hd
        · rw [after?_eq_some_iff.1 hafter, List.append_assoc, List.cons_append, ← hrest]
      · cases h
    · cases h
  · rintro ⟨hargument, blanks, hne, hblanks, rfl⟩
    cases blanks with
    | nil => exact absurd rfl hne
    | cons c blanks =>
        have hafter : after? (keyword.text ++ (c :: blanks) ++ argument) keyword.text =
            some (c :: blanks ++ argument) :=
          after?_eq_some_iff.2 (List.append_assoc keyword.text (c :: blanks) argument)
        have hblanks' : IsBlank blanks := fun d hd => hblanks d (List.mem_cons_of_mem _ hd)
        rw [argument?, hafter, List.cons_append]
        dsimp only
        rw [if_pos (hblanks c List.mem_cons_self), trimStart_append hblanks' hargument]

/-- The keyword of a line ends where the first blank stands. -/
theorem takeWhile_of_argument? {keyword : Keyword} {line argument : Text}
    (h : argument? keyword line = some argument) :
    line.takeWhile (!isBlank ·) = keyword.text := by
  obtain ⟨-, blanks, hne, hblanks, rfl⟩ := argument?_eq_some_iff.1 h
  cases blanks with
  | nil => exact absurd rfl hne
  | cons c blanks =>
      rw [List.append_assoc]
      apply takeWhile_append_of_head?
      · intro d hd
        rw [isBlank_of_mem_keyword hd]
        rfl
      · intro d hd
        rw [← Option.some.inj hd, hblanks c List.mem_cons_self]
        rfl

/-- A line has the shape of one keyword at most. -/
theorem eq_of_argument? {keyword other : Keyword} {line argument rest : Text}
    (h : argument? keyword line = some argument) (hother : argument? other line = some rest) :
    keyword = other :=
  text_inj ((takeWhile_of_argument? h).symm.trans (takeWhile_of_argument? hother))

theorem globArgument?_eq_some_iff {keyword : Keyword} {line payload : Text} :
    globArgument? keyword line = some payload ↔
      argument? keyword line = some payload ∧ '\n' ∉ payload := by
  rw [globArgument?, Option.bind_eq_some_iff]
  constructor
  · rintro ⟨argument, hargument, hsingle⟩
    obtain ⟨rfl, hnot⟩ := singleLine?_eq_some_iff.1 hsingle
    exact ⟨hargument, hnot⟩
  · rintro ⟨hargument, hnot⟩
    exact ⟨payload, hargument, singleLine?_eq_some_iff.2 ⟨rfl, hnot⟩⟩

theorem quotedArgument?_eq_some_iff {keyword : Keyword} {line payload : Text} :
    quotedArgument? keyword line = some payload ↔
      argument? keyword line = some (quote payload) ∧ '\n' ∉ payload := by
  rw [quotedArgument?, Option.bind_eq_some_iff]
  constructor
  · rintro ⟨inner, hinner, hsingle⟩
    obtain ⟨rfl, hnot⟩ := singleLine?_eq_some_iff.1 hsingle
    obtain ⟨argument, hargument, hquote⟩ := Option.bind_eq_some_iff.1 hinner
    rw [unquote?_eq_some_iff.1 hquote] at hargument
    exact ⟨hargument, hnot⟩
  · rintro ⟨hargument, hnot⟩
    refine ⟨payload, ?_, singleLine?_eq_some_iff.2 ⟨rfl, hnot⟩⟩
    rw [hargument]
    exact unquote?_quote payload

theorem globArgument?_eq_none {keyword other : Keyword} {line argument : Text}
    (h : argument? keyword line = some argument) (hne : other ≠ keyword) :
    globArgument? other line = none := by
  rw [Option.eq_none_iff_forall_ne_some]
  intro payload hpayload
  exact hne (eq_of_argument? (globArgument?_eq_some_iff.1 hpayload).1 h)

theorem quotedArgument?_eq_none {keyword other : Keyword} {line argument : Text}
    (h : argument? keyword line = some argument) (hne : other ≠ keyword) :
    quotedArgument? other line = none := by
  rw [Option.eq_none_iff_forall_ne_some]
  intro payload hpayload
  exact hne (eq_of_argument? (quotedArgument?_eq_some_iff.1 hpayload).1 h)

/-! ### Assignments -/

theorem isName_of_assignment? {line name value : Text} (h : assignment? line = some (name, value)) :
    Variable.IsName name ∧ '\n' ∉ value := by
  unfold assignment? at h
  dsimp only at h
  split at h
  · rename_i c front rest hname _
    obtain ⟨inner, hinner, hpair⟩ := Option.map_eq_some_iff.1 h
    obtain ⟨rfl, rfl⟩ := Prod.mk.inj hpair
    obtain ⟨payload, -, hsingle⟩ := Option.bind_eq_some_iff.1 hinner
    obtain ⟨rfl, hnot⟩ := singleLine?_eq_some_iff.1 hsingle
    refine ⟨⟨?_, fun d hd => List.mem_takeWhile_imp hd⟩, hnot⟩
    rw [hname]
    exact List.cons_ne_nil c front
  · cases h

/-! ### Instructions -/

/-- What a line must look like to be read as an instruction. -/
inductive HasShape (line : Text) : Instruction → Prop
  | filter {payload : Text} (h : globArgument? .filter line = some payload) :
      HasShape line (.filter payload)
  | files {payload : Text} (h : globArgument? .files line = some payload) :
      HasShape line (.files payload)
  | search {mode : SearchMode} {payload : Text}
      (h : quotedArgument? mode.keyword line = some payload) : HasShape line (.search mode payload)
  | replacement {payload : Text} (h : quotedArgument? .replacement line = some payload) :
      HasShape line (.replacement payload)
  | assign {name value : Text} (h : assignment? line = some (name, value)) :
      HasShape line (.assign name value)
  | unrecognized : HasShape line .unrecognized

theorem hasShape_ofLine (line : Text) : HasShape line (ofLine line) := by
  unfold ofLine
  cases hfilter : globArgument? .filter line with
  | some payload => exact .filter hfilter
  | none =>
  cases hfiles : globArgument? .files line with
  | some payload => exact .files hfiles
  | none =>
  cases hreplace : quotedArgument? .replace line with
  | some payload => exact .search hreplace
  | none =>
  cases hreplaceRegex : quotedArgument? .replaceRegex line with
  | some payload => exact .search hreplaceRegex
  | none =>
  cases hreplacement : quotedArgument? .replacement line with
  | some payload => exact .replacement hreplacement
  | none =>
  cases hassignment : assignment? line with
  | some pair => exact .assign hassignment
  | none => exact .unrecognized

section Keyword

variable {line payload : Text}

theorem ofLine_filter (h : globArgument? .filter line = some payload) :
    ofLine line = .filter payload := by
  rw [ofLine, h]

theorem ofLine_files (h : globArgument? .files line = some payload) :
    ofLine line = .files payload := by
  have harg := (globArgument?_eq_some_iff.1 h).1
  rw [ofLine, globArgument?_eq_none harg (by decide), h]

theorem ofLine_search {mode : SearchMode} (h : quotedArgument? mode.keyword line = some payload) :
    ofLine line = .search mode payload := by
  have harg := (quotedArgument?_eq_some_iff.1 h).1
  cases mode with
  | literal =>
      have hreplace : quotedArgument? .replace line = some payload := h
      rw [ofLine, globArgument?_eq_none harg (by decide), globArgument?_eq_none harg (by decide),
        hreplace]
  | regex =>
      have hreplace : quotedArgument? .replaceRegex line = some payload := h
      rw [ofLine, globArgument?_eq_none harg (by decide), globArgument?_eq_none harg (by decide),
        quotedArgument?_eq_none harg (by decide), hreplace]

theorem ofLine_replacement (h : quotedArgument? .replacement line = some payload) :
    ofLine line = .replacement payload := by
  have harg := (quotedArgument?_eq_some_iff.1 h).1
  rw [ofLine, globArgument?_eq_none harg (by decide), globArgument?_eq_none harg (by decide),
    quotedArgument?_eq_none harg (by decide), quotedArgument?_eq_none harg (by decide), h]

end Keyword

end Instruction

end Sweep
