import Mathlib.Data.List.Forall2
import Sweep.Proofs.Printing

/-!
# The spacing of a source

What a source is read as depends on its instructions alone: blank lines, comments and the blanks
around an instruction make no difference. If the source is refused, then for the same instruction,
and the error has the number of the line where this source has it.
-/

namespace Sweep

/-- The source is refused for the instruction `text` behind the instructions `before`. The error has
the number of the line that holds it, counted from 1. -/
def ParsedScript.IsRefused (source : Text) (before : List Text) (text : Text)
    (fault : LineFault) : Prop :=
  ∃ front raw back, source.lines = front ++ raw :: back ∧ instructionTexts front = before ∧
    raw.trim = text ∧ Instruction.isIgnorable text = false ∧
      parse source = .error ⟨fault, front.length + 1, text⟩

/-! ### Numbered lines -/

theorem instructionTexts_cons_of_ignorable {raw : Text}
    (h : Instruction.isIgnorable raw.trim = true) (lines : List Text) :
    instructionTexts (raw :: lines) = instructionTexts lines := by
  rw [instructionTexts, List.map_cons, List.filter_cons_of_neg (by simp [h])]
  rfl

theorem instructionTexts_cons {raw : Text} (h : Instruction.isIgnorable raw.trim = false)
    (lines : List Text) :
    instructionTexts (raw :: lines) = raw.trim :: instructionTexts lines := by
  rw [instructionTexts, List.map_cons, List.filter_cons_of_pos (by simp [h])]
  rfl

theorem instructionTexts_eq (lines : List Text) :
    (instructionLines (numberLines lines)).map Prod.snd = instructionTexts lines := by
  rw [map_snd_instructionLines, map_snd_numberLines]

/-- Lines with numbers that begin at `first`. -/
def numberFrom (first : Nat) (lines : List Text) : List (Nat × Text) :=
  (lines.zipIdx first).map fun (line, number) => (number, line)

theorem numberFrom_cons (first : Nat) (raw : Text) (lines : List Text) :
    numberFrom first (raw :: lines) = (first, raw) :: numberFrom (first + 1) lines := rfl

/-- The number of an instruction counts the lines in front of it. -/
theorem exists_lines_of_instructionLines {first : Nat} {lines : List Text}
    {before others : List (Nat × Text)} {line : Nat × Text}
    (h : instructionLines (numberFrom first lines) = before ++ line :: others) :
    ∃ front raw back, lines = front ++ raw :: back ∧
      instructionTexts front = before.map Prod.snd ∧ line = (first + front.length, raw.trim) ∧
        Instruction.isIgnorable raw.trim = false := by
  induction lines generalizing first before with
  | nil => exact absurd h.symm (by simp [numberFrom, instructionLines])
  | cons raw lines ih =>
      rw [numberFrom_cons] at h
      cases hignorable : Instruction.isIgnorable raw.trim with
      | true =>
          rw [instructionLines_cons_of_ignorable hignorable] at h
          obtain ⟨front, other, back, rfl, hfront, rfl, hother⟩ := ih h
          refine ⟨raw :: front, other, back, rfl, ?_, ?_, hother⟩
          · rw [instructionTexts_cons_of_ignorable hignorable, hfront]
          · rw [List.length_cons, Nat.add_assoc, Nat.add_comm 1]
      | false =>
          rw [instructionLines_cons hignorable] at h
          cases before with
          | nil =>
              obtain ⟨rfl, -⟩ := List.cons.inj h
              exact ⟨[], raw, lines, rfl, rfl, rfl, hignorable⟩
          | cons found before =>
              obtain ⟨rfl, hlines⟩ := List.cons.inj h
              obtain ⟨front, other, back, rfl, hfront, rfl, hother⟩ := ih hlines
              refine ⟨raw :: front, other, back, rfl, ?_, ?_, hother⟩
              · rw [instructionTexts_cons hignorable, hfront, List.map_cons]
              · rw [List.length_cons, Nat.add_assoc, Nat.add_comm 1]

namespace ParsedScript

/-! ### What instructions decide -/

section Instructions

variable {source other : Text}

theorem parse_of_instructionTexts_eq
    (h : instructionTexts source.lines = instructionTexts other.lines) {parsed : ParsedScript}
    (hparsed : parse source = .ok parsed) : parse other = .ok parsed := by
  rw [parse_eq_ok_iff_acceptAll, instructionsOf_numberLines] at hparsed ⊢
  rwa [← h]

/-- The first instruction that a draft refuses is what the source is refused for. -/
theorem isRefused_of_accept {before others : List Text} {text : Text} {fault : LineFault}
    {draft : Draft} (hlines : instructionTexts source.lines = before ++ text :: others)
    (hbefore : Draft.acceptAll {} (before.map Instruction.ofLine) = .ok draft)
    (hfault : draft.accept (Instruction.ofLine text) = .error fault) :
    IsRefused source before text fault := by
  rw [← instructionTexts_eq] at hlines
  obtain ⟨first, second, hsplit, rfl, hsecond⟩ := List.map_eq_append_iff.1 hlines
  obtain ⟨line, rest, rfl, rfl, -⟩ := List.map_eq_cons_iff.1 hsecond
  obtain ⟨front, raw, back, hsource, hfront, rfl, hraw⟩ := exists_lines_of_instructionLines hsplit
  refine ⟨front, raw, back, hsource, hfront, rfl, hraw, parse_eq_error_iff_refusedAt.2 ?_⟩
  refine ⟨first, _, rest, draft, hsplit, ?_, hfault, ?_⟩
  · rwa [instructionsOf_eq]
  · rw [Nat.add_comm]

theorem exists_accept_of_parse {e : ScriptError} (h : parse source = .error e) :
    ∃ before others draft, instructionTexts source.lines = before ++ e.text :: others ∧
      Draft.acceptAll {} (before.map Instruction.ofLine) = .ok draft ∧
        draft.accept (Instruction.ofLine e.text) = .error e.fault := by
  obtain ⟨before, line, others, draft, hlines, hbefore, hfault, rfl⟩ :=
    parse_eq_error_iff_refusedAt.1 h
  refine ⟨before.map Prod.snd, others.map Prod.snd, draft, ?_, ?_, hfault⟩
  · rw [← instructionTexts_eq, hlines, List.map_append, List.map_cons]
  · rwa [← instructionsOf_eq]

end Instructions

end ParsedScript

/-! ### Line ends -/

namespace Text

theorem trimStart_append_of_isBlank (t : Text) {c : Char} (hc : isBlank c = true) :
    trimStart (t ++ [c]) = trimStart t ∨ trimStart (t ++ [c]) = trimStart t ++ [c] := by
  rw [trimStart, trimStart, List.dropWhile_append]
  split
  · rename_i h
    rw [List.isEmpty_iff.1 h, List.dropWhile_cons_of_pos hc]
    exact .inl rfl
  · exact .inr rfl

theorem trim_append_of_isBlank (t : Text) {c : Char} (hc : isBlank c = true) :
    (t ++ [c]).trim = t.trim := by
  have hend : trimEnd (trimStart t ++ [c]) = trimEnd (trimStart t) := by
    rw [trimEnd, List.reverse_append, List.reverse_singleton, List.singleton_append,
      List.dropWhile_cons_of_pos hc]
    rfl
  rw [trim, trim]
  rcases trimStart_append_of_isBlank t hc with h | h
  · rw [h]
  · rw [h, hend]

/-- A text with a carriage return in front of every line feed. -/
def withReturns (t : Text) : Text := t.replaceAll ['\n'] ['\r', '\n']

theorem withReturns_newline (t : Text) :
    withReturns ('\n' :: t) = '\r' :: '\n' :: withReturns t :=
  replaceFrom_self_append '\n' [] ['\r', '\n'] t

theorem withReturns_cons {c : Char} (hc : c ≠ '\n') (t : Text) :
    withReturns (c :: t) = c :: withReturns t := by
  refine replaceFrom_cons fun h => hc ?_
  exact (List.cons_prefix_cons.1 h).1.symm

theorem head?_withReturns_ne (t : Text) : (withReturns t).head? ≠ some '\n' := by
  cases t with
  | nil => nofun
  | cons c t =>
      by_cases hc : c = '\n'
      · subst hc
        rw [withReturns_newline]
        nofun
      · rw [withReturns_cons hc]
        exact fun h => hc (Option.some.inj h)

/-- The same line, or with one more carriage return at its end. -/
def IsSameLine (line other : Text) : Prop := other = line ∨ other = line ++ ['\r']

theorem IsSameLine.trim_eq {line other : Text} (h : IsSameLine line other) :
    other.trim = line.trim := by
  rcases h with rfl | rfl
  · rfl
  · exact trim_append_of_isBlank line (by decide)

theorem forall₂_lines_cons {c : Char} {rest : Text} (hc : c ≠ '\n')
    (hreturn : c = '\r' → rest.head? ≠ some '\n')
    (h : List.Forall₂ IsSameLine rest.lines (withReturns rest).lines) :
    List.Forall₂ IsSameLine (lines (c :: rest)) (withReturns (c :: rest)).lines := by
  rw [withReturns_cons hc, lines_cons hc hreturn, lines_cons hc fun _ => head?_withReturns_ne rest]
  generalize lines rest = lines, lines (withReturns rest) = others at h ⊢
  cases h with
  | nil => exact .cons (.inl rfl) .nil
  | cons hline hothers => exact .cons (hline.imp (congrArg _) (congrArg _)) hothers

theorem lines_withReturns (t : Text) :
    List.Forall₂ IsSameLine t.lines (withReturns t).lines := by
  induction t using lines.induct with
  | case1 => exact .nil
  | case2 rest ih =>
      rw [withReturns_newline]
      exact .cons (.inl rfl) ih
  | case3 rest ih =>
      rw [withReturns_cons (by decide), withReturns_newline]
      exact .cons (.inr rfl) ih
  | case4 c rest hc hreturn _ ih
  | case5 c rest hc hreturn _ _ _ ih =>
      refine forall₂_lines_cons hc (fun heq hhead => ?_) ih
      obtain ⟨others, rfl⟩ := List.head?_eq_some_iff.1 hhead
      exact hreturn others heq rfl

end Text

theorem instructionLines_numberLines (lines : List Text) :
    instructionLines (numberLines lines) =
      (numberLines (lines.map Text.trim)).filter fun line => !Instruction.isIgnorable line.2 := by
  rw [instructionLines, numberLines, numberLines, List.zipIdx_map, List.map_map, List.map_map]
  rfl

namespace ParsedScript

theorem parse_congr {source other : Text}
    (h : source.lines.map Text.trim = other.lines.map Text.trim) : parse source = parse other := by
  have hlines : instructionLines (numberLines source.lines) =
      instructionLines (numberLines other.lines) := by
    rw [instructionLines_numberLines, instructionLines_numberLines, h]
  cases hparse : parse other with
  | ok parsed =>
      rw [parse_eq_ok_iff_acceptAll, ← hlines] at hparse
      exact parse_eq_ok_iff_acceptAll.2 hparse
  | error e =>
      rw [parse_eq_error_iff_refusedAt, ← hlines] at hparse
      exact parse_eq_error_iff_refusedAt.2 hparse

theorem map_trim_lines_withReturns (source : Text) :
    source.withReturns.lines.map Text.trim = source.lines.map Text.trim := by
  have h := source.lines_withReturns
  generalize source.lines = lines, source.withReturns.lines = others at h ⊢
  induction h with
  | nil => rfl
  | cons hline _ ih => rw [List.map_cons, List.map_cons, hline.trim_eq, ih]

/-- **Only the instructions matter.** Two sources with the same trimmed instruction lines are both
read, as one script with one table of variables, or both refused, for one fault of one instruction,
each with the number of the line where it has this instruction. A carriage return in front of each
line feed changes nothing at all. -/
theorem parse_of_same_instructions :
    (∀ source other : Text, instructionTexts source.lines = instructionTexts other.lines →
      (∃ parsed, parse source = .ok parsed ∧ parse other = .ok parsed) ∨
        ∃ before text fault, IsRefused source before text fault ∧
          IsRefused other before text fault) ∧
      ∀ source : Text, parse (source.replaceAll ['\n'] ['\r', '\n']) = parse source := by
  refine ⟨fun source other hlines => ?_, fun source => parse_congr ?_⟩
  · cases hparse : parse source with
    | ok parsed => exact .inl ⟨parsed, rfl, parse_of_instructionTexts_eq hlines hparse⟩
    | error e =>
        obtain ⟨before, others, draft, hsource, hbefore, hfault⟩ := exists_accept_of_parse hparse
        refine .inr ⟨before, e.text, e.fault, isRefused_of_accept hsource hbefore hfault, ?_⟩
        rw [hlines] at hsource
        exact isRefused_of_accept hsource hbefore hfault
  · exact map_trim_lines_withReturns source

/-- The second selection is one too many. -/
def twoSelections : Text := "in *\nin a\n".toList

/-- The same with a comment, a blank line and blanks of several kinds. -/
def twoSelectionsSpaced : Text := "\t// all\n\u3000in *\r\n \n\u0085in a".toList

theorem parse_of_same_instructions_spaced :
    instructionTexts twoSelections.lines = instructionTexts twoSelectionsSpaced.lines ∧
      ∃ before text fault, IsRefused twoSelections before text fault ∧
        IsRefused twoSelectionsSpaced before text fault := by
  have hlines : instructionTexts twoSelections.lines =
      instructionTexts twoSelectionsSpaced.lines := by
    decide
  refine ⟨hlines, (parse_of_same_instructions.1 _ _ hlines).resolve_left ?_⟩
  rintro ⟨parsed, hparsed, -⟩
  have herror : parse twoSelections = .error ⟨.unexpected .files, 2, "in a".toList⟩ := by
    decide
  rw [herror] at hparsed
  cases hparsed

end ParsedScript

end Sweep
