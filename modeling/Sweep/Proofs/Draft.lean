import Sweep.Script.Draft

/-!
# Reading instructions into a draft

A draft sees a line only as its instruction, and blank lines and comments not at all. So reading a
source comes down to taking the instructions of its lines one after the other, up to the first one
that is refused.
-/

namespace Sweep

/-- The lines that are neither blank nor comments, trimmed, with their numbers. -/
def instructionLines (lines : List (Nat × Text)) : List (Nat × Text) :=
  (lines.map fun line => (line.1, line.2.trim)).filter fun line =>
    !Instruction.isIgnorable line.2

def instructionsOf (lines : List (Nat × Text)) : List Instruction :=
  lines.map fun line => Instruction.ofLine line.2

/-- The trimmed lines that are neither blank nor comments. -/
def instructionTexts (lines : List Text) : List Text :=
  (lines.map Text.trim).filter fun line => !Instruction.isIgnorable line

theorem map_snd_instructionLines (lines : List (Nat × Text)) :
    (instructionLines lines).map Prod.snd = instructionTexts (lines.map Prod.snd) := by
  rw [instructionLines, instructionTexts, List.map_map, List.filter_map, List.filter_map,
    List.map_map]
  rfl

theorem map_snd_numberLines (lines : List Text) : (numberLines lines).map Prod.snd = lines := by
  rw [numberLines, List.map_map]
  exact List.zipIdx_map_fst 1 lines

theorem instructionsOf_eq (lines : List (Nat × Text)) :
    instructionsOf lines = (lines.map Prod.snd).map Instruction.ofLine := by
  rw [instructionsOf, List.map_map]
  rfl

theorem instructionsOf_numberLines (lines : List Text) :
    instructionsOf (instructionLines (numberLines lines)) =
      (instructionTexts lines).map Instruction.ofLine := by
  rw [instructionsOf_eq, map_snd_instructionLines, map_snd_numberLines]

theorem instructionLines_cons_of_ignorable {number : Nat} {raw : Text}
    (h : Instruction.isIgnorable raw.trim = true) (others : List (Nat × Text)) :
    instructionLines ((number, raw) :: others) = instructionLines others := by
  rw [instructionLines, List.map_cons, List.filter_cons_of_neg (by simp [h])]
  rfl

theorem instructionLines_cons {number : Nat} {raw : Text}
    (h : Instruction.isIgnorable raw.trim = false) (others : List (Nat × Text)) :
    instructionLines ((number, raw) :: others) =
      (number, raw.trim) :: instructionLines others := by
  rw [instructionLines, List.map_cons, List.filter_cons_of_pos (by simp [h])]
  rfl

theorem Draft.globArgument_eq_ok_iff {keyword : Keyword} {payload glob : Text} :
    Draft.globArgument keyword payload = .ok glob ↔
      Instruction.globOf payload ≠ [] ∧ Instruction.globOf payload = glob := by
  unfold Draft.globArgument
  cases hglob : Instruction.globOf payload with
  | nil => simp
  | cons c rest => simp

theorem Draft.globArgument_eq_error_iff {keyword : Keyword} {payload : Text} {fault : LineFault} :
    Draft.globArgument keyword payload = .error fault ↔
      Instruction.globOf payload = [] ∧ .invalid keyword = fault := by
  unfold Draft.globArgument
  cases hglob : Instruction.globOf payload with
  | nil => simp
  | cons c rest => simp

namespace Draft

theorem inFrontMatter_iff {draft : Draft} :
    draft.inFrontMatter = true ↔ draft.block = .idle ∧ draft.commands = [] := by
  rw [inFrontMatter, Bool.and_eq_true, beq_iff_eq, List.isEmpty_iff]

/-! ### One instruction -/

section Accept

variable {draft next : Draft} {payload : Text}

theorem accept_filter_eq_ok_iff :
    draft.accept (.filter payload) = .ok next ↔
      (draft.filter = none ∧ draft.block = .idle ∧ draft.commands = []) ∧
        Instruction.globOf payload ≠ [] ∧
          { draft with filter := some (Instruction.globOf payload) } = next := by
  rw [accept]
  by_cases hplace : (draft.filter.isNone && draft.inFrontMatter) = true
  · have hfront := hplace
    rw [Bool.and_eq_true, Option.isNone_iff_eq_none, inFrontMatter_iff] at hfront
    rw [if_pos hplace]
    cases hglob : globArgument .filter payload with
    | error fault =>
        have hempty := (globArgument_eq_error_iff.1 hglob).1
        simp [Except.map, hempty]
    | ok glob =>
        obtain ⟨hne, rfl⟩ := globArgument_eq_ok_iff.1 hglob
        simp [Except.map, hne, hfront]
  · have hfront := hplace
    rw [Bool.and_eq_true, Option.isNone_iff_eq_none, inFrontMatter_iff] at hfront
    rw [if_neg hplace]
    simp [hfront]

theorem accept_files_eq_ok_iff :
    draft.accept (.files payload) = .ok next ↔
      draft.block = .idle ∧ Instruction.globOf payload ≠ [] ∧
        { draft with block := .files (Instruction.globOf payload) } = next := by
  rw [accept]
  by_cases hplace : draft.block = .idle
  · rw [if_pos hplace]
    cases hglob : globArgument .files payload with
    | error fault =>
        have hempty := (globArgument_eq_error_iff.1 hglob).1
        simp [Except.map, hempty]
    | ok glob =>
        obtain ⟨hne, rfl⟩ := globArgument_eq_ok_iff.1 hglob
        simp [Except.map, hne, hplace]
  · rw [if_neg hplace]
    simp [hplace]

theorem accept_search_eq_ok_iff {mode : SearchMode} :
    draft.accept (.search mode payload) = .ok next ↔
      ∃ files, (draft.block = .idle ∧ files = none ∨ ∃ glob, draft.block = .files glob ∧
        files = some glob) ∧ { draft with block := .search files payload mode } = next := by
  rw [accept, beginSearch]
  cases draft.block with
  | idle => simp
  | files glob => simp
  | search files pattern mode => simp

theorem accept_replacement_eq_ok_iff :
    draft.accept (.replacement payload) = .ok next ↔
      ∃ files pattern mode, draft.block = .search files pattern mode ∧
        { draft with
          block := .idle
          commands := draft.commands ++ [⟨files.getD everyFile, pattern, payload, mode⟩] } =
          next := by
  rw [accept, complete]
  cases draft.block with
  | idle => simp
  | files glob => simp
  | search files pattern mode =>
      constructor
      · intro h
        exact ⟨files, pattern, mode, rfl, Except.ok.inj h⟩
      · rintro ⟨_, _, _, heq, rfl⟩
        cases heq
        rfl

theorem accept_assign_eq_ok_iff {name value : Text} :
    draft.accept (.assign name value) = .ok next ↔
      (draft.block = .idle ∧ draft.commands = []) ∧
        { draft with table := draft.table.define name value } = next := by
  rw [accept]
  by_cases hplace : draft.inFrontMatter = true
  · rw [if_pos hplace]
    simp [inFrontMatter_iff.1 hplace]
  · rw [if_neg hplace]
    rw [inFrontMatter_iff] at hplace
    simp [hplace]

end Accept

/-! ### One instruction after the other -/

/-- Takes instructions into the draft, up to the first refused one. -/
def acceptAll (draft : Draft) : List Instruction → Except LineFault Draft
  | [] => .ok draft
  | instruction :: others =>
    match draft.accept instruction with
    | .ok next => next.acceptAll others
    | .error fault => .error fault

theorem acceptAll_append {draft next : Draft} {instructions : List Instruction}
    (h : draft.acceptAll instructions = .ok next) (others : List Instruction) :
    draft.acceptAll (instructions ++ others) = next.acceptAll others := by
  induction instructions generalizing draft with
  | nil =>
      rw [← Except.ok.inj h]
      rfl
  | cons instruction instructions ih =>
      rw [acceptAll] at h
      rw [List.cons_append, acceptAll]
      cases haccept : draft.accept instruction with
      | error fault =>
          rw [haccept] at h
          cases h
      | ok first =>
          rw [haccept] at h
          exact ih h

theorem acceptAll_singleton (draft : Draft) (instruction : Instruction) :
    draft.acceptAll [instruction] = draft.accept instruction := by
  rw [acceptAll]
  cases draft.accept instruction with
  | error fault => rfl
  | ok next => rfl

theorem exists_acceptAll_of_append {draft last : Draft} {instructions others : List Instruction}
    (h : draft.acceptAll (instructions ++ others) = .ok last) :
    ∃ next, draft.acceptAll instructions = .ok next ∧ next.acceptAll others = .ok last := by
  induction instructions generalizing draft with
  | nil => exact ⟨draft, rfl, h⟩
  | cons instruction instructions ih =>
      rw [List.cons_append, acceptAll] at h
      rw [acceptAll]
      cases haccept : draft.accept instruction with
      | error fault =>
          rw [haccept] at h
          cases h
      | ok first =>
          rw [haccept] at h
          exact ih h

/-! ### One line after the other -/

theorem feedAll_cons_of_ignorable {draft : Draft} {number : Nat} {raw : Text}
    (h : Instruction.isIgnorable raw.trim = true) (others : List (Nat × Text)) :
    draft.feedAll ((number, raw) :: others) = draft.feedAll others := by
  rw [feedAll, feed, if_pos h]

theorem feedAll_cons {draft : Draft} {number : Nat} {raw : Text}
    (h : Instruction.isIgnorable raw.trim = false) (others : List (Nat × Text)) :
    draft.feedAll ((number, raw) :: others) =
      match draft.accept (Instruction.ofLine raw.trim) with
      | .ok next => next.feedAll others
      | .error fault => .error ⟨fault, number, raw.trim⟩ := by
  rw [feedAll, feed, if_neg (by simp [h])]
  cases draft.accept (Instruction.ofLine raw.trim) with
  | error fault => rfl
  | ok next => rfl

theorem feedAll_eq_ok_iff {draft last : Draft} {lines : List (Nat × Text)} :
    draft.feedAll lines = .ok last ↔
      draft.acceptAll (instructionsOf (instructionLines lines)) = .ok last := by
  induction lines generalizing draft with
  | nil =>
      rw [feedAll, instructionLines, List.map_nil, List.filter_nil, instructionsOf, List.map_nil,
        acceptAll, Except.ok.injEq, Except.ok.injEq]
  | cons line others ih =>
      obtain ⟨number, raw⟩ := line
      cases hignorable : Instruction.isIgnorable raw.trim with
      | true =>
          rw [feedAll_cons_of_ignorable hignorable, instructionLines_cons_of_ignorable hignorable]
          exact ih
      | false =>
          rw [feedAll_cons hignorable, instructionLines_cons hignorable, instructionsOf,
            List.map_cons, ← instructionsOf, acceptAll]
          cases draft.accept (Instruction.ofLine raw.trim) with
          | error fault => simp
          | ok next => exact ih

/-- The first line whose instruction is refused, with its fault. -/
def RefusedAt (draft : Draft) (lines : List (Nat × Text)) (e : ScriptError) : Prop :=
  ∃ before line others next, lines = before ++ line :: others ∧
    draft.acceptAll (instructionsOf before) = .ok next ∧
      next.accept (Instruction.ofLine line.2) = .error e.fault ∧ line = (e.line, e.text)

theorem refusedAt_nil {draft : Draft} {e : ScriptError} : ¬RefusedAt draft [] e := by
  rintro ⟨before, line, others, next, hlines, -⟩
  cases before with
  | nil => cases hlines
  | cons first before => cases hlines

theorem refusedAt_cons_of_error {draft : Draft} {line : Nat × Text} {fault : LineFault}
    (h : draft.accept (Instruction.ofLine line.2) = .error fault) {others : List (Nat × Text)}
    {e : ScriptError} : RefusedAt draft (line :: others) e ↔ ⟨fault, line.1, line.2⟩ = e := by
  constructor
  · rintro ⟨before, first, rest, next, hlines, hbefore, hfault, hfirst⟩
    cases before with
    | nil =>
        obtain ⟨rfl, -⟩ := List.cons.inj hlines
        obtain rfl := Except.ok.inj hbefore
        rw [h] at hfault
        rw [Except.error.inj hfault, hfirst]
    | cons other before =>
        obtain ⟨rfl, -⟩ := List.cons.inj hlines
        rw [instructionsOf, List.map_cons, acceptAll, h] at hbefore
        cases hbefore
  · rintro rfl
    exact ⟨[], line, others, draft, rfl, rfl, h, rfl⟩

theorem refusedAt_cons_of_ok {draft second : Draft} {line : Nat × Text}
    (h : draft.accept (Instruction.ofLine line.2) = .ok second) {others : List (Nat × Text)}
    {e : ScriptError} : RefusedAt draft (line :: others) e ↔ RefusedAt second others e := by
  constructor
  · rintro ⟨before, first, rest, next, hlines, hbefore, hfault, hfirst⟩
    cases before with
    | nil =>
        obtain ⟨rfl, -⟩ := List.cons.inj hlines
        obtain rfl := Except.ok.inj hbefore
        rw [h] at hfault
        cases hfault
    | cons other before =>
        obtain ⟨rfl, hothers⟩ := List.cons.inj hlines
        rw [instructionsOf, List.map_cons, acceptAll, h] at hbefore
        exact ⟨before, first, rest, next, hothers, hbefore, hfault, hfirst⟩
  · rintro ⟨before, first, rest, next, hlines, hbefore, hfault, hfirst⟩
    refine ⟨line :: before, first, rest, next, ?_, ?_, hfault, hfirst⟩
    · rw [hlines, List.cons_append]
    · rw [instructionsOf, List.map_cons, acceptAll, h]
      exact hbefore

theorem feedAll_eq_error_iff {draft : Draft} {lines : List (Nat × Text)} {e : ScriptError} :
    draft.feedAll lines = .error e ↔ RefusedAt draft (instructionLines lines) e := by
  induction lines generalizing draft with
  | nil =>
      have hnot : ¬RefusedAt draft (instructionLines []) e := refusedAt_nil
      simp [feedAll, hnot]
  | cons line others ih =>
      obtain ⟨number, raw⟩ := line
      cases hignorable : Instruction.isIgnorable raw.trim with
      | true =>
          rw [feedAll_cons_of_ignorable hignorable, instructionLines_cons_of_ignorable hignorable]
          exact ih
      | false =>
          rw [feedAll_cons hignorable, instructionLines_cons hignorable]
          cases haccept : draft.accept (Instruction.ofLine raw.trim) with
          | error fault => rw [refusedAt_cons_of_error haccept, Except.error.injEq]
          | ok second => exact ih.trans (refusedAt_cons_of_ok haccept).symm

end Draft

/-! ### A whole source -/

namespace ParsedScript

variable {source : Text}

theorem parse_eq_ok_iff_feedAll {parsed : ParsedScript} :
    parse source = .ok parsed ↔
      ∃ d, Draft.feedAll {} (numberLines source.lines) = .ok d ∧ d.finish = parsed := by
  rw [parse]
  cases Draft.feedAll {} (numberLines source.lines) with
  | error e => simp [Except.map]
  | ok d => simp [Except.map]

theorem parse_eq_ok_iff_acceptAll {parsed : ParsedScript} :
    parse source = .ok parsed ↔
      ∃ d, Draft.acceptAll {} (instructionsOf (instructionLines (numberLines source.lines))) =
        .ok d ∧ d.finish = parsed := by
  simp only [← Draft.feedAll_eq_ok_iff]
  exact parse_eq_ok_iff_feedAll

theorem parse_eq_error_iff_refusedAt {e : ScriptError} :
    parse source = .error e ↔
      Draft.RefusedAt {} (instructionLines (numberLines source.lines)) e := by
  rw [← Draft.feedAll_eq_error_iff, parse]
  cases Draft.feedAll {} (numberLines source.lines) with
  | error e' => simp [Except.map]
  | ok d => simp [Except.map]

end ParsedScript

end Sweep
