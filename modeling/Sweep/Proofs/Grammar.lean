import Mathlib.Data.List.Induction
import Sweep.Proofs.Draft

/-!
# The grammar of scripts

A script is its front matter, followed by whole command blocks, followed by what may be the
beginning of one more. The module states this language of instructions without the reader, and
shows that the reader accepts exactly it, gives every script the meaning of its parts, and refuses
any other source at the first instruction that leaves the language.
-/

namespace Sweep

namespace Grammar

/-- A payload that holds a glob. -/
def HasGlob (payload : Text) : Prop := Instruction.globOf payload ≠ []

/-- The payloads of a whole command block. -/
structure BlockLines where
  files? : Option Text
  mode : SearchMode
  search : Text
  replacement : Text

namespace BlockLines

/-- A block without its replacement. -/
def opening (b : BlockLines) : List Instruction :=
  (b.files?.map Instruction.files).toList ++ [.search b.mode b.search]

def instructions (b : BlockLines) : List Instruction := b.opening ++ [.replacement b.replacement]

def IsValid (b : BlockLines) : Prop := ∀ payload ∈ b.files?, HasGlob payload

def glob? (b : BlockLines) : Option Text := b.files?.map Instruction.globOf

def command (b : BlockLines) : Command :=
  ⟨b.glob?.getD everyFile, b.search, b.replacement, b.mode⟩

end BlockLines

/-- Instructions of the front matter. -/
def IsFront : Instruction → Prop
  | .filter payload => HasGlob payload
  | .assign _ _ => True
  | _ => False

def filterGlob? : Instruction → Option Text
  | .filter payload => some (Instruction.globOf payload)
  | _ => none

theorem filterGlob?_assign (name value : Text) : filterGlob? (.assign name value) = none := rfl

/-- The variables after an instruction. -/
def assign (table : VariableTable) : Instruction → VariableTable
  | .assign name value => table.define name value
  | _ => table

/-- The beginning of a block, which may be empty but not the whole block. -/
def IsOpen (rest : List Instruction) : Prop :=
  ∃ b : BlockLines, b.IsValid ∧ rest <+: b.instructions ∧ rest ≠ b.instructions

/-- A script by its parts. -/
structure Layout where
  front : List Instruction
  blocks : List BlockLines
  rest : List Instruction

namespace Layout

structure IsValid (l : Layout) : Prop where
  front : ∀ instruction ∈ l.front, IsFront instruction
  filters : (l.front.filterMap filterGlob?).length ≤ 1
  blocks : ∀ b ∈ l.blocks, b.IsValid
  rest : IsOpen l.rest

def instructions (l : Layout) : List Instruction :=
  l.front ++ l.blocks.flatMap BlockLines.instructions ++ l.rest

def filter? (l : Layout) : Option Text := l.front.findSome? filterGlob?

def table (l : Layout) : VariableTable := l.front.foldl assign {}

/-- What the parts mean. The beginning of one more block has no meaning. -/
def parsed (l : Layout) : ParsedScript where
  script :=
    { filter := l.filter?.getD everyFile
      commands := l.blocks.map fun b =>
        { b.command with search := l.table.resolve b.search } }
  «variables» := l.table

end Layout

/-- The instructions of some script. -/
def IsSentence (instructions : List Instruction) : Prop :=
  ∃ l : Layout, l.IsValid ∧ l.instructions = instructions

/-- What is wrong with an instruction that cannot follow the ones before it. Where a glob is
missing, any other payload with one could stand. -/
inductive FaultAt (before : List Instruction) : Instruction → LineFault → Prop
  | unrecognized : FaultAt before .unrecognized .unrecognized
  | assign {name value : Text} : FaultAt before (.assign name value) .unexpectedVariable
  | search {mode : SearchMode} {payload : Text} :
      FaultAt before (.search mode payload) (.unexpected mode.keyword)
  | replacement {payload : Text} : FaultAt before (.replacement payload) (.unexpected .replacement)
  | filter {payload : Text} (h : ∀ other, ¬IsSentence (before ++ [.filter other])) :
      FaultAt before (.filter payload) (.unexpected .filter)
  | emptyFilter {payload : Text} (hempty : ¬HasGlob payload)
      (h : ∀ other, HasGlob other → IsSentence (before ++ [.filter other])) :
      FaultAt before (.filter payload) (.invalid .filter)
  | files {payload : Text} (h : ∀ other, ¬IsSentence (before ++ [.files other])) :
      FaultAt before (.files payload) (.unexpected .files)
  | emptyFiles {payload : Text} (hempty : ¬HasGlob payload)
      (h : ∀ other, HasGlob other → IsSentence (before ++ [.files other])) :
      FaultAt before (.files payload) (.invalid .files)

/-! ### Open blocks -/

def blockOf : List Instruction → Block
  | [.files payload] => .files (Instruction.globOf payload)
  | [.search mode pattern] => .search none pattern mode
  | [.files payload, .search mode pattern] =>
    .search (some (Instruction.globOf payload)) pattern mode
  | _ => .idle

theorem blockOf_nil : blockOf [] = .idle := rfl

theorem blockOf_opening (b : BlockLines) : blockOf b.opening = .search b.glob? b.search b.mode := by
  obtain ⟨files?, mode, search, replacement⟩ := b
  cases files? with
  | none => rfl
  | some payload => rfl

theorem isOpen_nil : IsOpen [] :=
  ⟨⟨none, .literal, [], []⟩, (fun payload h => by cases h), List.nil_prefix,
    fun heq => by cases heq⟩

theorem isOpen_files {payload : Text} (h : HasGlob payload) : IsOpen [.files payload] := by
  refine ⟨⟨some payload, .literal, [], []⟩, ?_, ⟨_, rfl⟩, fun heq => by cases heq⟩
  intro other hother
  rw [← Option.some.inj hother]
  exact h

theorem isOpen_opening {b : BlockLines} (hb : b.IsValid) : IsOpen b.opening := by
  refine ⟨b, hb, List.prefix_append _ _, ?_⟩
  intro heq
  have hlength := congrArg List.length heq
  rw [BlockLines.instructions, List.length_append] at hlength
  simp at hlength

theorem isOpen_iff {rest : List Instruction} :
    IsOpen rest ↔ rest = [] ∨ (∃ payload, HasGlob payload ∧ rest = [.files payload]) ∨
      ∃ b : BlockLines, b.IsValid ∧ rest = b.opening := by
  constructor
  · rintro ⟨b, hb, hfront, hne⟩
    rw [BlockLines.instructions, List.prefix_concat_iff] at hfront
    rcases hfront with heq | hfront
    · exact absurd heq hne
    rw [BlockLines.opening, List.prefix_concat_iff] at hfront
    rcases hfront with heq | hfront
    · exact Or.inr (Or.inr ⟨b, hb, heq⟩)
    cases hfiles : b.files? with
    | none =>
        rw [hfiles] at hfront
        exact Or.inl (List.prefix_nil.1 hfront)
    | some payload =>
        rw [hfiles] at hfront
        change rest <+: [] ++ [Instruction.files payload] at hfront
        rw [List.prefix_concat_iff] at hfront
        rcases hfront with heq | hfront
        · exact Or.inr (Or.inl ⟨payload, hb payload hfiles, heq⟩)
        · exact Or.inl (List.prefix_nil.1 hfront)
  · rintro (rfl | ⟨payload, hpayload, rfl⟩ | ⟨b, hb, rfl⟩)
    · exact isOpen_nil
    · exact isOpen_files hpayload
    · exact isOpen_opening hb

theorem eq_nil_of_blockOf {rest : List Instruction} (hrest : IsOpen rest)
    (h : blockOf rest = .idle) : rest = [] := by
  rcases isOpen_iff.1 hrest with rfl | ⟨payload, -, rfl⟩ | ⟨b, -, rfl⟩
  · rfl
  · cases h
  · rw [blockOf_opening] at h
    cases h

theorem eq_files_of_blockOf {rest : List Instruction} {glob : Text} (hrest : IsOpen rest)
    (h : blockOf rest = .files glob) :
    ∃ payload, HasGlob payload ∧ rest = [.files payload] ∧ Instruction.globOf payload = glob := by
  rcases isOpen_iff.1 hrest with rfl | ⟨payload, hpayload, rfl⟩ | ⟨b, -, rfl⟩
  · cases h
  · exact ⟨payload, hpayload, rfl, Block.files.inj h⟩
  · rw [blockOf_opening] at h
    cases h

theorem eq_opening_of_blockOf {rest : List Instruction} {files : Option Text} {pattern : Text}
    {mode : SearchMode} (hrest : IsOpen rest) (h : blockOf rest = .search files pattern mode) :
    ∃ b : BlockLines, b.IsValid ∧ rest = b.opening ∧ b.glob? = files ∧ b.search = pattern ∧
      b.mode = mode := by
  rcases isOpen_iff.1 hrest with rfl | ⟨payload, -, rfl⟩ | ⟨b, hb, rfl⟩
  · cases h
  · cases h
  · rw [blockOf_opening] at h
    obtain ⟨hfiles, hpattern, hmode⟩ := Block.search.inj h
    exact ⟨b, hb, rfl, hfiles, hpattern, hmode⟩

/-! ### Every sentence is accepted -/

namespace Layout

def draft (l : Layout) : Draft where
  filter := l.filter?
  block := blockOf l.rest
  table := l.table
  commands := l.blocks.map BlockLines.command

theorem finish_draft (l : Layout) : l.draft.finish = l.parsed := by
  rw [Draft.finish, parsed, draft, List.map_map]
  rfl

end Layout

theorem findSome?_eq_none_of_filters {front : List Instruction} {i : Instruction} {glob : Text}
    (hi : filterGlob? i = some glob)
    (h : ((front ++ [i]).filterMap filterGlob?).length ≤ 1) :
    front.findSome? filterGlob? = none := by
  rw [List.filterMap_append, List.filterMap_cons_some hi, List.length_append,
    List.filterMap_nil, List.length_singleton] at h
  rw [List.findSome?_eq_none_iff, ← List.filterMap_eq_nil_iff]
  exact List.eq_nil_of_length_eq_zero (by omega)

theorem acceptAll_front {front : List Instruction} (hfront : ∀ i ∈ front, IsFront i)
    (hfilters : (front.filterMap filterGlob?).length ≤ 1) :
    Draft.acceptAll {} front =
      .ok { filter := front.findSome? filterGlob?, table := front.foldl assign {} } := by
  -- From the end: whether a filter may stand there depends on everything in front of it.
  induction front using List.reverseRecOn with
  | nil => rfl
  | append_singleton front i ih =>
      have hfew : (front.filterMap filterGlob?).length ≤ 1 := by
        rw [List.filterMap_append, List.length_append] at hfilters
        omega
      have hbefore := ih (fun j hj => hfront j (List.mem_append_left _ hj)) hfew
      rw [Draft.acceptAll_append hbefore, Draft.acceptAll_singleton, List.findSome?_append,
        List.foldl_append]
      have hi := hfront i (List.mem_append_right _ List.mem_cons_self)
      cases i with
      | filter payload =>
          have hnone := findSome?_eq_none_of_filters rfl hfilters
          refine Draft.accept_filter_eq_ok_iff.2 ⟨⟨hnone, rfl, rfl⟩, hi, ?_⟩
          rw [hnone]
          rfl
      | assign name value =>
          refine Draft.accept_assign_eq_ok_iff.2 ⟨⟨rfl, rfl⟩, ?_⟩
          rw [List.findSome?_singleton, filterGlob?_assign, Option.or_none]
          rfl
      | files payload => exact hi.elim
      | search mode payload => exact hi.elim
      | replacement payload => exact hi.elim
      | unrecognized => exact hi.elim

theorem acceptAll_opening {b : BlockLines} (hb : b.IsValid) {d : Draft} (hd : d.block = .idle) :
    d.acceptAll b.opening = .ok { d with block := .search b.glob? b.search b.mode } := by
  obtain ⟨files?, mode, search, replacement⟩ := b
  cases files? with
  | none =>
      refine (d.acceptAll_singleton _).trans (Draft.accept_search_eq_ok_iff.2 ?_)
      exact ⟨none, Or.inl ⟨hd, rfl⟩, rfl⟩
  | some payload =>
      have hfiles := Draft.accept_files_eq_ok_iff.2 ⟨hd, hb payload rfl, rfl⟩
      refine (Draft.acceptAll_append ((d.acceptAll_singleton _).trans hfiles) _).trans ?_
      refine (Draft.acceptAll_singleton _ _).trans (Draft.accept_search_eq_ok_iff.2 ?_)
      exact ⟨some (Instruction.globOf payload), Or.inr ⟨_, rfl, rfl⟩, rfl⟩

theorem acceptAll_block {b : BlockLines} (hb : b.IsValid) {d : Draft} (hd : d.block = .idle) :
    d.acceptAll b.instructions = .ok { d with commands := d.commands ++ [b.command] } := by
  rw [BlockLines.instructions, Draft.acceptAll_append (acceptAll_opening hb hd),
    Draft.acceptAll_singleton]
  refine Draft.accept_replacement_eq_ok_iff.2 ⟨_, _, _, rfl, ?_⟩
  rw [← hd]
  rfl

theorem acceptAll_blocks {blocks : List BlockLines} (hblocks : ∀ b ∈ blocks, b.IsValid) {d : Draft}
    (hd : d.block = .idle) :
    d.acceptAll (blocks.flatMap BlockLines.instructions) =
      .ok { d with commands := d.commands ++ blocks.map BlockLines.command } := by
  induction blocks generalizing d with
  | nil =>
      rw [List.map_nil, List.append_nil]
      rfl
  | cons b blocks ih =>
      have hothers := ih (fun c hc => hblocks c (List.mem_cons_of_mem _ hc))
        (d := { d with commands := d.commands ++ [b.command] }) hd
      rw [List.flatMap_cons,
        Draft.acceptAll_append (acceptAll_block (hblocks b List.mem_cons_self) hd), hothers,
        List.map_cons, List.append_assoc]
      rfl

theorem acceptAll_open {rest : List Instruction} (hrest : IsOpen rest) {d : Draft}
    (hd : d.block = .idle) : d.acceptAll rest = .ok { d with block := blockOf rest } := by
  rcases isOpen_iff.1 hrest with rfl | ⟨payload, hpayload, rfl⟩ | ⟨b, hb, rfl⟩
  · rw [blockOf_nil, ← hd]
    rfl
  · rw [Draft.acceptAll_singleton]
    exact Draft.accept_files_eq_ok_iff.2 ⟨hd, hpayload, rfl⟩
  · rw [acceptAll_opening hb hd, blockOf_opening]

theorem acceptAll_instructions {l : Layout} (hl : l.IsValid) :
    Draft.acceptAll {} l.instructions = .ok l.draft := by
  have hfront := acceptAll_front hl.front hl.filters
  have hblocks := (Draft.acceptAll_append hfront _).trans (acceptAll_blocks hl.blocks rfl)
  have hrest := (Draft.acceptAll_append hblocks _).trans (acceptAll_open hl.rest rfl)
  rw [Layout.instructions, hrest]
  rfl

/-! ### Everything accepted is a sentence -/

namespace Layout

variable {front rest : List Instruction} {blocks : List BlockLines}

theorem IsValid.append_front (hl : IsValid ⟨front, [], []⟩) {i : Instruction} (hi : IsFront i)
    (hfilters : ((front ++ [i]).filterMap filterGlob?).length ≤ 1) :
    IsValid ⟨front ++ [i], [], []⟩ := by
  refine ⟨?_, hfilters, hl.blocks, hl.rest⟩
  intro j hj
  rcases List.mem_append.1 hj with hj | hj
  · exact hl.front j hj
  · rw [List.mem_singleton.1 hj]
    exact hi

theorem IsValid.withRest (hl : IsValid ⟨front, blocks, rest⟩) {others : List Instruction}
    (hothers : IsOpen others) : IsValid ⟨front, blocks, others⟩ :=
  ⟨hl.front, hl.filters, hl.blocks, hothers⟩

theorem IsValid.append_block (hl : IsValid ⟨front, blocks, rest⟩) {b : BlockLines}
    (hb : b.IsValid) : IsValid ⟨front, blocks ++ [b], []⟩ := by
  refine ⟨hl.front, hl.filters, ?_, isOpen_nil⟩
  intro c hc
  rcases List.mem_append.1 hc with hc | hc
  · exact hl.blocks c hc
  · rw [List.mem_singleton.1 hc]
    exact hb

end Layout

/-- The step: what is accepted behind a sentence makes a sentence of it. -/
theorem exists_layout_of_accept {l : Layout} (hl : l.IsValid) {i : Instruction} {d : Draft}
    (h : l.draft.accept i = .ok d) :
    ∃ k : Layout, k.IsValid ∧ k.instructions = l.instructions ++ [i] ∧ k.draft = d := by
  obtain ⟨front, blocks, rest⟩ := l
  cases i with
  | filter payload =>
      obtain ⟨⟨hfilter, hidle, hcommands⟩, hglob, rfl⟩ := Draft.accept_filter_eq_ok_iff.1 h
      obtain rfl := eq_nil_of_blockOf hl.rest hidle
      obtain rfl := List.map_eq_nil_iff.1 hcommands
      have hnone : front.findSome? filterGlob? = none := hfilter
      have hfew : ((front ++ [Instruction.filter payload]).filterMap filterGlob?).length ≤ 1 := by
        rw [List.filterMap_append, List.filterMap_eq_nil_iff.2 (List.findSome?_eq_none_iff.1 hnone)]
        exact Nat.le_refl 1
      refine ⟨⟨front ++ [.filter payload], [], []⟩,
        hl.append_front (i := .filter payload) hglob hfew, ?_, ?_⟩
      · simp [Layout.instructions]
      · rw [Layout.draft, Layout.draft, Layout.filter?, Layout.table, List.findSome?_append,
          hnone, List.foldl_append]
        rfl
  | assign name value =>
      obtain ⟨⟨hidle, hcommands⟩, rfl⟩ := Draft.accept_assign_eq_ok_iff.1 h
      obtain rfl := eq_nil_of_blockOf hl.rest hidle
      obtain rfl := List.map_eq_nil_iff.1 hcommands
      have hfew :
          ((front ++ [Instruction.assign name value]).filterMap filterGlob?).length ≤ 1 := by
        rw [List.filterMap_append, List.filterMap_cons_none (filterGlob?_assign name value),
          List.filterMap_nil, List.append_nil]
        exact hl.filters
      refine ⟨⟨front ++ [.assign name value], [], []⟩,
        hl.append_front (i := .assign name value) trivial hfew, ?_, ?_⟩
      · simp [Layout.instructions]
      · rw [Layout.draft, Layout.draft, Layout.filter?, Layout.table, List.findSome?_append,
          List.foldl_append, List.findSome?_singleton, filterGlob?_assign, Option.or_none]
        rfl
  | files payload =>
      obtain ⟨hidle, hglob, rfl⟩ := Draft.accept_files_eq_ok_iff.1 h
      obtain rfl := eq_nil_of_blockOf hl.rest hidle
      have hopen := isOpen_files hglob
      refine ⟨⟨front, blocks, [.files payload]⟩, hl.withRest hopen, ?_, rfl⟩
      simp [Layout.instructions]
  | search mode pattern =>
      obtain ⟨files, hplace, rfl⟩ := Draft.accept_search_eq_ok_iff.1 h
      rcases hplace with ⟨hidle, rfl⟩ | ⟨glob, hfiles, rfl⟩
      · obtain rfl := eq_nil_of_blockOf hl.rest hidle
        have hopen : IsOpen [.search mode pattern] :=
          isOpen_opening (b := ⟨none, mode, pattern, []⟩) fun payload hpayload => by cases hpayload
        refine ⟨⟨front, blocks, [.search mode pattern]⟩, hl.withRest hopen, ?_, rfl⟩
        simp [Layout.instructions]
      · obtain ⟨payload, hglob, hrest, rfl⟩ := eq_files_of_blockOf hl.rest hfiles
        obtain rfl : rest = [.files payload] := hrest
        have hopen : IsOpen [.files payload, .search mode pattern] := by
          apply isOpen_opening (b := ⟨some payload, mode, pattern, []⟩)
          intro other hother
          rw [← Option.some.inj hother]
          exact hglob
        refine ⟨⟨front, blocks, [.files payload, .search mode pattern]⟩,
          hl.withRest hopen, ?_, rfl⟩
        simp [Layout.instructions]
  | replacement payload =>
      obtain ⟨files, pattern, mode, hblock, rfl⟩ := Draft.accept_replacement_eq_ok_iff.1 h
      obtain ⟨b, hb, hrest, rfl, rfl, rfl⟩ := eq_opening_of_blockOf hl.rest hblock
      obtain rfl : rest = b.opening := hrest
      refine ⟨⟨front, blocks ++ [⟨b.files?, b.mode, b.search, payload⟩], []⟩,
        hl.append_block hb, ?_, ?_⟩
      · simp [Layout.instructions, BlockLines.instructions, BlockLines.opening]
      · rw [Layout.draft, Layout.draft, List.map_append]
        rfl
  | unrecognized => cases h

theorem exists_layout {instructions : List Instruction} {d : Draft}
    (h : Draft.acceptAll {} instructions = .ok d) :
    ∃ l : Layout, l.IsValid ∧ l.instructions = instructions ∧ l.draft = d := by
  induction instructions using List.reverseRecOn generalizing d with
  | nil =>
      refine ⟨⟨[], [], []⟩, ⟨?_, Nat.zero_le 1, ?_, isOpen_nil⟩, rfl, ?_⟩
      · intro i hi
        cases hi
      · intro b hb
        cases hb
      · exact Except.ok.inj h
  | append_singleton instructions i ih =>
      obtain ⟨next, hnext, hi⟩ := Draft.exists_acceptAll_of_append h
      obtain ⟨l, hl, rfl, rfl⟩ := ih hnext
      rw [Draft.acceptAll_singleton] at hi
      exact exists_layout_of_accept hl hi

theorem acceptAll_eq_ok_iff {instructions : List Instruction} {d : Draft} :
    Draft.acceptAll {} instructions = .ok d ↔
      ∃ l : Layout, l.IsValid ∧ l.instructions = instructions ∧ l.draft = d := by
  constructor
  · exact exists_layout
  · rintro ⟨l, hl, rfl, rfl⟩
    exact acceptAll_instructions hl

theorem isSentence_iff {instructions : List Instruction} :
    IsSentence instructions ↔ ∃ d, Draft.acceptAll {} instructions = .ok d := by
  constructor
  · rintro ⟨l, hl, rfl⟩
    exact ⟨l.draft, acceptAll_eq_ok_iff.2 ⟨l, hl, rfl, rfl⟩⟩
  · rintro ⟨d, hd⟩
    obtain ⟨l, hl, hinstructions, -⟩ := acceptAll_eq_ok_iff.1 hd
    exact ⟨l, hl, hinstructions⟩

/-! ### What is wrong with anything else -/

theorem hasGlob_star : HasGlob ['*'] := by
  rw [HasGlob]
  decide

section Fault

variable {before : List Instruction} {d : Draft} (hd : Draft.acceptAll {} before = .ok d)
include hd

theorem isSentence_append_iff {i : Instruction} :
    IsSentence (before ++ [i]) ↔ ∃ next, d.accept i = .ok next := by
  rw [isSentence_iff, Draft.acceptAll_append hd, Draft.acceptAll_singleton]

theorem faultAt_filter {payload : Text} {fault : LineFault}
    (h : d.accept (.filter payload) = .error fault) : FaultAt before (.filter payload) fault := by
  rw [Draft.accept] at h
  split at h
  · rename_i hplace
    cases hglob : Draft.globArgument .filter payload with
    | ok glob =>
        rw [hglob] at h
        cases h
    | error e =>
        rw [hglob] at h
        obtain ⟨hempty, rfl⟩ := Draft.globArgument_eq_error_iff.1 hglob
        obtain rfl := Except.error.inj h
        apply FaultAt.emptyFilter (fun hne => hne hempty)
        intro other hother
        rw [Bool.and_eq_true, Option.isNone_iff_eq_none, Draft.inFrontMatter_iff] at hplace
        exact (isSentence_append_iff hd).2
          ⟨_, Draft.accept_filter_eq_ok_iff.2 ⟨hplace, hother, rfl⟩⟩
  · rename_i hplace
    obtain rfl := Except.error.inj h
    refine FaultAt.filter fun other hother => hplace ?_
    obtain ⟨next, hnext⟩ := (isSentence_append_iff hd).1 hother
    rw [Bool.and_eq_true, Option.isNone_iff_eq_none, Draft.inFrontMatter_iff]
    exact (Draft.accept_filter_eq_ok_iff.1 hnext).1

theorem faultAt_files {payload : Text} {fault : LineFault}
    (h : d.accept (.files payload) = .error fault) : FaultAt before (.files payload) fault := by
  rw [Draft.accept] at h
  split at h
  · rename_i hplace
    cases hglob : Draft.globArgument .files payload with
    | ok glob =>
        rw [hglob] at h
        cases h
    | error e =>
        rw [hglob] at h
        obtain ⟨hempty, rfl⟩ := Draft.globArgument_eq_error_iff.1 hglob
        obtain rfl := Except.error.inj h
        apply FaultAt.emptyFiles (fun hne => hne hempty)
        intro other hother
        exact (isSentence_append_iff hd).2
          ⟨_, Draft.accept_files_eq_ok_iff.2 ⟨hplace, hother, rfl⟩⟩
  · rename_i hplace
    obtain rfl := Except.error.inj h
    refine FaultAt.files fun other hother => hplace ?_
    obtain ⟨next, hnext⟩ := (isSentence_append_iff hd).1 hother
    exact (Draft.accept_files_eq_ok_iff.1 hnext).1

theorem faultAt_of_accept {i : Instruction} {fault : LineFault} (h : d.accept i = .error fault) :
    FaultAt before i fault := by
  cases i with
  | filter payload => exact faultAt_filter hd h
  | files payload => exact faultAt_files hd h
  | search mode payload =>
      rw [Draft.accept, Draft.beginSearch] at h
      split at h
      · cases h
      · cases h
      · rw [← Except.error.inj h]
        exact FaultAt.search
  | replacement payload =>
      rw [Draft.accept, Draft.complete] at h
      split at h
      · cases h
      · rw [← Except.error.inj h]
        exact FaultAt.replacement
  | assign name value =>
      rw [Draft.accept] at h
      split at h
      · cases h
      · rw [← Except.error.inj h]
        exact FaultAt.assign
  | unrecognized =>
      rw [← Except.error.inj h]
      exact FaultAt.unrecognized

omit hd in
theorem FaultAt.eq {i : Instruction} {fault other : LineFault} (h : FaultAt before i fault)
    (h' : FaultAt before i other) : fault = other := by
  cases h with
  | unrecognized => cases h' with | unrecognized => rfl
  | assign => cases h' with | assign => rfl
  | search => cases h' with | search => rfl
  | replacement => cases h' with | replacement => rfl
  | filter h =>
      cases h' with
      | filter => rfl
      | emptyFilter _ h' => exact absurd (h' ['*'] hasGlob_star) (h ['*'])
  | emptyFilter _ h =>
      cases h' with
      | filter h' => exact absurd (h ['*'] hasGlob_star) (h' ['*'])
      | emptyFilter => rfl
  | files h =>
      cases h' with
      | files => rfl
      | emptyFiles _ h' => exact absurd (h' ['*'] hasGlob_star) (h ['*'])
  | emptyFiles _ h =>
      cases h' with
      | files h' => exact absurd (h ['*'] hasGlob_star) (h' ['*'])
      | emptyFiles => rfl

theorem accept_eq_error_iff {i : Instruction} {fault : LineFault} :
    d.accept i = .error fault ↔ ¬IsSentence (before ++ [i]) ∧ FaultAt before i fault := by
  rw [isSentence_append_iff hd]
  cases haccept : d.accept i with
  | ok next =>
      constructor
      · intro h
        cases h
      · rintro ⟨hnone, -⟩
        exact absurd ⟨next, rfl⟩ hnone
  | error e =>
      have he := faultAt_of_accept hd haccept
      constructor
      · intro h
        obtain rfl := Except.error.inj h
        refine ⟨?_, he⟩
        rintro ⟨next, hnext⟩
        cases hnext
      · rintro ⟨-, hfault⟩
        rw [he.eq hfault]

end Fault

theorem IsSentence.of_append {instructions others : List Instruction}
    (h : IsSentence (instructions ++ others)) : IsSentence instructions := by
  obtain ⟨d, hd⟩ := isSentence_iff.1 h
  obtain ⟨next, hnext, -⟩ := Draft.exists_acceptAll_of_append hd
  exact isSentence_iff.2 ⟨next, hnext⟩

/-- The sources that are read, and what as. -/
theorem parse_eq_ok_iff {source : Text} {parsed : ParsedScript} :
    ParsedScript.parse source = .ok parsed ↔
      ∃ l : Layout, l.IsValid ∧ l.parsed = parsed ∧
        l.instructions = instructionsOf (instructionLines (numberLines source.lines)) := by
  rw [ParsedScript.parse_eq_ok_iff_acceptAll]
  constructor
  · rintro ⟨d, hd, rfl⟩
    obtain ⟨l, hl, hinstructions, rfl⟩ := acceptAll_eq_ok_iff.1 hd
    exact ⟨l, hl, l.finish_draft.symm, hinstructions⟩
  · rintro ⟨l, hl, rfl, hinstructions⟩
    exact ⟨l.draft, acceptAll_eq_ok_iff.2 ⟨l, hl, hinstructions, rfl⟩, l.finish_draft⟩

/-- The sources that are refused, and why. -/
theorem parse_eq_error_iff {source : Text} {e : ScriptError} :
    ParsedScript.parse source = .error e ↔
      ∃ before line others,
        instructionLines (numberLines source.lines) = before ++ line :: others ∧
        (∀ front, front <+: before → IsSentence (instructionsOf front)) ∧
        ¬IsSentence (instructionsOf (before ++ [line])) ∧
        FaultAt (instructionsOf before) (Instruction.ofLine line.2) e.fault ∧
        line = (e.line, e.text) := by
  rw [ParsedScript.parse_eq_error_iff_refusedAt, Draft.RefusedAt]
  constructor
  · rintro ⟨before, line, others, next, hlines, hbefore, hfault, hline⟩
    obtain ⟨hnot, hfault⟩ := (accept_eq_error_iff hbefore).1 hfault
    refine ⟨before, line, others, hlines, ?_, ?_, hfault, hline⟩
    · intro front hfront
      obtain ⟨back, rfl⟩ := hfront
      rw [instructionsOf, List.map_append] at hbefore
      exact (isSentence_iff.2 ⟨next, hbefore⟩).of_append
    · rw [instructionsOf, List.map_append]
      exact hnot
  · rintro ⟨before, line, others, hlines, hfronts, hnot, hfault, hline⟩
    obtain ⟨next, hnext⟩ := isSentence_iff.1 (hfronts before (List.prefix_refl before))
    rw [instructionsOf, List.map_append] at hnot
    exact ⟨before, line, others, next, hlines, hnext,
      (accept_eq_error_iff hnext).2 ⟨hnot, hfault⟩, hline⟩

/-- **The reader accepts the grammar.** A source is read exactly if its instructions are those of a
script, and then as the meaning of its parts. Any other source is refused at the first line that
ends no beginning of a script, for what is wrong with the instruction there. -/
theorem parse_iff (source : Text) :
    (∀ parsed, ParsedScript.parse source = .ok parsed ↔
      ∃ l : Layout, l.IsValid ∧ l.parsed = parsed ∧
        l.instructions = instructionsOf (instructionLines (numberLines source.lines))) ∧
    ∀ e, ParsedScript.parse source = .error e ↔
      ∃ before line others,
        instructionLines (numberLines source.lines) = before ++ line :: others ∧
        (∀ front, front <+: before → IsSentence (instructionsOf front)) ∧
        ¬IsSentence (instructionsOf (before ++ [line])) ∧
        FaultAt (instructionsOf before) (Instruction.ofLine line.2) e.fault ∧
        line = (e.line, e.text) := by
  constructor
  · intro parsed
    exact parse_eq_ok_iff
  · intro e
    exact parse_eq_error_iff

end Grammar

end Sweep
