import Sweep.Proofs.Grammar
import Sweep.Proofs.Instruction
import Sweep.Proofs.Location
import Sweep.Proofs.VariableTable

/-!
# Printed scripts

A script is printed with every glob and every text in quotes. Reading the printed lines gives the
script back, and a script that is read from any source is one that can be printed.
-/

namespace Sweep

/-- A glob that a line can carry: not empty, on one line and without blanks around it. -/
structure Text.IsLineGlob (glob : Text) : Prop where
  nonempty : glob ≠ []
  trimmed : glob.trim = glob
  singleLine : '\n' ∉ glob

instance : DecidablePred Text.IsLineGlob := fun glob =>
  decidable_of_iff (glob ≠ [] ∧ glob.trim = glob ∧ '\n' ∉ glob)
    ⟨fun h => ⟨h.1, h.2.1, h.2.2⟩, fun h => ⟨h.nonempty, h.trimmed, h.singleLine⟩⟩

/-- A script whose globs and texts fit on lines. -/
structure Script.IsPrintable (script : Script) : Prop where
  filter : script.filter.IsLineGlob
  files : ∀ command ∈ script.commands, command.files.IsLineGlob
  search : ∀ command ∈ script.commands, '\n' ∉ command.search
  replacement : ∀ command ∈ script.commands, '\n' ∉ command.replacement

/-- The line of a keyword with its payload in quotes. -/
def Keyword.line (keyword : Keyword) (payload : Text) : Text :=
  keyword.text ++ ' ' :: payload.quote

def Command.lines (command : Command) : List Text :=
  [Keyword.files.line command.files, command.mode.keyword.line command.search,
    Keyword.replacement.line command.replacement]

def Script.lines (script : Script) : List Text :=
  Keyword.filter.line script.filter :: script.commands.flatMap Command.lines

/-- A script as text, with each line ended. -/
def Script.print (script : Script) : Text := script.lines.flatMap (· ++ ['\n'])

/-! ### Lines of a text -/

namespace Text

theorem lines_cons {c : Char} {t : Text} (hc : c ≠ '\n') (ht : c = '\r' → t.head? ≠ some '\n') :
    lines (c :: t) =
      match lines t with
      | [] => [[c]]
      | line :: others => (c :: line) :: others := by
  refine lines.eq_4 c t hc ?_
  rintro rest hreturn rfl
  exact ht hreturn rfl

theorem head?_append_ne {t rest : Text} (ht : '\n' ∉ t) (hne : t ≠ []) :
    (t ++ rest).head? ≠ some '\n' := by
  cases t with
  | nil => exact absurd rfl hne
  | cons c t =>
      intro h
      rw [List.cons_append, List.head?_cons, Option.some_inj] at h
      rw [h] at ht
      exact ht List.mem_cons_self

/-- A line that ends in no carriage return is read up to its line feed. -/
theorem lines_append {t : Text} (ht : '\n' ∉ t) (hlast : t.getLast? ≠ some '\r') (rest : Text) :
    lines (t ++ '\n' :: rest) = t :: lines rest := by
  induction t with
  | nil => rfl
  | cons c t ih =>
      rw [List.mem_cons, not_or] at ht
      by_cases hnil : t = []
      · have hc : c ≠ '\r' := by
          rintro rfl
          rw [hnil] at hlast
          exact hlast rfl
        rw [hnil, List.cons_append, lines_cons (Ne.symm ht.1) fun heq => absurd heq hc]
        rfl
      · rw [List.getLast?_cons_of_ne_nil hnil] at hlast
        rw [List.cons_append,
          lines_cons (Ne.symm ht.1) fun _ => head?_append_ne ht.2 hnil, ih ht.2 hlast]

/-- What stands behind the last line feed is a line if it is anything. -/
theorem lines_of_not_mem {t : Text} (ht : '\n' ∉ t) (hne : t ≠ []) : lines t = [t] := by
  induction t with
  | nil => exact absurd rfl hne
  | cons c t ih =>
      rw [List.mem_cons, not_or] at ht
      have hhead : t.head? ≠ some '\n' := fun h => ht.2 (List.mem_of_mem_head? h)
      rw [lines_cons (Ne.symm ht.1) fun _ => hhead]
      by_cases hnil : t = []
      · rw [hnil]
        rfl
      · rw [ih ht.2 hnil]

theorem lines_flatMap {written : List Text}
    (h : ∀ line ∈ written, '\n' ∉ line ∧ line.getLast? ≠ some '\r') :
    lines (written.flatMap (· ++ ['\n'])) = written := by
  induction written with
  | nil => rfl
  | cons line written ih =>
      obtain ⟨hline, hlast⟩ := h line List.mem_cons_self
      rw [List.flatMap_cons, List.append_assoc]
      change lines (line ++ '\n' :: written.flatMap (· ++ ['\n'])) = _
      rw [lines_append hline hlast, ih fun other hother => h other (List.mem_cons_of_mem _ hother)]

theorem lines_join {written : List Text}
    (h : ∀ line ∈ written, '\n' ∉ line ∧ line.getLast? ≠ some '\r' ∧ line ≠ []) :
    lines (join ['\n'] written) = written := by
  induction written with
  | nil => rfl
  | cons line written ih =>
      obtain ⟨hline, hlast, hne⟩ := h line List.mem_cons_self
      cases written with
      | nil => exact lines_of_not_mem hline hne
      | cons other written =>
          have hothers := ih fun another hmem => h another (List.mem_cons_of_mem _ hmem)
          have hjoin : join ['\n'] (line :: other :: written) =
              line ++ '\n' :: join ['\n'] (other :: written) := by
            rw [join_cons_of_ne_nil _ _ (List.cons_ne_nil _ _), List.append_assoc]
            rfl
          rw [hjoin, lines_append hline hlast, hothers]

end Text

/-! ### Instructions of printed lines -/

namespace Instruction

open Text

theorem trim_line (keyword : Keyword) (payload : Text) :
    (keyword.line payload).trim = keyword.line payload := by
  have hline : keyword.line payload = keyword.text ++ [' '] ++ payload.quote := by
    rw [List.append_assoc]
    rfl
  refine trim_eq_self ?_ (by rw [hline]; exact endsInk_append_quote _ payload)
  intro c hc
  cases keyword <;>
  · rw [← Option.some.inj hc]
    decide

theorem isIgnorable_line (keyword : Keyword) (payload : Text) :
    isIgnorable (keyword.line payload) = false := by
  cases keyword <;> rfl

theorem argument?_line (keyword : Keyword) (payload : Text) :
    argument? keyword (keyword.line payload) = some payload.quote := by
  have hblank : IsBlank [' '] := by
    intro c hc
    rw [List.mem_singleton.1 hc]
    decide
  refine argument?_eq_some_iff.2 ⟨beginsInk_quote payload, [' '], by decide, hblank, ?_⟩
  rw [List.append_assoc]
  rfl

section Line

variable {payload : Text} (h : '\n' ∉ payload)
include h

theorem newline_not_mem_quote : '\n' ∉ payload.quote := by
  simp [quote, h]

theorem newline_not_mem_line (keyword : Keyword) : '\n' ∉ keyword.line payload := by
  have hkeyword : '\n' ∉ keyword.text := by cases keyword <;> decide
  simp [Keyword.line, hkeyword, newline_not_mem_quote h]

theorem ofLine_filter_line : ofLine (Keyword.filter.line payload) = .filter payload.quote :=
  ofLine_filter (globArgument?_eq_some_iff.2 ⟨argument?_line _ payload, newline_not_mem_quote h⟩)

theorem ofLine_files_line : ofLine (Keyword.files.line payload) = .files payload.quote :=
  ofLine_files (globArgument?_eq_some_iff.2 ⟨argument?_line _ payload, newline_not_mem_quote h⟩)

theorem ofLine_search_line (mode : SearchMode) :
    ofLine (mode.keyword.line payload) = .search mode payload :=
  ofLine_search (quotedArgument?_eq_some_iff.2 ⟨argument?_line _ payload, h⟩)

theorem ofLine_replacement_line :
    ofLine (Keyword.replacement.line payload) = .replacement payload :=
  ofLine_replacement (quotedArgument?_eq_some_iff.2 ⟨argument?_line _ payload, h⟩)

end Line

end Instruction

/-! ### Reading what is printed -/

open Grammar

/-- The block that a command is printed as. -/
def Command.blockLines (command : Command) : BlockLines :=
  ⟨some command.files.quote, command.mode, command.search, command.replacement⟩

/-- The parts that a script is printed as. -/
def Script.layout (script : Script) : Layout :=
  ⟨[.filter script.filter.quote], script.commands.map Command.blockLines, []⟩

theorem Grammar.hasGlob_quote {glob : Text} (h : glob.IsLineGlob) : HasGlob glob.quote := by
  rw [HasGlob, Instruction.globOf_quote h.trimmed]
  exact h.nonempty

namespace Script

theorem exists_keyword_of_mem_lines {script : Script} (h : script.IsPrintable) {line : Text}
    (hline : line ∈ script.lines) :
    ∃ keyword payload, '\n' ∉ payload ∧ line = Keyword.line keyword payload := by
  rcases List.mem_cons.1 hline with rfl | hline
  · exact ⟨_, _, h.filter.singleLine, rfl⟩
  · obtain ⟨command, hcommand, hline⟩ := List.mem_flatMap.1 hline
    simp only [Command.lines, List.mem_cons, List.not_mem_nil, or_false] at hline
    rcases hline with rfl | rfl | rfl
    · exact ⟨_, _, (h.files command hcommand).singleLine, rfl⟩
    · exact ⟨_, _, h.search command hcommand, rfl⟩
    · exact ⟨_, _, h.replacement command hcommand, rfl⟩

theorem getLast?_line (keyword : Keyword) (payload : Text) :
    (keyword.line payload).getLast? = some '"' := by
  have hline : keyword.line payload = keyword.text ++ ' ' :: '"' :: payload ++ ['"'] := by
    simp [Keyword.line, Text.quote]
  rw [hline, List.getLast?_concat]

variable {script : Script} (h : script.IsPrintable)
include h

theorem isValid_layout : script.layout.IsValid := by
  refine ⟨?_, Nat.le_refl 1, ?_, isOpen_nil⟩
  · intro i hi
    rw [List.mem_singleton.1 hi]
    exact hasGlob_quote h.filter
  · intro b hb payload hpayload
    obtain ⟨command, hcommand, rfl⟩ := List.mem_map.1 hb
    rw [← Option.some.inj hpayload]
    exact hasGlob_quote (h.files command hcommand)

theorem ofLine_lines : script.lines.map Instruction.ofLine = script.layout.instructions := by
  have hcommands : ∀ command ∈ script.commands,
      command.lines.map Instruction.ofLine = command.blockLines.instructions := by
    intro command hcommand
    rw [Command.lines, List.map_cons, List.map_cons, List.map_cons, List.map_nil,
      Instruction.ofLine_files_line (h.files command hcommand).singleLine,
      Instruction.ofLine_search_line (h.search command hcommand),
      Instruction.ofLine_replacement_line (h.replacement command hcommand)]
    rfl
  rw [lines, List.map_cons, Instruction.ofLine_filter_line h.filter.singleLine, List.map_flatMap,
    List.flatMap_congr hcommands, Layout.instructions, layout, List.append_nil, List.flatMap_map]
  rfl

theorem instructionsOf_lines :
    instructionsOf (instructionLines (numberLines script.lines)) = script.layout.instructions := by
  have htrim : script.lines.map Text.trim = script.lines := by
    refine (List.map_congr_left fun line hline => ?_).trans (List.map_id _)
    obtain ⟨keyword, payload, -, rfl⟩ := exists_keyword_of_mem_lines h hline
    exact Instruction.trim_line keyword payload
  have hfilter : (script.lines.filter fun line => !Instruction.isIgnorable line) =
      script.lines := by
    refine List.filter_eq_self.2 fun line hline => ?_
    obtain ⟨keyword, payload, -, rfl⟩ := exists_keyword_of_mem_lines h hline
    rw [Instruction.isIgnorable_line]
    rfl
  rw [instructionsOf_numberLines, instructionTexts, htrim, hfilter, ofLine_lines h]

theorem parsed_layout : script.layout.parsed = ⟨script, {}⟩ := by
  have hfilter : script.layout.filter? = some script.filter := by
    change some (Instruction.globOf script.filter.quote) = _
    rw [Instruction.globOf_quote h.filter.trimmed]
  have hcommands : (script.layout.blocks.map fun b =>
      { b.command with search := script.layout.table.resolve b.search }) = script.commands := by
    rw [layout, List.map_map]
    refine (List.map_congr_left fun command hcommand => ?_).trans (List.map_id _)
    have hglob := Instruction.globOf_quote (h.files command hcommand).trimmed
    change (⟨Instruction.globOf command.files.quote, command.search, command.replacement,
      command.mode⟩ : Command) = command
    rw [hglob]
  rw [Layout.parsed, hfilter, hcommands]
  rfl

theorem parse_of_lines {source : Text} (hsource : source.lines = script.lines) :
    ParsedScript.parse source = .ok ⟨script, {}⟩ := by
  refine parse_eq_ok_iff.2 ⟨script.layout, isValid_layout h, parsed_layout h, ?_⟩
  rw [hsource, instructionsOf_lines h]

theorem isLine_of_mem_lines {line : Text} (hline : line ∈ script.lines) :
    '\n' ∉ line ∧ line.getLast? ≠ some '\r' ∧ line ≠ [] := by
  obtain ⟨keyword, payload, hpayload, rfl⟩ := exists_keyword_of_mem_lines h hline
  have hlast := getLast?_line keyword payload
  refine ⟨Instruction.newline_not_mem_line hpayload keyword, ?_, ?_⟩
  · rw [hlast]
    decide
  · intro hnil
    rw [hnil] at hlast
    cases hlast

end Script

/-! ### What is read can be printed -/

namespace Grammar

theorem isLineGlob_everyFile : Text.IsLineGlob everyFile := ⟨by decide, by decide, by decide⟩

theorem isLineGlob_globOf {payload : Text} (hglob : HasGlob payload) (h : '\n' ∉ payload) :
    (Instruction.globOf payload).IsLineGlob :=
  ⟨hglob, Instruction.trim_globOf payload, fun hmem => h (Instruction.mem_of_mem_globOf hmem)⟩

end Grammar

/-- The payloads that an instruction carries. -/
def Instruction.payloads : Instruction → List Text
  | .filter payload => [payload]
  | .files payload => [payload]
  | .search _ payload => [payload]
  | .replacement payload => [payload]
  | .assign _ value => [value]
  | .unrecognized => []

theorem Instruction.newline_not_mem_payload {line payload : Text}
    (h : payload ∈ (ofLine line).payloads) : '\n' ∉ payload := by
  have hshape := hasShape_ofLine line
  revert h
  generalize ofLine line = i at hshape
  intro h
  cases hshape with
  | filter hfilter =>
      rw [List.mem_singleton.1 h]
      exact (globArgument?_eq_some_iff.1 hfilter).2
  | files hfiles =>
      rw [List.mem_singleton.1 h]
      exact (globArgument?_eq_some_iff.1 hfiles).2
  | search hsearch =>
      rw [List.mem_singleton.1 h]
      exact (quotedArgument?_eq_some_iff.1 hsearch).2
  | replacement hreplacement =>
      rw [List.mem_singleton.1 h]
      exact (quotedArgument?_eq_some_iff.1 hreplacement).2
  | assign hassignment =>
      rw [List.mem_singleton.1 h]
      exact (isName_of_assignment? hassignment).2
  | unrecognized => cases h

namespace Grammar

/-- Values of variables stay on one line, since what they are made of does. -/
theorem newline_not_mem_table {front : List Instruction}
    (hfront : ∀ i ∈ front, ∀ payload ∈ i.payloads, '\n' ∉ payload) {table : VariableTable}
    (htable : ∀ v ∈ table.entries, '\n' ∉ v.value) :
    ∀ v ∈ (front.foldl assign table).entries, '\n' ∉ v.value := by
  induction front generalizing table with
  | nil => exact htable
  | cons i front ih =>
      have hothers := fun j hj => hfront j (List.mem_cons_of_mem i hj)
      refine ih hothers ?_
      cases i with
      | assign name value =>
          have hvalue := hfront _ List.mem_cons_self value (List.mem_singleton.2 rfl)
          intro v hv
          rcases VariableTable.mem_put hv with rfl | hv
          · intro hmem
            rcases VariableTable.mem_resolve hmem with hmem | ⟨w, hw, hmem⟩
            · exact hvalue hmem
            · exact htable w hw hmem
          · exact htable v hv
      | filter payload => exact htable
      | files payload => exact htable
      | search mode payload => exact htable
      | replacement payload => exact htable
      | unrecognized => exact htable

section Parsed

variable {l : Layout} (hl : l.IsValid)
  (hlines : ∀ i ∈ l.instructions, ∀ payload ∈ i.payloads, '\n' ∉ payload)
include hl hlines

theorem isLineGlob_filter : (l.filter?.getD everyFile).IsLineGlob := by
  cases hfilter : l.filter? with
  | none => exact isLineGlob_everyFile
  | some glob =>
      obtain ⟨i, hi, hglob⟩ := List.exists_of_findSome?_eq_some hfilter
      have hmem : i ∈ l.instructions :=
        List.mem_append_left _ (List.mem_append_left _ hi)
      cases i with
      | filter payload =>
          obtain rfl := Option.some.inj hglob
          exact isLineGlob_globOf (hl.front _ hi) (hlines _ hmem payload (List.mem_singleton.2 rfl))
      | files payload => cases hglob
      | search mode payload => cases hglob
      | replacement payload => cases hglob
      | assign name value => cases hglob
      | unrecognized => cases hglob

theorem isLineGlob_files {b : BlockLines} (hb : b ∈ l.blocks) :
    (b.glob?.getD everyFile).IsLineGlob := by
  cases hfiles : b.files? with
  | none =>
      rw [BlockLines.glob?, hfiles]
      exact isLineGlob_everyFile
  | some payload =>
      have hmem : Instruction.files payload ∈ b.instructions := by
        simp [BlockLines.instructions, BlockLines.opening, hfiles]
      have hinstruction : Instruction.files payload ∈ l.instructions :=
        List.mem_append_left _ (List.mem_append_right _ (List.mem_flatMap.2 ⟨b, hb, hmem⟩))
      rw [BlockLines.glob?, hfiles]
      exact isLineGlob_globOf (hl.blocks b hb payload hfiles)
        (hlines _ hinstruction payload (List.mem_singleton.2 rfl))

theorem isPrintable_parsed : l.parsed.script.IsPrintable := by
  have hblock : ∀ b ∈ l.blocks, ∀ i ∈ b.instructions, ∀ payload ∈ i.payloads,
      '\n' ∉ payload := by
    intro b hb i hi
    apply hlines
    exact List.mem_append_left _ (List.mem_append_right _ (List.mem_flatMap.2 ⟨b, hb, hi⟩))
  have htable : ∀ v ∈ l.table.entries, '\n' ∉ v.value := by
    refine newline_not_mem_table (fun i hi => hlines i ?_) fun v hv => by cases hv
    exact List.mem_append_left _ (List.mem_append_left _ hi)
  refine ⟨isLineGlob_filter hl hlines, ?_, ?_, ?_⟩ <;> intro command hcommand <;>
    obtain ⟨b, hb, rfl⟩ := List.mem_map.1 hcommand
  · exact isLineGlob_files hl hlines hb
  · have hsearch : Instruction.search b.mode b.search ∈ b.instructions := by
      simp [BlockLines.instructions, BlockLines.opening]
    intro hmem
    rcases VariableTable.mem_resolve hmem with hmem | ⟨v, hv, hmem⟩
    · exact hblock b hb _ hsearch b.search (List.mem_singleton.2 rfl) hmem
    · exact htable v hv hmem
  · have hreplacement : Instruction.replacement b.replacement ∈ b.instructions := by
      simp [BlockLines.instructions]
    exact hblock b hb _ hreplacement b.replacement (List.mem_singleton.2 rfl)

end Parsed

end Grammar

/-- **Printing and reading.** A script that can be printed is read from its printed lines, whether
or not a line feed ends the last of them, and without any variable. Every script that is read can be
printed. -/
theorem Script.parse_print :
    (∀ script : Script, script.IsPrintable →
      ParsedScript.parse script.print = .ok ⟨script, {}⟩ ∧
        ParsedScript.parse (Text.join ['\n'] script.lines) = .ok ⟨script, {}⟩) ∧
      ∀ source parsed, ParsedScript.parse source = .ok parsed → parsed.script.IsPrintable := by
  constructor
  · intro script hscript
    have hlines : ∀ line ∈ script.lines, _ := fun _ hline => isLine_of_mem_lines hscript hline
    constructor
    · apply parse_of_lines hscript
      exact Text.lines_flatMap fun line hline => ⟨(hlines line hline).1, (hlines line hline).2.1⟩
    · apply parse_of_lines hscript
      exact Text.lines_join hlines
  · intro source parsed hparsed
    obtain ⟨l, hl, rfl, hinstructions⟩ := parse_eq_ok_iff.1 hparsed
    apply isPrintable_parsed hl
    intro i hi payload hpayload
    rw [hinstructions] at hi
    obtain ⟨line, -, rfl⟩ := List.mem_map.1 hi
    exact Instruction.newline_not_mem_payload hpayload

/-- A script whose texts hold quotes, a backslash, a reference and blanks, or nothing. -/
def Script.quoting : Script :=
  ⟨['"'], [⟨['%'], " \"\\".toList, Variable.reference ['v'], .regex⟩, ⟨['*'], [], [' '], .literal⟩]⟩

theorem Script.parse_print_quoting :
    Script.quoting.IsPrintable ∧
      ParsedScript.parse Script.quoting.print = .ok ⟨Script.quoting, {}⟩ := by
  have hquoting : Script.quoting.IsPrintable := ⟨by decide, by decide, by decide, by decide⟩
  exact ⟨hquoting, (Script.parse_print.1 Script.quoting hquoting).1⟩

end Sweep
