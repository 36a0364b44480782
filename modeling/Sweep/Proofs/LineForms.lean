import Sweep.Proofs.Instruction

/-!
# The lines of an instruction

A line is read as an instruction exactly if it is written as that instruction. The written forms
leave no choice, with one exception: an assignment to a variable that is called like a keyword in
front of a glob may have the form of a line of that keyword too, and is then read as this one.
-/

namespace Sweep

/-- The parts of a line that assigns a variable: its name, blanks on both sides of the equals sign,
and its value. -/
structure AssignmentLine where
  name : Text
  before : Text
  after : Text
  value : Text

namespace AssignmentLine

/-- What stands behind the name and the blanks. -/
def tail (a : AssignmentLine) : Text := '=' :: (a.after ++ a.value.quote)

def text (a : AssignmentLine) : Text := a.name ++ a.before ++ a.tail

structure IsValid (a : AssignmentLine) : Prop where
  name : Variable.IsName a.name
  before : a.before.IsBlank
  after : a.after.IsBlank
  value : '\n' ∉ a.value

/-- The line has the form of a line with a glob too. -/
def IsGlobLine (a : AssignmentLine) : Prop :=
  (a.name = Keyword.filter.text ∨ a.name = Keyword.files.text) ∧ a.before ≠ [] ∧ '\n' ∉ a.after

def instruction (a : AssignmentLine) : Instruction := .assign a.name a.value

/-- The instruction that the line is read as if it has the form of a line with a glob. -/
def globInstruction (a : AssignmentLine) : Instruction :=
  if a.name = Keyword.filter.text then .filter a.tail else .files a.tail

end AssignmentLine

namespace Instruction

open Text

/-- A keyword, at least one blank, and what the keyword is for. -/
def IsKeywordLine (keyword : Keyword) (argument line : Text) : Prop :=
  ∃ blanks, blanks ≠ [] ∧ IsBlank blanks ∧ line = keyword.text ++ blanks ++ argument

/-- The lines that an instruction is written as. -/
inductive IsLine (line : Text) : Instruction → Prop
  | filter {payload : Text} (hink : BeginsInk payload) (hsingle : '\n' ∉ payload)
      (hline : IsKeywordLine .filter payload line) : IsLine line (.filter payload)
  | files {payload : Text} (hink : BeginsInk payload) (hsingle : '\n' ∉ payload)
      (hline : IsKeywordLine .files payload line) : IsLine line (.files payload)
  | search {mode : SearchMode} {payload : Text} (hsingle : '\n' ∉ payload)
      (hline : IsKeywordLine mode.keyword payload.quote line) : IsLine line (.search mode payload)
  | replacement {payload : Text} (hsingle : '\n' ∉ payload)
      (hline : IsKeywordLine .replacement payload.quote line) : IsLine line (.replacement payload)
  | assign {a : AssignmentLine} (ha : a.IsValid) (hline : a.text = line) :
      IsLine line (.assign a.name a.value)

/-! ### Reading an assignment -/

theorem isBlank_of_isNameChar {c : Char} (h : isNameChar c = true) : isBlank c = false := by
  rw [isNameChar, Bool.or_eq_true, beq_iff_eq] at h
  rcases h with h | rfl
  · change ((decide (65 ≤ c.val ∧ c.val ≤ 90) || (97 ≤ c.val && c.val ≤ 122)) ||
      (48 ≤ c.val && c.val ≤ 57)) = true at h
    simp only [Bool.or_eq_true, Bool.and_eq_true, decide_eq_true_eq, UInt32.le_iff_toNat_le] at h
    change ((65 ≤ c.toNat ∧ c.toNat ≤ 90) ∨ (97 ≤ c.toNat ∧ c.toNat ≤ 122)) ∨
      (48 ≤ c.toNat ∧ c.toNat ≤ 57) at h
    simp only [isBlank, Bool.or_eq_false_iff, Bool.and_eq_false_iff, decide_eq_false_iff_not,
      beq_eq_false_iff_ne]
    omega
  · decide

theorem isNameChar_of_isBlank {c : Char} (h : isBlank c = true) : isNameChar c = false := by
  rw [← Bool.not_eq_true]
  intro hname
  rw [isBlank_of_isNameChar hname] at h
  cases h

theorem equals_not_mem_keyword (keyword : Keyword) : '=' ∉ keyword.text := by
  cases keyword <;> decide

theorem beginsInk_tail (a : AssignmentLine) : BeginsInk a.tail := by
  intro c hc
  rw [← Option.some.inj hc]
  decide

section Assignment

variable {a : AssignmentLine} (ha : a.IsValid)
include ha

theorem head?_not_isNameChar : ∀ c ∈ (a.before ++ a.tail).head?, isNameChar c = false := by
  intro c hc
  cases hbefore : a.before with
  | nil =>
      rw [hbefore] at hc
      rw [← Option.some.inj hc]
      decide
  | cons d before =>
      rw [hbefore] at hc
      rw [← Option.some.inj hc]
      refine isNameChar_of_isBlank (ha.before d ?_)
      rw [hbefore]
      exact List.mem_cons_self

theorem assignment?_text : assignment? a.text = some (a.name, a.value) := by
  have htext : a.text = a.name ++ (a.before ++ a.tail) := List.append_assoc _ _ _
  have htake : a.text.takeWhile isNameChar = a.name := by
    rw [htext, takeWhile_append_of_head? ha.name.2 (head?_not_isNameChar ha)]
  have hdrop : a.text.dropWhile isNameChar = a.before ++ a.tail := by
    rw [htext, dropWhile_append_of_head? ha.name.2 (head?_not_isNameChar ha)]
  obtain ⟨c, name, hname⟩ := List.exists_cons_of_ne_nil ha.name.1
  have hvalue : (unquote? (trimStart (a.after ++ a.value.quote))).bind singleLine? =
      some a.value := by
    rw [trimStart_append ha.after (beginsInk_quote a.value), unquote?_quote, Option.bind_some]
    exact singleLine?_eq_some_iff.2 ⟨rfl, ha.value⟩
  rw [assignment?, htake, hdrop, trimStart_append ha.before (beginsInk_tail a),
    AssignmentLine.tail, hname]
  simp only [hvalue]
  rfl

/-- An assignment has the form of a keyword line only with the keyword as its name. -/
theorem argument?_text_eq_some_iff {keyword : Keyword} {argument : Text} :
    argument? keyword a.text = some argument ↔
      a.name = keyword.text ∧ a.before ≠ [] ∧ a.tail = argument := by
  constructor
  · intro h
    obtain ⟨hink, blanks, hne, hblanks, hline⟩ := argument?_eq_some_iff.1 h
    have hname : ∀ c ∈ a.name, (!isBlank c) = true := by
      intro c hc
      rw [isBlank_of_isNameChar (ha.name.2 c hc)]
      rfl
    have htake := takeWhile_of_argument? h
    cases hbefore : a.before with
    | nil =>
        -- The equals sign would stand in the keyword.
        rw [AssignmentLine.text, hbefore, List.append_nil, List.takeWhile_append_of_pos hname,
          AssignmentLine.tail, List.takeWhile_cons_of_pos (by decide)] at htake
        have hequals : '=' ∈ keyword.text := by
          rw [← htake]
          exact List.mem_append_right _ List.mem_cons_self
        exact absurd hequals (equals_not_mem_keyword keyword)
    | cons d before =>
        have hd : isBlank d = true := ha.before d (hbefore ▸ List.mem_cons_self)
        rw [AssignmentLine.text, List.append_assoc, hbefore, List.cons_append,
          takeWhile_append_of_head? hname (fun c hc => by
            rw [← Option.some.inj hc, hd]
            rfl)] at htake
        refine ⟨htake, List.cons_ne_nil d before, ?_⟩
        rw [AssignmentLine.text, htake, List.append_assoc, List.append_assoc,
          List.append_cancel_left_eq] at hline
        rw [← trimStart_append ha.before (beginsInk_tail a), hline,
          trimStart_append hblanks hink]
  · rintro ⟨hname, hne, rfl⟩
    refine argument?_eq_some_iff.2 ⟨beginsInk_tail a, a.before, hne, ha.before, ?_⟩
    rw [AssignmentLine.text, hname]

theorem quotedArgument?_text (keyword : Keyword) : quotedArgument? keyword a.text = none := by
  rw [Option.eq_none_iff_forall_ne_some]
  intro payload hpayload
  have hargument := (quotedArgument?_eq_some_iff.1 hpayload).1
  have htail := ((argument?_text_eq_some_iff ha).1 hargument).2.2
  cases htail

theorem newline_mem_tail : '\n' ∈ a.tail ↔ '\n' ∈ a.after := by
  simp [AssignmentLine.tail, quote, ha.value]

theorem globArgument?_text_eq_some_iff {keyword : Keyword} {payload : Text} :
    globArgument? keyword a.text = some payload ↔
      (a.name = keyword.text ∧ a.before ≠ [] ∧ '\n' ∉ a.after) ∧ a.tail = payload := by
  rw [globArgument?_eq_some_iff, argument?_text_eq_some_iff ha]
  constructor
  · rintro ⟨⟨hname, hbefore, rfl⟩, hsingle⟩
    exact ⟨⟨hname, hbefore, fun h => hsingle ((newline_mem_tail ha).2 h)⟩, rfl⟩
  · rintro ⟨⟨hname, hbefore, hafter⟩, rfl⟩
    exact ⟨⟨hname, hbefore, rfl⟩, fun h => hafter ((newline_mem_tail ha).1 h)⟩

theorem ofLine_text_of_not_isGlobLine (h : ¬a.IsGlobLine) : ofLine a.text = a.instruction := by
  have hnone : ∀ keyword, keyword = .filter ∨ keyword = .files →
      globArgument? keyword a.text = none := by
    intro keyword hkeyword
    rw [Option.eq_none_iff_forall_ne_some]
    intro payload hpayload
    obtain ⟨⟨hname, hbefore, hafter⟩, -⟩ := (globArgument?_text_eq_some_iff ha).1 hpayload
    refine h ⟨?_, hbefore, hafter⟩
    rw [hname]
    exact hkeyword.imp (congrArg Keyword.text) (congrArg Keyword.text)
  rw [ofLine, hnone .filter (.inl rfl), hnone .files (.inr rfl), quotedArgument?_text ha,
    quotedArgument?_text ha, quotedArgument?_text ha, assignment?_text ha]
  rfl

theorem ofLine_text_of_isGlobLine (h : a.IsGlobLine) : ofLine a.text = a.globInstruction := by
  obtain ⟨hname, hbefore, hafter⟩ := h
  rw [AssignmentLine.globInstruction]
  split
  · rename_i hfilter
    exact ofLine_filter ((globArgument?_text_eq_some_iff ha).2 ⟨⟨hfilter, hbefore, hafter⟩, rfl⟩)
  · rename_i hfilter
    have hfiles := hname.resolve_left hfilter
    exact ofLine_files ((globArgument?_text_eq_some_iff ha).2 ⟨⟨hfiles, hbefore, hafter⟩, rfl⟩)

end Assignment

theorem globInstruction_ne_assign (a : AssignmentLine) (name value : Text) :
    a.globInstruction ≠ .assign name value := by
  rw [AssignmentLine.globInstruction]
  split <;> nofun

theorem globInstruction_ne_unrecognized (a : AssignmentLine) :
    a.globInstruction ≠ .unrecognized := by
  rw [AssignmentLine.globInstruction]
  split <;> nofun

theorem exists_of_assignment? {line name value : Text}
    (h : assignment? line = some (name, value)) :
    ∃ a : AssignmentLine, a.IsValid ∧ a.text = line ∧ a.name = name ∧ a.value = value := by
  obtain ⟨hname, hvalue⟩ := isName_of_assignment? h
  unfold assignment? at h
  dsimp only at h
  split at h
  · rename_i c front rest htake hdrop
    obtain ⟨inner, hinner, hpair⟩ := Option.map_eq_some_iff.1 h
    obtain ⟨rfl, rfl⟩ := Prod.mk.inj hpair
    obtain ⟨payload, hpayload, hsingle⟩ := Option.bind_eq_some_iff.1 hinner
    obtain ⟨rfl, -⟩ := singleLine?_eq_some_iff.1 hsingle
    obtain ⟨before, hbefore, hrest⟩ := exists_blanks (line.dropWhile isNameChar)
    obtain ⟨after, hafter, hquote⟩ := exists_blanks rest
    refine ⟨⟨line.takeWhile isNameChar, before, after, payload⟩,
      ⟨hname, hbefore, hafter, hvalue⟩, ?_, rfl, rfl⟩
    rw [unquote?_eq_some_iff.1 hpayload] at hquote
    rw [AssignmentLine.text, AssignmentLine.tail]
    dsimp only
    rw [← hquote, ← hdrop, List.append_assoc, ← hrest, List.takeWhile_append_dropWhile]
  · cases h

/-! ### Forms and shapes -/

variable {line : Text} {i : Instruction}

theorem globArgument?_iff_isKeywordLine {keyword : Keyword} {payload : Text} :
    globArgument? keyword line = some payload ↔
      BeginsInk payload ∧ '\n' ∉ payload ∧ IsKeywordLine keyword payload line := by
  rw [globArgument?_eq_some_iff, argument?_eq_some_iff, and_assoc]
  exact and_congr_right' and_comm

theorem quotedArgument?_iff_isKeywordLine {keyword : Keyword} {payload : Text} :
    quotedArgument? keyword line = some payload ↔
      '\n' ∉ payload ∧ IsKeywordLine keyword payload.quote line := by
  rw [quotedArgument?_eq_some_iff, argument?_eq_some_iff,
    and_iff_right (beginsInk_quote payload)]
  exact and_comm

theorem HasShape.isLine (h : HasShape line i) (hne : i ≠ .unrecognized) : IsLine line i := by
  cases h with
  | filter h =>
      obtain ⟨hink, hsingle, hline⟩ := globArgument?_iff_isKeywordLine.1 h
      exact .filter hink hsingle hline
  | files h =>
      obtain ⟨hink, hsingle, hline⟩ := globArgument?_iff_isKeywordLine.1 h
      exact .files hink hsingle hline
  | search h =>
      obtain ⟨hsingle, hline⟩ := quotedArgument?_iff_isKeywordLine.1 h
      exact .search hsingle hline
  | replacement h =>
      obtain ⟨hsingle, hline⟩ := quotedArgument?_iff_isKeywordLine.1 h
      exact .replacement hsingle hline
  | assign h =>
      obtain ⟨a, ha, hline, rfl, rfl⟩ := exists_of_assignment? h
      exact .assign ha hline
  | unrecognized => exact absurd rfl hne

/-- What a line with the form of an instruction is read as. -/
theorem IsLine.ofLine_eq (h : IsLine line i) :
    ofLine line = i ∨ ∃ a : AssignmentLine, a.IsValid ∧ a.text = line ∧ a.instruction = i ∧
      a.IsGlobLine := by
  cases h with
  | filter hink hsingle hline =>
      exact .inl (ofLine_filter (globArgument?_iff_isKeywordLine.2 ⟨hink, hsingle, hline⟩))
  | files hink hsingle hline =>
      exact .inl (ofLine_files (globArgument?_iff_isKeywordLine.2 ⟨hink, hsingle, hline⟩))
  | search hsingle hline =>
      exact .inl (ofLine_search (quotedArgument?_iff_isKeywordLine.2 ⟨hsingle, hline⟩))
  | replacement hsingle hline =>
      exact .inl (ofLine_replacement (quotedArgument?_iff_isKeywordLine.2 ⟨hsingle, hline⟩))
  | @assign a ha hline =>
      by_cases hglob : a.IsGlobLine
      · exact .inr ⟨a, ha, hline, rfl, hglob⟩
      · rw [← hline]
        exact .inl (ofLine_text_of_not_isGlobLine ha hglob)

/-- For a form without an assignment, reading a line and writing it are the same. -/
theorem ofLine_eq_iff (hne : i ≠ .unrecognized) (hassign : ∀ name value, i ≠ .assign name value) :
    ofLine line = i ↔ IsLine line i := by
  constructor
  · rintro rfl
    exact (hasShape_ofLine line).isLine hne
  · intro h
    rcases h.ofLine_eq with h | ⟨a, -, -, rfl, -⟩
    · exact h
    · exact absurd rfl (hassign a.name a.value)

theorem ofLine_eq_assign_iff {name value : Text} :
    ofLine line = .assign name value ↔
      ∃ a : AssignmentLine, a.IsValid ∧ a.text = line ∧ a.name = name ∧ a.value = value ∧
        ¬a.IsGlobLine := by
  constructor
  · intro h
    have hshape := hasShape_ofLine line
    rw [h] at hshape
    cases hshape with
    | assign hassignment =>
        obtain ⟨a, ha, rfl, hname, hvalue⟩ := exists_of_assignment? hassignment
        refine ⟨a, ha, rfl, hname, hvalue, fun hglob => ?_⟩
        rw [ofLine_text_of_isGlobLine ha hglob] at h
        exact globInstruction_ne_assign a name value h
  · rintro ⟨a, ha, rfl, rfl, rfl, hglob⟩
    exact ofLine_text_of_not_isGlobLine ha hglob

theorem ofLine_eq_unrecognized_iff : ofLine line = .unrecognized ↔ ∀ i, ¬IsLine line i := by
  constructor
  · intro h i hi
    rcases hi.ofLine_eq with heq | ⟨a, ha, rfl, -, hglob⟩
    · rw [← heq, h] at hi
      cases hi
    · rw [ofLine_text_of_isGlobLine ha hglob] at h
      exact globInstruction_ne_unrecognized a h
  · intro h
    by_contra hne
    exact h _ ((hasShape_ofLine line).isLine hne)

/-- A line has two forms only as an assignment that has the form of a line with a glob. -/
theorem isLine_and_isLine_iff {j : Instruction} :
    IsLine line i ∧ IsLine line j ∧ i ≠ j ↔
      ∃ a : AssignmentLine, a.IsValid ∧ a.text = line ∧ a.IsGlobLine ∧
        (i = a.instruction ∧ j = a.globInstruction ∨
          i = a.globInstruction ∧ j = a.instruction) := by
  constructor
  · rintro ⟨hi, hj, hne⟩
    rcases hi.ofLine_eq with hi | ⟨a, ha, rfl, rfl, hglob⟩
    · rcases hj.ofLine_eq with hj | ⟨b, hb, rfl, rfl, hglob⟩
      · exact absurd (hi.symm.trans hj) hne
      · exact ⟨b, hb, rfl, hglob, .inr ⟨hi.symm.trans (ofLine_text_of_isGlobLine hb hglob), rfl⟩⟩
    · rcases hj.ofLine_eq with hj | ⟨b, hb, htext, rfl, -⟩
      · exact ⟨a, ha, rfl, hglob, .inl ⟨rfl, hj.symm.trans (ofLine_text_of_isGlobLine ha hglob)⟩⟩
      · have hassignment := assignment?_text hb
        rw [htext, assignment?_text ha, Option.some_inj, Prod.mk.injEq] at hassignment
        exact absurd (congrArg₂ Instruction.assign hassignment.1 hassignment.2) hne
  · rintro ⟨a, ha, rfl, hglob, hij⟩
    have hassign : IsLine a.text a.instruction := .assign ha rfl
    have hother : IsLine a.text a.globInstruction := by
      rw [← ofLine_text_of_isGlobLine ha hglob]
      refine (hasShape_ofLine a.text).isLine ?_
      rw [ofLine_text_of_isGlobLine ha hglob]
      exact globInstruction_ne_unrecognized a
    have hne := globInstruction_ne_assign a a.name a.value
    rcases hij with ⟨rfl, rfl⟩ | ⟨rfl, rfl⟩
    · exact ⟨hassign, hother, Ne.symm hne⟩
    · exact ⟨hother, hassign, hne⟩

/-- **A line is read as what it is written as.** A line of a keyword is read as just that, an
assignment is read unless the line has the form of one with a glob, and a line is unrecognized only
if it has no form. A line has two forms only in that one case, so that its form determines the
payload, or the name and the value. -/
theorem ofLine_iff_isLine (line : Text) :
    (∀ payload, ofLine line = .filter payload ↔ IsLine line (.filter payload)) ∧
    (∀ payload, ofLine line = .files payload ↔ IsLine line (.files payload)) ∧
    (∀ mode payload, ofLine line = .search mode payload ↔ IsLine line (.search mode payload)) ∧
    (∀ payload, ofLine line = .replacement payload ↔ IsLine line (.replacement payload)) ∧
    (∀ name value, ofLine line = .assign name value ↔
      ∃ a : AssignmentLine, a.IsValid ∧ a.text = line ∧ a.name = name ∧ a.value = value ∧
        ¬a.IsGlobLine) ∧
    (ofLine line = .unrecognized ↔ ∀ i, ¬IsLine line i) ∧
    ∀ i j, IsLine line i ∧ IsLine line j ∧ i ≠ j ↔
      ∃ a : AssignmentLine, a.IsValid ∧ a.text = line ∧ a.IsGlobLine ∧
        (i = a.instruction ∧ j = a.globInstruction ∨
          i = a.globInstruction ∧ j = a.instruction) := by
  refine ⟨fun payload => ?_, fun payload => ?_, fun mode payload => ?_, fun payload => ?_,
    fun name value => ?_, ?_, fun i j => ?_⟩
  · exact ofLine_eq_iff nofun nofun
  · exact ofLine_eq_iff nofun nofun
  · exact ofLine_eq_iff nofun nofun
  · exact ofLine_eq_iff nofun nofun
  · exact ofLine_eq_assign_iff
  · exact ofLine_eq_unrecognized_iff
  · exact isLine_and_isLine_iff

/-- A glob stays on its line, so a line feed decides between the two forms. -/
example : ofLine "in = \"x\"".toList = .files "= \"x\"".toList ∧
    ofLine "in =\n\"x\"".toList = .assign "in".toList "x".toList := by
  decide

end Instruction

end Sweep
