import Mathlib.Data.List.Forall2
import Sweep.Proofs.Grammar
import Sweep.Proofs.Reference

/-!
# Assigning a variable again

Where the front matter of a script refers only to what has been assigned on earlier lines, each
assignment changes one variable, to its text with the values of that moment. The order in which the
table replaces references then does not show: it is as if all were replaced at once.
-/

namespace Sweep

namespace Grammar

open Reference

/-- Every value refers only to names that are assigned on an earlier line. -/
def RefersBack : (assigned : List Text) → List Instruction → Prop
  | _, [] => True
  | assigned, .assign name value :: others =>
    (IsWellFormed value ∧ ∀ other ∈ references value, other ∈ assigned) ∧
      RefersBack (name :: assigned) others
  | assigned, _ :: others => RefersBack assigned others

/-- One variable takes a text with all references replaced by the values of before, the others keep
theirs, and no value is left with a reference. -/
structure Assigns (name value : Text) (before after : VariableTable) : Prop where
  assigned : after.get? name = some (substitute before.get? value)
  frame : ∀ other, other ≠ name → after.get? other = before.get? other
  resolved : ∀ v ∈ after.entries, ∀ other, Variable.IsName other →
    v.value.contains (Variable.reference other) = false

/-- A block becomes a command. Only its search is resolved, where that is well formed with all
references replaced at once. -/
structure BlockLines.Gives (b : BlockLines) (environment : Environment) (command : Command) :
    Prop where
  files : command.files = b.glob?.getD everyFile
  search : IsWellFormed b.search → command.search = substitute environment b.search
  replacement : command.replacement = b.replacement
  mode : command.mode = b.mode

/-! ### One assignment -/

section Assign

variable {table : VariableTable} (htable : IsFlat table)
include htable

theorem isWellFormed_get? (name value : Text) (h : table.get? name = some value) :
    IsWellFormed value := by
  obtain ⟨v, hv, -, rfl⟩ := VariableTable.exists_of_get? h
  exact (htable v hv).2.1

theorem references_get? (name value : Text) (h : table.get? name = some value) :
    references value = [] := by
  obtain ⟨v, hv, -, rfl⟩ := VariableTable.exists_of_get? h
  exact (htable v hv).2.2

/-- The step: an assignment that refers only to known names leaves no reference in any value. -/
theorem isFlat_define {name value : Text} (hname : Variable.IsName name)
    (hvalue : IsWellFormed value)
    (hknown : ∀ other ∈ references value, (table.get? other).isSome = true) :
    IsFlat (table.define name value) := by
  intro v hv
  rcases VariableTable.mem_put hv with rfl | hv
  · have henv := isWellFormed_get? htable
    rw [resolve_eq_substitute htable hvalue]
    refine ⟨hname, hvalue.substitute henv, List.eq_nil_iff_forall_not_mem.2 ?_⟩
    intro other hother
    rcases (mem_references_substitute_iff henv hvalue).1 hother with
      ⟨hmem, hnone⟩ | ⟨inner, -, text, htext, hmem⟩
    · have hsome := hknown other hmem
      rw [hnone] at hsome
      cases hsome
    · rw [references_get? htable inner text htext] at hmem
      cases hmem
  · exact htable v hv

theorem assigns_define {name value : Text} (hname : Variable.IsName name)
    (hvalue : IsWellFormed value)
    (hknown : ∀ other ∈ references value, (table.get? other).isSome = true) :
    Assigns name value table (table.define name value) where
  assigned := by
    rw [VariableTable.get?_define, if_pos rfl, resolve_eq_substitute htable hvalue]
  frame other hne := by
    rw [VariableTable.get?_define, if_neg hne]
  resolved v hv other hother := by
    obtain ⟨-, hwellFormed, hnone⟩ := isFlat_define htable hname hvalue hknown v hv
    rw [← Bool.not_eq_true, contains_reference_iff hwellFormed hother, hnone]
    exact List.not_mem_nil

/-- The run: behind any beginning of the front matter no value has a reference, and the names
assigned so far have values. -/
theorem exists_assigned_of_refersBack {front others : List Instruction} {assigned : List Text}
    (hnames : ∀ name value, Instruction.assign name value ∈ front → Variable.IsName name)
    (hassigned : ∀ name ∈ assigned, (table.get? name).isSome = true)
    (h : RefersBack assigned (front ++ others)) :
    IsFlat (front.foldl assign table) ∧ ∃ later, RefersBack later others ∧
      ∀ name ∈ later, ((front.foldl assign table).get? name).isSome = true := by
  induction front generalizing table assigned with
  | nil => exact ⟨htable, assigned, h, hassigned⟩
  | cons i front ih =>
      have hothers := fun name value hmem => hnames name value (List.mem_cons_of_mem i hmem)
      cases i with
      | assign name value =>
          obtain ⟨⟨hvalue, hback⟩, h⟩ := h
          have hname := hnames name value List.mem_cons_self
          have hflat := isFlat_define htable hname hvalue fun other hmem =>
            hassigned other (hback other hmem)
          refine ih hflat hothers ?_ h
          intro other hother
          rw [assign, VariableTable.get?_define]
          by_cases heq : other = name
          · rw [if_pos heq]
            rfl
          · rw [if_neg heq]
            exact hassigned other ((List.mem_cons.1 hother).resolve_left heq)
      | _ => exact ih htable hothers hassigned h

end Assign

/-! ### The front matter of a source -/

theorem isName_of_mem_instructionsOf {lines : List (Nat × Text)} {name value : Text}
    (h : Instruction.assign name value ∈ instructionsOf lines) : Variable.IsName name := by
  obtain ⟨line, -, hline⟩ := List.mem_map.1 h
  have hshape := Instruction.hasShape_ofLine line.2
  rw [hline] at hshape
  cases hshape with
  | assign hassignment => exact (Instruction.isName_of_assignment? hassignment).1

/-- A beginning of the front matter is taken, and leaves the variables that it assigns. -/
theorem acceptAll_front_of_append {l : Layout} (hl : l.IsValid) {before after : List Instruction}
    (h : l.front = before ++ after) :
    Draft.acceptAll {} before = .ok
      { filter := before.findSome? filterGlob?, table := before.foldl assign {} } := by
  apply acceptAll_front
  · intro i hi
    refine hl.front i ?_
    rw [h]
    exact List.mem_append_left _ hi
  · have hfew := hl.filters
    rw [h, List.filterMap_append, List.length_append] at hfew
    omega

/-- **Assigning again works on the values of before.** In a script whose assignments refer only to
earlier ones, each assignment gives its variable its text with all references replaced at once by
the values of that moment, and changes no other variable. Well-formed searches get the final values
in the same way; nothing else of a command is resolved. -/
theorem assigns_of_refersBack {source : Text} {l : Layout} (hl : l.IsValid)
    (hsource : l.instructions = instructionsOf (instructionLines (numberLines source.lines)))
    (hback : RefersBack [] l.front) :
    (∀ before name value after, l.front = before ++ .assign name value :: after →
      ∃ draft next, Draft.acceptAll {} before = .ok draft ∧
        draft.accept (.assign name value) = .ok next ∧
          Assigns name value draft.table next.table) ∧
    ∃ last parsed, Draft.acceptAll {} l.front = .ok last ∧
      ParsedScript.parse source = .ok parsed ∧ parsed.variables = last.table ∧
        parsed.script.filter = l.filter?.getD everyFile ∧
          List.Forall₂ (fun b command => b.Gives last.table.get? command) l.blocks
            parsed.script.commands := by
  have hnames : ∀ name value, Instruction.assign name value ∈ l.front → Variable.IsName name := by
    intro name value hmem
    apply isName_of_mem_instructionsOf
    rw [← hsource, Layout.instructions, List.append_assoc]
    exact List.mem_append_left _ hmem
  have hempty : IsFlat {} := fun v hv => by cases hv
  have hnone : ∀ name ∈ [], (VariableTable.get? {} name).isSome = true :=
    fun name hname => by cases hname
  constructor
  · intro before name value after hfront
    have hname := hnames name value (by rw [hfront]; simp)
    have hbefore : ∀ name value, Instruction.assign name value ∈ before → Variable.IsName name := by
      intro other text hmem
      refine hnames other text ?_
      rw [hfront]
      exact List.mem_append_left _ hmem
    rw [hfront] at hback
    obtain ⟨hflat, later, hlater, hknown⟩ :=
      exists_assigned_of_refersBack hempty hbefore hnone hback
    obtain ⟨⟨hvalue, hrefers⟩, -⟩ := hlater
    refine ⟨_, _, acceptAll_front_of_append hl hfront,
      Draft.accept_assign_eq_ok_iff.2 ⟨⟨rfl, rfl⟩, rfl⟩, ?_⟩
    exact assigns_define hflat hname hvalue fun other hmem => hknown other (hrefers other hmem)
  · have hfront : l.front = l.front ++ [] := (List.append_nil _).symm
    rw [hfront] at hback
    obtain ⟨hflat, -⟩ := exists_assigned_of_refersBack hempty hnames hnone hback
    refine ⟨_, l.parsed, acceptAll_front_of_append hl hfront,
      parse_eq_ok_iff.2 ⟨l, hl, rfl, hsource⟩, rfl, rfl, ?_⟩
    rw [Layout.parsed, List.forall₂_map_right_iff, List.forall₂_same]
    intro b _
    exact ⟨rfl, fun hsearch => resolve_eq_substitute hflat hsearch, rfl, rfl⟩

/-- A variable that is assigned again by its own name, beside texts that are never resolved. -/
def reassigning : Layout where
  front := [.filter (Variable.reference ['t']), .assign ['t'] ['a'],
    .assign ['t'] (Variable.reference ['t'] ++ 'b' :: Variable.reference ['t'])]
  blocks := [⟨none, .literal, Variable.reference ['t'] ++ Variable.reference ['u'],
    Variable.reference ['t']⟩]
  rest := []

def reassigningSource : Text :=
  "filter ".toList ++ Variable.reference ['t'] ++
    "\nt = \"a\"\nt = \"".toList ++ Variable.reference ['t'] ++ 'b' :: Variable.reference ['t'] ++
    "\"\nreplace \"".toList ++ Variable.reference ['t'] ++ Variable.reference ['u'] ++
    "\"\nwith \"".toList ++ Variable.reference ['t'] ++ ['"']

theorem assigns_reassigning :
    reassigning.IsValid ∧
      reassigning.instructions =
        instructionsOf (instructionLines (numberLines reassigningSource.lines)) ∧
      RefersBack [] reassigning.front ∧
      ∃ parsed, ParsedScript.parse reassigningSource = .ok parsed ∧
        parsed.variables.get? ['t'] = some "aba".toList ∧
        parsed.script.commands.map (·.search) = ["aba".toList ++ Variable.reference ['u']] := by
  have hvalid : reassigning.IsValid := by
    refine ⟨?_, by decide, ?_, isOpen_nil⟩
    · intro i hi
      simp only [reassigning, List.mem_cons, List.not_mem_nil, or_false] at hi
      rcases hi with rfl | rfl | rfl
      · rw [IsFront, HasGlob]
        decide
      · trivial
      · trivial
    · intro b hb payload hpayload
      rw [List.mem_singleton.1 hb] at hpayload
      cases hpayload
  have hsource : reassigning.instructions =
      instructionsOf (instructionLines (numberLines reassigningSource.lines)) := by
    decide
  have hback : RefersBack [] reassigning.front :=
    ⟨⟨by decide, by decide⟩, ⟨by decide, by decide⟩, trivial⟩
  obtain ⟨-, last, parsed, hlast, hparsed, hvariables, -, hcommands⟩ :=
    assigns_of_refersBack hvalid hsource hback
  have htable : Draft.acceptAll {} reassigning.front =
      .ok { filter := some (Variable.reference ['t']), table := ⟨[⟨['t'], "aba".toList⟩]⟩ } := rfl
  obtain rfl := Except.ok.inj (hlast.symm.trans htable)
  refine ⟨hvalid, hsource, hback, parsed, hparsed, ?_, ?_⟩
  · rw [hvariables]
    decide
  · generalize parsed.script.commands = commands at hcommands ⊢
    cases hcommands with
    | cons hgives hnil =>
        cases hnil
        rw [List.map_singleton, hgives.search (by decide)]
        decide

end Grammar

end Sweep
