import Sweep.Proofs.Instruction
import Sweep.Proofs.VariableTable

/-!
# References in a text

A text is well formed where every percent sign either begins a reference or clearly does not. Such a
text is the same as the list of its characters and references: nothing that is put in place of a
reference makes another one with what stands around it. So to replace the references of one variable
after the other comes down to substitutions for the references alone.
-/

namespace Sweep

/-! ### Names and references -/

namespace Variable

theorem percent_not_mem_name {name : Text} (h : IsName name) : '%' ∉ name :=
  fun hmem => absurd (h.2 '%' hmem) (by decide)

theorem percent_not_mem_reference_tail {name : Text} (h : IsName name) :
    '%' ∉ '\x7b' :: name ++ ['\x7d'] := by
  simp [percent_not_mem_name h]

theorem reference_append (name rest : Text) :
    reference name ++ rest = '%' :: ('\x7b' :: name ++ ['\x7d'] ++ rest) := rfl

end Variable

namespace Reference

open Variable

/-- The name in the reference that a text begins with. -/
def nameAt? : Text → Option Text
  | '%' :: '\x7b' :: rest =>
    let name := rest.takeWhile Instruction.isNameChar
    if name ≠ [] ∧ (rest.dropWhile Instruction.isNameChar).head? = some '\x7d' then
      some name
    else
      none
  | _ => none

theorem nameAt?_reference_append {name : Text} (h : Variable.IsName name) (rest : Text) :
    nameAt? (reference name ++ rest) = some name := by
  have hrest : reference name ++ rest = '%' :: '\x7b' :: (name ++ '\x7d' :: rest) := by
    simp [reference]
  have hbrace : ∀ c ∈ ('\x7d' :: rest).head?, Instruction.isNameChar c = false := by
    intro c hc
    rw [← Option.some.inj hc]
    decide
  rw [hrest, nameAt?, Text.takeWhile_append_of_head? h.2 hbrace,
    Text.dropWhile_append_of_head? h.2 hbrace, if_pos ⟨h.1, rfl⟩]

theorem nameAt?_eq_some_iff {t name : Text} :
    nameAt? t = some name ↔ Variable.IsName name ∧ reference name <+: t := by
  constructor
  · intro h
    unfold nameAt? at h
    split at h
    · rename_i rest
      dsimp only at h
      split at h
      · rename_i hname
        obtain rfl := Option.some.inj h
        refine ⟨⟨hname.1, fun c hc => List.mem_takeWhile_imp hc⟩, ?_⟩
        obtain ⟨others, hothers⟩ := List.head?_eq_some_iff.1 hname.2
        refine ⟨others, ?_⟩
        conv_rhs => rw [← List.takeWhile_append_dropWhile (p := Instruction.isNameChar) (l := rest)]
        rw [hothers]
        simp [reference]
      · cases h
    · cases h
  · rintro ⟨hname, rest, rfl⟩
    exact nameAt?_reference_append hname rest

/-- A text begins with the reference to one name at most. -/
theorem eq_of_begins_reference {name other rest : Text} (hname : Variable.IsName name)
    (hother : Variable.IsName other) (h : reference name <+: reference other ++ rest) :
    name = other := by
  have hfirst := nameAt?_eq_some_iff.2 ⟨hname, h⟩
  rw [nameAt?_reference_append hother] at hfirst
  exact (Option.some.inj hfirst).symm

/-! ### Well-formed texts -/

/-- A character in front of `rest` that begins nothing like a reference. -/
def IsPlain (c : Char) (rest : Text) : Prop := c = '%' → ∃ d ∈ rest.head?, d ≠ '%' ∧ d ≠ '\x7b'

/-- Every percent sign begins a reference, or is followed by a character other than a percent sign
and an opening brace. -/
def IsWellFormed : Text → Prop
  | [] => True
  | c :: rest =>
    (c = '%' → (∃ name, Variable.IsName name ∧ reference name <+: c :: rest) ∨
      ∃ d ∈ rest.head?, d ≠ '%' ∧ d ≠ '\x7b') ∧ IsWellFormed rest

instance decidableIsWellFormed : DecidablePred IsWellFormed
  | [] => isTrue trivial
  | c :: rest =>
    have : Decidable (∃ name, Variable.IsName name ∧ reference name <+: c :: rest) :=
      decidable_of_iff ((nameAt? (c :: rest)).isSome = true) (by
        rw [Option.isSome_iff_exists]
        exact exists_congr fun _ => nameAt?_eq_some_iff)
    have : Decidable (∃ d ∈ rest.head?, d ≠ '%' ∧ d ≠ '\x7b') :=
      decidable_of_iff (rest.head?.any (fun d => d ≠ '%' ∧ d ≠ '\x7b') = true) (by
        simp only [Option.any_eq_true, decide_eq_true_eq, Option.mem_def])
    have := decidableIsWellFormed rest
    inferInstanceAs (Decidable ((c = '%' →
      (∃ name, Variable.IsName name ∧ reference name <+: c :: rest) ∨
        ∃ d ∈ rest.head?, d ≠ '%' ∧ d ≠ '\x7b') ∧ IsWellFormed rest))

namespace IsWellFormed

theorem cons {c : Char} {rest : Text} (hc : IsPlain c rest) (hrest : IsWellFormed rest) :
    IsWellFormed (c :: rest) :=
  ⟨fun h => Or.inr (hc h), hrest⟩

theorem append_left {t rest : Text} (ht : '%' ∉ t) (hrest : IsWellFormed rest) :
    IsWellFormed (t ++ rest) := by
  induction t with
  | nil => exact hrest
  | cons c t ih =>
      rw [List.mem_cons, not_or] at ht
      exact cons (fun h => absurd h.symm ht.1) (ih ht.2)

theorem of_append {t rest : Text} (h : IsWellFormed (t ++ rest)) : IsWellFormed rest := by
  induction t with
  | nil => exact h
  | cons c t ih => exact ih h.2

theorem reference_append {name rest : Text} (hname : Variable.IsName name)
    (hrest : IsWellFormed rest) :
    IsWellFormed (reference name ++ rest) :=
  ⟨fun _ => Or.inl ⟨name, hname, List.prefix_append _ _⟩,
    append_left (percent_not_mem_reference_tail hname) hrest⟩

/-- From the end to the front, a character that begins no reference or a whole reference at a
time. -/
@[elab_as_elim]
theorem induction {motive : (t : Text) → IsWellFormed t → Prop} (nil : motive [] trivial)
    (char : ∀ c rest (hc : IsPlain c rest) (hrest : IsWellFormed rest), motive rest hrest →
      motive (c :: rest) (cons hc hrest))
    (reference : ∀ name rest (hname : Variable.IsName name) (hrest : IsWellFormed rest),
      motive rest hrest →
      motive (Variable.reference name ++ rest) (reference_append hname hrest))
    (t : Text) (h : IsWellFormed t) : motive t h := by
  induction hlength : t.length using Nat.strong_induction_on generalizing t with
  | _ n ih =>
      by_cases hbegins : ∃ name others, Variable.IsName name ∧ t = Variable.reference name ++ others
      · obtain ⟨name, others, hname, rfl⟩ := hbegins
        have hlt : others.length < n := by
          rw [← hlength, List.length_append, Variable.reference]
          simp only [List.length_append, List.length_cons]
          omega
        exact reference name others hname h.of_append (ih _ hlt others h.of_append rfl)
      · cases t with
        | nil => exact nil
        | cons c rest =>
            have hplain : IsPlain c rest := by
              intro hc
              rcases h.1 hc with ⟨name, hname, others, heq⟩ | hnext
              · exact absurd ⟨name, others, hname, heq.symm⟩ hbegins
              · exact hnext
            have hlt : rest.length < n := by
              rw [← hlength]
              exact Nat.lt_succ_self _
            exact char c rest hplain h.2 (ih _ hlt rest h.2 rfl)

end IsWellFormed

theorem IsPlain.append {c : Char} {rest : Text} (h : IsPlain c rest) (others : Text) :
    IsPlain c (rest ++ others) := by
  intro hc
  obtain ⟨d, hd, hne⟩ := h hc
  exact ⟨d, List.mem_head?_append_of_mem_head? hd, hne⟩

theorem IsPlain.not_begins_reference {c : Char} {rest : Text} (h : IsPlain c rest) (name : Text) :
    ¬reference name <+: c :: rest := by
  rintro ⟨others, heq⟩
  rw [Variable.reference_append] at heq
  obtain ⟨rfl, rfl⟩ := List.cons.inj heq
  obtain ⟨d, hd, -, hbrace⟩ := h rfl
  exact hbrace (Option.some.inj hd).symm

theorem IsWellFormed.append {t rest : Text} (ht : IsWellFormed t) (hrest : IsWellFormed rest) :
    IsWellFormed (t ++ rest) := by
  induction t, ht using IsWellFormed.induction with
  | nil => exact hrest
  | char c t hc _ ih => exact ih.cons (hc.append rest)
  | reference name t hname _ ih =>
      rw [List.append_assoc]
      exact ih.reference_append hname

/-! ### The parts of a text -/

/-- A character of a text, or a whole reference. -/
inductive Part where
  | char (c : Char)
  | reference (name : Text)
  deriving DecidableEq, Repr

/-- Reads the parts of a text. The next `skip` characters belong to the reference read last. -/
def partsFrom : (skip : Nat) → Text → List Part
  | _, [] => []
  | skip + 1, _ :: rest => partsFrom skip rest
  | 0, c :: rest =>
    match nameAt? (c :: rest) with
    | some name => .reference name :: partsFrom (name.length + 2) rest
    | none => .char c :: partsFrom 0 rest

def parts (t : Text) : List Part := partsFrom 0 t

theorem partsFrom_length_append (t rest : Text) : partsFrom t.length (t ++ rest) = parts rest := by
  induction t with
  | nil => rfl
  | cons c t ih =>
      rw [List.length_cons, List.cons_append, partsFrom]
      exact ih

theorem parts_cons {c : Char} {rest : Text} (h : IsPlain c rest) :
    parts (c :: rest) = .char c :: parts rest := by
  rw [parts, partsFrom]
  cases hname : nameAt? (c :: rest) with
  | none => rfl
  | some name => exact absurd (nameAt?_eq_some_iff.1 hname).2 (h.not_begins_reference name)

theorem parts_reference_append {name : Text} (h : Variable.IsName name) (rest : Text) :
    parts (reference name ++ rest) = .reference name :: parts rest := by
  have hlength : ('\x7b' :: name ++ ['\x7d']).length = name.length + 2 := by simp
  have hname := nameAt?_reference_append h rest
  rw [Variable.reference_append] at hname ⊢
  have hothers := partsFrom_length_append ('\x7b' :: name ++ ['\x7d']) rest
  rw [hlength] at hothers
  rw [parts, partsFrom, hname]
  exact congrArg _ hothers

theorem parts_append {t : Text} (ht : IsWellFormed t) (rest : Text) :
    parts (t ++ rest) = parts t ++ parts rest := by
  induction t, ht using IsWellFormed.induction with
  | nil => rfl
  | char c t hc _ ih => rw [List.cons_append, parts_cons (hc.append rest), ih, parts_cons hc]; rfl
  | reference name t hname _ ih =>
      rw [List.append_assoc, parts_reference_append hname, ih, parts_reference_append hname]
      rfl

def Part.name? : Part → Option Text
  | .char _ => none
  | .reference name => some name

/-- The names that a text refers to, as often as it does. -/
def references (t : Text) : List Text := (parts t).filterMap Part.name?

theorem mem_references_iff {t name : Text} :
    name ∈ references t ↔ Part.reference name ∈ parts t := by
  rw [references, List.mem_filterMap]
  constructor
  · rintro ⟨part, hpart, hname⟩
    cases part with
    | char c => cases hname
    | reference other =>
        rw [← Option.some.inj hname]
        exact hpart
  · intro h
    exact ⟨_, h, rfl⟩

theorem references_cons {c : Char} {rest : Text} (h : IsPlain c rest) :
    references (c :: rest) = references rest := by
  rw [references, parts_cons h]
  rfl

theorem references_reference_append {name : Text} (h : Variable.IsName name) (rest : Text) :
    references (reference name ++ rest) = name :: references rest := by
  rw [references, parts_reference_append h]
  rfl

/-- The references that stand in a well-formed text are its parts, no accidents of its
characters. -/
theorem contains_reference_iff {t name : Text} (ht : IsWellFormed t)
    (hname : Variable.IsName name) :
    t.contains (reference name) = true ↔ name ∈ references t := by
  rw [Text.contains_eq_true_iff]
  induction t, ht using IsWellFormed.induction with
  | nil =>
      rw [List.infix_nil]
      constructor
      · intro h
        cases h
      · intro h
        cases h
  | char c t hc _ ih =>
      rw [List.infix_cons_iff, or_iff_right (hc.not_begins_reference name), ih,
        references_cons hc]
  | reference other t hother _ ih =>
      have hfirst : reference name <+: reference other ++ t ↔ name = other := by
        constructor
        · exact eq_of_begins_reference hname hother
        · rintro rfl
          exact List.prefix_append _ _
      rw [references_reference_append hother, List.mem_cons, ← ih, ← hfirst,
        Variable.reference_append other, List.infix_cons_iff]
      exact or_congr_right (Text.infix_append_of_not_mem (percent_not_mem_reference_tail hother))

/-! ### Substitution -/

/-- What names stand for. -/
abbrev Environment := Text → Option Text

def Part.valueIn (env : Environment) : Part → Text
  | .char c => [c]
  | .reference name => (env name).getD (Variable.reference name)

/-- Puts values in place of all references at once. A reference to a name without a value stays. -/
def substitute (env : Environment) (t : Text) : Text := (parts t).flatMap (Part.valueIn env)

def Part.partsIn (env : Environment) : Part → List Part
  | .char c => [.char c]
  | .reference name => (env name).elim [.reference name] parts

section Substitute

variable {env : Environment}

theorem substitute_cons {c : Char} {rest : Text} (h : IsPlain c rest) :
    substitute env (c :: rest) = c :: substitute env rest := by
  rw [substitute, parts_cons h]
  rfl

theorem substitute_reference_append {name : Text} (h : Variable.IsName name) (rest : Text) :
    substitute env (reference name ++ rest) =
      (env name).getD (reference name) ++ substitute env rest := by
  rw [substitute, parts_reference_append h]
  rfl

theorem IsPlain.substitute {c : Char} {rest : Text} (h : IsPlain c rest) :
    IsPlain c (substitute env rest) := by
  intro hc
  obtain ⟨d, hd, hne⟩ := h hc
  obtain ⟨others, rfl⟩ := List.head?_eq_some_iff.1 hd
  rw [substitute_cons fun heq => absurd heq hne.1]
  exact ⟨d, rfl, hne⟩

variable (henv : ∀ name value, env name = some value → IsWellFormed value)
include henv

theorem isWellFormed_getD {name : Text} (hname : Variable.IsName name) :
    IsWellFormed ((env name).getD (reference name)) := by
  cases hvalue : env name with
  | none =>
      have hwhole : IsWellFormed (reference name ++ []) := .reference_append hname trivial
      rwa [List.append_nil] at hwhole
  | some value => exact henv name value hvalue

theorem IsWellFormed.substitute {t : Text} (ht : IsWellFormed t) :
    IsWellFormed (substitute env t) := by
  induction t, ht using IsWellFormed.induction with
  | nil => trivial
  | char c t hc _ ih =>
      rw [substitute_cons hc]
      exact ih.cons hc.substitute
  | reference name t hname _ ih =>
      rw [substitute_reference_append hname]
      exact (isWellFormed_getD henv hname).append ih

omit henv in
theorem parts_getD {name : Text} (hname : Variable.IsName name) :
    parts ((env name).getD (reference name)) = (Part.reference name).partsIn env := by
  cases hvalue : env name with
  | none =>
      have hwhole := parts_reference_append hname []
      rw [List.append_nil] at hwhole
      rw [Part.partsIn, hvalue]
      exact hwhole
  | some value =>
      rw [Part.partsIn, hvalue]
      rfl

theorem parts_substitute {t : Text} (ht : IsWellFormed t) :
    parts (substitute env t) = (parts t).flatMap (Part.partsIn env) := by
  induction t, ht using IsWellFormed.induction with
  | nil => rfl
  | char c t hc _ ih =>
      rw [substitute_cons hc, parts_cons hc.substitute, ih, parts_cons hc]
      rfl
  | reference name t hname _ ih =>
      rw [substitute_reference_append hname, parts_append (isWellFormed_getD henv hname), ih,
        parts_getD hname, parts_reference_append hname]
      rfl

theorem mem_references_substitute_iff {t other : Text} (ht : IsWellFormed t) :
    other ∈ references (substitute env t) ↔
      (other ∈ references t ∧ env other = none) ∨
        ∃ name ∈ references t, ∃ value ∈ env name, other ∈ references value := by
  rw [mem_references_iff, parts_substitute henv ht, List.mem_flatMap]
  constructor
  · rintro ⟨part, hpart, hmem⟩
    cases part with
    | char c =>
        rw [Part.partsIn, List.mem_singleton] at hmem
        cases hmem
    | reference name =>
        rw [Part.partsIn] at hmem
        cases hvalue : env name with
        | none =>
            rw [hvalue, Option.elim_none, List.mem_singleton, Part.reference.injEq] at hmem
            rw [hmem]
            exact Or.inl ⟨mem_references_iff.2 hpart, hvalue⟩
        | some value =>
            rw [hvalue] at hmem
            exact Or.inr ⟨name, mem_references_iff.2 hpart, value, hvalue,
              mem_references_iff.2 hmem⟩
  · rintro (⟨hother, hnone⟩ | ⟨name, hname, value, hvalue, hmem⟩)
    · refine ⟨_, mem_references_iff.1 hother, ?_⟩
      rw [Part.partsIn, hnone]
      exact List.mem_singleton.2 rfl
    · refine ⟨_, mem_references_iff.1 hname, ?_⟩
      rw [Part.partsIn, hvalue]
      exact mem_references_iff.1 hmem

omit henv in
theorem substitute_append {t : Text} (ht : IsWellFormed t) (rest : Text) :
    substitute env (t ++ rest) = substitute env t ++ substitute env rest := by
  rw [substitute, parts_append ht, List.flatMap_append]
  rfl

omit henv in
theorem substitute_eq_self {t : Text} (ht : IsWellFormed t)
    (h : ∀ name ∈ references t, env name = none) : substitute env t = t := by
  induction t, ht using IsWellFormed.induction with
  | nil => rfl
  | char c t hc _ ih =>
      rw [references_cons hc] at h
      rw [substitute_cons hc, ih h]
  | reference name t hname _ ih =>
      rw [references_reference_append hname] at h
      rw [substitute_reference_append hname, h name List.mem_cons_self,
        ih fun other hother => h other (List.mem_cons_of_mem _ hother)]
      rfl

/-- Two substitutions are one where the first puts in nothing that the second would replace. -/
theorem substitute_substitute {other : Environment}
    (hnone : ∀ name value, env name = some value → references value = []) {t : Text}
    (ht : IsWellFormed t) :
    substitute other (substitute env t) =
      substitute (fun name => (env name).or (other name)) t := by
  induction t, ht using IsWellFormed.induction with
  | nil => rfl
  | char c t hc _ ih =>
      rw [substitute_cons hc, substitute_cons hc.substitute, ih, substitute_cons hc]
  | reference name t hname _ ih =>
      rw [substitute_reference_append hname, substitute_append (isWellFormed_getD henv hname), ih,
        substitute_reference_append hname]
      congr 1
      cases hvalue : env name with
      | none =>
          have hwhole : substitute other (reference name ++ []) = _ :=
            substitute_reference_append hname []
          rw [List.append_nil] at hwhole
          rw [Option.getD_none, hwhole, Option.none_or]
          exact List.append_nil _
      | some value =>
          rw [Option.getD_some, Option.some_or, Option.getD_some]
          refine substitute_eq_self (henv name value hvalue) fun m hm => ?_
          rw [hnone name value hvalue] at hm
          cases hm

end Substitute

/-! ### Resolving -/

/-- The environment in which one variable is all there is. -/
def Environment.only (v : Variable) : Environment :=
  fun name => if name = v.name then some v.value else none

theorem of_only {P : Text → Prop} {v : Variable} (hv : P v.value) (name value : Text)
    (h : Environment.only v name = some value) : P value := by
  rw [Environment.only] at h
  split at h
  · rw [← Option.some.inj h]
    exact hv
  · cases h

theorem expand_eq_substitute {v : Variable} (hv : Variable.IsName v.name) {t : Text}
    (ht : IsWellFormed t) : VariableTable.expand t v = substitute (Environment.only v) t := by
  rw [VariableTable.expand, Text.replaceAll, if_neg (by simp [reference])]
  induction t, ht using IsWellFormed.induction with
  | nil => rfl
  | char c t hc _ ih =>
      rw [Text.replaceFrom_cons (hc.not_begins_reference v.name), ih, substitute_cons hc]
  | reference name t hname _ ih =>
      rw [substitute_reference_append hname, ← ih, Environment.only]
      by_cases heq : name = v.name
      · rw [if_pos heq, heq]
        exact Text.replaceFrom_self_append '%' _ v.value t
      · have hfirst : ¬reference v.name <+: reference name ++ t :=
          fun h => heq (eq_of_begins_reference hv hname h).symm
        have hothers : Text.replaceFrom (reference v.name) v.value 0
            ('\x7b' :: name ++ ['\x7d'] ++ t) = _ :=
          Text.replaceFrom_append_of_not_mem (percent_not_mem_reference_tail hname) t
        rw [if_neg heq]
        rw [Variable.reference_append] at hfirst ⊢
        rw [Text.replaceFrom_cons hfirst]
        exact congrArg _ hothers

theorem get?_cons (v : Variable) (entries : List Variable) (name : Text) :
    VariableTable.get? ⟨v :: entries⟩ name =
      (Environment.only v name).or (VariableTable.get? ⟨entries⟩ name) := by
  rw [VariableTable.get?, VariableTable.get?, Environment.only, List.find?_cons]
  by_cases heq : name = v.name
  · rw [heq, if_pos rfl, beq_self_eq_true]
    rfl
  · rw [if_neg heq, beq_false_of_ne (Ne.symm heq)]
    rfl

/-- No value refers to anything. -/
def IsFlat (table : VariableTable) : Prop :=
  ∀ v ∈ table.entries, Variable.IsName v.name ∧ IsWellFormed v.value ∧ references v.value = []

/-- With such variables, to resolve a text is to replace all its references at once. -/
theorem resolve_eq_substitute {table : VariableTable} (htable : IsFlat table) {t : Text}
    (ht : IsWellFormed t) : table.resolve t = substitute table.get? t := by
  obtain ⟨entries⟩ := table
  induction entries generalizing t with
  | nil => exact (substitute_eq_self ht fun name _ => rfl).symm
  | cons v entries ih =>
      obtain ⟨hname, hvalue, hnone⟩ := htable v List.mem_cons_self
      have hothers := ih (ht.substitute (of_only hvalue)) fun w hw =>
        htable w (List.mem_cons_of_mem _ hw)
      rw [VariableTable.resolve, List.foldl_cons, expand_eq_substitute hname ht]
      refine hothers.trans ?_
      rw [substitute_substitute (of_only hvalue)
        (of_only (P := fun value => references value = []) hnone) ht]
      exact congrArg (substitute · t) (funext fun name => (get?_cons v entries name).symm)

end Reference

end Sweep
