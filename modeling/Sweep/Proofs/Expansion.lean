import Mathlib.Data.List.Induction
import Mathlib.Data.List.Nodup
import Mathlib.Logic.Relation
import Sweep.Proofs.Reference

/-!
# Expanding references completely

Definitions that do not refer back to themselves give every text one complete expansion. A table
that has taken them reaches it in a single sweep, whatever their order: a stored value refers to
none of the names in front of it, so that the sweep leaves nothing behind that it has passed.
-/

namespace Sweep

namespace Reference

/-- The complete expansion of a text: each reference to a defined name gives way to the expansion of
its definition, any other reference stays. -/
inductive Expands (definitions : List Variable) : List Part → Text → Prop
  | nil : Expands definitions [] []
  | char {c : Char} {rest : List Part} {out : Text} (hrest : Expands definitions rest out) :
      Expands definitions (.char c :: rest) (c :: out)
  | undefined {name : Text} {rest : List Part} {out : Text}
      (hname : ∀ d ∈ definitions, d.name ≠ name) (hrest : Expands definitions rest out) :
      Expands definitions (.reference name :: rest) (Variable.reference name ++ out)
  | defined {d : Variable} {rest : List Part} {value out : Text} (hd : d ∈ definitions)
      (hvalue : Expands definitions (parts d.value) value) (hrest : Expands definitions rest out) :
      Expands definitions (.reference d.name :: rest) (value ++ out)

/-- The definition of one name refers to the other. -/
def RefersTo (definitions : List Variable) (name other : Text) : Prop :=
  ∃ d ∈ definitions, d.name = name ∧ other ∈ references d.value

/-- Definitions of different names, none of which comes back to itself from reference to
reference. -/
structure IsAcyclic (definitions : List Variable) : Prop where
  nodup : (definitions.map (·.name)).Nodup
  isName : ∀ d ∈ definitions, Variable.IsName d.name
  wellFormed : ∀ d ∈ definitions, IsWellFormed d.value
  noCycle : ∀ name, ¬Relation.TransGen (RefersTo definitions) name name

theorem noCycle_of_rank {definitions : List Variable} (rank : Text → Nat)
    (h : ∀ d ∈ definitions, ∀ other ∈ references d.value, rank other < rank d.name) (name : Text) :
    ¬Relation.TransGen (RefersTo definitions) name name := by
  have hlt : ∀ first last, Relation.TransGen (RefersTo definitions) first last →
      rank last < rank first := by
    intro first last hpath
    induction hpath with
    | single hstep =>
        obtain ⟨d, hd, rfl, hother⟩ := hstep
        exact h d hd _ hother
    | tail _ hstep ih =>
        obtain ⟨d, hd, rfl, hother⟩ := hstep
        exact (h d hd _ hother).trans ih
  intro hpath
  exact Nat.lt_irrefl _ (hlt name name hpath)

/-! ### One expansion at most -/

section Expands

variable {definitions : List Variable}

theorem Expands.append {first second : List Part} {x y : Text}
    (hfirst : Expands definitions first x) (hsecond : Expands definitions second y) :
    Expands definitions (first ++ second) (x ++ y) := by
  induction hfirst with
  | nil => exact hsecond
  | char _ ih => exact ih.char
  | undefined hname _ ih =>
      rw [List.append_assoc]
      exact ih.undefined hname
  | defined hd hvalue _ _ ih =>
      rw [List.append_assoc]
      exact .defined hd hvalue ih

theorem Expands.exists_of_append {first second : List Part} {out : Text}
    (h : Expands definitions (first ++ second) out) :
    ∃ x y, out = x ++ y ∧ Expands definitions first x ∧ Expands definitions second y := by
  induction first generalizing out with
  | nil => exact ⟨[], out, rfl, .nil, h⟩
  | cons part first ih =>
      cases h with
      | char hrest =>
          obtain ⟨x, y, rfl, hx, hy⟩ := ih hrest
          exact ⟨_, y, rfl, hx.char, hy⟩
      | undefined hname hrest =>
          obtain ⟨x, y, rfl, hx, hy⟩ := ih hrest
          exact ⟨_, y, (List.append_assoc _ x y).symm, hx.undefined hname, hy⟩
      | defined hd hvalue hrest =>
          obtain ⟨x, y, rfl, hx, hy⟩ := ih hrest
          exact ⟨_, y, (List.append_assoc _ x y).symm, .defined hd hvalue hx, hy⟩

theorem Expands.unique (hnodup : (definitions.map (·.name)).Nodup) {text : List Part} {x y : Text}
    (hx : Expands definitions text x) (hy : Expands definitions text y) : x = y := by
  induction hx generalizing y with
  | nil =>
      cases hy
      rfl
  | char _ ih =>
      cases hy with
      | char hrest => rw [ih hrest]
  | undefined hname _ ih =>
      cases hy with
      | undefined _ hrest => rw [ih hrest]
      | defined hd _ _ => exact absurd rfl (hname _ hd)
  | @defined d rest value out hd _ _ ihvalue ih =>
      generalize hname : d.name = name at hy
      cases hy with
      | undefined hundefined _ => exact absurd hname (hundefined d hd)
      | defined hother hvalue hrest =>
          obtain rfl := List.inj_on_of_nodup_map hnodup hd hother hname
          rw [ihvalue hvalue, ih hrest]

/-- A text that refers to no defined name is its own expansion. -/
theorem Expands.self {t : Text} (ht : IsWellFormed t)
    (h : ∀ d ∈ definitions, d.name ∉ references t) : Expands definitions (parts t) t := by
  induction t, ht using IsWellFormed.induction with
  | nil => exact .nil
  | char c t hc _ ih =>
      rw [references_cons hc] at h
      rw [parts_cons hc]
      exact (ih h).char
  | reference name t hname _ ih =>
      rw [references_reference_append hname] at h
      rw [parts_reference_append hname]
      refine (ih fun d hd hmem => h d hd (List.mem_cons_of_mem _ hmem)).undefined ?_
      rintro d hd rfl
      exact h d hd List.mem_cons_self

end Expands

/-! ### Expanding one variable after the other -/

/-- Variables whose values are on the way to the expansion of their definitions: each refers only to
what its definition leads to, and to no name at or in front of its own. -/
structure Settled (definitions entries : List Variable) : Prop where
  isName : ∀ v ∈ entries, Variable.IsName v.name
  wellFormed : ∀ v ∈ entries, IsWellFormed v.value
  reaches : ∀ v ∈ entries, ∀ other ∈ references v.value,
    Relation.TransGen (RefersTo definitions) v.name other
  forward : entries.Pairwise fun earlier later => earlier.name ∉ references later.value
  expands : ∀ v ∈ entries, ∃ d ∈ definitions, d.name = v.name ∧
    ∀ out, Expands definitions (parts v.value) out → Expands definitions (parts d.value) out

theorem isWellFormed_expand {v : Variable} (hname : Variable.IsName v.name)
    (hvalue : IsWellFormed v.value) {t : Text} (ht : IsWellFormed t) :
    IsWellFormed (VariableTable.expand t v) := by
  rw [expand_eq_substitute hname ht]
  exact ht.substitute (of_only hvalue)

theorem mem_references_expand {v : Variable} (hname : Variable.IsName v.name)
    (hvalue : IsWellFormed v.value) {t other : Text} (ht : IsWellFormed t)
    (h : other ∈ references (VariableTable.expand t v)) :
    (other ∈ references t ∧ other ≠ v.name) ∨
      (v.name ∈ references t ∧ other ∈ references v.value) := by
  rw [expand_eq_substitute hname ht, mem_references_substitute_iff (of_only hvalue) ht] at h
  rcases h with ⟨hother, hnone⟩ | ⟨name, hmem, value, hfound, hother⟩
  · refine Or.inl ⟨hother, fun heq => ?_⟩
    rw [Environment.only, if_pos heq] at hnone
    cases hnone
  · rw [Option.mem_def, Environment.only] at hfound
    split at hfound
    · rename_i heq
      rw [← heq, Option.some.inj hfound]
      exact Or.inr ⟨hmem, hother⟩
    · cases hfound

section Settled

variable {definitions : List Variable}

theorem Expands.of_expand {v : Variable} (hname : Variable.IsName v.name)
    (hvalue : IsWellFormed v.value)
    (hv : ∃ d ∈ definitions, d.name = v.name ∧
      ∀ out, Expands definitions (parts v.value) out → Expands definitions (parts d.value) out)
    {t out : Text} (ht : IsWellFormed t)
    (h : Expands definitions (parts (VariableTable.expand t v)) out) :
    Expands definitions (parts t) out := by
  obtain ⟨d, hd, hdname, hexpands⟩ := hv
  rw [expand_eq_substitute hname ht, parts_substitute (of_only hvalue) ht] at h
  generalize parts t = text at h
  induction text generalizing out with
  | nil => exact h
  | cons part text ih =>
      rw [List.flatMap_cons] at h
      obtain ⟨x, y, rfl, hx, hy⟩ := h.exists_of_append
      have hpart : Expands definitions [part] x → Expands definitions (part :: text) (x ++ y) :=
        fun hx => hx.append (ih hy)
      apply hpart
      cases part with
      | char c => exact hx
      | reference name =>
          rw [Part.partsIn, Environment.only] at hx
          split at hx
          · rename_i heq
            have hwhole := Expands.defined hd (hexpands x hx) .nil
            rw [List.append_nil, hdname] at hwhole
            rw [heq]
            exact hwhole
          · exact hx

variable {entries : List Variable}

theorem Settled.of_cons {v : Variable} (h : Settled definitions (v :: entries)) :
    Settled definitions entries where
  isName w hw := h.isName w (List.mem_cons_of_mem _ hw)
  wellFormed w hw := h.wellFormed w (List.mem_cons_of_mem _ hw)
  reaches w hw := h.reaches w (List.mem_cons_of_mem _ hw)
  forward := (List.pairwise_cons.1 h.forward).2
  expands w hw := h.expands w (List.mem_cons_of_mem _ hw)

variable {t : Text}

theorem Settled.isWellFormed_resolve (h : Settled definitions entries) (ht : IsWellFormed t) :
    IsWellFormed (entries.foldl VariableTable.expand t) := by
  induction entries generalizing t with
  | nil => exact ht
  | cons v entries ih =>
      have hv := isWellFormed_expand (h.isName v List.mem_cons_self)
        (h.wellFormed v List.mem_cons_self) ht
      exact ih h.of_cons hv

theorem Settled.expands_of_resolve (h : Settled definitions entries) (ht : IsWellFormed t)
    {out : Text} (hout : Expands definitions (parts (entries.foldl VariableTable.expand t)) out) :
    Expands definitions (parts t) out := by
  induction entries generalizing t with
  | nil => exact hout
  | cons v entries ih =>
      have hname := h.isName v List.mem_cons_self
      have hvalue := h.wellFormed v List.mem_cons_self
      have hexpand := ih h.of_cons (isWellFormed_expand hname hvalue ht) hout
      exact hexpand.of_expand hname hvalue (h.expands v List.mem_cons_self) ht

theorem Settled.reaches_of_resolve (h : Settled definitions entries) (ht : IsWellFormed t)
    {other : Text} (hother : other ∈ references (entries.foldl VariableTable.expand t)) :
    ∃ name ∈ references t, Relation.ReflTransGen (RefersTo definitions) name other := by
  induction entries generalizing t with
  | nil => exact ⟨other, hother, .refl⟩
  | cons v entries ih =>
      have hname := h.isName v List.mem_cons_self
      have hvalue := h.wellFormed v List.mem_cons_self
      obtain ⟨name, hmem, hpath⟩ := ih h.of_cons (isWellFormed_expand hname hvalue ht) hother
      rcases mem_references_expand hname hvalue ht hmem with ⟨hmem, -⟩ | ⟨hv, hmem⟩
      · exact ⟨name, hmem, hpath⟩
      · have hstep := h.reaches v List.mem_cons_self name hmem
        exact ⟨v.name, hv, hstep.to_reflTransGen.trans hpath⟩

/-- A name that nothing brings in stays away. -/
theorem Settled.not_mem_references_resolve (h : Settled definitions entries) (ht : IsWellFormed t)
    {name : Text} (hnot : name ∉ references t)
    (hvalues : ∀ v ∈ entries, name ∉ references v.value) :
    name ∉ references (entries.foldl VariableTable.expand t) := by
  induction entries generalizing t with
  | nil => exact hnot
  | cons v entries ih =>
      have hname := h.isName v List.mem_cons_self
      have hvalue := h.wellFormed v List.mem_cons_self
      refine ih h.of_cons (isWellFormed_expand hname hvalue ht) ?_ fun w hw =>
        hvalues w (List.mem_cons_of_mem _ hw)
      intro hmem
      rcases mem_references_expand hname hvalue ht hmem with ⟨hmem, -⟩ | ⟨-, hmem⟩
      · exact hnot hmem
      · exact hvalues v List.mem_cons_self hmem

variable (hacyclic : ∀ name, ¬Relation.TransGen (RefersTo definitions) name name)
include hacyclic

/-- The sweep leaves no reference to a variable that it has passed. -/
theorem Settled.name_not_mem_references_resolve (h : Settled definitions entries)
    (ht : IsWellFormed t) :
    ∀ v ∈ entries, v.name ∉ references (entries.foldl VariableTable.expand t) := by
  induction entries generalizing t with
  | nil =>
      intro v hv
      cases hv
  | cons v entries ih =>
      have hname := h.isName v List.mem_cons_self
      have hvalue := h.wellFormed v List.mem_cons_self
      have hexpand := isWellFormed_expand hname hvalue ht
      intro w hw
      rcases List.mem_cons.1 hw with rfl | hw
      · refine h.of_cons.not_mem_references_resolve hexpand ?_ (List.pairwise_cons.1 h.forward).1
        intro hmem
        rcases mem_references_expand hname hvalue ht hmem with ⟨-, hne⟩ | ⟨-, hmem⟩
        · exact hne rfl
        · exact hacyclic _ (h.reaches _ List.mem_cons_self _ hmem)
      · exact ih h.of_cons hexpand w hw

/-- The step: one more definition, whose value refers to no name in front of it. -/
theorem Settled.append (h : Settled definitions entries) {d : Variable} (hd : d ∈ definitions)
    (hname : Variable.IsName d.name) (hvalue : IsWellFormed d.value) :
    Settled definitions (entries ++ [⟨d.name, entries.foldl VariableTable.expand d.value⟩]) := by
  have hnames := h.name_not_mem_references_resolve hacyclic hvalue
  constructor
  · intro v hv
    rcases List.mem_append.1 hv with hv | hv
    · exact h.isName v hv
    · rw [List.mem_singleton.1 hv]
      exact hname
  · intro v hv
    rcases List.mem_append.1 hv with hv | hv
    · exact h.wellFormed v hv
    · rw [List.mem_singleton.1 hv]
      exact h.isWellFormed_resolve hvalue
  · intro v hv
    rcases List.mem_append.1 hv with hv | hv
    · exact h.reaches v hv
    · rw [List.mem_singleton.1 hv]
      intro other hother
      obtain ⟨name, hmem, hpath⟩ := h.reaches_of_resolve hvalue hother
      exact .head' ⟨d, hd, rfl, hmem⟩ hpath
  · rw [List.pairwise_append]
    refine ⟨h.forward, List.pairwise_singleton _ _, ?_⟩
    intro v hv w hw
    rw [List.mem_singleton.1 hw]
    exact hnames v hv
  · intro v hv
    rcases List.mem_append.1 hv with hv | hv
    · exact h.expands v hv
    · rw [List.mem_singleton.1 hv]
      exact ⟨d, hd, rfl, fun out hout => h.expands_of_resolve hvalue hout⟩

end Settled

/-! ### Defining one variable after the other -/

theorem settled_defineAll {definitions order : List Variable} (h : IsAcyclic definitions)
    (horder : ∀ d ∈ order, d ∈ definitions) (hnodup : (order.map (·.name)).Nodup) :
    Settled definitions (VariableTable.defineAll order).entries ∧
      (VariableTable.defineAll order).entries.map (·.name) = order.map (·.name) := by
  induction order using List.reverseRecOn with
  | nil =>
      refine ⟨⟨?_, ?_, ?_, List.Pairwise.nil, ?_⟩, rfl⟩ <;>
      · intro v hv
        cases hv
  | append_singleton order d ih =>
      rw [List.map_append, List.map_singleton, List.nodup_append] at hnodup
      obtain ⟨hbefore, -, hnew⟩ := hnodup
      obtain ⟨hsettled, hnames⟩ := ih (fun e he => horder e (List.mem_append_left _ he)) hbefore
      have hd := horder d (List.mem_append_right _ List.mem_cons_self)
      have hfresh : d.name ∉ (VariableTable.defineAll order).entries.map (·.name) := by
        rw [hnames]
        exact fun hmem => hnew _ hmem _ List.mem_cons_self rfl
      have hentries : (VariableTable.defineAll (order ++ [d])).entries =
          (VariableTable.defineAll order).entries ++
            [⟨d.name, (VariableTable.defineAll order).resolve d.value⟩] := by
        rw [VariableTable.defineAll_concat]
        exact VariableTable.put_of_not_mem hfresh
      rw [hentries]
      refine ⟨hsettled.append h.noCycle hd (h.isName d hd) (h.wellFormed d hd), ?_⟩
      rw [List.map_append, hnames, List.map_append]
      rfl

/-- **The order of definitions does not matter.** Acyclic definitions give a well-formed text one
complete expansion, which refers to no defined name. To resolve the text gives it, in whatever order
the variables have been defined. -/
theorem resolve_defineAll_of_isAcyclic {definitions : List Variable} {text : Text}
    (hdefinitions : IsAcyclic definitions) (htext : IsWellFormed text) :
    ∃ expansion, (∀ out, Expands definitions (parts text) out ↔ out = expansion) ∧
      (∀ d ∈ definitions, expansion.contains (Variable.reference d.name) = false) ∧
      ∀ order, order.Perm definitions → (VariableTable.defineAll order).resolve text = expansion := by
  have hresolve : ∀ order, order.Perm definitions →
      IsWellFormed ((VariableTable.defineAll order).resolve text) ∧
        (∀ d ∈ definitions, d.name ∉ references ((VariableTable.defineAll order).resolve text)) ∧
        Expands definitions (parts text) ((VariableTable.defineAll order).resolve text) := by
    intro order horder
    have hnodup := (horder.map (·.name)).nodup_iff.2 hdefinitions.nodup
    obtain ⟨hsettled, hnames⟩ := settled_defineAll hdefinitions (fun d => horder.mem_iff.1) hnodup
    have hwellFormed := hsettled.isWellFormed_resolve htext
    have hnone : ∀ d ∈ definitions,
        d.name ∉ references ((VariableTable.defineAll order).resolve text) := by
      intro d hd
      have hmem := List.mem_map_of_mem (f := (·.name)) (horder.mem_iff.2 hd)
      rw [← hnames] at hmem
      obtain ⟨v, hv, hname⟩ := List.mem_map.1 hmem
      rw [← hname]
      exact hsettled.name_not_mem_references_resolve hdefinitions.noCycle htext v hv
    exact ⟨hwellFormed, hnone, hsettled.expands_of_resolve htext (Expands.self hwellFormed hnone)⟩
  obtain ⟨hwellFormed, hnone, hexpands⟩ := hresolve definitions (List.Perm.refl _)
  refine ⟨(VariableTable.defineAll definitions).resolve text, ?_, ?_, ?_⟩
  · intro out
    constructor
    · intro hout
      exact hout.unique hdefinitions.nodup hexpands
    · rintro rfl
      exact hexpands
  · intro d hd
    rw [← Bool.not_eq_true, contains_reference_iff hwellFormed (hdefinitions.isName d hd)]
    exact hnone d hd
  · intro order horder
    exact (hresolve order horder).2.2.unique hdefinitions.nodup hexpands

/-- Definitions that refer forward, backward and to a name that is never defined. -/
def forwardAndBack : List Variable :=
  [⟨['a'], 'x' :: Variable.reference ['b'] ++ Variable.reference ['n']⟩, ⟨['c'], ['%', 'z']⟩,
    ⟨['b'], Variable.reference ['c'] ++ Variable.reference ['c']⟩]

theorem resolve_defineAll_forwardAndBack :
    IsAcyclic forwardAndBack ∧ IsWellFormed (Variable.reference ['a'] ++ ['\x7d']) ∧
      ∀ order, order.Perm forwardAndBack →
        (VariableTable.defineAll order).resolve (Variable.reference ['a'] ++ ['\x7d']) =
          "x%z%z".toList ++ Variable.reference ['n'] ++ ['\x7d'] := by
  have hrank : ∀ d ∈ forwardAndBack, ∀ other ∈ references d.value,
      [['n'], ['c'], ['b'], ['a']].idxOf other < [['n'], ['c'], ['b'], ['a']].idxOf d.name := by
    decide
  have hdefinitions : IsAcyclic forwardAndBack :=
    ⟨by decide, by decide, by decide, noCycle_of_rank _ hrank⟩
  have htext : IsWellFormed (Variable.reference ['a'] ++ ['\x7d']) := by decide
  obtain ⟨expansion, -, -, hresolve⟩ := resolve_defineAll_of_isAcyclic hdefinitions htext
  refine ⟨hdefinitions, htext, ?_⟩
  intro order horder
  rw [hresolve order horder, ← hresolve forwardAndBack (List.Perm.refl _)]
  decide

end Reference

end Sweep
