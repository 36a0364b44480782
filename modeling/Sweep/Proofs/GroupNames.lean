import Sweep.Regex.Parser
import Mathlib.Data.List.Nodup

/-!
The groups of a regular expression that has been read: their names are names, no two of them are the
same, and each stands for a group that is there.
-/

namespace Sweep.Regex

/-! ### Names -/

/-- A name that a group may have: a letter or an underscore, then what may follow in a name. -/
def IsGroupName (name : Text) : Prop :=
  ∃ c rest, name = c :: rest ∧ isGroupNameStart c = true ∧ ∀ d ∈ rest, isGroupNameChar d = true

theorem isGroupName_of_readGroupName {t name left : Text}
    (h : readGroupName t = some (name, left)) : IsGroupName name := by
  unfold readGroupName at h
  split at h
  · split at h
    · rename_i c rest _ _ _ _ hname
      obtain ⟨rfl, -⟩ := Prod.mk.inj (Option.some.inj h)
      rw [Bool.and_eq_true, List.all_eq_true] at hname
      exact ⟨c, rest, rfl, hname.1, hname.2⟩
    · cases h
  · cases h

theorem isGroupNameStart_of_isDigit {c : Char} (h : c.isDigit = true) :
    isGroupNameStart c = false := by
  have hdigit : ∀ n < 58, 48 ≤ n → isGroupNameStart (Char.ofNat n) = false := by decide
  have hc : 48 ≤ c.toNat ∧ c.toNat ≤ 57 := by
    simpa [Char.isDigit, UInt32.le_iff_toNat_le] using h
  rw [← Char.ofNat_toNat c]
  exact hdigit c.toNat (by omega) hc.1

/-- A name is not taken for a number. -/
theorem IsGroupName.not_all_isDigit {name : Text} (h : IsGroupName name) :
    ¬ ∀ c ∈ name, c.isDigit = true := by
  obtain ⟨c, rest, rfl, hc, -⟩ := h
  intro hdigits
  rw [isGroupNameStart_of_isDigit (hdigits c List.mem_cons_self)] at hc
  exact Bool.false_ne_true hc

theorem IsGroupName.brace_not_mem {name : Text} (h : IsGroupName name) : '\x7d' ∉ name := by
  obtain ⟨c, rest, rfl, hc, hrest⟩ := h
  rw [List.mem_cons, not_or]
  constructor
  · rintro rfl
    exact absurd hc (by decide)
  · intro hmem
    exact absurd (hrest _ hmem) (by decide)

/-! ### Reading -/

/-- What every round keeps, the last one hands to the result. -/
theorem of_iterate {σ α : Type} {step : σ → Text → Option (Progress σ α)} {P : σ → Prop}
    {Q : α → Prop}
    (hmore : ∀ {state t next left}, P state → step state t = some (.more next left) → P next)
    (hdone : ∀ {state t result left}, P state → step state t = some (.done result left) → Q result)
    {fuel : Nat} {state : σ} {t : Text} {result : α} {left : Text} (hstate : P state)
    (h : iterate step fuel state t = some (result, left)) : Q result := by
  induction fuel generalizing state t with
  | zero => cases h
  | succ fuel ih =>
    rw [iterate] at h
    split at h
    · cases h
    · rename_i hstep
      exact ih (hmore hstate hstep) h
    · rename_i hstep
      obtain ⟨rfl, -⟩ := Prod.mk.inj (Option.some.inj h)
      exact hdone hstate hstep

namespace Reading

/-- The names after a step: those before, or one more that is new. -/
def NamesAfter (r next : Reading) : Prop :=
  next.names = r.names ∨
    ∃ name, IsGroupName name ∧ name ∉ r.names.map Prod.fst ∧
      next.names = (name, r.groups + 1) :: r.names

variable {r next : Reading} {t left : Text}

theorem names_leave? (h : r.leave? = some next) : next.names = r.names := by
  unfold leave? at h
  split at h
  · cases h
  · rw [← Option.some.inj h]
    rfl

theorem names_repeatLast? {min : Nat} {max : Option Nat} {lazy : Bool}
    (h : r.repeatLast? min max lazy = some next) : next.names = r.names := by
  unfold repeatLast? at h
  split at h
  · rw [← Option.some.inj h]
  · cases h

theorem names_readRepetition {min : Nat} {max : Option Nat}
    (h : r.readRepetition min max t = some (next, left)) : next.names = r.names := by
  unfold readRepetition at h
  split at h
  all_goals
    obtain ⟨repeated, hrepeated, heq⟩ := Option.map_eq_some_iff.1 h
    obtain ⟨rfl, -⟩ := Prod.mk.inj heq
    exact names_repeatLast? hrepeated

theorem names_readPrimitive (h : r.readPrimitive t = some (next, left)) :
    next.names = r.names := by
  unfold readPrimitive at h
  extract_lets read at h
  clear_value read
  split at h
  · obtain ⟨node, -, heq⟩ := Option.map_eq_some_iff.1 h
    obtain ⟨rfl, -⟩ := Prod.mk.inj heq
    rfl
  · cases h

theorem namesAfter_readGroup (h : r.readGroup t = some (next, left)) : r.NamesAfter next := by
  unfold readGroup at h
  extract_lets named at h
  have hnamed : ∀ t, named t = some (next, left) → r.NamesAfter next := by
    intro t h
    unfold named at h
    split at h
    · rename_i name _ hname
      split at h
      · cases h
      · rename_i hnew
        obtain ⟨rfl, -⟩ := Prod.mk.inj (Option.some.inj h)
        exact .inr ⟨name, isGroupName_of_readGroupName hname, by simpa using hnew, rfl⟩
    · cases h
  split at h
  any_goals exact hnamed _ h
  any_goals cases h; done
  · split at h
    · cases h
      exact .inl rfl
    · cases h
      exact .inl rfl
    · cases h
  · cases h
    exact .inl rfl

theorem namesAfter_step (h : r.step t = some (.more next left)) : r.NamesAfter next := by
  unfold step at h
  extract_lets more at h
  have hmore : ∀ read, more read = some (.more next left) → read = some (next, left) := by
    intro read h
    obtain ⟨⟨r, t⟩, rfl, heq⟩ := Option.map_eq_some_iff.1 h
    cases heq
    rfl
  split at h
  · split at h <;> cases h
  · exact namesAfter_readGroup (hmore _ h)
  · obtain ⟨left?, hleave, heq⟩ := Option.map_eq_some_iff.1 (hmore _ h)
    cases heq
    exact .inl (names_leave? hleave)
  · cases h
    exact .inl rfl
  · split at h <;> cases h
    exact .inl rfl
  · exact .inl (names_readRepetition (hmore _ h))
  · exact .inl (names_readRepetition (hmore _ h))
  · exact .inl (names_readRepetition (hmore _ h))
  · split at h
    · exact .inl (names_readRepetition (hmore _ h))
    · cases h
  · exact .inl (names_readPrimitive (hmore _ h))

theorem eq_of_step_eq_done (h : r.step t = some (.done next left)) : next = r := by
  unfold step at h
  extract_lets more at h
  have hmore : ∀ read, more read ≠ some (.done next left) := by
    intro read h
    obtain ⟨_, -, heq⟩ := Option.map_eq_some_iff.1 h
    cases heq
  split at h
  case h_1 =>
    split at h <;> cases h
    rfl
  case h_4 => cases h
  case h_5 => split at h <;> cases h
  case h_9 =>
    split at h
    · exact absurd h (hmore _)
    · cases h
  all_goals exact absurd h (hmore _)

end Reading

/-! ### The expression read -/

/-- The names of groups are names, and no two are the same. -/
structure AreGroupNames (names : List (Text × Nat)) : Prop where
  isGroupName : ∀ entry ∈ names, IsGroupName entry.1
  nodup : (names.map Prod.fst).Nodup

theorem Reading.areGroupNames_step {r next : Reading} {t left : Text}
    (hnames : AreGroupNames r.names) (h : r.step t = some (.more next left)) :
    AreGroupNames next.names := by
  obtain heq | ⟨name, hname, hnew, heq⟩ := namesAfter_step h
  · rwa [heq]
  · rw [heq]
    refine ⟨?_, ?_⟩
    · rintro entry (_ | ⟨_, hentry⟩)
      · exact hname
      · exact hnames.isGroupName entry hentry
    · rw [List.map_cons, List.nodup_cons]
      exact ⟨hnew, hnames.nodup⟩

theorem lt_foldl_groups {groups : List Nat} {n index : Nat} (h : index ∈ groups ∨ index < n) :
    index < groups.foldl (fun n index => max n (index + 1)) n := by
  induction groups generalizing n with
  | nil => exact h.resolve_left List.not_mem_nil
  | cons group groups ih =>
    rw [List.foldl_cons]
    apply ih
    obtain h | h := h
    · obtain rfl | h := List.mem_cons.1 h
      · exact .inr (by omega)
      · exact .inl h
    · exact .inr (by omega)

/-- The groups of an expression: a name stands for one group, and that group is there. -/
structure HasGroups (r : Regex) : Prop where
  areGroupNames : AreGroupNames r.names
  groupCount_pos : 0 < r.groupCount
  index_lt : ∀ entry ∈ r.names, entry.2 < r.groupCount

theorem hasGroups_ofNode {node : Node} {names : List (Text × Nat)} (h : AreGroupNames names) :
    (ofNode node names).HasGroups where
  areGroupNames := by
    refine ⟨?_, ?_⟩
    · intro entry hentry
      exact h.isGroupName entry (List.mem_of_mem_filter hentry)
    · exact h.nodup.sublist (List.filter_sublist.map Prod.fst)
  groupCount_pos := lt_foldl_groups (.inr Nat.zero_lt_one)
  index_lt := by
    intro entry hentry
    have hindex := List.contains_iff_mem.1 (List.mem_filter.1 hentry).2
    exact lt_foldl_groups (.inl hindex)

/-- Every expression that can be read has its groups. -/
theorem hasGroups_of_parse? {t : Text} {r : Regex} (h : parse? t = some r) : r.HasGroups := by
  unfold parse? at h
  split at h
  · rename_i last _ hread
    have hstart : AreGroupNames ({} : Reading).names :=
      ⟨fun _ hentry => absurd hentry List.not_mem_nil, List.nodup_nil⟩
    have hlast : AreGroupNames last.names :=
      of_iterate (P := fun r : Reading => AreGroupNames r.names)
        (Q := fun r : Reading => AreGroupNames r.names) Reading.areGroupNames_step
        (fun hr hstep => Reading.eq_of_step_eq_done hstep ▸ hr) hstart hread
    extract_lets item at h
    split at h
    · rw [← Option.some.inj h]
      exact hasGroups_ofNode hlast
    · cases h
  · cases h

end Sweep.Regex
