import Mathlib.Data.List.Induction
import Mathlib.Data.List.Nodup
import Sweep.Proofs.Replace
import Sweep.Script.Variables

/-!
# Tables of variables

What a definition leaves at each name and in each place, and which characters a resolved text may
hold. A table takes any names and values: it keeps them in the order in which the names came up, and
goes through them in that order, whatever is defined again.
-/

namespace Sweep.VariableTable

theorem get?_put (name value : Text) (entries : List Variable) (other : Text) :
    get? ⟨put name value entries⟩ other =
      if other = name then some value else get? ⟨entries⟩ other := by
  unfold get?
  induction entries with
  | nil =>
      rw [put, List.find?_cons]
      by_cases heq : other = name
      · rw [if_pos heq, heq, beq_self_eq_true]
        rfl
      · rw [if_neg heq, beq_false_of_ne (Ne.symm heq)]
  | cons v entries ih =>
      rw [put]
      by_cases hv : v.name = name
      · rw [if_pos hv, List.find?_cons, List.find?_cons, hv]
        by_cases heq : other = name
        · rw [if_pos heq, heq, beq_self_eq_true]
          rfl
        · rw [if_neg heq, beq_false_of_ne (Ne.symm heq)]
      · rw [if_neg hv, List.find?_cons, List.find?_cons]
        by_cases heq : other = v.name
        · rw [heq, beq_self_eq_true, if_neg hv]
        · rw [beq_false_of_ne (Ne.symm heq)]
          exact ih

theorem get?_define (table : VariableTable) (name value other : Text) :
    (table.define name value).get? other =
      if other = name then some (table.resolve value) else table.get? other :=
  get?_put name (table.resolve value) table.entries other

theorem exists_of_get? {table : VariableTable} {name value : Text}
    (h : table.get? name = some value) : ∃ v ∈ table.entries, v.name = name ∧ v.value = value := by
  obtain ⟨v, hv, hvalue⟩ := Option.map_eq_some_iff.1 h
  exact ⟨v, List.mem_of_find?_eq_some hv, by simpa using List.find?_some hv, hvalue⟩

theorem mem_put {name value : Text} {entries : List Variable} {v : Variable}
    (h : v ∈ put name value entries) : v = ⟨name, value⟩ ∨ v ∈ entries := by
  induction entries with
  | nil => exact Or.inl (List.mem_singleton.1 h)
  | cons w entries ih =>
      rw [put] at h
      split at h
      · rcases List.mem_cons.1 h with rfl | h
        · exact Or.inl rfl
        · exact Or.inr (List.mem_cons_of_mem _ h)
      · rcases List.mem_cons.1 h with rfl | h
        · exact Or.inr List.mem_cons_self
        · exact (ih h).imp_right (List.mem_cons_of_mem _)

theorem put_of_not_mem {name value : Text} {entries : List Variable}
    (h : name ∉ entries.map (·.name)) : put name value entries = entries ++ [⟨name, value⟩] := by
  induction entries with
  | nil => rfl
  | cons v entries ih =>
      rw [List.map_cons, List.mem_cons, not_or] at h
      rw [put, if_neg (Ne.symm h.1), ih h.2]
      rfl

/-- A name that is there keeps the names as they are, a new one comes to the end. -/
theorem map_name_put (name value : Text) (entries : List Variable) :
    (put name value entries).map (·.name) =
      if name ∈ entries.map (·.name) then entries.map (·.name)
      else entries.map (·.name) ++ [name] := by
  by_cases h : name ∈ entries.map (·.name)
  · rw [if_pos h]
    induction entries with
    | nil => cases h
    | cons v entries ih =>
        rw [put]
        split
        · rename_i hv
          rw [List.map_cons, List.map_cons, hv]
        · rename_i hv
          have hrest := (List.mem_cons.1 h).resolve_left (Ne.symm hv)
          rw [List.map_cons, List.map_cons, ih hrest]
  · rw [if_neg h, put_of_not_mem h, List.map_append, List.map_singleton]

theorem nodup_put {entries : List Variable} (h : (entries.map (·.name)).Nodup)
    (name value : Text) : ((put name value entries).map (·.name)).Nodup := by
  rw [map_name_put]
  split
  · exact h
  · rename_i hnew
    exact List.nodup_append.2 ⟨h, List.nodup_singleton name, fun a ha b hb => by
      rintro rfl
      exact hnew (List.mem_singleton.1 hb ▸ ha)⟩

/-- Variables of other names stay in their places. -/
theorem getElem?_put_iff {name value : Text} {v : Variable} (hv : v.name ≠ name)
    (entries : List Variable) (i : Nat) :
    (put name value entries)[i]? = some v ↔ entries[i]? = some v := by
  induction entries generalizing i with
  | nil =>
      cases i with
      | zero =>
          simp only [put, List.getElem?_cons_zero, List.getElem?_nil, Option.some.injEq]
          exact iff_of_false (fun h => hv (by rw [← h])) nofun
      | succ i => rfl
  | cons w entries ih =>
      rw [put]
      split
      · rename_i hw
        cases i with
        | zero =>
            simp only [List.getElem?_cons_zero, Option.some.injEq]
            exact iff_of_false (fun h => hv (by rw [← h])) fun h => hv (h ▸ hw)
        | succ i => rfl
      · cases i with
        | zero => rfl
        | succ i => exact ih i

theorem getElem?_put_findIdx (name value : Text) (entries : List Variable) :
    (put name value entries)[entries.findIdx (·.name == name)]? = some ⟨name, value⟩ := by
  induction entries with
  | nil => rfl
  | cons v entries ih =>
      rw [put, List.findIdx_cons]
      by_cases hv : v.name = name
      · rw [if_pos hv, hv, beq_self_eq_true]
        rfl
      · rw [if_neg hv, beq_false_of_ne hv]
        exact ih

/-- An assignment gives its text, resolved against the table of before. -/
theorem assigned?_eq (table : VariableTable) (name value : Text) :
    table.assigned? name value = some (table.resolve value) := by
  have hput := getElem?_put_findIdx name (table.resolve value) table.entries
  rw [assigned?, define, place, hput, Option.map_some]

theorem get?_eq_none_iff {table : VariableTable} {name : Text} :
    table.get? name = none ↔ name ∉ table.entries.map (·.name) := by
  rw [get?, Option.map_eq_none_iff, List.find?_eq_none, List.mem_map]
  simp

theorem expand_eq_self {t : Text} {v : Variable}
    (h : t.contains (Variable.reference v.name) = false) : expand t v = t := by
  rw [← Bool.not_eq_true, Text.contains_eq_true_iff] at h
  rw [expand, Text.replaceAll, if_neg (by simp [Variable.reference])]
  exact Text.replaceFrom_eq_self h

theorem resolve_eq_self {table : VariableTable} {t : Text}
    (h : ∀ v ∈ table.entries, t.contains (Variable.reference v.name) = false) :
    table.resolve t = t := by
  obtain ⟨entries⟩ := table
  rw [resolve]
  induction entries with
  | nil => rfl
  | cons v entries ih =>
      rw [List.foldl_cons, expand_eq_self (h v List.mem_cons_self)]
      exact ih fun w hw => h w (List.mem_cons_of_mem v hw)

theorem mem_resolve {table : VariableTable} {t : Text} {c : Char} (h : c ∈ table.resolve t) :
    c ∈ t ∨ ∃ v ∈ table.entries, c ∈ v.value := by
  obtain ⟨entries⟩ := table
  rw [resolve] at h
  induction entries generalizing t with
  | nil => exact Or.inl h
  | cons v entries ih =>
      rcases ih h with h | ⟨w, hw, hc⟩
      · rcases Text.mem_replaceAll h with h | h
        · exact Or.inl h
        · exact Or.inr ⟨v, List.mem_cons_self, h⟩
      · exact Or.inr ⟨w, List.mem_cons_of_mem _ hw, hc⟩

/-! ### Defining one variable after the other -/

def defineAll (definitions : List Variable) : VariableTable :=
  definitions.foldl (fun table d => table.define d.name d.value) {}

theorem defineAll_concat (definitions : List Variable) (d : Variable) :
    defineAll (definitions ++ [d]) = (defineAll definitions).define d.name d.value :=
  List.foldl_append

theorem eraseDups_concat {α : Type} [BEq α] [LawfulBEq α] (l : List α) (a : α) :
    (l ++ [a]).eraseDups = if a ∈ l then l.eraseDups else l.eraseDups ++ [a] := by
  rw [List.eraseDups_append, List.removeAll, List.filter_cons, List.filter_nil]
  by_cases h : a ∈ l
  · simp [h]
  · rw [if_neg h, if_pos (by simpa using h), List.eraseDups_cons]
    rfl

theorem nodup_defineAll (definitions : List Variable) :
    ((defineAll definitions).entries.map (·.name)).Nodup := by
  induction definitions using List.reverseRecOn with
  | nil => exact List.nodup_nil
  | append_singleton definitions d ih =>
      rw [defineAll_concat]
      exact nodup_put ih _ _

/-- The names stand in the order in which they are defined first. -/
theorem map_name_defineAll (definitions : List Variable) :
    (defineAll definitions).entries.map (·.name) = (definitions.map (·.name)).eraseDups := by
  induction definitions using List.reverseRecOn with
  | nil => rfl
  | append_singleton definitions d ih =>
      rw [defineAll_concat, define, map_name_put, ih, List.map_append, List.map_singleton,
        eraseDups_concat]
      simp only [List.mem_eraseDups]

theorem get?_foldl_define_of_not_mem {name : Text} {definitions : List Variable}
    (h : name ∉ definitions.map (·.name)) (table : VariableTable) :
    (definitions.foldl (fun table d => table.define d.name d.value) table).get? name =
      table.get? name := by
  induction definitions generalizing table with
  | nil => rfl
  | cons d definitions ih =>
      rw [List.map_cons, List.mem_cons, not_or] at h
      rw [List.foldl_cons, ih h.2, get?_define, if_neg h.1]

/-- **A name keeps the place of its first definition and the value of its last.** Whatever is
defined, the names of the table are the defined ones in the order of their first definitions, each
of them once. A name has the value that its last definition gave, which is its text resolved against
the table just before. A definition neither moves nor changes any other variable. A text without a
reference to a variable of the table is resolved to itself. -/
theorem defineAll_keeps_places (definitions : List Variable) :
    ((defineAll definitions).entries.map (·.name)).Nodup ∧
    (defineAll definitions).entries.map (·.name) = (definitions.map (·.name)).eraseDups ∧
    (∀ before name value after, definitions = before ++ ⟨name, value⟩ :: after →
      name ∉ after.map (·.name) →
        (defineAll definitions).get? name = (defineAll before).assigned? name value ∧
        (defineAll before).assigned? name value = some ((defineAll before).resolve value)) ∧
    (∀ name, (defineAll definitions).get? name = none ↔ name ∉ definitions.map (·.name)) ∧
    (∀ name value (i : Nat) (v : Variable), v.name ≠ name →
      (((defineAll definitions).define name value).entries[i]? = some v ↔
        (defineAll definitions).entries[i]? = some v)) ∧
    ∀ t, (∀ v ∈ (defineAll definitions).entries,
      Text.contains t (Variable.reference v.name) = false) →
        (defineAll definitions).resolve t = t := by
  refine ⟨nodup_defineAll definitions, map_name_defineAll definitions, ?_, fun name => ?_,
    fun name value i v hv => getElem?_put_iff hv _ i, fun t ht => resolve_eq_self ht⟩
  · rintro before name value after rfl hlast
    have hassigned := assigned?_eq (defineAll before) name value
    refine ⟨?_, hassigned⟩
    rw [defineAll, List.foldl_append, List.foldl_cons, get?_foldl_define_of_not_mem hlast,
      get?_define, if_pos rfl, hassigned]
    rfl
  · rw [get?_eq_none_iff, map_name_defineAll, List.mem_eraseDups]

/-- A reference to a later name, an empty name, and a name that is defined again by its own
value. -/
def definedAgain : List Variable :=
  [⟨['a'], 'x' :: Variable.reference ['b']⟩, ⟨[], Variable.reference ['a']⟩, ⟨['b'], ['y']⟩,
    ⟨['a'], Variable.reference ['a'] ++ Variable.reference ['b']⟩]

theorem defineAll_keeps_places_definedAgain :
    (defineAll definedAgain).entries.map (·.name) = [['a'], [], ['b']] ∧
      (defineAll definedAgain).get? ['a'] = some ['x', 'y', 'y'] ∧
      ((defineAll definedAgain).define ['a'] ['z']).entries[1]? =
        some ⟨[], 'x' :: Variable.reference ['b']⟩ ∧
      (defineAll definedAgain).resolve (Variable.reference ['c']) = Variable.reference ['c'] := by
  obtain ⟨-, hnames, hlast, -, hframe, hself⟩ := defineAll_keeps_places definedAgain
  obtain ⟨hget, hassigned⟩ := hlast (definedAgain.take 3) _ _ [] rfl (by decide)
  refine ⟨hnames.trans (by decide), ?_, ?_, hself _ (by decide)⟩
  · rw [hget, hassigned]
    decide
  · exact (hframe ['a'] ['z'] 1 _ (by decide)).2 (by decide)

end Sweep.VariableTable
