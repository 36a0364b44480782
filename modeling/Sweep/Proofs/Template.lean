import Sweep.Proofs.GroupNames
import Sweep.Substitution
import Mathlib.Data.List.TakeWhile

/-!
What a template means, and that its stored form says the same.

A template is read from left to right into characters, dollar signs and references to groups. Its
stored form is read once more when a match is replaced, with another syntax in which a reference to
a group that is not there is dropped without a trace. So the stored form may only hold references to
groups that are there, and no dollar sign but these and the doubled ones.
-/

namespace Sweep.Regex

/-! ### References -/

/-- A reference to a group, without the dollar sign. -/
inductive GroupReference where
  | whole
  | number (digits : Text)
  | named (name : Text)
  deriving DecidableEq, Repr

namespace GroupReference

def written : GroupReference → Text
  | .whole => ['&']
  | .number digits => digits
  | .named name => '<' :: name ++ ['>']

/-- What stands for the group in a stored template. -/
def group : GroupReference → Text
  | .whole => ['0']
  | .number digits => Text.ofNat (decimalNumber digits)
  | .named name => name

end GroupReference

/-- A reference that the expression has a group for, and the group. A number has one or two digits
and is not zero; a name ends at the first closing bracket. -/
inductive Refers (r : Regex) : GroupReference → Nat → Prop
  | whole : r.Refers .whole 0
  | number {digits : Text} (hdigits : ∀ c ∈ digits, c.isDigit = true)
      (hlength : digits.length = 1 ∨ digits.length = 2) (hpos : 1 ≤ decimalNumber digits)
      (hlt : decimalNumber digits < r.groupCount) :
      r.Refers (.number digits) (decimalNumber digits)
  | named {name : Text} {index : Nat} (hmem : (name, index) ∈ r.names) (hend : '>' ∉ name) :
      r.Refers (.named name) index

/-- The longest reference that a text begins with. -/
structure IsLongest (r : Regex) (after : Text) (reference : GroupReference) (index : Nat) :
    Prop where
  refers : r.Refers reference index
  begins : reference.written <+: after
  longest : ∀ other i, r.Refers other i → other.written <+: after →
    other.written.length ≤ reference.written.length

def BeginsNoReference (r : Regex) (after : Text) : Prop :=
  ∀ reference index, r.Refers reference index → ¬ reference.written <+: after

/-! ### Templates -/

inductive TemplatePart where
  | char (c : Char)
  | doubledDollar
  | dollar
  | group (reference : GroupReference) (index : Nat)
  deriving DecidableEq, Repr

namespace TemplatePart

def written : TemplatePart → Text
  | .char c => [c]
  | .doubledDollar => ['$', '$']
  | .dollar => ['$']
  | .group reference _ => '$' :: reference.written

def stored : TemplatePart → Text
  | .char c => [c]
  | .doubledDollar => storedDollar
  | .dollar => storedDollar
  | .group reference _ => storedReference reference.group

/-- What the part becomes for a match in `t`. -/
def value (t : Text) (m : Match) : TemplatePart → Text
  | .char c => [c]
  | .doubledDollar => ['$']
  | .dollar => ['$']
  | .group _ index => groupText t m index

end TemplatePart

/-- Reading a template from left to right. A dollar sign that neither another one nor a reference
follows stands for itself, and reading goes on right behind it. -/
inductive Reads (r : Regex) : Text → List TemplatePart → Prop
  | nil : r.Reads [] []
  | char {c : Char} {rest : Text} {parts : List TemplatePart} (hc : c ≠ '$')
      (hrest : r.Reads rest parts) : r.Reads (c :: rest) (.char c :: parts)
  | doubledDollar {rest : Text} {parts : List TemplatePart} (hrest : r.Reads rest parts) :
      r.Reads ('$' :: '$' :: rest) (.doubledDollar :: parts)
  | group {after rest : Text} {reference : GroupReference} {index : Nat}
      {parts : List TemplatePart} (hreference : r.IsLongest after reference index)
      (hafter : reference.written ++ rest = after) (hrest : r.Reads rest parts) :
      r.Reads ('$' :: after) (.group reference index :: parts)
  | dollar {after : Text} {parts : List TemplatePart} (hdollar : after.head? ≠ some '$')
      (hnone : r.BeginsNoReference after) (hafter : r.Reads after parts) :
      r.Reads ('$' :: after) (.dollar :: parts)

/-- What a stored template may refer to: the number of a group, or the name of one. -/
def IsGroup (r : Regex) (group : Text) : Prop :=
  (∃ index < r.groupCount, group = Text.ofNat index) ∨ group ∈ r.names.map Prod.fst

/-- A stored template, in which every dollar sign is doubled or begins a reference to a group. -/
inductive IsStored (r : Regex) : Text → Prop
  | nil : r.IsStored []
  | char {c : Char} {rest : Text} (hc : c ≠ '$') (hrest : r.IsStored rest) : r.IsStored (c :: rest)
  | dollar {rest : Text} (hrest : r.IsStored rest) : r.IsStored (storedDollar ++ rest)
  | reference {group rest : Text} (hgroup : r.IsGroup group) (hrest : r.IsStored rest) :
      r.IsStored (storedReference group ++ rest)

/-! ### Which reference a text begins with -/

section Begins

variable {r : Regex} {reference other : GroupReference} {index i : Nat} {after : Text}

/-- The first character tells the kind of a reference. -/
theorem Refers.kind {c : Char} {rest : Text} (h : r.Refers reference index)
    (hbegins : reference.written <+: c :: rest) :
    (c = '&' ∧ reference = .whole) ∨
      (c = '<' ∧ ∃ name, reference = .named name ∧ '>' ∉ name ∧ name ++ ['>'] <+: rest) ∨
      (c.isDigit = true ∧ ∃ digits, reference = .number digits) := by
  cases h with
  | whole =>
    rw [GroupReference.written, List.cons_prefix_cons] at hbegins
    exact .inl ⟨hbegins.1.symm, rfl⟩
  | named hmem hend =>
    rw [GroupReference.written, List.cons_append, List.cons_prefix_cons] at hbegins
    exact .inr (.inl ⟨hbegins.1.symm, _, rfl, hend, hbegins.2⟩)
  | @number digits hdigits hlength =>
    cases digits with
    | nil => simp at hlength
    | cons d digits =>
      rw [GroupReference.written, List.cons_prefix_cons] at hbegins
      exact .inr (.inr ⟨hbegins.1 ▸ hdigits d List.mem_cons_self, _, rfl⟩)

theorem Refers.written_ne_nil (h : r.Refers reference index) : reference.written ≠ [] := by
  cases h with
  | whole => exact List.cons_ne_nil '&' []
  | named => exact List.cons_ne_nil '<' _
  | number hdigits hlength =>
    apply List.ne_nil_of_length_pos
    rw [GroupReference.written]
    omega

theorem Refers.not_begins_dollar {rest : Text} (h : r.Refers reference index) :
    ¬ reference.written <+: '$' :: rest := by
  intro hbegins
  obtain ⟨hc, -⟩ | ⟨hc, -⟩ | ⟨hc, -⟩ := h.kind hbegins
  all_goals exact absurd hc (by decide)

theorem Refers.eq_of_written_eq (h : r.Refers reference index) (hother : r.Refers other i)
    (heq : reference.written = other.written) : reference = other := by
  obtain ⟨c, rest, hwritten⟩ := List.exists_cons_of_ne_nil h.written_ne_nil
  have hbegins : reference.written <+: c :: rest := hwritten ▸ List.prefix_rfl
  have hbeginsOther : other.written <+: c :: rest := heq ▸ hbegins
  obtain ⟨rfl, rfl⟩ | ⟨rfl, name, rfl, -⟩ | ⟨hc, digits, rfl⟩ := h.kind hbegins
  · obtain ⟨-, rfl⟩ | ⟨hc, -⟩ | ⟨hc, -⟩ := hother.kind hbeginsOther
    · rfl
    all_goals exact absurd hc (by decide)
  · obtain ⟨hc, -⟩ | ⟨-, name', rfl, -⟩ | ⟨hc, -⟩ := hother.kind hbeginsOther
    · exact absurd hc (by decide)
    · exact congrArg GroupReference.named (List.append_cancel_right (List.cons.inj heq).2)
    · exact absurd hc (by decide)
  · obtain ⟨rfl, -⟩ | ⟨rfl, -⟩ | ⟨-, digits', rfl⟩ := hother.kind hbeginsOther
    · exact absurd hc (by decide)
    · exact absurd hc (by decide)
    · exact congrArg GroupReference.number heq

theorem Refers.index_eq (hr : r.HasGroups) (h : r.Refers reference index)
    (hother : r.Refers reference i) : index = i := by
  cases h with
  | whole => cases hother; rfl
  | number => cases hother; rfl
  | named hmem =>
    cases hother with
    | named hmem' =>
      exact congrArg Prod.snd (List.inj_on_of_nodup_map hr.areGroupNames.nodup hmem hmem' rfl)

theorem IsLongest.unique (hr : r.HasGroups) (h : r.IsLongest after reference index)
    (hother : r.IsLongest after other i) : reference = other ∧ index = i := by
  have hlength : reference.written.length = other.written.length :=
    Nat.le_antisymm (hother.longest _ _ h.refers h.begins)
      (h.longest _ _ hother.refers hother.begins)
  have hwritten : reference.written = other.written :=
    (List.prefix_of_prefix_length_le h.begins hother.begins (Nat.le_of_eq hlength)).eq_of_length
      hlength
  obtain rfl := h.refers.eq_of_written_eq hother.refers hwritten
  exact ⟨rfl, h.refers.index_eq hr hother.refers⟩

end Begins

/-! ### Reading is without choice -/

section Reads

variable {r : Regex} {template : Text} {parts others : List TemplatePart}

theorem Reads.flatMap_written (h : r.Reads template parts) :
    parts.flatMap TemplatePart.written = template := by
  induction h with
  | nil => rfl
  | char hc hrest ih => rw [List.flatMap_cons, ih]; rfl
  | doubledDollar hrest ih => rw [List.flatMap_cons, ih]; rfl
  | group hreference hafter hrest ih =>
    rw [List.flatMap_cons, ih, ← hafter]
    rfl
  | dollar hdollar hnone hafter ih => rw [List.flatMap_cons, ih]; rfl

/-- What stands behind a dollar sign tells the part that it begins: no reference begins with another
dollar sign, and the longest reference is unique. -/
theorem Reads.unique (hr : r.HasGroups) (h : r.Reads template parts)
    (hothers : r.Reads template others) : parts = others := by
  induction h generalizing others with
  | nil =>
    cases hothers
    rfl
  | char hc hrest ih =>
    cases hothers with
    | char _ hrest' => rw [ih hrest']
    | doubledDollar => exact absurd rfl hc
    | group => exact absurd rfl hc
    | dollar => exact absurd rfl hc
  | doubledDollar hrest ih =>
    cases hothers with
    | char hc => exact absurd rfl hc
    | doubledDollar hrest' => rw [ih hrest']
    | group hreference => exact absurd hreference.begins hreference.refers.not_begins_dollar
    | dollar hdollar => exact absurd rfl hdollar
  | group hreference hafter hrest ih =>
    cases hothers with
    | char hc => exact absurd rfl hc
    | doubledDollar => exact absurd hreference.begins hreference.refers.not_begins_dollar
    | group hreference' hafter' hrest' =>
      obtain ⟨rfl, rfl⟩ := hreference.unique hr hreference'
      obtain rfl := List.append_cancel_left (hafter.trans hafter'.symm)
      rw [ih hrest']
    | dollar _ hnone => exact absurd hreference.begins (hnone _ _ hreference.refers)
  | dollar hdollar hnone hafter ih =>
    cases hothers with
    | char hc => exact absurd rfl hc
    | doubledDollar => exact absurd rfl hdollar
    | group hreference => exact absurd hreference.begins (hnone _ _ hreference.refers)
    | dollar _ _ hafter' => rw [ih hafter']

end Reads

/-! ### Texts up to a character -/

section TakeWhile

variable {c : Char} {front rest t : Text}

theorem takeWhile_append_cons_of_not_mem (h : c ∉ front) :
    (front ++ c :: rest).takeWhile (· != c) = front := by
  rw [List.takeWhile_append_of_pos, List.takeWhile_cons_of_neg, List.append_nil]
  · simp
  · intro d hd
    exact bne_iff_ne.2 fun heq => h (heq ▸ hd)

theorem not_mem_takeWhile : c ∉ t.takeWhile (· != c) := by
  intro hmem
  exact absurd (List.mem_takeWhile_imp hmem) (by simp)

theorem takeWhile_of_append_prefix (h : c ∉ front) (hfront : front ++ [c] <+: t) :
    t.takeWhile (· != c) = front := by
  obtain ⟨rest, rfl⟩ := hfront
  rw [List.append_assoc]
  exact takeWhile_append_cons_of_not_mem h

theorem exists_eq_takeWhile_append (h : (t.takeWhile (· != c)).length < t.length) :
    ∃ rest, t = t.takeWhile (· != c) ++ c :: rest := by
  induction t with
  | nil => exact absurd h (Nat.lt_irrefl 0)
  | cons d t ih =>
    by_cases hd : d = c
    · subst hd
      exact ⟨t, by simp⟩
    · rw [List.takeWhile_cons_of_pos (p := (· != c)) (bne_iff_ne.2 hd)] at h ⊢
      obtain ⟨rest, hrest⟩ := ih (Nat.lt_of_succ_lt_succ h)
      exact ⟨rest, congrArg (d :: ·) hrest⟩

end TakeWhile

/-! ### What the stored form says -/

section Stored

variable {r : Regex} {t : Text} {m : Match}

theorem decimalNumber_ofNat (n : Nat) : decimalNumber (Text.ofNat n) = n :=
  Nat.ofDigitChars_ten_toDigits

theorem isDigit_of_mem_ofNat {n : Nat} {c : Char} (h : c ∈ Text.ofNat n) : c.isDigit = true :=
  Nat.isDigit_of_mem_toDigits (by decide) (by decide) h

theorem referredText_ofNat (n : Nat) : referredText r t m (Text.ofNat n) = groupText t m n := by
  have hnumber : (!(Text.ofNat n).isEmpty && (Text.ofNat n).all Char.isDigit) = true := by
    rw [Bool.and_eq_true, Bool.not_eq_true', List.isEmpty_eq_false_iff, List.all_eq_true]
    exact ⟨Nat.toDigits_ne_nil, fun _ => isDigit_of_mem_ofNat⟩
  rw [referredText, if_pos hnumber, decimalNumber_ofNat]

theorem referredText_name (hr : r.HasGroups) {name : Text} {index : Nat}
    (hmem : (name, index) ∈ r.names) : referredText r t m name = groupText t m index := by
  have hname : (!name.isEmpty && name.all Char.isDigit) ≠ true := by
    rw [ne_eq, Bool.and_eq_true, List.all_eq_true]
    exact fun h => (hr.areGroupNames.isGroupName _ hmem).not_all_isDigit h.2
  rw [referredText, if_neg hname]
  split
  · rename_i name' index' hfind
    have hname' : name' = name := by simpa using List.find?_some hfind
    have heq := List.inj_on_of_nodup_map hr.areGroupNames.nodup (List.mem_of_find?_eq_some hfind)
      hmem hname'
    exact congrArg (fun entry : Text × Nat => groupText t m entry.2) heq
  · rename_i hfind
    exact absurd (List.find?_eq_none.1 hfind _ hmem) (by simp)

theorem Refers.referredText_group (hr : r.HasGroups) {reference : GroupReference} {index : Nat}
    (h : r.Refers reference index) : referredText r t m reference.group = groupText t m index := by
  cases h with
  | whole => exact referredText_ofNat 0
  | number => exact referredText_ofNat _
  | named hmem => exact referredText_name hr hmem

theorem Refers.isGroup (hr : r.HasGroups) {reference : GroupReference} {index : Nat}
    (h : r.Refers reference index) : r.IsGroup reference.group := by
  cases h with
  | whole => exact .inl ⟨0, hr.groupCount_pos, rfl⟩
  | number _ _ _ hlt => exact .inl ⟨_, hlt, rfl⟩
  | named hmem => exact .inr (List.mem_map_of_mem hmem)

theorem IsGroup.brace_not_mem (hr : r.HasGroups) {group : Text} (h : r.IsGroup group) :
    '\x7d' ∉ group := by
  obtain ⟨n, -, rfl⟩ | h := h
  · exact fun hmem => absurd (isDigit_of_mem_ofNat hmem) (by decide)
  · obtain ⟨entry, hentry, rfl⟩ := List.mem_map.1 h
    exact (hr.areGroupNames.isGroupName entry hentry).brace_not_mem

theorem expandFrom_cons {c : Char} (hc : c ≠ '$') (rest : Text) :
    expandFrom r t m 0 (c :: rest) = c :: expandFrom r t m 0 rest := by
  rw [expandFrom]
  all_goals exact fun _ h => absurd h hc

theorem expandFrom_length_append (skipped rest : Text) :
    expandFrom r t m skipped.length (skipped ++ rest) = expandFrom r t m 0 rest := by
  induction skipped with
  | nil => rfl
  | cons c skipped ih => rw [← ih]; rfl

theorem expandFrom_storedDollar (rest : Text) :
    expandFrom r t m 0 (storedDollar ++ rest) = '$' :: expandFrom r t m 0 rest := rfl

theorem expandFrom_storedReference {group : Text} (hgroup : '\x7d' ∉ group) (rest : Text) :
    expandFrom r t m 0 (storedReference group ++ rest) =
      referredText r t m group ++ expandFrom r t m 0 rest := by
  have hgroup : (group ++ '\x7d' :: rest).takeWhile (· != '\x7d') = group :=
    takeWhile_append_cons_of_not_mem hgroup
  have hlength : group.length < (group ++ '\x7d' :: rest).length := by
    rw [List.length_append, List.length_cons]
    omega
  calc expandFrom r t m 0 (storedReference group ++ rest)
      = expandFrom r t m 0 ('$' :: '\x7b' :: (group ++ '\x7d' :: rest)) := by
        rw [storedReference]
        simp
    _ = referredText r t m group ++
          expandFrom r t m (group.length + 2) ('\x7b' :: (group ++ '\x7d' :: rest)) := by
        conv_lhs => rw [expandFrom]
        simp only [hgroup, if_pos hlength]
    _ = referredText r t m group ++ expandFrom r t m 0 rest := by
        rw [← expandFrom_length_append ('\x7b' :: group ++ ['\x7d']) rest]
        simp

theorem Reads.expandFrom_stored (hr : r.HasGroups) {template : Text} {parts : List TemplatePart}
    (h : r.Reads template parts) :
    expandFrom r t m 0 (parts.flatMap TemplatePart.stored) =
      parts.flatMap (TemplatePart.value t m) := by
  induction h with
  | nil => rfl
  | char hc hrest ih =>
    rw [List.flatMap_cons, List.flatMap_cons, ← ih]
    exact expandFrom_cons hc _
  | doubledDollar hrest ih =>
    rw [List.flatMap_cons, List.flatMap_cons, ← ih]
    exact expandFrom_storedDollar _
  | group hreference hafter hrest ih =>
    rw [List.flatMap_cons, List.flatMap_cons, ← ih, TemplatePart.value,
      ← hreference.refers.referredText_group hr]
    exact expandFrom_storedReference ((hreference.refers.isGroup hr).brace_not_mem hr) _
  | dollar hdollar hnone hafter ih =>
    rw [List.flatMap_cons, List.flatMap_cons, ← ih]
    exact expandFrom_storedDollar _

theorem Reads.isStored (hr : r.HasGroups) {template : Text} {parts : List TemplatePart}
    (h : r.Reads template parts) : r.IsStored (parts.flatMap TemplatePart.stored) := by
  induction h with
  | nil => exact .nil
  | char hc hrest ih => exact .char hc ih
  | doubledDollar hrest ih => exact .dollar ih
  | group hreference hafter hrest ih => exact .reference (hreference.refers.isGroup hr) ih
  | dollar hdollar hnone hafter ih => exact .dollar ih

end Stored

/-! ### The stored form is that of the parts read -/

section Store

variable {r : Regex} {after : Text} {n length : Nat}

/-- The first one or two digits number a group exactly if they refer to it. -/
theorem groupNumber?_eq_some_iff (hlength : length = 1 ∨ length = 2) :
    groupNumber? r ((after.takeWhile Char.isDigit).take 2) length = some n ↔
      ∃ digits : Text, digits.length = length ∧ digits <+: after ∧ r.Refers (.number digits) n := by
  rw [groupNumber?, Option.ite_none_right_eq_some]
  constructor
  · rintro ⟨⟨hlong, hpos, hlt⟩, hn⟩
    obtain rfl := Option.some.inj hn
    have hwhile : ((after.takeWhile Char.isDigit).take 2).take length <+:
        after.takeWhile Char.isDigit :=
      (List.take_prefix length _).trans (List.take_prefix 2 _)
    have htake := List.length_take_of_le hlong
    refine ⟨_, htake, hwhile.trans (List.takeWhile_prefix _), .number ?_ ?_ hpos hlt⟩
    · exact fun c hc => List.mem_takeWhile_imp (hwhile.subset hc)
    · rwa [htake]
  · rintro ⟨digits, rfl, hbegins, h⟩
    cases h with
    | number hdigits _ hpos hlt =>
      have hwhile : digits <+: after.takeWhile Char.isDigit := by
        obtain ⟨rest, rfl⟩ := hbegins
        rw [List.takeWhile_append_of_pos hdigits]
        exact List.prefix_append _ _
      have htake : digits <+: (after.takeWhile Char.isDigit).take 2 :=
        List.prefix_take_iff.2 ⟨hwhile, by omega⟩
      rw [← List.prefix_iff_eq_take.1 htake]
      exact ⟨⟨htake.length_le, hpos, hlt⟩, rfl⟩

theorem isLongest_whole (r : Regex) (rest : Text) : r.IsLongest ('&' :: rest) .whole 0 where
  refers := .whole
  begins := List.prefix_append ['&'] rest
  longest := by
    intro other i hother hbegins
    obtain ⟨-, rfl⟩ | ⟨hc, -⟩ | ⟨hc, -⟩ := hother.kind hbegins
    · exact Nat.le_refl _
    all_goals exact absurd hc (by decide)

theorem isLongest_named {name rest : Text} {index : Nat} (hmem : (name, index) ∈ r.names)
    (hend : '>' ∉ name) (hbegins : name ++ ['>'] <+: rest) :
    r.IsLongest ('<' :: rest) (.named name) index where
  refers := .named hmem hend
  begins := List.cons_prefix_cons.2 ⟨rfl, hbegins⟩
  longest := by
    intro other i hother hbeginsOther
    obtain ⟨hc, -⟩ | ⟨-, name', rfl, hend', hbegins'⟩ | ⟨hc, -⟩ := hother.kind hbeginsOther
    · exact absurd hc (by decide)
    · rw [← takeWhile_of_append_prefix hend hbegins, ← takeWhile_of_append_prefix hend' hbegins']
    · exact absurd hc (by decide)

/-- What is stored for a dollar sign before `after`, if no other one follows: the longest reference,
or a dollar sign if there is none. -/
def StoresLongest (r : Regex) (after : Text) : Prop :=
  (∃ reference index, r.IsLongest after reference index ∧
    storeReference r after = (storedReference reference.group, reference.written.length)) ∨
    (r.BeginsNoReference after ∧ storeReference r after = (storedDollar, 0))

theorem storesLongest_named (r : Regex) (rest : Text) : r.StoresLongest ('<' :: rest) := by
  rw [StoresLongest, storeReference]
  by_cases hname : (rest.takeWhile (· != '>')).length < rest.length ∧
      r.names.any (·.1 == rest.takeWhile (· != '>'))
  · obtain ⟨⟨name, index⟩, hmem, heq⟩ := List.any_eq_true.1 hname.2
    obtain rfl : name = rest.takeWhile (· != '>') := eq_of_beq heq
    obtain ⟨tail, htail⟩ := exists_eq_takeWhile_append hname.1
    have hbegins : rest.takeWhile (· != '>') ++ ['>'] <+: rest :=
      ⟨tail, by rw [List.append_assoc]; exact htail.symm⟩
    refine .inl ⟨_, index, isLongest_named hmem not_mem_takeWhile hbegins, ?_⟩
    simp only [if_pos hname, GroupReference.group, GroupReference.written, List.length_append,
      List.length_cons, List.length_nil]
  · refine .inr ⟨?_, by simp only [if_neg hname]⟩
    intro reference index h hbegins
    obtain ⟨hc, -⟩ | ⟨-, name, rfl, hend, hbegins⟩ | ⟨hc, -⟩ := h.kind hbegins
    · exact absurd hc (by decide)
    · have hwhile := takeWhile_of_append_prefix hend hbegins
      have hlength := hbegins.length_le
      rw [List.length_append, List.length_singleton] at hlength
      cases h with
      | named hmem =>
        rw [hwhile] at hname
        exact hname ⟨hlength, List.any_eq_true.2 ⟨_, hmem, beq_self_eq_true name⟩⟩
    · exact absurd hc (by decide)

theorem Refers.group_number {digits : Text} (h : r.Refers (.number digits) n) :
    (GroupReference.number digits).group = Text.ofNat n := by
  cases h
  rfl

section Number

variable (hwhole : after.head? ≠ some '&') (hnamed : after.head? ≠ some '<')
include hwhole hnamed

/-- Before a text that begins like no other reference, a reference is one or two digits that number
a group. -/
theorem Refers.exists_number {reference : GroupReference} {index : Nat}
    (h : r.Refers reference index) (hbegins : reference.written <+: after) :
    ∃ digits, reference = .number digits ∧ (digits.length = 1 ∨ digits.length = 2) ∧
      groupNumber? r ((after.takeWhile Char.isDigit).take 2) digits.length = some index := by
  cases h with
  | whole =>
    obtain ⟨rest, rfl⟩ := hbegins
    exact absurd rfl hwhole
  | named =>
    obtain ⟨rest, rfl⟩ := hbegins
    exact absurd rfl hnamed
  | @number digits hdigits hlength hpos hlt =>
    have hrefers := Refers.number hdigits hlength hpos hlt
    exact ⟨digits, rfl, hlength,
      (groupNumber?_eq_some_iff hlength).2 ⟨digits, rfl, hbegins, hrefers⟩⟩

theorem exists_isLongest_number (hlength : length = 1 ∨ length = 2)
    (hn : groupNumber? r ((after.takeWhile Char.isDigit).take 2) length = some n)
    (hlongest : length = 2 ∨ groupNumber? r ((after.takeWhile Char.isDigit).take 2) 2 = none) :
    ∃ reference index, r.IsLongest after reference index ∧
      (storedReference (Text.ofNat n), length) =
        (storedReference reference.group, reference.written.length) := by
  obtain ⟨digits, rfl, hbegins, hrefers⟩ := (groupNumber?_eq_some_iff hlength).1 hn
  refine ⟨_, n, ⟨hrefers, hbegins, ?_⟩, by rw [hrefers.group_number, GroupReference.written]⟩
  intro other i hother hbeginsOther
  obtain ⟨others, rfl, hlengthOther, hnumber⟩ := hother.exists_number hwhole hnamed hbeginsOther
  rw [GroupReference.written, GroupReference.written]
  obtain htwo | hnone := hlongest
  · omega
  · obtain hone | htwo := hlengthOther
    · omega
    · rw [htwo, hnone] at hnumber
      cases hnumber

theorem storesLongest_number (hdollar : after.head? ≠ some '$') : r.StoresLongest after := by
  rw [StoresLongest, storeReference]
  · cases htwo : groupNumber? r ((after.takeWhile Char.isDigit).take 2) 2 with
    | some n => exact .inl (exists_isLongest_number hwhole hnamed (.inr rfl) htwo (.inl rfl))
    | none =>
      cases hone : groupNumber? r ((after.takeWhile Char.isDigit).take 2) 1 with
      | some n => exact .inl (exists_isLongest_number hwhole hnamed (.inl rfl) hone (.inr htwo))
      | none =>
        refine .inr ⟨?_, rfl⟩
        intro reference index h hbegins
        obtain ⟨digits, rfl, hlength | hlength, hnumber⟩ := h.exists_number hwhole hnamed hbegins
        · rw [hlength, hone] at hnumber
          cases hnumber
        · rw [hlength, htwo] at hnumber
          cases hnumber
  all_goals
    rintro rest rfl
    contradiction

end Number

theorem storesLongest (r : Regex) (hdollar : after.head? ≠ some '$') : r.StoresLongest after := by
  by_cases hwhole : after.head? = some '&'
  · obtain ⟨rest, rfl⟩ := List.head?_eq_some_iff.1 hwhole
    exact .inl ⟨.whole, 0, isLongest_whole r rest, rfl⟩
  by_cases hnamed : after.head? = some '<'
  · obtain ⟨rest, rfl⟩ := List.head?_eq_some_iff.1 hnamed
    exact storesLongest_named r rest
  · exact storesLongest_number hwhole hnamed hdollar

theorem storeFrom_cons {c : Char} (hc : c ≠ '$') (rest : Text) :
    storeFrom r 0 (c :: rest) = c :: storeFrom r 0 rest := by
  rw [storeFrom]
  exact fun h => absurd h hc

theorem storeFrom_length_append (skipped rest : Text) :
    storeFrom r skipped.length (skipped ++ rest) = storeFrom r 0 rest := by
  induction skipped with
  | nil => rfl
  | cons c skipped ih => rw [← ih]; rfl

theorem storeFrom_dollar (after : Text) :
    storeFrom r 0 ('$' :: after) =
      (storeReference r after).1 ++ storeFrom r (storeReference r after).2 after := rfl

/-- Every template can be read, and what is stored for it is stored part by part. -/
theorem exists_reads (r : Regex) (template : Text) :
    ∃ parts, r.Reads template parts ∧
      storeFrom r 0 template = parts.flatMap TemplatePart.stored := by
  -- On the length: a reference takes several characters at once.
  induction hlength : template.length using Nat.strong_induction_on generalizing template with
  | _ length ih =>
    subst hlength
    match template with
    | [] => exact ⟨[], .nil, rfl⟩
    | c :: after =>
      by_cases hc : c = '$'
      · subst hc
        by_cases hdollar : after.head? = some '$'
        · obtain ⟨rest, rfl⟩ := List.head?_eq_some_iff.1 hdollar
          obtain ⟨parts, hrest, hstored⟩ :=
            ih rest.length (by rw [List.length_cons, List.length_cons]; omega) rest rfl
          refine ⟨_, .doubledDollar hrest, ?_⟩
          rw [List.flatMap_cons, ← hstored]
          rfl
        · rw [storeFrom_dollar]
          obtain ⟨reference, index, hlongest, hstore⟩ | ⟨hnone, hstore⟩ :=
            r.storesLongest hdollar
          · obtain ⟨rest, rfl⟩ := hlongest.begins
            obtain ⟨parts, hrest, hstored⟩ :=
              ih rest.length (by rw [List.length_cons, List.length_append]; omega) rest rfl
            refine ⟨_, .group hlongest rfl hrest, ?_⟩
            rw [hstore, storeFrom_length_append, hstored, List.flatMap_cons, TemplatePart.stored]
          · obtain ⟨parts, hafter, hstored⟩ := ih after.length (by simp) after rfl
            refine ⟨_, .dollar hdollar hnone hafter, ?_⟩
            rw [hstore, hstored, List.flatMap_cons, TemplatePart.stored]
      · obtain ⟨parts, hrest, hstored⟩ := ih after.length (by simp) after rfl
        refine ⟨_, .char hc hrest, ?_⟩
        rw [storeFrom_cons hc, hstored, List.flatMap_cons, TemplatePart.stored]
        rfl

end Store

/-! ### The meaning of a template -/

/-- What a template means to an expression, and that a stored form keeps it. -/
structure Keeps (r : Regex) (template stored : Text) (parts : List TemplatePart) : Prop where
  /-- The template can be read in this way, and in no other. -/
  reads_iff : ∀ others, r.Reads template others ↔ others = parts
  /-- No character of the template is left out. -/
  written : parts.flatMap TemplatePart.written = template
  isStored : r.IsStored stored
  expand : ∀ t m, r.expand stored t m = parts.flatMap (TemplatePart.value t m)

/-- **A stored template means what the template says.** With any valid search and any template there
is a substitution. The template, its escapes decoded, is read in exactly one way, its stored form
refers to groups that are there only, and for any match it writes the values of the parts read. -/
theorem exists_keeps_of_parse? {search : Text} {r : Regex} (hsearch : Regex.parse? search = some r)
    (template : Text) :
    ∃ stored parts, Substitution.ofSearch? search template .regex = some (.pattern r stored) ∧
      r.Keeps (decodeEscapes template) stored parts := by
  have hr := hasGroups_of_parse? hsearch
  obtain ⟨parts, hreads, hstored⟩ := exists_reads r (decodeEscapes template)
  refine ⟨r.storeTemplate template, parts, ?_, ?_⟩
  · rw [Substitution.ofSearch?, hsearch]
    rfl
  · rw [storeTemplate, hstored]
    exact {
      reads_iff := fun others => ⟨fun h => h.unique hr hreads, fun h => h ▸ hreads⟩
      written := hreads.flatMap_written
      isStored := hreads.isStored hr
      expand := fun t m => hreads.expandFrom_stored hr }

/-- Two groups, and every kind of dollar sign. -/
theorem exists_keeps_twoGroups :
    ∃ r stored parts, Regex.parse? "(a)(?P<k>b)".toList = some r ∧
      Substitution.ofSearch? "(a)(?P<k>b)".toList "\\t$10$<k>$<x>$$$&$3".toList .regex =
        some (.pattern r stored) ∧
      r.Keeps "\t$10$<k>$<x>$$$&$3".toList stored parts ∧
      stored = "\t$\x7b1\x7d0$\x7bk\x7d$$<x>$$$\x7b0\x7d$$3".toList := by
  obtain ⟨r, hr⟩ : ∃ r, Regex.parse? "(a)(?P<k>b)".toList = some r :=
    Option.isSome_iff_exists.1 (by decide)
  obtain ⟨stored, parts, hstored, hkeeps⟩ := exists_keeps_of_parse? hr "\\t$10$<k>$<x>$$$&$3".toList
  have htemplate : (Substitution.ofSearch? "(a)(?P<k>b)".toList "\\t$10$<k>$<x>$$$&$3".toList
      .regex).map Substitution.template =
        some "\t$\x7b1\x7d0$\x7bk\x7d$$<x>$$$\x7b0\x7d$$3".toList := by
    decide
  rw [hstored] at htemplate
  exact ⟨r, stored, parts, hr, hstored, hkeeps, Option.some.inj htemplate⟩

end Sweep.Regex
