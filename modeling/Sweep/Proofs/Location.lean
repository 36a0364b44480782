import Mathlib.Data.List.Basic
import Sweep.FileTree

/-!
# Locations and their paths

The names that lead to an entry hold no slash, so splitting a path gives them back, and different
locations have different paths. Below one directory, the paths relative to it and the absolute paths
stand in the same order.
-/

namespace Sweep

/-! ### Bytes -/

theorem Text.toByteArray_bytes (t : Text) : (⟨t.bytes.toArray⟩ : ByteArray) = t.utf8Encode := by
  rw [List.utf8Encode, Text.bytes]
  apply ByteArray.ext
  simp

theorem Bytes.text?_bytes (t : Text) : Bytes.text? t.bytes = some t := by
  rw [Bytes.text?, Text.toByteArray_bytes, String.fromUTF8?,
    dif_pos ByteArray.isValidUTF8_utf8Encode, Option.map_some]
  change some (String.ofList t).toList = some t
  rw [String.toList_ofList]

theorem Text.bytes_inj {t u : Text} (h : t.bytes = u.bytes) : t = u := by
  have htext := Bytes.text?_bytes t
  rw [h, Bytes.text?_bytes] at htext
  exact (Option.some.inj htext).symm

/-! ### Splitting and joining -/

namespace Text

theorem split_cons_self (separator : Char) (t : Text) :
    split (separator :: t) separator = [] :: split t separator := by
  simp [split]

theorem split_cons_of_ne {separator c : Char} (h : c ≠ separator) {t part : Text}
    {parts : List Text} (ht : split t separator = part :: parts) :
    split (c :: t) separator = (c :: part) :: parts := by
  unfold split at ht ⊢
  obtain ⟨rfl, rfl⟩ := List.cons.inj ht
  simp [h]

theorem split_of_not_mem {separator : Char} {t : Text} (h : separator ∉ t) :
    split t separator = [t] := by
  induction t with
  | nil => rfl
  | cons c t ih =>
      have hc : c ≠ separator := fun heq => h (by rw [heq]; exact List.mem_cons_self)
      exact split_cons_of_ne hc (ih fun hmem => h (List.mem_cons_of_mem _ hmem))

theorem split_append {separator : Char} {t : Text} (h : separator ∉ t) (rest : Text) :
    split (t ++ separator :: rest) separator = t :: split rest separator := by
  induction t with
  | nil => exact split_cons_self separator rest
  | cons c t ih =>
      have hc : c ≠ separator := fun heq => h (by rw [heq]; exact List.mem_cons_self)
      exact split_cons_of_ne hc (ih fun hmem => h (List.mem_cons_of_mem _ hmem))

theorem join_cons_of_ne_nil (separator t : Text) {others : List Text} (h : others ≠ []) :
    join separator (t :: others) = t ++ separator ++ join separator others := by
  cases others with
  | nil => exact absurd rfl h
  | cons u others => rfl

theorem join_cons (separator t : Text) (others : List Text) :
    join separator (t :: others) = t ++ others.flatMap (separator ++ ·) := by
  induction others generalizing t with
  | nil => rw [join, List.flatMap_nil, List.append_nil]
  | cons u others ih =>
    rw [join_cons_of_ne_nil _ _ (List.cons_ne_nil u others), ih, List.flatMap_cons]
    simp only [List.append_assoc]

theorem split_join {separator : Char} {parts : List Text} (hne : parts ≠ [])
    (h : ∀ part ∈ parts, separator ∉ part) : split (join [separator] parts) separator = parts := by
  induction parts with
  | nil => exact absurd rfl hne
  | cons part parts ih =>
      have hpart := h part List.mem_cons_self
      by_cases hnil : parts = []
      · rw [hnil]
        exact split_of_not_mem hpart
      · rw [join_cons_of_ne_nil _ _ hnil, List.append_assoc]
        change split (part ++ separator :: join [separator] parts) separator = _
        rw [split_append hpart, ih hnil fun q hq => h q (List.mem_cons_of_mem _ hq)]

theorem split_ne_nil (t : Text) (separator : Char) : split t separator ≠ [] := by
  unfold split
  exact List.cons_ne_nil _ _

theorem join_split (t : Text) (separator : Char) :
    join [separator] (split t separator) = t := by
  induction t with
  | nil => rfl
  | cons c t ih =>
      by_cases hc : c = separator
      · subst hc
        rw [split_cons_self, join_cons_of_ne_nil _ _ (split_ne_nil t c), ih]
        rfl
      · obtain ⟨part, parts, hsplit⟩ := List.exists_cons_of_ne_nil (split_ne_nil t separator)
        rw [split_cons_of_ne hc hsplit]
        rw [hsplit] at ih
        cases parts with
        | nil => exact congrArg (c :: ·) ih
        | cons next parts => exact congrArg (c :: ·) ih

theorem mem_of_mem_split {t part : Text} {separator c : Char} (hpart : part ∈ split t separator)
    (hc : c ∈ part) : c ∈ t ∧ c ≠ separator := by
  induction t generalizing part with
  | nil =>
      rw [List.mem_singleton.1 hpart] at hc
      cases hc
  | cons d t ih =>
      have hrest : ∀ {part}, part ∈ split t separator → c ∈ part → c ∈ d :: t ∧ c ≠ separator :=
        fun hpart hc => (ih hpart hc).imp_left (List.mem_cons_of_mem d)
      by_cases hd : d = separator
      · rw [hd, split_cons_self] at hpart
        rcases List.mem_cons.1 hpart with rfl | hpart
        · cases hc
        · exact hrest hpart hc
      · obtain ⟨first, parts, hsplit⟩ := List.exists_cons_of_ne_nil (split_ne_nil t separator)
        rw [split_cons_of_ne hd hsplit] at hpart
        rw [hsplit] at hrest
        rcases List.mem_cons.1 hpart with rfl | hpart
        · rcases List.mem_cons.1 hc with rfl | hc
          · exact ⟨List.mem_cons_self, hd⟩
          · exact hrest List.mem_cons_self hc
        · exact hrest (List.mem_cons_of_mem _ hpart) hc

theorem mem_join {separator : Text} {parts : List Text} {c : Char}
    (h : c ∈ join separator parts) : c ∈ separator ∨ ∃ part ∈ parts, c ∈ part := by
  induction parts with
  | nil => cases h
  | cons part parts ih =>
      by_cases hnil : parts = []
      · rw [hnil] at h
        exact Or.inr ⟨part, List.mem_cons_self, h⟩
      · rw [join_cons_of_ne_nil _ _ hnil, List.append_assoc] at h
        rcases List.mem_append.1 h with h | h
        · exact Or.inr ⟨part, List.mem_cons_self, h⟩
        · rcases List.mem_append.1 h with h | h
          · exact Or.inl h
          · rcases ih h with h | ⟨q, hq, h⟩
            · exact Or.inl h
            · exact Or.inr ⟨q, List.mem_cons_of_mem _ hq, h⟩

theorem mem_join_of_mem {separator part : Text} {parts : List Text} {c : Char}
    (hpart : part ∈ parts) (hc : c ∈ part) : c ∈ join separator parts := by
  induction parts with
  | nil => cases hpart
  | cons first others ih =>
      by_cases hothers : others = []
      · rw [hothers] at hpart ⊢
        rwa [← List.mem_singleton.1 hpart]
      · rw [join_cons_of_ne_nil _ _ hothers, List.mem_append]
        rcases List.mem_cons.1 hpart with rfl | hpart
        · exact Or.inl (List.mem_append_left _ hc)
        · exact Or.inr (ih hpart)

theorem join_append {separator : Text} {front back : List Text} (hfront : front ≠ [])
    (hback : back ≠ []) :
    join separator (front ++ back) = join separator front ++ separator ++ join separator back := by
  induction front with
  | nil => exact absurd rfl hfront
  | cons part front ih =>
      by_cases hnil : front = []
      · rw [hnil]
        exact join_cons_of_ne_nil separator part hback
      · have happend : front ++ back ≠ [] := fun h => hnil (List.append_eq_nil_iff.1 h).1
        rw [List.cons_append, join_cons_of_ne_nil _ _ happend, ih hnil,
          join_cons_of_ne_nil _ _ hnil]
        simp only [List.append_assoc]

/-- Only a text that ends in the separator, or is empty, has an empty last part. -/
theorem getLast?_of_split {t : Text} {separator : Char}
    (h : (split t separator).getLast? = some []) : t = [] ∨ t.getLast? = some separator := by
  obtain ⟨front, hfront⟩ := List.getLast?_eq_some_iff.1 h
  by_cases hnil : front = []
  · left
    rw [← join_split t separator, hfront, hnil]
    rfl
  · right
    have hjoin : t = join [separator] front ++ [separator] := by
      rw [← join_split t separator, hfront, join_append hnil (List.cons_ne_nil _ _)]
      exact List.append_nil _
    rw [hjoin, List.getLast?_concat]

end Text

/-! ### Names -/

/-- What an entry of a directory may be called. -/
structure IsName (name : Text) : Prop where
  nonempty : name ≠ []
  ne_dot : name ≠ ['.']
  ne_dots : name ≠ ['.', '.']
  no_slash : '/' ∉ name
  no_nul : '\x00' ∉ name
  length : name.bytes.length ≤ FileTree.maxNameLength

instance (name : Text) : Decidable (IsName name) :=
  decidable_of_iff (name ≠ [] ∧ name ≠ ['.'] ∧ name ≠ ['.', '.'] ∧ '/' ∉ name ∧ '\x00' ∉ name ∧
      name.bytes.length ≤ FileTree.maxNameLength)
    ⟨fun ⟨h₁, h₂, h₃, h₄, h₅, h₆⟩ => ⟨h₁, h₂, h₃, h₄, h₅, h₆⟩,
      fun ⟨h₁, h₂, h₃, h₄, h₅, h₆⟩ => ⟨h₁, h₂, h₃, h₄, h₅, h₆⟩⟩

theorem IsName.componentOf? {name : Text} (h : IsName name) :
    Path.componentOf? name = some (.normal name) := by
  rw [Path.componentOf?, if_neg (by simp [h.nonempty, h.ne_dot]), if_neg h.ne_dots]

theorem Path.join_eq {p : Path} {inner : Text} {c : Char} (hinner : ∀ rest, inner ≠ '/' :: rest)
    (hlast : p.text.getLast? = some c) :
    p.join inner = ⟨p.text ++ if c = '/' then inner else '/' :: inner⟩ := by
  unfold Path.join
  rw [hlast]
  split
  · exact absurd rfl (hinner _)
  · rename_i hnone
    cases hnone
  · rename_i hsome
    rw [if_pos (Option.some.inj hsome)]
  · rename_i hne _ hsome
    rw [if_neg fun heq => hne ((Option.some.inj hsome).symm.trans heq)]

namespace Location

/-- Every part of the location is a name. -/
def IsProper (l : Location) : Prop := ∀ name ∈ l, IsName name

instance (l : Location) : Decidable l.IsProper :=
  inferInstanceAs (Decidable (∀ name ∈ l, IsName name))

def relative (l : Location) : Path := ⟨l.text⟩

def key (l : Location) : List (List Nat) := l.map fun name => 3 :: name.map Char.toNat

theorem key_inj {k l : Location} (h : k.key = l.key) : k = l := by
  refine List.map_injective_iff.2 (fun name other hname => ?_) h
  exact List.map_injective_iff.2 (fun c d hcd => Char.toNat_inj.1 hcd) (List.cons.inj hname).2

variable {l : Location}

theorem split_text (hl : l.IsProper) (hne : l ≠ []) : Text.split l.text '/' = l :=
  Text.split_join hne fun name hname => (hl name hname).no_slash

theorem split_path (hl : l.IsProper) (hne : l ≠ []) : Text.split l.path.text '/' = [] :: l := by
  rw [path, Text.split_cons_self, split_text hl hne]

theorem components_filterMap (hl : l.IsProper) :
    l.filterMap Path.componentOf? = l.map Path.Component.normal := by
  rw [← List.filterMap_eq_map]
  exact List.filterMap_congr fun name hname => (hl name hname).componentOf?

theorem key_path (hl : l.IsProper) : l.path.key = [0] :: l.key := by
  by_cases hnil : l = []
  · rw [hnil]
    decide
  · have hcomponents : l.path.components = .root :: l.map .normal := by
      rw [Path.components, split_path hl hnil]
      change [Path.Component.root] ++ List.filterMap Path.componentOf? ([] :: l) = _
      rw [List.filterMap_cons_none (by decide), components_filterMap hl]
      rfl
    rw [Path.key, hcomponents, List.map_cons, List.map_map]
    rfl

theorem text_ne_slash_cons (hl : l.IsProper) (rest : Text) : l.text ≠ '/' :: rest := by
  intro htext
  by_cases hnil : l = []
  · rw [hnil] at htext
    cases htext
  · have hsplit := split_text hl hnil
    rw [htext, Text.split_cons_self] at hsplit
    refine (hl [] ?_).nonempty rfl
    rw [← hsplit]
    exact List.mem_cons_self

theorem key_relative (hl : l.IsProper) : l.relative.key = l.key := by
  by_cases hnil : l = []
  · rw [hnil]
    decide
  · have hsplit := split_text hl hnil
    have hcomponents : l.relative.components = l.map .normal := by
      rw [Path.components, relative, hsplit, components_filterMap hl]
      split
      · rename_i rest htext
        exact absurd htext (text_ne_slash_cons hl rest)
      · exact absurd rfl (hl ['.'] List.mem_cons_self).ne_dot
      · rfl
    rw [Path.key, hcomponents, List.map_map]
    rfl

/-- The order of locations below a directory is the order of their absolute paths. -/
theorem key_path_append_lt {root k l : Location} (hroot : root.IsProper) (hk : k.IsProper)
    (hl : l.IsProper) (h : k.key < l.key) :
    (Location.path (root ++ k)).key < (Location.path (root ++ l)).key := by
  have happend : ∀ {m : Location}, m.IsProper → Location.IsProper (root ++ m) := by
    intro m hm name hname
    rcases List.mem_append.1 hname with hname | hname
    · exact hroot name hname
    · exact hm name hname
  rw [key_path (happend hk), key_path (happend hl), key, key, List.map_append, List.map_append]
  exact List.cons_lt_cons_iff.2 (Or.inr ⟨rfl, List.append_left_lt h⟩)

theorem exists_path_text_eq {l : Location} (hne : l ≠ []) :
    ∃ front, ∃ name ∈ l, l.path.text = front ++ name := by
  obtain ⟨names, name, rfl⟩ := (List.eq_nil_or_concat l).resolve_left hne
  rw [List.concat_eq_append]
  refine ⟨Path.text ⟨'/' :: (if names = [] then [] else Text.join ['/'] names ++ ['/'])⟩, name,
    List.mem_append_right _ List.mem_cons_self, ?_⟩
  by_cases hnil : names = []
  · rw [if_pos hnil, hnil]
    rfl
  · rw [if_neg hnil, path, text, Text.join_append hnil (List.cons_ne_nil _ _)]
    rfl

/-- A path within a directory is the path of the location below it. -/
theorem join_relative {root l : Location} (hroot : root.IsProper) (hl : l.IsProper)
    (hne : l ≠ []) : root.path.join l.relative.text = Location.path (root ++ l) := by
  by_cases hnil : root = []
  · have hlast : (path []).text.getLast? = some '/' := rfl
    rw [hnil, relative, Path.join_eq (text_ne_slash_cons hl) hlast]
    rfl
  · obtain ⟨front, name, hname, htext⟩ := exists_path_text_eq hnil
    have hnonempty := (hroot name hname).nonempty
    have hlast : root.path.text.getLast? = some (name.getLast hnonempty) := by
      rw [htext, List.getLast?_append, List.getLast?_eq_some_getLast hnonempty]
      rfl
    have hslash : name.getLast hnonempty ≠ '/' := fun heq =>
      (hroot name hname).no_slash (heq ▸ List.getLast_mem hnonempty)
    rw [relative, Path.join_eq (text_ne_slash_cons hl) hlast, if_neg hslash, path, path, text,
      text, text, Text.join_append hnil hne, List.append_assoc]
    rfl

end Location

end Sweep
