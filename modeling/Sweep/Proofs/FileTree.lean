import Mathlib.Data.List.Induction
import Mathlib.Data.List.Nodup
import Sweep.Proofs.Location

/-!
# Trees of files, links and directories

What a well-formed tree is, and what putting a file into a tree keeps. A file that is there can be
put anew anywhere: nothing else in the tree changes, and it stays well-formed.
-/

namespace Sweep

namespace FileTree

section Entries

variable {α : Type} {entries : List (Location × α)} {l : Location} {a : α}

theorem find?_fst_eq_none_iff : entries.find? (·.1 == l) = none ↔ l ∉ entries.map (·.1) := by
  rw [List.find?_eq_none, List.mem_map]
  constructor
  · rintro h ⟨e, he, rfl⟩
    exact h e he BEq.rfl
  · intro h e he heq
    exact h ⟨e, he, eq_of_beq heq⟩

theorem mem_of_find?_fst {e : Location × α} (h : entries.find? (·.1 == l) = some e) :
    (l, e.2) ∈ entries := by
  have hmem := List.mem_of_find?_eq_some h
  have hfst : e.1 = l := by simpa using List.find?_some h
  rwa [← hfst]

theorem find?_fst_of_mem (hdistinct : (entries.map (·.1)).Nodup) (h : (l, a) ∈ entries) :
    entries.find? (·.1 == l) = some (l, a) := by
  cases hfind : entries.find? (·.1 == l) with
  | none => exact absurd (List.mem_map_of_mem h) (find?_fst_eq_none_iff.1 hfind)
  | some e =>
      have hfst : e.1 = l := by simpa using List.find?_some hfind
      have hmem := List.mem_of_find?_eq_some hfind
      exact congrArg some (List.inj_on_of_nodup_map hdistinct hmem h hfst)

end Entries

def locations (tree : FileTree) : List Location := tree.leaves ++ tree.directories

/-- Entries have names, they lie in directories, and no two files or links share a location. -/
structure WellFormed (tree : FileTree) : Prop where
  names : ∀ l ∈ tree.locations, l.IsProper
  parents : ∀ l ∈ tree.locations, l = [] ∨ tree.isDirectory l.dropLast = true
  distinct : tree.leaves.Nodup

/-- Whether a file at a location can be read and written under its absolute path. -/
def isReachable (l : Location) : Bool := l.path.text.bytes.length ≤ maxPathLength

variable {tree : FileTree} {l : Location} {content : Bytes} {p : Path}

/-! ### What is at a location -/

theorem mem_links_of_entry? {target : Path} (h : tree.entry? l = some (.link target)) :
    (l, target) ∈ tree.links := by
  unfold entry? at h
  split at h
  · cases h
  · rename_i hfind
    obtain rfl := Entry.link.inj (Option.some.inj h)
    exact mem_of_find?_fst hfind
  · split at h <;> cases h

theorem WellFormed.distinct_files (htree : tree.WellFormed) : (tree.files.map (·.1)).Nodup :=
  (List.nodup_append.1 htree.distinct).1

theorem entry?_of_mem (htree : tree.WellFormed) (h : (l, content) ∈ tree.files) :
    tree.entry? l = some (.file content) := by
  unfold entry?
  rw [find?_fst_of_mem htree.distinct_files h]

theorem not_link_of_isDirectory (h : tree.isDirectory l = true) :
    ∀ target, tree.entry? l ≠ some (.link target) := by
  intro target hentry
  rw [isDirectory, hentry] at h
  cases h

theorem isDirectory_iff :
    tree.isDirectory l = true ↔ l ∉ tree.leaves ∧ (l = [] ∨ l ∈ tree.directories) := by
  rw [isDirectory, beq_iff_eq, leaves, List.mem_append, not_or, ← find?_fst_eq_none_iff,
    ← find?_fst_eq_none_iff]
  unfold entry?
  split
  · rename_i hfile
    simp [hfile]
  · rename_i hlink
    simp [hlink]
  · rename_i hfile hlink
    simp [hfile, hlink, or_iff_not_imp_left]

theorem mem_locations_of_isSome (h : (tree.entry? l).isSome) : l = [] ∨ l ∈ tree.locations := by
  unfold entry? at h
  split at h
  · rename_i hfind
    exact Or.inr (List.mem_append_left _
      (List.mem_append_left _ (List.mem_map_of_mem (mem_of_find?_fst hfind))))
  · rename_i hfind
    exact Or.inr (List.mem_append_left _
      (List.mem_append_right _ (List.mem_map_of_mem (mem_of_find?_fst hfind))))
  · split at h
    · rename_i hplace
      exact hplace.imp_right fun hmem => List.mem_append_right _ hmem
    · cases h

theorem isSome_of_isDirectory (h : tree.isDirectory l = true) : (tree.entry? l).isSome := by
  rw [eq_of_beq h]
  rfl

theorem isProper_of_isSome (htree : tree.WellFormed) (h : (tree.entry? l).isSome) :
    l.IsProper := by
  rcases mem_locations_of_isSome h with rfl | hmem
  · intro name hname
    cases hname
  · exact htree.names l hmem

theorem isDirectory_of_isSome (htree : tree.WellFormed) {front back : Location} (hne : back ≠ [])
    (h : (tree.entry? (front ++ back)).isSome) : tree.isDirectory front = true := by
  induction back using List.reverseRecOn with
  | nil => exact absurd rfl hne
  | append_singleton back name ih =>
      have hparent : tree.isDirectory (front ++ back) = true := by
        rw [← List.append_assoc] at h
        rcases mem_locations_of_isSome h with hnil | hmem
        · simp at hnil
        · rcases htree.parents _ hmem with hnil | hdirectory
          · simp at hnil
          · rwa [List.dropLast_concat] at hdirectory
      by_cases hnil : back = []
      · rwa [hnil, List.append_nil] at hparent
      · exact ih hnil (isSome_of_isDirectory hparent)

/-! ### Putting a file -/

theorem map_fst_put {files : List (Location × Bytes)} (h : l ∈ files.map (·.1)) (new : Bytes) :
    (put l new files).map (·.1) = files.map (·.1) := by
  induction files with
  | nil => cases h
  | cons file files ih =>
      rw [put]
      split
      · rename_i heq
        rw [List.map_cons, List.map_cons, heq]
      · rename_i hne
        rw [List.map_cons, List.map_cons, ih ((List.mem_cons.1 h).resolve_left (Ne.symm hne))]

theorem mem_put_iff {files : List (Location × Bytes)} (hdistinct : (files.map (·.1)).Nodup)
    (h : l ∈ files.map (·.1)) {new : Bytes} {k : Location} {b : Bytes} :
    (k, b) ∈ put l new files ↔ if k = l then b = new else (k, b) ∈ files := by
  induction files with
  | nil => cases h
  | cons file files ih =>
      obtain ⟨hhead, htail⟩ := List.nodup_cons.1 hdistinct
      rw [put]
      by_cases heq : file.1 = l
      · rw [if_pos heq, List.mem_cons]
        have hothers : k = l → (k, b) ∉ files := by
          rintro rfl hmem
          exact hhead (List.mem_map.2 ⟨(k, b), hmem, heq.symm⟩)
        by_cases hk : k = l
        · rw [if_pos hk, Prod.mk.injEq]
          exact ⟨fun hor => (hor.resolve_right (hothers hk)).2, fun hb => Or.inl ⟨hk, hb⟩⟩
        · rw [if_neg hk, List.mem_cons]
          refine or_congr_left ⟨fun hpair => ?_, fun hpair => ?_⟩
          · exact absurd (Prod.mk.inj hpair).1 hk
          · rw [← hpair] at heq
            exact absurd heq hk
      · have hl : l ∈ files.map (·.1) := (List.mem_cons.1 h).resolve_left (Ne.symm heq)
        rw [if_neg heq, List.mem_cons, ih htail hl]
        by_cases hk : k = l
        · rw [if_pos hk, if_pos hk]
          refine ⟨fun hor => hor.resolve_left fun hpair => heq ?_, Or.inr⟩
          exact (Prod.mk.inj hpair).1.symm.trans hk
        · rw [if_neg hk, if_neg hk, List.mem_cons]

theorem find?_put (l k : Location) (new : Bytes) (files : List (Location × Bytes)) :
    (put l new files).find? (·.1 == k) =
      if k = l then some (l, new) else files.find? (·.1 == k) := by
  induction files with
  | nil =>
      rw [put, List.find?_singleton]
      by_cases hk : k = l
      · simp [hk]
      · simp [hk, Ne.symm hk]
  | cons file files ih =>
      rw [put]
      split
      · rename_i hfile
        by_cases hk : k = l
        · simp [hk]
        · rw [if_neg hk, List.find?_cons_of_neg (by simpa using Ne.symm hk),
            List.find?_cons_of_neg (by simpa [hfile] using Ne.symm hk)]
      · rename_i hfile
        rw [List.find?_cons, List.find?_cons, ih]
        by_cases hk : k = l
        · simp [hk, beq_false_of_ne hfile]
        · simp [hk]

/-- Writing a file changes what is at its location, and nothing else. -/
theorem entry?_putFile (tree : FileTree) (l k : Location) (new : Bytes) :
    entry? (tree.putFile l new) k = if k = l then some (.file new) else tree.entry? k := by
  unfold entry? putFile
  rw [find?_put]
  by_cases hk : k = l
  · rw [if_pos hk, if_pos hk]
  · rw [if_neg hk, if_neg hk]

theorem leaves_putFile (h : l ∈ tree.files.map (·.1)) (new : Bytes) :
    (tree.putFile l new).leaves = tree.leaves := by
  rw [leaves, leaves, putFile, map_fst_put h]

theorem locations_putFile (h : l ∈ tree.files.map (·.1)) (new : Bytes) :
    (tree.putFile l new).locations = tree.locations := by
  rw [locations, locations, leaves_putFile h]
  rfl

theorem isDirectory_putFile (hl : tree.isDirectory l = false) (new : Bytes) (k : Location) :
    (tree.putFile l new).isDirectory k = tree.isDirectory k := by
  by_cases hk : k = l
  · subst hk
    rw [hl, isDirectory, entry?_putFile, if_pos rfl]
    rfl
  · rw [isDirectory, isDirectory, entry?_putFile, if_neg hk]

theorem WellFormed.putFile (htree : tree.WellFormed) (h : l ∈ tree.files.map (·.1))
    (new : Bytes) : (tree.putFile l new).WellFormed where
  names k hk := by
    rw [locations_putFile h] at hk
    exact htree.names k hk
  parents k hk := by
    rw [locations_putFile h] at hk
    have hl : tree.isDirectory l = false :=
      eq_false_of_ne_true fun hl => (isDirectory_iff.1 hl).1 (List.mem_append_left _ h)
    rw [isDirectory_putFile hl]
    exact htree.parents k hk
  distinct := by
    rw [leaves_putFile h]
    exact htree.distinct

/-! ### Files below a location -/

theorem mem_filesUnder_iff {root f : Location} :
    f ∈ tree.filesUnder root ↔
      root ++ f ∈ tree.leaves ∧ tree.leadsToFile (Location.path (root ++ f)) = true := by
  rw [filesUnder, List.mem_filterMap]
  constructor
  · rintro ⟨k, hmem, hplace⟩
    split at hplace
    · rename_i hboth
      obtain ⟨hfront, hleads⟩ := Bool.and_eq_true_iff.1 hboth
      obtain ⟨back, rfl⟩ := List.isPrefixOf_iff_prefix.1 hfront
      rw [List.drop_left] at hplace
      obtain rfl := Option.some.inj hplace
      exact ⟨hmem, hleads⟩
    · cases hplace
  · rintro ⟨hmem, hleads⟩
    have hfront : root.isPrefixOf (root ++ f) = true :=
      List.isPrefixOf_iff_prefix.2 (List.prefix_append _ _)
    refine ⟨root ++ f, hmem, ?_⟩
    rw [hfront, hleads, List.drop_left]
    rfl

end FileTree

end Sweep
