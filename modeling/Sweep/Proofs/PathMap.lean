import Sweep.Path

/-!
# Maps of paths

What a lookup finds after each operation. Paths are the same if their keys are, so every lookup is
stated through keys; the text of a path matters only for the entries themselves, and there an
entry keeps the path it was first written with.
-/

namespace Sweep

@[simp]
theorem Path.same_iff {p q : Path} : p.same q = true ↔ p.key = q.key := by
  simp [Path.same]

@[simp]
theorem Path.isIn_iff {p : Path} {paths : List Path} :
    p.isIn paths = true ↔ ∃ q ∈ paths, q.key = p.key := by
  simp [Path.isIn]

/-- No two members of a strictly ascending list have the same key. -/
theorem eq_of_ascending_of_key_eq {α : Type} (key : α → List (List Nat)) {l : List α}
    (hl : l.Pairwise fun a b => key a < key b) {a b : α} (ha : a ∈ l) (hb : b ∈ l)
    (h : key a = key b) : a = b := by
  induction l with
  | nil => cases ha
  | cons c l ih =>
      obtain ⟨hhead, htail⟩ := List.pairwise_cons.1 hl
      rw [List.mem_cons] at ha hb
      rcases ha with rfl | ha
      · rcases hb with rfl | hb
        · rfl
        · have hlt := hhead b hb
          rw [h] at hlt
          exact absurd hlt (List.lt_irrefl _)
      · rcases hb with rfl | hb
        · have hlt := hhead a ha
          rw [h] at hlt
          exact absurd hlt (List.lt_irrefl _)
        · exact ih htail ha hb

theorem nodup_of_ascending {α : Type} {key : α → List (List Nat)} {l : List α}
    (hl : l.Pairwise fun a b => key a < key b) : l.Nodup := by
  apply hl.imp
  intro a b hlt heq
  rw [heq] at hlt
  exact List.lt_irrefl _ hlt

theorem eq_of_ascending_of_mem_iff {α : Type} (key : α → List (List Nat)) {l l' : List α}
    (hl : l.Pairwise fun a b => key a < key b) (hl' : l'.Pairwise fun a b => key a < key b)
    (h : ∀ a, a ∈ l ↔ a ∈ l') : l = l' := by
  have hperm : l.Perm l' :=
    (List.perm_ext_iff_of_nodup (nodup_of_ascending hl) (nodup_of_ascending hl')).2 h
  refine hperm.eq_of_pairwise (fun a b _ _ hab hba => ?_) hl hl'
  exact absurd hba (List.lt_asymm hab)

attribute [ext] PathMap

namespace PathMap

variable {α : Type}

/-- The first entry of a path, with the path as it is written there. -/
def find (entries : List (Path × α)) (p : Path) : Option (Path × α) :=
  entries.find? (·.1.same p)

theorem find_cons (e : Path × α) (entries : List (Path × α)) (p : Path) :
    find (e :: entries) p = if e.1.key = p.key then some e else find entries p := by
  unfold find
  rw [List.find?_cons]
  by_cases h : e.1.key = p.key
  · rw [if_pos h, Path.same_iff.2 h]
  · rw [if_neg h, Bool.eq_false_iff.2 fun hsame => h (Path.same_iff.1 hsame)]

theorem find_congr (entries : List (Path × α)) {p q : Path} (h : p.key = q.key) :
    find entries p = find entries q := by
  simp only [find, Path.same, h]

theorem find_eq_none {entries : List (Path × α)} {p : Path}
    (h : ∀ e ∈ entries, e.1.key ≠ p.key) : find entries p = none := by
  rw [find, List.find?_eq_none]
  intro e he hsame
  exact h e he (Path.same_iff.1 hsame)

theorem find_eq_some_iff {entries : List (Path × α)} (hasc : Ascending entries) {p : Path}
    {e : Path × α} : find entries p = some e ↔ e ∈ entries ∧ e.1.key = p.key := by
  have hfound : ∀ f, find entries p = some f → f ∈ entries ∧ f.1.key = p.key := by
    intro f hf
    rw [find] at hf
    have hsame : f.1.same p = true := by simpa using List.find?_some hf
    exact ⟨List.mem_of_find?_eq_some hf, Path.same_iff.1 hsame⟩
  constructor
  · exact hfound e
  · rintro ⟨he, hkey⟩
    cases hfind : find entries p with
    | none => exact absurd (Path.same_iff.2 hkey) (List.find?_eq_none.1 hfind e he)
    | some f =>
        obtain ⟨hf, hfkey⟩ := hfound f hfind
        rw [eq_of_ascending_of_key_eq (fun e : Path × α => e.1.key) hasc hf he
          (hfkey.trans hkey.symm)]

theorem find_insertWith (update : α → α) (p : Path) (a : α) {entries : List (Path × α)}
    (hasc : Ascending entries) (q : Path) :
    find (insertWith update p a entries) q =
      if p.key = q.key then some ((find entries p).elim (p, a) fun e => (e.1, update e.2))
      else find entries q := by
  induction entries with
  | nil =>
      rw [insertWith, find_cons]
      rfl
  | cons e others ih =>
      obtain ⟨hhead, htail⟩ := List.pairwise_cons.1 hasc
      rw [insertWith]
      split
      · rename_i heq
        rw [find_cons, find_cons, find_cons, if_pos heq.symm, heq]
        by_cases hq : e.1.key = q.key <;> simp [hq]
      · rename_i hne
        split
        · rename_i hlt
          have hnone : find (e :: others) p = none := by
            apply find_eq_none
            intro f hf hkey
            rcases List.mem_cons.1 hf with rfl | hf
            · exact hne hkey.symm
            · have := List.lt_trans hlt (hhead f hf)
              rw [hkey] at this
              exact List.lt_irrefl _ this
          rw [find_cons, hnone]
          rfl
        · rw [find_cons, ih htail, find_cons, find_cons, if_neg (Ne.symm hne)]
          by_cases hq : p.key = q.key
          · rw [if_pos hq, if_pos hq, if_neg (fun h => hne (hq.trans h.symm))]
          · rw [if_neg hq, if_neg hq]

theorem find_map_modify (entries : List (Path × α)) (p q : Path) (f : α → α) :
    find (entries.map fun e => if e.1.same p then (e.1, f e.2) else e) q =
      if p.key = q.key then (find entries q).map (fun e => (e.1, f e.2)) else find entries q := by
  induction entries with
  | nil => simp [find]
  | cons e others ih =>
      rw [List.map_cons, find_cons, find_cons, ih]
      by_cases hsame : e.1.key = p.key
      · simp only [Path.same_iff.2 hsame, if_true, hsame]
        by_cases hq : p.key = q.key <;> simp [hq]
      · have hfalse : e.1.same p = false := by simpa [Path.same] using hsame
        simp only [hfalse, Bool.false_eq_true, if_false]
        by_cases hq : p.key = q.key
        · rw [hq] at hsame
          simp [hq, hsame]
        · simp [hq]

def lookup (entries : List (Path × α)) (p : Path) : Option α :=
  (entries.find? (·.1.same p)).map (·.2)

theorem lookup_eq_map_find (entries : List (Path × α)) (p : Path) :
    lookup entries p = (find entries p).map (·.2) := rfl

theorem get?_eq_lookup (m : PathMap α) (p : Path) : m.get? p = lookup m.entries p := rfl

theorem lookup_cons (e : Path × α) (entries : List (Path × α)) (p : Path) :
    lookup (e :: entries) p = if e.1.key = p.key then some e.2 else lookup entries p := by
  rw [lookup_eq_map_find, find_cons]
  split <;> rfl

theorem lookup_eq_none {entries : List (Path × α)} {p : Path}
    (h : ∀ e ∈ entries, e.1.key ≠ p.key) : lookup entries p = none := by
  rw [lookup_eq_map_find, find_eq_none h]
  rfl

theorem lookup_eq_some_iff {entries : List (Path × α)} (hasc : Ascending entries) {p : Path}
    {a : α} : lookup entries p = some a ↔ ∃ q, (q, a) ∈ entries ∧ q.key = p.key := by
  rw [lookup_eq_map_find, Option.map_eq_some_iff]
  constructor
  · rintro ⟨e, he, rfl⟩
    exact ⟨e.1, (find_eq_some_iff hasc).1 he⟩
  · rintro ⟨q, h⟩
    exact ⟨(q, a), (find_eq_some_iff hasc).2 h, rfl⟩

theorem lookup_insertWith (update : α → α) (p : Path) (a : α) {entries : List (Path × α)}
    (hasc : Ascending entries) (q : Path) :
    lookup (insertWith update p a entries) q =
      if p.key = q.key then some ((lookup entries p).elim a update) else lookup entries q := by
  rw [lookup_eq_map_find, lookup_eq_map_find, lookup_eq_map_find, find_insertWith update p a hasc]
  split
  · cases find entries p <;> rfl
  · rfl

/-- The entry of a path, with the path as it is written in the map. -/
def entryOf? (m : PathMap α) (p : Path) : Option (Path × α) := find m.entries p

theorem entryOf?_eq_some_iff {m : PathMap α} {p : Path} {e : Path × α} :
    m.entryOf? p = some e ↔ e ∈ m.entries ∧ e.1.key = p.key :=
  find_eq_some_iff m.ascending

theorem entryOf?_insertNew (m : PathMap α) (p q : Path) (a : α) :
    (m.insertNew p a).entryOf? q =
      if p.key = q.key then some ((m.entryOf? q).getD (p, a)) else m.entryOf? q := by
  rw [entryOf?, insertNew, find_insertWith id p a m.ascending, entryOf?]
  split
  · rename_i hkey
    rw [find_congr _ hkey]
    cases find m.entries q <;> rfl
  · rfl

theorem entryOf?_modify (m : PathMap α) (p q : Path) (f : α → α) :
    (m.modify p f).entryOf? q =
      if p.key = q.key then (m.entryOf? q).map (fun e => (e.1, f e.2)) else m.entryOf? q :=
  find_map_modify m.entries p q f

@[simp]
theorem get?_empty (p : Path) : ({} : PathMap α).get? p = none := rfl

@[simp]
theorem contains_empty (p : Path) : ({} : PathMap α).contains p = false := rfl

theorem get?_eq_some_iff {m : PathMap α} {p : Path} {a : α} :
    m.get? p = some a ↔ ∃ q, (q, a) ∈ m.entries ∧ q.key = p.key :=
  lookup_eq_some_iff m.ascending

theorem get?_of_mem {m : PathMap α} {p : Path} {a : α} (h : (p, a) ∈ m.entries) :
    m.get? p = some a :=
  get?_eq_some_iff.2 ⟨p, h, rfl⟩

theorem get?_congr (m : PathMap α) {p q : Path} (h : p.key = q.key) : m.get? p = m.get? q := by
  apply Option.ext
  intro a
  rw [get?_eq_some_iff, get?_eq_some_iff, h]

theorem get?_insert (m : PathMap α) (p q : Path) (a : α) :
    (m.insert p a).get? q = if p.key = q.key then some a else m.get? q := by
  rw [get?_eq_lookup, insert, lookup_insertWith _ _ _ m.ascending, get?_eq_lookup]
  cases lookup m.entries p <;> rfl

theorem get?_insertNew (m : PathMap α) (p q : Path) (a : α) :
    (m.insertNew p a).get? q = if p.key = q.key then some ((m.get? p).getD a) else m.get? q := by
  rw [get?_eq_lookup, insertNew, lookup_insertWith _ _ _ m.ascending, get?_eq_lookup,
    get?_eq_lookup]
  cases lookup m.entries p <;> rfl

theorem contains_eq_isSome (m : PathMap α) (p : Path) : m.contains p = (m.get? p).isSome := by
  rw [Bool.eq_iff_iff, contains, get?, Option.isSome_map, List.any_eq_true, List.find?_isSome]

theorem keys_ascending (m : PathMap α) : m.keys.Pairwise fun p q => p.key < q.key :=
  List.pairwise_map.2 m.ascending

theorem eq_of_mem_keys {m : PathMap α} {p q : Path} (hp : p ∈ m.keys) (hq : q ∈ m.keys)
    (h : p.key = q.key) : p = q :=
  eq_of_ascending_of_key_eq Path.key m.keys_ascending hp hq h

theorem mem_keys_iff {m : PathMap α} {p : Path} : p ∈ m.keys ↔ ∃ a, (p, a) ∈ m.entries := by
  simp [keys]

theorem mem_entries_iff {m : PathMap α} {p : Path} {a : α} :
    (p, a) ∈ m.entries ↔ p ∈ m.keys ∧ m.get? p = some a := by
  constructor
  · intro h
    exact ⟨mem_keys_iff.2 ⟨a, h⟩, get?_of_mem h⟩
  · rintro ⟨hp, ha⟩
    obtain ⟨q, hq, hkey⟩ := get?_eq_some_iff.1 ha
    rwa [← eq_of_mem_keys (mem_keys_iff.2 ⟨a, hq⟩) hp hkey]

theorem map_fst_insertWith {update : α → α} {p : Path} {a : α} {entries : List (Path × α)}
    (hasc : Ascending entries) {e : Path × α} (he : e ∈ entries) (hkey : e.1.key = p.key) :
    (insertWith update p a entries).map (·.1) = entries.map (·.1) := by
  induction entries with
  | nil => cases he
  | cons entry others ih =>
      obtain ⟨hhead, htail⟩ := List.pairwise_cons.1 hasc
      rw [insertWith]
      split
      · rfl
      · rename_i hne
        rcases List.mem_cons.1 he with rfl | he
        · exact absurd hkey.symm hne
        · have hlt := hhead e he
          rw [hkey] at hlt
          rw [if_neg (List.lt_asymm hlt), List.map_cons, List.map_cons, ih htail he]

/-- Setting a path that is present leaves the paths as they were written. -/
theorem keys_insert_of_contains {m : PathMap α} {p : Path} (h : m.contains p = true) (a : α) :
    (m.insert p a).keys = m.keys := by
  rw [contains_eq_isSome, Option.isSome_iff_exists] at h
  obtain ⟨b, hb⟩ := h
  obtain ⟨q, hq, hkey⟩ := get?_eq_some_iff.1 hb
  exact map_fst_insertWith m.ascending hq hkey

@[simp]
theorem keys_modify (m : PathMap α) (p : Path) (f : α → α) : (m.modify p f).keys = m.keys := by
  rw [keys, modify, List.map_map]
  apply List.map_congr_left
  intro e _
  dsimp only [Function.comp]
  split <;> rfl

theorem fst_of_mem_insertWith {update : α → α} {p : Path} {a : α} {entries : List (Path × α)}
    {e : Path × α} (he : e ∈ insertWith update p a entries) :
    e.1 = p ∨ e.1 ∈ entries.map (·.1) := by
  induction entries with
  | nil =>
      rw [insertWith, List.mem_singleton] at he
      exact Or.inl (by rw [he])
  | cons entry others ih =>
      rw [insertWith] at he
      split at he
      · rcases List.mem_cons.1 he with rfl | he
        · exact Or.inr List.mem_cons_self
        · exact Or.inr (List.mem_cons_of_mem _ (List.mem_map_of_mem he))
      · split at he
        · rcases List.mem_cons.1 he with rfl | he
          · exact Or.inl rfl
          · exact Or.inr (List.mem_map_of_mem he)
        · rcases List.mem_cons.1 he with rfl | he
          · exact Or.inr List.mem_cons_self
          · exact (ih he).imp_right (List.mem_cons_of_mem _)

theorem mem_keys_insertNew {m : PathMap α} {p q : Path} {a : α} (h : q ∈ (m.insertNew p a).keys) :
    q = p ∨ q ∈ m.keys := by
  obtain ⟨e, he, rfl⟩ := List.mem_map.1 h
  exact fst_of_mem_insertWith he

theorem mem_keys_insert {m : PathMap α} {p q : Path} {a : α} (h : q ∈ (m.insert p a).keys) :
    q = p ∨ q ∈ m.keys := by
  obtain ⟨e, he, rfl⟩ := List.mem_map.1 h
  exact fst_of_mem_insertWith he

theorem exists_mem_keys_insert {m : PathMap α} {p q : Path} {a : α} (h : q ∈ m.keys ∨ q = p) :
    ∃ r ∈ (m.insert p a).keys, r.key = q.key := by
  have hget : ((m.insert p a).get? q).isSome := by
    rw [get?_insert]
    by_cases hkey : p.key = q.key
    · rw [if_pos hkey]
      rfl
    · obtain ⟨b, hb⟩ := mem_keys_iff.1 (h.resolve_right fun heq => hkey (by rw [heq]))
      rw [if_neg hkey, get?_of_mem hb]
      rfl
  obtain ⟨b, hb⟩ := Option.isSome_iff_exists.1 hget
  obtain ⟨r, hr, hkey⟩ := get?_eq_some_iff.1 hb
  exact ⟨r, mem_keys_iff.2 ⟨b, hr⟩, hkey⟩

/-- The entries of a list bring no other paths than theirs, and lose none. -/
theorem foldl_insert (entries : List (Path × α)) (m : PathMap α) :
    (∀ p ∈ (entries.foldl (fun m (p, a) => m.insert p a) m).keys,
      p ∈ m.keys ∨ p ∈ entries.map (·.1)) ∧
    ∀ p, p ∈ m.keys ∨ p ∈ entries.map (·.1) →
      ∃ q ∈ (entries.foldl (fun m (p, a) => m.insert p a) m).keys, q.key = p.key := by
  induction entries generalizing m with
  | nil =>
      refine ⟨fun p hp => Or.inl hp, fun p hp => ⟨p, ?_, rfl⟩⟩
      exact hp.resolve_right List.not_mem_nil
  | cons e others ih =>
      obtain ⟨hfrom, hto⟩ := ih (m.insert e.1 e.2)
      refine ⟨fun p hp => ?_, fun p hp => ?_⟩
      · rcases hfrom p hp with hp | hp
        · rcases mem_keys_insert hp with rfl | hp
          · exact Or.inr List.mem_cons_self
          · exact Or.inl hp
        · exact Or.inr (List.mem_cons_of_mem _ hp)
      · rw [List.map_cons, List.mem_cons, ← or_assoc] at hp
        rcases hp with hp | hp
        · obtain ⟨q, hq, hkey⟩ := exists_mem_keys_insert (a := e.2) hp
          obtain ⟨r, hr, hrkey⟩ := hto q (Or.inl hq)
          exact ⟨r, hr, hrkey.trans hkey⟩
        · exact hto p (Or.inr hp)

end PathMap

theorem sortPaths_eq {paths sorted : List Path} (hsorted : sorted.Pairwise fun p q => p.key < q.key)
    (hmem : ∀ p, p ∈ sorted ↔ p ∈ paths) : sortPaths paths = sorted := by
  obtain ⟨hfrom, hto⟩ := PathMap.foldl_insert (paths.reverse.map (·, ())) {}
  have hfst : (paths.reverse.map (·, ())).map (·.1) = paths.reverse := by
    rw [List.map_map]
    exact List.map_id _
  rw [hfst] at hfrom hto
  have hfrom' : ∀ p ∈ sortPaths paths, p ∈ sorted := by
    intro p hp
    rw [hmem]
    exact List.mem_reverse.1 ((hfrom p hp).resolve_left List.not_mem_nil)
  refine eq_of_ascending_of_mem_iff Path.key (PathMap.keys_ascending _) hsorted fun p =>
    ⟨hfrom' p, fun hp => ?_⟩
  obtain ⟨q, hq, hkey⟩ := hto p (Or.inr (List.mem_reverse.2 ((hmem p).1 hp)))
  rwa [← eq_of_ascending_of_key_eq Path.key hsorted (hfrom' q hq) hp hkey]

end Sweep
