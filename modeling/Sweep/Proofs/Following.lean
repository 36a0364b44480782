import Sweep.Proofs.FileTree

/-!
# Following paths

A path that leads somewhere goes from one directory to the next, and jumps where it meets a link.
In a well-formed tree the absolute path of a file leads to the file. The path of a link leads to
another place: what is read under a path is at the location that the path leads to, and there it is
written as well. What was written under a path is read under this path afterwards.
-/

namespace Sweep

namespace FileTree

variable {tree : FileTree} {purpose : Purpose} {links : Nat} {l last next : Location} {part : Text}
  {parts others : List Text} {content : Bytes} {p : Path}

/-! ### One part -/

theorem isDirectory_of_enter (h : tree.enter l part = .ok next) : tree.isDirectory l = true := by
  rw [enter] at h
  by_contra hdirectory
  rw [if_pos (by simpa using hdirectory)] at h
  cases h

theorem enter_eq_ok_iff :
    tree.enter l part = .ok next ↔ tree.isDirectory l = true ∧
      if part = [] ∨ part = ['.'] then l = next
      else if part = ['.', '.'] then l.dropLast = next
      else isTooLong part = false ∧ (tree.entry? (l ++ [part])).isSome ∧ l ++ [part] = next := by
  unfold enter
  cases tree.isDirectory l with
  | false => simp
  | true =>
    rw [if_neg (by decide)]
    split_ifs with hdot hdots hlong hsome
    · simp
    · simp
    · simp [hlong]
    · simp [hlong, hsome]
    · simp [hlong, hsome]

/-- A part leads to the same location wherever it is entered from a directory, if an entry that is
there is still there. -/
theorem enter_of_entries {other : FileTree} (h : tree.enter l part = .ok next)
    (hl : other.isDirectory l = true)
    (hnext : (tree.entry? next).isSome → (other.entry? next).isSome) :
    other.enter l part = .ok next := by
  rw [enter_eq_ok_iff] at h ⊢
  refine ⟨hl, ?_⟩
  have hplace := h.2
  split_ifs at hplace ⊢ with hdot hdots
  · exact hplace
  · exact hplace
  · obtain ⟨hlong, hsome, rfl⟩ := hplace
    exact ⟨hlong, hnext hsome, rfl⟩

theorem enter_nil (h : tree.isDirectory l = true) : tree.enter l [] = .ok l := by
  rw [enter, h, if_neg (by decide), if_pos (Or.inl rfl)]

theorem enter_name {name : Text} (hname : IsName name) (hl : tree.isDirectory l = true)
    (h : (tree.entry? (l ++ [name])).isSome) : tree.enter l name = .ok (l ++ [name]) := by
  have hlong : isTooLong name = false := by
    rw [isTooLong, decide_eq_false_iff_not, Nat.not_lt]
    exact hname.length
  rw [enter, hl, if_neg (by decide), if_neg (by simp [hname.nonempty, hname.ne_dot]),
    if_neg hname.ne_dots, hlong, if_neg Bool.false_ne_true, if_pos h]

@[simp]
theorem arrive_find (tree : FileTree) (l : Location) (part : Text) (others : List Text) :
    tree.arrive .find l part others = tree.enter l part :=
  if_neg fun h => Purpose.noConfusion h.1

theorem arrive_of_enter (h : tree.enter l part = .ok next)
    (hothers : isLastName part others = true → others = []) :
    tree.arrive purpose l part others = .ok next := by
  unfold arrive
  split
  · rename_i hname
    obtain rfl := hothers hname.2
    rw [isDirectory_of_enter h, h]
    rfl
  · exact h

/-- A part leads to an entry, or to the place of a file that is not there yet. -/
theorem arrive_cases (h : tree.arrive purpose l part others = .ok next) :
    tree.enter l part = .ok next ∨
      (tree.enter l part = .error .missing ∧ tree.isDirectory l = true ∧
        isLastName part others = true ∧ others = [] ∧ l ++ [part] = next) := by
  unfold arrive at h
  split at h
  · rename_i hname
    split_ifs at h with hdirectory hothers
    split at h
    · rename_i hmissing
      exact Or.inr ⟨hmissing, by simpa using hdirectory, hname.2, by simpa using hothers,
        Except.ok.inj h⟩
    · exact Or.inl h
  · exact Or.inl h

/-- Where a name was missing it leads to an entry that has been put there. -/
theorem enter_of_missing {other : FileTree} (h : tree.enter l part = .error .missing)
    (hl : tree.isDirectory l = true) (hname : isLastName part others = true)
    (hother : other.isDirectory l = true) (hentry : (other.entry? (l ++ [part])).isSome) :
    other.enter l part = .ok (l ++ [part]) := by
  simp only [isLastName, Bool.and_eq_true, bne_iff_ne] at hname
  obtain ⟨⟨⟨hempty, hdot⟩, hdots⟩, -⟩ := hname
  have hnames : ¬(part = [] ∨ part = ['.']) := not_or.2 ⟨hempty, hdot⟩
  rw [enter_eq_ok_iff, if_neg hnames, if_neg hdots]
  rw [enter, hl, if_neg (by decide), if_neg hnames, if_neg hdots] at h
  refine ⟨hother, ?_, hentry, rfl⟩
  by_contra hlong
  rw [if_pos (by simpa using hlong)] at h
  cases h

/-! ### All parts -/

/-- Parts lead from a location to the last one, with at most some number of links on the way. -/
inductive Leads (tree : FileTree) (purpose : Purpose) (last : Location) :
    (links : Nat) → Location → List Text → Prop
  | here {links : Nat} : Leads tree purpose last links last []
  | step {links : Nat} {l next : Location} {part : Text} {others : List Text}
      (harrive : tree.arrive purpose l part others = .ok next)
      (hentry : ∀ target, tree.entry? next ≠ some (.link target))
      (h : Leads tree purpose last links next others) :
      Leads tree purpose last links l (part :: others)
  | jump {links : Nat} {l next : Location} {part : Text} {others : List Text} {target : Path}
      (harrive : tree.arrive purpose l part others = .ok next)
      (hentry : tree.entry? next = some (.link target))
      (h : Leads tree purpose last links (startFrom l target) (target.parts ++ others)) :
      Leads tree purpose last (links + 1) l (part :: others)

theorem follow_nil : tree.follow purpose links l [] = .ok l := by
  cases links <;> rfl

theorem follow_cons_of_error {fault : FileFault}
    (harrive : tree.arrive purpose l part others = .error fault) :
    tree.follow purpose links l (part :: others) = .error fault := by
  cases links <;> (rw [follow, walk, harrive])

theorem follow_cons_of_not_link (harrive : tree.arrive purpose l part others = .ok next)
    (hentry : ∀ target, tree.entry? next ≠ some (.link target)) :
    tree.follow purpose links l (part :: others) = tree.follow purpose links next others := by
  cases links with
  | zero =>
      rw [follow, walk, harrive]
      simp only
  | succ links =>
      rw [follow, walk, harrive]
      simp only

theorem follow_cons_of_link {target : Path} (harrive : tree.arrive purpose l part others = .ok next)
    (hentry : tree.entry? next = some (.link target)) :
    tree.follow purpose links l (part :: others) =
      match links with
      | 0 => .error .tooManyLinks
      | links + 1 => tree.follow purpose links (startFrom l target) (target.parts ++ others) := by
  cases links <;> (rw [follow, walk, harrive]; simp only [hentry])

theorem leads_of_follow (h : tree.follow purpose links l parts = .ok last) :
    Leads tree purpose last links l parts := by
  -- Each link starts over with fewer links and other parts.
  induction links using Nat.strongRecOn generalizing l parts with
  | ind links ihLinks =>
  induction parts generalizing l with
  | nil =>
      rw [follow_nil] at h
      obtain rfl := Except.ok.inj h
      exact .here
  | cons part others ih =>
  cases harrive : tree.arrive purpose l part others with
  | error fault =>
      rw [follow_cons_of_error harrive] at h
      cases h
  | ok next =>
  by_cases hlink : ∃ target, tree.entry? next = some (.link target)
  · obtain ⟨target, hentry⟩ := hlink
    rw [follow_cons_of_link harrive hentry] at h
    cases links with
    | zero => cases h
    | succ links => exact .jump harrive hentry (ihLinks links (Nat.lt_succ_self links) h)
  · have hentry := not_exists.1 hlink
    rw [follow_cons_of_not_link harrive hentry] at h
    exact .step harrive hentry (ih h)

theorem follow_eq_ok_iff :
    tree.follow purpose links l parts = .ok last ↔ Leads tree purpose last links l parts := by
  refine ⟨leads_of_follow, fun h => ?_⟩
  induction h with
  | here => exact follow_nil
  | step harrive hentry _ ih => rw [follow_cons_of_not_link harrive hentry, ih]
  | jump harrive hentry _ ih =>
      rw [follow_cons_of_link harrive hentry]
      exact ih

namespace Leads

/-- No path ends at a link. -/
theorem not_link (h : Leads tree purpose last links l parts) (hne : parts ≠ []) :
    ∀ target, tree.entry? last ≠ some (.link target) := by
  induction h with
  | here => exact absurd rfl hne
  | @step _ _ next _ others _ hentry h ih =>
      by_cases hothers : others = []
      · subst hothers
        cases h
        exact hentry
      · exact ih hothers
  | jump _ _ _ ih =>
      exact ih fun hnil => Text.split_ne_nil _ _ (List.append_eq_nil_iff.1 hnil).1

/-- A path that ends in a slash leads to a directory. -/
theorem isDirectory_of_getLast? (h : Leads tree .find last links l parts)
    (hlast : parts.getLast? = some []) : tree.isDirectory last = true := by
  have henter_nil : ∀ {l next : Location}, tree.arrive .find l [] [] = .ok next →
      tree.isDirectory next = true := by
    intro l next harrive
    have henter := enter_eq_ok_iff.1 ((arrive_find tree l [] []).symm.trans harrive)
    obtain rfl : l = next := henter.2
    exact henter.1
  induction h with
  | here => cases hlast
  | @step _ _ next part others harrive _ h ih =>
      cases others with
      | nil =>
          obtain rfl : part = [] := Option.some.inj hlast
          cases h
          exact henter_nil harrive
      | cons other others => exact ih (by rwa [List.getLast?_cons_cons] at hlast)
  | @jump _ _ next part others target harrive hentry h ih =>
      cases others with
      | nil =>
          obtain rfl : part = [] := Option.some.inj hlast
          exact absurd hentry (not_link_of_isDirectory (henter_nil harrive) target)
      | cons other others =>
          refine ih ?_
          rw [List.getLast?_append, ← List.getLast?_cons_cons, hlast]
          rfl

/-- What is found under a path can be written under it, unless it is a directory. -/
theorem create (h : Leads tree .find last links l parts) (hlast : tree.isDirectory last = false) :
    Leads tree .create last links l parts := by
  have harrive_create : ∀ {links : Nat} {l next : Location} {part : Text} {others : List Text},
      Leads tree .find last links l (part :: others) → tree.arrive .find l part others = .ok next →
      tree.arrive .create l part others = .ok next := by
    intro links l next part others h harrive
    rw [arrive_find] at harrive
    refine arrive_of_enter harrive fun hname => ?_
    by_contra hothers
    have hempty : others.getLast hothers = [] := by
      have hall := (Bool.and_eq_true_iff.1 hname).2
      exact eq_of_beq (List.all_eq_true.1 hall _ (List.getLast_mem hothers))
    have hend : (part :: others).getLast? = some [] := by
      rw [List.getLast?_cons, List.getLast?_eq_some_getLast hothers, hempty]
      rfl
    rw [h.isDirectory_of_getLast? hend] at hlast
    cases hlast
  induction h with
  | here => exact .here
  | step harrive hentry h ih =>
      exact .step (harrive_create (.step harrive hentry h) harrive) hentry ih
  | jump harrive hentry h ih =>
      exact .jump (harrive_create (.jump harrive hentry h) harrive) hentry ih

/-- A path that leads to the place of a new file leads to the file when it is there. On the way
there are only directories and links, and the place of the file is none of them. -/
theorem putFile (h : Leads tree .create last links l parts)
    (hlast : tree.isDirectory last = false)
    (hlink : ∀ target, tree.entry? last ≠ some (.link target)) (content : Bytes) :
    Leads (tree.putFile last content) .find last links l parts := by
  have hsome : ∀ {next}, (tree.entry? next).isSome ∨ next = last →
      (FileTree.entry? (tree.putFile last content) next).isSome := by
    intro next h
    rw [entry?_putFile]
    split
    · rfl
    · exact h.resolve_right ‹_›
  have harrive_find : ∀ {l next : Location} {part : Text} {others : List Text},
      tree.arrive .create l part others = .ok next →
      (others = [] → (tree.entry? next).isSome ∨ next = last) →
      (tree.putFile last content).arrive .find l part others = .ok next := by
    intro l next part others harrive hnext
    rw [arrive_find]
    rcases arrive_cases harrive with henter | ⟨hmissing, hl, hname, hothers, rfl⟩
    · refine enter_of_entries henter ?_ fun h => hsome (Or.inl h)
      rw [isDirectory_putFile hlast]
      exact isDirectory_of_enter henter
    · refine enter_of_missing hmissing hl hname ?_ (hsome (hnext hothers))
      rw [isDirectory_putFile hlast]
      exact hl
  induction h with
  | here => exact .here
  | @step _ _ next _ _ harrive hentry h ih =>
      refine .step (harrive_find harrive fun hnil => Or.inr ?_) (fun target => ?_) ih
      · subst hnil
        cases h
        rfl
      · rw [entry?_putFile]
        split
        · simp
        · exact hentry target
  | @jump _ _ next _ _ target harrive hentry h ih =>
      refine .jump (harrive_find harrive fun _ => Or.inl ?_) ?_ ih
      · rw [hentry]
        rfl
      · rw [entry?_putFile, if_neg, hentry]
        rintro rfl
        exact hlink target hentry

end Leads

/-! ### The path of a file -/

theorem leads_names (htree : tree.WellFormed) {front names : Location}
    (h : (tree.entry? (front ++ names)).isSome)
    (hlink : ∀ target, tree.entry? (front ++ names) ≠ some (.link target)) :
    Leads tree purpose (front ++ names) links front names := by
  induction names generalizing front with
  | nil =>
      rw [List.append_nil]
      exact .here
  | cons name names ih =>
      have hnext : front ++ name :: names = front ++ [name] ++ names := by simp
      have hproper := isProper_of_isSome htree h
      have hdirectory := isDirectory_of_isSome htree (List.cons_ne_nil name names) h
      have hparent : names ≠ [] → tree.isDirectory (front ++ [name]) = true := by
        intro hnil
        rw [hnext] at h
        exact isDirectory_of_isSome htree hnil h
      have hentry : (tree.entry? (front ++ [name])).isSome := by
        by_cases hnil : names = []
        · rwa [hnil] at h
        · exact isSome_of_isDirectory (hparent hnil)
      have hnot_link : ∀ target, tree.entry? (front ++ [name]) ≠ some (.link target) := by
        by_cases hnil : names = []
        · rwa [hnil] at hlink
        · exact not_link_of_isDirectory (hparent hnil)
      have henter := enter_name (hproper name (by simp)) hdirectory hentry
      rw [hnext] at h hlink ⊢
      refine .step (arrive_of_enter henter fun hname => ?_) hnot_link (ih h hlink)
      -- Names are not empty, so there are none behind the last one.
      cases names with
      | nil => rfl
      | cons other names =>
          simp only [isLastName, List.all_cons, Bool.and_eq_true, beq_iff_eq] at hname
          exact absurd hname.2.1 (hproper other (by simp)).nonempty

theorem no_nul_path (hl : l.IsProper) : '\x00' ∉ l.path.text := by
  intro hmem
  rcases List.mem_cons.1 hmem with heq | hmem
  · exact absurd heq (by decide)
  · rcases Text.mem_join hmem with hslash | ⟨name, hname, hmem⟩
    · exact absurd (List.mem_singleton.1 hslash) (by decide)
    · exact (hl name hname).no_nul hmem

theorem textFault?_path (hl : l.IsProper) : textFault? l.path = none := by
  have hne : l.path.text ≠ [] := List.cons_ne_nil _ _
  rw [textFault?, if_neg (no_nul_path hl), if_neg hne]

theorem pathFault?_path (hl : l.IsProper) :
    pathFault? l.path = none ↔ isReachable l = true := by
  rw [pathFault?, textFault?_path hl, Option.none_or, isReachable, decide_eq_true_iff,
    ← Nat.not_lt]
  simp

theorem leads_path (htree : tree.WellFormed) (hne : l ≠ []) (h : (tree.entry? l).isSome)
    (hlink : ∀ target, tree.entry? l ≠ some (.link target)) :
    Leads tree purpose l links [] l.path.parts := by
  have hroot : tree.isDirectory [] = true :=
    isDirectory_of_isSome htree hne (show (tree.entry? ([] ++ l)).isSome from h)
  have hleads : Leads tree purpose ([] ++ l) links [] l := leads_names htree h hlink
  rw [Path.parts, Location.split_path (isProper_of_isSome htree h) hne]
  exact .step (arrive_of_enter (enter_nil hroot) fun hname => by cases hname)
    (not_link_of_isDirectory hroot) hleads

/-! ### Resolving, reading and writing -/

theorem resolve_eq_ok_iff :
    tree.resolve p = .ok l ↔ textFault? p = none ∧
      Leads tree .find l maxLinks (startFrom tree.workingDirectory p) p.parts := by
  rw [resolve]
  cases textFault? p with
  | none => simp [follow_eq_ok_iff]
  | some fault => simp

theorem placeOf_eq_ok_iff :
    tree.placeOf p = .ok l ↔ pathFault? p = none ∧
      Leads tree .create l maxLinks (startFrom tree.workingDirectory p) p.parts ∧
      tree.isDirectory l = false := by
  rw [placeOf]
  cases pathFault? p with
  | some fault => simp
  | none =>
      simp only [true_and, ← follow_eq_ok_iff]
      cases tree.follow .create maxLinks (startFrom tree.workingDirectory p) p.parts with
      | error fault => simp
      | ok last =>
          simp only [Except.ok.injEq]
          cases hlast : tree.isDirectory last with
          | true =>
              rw [if_pos rfl]
              constructor
              · intro h
                cases h
              · rintro ⟨rfl, hl⟩
                rw [hl] at hlast
                cases hlast
          | false =>
              rw [if_neg Bool.false_ne_true, Except.ok.injEq]
              constructor
              · rintro rfl
                exact ⟨rfl, hlast⟩
              · exact fun h => h.1

theorem read_eq_ok_iff :
    tree.read p = .ok content ↔ pathFault? p = none ∧
      ∃ l, tree.resolve p = .ok l ∧ tree.entry? l = some (.file content) := by
  rw [read]
  cases pathFault? p with
  | some fault => simp
  | none =>
      cases tree.resolve p with
      | error fault => simp
      | ok l =>
          simp only [true_and, Except.ok.injEq, exists_eq_left']
          split
          · rename_i hentry
            rw [hentry, Except.ok.injEq, Option.some.injEq, Entry.file.injEq]
          · rename_i hentry
            simp [hentry]
          · rename_i hfile _
            constructor
            · intro h
              cases h
            · exact fun h => absurd h (hfile content)

theorem resolve_path (htree : tree.WellFormed) (hne : l ≠ []) (h : (l, content) ∈ tree.files) :
    tree.resolve l.path = .ok l := by
  have hentry := entry?_of_mem htree h
  have hsome : (tree.entry? l).isSome := by
    rw [hentry]
    rfl
  refine resolve_eq_ok_iff.2 ⟨textFault?_path (isProper_of_isSome htree hsome), ?_⟩
  exact leads_path htree hne hsome fun target htarget => by cases hentry.symm.trans htarget

theorem read_path (htree : tree.WellFormed) (hne : l ≠ []) (h : (l, content) ∈ tree.files)
    (hreachable : isReachable l = true) : tree.read l.path = .ok content := by
  have hl := htree.names l (List.mem_append_left _ (List.mem_append_left _ (List.mem_map_of_mem h)))
  exact read_eq_ok_iff.2 ⟨(pathFault?_path hl).2 hreachable, l, resolve_path htree hne h,
    entry?_of_mem htree h⟩

/-- The path of the root directory leads to no file. -/
theorem read_path_nil_ne_ok (tree : FileTree) (content : Bytes) :
    tree.read (Location.path []) ≠ .ok content := by
  intro h
  obtain ⟨-, l, hresolve, hentry⟩ := read_eq_ok_iff.1 h
  have hdirectory := (resolve_eq_ok_iff.1 hresolve).2.isDirectory_of_getLast? rfl
  rw [isDirectory, hentry] at hdirectory
  cases hdirectory

theorem leadsToFile_iff : tree.leadsToFile p = true ↔ ∃ content, tree.read p = .ok content := by
  rw [leadsToFile]
  cases tree.read p with
  | error fault => simp [Except.toBool]
  | ok content => simp [Except.toBool]

/-- The absolute path of a file leads to it, unless it is too long for any file. -/
theorem leadsToFile_path (htree : tree.WellFormed) (hne : l ≠ [])
    (h : l ∈ tree.files.map (·.1)) : tree.leadsToFile l.path = isReachable l := by
  obtain ⟨⟨k, content⟩, hmem, rfl⟩ := List.mem_map.1 h
  have hl := htree.names k (List.mem_append_left _ (List.mem_append_left _ h))
  rw [Bool.eq_iff_iff, leadsToFile_iff]
  constructor
  · rintro ⟨b, hread⟩
    exact (pathFault?_path hl).1 (read_eq_ok_iff.1 hread).1
  · exact fun hreachable => ⟨content, read_path htree hne hmem hreachable⟩

theorem parts_ne_nil (p : Path) : p.parts ≠ [] := Text.split_ne_nil _ _

/-- What is read under a path is at the location that the path leads to, and what is written under
the path goes there too. -/
theorem exists_placeOf_of_read (h : tree.read p = .ok content) :
    ∃ l, tree.resolve p = .ok l ∧ tree.placeOf p = .ok l ∧
      tree.entry? l = some (.file content) := by
  obtain ⟨hpath, l, hresolve, hentry⟩ := read_eq_ok_iff.1 h
  have hl : tree.isDirectory l = false := by
    rw [isDirectory, hentry]
    rfl
  exact ⟨l, hresolve, placeOf_eq_ok_iff.2 ⟨hpath, (resolve_eq_ok_iff.1 hresolve).2.create hl, hl⟩,
    hentry⟩

theorem write_eq_ok_iff {grown : FileTree} :
    tree.write p content = .ok grown ↔
      ∃ l, tree.placeOf p = .ok l ∧ tree.putFile l content = grown := by
  rw [write]
  cases tree.placeOf p with
  | error fault => simp [Except.map]
  | ok l => simp [Except.map]

/-- **What was written under a path is read under it**, whatever parts and links the path goes
through. -/
theorem read_of_write {grown : FileTree} (h : tree.write p content = .ok grown) :
    grown.read p = .ok content := by
  obtain ⟨l, hplace, rfl⟩ := write_eq_ok_iff.1 h
  obtain ⟨hpath, hleads, hl⟩ := placeOf_eq_ok_iff.1 hplace
  have hlink := hleads.not_link (parts_ne_nil p)
  have htext : textFault? p = none := (Option.or_eq_none_iff.1 hpath).1
  refine read_eq_ok_iff.2 ⟨hpath, l, resolve_eq_ok_iff.2 ⟨htext, ?_⟩, ?_⟩
  · exact hleads.putFile hl hlink content
  · rw [entry?_putFile, if_pos rfl]

/-! ### Trees of the same shape -/

/-- Whether another tree has the same files, links and directories, whatever the files hold. -/
structure SameShape (tree other : FileTree) : Prop where
  isSome : ∀ l, (other.entry? l).isSome = (tree.entry? l).isSome
  isDirectory : ∀ l, other.isDirectory l = tree.isDirectory l
  isLink : ∀ l target, other.entry? l = some (.link target) ↔ tree.entry? l = some (.link target)
  workingDirectory : other.workingDirectory = tree.workingDirectory

namespace SameShape

variable {other third : FileTree}

theorem refl (tree : FileTree) : SameShape tree tree :=
  ⟨fun _ => rfl, fun _ => rfl, fun _ _ => Iff.rfl, rfl⟩

theorem symm (h : SameShape tree other) : SameShape other tree where
  isSome l := (h.isSome l).symm
  isDirectory l := (h.isDirectory l).symm
  isLink l target := (h.isLink l target).symm
  workingDirectory := h.workingDirectory.symm

theorem trans (h : SameShape tree other) (h' : SameShape other third) : SameShape tree third where
  isSome l := (h'.isSome l).trans (h.isSome l)
  isDirectory l := (h'.isDirectory l).trans (h.isDirectory l)
  isLink l target := (h'.isLink l target).trans (h.isLink l target)
  workingDirectory := h'.workingDirectory.trans h.workingDirectory

theorem putFile (h : tree.entry? l = some (.file content)) (new : Bytes) :
    SameShape tree (tree.putFile l new) where
  isSome k := by
    rw [entry?_putFile]
    split
    · rename_i hk
      rw [hk, h]
      rfl
    · rfl
  isDirectory := isDirectory_putFile (by rw [FileTree.isDirectory, h]; rfl) new
  isLink k target := by
    rw [entry?_putFile]
    split
    · rename_i hk
      rw [hk, h]
      simp
    · rfl
  workingDirectory := rfl

theorem exists_file (h : SameShape tree other) (hfile : tree.entry? l = some (.file content)) :
    ∃ b, other.entry? l = some (.file b) := by
  have hsome := h.isSome l
  have hdirectory := h.isDirectory l
  have hlink := h.isLink l
  rw [FileTree.isDirectory, FileTree.isDirectory, hfile] at hdirectory
  rw [hfile] at hsome
  cases hentry : other.entry? l with
  | none =>
      rw [hentry] at hsome
      cases hsome
  | some entry =>
      cases entry with
      | file b => exact ⟨b, rfl⟩
      | link target =>
          have hfound := (hlink target).1 hentry
          rw [hfile] at hfound
          cases hfound
      | directory =>
          rw [hentry] at hdirectory
          cases hdirectory

theorem arrive_eq (h : SameShape tree other) (purpose : Purpose) (l : Location) (part : Text)
    (others : List Text) :
    other.arrive purpose l part others = tree.arrive purpose l part others := by
  have hfault : ∀ l, other.directoryFault l = tree.directoryFault l := by
    intro l
    rw [directoryFault, directoryFault, h.isSome]
  have henter : other.enter l part = tree.enter l part := by
    rw [enter, enter, h.isDirectory, hfault, h.isSome]
  rw [arrive, arrive, h.isDirectory, hfault, henter]

theorem leads (h : SameShape tree other) (hleads : Leads tree purpose last links l parts) :
    Leads other purpose last links l parts := by
  induction hleads with
  | here => exact .here
  | step harrive hentry _ ih =>
      rw [← h.arrive_eq] at harrive
      exact .step harrive (fun target => mt (h.isLink _ target).1 (hentry target)) ih
  | jump harrive hentry _ ih =>
      rw [← h.arrive_eq] at harrive
      exact .jump harrive ((h.isLink _ _).2 hentry) ih

theorem leads_iff (h : SameShape tree other) :
    Leads other purpose last links l parts ↔ Leads tree purpose last links l parts :=
  ⟨h.symm.leads, h.leads⟩

theorem resolve_eq_ok_iff (h : SameShape tree other) :
    other.resolve p = .ok l ↔ tree.resolve p = .ok l := by
  rw [FileTree.resolve_eq_ok_iff, FileTree.resolve_eq_ok_iff, h.leads_iff, h.workingDirectory]

theorem placeOf_eq_ok_iff (h : SameShape tree other) :
    other.placeOf p = .ok l ↔ tree.placeOf p = .ok l := by
  rw [FileTree.placeOf_eq_ok_iff, FileTree.placeOf_eq_ok_iff, h.leads_iff, h.workingDirectory,
    h.isDirectory]

end SameShape

end FileTree

end Sweep
