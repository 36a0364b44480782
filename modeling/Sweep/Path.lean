import Sweep.Text.Basic

/-!
Paths of files.

Two paths are the same if they have the same components; they may be written differently, with
slashes or single dots that do not count. Paths are ordered by their components.
-/

namespace Sweep

/-- A path as it was written. -/
structure Path where
  text : Text
  deriving DecidableEq, Repr

namespace Path

/-- A component of a path. -/
inductive Component where
  | root
  /-- A single dot, which counts only at the front of a relative path. -/
  | current
  | parent
  | normal (name : Text)
  deriving DecidableEq, Repr

/-- The component that a part of a path stands for behind the front. -/
def componentOf? (part : Text) : Option Component :=
  if part = [] ∨ part = ['.'] then none
  else if part = ['.', '.'] then some .parent
  else some (.normal part)

def components (p : Path) : List Component :=
  let parts := p.text.split '/'
  let front := match p.text, parts with
    | '/' :: _, _ => [Component.root]
    | _, ['.'] :: _ => [.current]
    | _, _ => []
  front ++ parts.filterMap componentOf?

def Component.text : Component → Text
  | .root => []
  | .current => ['.']
  | .parent => ['.', '.']
  | .normal name => name

/-- A path with the given components. Without components it is the working directory. -/
def ofComponents : List Component → Path
  | [] => ⟨['.']⟩
  | [.root] => ⟨['/']⟩
  | components => ⟨Text.join ['/'] (components.map Component.text)⟩

/-- A path within a directory. An absolute one stands for itself. -/
def join (p : Path) (inner : Text) : Path :=
  match inner, p.text.getLast? with
  | '/' :: _, _ => ⟨inner⟩
  | _, none => ⟨inner⟩
  | _, some '/' => ⟨p.text ++ inner⟩
  | _, some _ => ⟨p.text ++ '/' :: inner⟩

/-- A component as numbers: first its kind, then the characters of its name. -/
def Component.key : Component → List Nat
  | .root => [0]
  | .current => [1]
  | .parent => [2]
  | .normal name => 3 :: name.map Char.toNat

/-- The components as numbers. Paths are the same if their keys are, and ordered as these are. -/
def key (p : Path) : List (List Nat) := p.components.map Component.key

def same (p q : Path) : Bool := p.key == q.key

end Path

namespace PathMap

variable {α : Type}

/-- Puts an entry into its place. If the path is present, `update` makes its new value. -/
def insertWith (update : α → α) (p : Path) (a : α) : List (Path × α) → List (Path × α)
  | [] => [(p, a)]
  | (q, b) :: others =>
    if p.key = q.key then (q, update b) :: others
    else if p.key < q.key then (p, a) :: (q, b) :: others
    else (q, b) :: insertWith update p a others

def Ascending (entries : List (Path × α)) : Prop :=
  entries.Pairwise fun e f => e.1.key < f.1.key

instance (entries : List (Path × α)) : Decidable (Ascending entries) :=
  inferInstanceAs (Decidable (List.Pairwise _ entries))

theorem Ascending.nil : Ascending ([] : List (Path × α)) := List.Pairwise.nil

theorem key_of_mem_insertWith {update : α → α} {p : Path} {a : α} {entries : List (Path × α)}
    {e : Path × α} (he : e ∈ insertWith update p a entries) :
    e.1.key = p.key ∨ ∃ f ∈ entries, f.1.key = e.1.key := by
  induction entries with
  | nil =>
      rw [insertWith, List.mem_singleton] at he
      exact Or.inl (by rw [he])
  | cons entry others ih =>
      rw [insertWith] at he
      split at he
      · rcases List.mem_cons.1 he with rfl | he
        · exact Or.inr ⟨entry, List.mem_cons_self, rfl⟩
        · exact Or.inr ⟨e, List.mem_cons_of_mem _ he, rfl⟩
      · split at he
        · rcases List.mem_cons.1 he with rfl | he
          · exact Or.inl rfl
          · exact Or.inr ⟨e, he, rfl⟩
        · rcases List.mem_cons.1 he with rfl | he
          · exact Or.inr ⟨entry, List.mem_cons_self, rfl⟩
          · rcases ih he with heq | ⟨f, hf, hkey⟩
            · exact Or.inl heq
            · exact Or.inr ⟨f, List.mem_cons_of_mem _ hf, hkey⟩

theorem insertWith_ascending (update : α → α) (p : Path) (a : α) {entries : List (Path × α)}
    (h : Ascending entries) : Ascending (insertWith update p a entries) := by
  induction entries with
  | nil => exact List.pairwise_singleton _ _
  | cons entry others ih =>
      obtain ⟨hhead, htail⟩ := List.pairwise_cons.1 h
      rw [insertWith]
      split
      · exact List.pairwise_cons.2 ⟨hhead, htail⟩
      · rename_i hne
        split
        · rename_i hlt
          refine List.pairwise_cons.2 ⟨fun f hf => ?_, h⟩
          rcases List.mem_cons.1 hf with rfl | hf
          · exact hlt
          · exact List.lt_trans hlt (hhead f hf)
        · rename_i hnlt
          refine List.pairwise_cons.2 ⟨fun f hf => ?_, ih htail⟩
          rcases key_of_mem_insertWith hf with heq | ⟨g, hg, heq⟩
          · rw [heq]
            exact Decidable.byContradiction fun hngt =>
              hne (Std.Trichotomous.trichotomous _ _ hnlt hngt)
          · rw [← heq]
            exact hhead g hg

theorem map_ascending {β : Type} (f : Path × α → Path × β) (hf : ∀ e, (f e).1 = e.1)
    {entries : List (Path × α)} (h : Ascending entries) : Ascending (entries.map f) := by
  refine List.pairwise_map.2 (h.imp fun {e e'} hlt => ?_)
  rw [hf, hf]
  exact hlt

end PathMap

/-- A value for each of some paths. -/
structure PathMap (α : Type) where
  entries : List (Path × α) := []
  ascending : PathMap.Ascending entries := by exact PathMap.Ascending.nil
  deriving DecidableEq, Repr

namespace PathMap

variable {α : Type}

/-- Sets the value of a path. A path that is present stays as it was written. -/
def insert (m : PathMap α) (p : Path) (a : α) : PathMap α :=
  ⟨insertWith (fun _ => a) p a m.entries, insertWith_ascending _ p a m.ascending⟩

def insertNew (m : PathMap α) (p : Path) (a : α) : PathMap α :=
  ⟨insertWith id p a m.entries, insertWith_ascending id p a m.ascending⟩

def modify (m : PathMap α) (p : Path) (f : α → α) : PathMap α :=
  ⟨m.entries.map fun e => if e.1.same p then (e.1, f e.2) else e,
    map_ascending _ (fun e => by split <;> rfl) m.ascending⟩

def get? (m : PathMap α) (p : Path) : Option α := (m.entries.find? (·.1.same p)).map (·.2)

def contains (m : PathMap α) (p : Path) : Bool := m.entries.any (·.1.same p)

def keys (m : PathMap α) : List Path := m.entries.map (·.1)

/-- The map of a list, in which of two entries of a path the later one counts. -/
def ofList (entries : List (Path × α)) : PathMap α :=
  entries.foldl (fun m (p, a) => m.insert p a) {}

end PathMap

/-- Some paths in order, each of them once, as it was written last. -/
def sortPaths (paths : List Path) : List Path :=
  (PathMap.ofList (paths.reverse.map (·, ()))).keys

def Path.isIn (p : Path) (paths : List Path) : Bool := paths.any fun q => q.same p

end Sweep
