import ClassCatalog.FileTree.Operations
import Mathlib.Data.List.Basic
import Mathlib.Logic.Function.Basic

/-!
# What stands at a location

`FileTree.nodeAt?` says of every location whether a file with some content, a folder or nothing
stands there.  It forgets in which order a folder lists its entries.  Putting a file or an empty
folder somewhere, and taking a file away, changes it at this one location (`nodeAt?_set`,
`nodeAt?_erase`), as long as no folder was there before.
-/

namespace ClassCatalog

/-- A file with its content, or a folder. -/
inductive FileNode where
  | file (content : ByteArray)
  | folder

namespace FileTree

def node : FileTree → FileNode
  | file content => .file content
  | folder _ => .folder

/-- What stands at a location, without what is below it. -/
def nodeAt? (tree : FileTree) (location : Location) : Option FileNode :=
  (tree.get? location).map node

/-! ## Entries of a folder -/

theorem lookup_cons_eq_ite (other : String) (entry : FileTree) (rest : List (String × FileTree))
    (key : String) :
    ((other, entry) :: rest).lookup key = if key = other then some entry else rest.lookup key := by
  rw [List.lookup_cons]
  by_cases h : key = other
  · simp [h]
  · rw [beq_false_of_ne h, if_neg h]

theorem lookup_putEntry (entries : List (String × FileTree)) (name key : String)
    (entry : FileTree) :
    (putEntry name entry entries).lookup key =
      if key = name then some entry else entries.lookup key := by
  induction entries with
  | nil => rw [putEntry, lookup_cons_eq_ite]
  | cons first rest ih =>
    obtain ⟨other, old⟩ := first
    rw [putEntry]
    by_cases same : other = name
    · subst same
      rw [if_pos rfl, lookup_cons_eq_ite, lookup_cons_eq_ite]
      split <;> rfl
    · rw [if_neg same, lookup_cons_eq_ite, lookup_cons_eq_ite, ih]
      grind

theorem lookup_filter_ne (entries : List (String × FileTree)) (name key : String) :
    (entries.filter fun entry => entry.1 != name).lookup key =
      if key = name then none else entries.lookup key := by
  induction entries with
  | nil => simp
  | cons first rest ih =>
    obtain ⟨other, old⟩ := first
    by_cases same : other = name
    · subst same
      rw [List.filter_cons_of_neg (by simp), ih, lookup_cons_eq_ite]
      split <;> rfl
    · rw [List.filter_cons_of_pos (by simpa using same), lookup_cons_eq_ite, lookup_cons_eq_ite, ih]
      grind

/-! ## Nodes -/

section Nodes

variable {tree : FileTree} {location : Location} {content : ByteArray}

theorem get?_nil (tree : FileTree) : tree.get? [] = some tree := by
  cases tree <;> rfl

theorem nodeAt?_nil (tree : FileTree) : tree.nodeAt? [] = some tree.node := by
  rw [nodeAt?, get?_nil]
  rfl

theorem nodeAt?_file_cons (content : ByteArray) (name : String) (rest : Location) :
    (file content).nodeAt? (name :: rest) = none := rfl

theorem nodeAt?_folder_cons (entries : List (String × FileTree)) (name : String)
    (rest : Location) :
    (folder entries).nodeAt? (name :: rest) = (entries.lookup name).bind (·.nodeAt? rest) := by
  rw [nodeAt?, get?]
  cases entries.lookup name <;> rfl

theorem get?_append (tree : FileTree) (location rest : Location) :
    tree.get? (location ++ rest) = (tree.get? location).bind (·.get? rest) := by
  induction location generalizing tree with
  | nil => rw [List.nil_append, get?_nil, Option.bind_some]
  | cons name location ih =>
    cases tree with
    | file content => rfl
    | folder entries =>
      rw [List.cons_append, get?, get?]
      cases entries.lookup name with
      | none => rfl
      | some entry => exact ih entry

theorem nodeAt?_append (tree : FileTree) (location rest : Location) :
    tree.nodeAt? (location ++ rest) = (tree.get? location).bind (·.nodeAt? rest) := by
  rw [nodeAt?, get?_append]
  cases tree.get? location <;> rfl

theorem content?_eq_some_iff :
    tree.content? location = some content ↔ tree.nodeAt? location = some (.file content) := by
  rw [content?, nodeAt?]
  cases tree.get? location with
  | none => simp
  | some entry => cases entry <;> simp [node]

theorem exists_folder_of_nodeAt? (h : tree.nodeAt? location = some .folder) :
    ∃ entries, tree.get? location = some (folder entries) := by
  rw [nodeAt?, Option.map_eq_some_iff] at h
  obtain ⟨entry, found, kind⟩ := h
  cases entry with
  | file content => cases kind
  | folder entries => exact ⟨entries, found⟩

theorem get?_of_nodeAt? (there : tree.nodeAt? location = some (.file content)) :
    tree.get? location = some (file content) := by
  rw [nodeAt?, Option.map_eq_some_iff] at there
  obtain ⟨entry, found, kind⟩ := there
  cases entry with
  | file content => rwa [← FileNode.file.inj kind]
  | folder entries => cases kind

theorem nodeAt?_append_eq_none {rest : Location} (h : tree.nodeAt? location ≠ some .folder)
    (below : rest ≠ []) : tree.nodeAt? (location ++ rest) = none := by
  induction location generalizing tree with
  | nil =>
    obtain ⟨name, rest, rfl⟩ := List.exists_cons_of_ne_nil below
    cases tree with
    | file content => rfl
    | folder entries => exact absurd (nodeAt?_nil _) h
  | cons name location ih =>
    cases tree with
    | file content => rfl
    | folder entries =>
      rw [List.cons_append, nodeAt?_folder_cons]
      rw [nodeAt?_folder_cons] at h
      cases found : entries.lookup name with
      | none => rfl
      | some entry =>
        rw [found] at h
        exact ih h

theorem nodeAt?_eq_folder_of_append {name : String}
    (h : (tree.nodeAt? (location ++ [name])).isSome) : tree.nodeAt? location = some .folder := by
  by_contra other
  rw [nodeAt?_append_eq_none other (List.cons_ne_nil name [])] at h
  cases h

theorem nodeAt?_dropLast (h : tree.nodeAt? location = some .folder) :
    tree.nodeAt? location.dropLast = some .folder := by
  rcases List.eq_nil_or_concat' location with rfl | ⟨parent, name, rfl⟩
  · exact h
  · rw [List.dropLast_concat]
    exact nodeAt?_eq_folder_of_append (by rw [h]; rfl)

end Nodes

/-! ## Changes at one location -/

section Changes

variable {tree entry : FileTree} {parent : Location} {name : String} {content : ByteArray}

/-- A tree without anything below its top. -/
def IsLeaf (tree : FileTree) : Prop :=
  ∀ name rest, tree.nodeAt? (name :: rest) = none

theorem isLeaf_file (content : ByteArray) : (file content).IsLeaf := nodeAt?_file_cons content

theorem isLeaf_empty : empty.IsLeaf := fun name rest => by
  rw [empty, nodeAt?_folder_cons]
  rfl

theorem exists_entry_of_nodeAt? {first : String} {rest : Location} {node : FileNode}
    (h : tree.nodeAt? (first :: rest) = some node) :
    ∃ entries sub, tree = folder entries ∧ entries.lookup first = some sub ∧
      ∀ location, tree.nodeAt? (first :: location) = sub.nodeAt? location := by
  cases tree with
  | file content => cases h
  | folder entries =>
    rw [nodeAt?_folder_cons, Option.bind_eq_some_iff] at h
    obtain ⟨sub, found, -⟩ := h
    refine ⟨entries, sub, rfl, found, fun location => ?_⟩
    rw [nodeAt?_folder_cons, found]
    rfl

/-- A folder whose entry under one name is replaced. -/
theorem nodeAt?_putEntry (entries : List (String × FileTree)) (name : String) (entry : FileTree)
    {changed : Location} {node : Option FileNode}
    (inside : ∀ rest, entry.nodeAt? rest =
      Function.update (folder entries).nodeAt? (name :: changed) node (name :: rest)) :
    (folder (putEntry name entry entries)).nodeAt? =
      Function.update (folder entries).nodeAt? (name :: changed) node := by
  funext location
  cases location with
  | nil =>
    rw [Function.update_of_ne (List.cons_ne_nil _ _).symm, nodeAt?_nil, nodeAt?_nil]
    rfl
  | cons key rest =>
    rw [nodeAt?_folder_cons, lookup_putEntry]
    by_cases same : key = name
    · subst same
      rw [if_pos rfl, ← inside]
      rfl
    · rw [if_neg same, Function.update_of_ne (by simp [same]), nodeAt?_folder_cons]

/-- A change inside an entry of a folder. -/
theorem nodeAt?_putEntry_update {entries : List (String × FileTree)} {name : String}
    {sub entry : FileTree} {changed : Location} {node : Option FileNode}
    (inside : ∀ rest, (folder entries).nodeAt? (name :: rest) = sub.nodeAt? rest)
    (change : entry.nodeAt? = Function.update sub.nodeAt? changed node) :
    (folder (putEntry name entry entries)).nodeAt? =
      Function.update (folder entries).nodeAt? (name :: changed) node := by
  refine nodeAt?_putEntry entries name entry fun rest => ?_
  rw [change]
  by_cases same : rest = changed
  · subst same
    rw [Function.update_self, Function.update_self]
  · rw [Function.update_of_ne same, Function.update_of_ne (by simp [same]), inside]

theorem nodeAt?_set (leaf : entry.IsLeaf) (inFolder : tree.nodeAt? parent = some .folder)
    (free : tree.nodeAt? (parent ++ [name]) ≠ some .folder) :
    (tree.set (parent ++ [name]) entry).nodeAt? =
      Function.update tree.nodeAt? (parent ++ [name]) (some entry.node) := by
  induction parent generalizing tree with
  | nil =>
    obtain ⟨entries, top⟩ := exists_folder_of_nodeAt? inFolder
    obtain rfl := Option.some.inj top
    rw [List.nil_append, set, set]
    refine nodeAt?_putEntry entries name entry fun rest => ?_
    cases rest with
    | nil => rw [Function.update_self, nodeAt?_nil]
    | cons next rest =>
      rw [Function.update_of_ne (by simp), leaf]
      exact (nodeAt?_append_eq_none free (List.cons_ne_nil next rest)).symm
  | cons first rest ih =>
    obtain ⟨entries, sub, rfl, found, inside⟩ := exists_entry_of_nodeAt? inFolder
    rw [List.cons_append, inside] at free
    rw [inside] at inFolder
    rw [List.cons_append, set, found, Option.getD_some]
    exact nodeAt?_putEntry_update inside (ih inFolder free)

theorem erase_cons {entries : List (String × FileTree)} {first : String} {sub : FileTree}
    (found : entries.lookup first = some sub) {rest : Location} (below : rest ≠ []) :
    (folder entries).erase (first :: rest) = folder (putEntry first (sub.erase rest) entries) := by
  obtain ⟨next, rest, rfl⟩ := List.exists_cons_of_ne_nil below
  rw [erase, found]
  simp

theorem nodeAt?_erase (there : tree.nodeAt? (parent ++ [name]) = some (.file content)) :
    (tree.erase (parent ++ [name])).nodeAt? =
      Function.update tree.nodeAt? (parent ++ [name]) none := by
  induction parent generalizing tree with
  | nil =>
    obtain ⟨entries, sub, rfl, found, inside⟩ := exists_entry_of_nodeAt? there
    rw [List.nil_append] at there ⊢
    rw [erase]
    funext location
    cases location with
    | nil =>
      rw [Function.update_of_ne (List.cons_ne_nil _ _).symm, nodeAt?_nil, nodeAt?_nil]
      rfl
    | cons key rest =>
      rw [nodeAt?_folder_cons, lookup_filter_ne]
      by_cases same : key = name
      · subst same
        rw [if_pos rfl, Option.bind_none]
        cases rest with
        | nil => rw [Function.update_self]
        | cons next rest =>
          have alone : (folder entries).nodeAt? [key] ≠ some .folder := by
            rw [there]
            simp
          rw [Function.update_of_ne (by simp)]
          exact (nodeAt?_append_eq_none alone (List.cons_ne_nil next rest)).symm
      · rw [if_neg same, Function.update_of_ne (by simp [same]), nodeAt?_folder_cons]
  | cons first rest ih =>
    obtain ⟨entries, sub, rfl, found, inside⟩ := exists_entry_of_nodeAt? there
    rw [List.cons_append, inside] at there
    rw [List.cons_append, erase_cons found (by simp)]
    exact nodeAt?_putEntry_update inside (ih there)

end Changes

end FileTree

end ClassCatalog
