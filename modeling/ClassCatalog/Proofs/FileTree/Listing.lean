import ClassCatalog.SourceFiles
import ClassCatalog.Proofs.FileTree.Nodes
import Mathlib.Data.List.Nodup
import Mathlib.Data.List.Perm.Basic

/-!
# The order in which folders list their entries

Trees with the same nodes differ in the order of their entries only, if no folder has two entries
with one name.  They have the same ignore files (`layersAbove_congr`), and a walk meets the same
files in them, each one once (`visibleFiles_perm`, `nodup_visibleFiles`).
-/

namespace ClassCatalog.FileTree

variable {tree other : FileTree} {entries others : List (String × FileTree)} {name : String}

/-- No folder of the tree has two entries with one name. -/
inductive HasDistinctNames : FileTree → Prop
  | file (content : ByteArray) : HasDistinctNames (.file content)
  | folder {entries : List (String × FileTree)} (distinct : (entries.map Prod.fst).Nodup)
      (inside : ∀ entry ∈ entries, HasDistinctNames entry.2) : HasDistinctNames (.folder entries)

theorem hasDistinctNames_folder_iff :
    (folder entries).HasDistinctNames ↔
      (entries.map Prod.fst).Nodup ∧ ∀ entry ∈ entries, entry.2.HasDistinctNames := by
  constructor
  · intro whole
    cases whole with
    | folder distinct inside => exact ⟨distinct, inside⟩
  · rintro ⟨distinct, inside⟩
    exact .folder distinct inside

/-! ## Entries by their names -/

theorem mem_of_lookup {entry : FileTree} (found : entries.lookup name = some entry) :
    (name, entry) ∈ entries := by
  obtain ⟨before, behind, rfl, -⟩ := List.lookup_eq_some_iff.1 found
  simp

theorem lookup_of_mem (distinct : (entries.map Prod.fst).Nodup) {entry : String × FileTree}
    (mem : entry ∈ entries) : entries.lookup entry.1 = some entry.2 := by
  induction entries with
  | nil => cases mem
  | cons first rest ih =>
    obtain ⟨key, sub⟩ := first
    rw [List.map_cons, List.nodup_cons] at distinct
    rw [lookup_cons_eq_ite]
    rcases List.mem_cons.1 mem with rfl | behind
    · rw [if_pos rfl]
    · have different : entry.1 ≠ key := by
        rintro rfl
        exact distinct.1 (List.mem_map.2 ⟨entry, behind, rfl⟩)
      rw [if_neg different, ih distinct.2 behind]

theorem mem_names_iff :
    name ∈ entries.map Prod.fst ↔ ((folder entries).nodeAt? [name]).isSome := by
  induction entries with
  | nil => simp [nodeAt?_folder_cons]
  | cons first rest ih =>
    obtain ⟨key, sub⟩ := first
    rw [nodeAt?_folder_cons] at ih
    rw [List.map_cons, List.mem_cons, ih, nodeAt?_folder_cons, lookup_cons_eq_ite]
    by_cases same : name = key
    · simp [same, nodeAt?_nil]
    · simp [same]

theorem HasDistinctNames.of_get? {location : Location} {entry : FileTree}
    (distinct : tree.HasDistinctNames) (found : tree.get? location = some entry) :
    entry.HasDistinctNames := by
  induction location generalizing tree with
  | nil =>
    rw [get?_nil] at found
    exact Option.some.inj found ▸ distinct
  | cons name rest ih =>
    cases distinct with
    | file content => cases found
    | @folder entries unique inside =>
      rw [FileTree.get?] at found
      split at found
      · rename_i sub here
        exact ih (inside _ (mem_of_lookup here)) found
      · cases found

theorem names_perm (distinct : (entries.map Prod.fst).Nodup)
    (distinct' : (others.map Prod.fst).Nodup)
    (same : (folder entries).nodeAt? = (folder others).nodeAt?) :
    (entries.map Prod.fst).Perm (others.map Prod.fst) := by
  rw [List.perm_ext_iff_of_nodup distinct distinct']
  intro name
  rw [mem_names_iff, mem_names_iff, same]

/-! ## Trees with the same nodes -/

theorem node_congr (same : tree.nodeAt? = other.nodeAt?) : tree.node = other.node := by
  have top := congrFun same []
  rwa [nodeAt?_nil, nodeAt?_nil, Option.some_inj] at top

theorem isFile_congr (same : tree.nodeAt? = other.nodeAt?) : tree.isFile = other.isFile := by
  have top := node_congr same
  match tree, other with
  | .file _, .file _ => rfl
  | .folder _, .folder _ => rfl

theorem exists_get?_of_nodeAt?_eq {location : Location} {entry : FileTree}
    (same : tree.nodeAt? = other.nodeAt?) (found : tree.get? location = some entry) :
    ∃ entry', other.get? location = some entry' ∧ entry.nodeAt? = entry'.nodeAt? := by
  have below (rest : Location) :
      entry.nodeAt? rest = (other.get? location).bind (·.nodeAt? rest) := by
    rw [← nodeAt?_append, ← same, nodeAt?_append, found]
    rfl
  cases found' : other.get? location with
  | none =>
    have nothing := below []
    rw [found', nodeAt?_nil] at nothing
    cases nothing
  | some entry' =>
    refine ⟨entry', rfl, funext fun rest => ?_⟩
    rw [below, found']
    rfl

theorem get?_eq_none_of_nodeAt?_eq {location : Location} (same : tree.nodeAt? = other.nodeAt?)
    (nothing : tree.get? location = none) : other.get? location = none := by
  have here := congrFun same location
  rw [nodeAt?, nodeAt?, nothing] at here
  exact Option.map_eq_none_iff.1 here.symm

theorem get?_singleton (entries : List (String × FileTree)) (name : String) :
    (folder entries).get? [name] = entries.lookup name := by
  rw [get?]
  cases entries.lookup name with
  | none => rfl
  | some entry => exact get?_nil entry

theorem exists_lookup_of_nodeAt?_eq {entry : FileTree}
    (same : (folder entries).nodeAt? = (folder others).nodeAt?)
    (found : entries.lookup name = some entry) :
    ∃ entry', others.lookup name = some entry' ∧ entry.nodeAt? = entry'.nodeAt? := by
  rw [← get?_singleton] at found
  simpa only [get?_singleton] using exists_get?_of_nodeAt?_eq same found

/-! ## Ignore files -/

theorem rulesAmong_eq (entries : List (String × FileTree)) (name : String) :
    rulesAmong entries name =
      match (folder entries).nodeAt? [name] with
      | some (.file content) => Ignore.rulesOf content
      | _ => [] := by
  rw [rulesAmong, nodeAt?_folder_cons]
  cases entries.lookup name with
  | none => rfl
  | some entry => cases entry <;> rfl

theorem layerOf_congr (same : (folder entries).nodeAt? = (folder others).nodeAt?) :
    layerOf entries = layerOf others := by
  simp only [layerOf, rulesAmong_eq, same]

theorem layersAbove_congr (same : tree.nodeAt? = other.nodeAt?) (layers : List Ignore.Layer)
    (location : Location) :
    tree.layersAbove layers location = other.layersAbove layers location := by
  induction location generalizing tree other layers with
  | nil => cases tree <;> cases other <;> rfl
  | cons name rest ih =>
    have top := node_congr same
    match tree, other with
    | .file _, .file _ => rfl
    | .folder entries, .folder others =>
      rw [layersAbove, layersAbove, layerOf_congr same]
      cases found : entries.lookup name with
      | some entry =>
        obtain ⟨entry', found', inside⟩ := exists_lookup_of_nodeAt?_eq same found
        rw [found']
        exact ih inside _
      | none =>
        have absent : others.lookup name = none := by
          rw [← get?_singleton] at found ⊢
          exact get?_eq_none_of_nodeAt?_eq same found
        rw [absent]

/-! ## Walks -/

/-- The files that a walk meets at or below an entry of a folder. -/
def visibleUnder (layers : List Ignore.Layer) (names : Location) (name : String)
    (entry : FileTree) : List Location :=
  if Ignore.leavesOut layers name !entry.isFile then []
  else visibleFiles (layers.map (Ignore.Layer.enter name)) (names ++ [name]) entry

theorem visibleAmong_eq_flatMap (layers : List Ignore.Layer) (names : Location)
    (entries : List (String × FileTree)) :
    visibleAmong layers names entries =
      entries.flatMap fun entry => visibleUnder layers names entry.1 entry.2 := by
  induction entries with
  | nil => rw [visibleAmong, List.flatMap_nil]
  | cons first rest ih =>
    rw [visibleAmong, List.flatMap_cons, ih]
    rfl

theorem visibleAmong_eq_by_name (distinct : (entries.map Prod.fst).Nodup)
    (layers : List Ignore.Layer) (names : Location) :
    visibleAmong layers names entries =
      (entries.map Prod.fst).flatMap fun name =>
        (entries.lookup name).elim [] (visibleUnder layers names name) := by
  rw [visibleAmong_eq_flatMap, List.flatMap_map]
  refine List.flatMap_congr fun entry mem => ?_
  rw [lookup_of_mem distinct mem]
  rfl

theorem visibleFiles_perm (distinct : tree.HasDistinctNames) (distinct' : other.HasDistinctNames)
    (same : tree.nodeAt? = other.nodeAt?) (layers : List Ignore.Layer) (names : Location) :
    (visibleFiles layers names tree).Perm (visibleFiles layers names other) := by
  have top := node_congr same
  induction distinct generalizing other layers names with
  | file content =>
    cases distinct' with
    | file content' => rw [visibleFiles, visibleFiles]
    | folder => cases top
  | @folder entries unique inside ih =>
    cases distinct' with
    | file content => cases top
    | @folder others unique' inside' =>
      rw [visibleFiles, visibleFiles, layerOf_congr same, visibleAmong_eq_by_name unique,
        visibleAmong_eq_by_name unique']
      refine (names_perm unique unique' same).flatMap fun name known => ?_
      obtain ⟨entry, listed, rfl⟩ := List.mem_map.1 known
      have found := lookup_of_mem unique listed
      obtain ⟨entry', found', alike⟩ := exists_lookup_of_nodeAt?_eq same found
      rw [found, found']
      simp only [Option.elim_some, visibleUnder, isFile_congr alike]
      split
      · exact .refl []
      · exact ih _ listed (inside' _ (mem_of_lookup found')) alike _ _ (node_congr alike)

theorem mem_visibleUnder {layers : List Ignore.Layer} {names location : Location}
    {entry : FileTree} (mem : location ∈ visibleUnder layers names name entry) :
    location ∈ visibleFiles (layers.map (Ignore.Layer.enter name)) (names ++ [name]) entry := by
  rw [visibleUnder] at mem
  split at mem
  · cases mem
  · exact mem

theorem prefix_of_mem_visibleFiles (distinct : tree.HasDistinctNames) {layers : List Ignore.Layer}
    {names location : Location} (mem : location ∈ visibleFiles layers names tree) :
    names.IsPrefix location := by
  induction distinct generalizing layers names with
  | file content =>
    rw [visibleFiles, List.mem_singleton] at mem
    exact mem ▸ List.prefix_rfl
  | folder unique inside ih =>
    rw [visibleFiles, visibleAmong_eq_flatMap, List.mem_flatMap] at mem
    obtain ⟨entry, listed, mem⟩ := mem
    exact (List.prefix_append names [entry.1]).trans (ih entry listed (mem_visibleUnder mem))

theorem nodup_visibleFiles (distinct : tree.HasDistinctNames) (layers : List Ignore.Layer)
    (names : Location) : (visibleFiles layers names tree).Nodup := by
  induction distinct generalizing layers names with
  | file content =>
    rw [visibleFiles]
    exact List.nodup_singleton names
  | @folder entries unique inside ih =>
    rw [visibleFiles, visibleAmong_eq_flatMap, List.nodup_flatMap]
    constructor
    · intro entry listed
      rw [visibleUnder]
      split
      · exact List.nodup_nil
      · exact ih entry listed _ _
    · -- files below two entries differ in the name of the entry
      refine (List.pairwise_map.1 unique).imp_of_mem ?_
      intro first second listed listed' different location mem mem'
      have one := prefix_of_mem_visibleFiles (inside first listed) (mem_visibleUnder mem)
      have two := prefix_of_mem_visibleFiles (inside second listed') (mem_visibleUnder mem')
      have same := List.prefix_of_prefix_length_le one two (by simp)
      exact different (by simpa using same.eq_of_length (by simp))

end ClassCatalog.FileTree
