import ClassCatalog.Generation
import ClassCatalog.Proofs.FileTree.Listing
import ClassCatalog.Proofs.FileTree.Paths

/-!
# Source files in order

Whatever order a walk lists the files in, the source files among them come out in the order of their
names, each one once.  So the document is a function of the files and does not depend on how their
folders list them (`document_listing_irrelevant`).
-/

namespace ClassCatalog

/-! ## Sorting -/

namespace SourceFiles

variable {files files' : List Location}

theorem ofWalk_perm (files : List Location) : (ofWalk files).Perm (files.filter isSource) :=
  List.mergeSort_perm _ _

theorem mem_ofWalk_iff {names : Location} :
    names ∈ ofWalk files ↔ names ∈ files ∧ isSource names := by
  rw [(ofWalk_perm files).mem_iff, List.mem_filter]

theorem not_lt_trans {a b c : Location} (first : ¬ b < a) (second : ¬ c < b) : ¬ c < a :=
  List.not_lt.2 (List.le_trans (List.not_lt.1 first) (List.not_lt.1 second))

theorem eq_of_not_lt {a b : Location} (first : ¬ b < a) (second : ¬ a < b) : a = b :=
  List.le_antisymm (List.not_lt.1 first) (List.not_lt.1 second)

theorem pairwise_ofWalk (files : List Location) : (ofWalk files).Pairwise fun a b => ¬ b < a := by
  have sorted : (ofWalk files).Pairwise fun a b => !decide (b < a) := by
    apply List.pairwise_mergeSort
    · intro a b c first second
      simp only [Bool.not_eq_true', decide_eq_false_iff_not] at first second ⊢
      exact not_lt_trans first second
    · intro a b
      simp only [Bool.or_eq_true, Bool.not_eq_true', decide_eq_false_iff_not]
      exact (List.le_total a b).imp List.not_lt.2 List.not_lt.2
  exact sorted.imp fun ordered => by simpa using ordered

theorem pairwise_lt_ofWalk (once : files.Nodup) : (ofWalk files).Pairwise (· < ·) := by
  have different : (ofWalk files).Nodup := (ofWalk_perm files).nodup_iff.2 (once.filter _)
  refine (pairwise_ofWalk files).imp₂ (fun a b ordered distinct => ?_) different
  by_contra notBefore
  exact distinct (eq_of_not_lt ordered notBefore)

theorem ofWalk_eq_of_perm (perm : files.Perm files') : ofWalk files = ofWalk files' := by
  refine List.Perm.eq_of_pairwise (fun a b _ _ => eq_of_not_lt) (pairwise_ofWalk files)
    (pairwise_ofWalk files') ?_
  exact (ofWalk_perm files).trans ((perm.filter isSource).trans (ofWalk_perm files').symm)

end SourceFiles

/-! ## Walks and what is read -/

section Listings

variable {tree other : FileTree} {root : Path}

open FileTree SourceFiles

theorem SourceFiles.walk_perm (distinct : tree.HasDistinctNames)
    (distinct' : other.HasDistinctNames) (same : tree.nodeAt? = other.nodeAt?) (root : Path) :
    (walk tree root).Perm (walk other root) := by
  rw [walk, walk, locate_congr same]
  cases other.locate root with
  | error reason => exact .refl []
  | ok location =>
    dsimp only
    cases found : tree.get? location with
    | some entry =>
      obtain ⟨entry', found', alike⟩ := exists_get?_of_nodeAt?_eq same found
      rw [found', layersAbove_congr same]
      exact visibleFiles_perm (distinct.of_get? found) (distinct'.of_get? found') alike _ _
    | none => rw [get?_eq_none_of_nodeAt?_eq same found]

theorem SourceFiles.nodup_walk (distinct : tree.HasDistinctNames) (root : Path) :
    (walk tree root).Nodup := by
  rw [walk]
  split
  · exact List.nodup_nil
  · split
    · rename_i found
      exact nodup_visibleFiles (distinct.of_get? found) _ _
    · exact List.nodup_nil

theorem SourceFiles.collect_eq_of_perm {files : List Location} (folder : tree.isFolder root)
    (ordinary : isStandardInput root = false) (perm : files.Perm (walk tree root)) :
    collect tree root = .ok (ofWalk files) := by
  rw [collect, folder, ordinary, ofWalk_eq_of_perm perm]
  rfl

theorem SourceFiles.collect_congr (distinct : tree.HasDistinctNames)
    (distinct' : other.HasDistinctNames) (same : tree.nodeAt? = other.nodeAt?) (root : Path) :
    collect tree root = collect other root := by
  have folder : tree.isFolder root = other.isFolder root := by
    simp only [isFolder_eq, locate_congr same, same]
  rw [collect, collect, folder, ofWalk_eq_of_perm (walk_perm distinct distinct' same root)]

theorem readUnit_congr (same : tree.nodeAt? = other.nodeAt?) (root : Path) :
    readUnit tree root = readUnit other root := by
  funext names
  simp only [readUnit, readText, readBytes_eq, locate_congr same, same]

theorem documentFiles_congr (same : tree.nodeAt? = other.nodeAt?) (config : Config) (root : Path)
    (files : List Location) :
    documentFiles config tree root files = documentFiles config other root files := by
  rw [documentFiles, documentFiles, readUnit_congr same]

theorem documentTree_congr (distinct : tree.HasDistinctNames)
    (distinct' : other.HasDistinctNames) (same : tree.nodeAt? = other.nodeAt?) (config : Config)
    (root : Path) : documentTree config tree root = documentTree config other root := by
  rw [documentTree, documentTree, collect_congr distinct distinct' same]
  simp only [documentFiles_congr same]

/-- Folders of two trees list the same entries in any order, and walks meet their files in any
order.  The source files of both are one list, which is strictly sorted and has all of them, and the
document of both trees, or what went wrong, is the same. -/
theorem document_listing_irrelevant (distinct : tree.HasDistinctNames)
    (distinct' : other.HasDistinctNames) (same : tree.nodeAt? = other.nodeAt?) (config : Config)
    (layout : Layout) (root : Path) :
    (∀ files files', files.Perm (walk tree root) → files'.Perm (walk other root) →
      ofWalk files = ofWalk files' ∧ (ofWalk files).Pairwise (· < ·) ∧
      (∀ names, names ∈ ofWalk files ↔ names ∈ files ∧ isSource names) ∧
      (tree.isFolder root → isStandardInput root = false →
        collect tree root = .ok (ofWalk files)) ∧
      documentFiles config tree root (ofWalk files) =
        documentFiles config other root (ofWalk files')) ∧
    collect tree root = collect other root ∧
    documentTree config tree root = documentTree config other root ∧
    renderTree config layout tree root = renderTree config layout other root := by
  refine ⟨fun files files' listed listed' => ?_, collect_congr distinct distinct' same root,
    documentTree_congr distinct distinct' same config root, ?_⟩
  · have perm : files.Perm files' :=
      listed.trans ((walk_perm distinct distinct' same root).trans listed'.symm)
    have once : files.Nodup := listed.nodup_iff.2 (nodup_walk distinct root)
    refine ⟨ofWalk_eq_of_perm perm, pairwise_lt_ofWalk once, fun names => mem_ofWalk_iff,
      fun folder ordinary => collect_eq_of_perm folder ordinary listed, ?_⟩
    rw [ofWalk_eq_of_perm perm, documentFiles_congr same]
  · rw [renderTree, renderTree, documentTree_congr distinct distinct' same]

/-! ## A folder listed in two ways -/

theorem FileTree.nodeAt?_swap {first second : String} (different : first ≠ second)
    (one two : FileTree) (rest : List (String × FileTree)) :
    (folder ((first, one) :: (second, two) :: rest)).nodeAt? =
      (folder ((second, two) :: (first, one) :: rest)).nodeAt? := by
  funext location
  cases location with
  | nil => rfl
  | cons name below =>
    simp only [nodeAt?_folder_cons, lookup_cons_eq_ite]
    by_cases here : name = first
    · rw [if_pos here, if_neg (here ▸ different), if_pos here]
    · rw [if_neg here, if_neg here]

def fileFirst : FileTree :=
  .folder [("b.java", .file .empty), ("a", .folder [("c.java", .file .empty)])]

def folderFirst : FileTree :=
  .folder [("a", .folder [("c.java", .file .empty)]), ("b.java", .file .empty)]

theorem hasDistinctNames_fileFirst : fileFirst.HasDistinctNames := by
  simp [fileFirst, hasDistinctNames_folder_iff, HasDistinctNames.file]

theorem hasDistinctNames_folderFirst : folderFirst.HasDistinctNames := by
  simp [folderFirst, hasDistinctNames_folder_iff, HasDistinctNames.file]

/-- The walks differ, the source files and the document do not. -/
theorem document_fileFirst :
    walk fileFirst ⟨["."]⟩ ≠ walk folderFirst ⟨["."]⟩ ∧
      collect fileFirst ⟨["."]⟩ = collect folderFirst ⟨["."]⟩ ∧
      renderTree {} .compact fileFirst ⟨["."]⟩ = renderTree {} .compact folderFirst ⟨["."]⟩ := by
  obtain ⟨-, collected, -, rendered⟩ := document_listing_irrelevant hasDistinctNames_fileFirst
    hasDistinctNames_folderFirst (nodeAt?_swap (by decide) _ _ _) {} .compact ⟨["."]⟩
  have met : walk fileFirst ⟨["."]⟩ = [["b.java"], ["a", "c.java"]] := by rfl
  have met' : walk folderFirst ⟨["."]⟩ = [["a", "c.java"], ["b.java"]] := by rfl
  refine ⟨?_, collected, rendered⟩
  rw [met, met']
  decide

end Listings

end ClassCatalog
