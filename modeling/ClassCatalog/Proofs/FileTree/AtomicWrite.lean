import ClassCatalog.Proofs.FileTree.Paths

/-!
# What writing a file changes

`FileTree.Keeps` says that one tree has all folders of another one, and all files but some.  Making
folders keeps everything.  A text that was written in one step is at its place, with nothing beside
it under the temporary name (`writeAtomic_ok`).  One that was not has changed the file under the
temporary name at most (`writeAtomic_error`).
-/

namespace ClassCatalog.FileTree

variable {tree middle other : FileTree} {path source target : Path} {location parent : Location}
  {name : String} {content : ByteArray}

/-! ## What a change keeps -/

/-- The second tree has all folders of the first one, and all its files with their content, except
for files at the locations that may change. -/
def Keeps (mayChange : Location → Prop) (tree other : FileTree) : Prop :=
  ∀ location node, tree.nodeAt? location = some node →
    other.nodeAt? location = some node ∨ node ≠ .folder ∧ mayChange location

namespace Keeps

variable {mayChange : Location → Prop}

theorem refl (mayChange : Location → Prop) (tree : FileTree) : tree.Keeps mayChange tree :=
  fun _ _ there => .inl there

theorem trans (first : tree.Keeps mayChange middle) (second : middle.Keeps mayChange other) :
    tree.Keeps mayChange other := by
  intro location node there
  rcases first location node there with kept | changed
  · exact second location node kept
  · exact .inr changed

theorem keepsFolders (kept : tree.Keeps mayChange other) : tree.KeepsFolders other :=
  fun location there => (kept location _ there).resolve_right fun changed => changed.1 rfl

theorem mono {mayChange' : Location → Prop} (kept : tree.Keeps mayChange other)
    (more : ∀ location, mayChange location → mayChange' location) :
    tree.Keeps mayChange' other :=
  fun location node there => (kept location node there).imp_right (.imp_right (more location))

theorem of_eq (free : ∀ location, mayChange location → tree.nodeAt? location ≠ some .folder)
    (same : ∀ location, ¬ mayChange location →
      other.nodeAt? location = tree.nodeAt? location) : tree.Keeps mayChange other := by
  intro location node there
  by_cases changed : mayChange location
  · refine .inr ⟨?_, changed⟩
    rintro rfl
    exact free location changed there
  · exact .inl ((same location changed).trans there)

theorem content? (kept : tree.Keeps mayChange other)
    (there : tree.content? location = some content) :
    other.content? location = some content ∨ mayChange location := by
  rw [content?_eq_some_iff] at there ⊢
  exact (kept location _ there).imp_right And.right

end Keeps

/-! ## Making folders -/

section Folders

variable (mayChange : Location → Prop)

theorem keeps_makeFolder (made : tree.makeFolder path = .ok other) :
    tree.Keeps mayChange other := by
  rw [makeFolder] at made
  split at made
  · cases made
  · cases made
  · rename_i parent name slash placed
    split at made
    · cases made
    · rename_i free
      have nothing : tree.nodeAt? (parent ++ [name]) = none := by
        rw [nodeAt?, Option.not_isSome_iff_eq_none.1 free]
        rfl
      obtain rfl := Except.ok.inj made
      intro location node there
      rw [nodeAt?_set isLeaf_empty (nodeAt?_of_place placed) (by simp [nothing]),
        Function.update_of_ne]
      · exact .inl there
      · rintro rfl
        rw [nothing] at there
        cases there

theorem keeps_ensureFolder (made : tree.ensureFolder path = .ok other) :
    tree.Keeps mayChange other := by
  rw [ensureFolder] at made
  split at made
  · rename_i folder
    obtain rfl := Except.ok.inj made
    exact keeps_makeFolder mayChange folder
  · split at made
    · obtain rfl := Except.ok.inj made
      exact .refl mayChange tree
    · cases made

theorem keeps_makeFoldersWithin (depth : Nat) (tree : FileTree) (path : Path) :
    tree.Keeps mayChange (makeFoldersWithin depth tree path).2 := by
  induction depth generalizing tree path with
  | zero => exact .refl mayChange tree
  | succ depth ih =>
    rw [makeFoldersWithin]
    split
    · exact .refl mayChange tree
    · split
      · rename_i made
        exact keeps_ensureFolder mayChange made
      · rename_i above _ _
        have below := ih tree above
        split
        · rename_i made
          rwa [made] at below
        · rename_i made
          rw [made] at below
          split
          · rename_i last
            exact below.trans (keeps_ensureFolder mayChange last)
          · exact below
      · exact .refl mayChange tree

theorem keeps_makeParents {result : Except Error Unit}
    (made : tree.makeParents path = (result, other)) : tree.Keeps mayChange other := by
  rw [makeParents] at made
  split at made
  · obtain rfl : tree = other := congrArg Prod.snd made
    exact .refl mayChange tree
  · rename_i above _
    have kept := keeps_makeFoldersWithin mayChange (above.steps.length + 1) tree above
    rw [← makeFolders] at kept
    split at made
    all_goals
      rename_i folders
      rw [folders] at kept
      obtain ⟨-, rfl⟩ := Prod.mk.inj made
      exact kept

end Folders

/-! ## Writing and moving a file -/

theorem write_eq_ok (written : tree.write path content = .ok other) :
    ∃ parent name, tree.place path = .ok (parent, .name name false) ∧
      other.nodeAt? = Function.update tree.nodeAt? (parent ++ [name]) (some (.file content)) ∧
      tree.Keeps (· = parent ++ [name]) other := by
  rw [write] at written
  split at written
  · cases written
  · cases written
  · cases written
  · rename_i parent name placed
    split at written
    · cases written
    · rename_i noFolder
      have free : tree.nodeAt? (parent ++ [name]) ≠ some .folder := fun there => by
        obtain ⟨entries, found⟩ := exists_folder_of_nodeAt? there
        exact noFolder entries found
      obtain rfl := Except.ok.inj written
      have change := nodeAt?_set (isLeaf_file content) (nodeAt?_of_place placed) free
      refine ⟨parent, name, placed, change, .of_eq ?_ fun location other => ?_⟩
      · rintro location rfl
        exact free
      · rw [change, Function.update_of_ne other]

/-- Moving a file onto itself changes nothing, which the equation says as well. -/
theorem nodeAt?_move {folder : Location} {last : String}
    (there : tree.nodeAt? (parent ++ [name]) = some (.file content))
    (inFolder : tree.nodeAt? folder = some .folder)
    (moved : tree.move (parent ++ [name]) (folder ++ [last]) = .ok other) :
    tree.nodeAt? (folder ++ [last]) ≠ some .folder ∧
      other.nodeAt? = Function.update (Function.update tree.nodeAt? (parent ++ [name]) none)
        (folder ++ [last]) (some (.file content)) := by
  rw [move, get?_of_nodeAt? there] at moved
  simp only at moved
  split at moved
  · rename_i same
    obtain rfl := Except.ok.inj moved
    rw [← same, Function.update_idem, ← there, Function.update_eq_self]
    exact ⟨by simp [there], rfl⟩
  · rename_i different
    have free : tree.nodeAt? (folder ++ [last]) ≠ some .folder := fun found => by
      obtain ⟨entries, found⟩ := exists_folder_of_nodeAt? found
      simp [found] at moved
    refine ⟨free, ?_⟩
    have erased := nodeAt?_erase there
    have above : folder ≠ parent ++ [name] := by
      rintro rfl
      rw [there] at inFolder
      cases inFolder
    have result :
        other = (tree.erase (parent ++ [name])).set (folder ++ [last]) (file content) := by
      split at moved <;> simp_all
    rw [result, nodeAt?_set (isLeaf_file content), erased]
    · rfl
    · rwa [erased, Function.update_of_ne above]
    · rwa [erased, Function.update_of_ne (Ne.symm different)]

theorem rename_eq_ok (placed : tree.place source = .ok (parent, .name name false))
    (there : tree.nodeAt? (parent ++ [name]) = some (.file content))
    (moved : tree.rename source target = .ok other) :
    ∃ folder last, tree.place target = .ok (folder, .name last false) ∧
      other.nodeAt? = Function.update (Function.update tree.nodeAt? (parent ++ [name]) none)
        (folder ++ [last]) (some (.file content)) ∧
      tree.Keeps (fun location => location = folder ++ [last] ∨ location = parent ++ [name])
        other := by
  rw [rename, placed] at moved
  cases aim : tree.place target with
  | error reason => simp [aim] at moved
  | ok found =>
    obtain ⟨folder, lastStep⟩ := found
    cases lastStep with
    | other => simp [aim] at moved
    | name last slash =>
      simp only [aim, get?_of_nodeAt? there, isFile, Bool.true_and, Bool.false_or] at moved
      cases slash with
      | true => cases moved
      | false =>
        rw [if_neg Bool.false_ne_true] at moved
        split at moved
        · cases moved
        · split at moved
          · cases moved
          · obtain ⟨free, change⟩ := nodeAt?_move there (nodeAt?_of_place aim) moved
            refine ⟨folder, last, rfl, change, .of_eq ?_ fun location others => ?_⟩
            · rintro location (rfl | rfl)
              · exact free
              · simp [there]
            · rw [not_or] at others
              rw [change, Function.update_of_ne others.1, Function.update_of_ne others.2]

/-! ## Writing a file in one step -/

theorem ne_temporary (folder : Location) (name : String) :
    folder ++ [name] ≠ folder ++ [name ++ ".tmp"] := by
  intro same
  have length := congrArg String.length (List.singleton_inj.1 (List.append_cancel_left same))
  rw [String.length_append, show ".tmp".length = 4 from rfl] at length
  omega

/-- The second tree is the first one with a file replaced in one step: it is at its place, nothing
is beside it under the temporary name, and all else is kept. -/
structure Replaced (path : Path) (content : ByteArray) (folder : Location) (name : String)
    (tree other : FileTree) : Prop where
  placed : other.place path = .ok (folder, .name name false)
  there : other.nodeAt? (folder ++ [name]) = some (.file content)
  gone : other.nodeAt? (folder ++ [name ++ ".tmp"]) = none
  kept : tree.Keeps (fun location => location = folder ++ [name] ∨
    location = folder ++ [name ++ ".tmp"]) other

theorem replace_ok {text : String} (done : tree.replace path text = (.ok (), other)) :
    ∃ folder name, Replaced path text.toUTF8 folder name tree other := by
  rw [replace] at done
  split at done
  · cases done
  · rename_i middle written
    split at done
    · cases done
    · rename_i last moved
      obtain rfl : last = other := congrArg Prod.snd done
      obtain ⟨parent, short, placed, change, first⟩ := write_eq_ok written
      have placed := place_of_folders first.keepsFolders placed
      have there : middle.nodeAt? (parent ++ [short]) = some (.file text.toUTF8) := by
        rw [change, Function.update_self]
      obtain ⟨folder, name, aim, result, second⟩ := rename_eq_ok placed there moved
      -- the temporary name was found from the path, so that both are in one folder
      obtain ⟨rfl, rfl⟩ : parent = folder ∧ short = name ++ ".tmp" := by
        simpa using placed.symm.trans (place_temporary aim)
      refine ⟨parent, name, place_of_folders second.keepsFolders aim, ?_, ?_,
        (first.mono fun _ => .inr).trans second⟩
      · rw [result, Function.update_self]
      · rw [result, Function.update_of_ne (ne_temporary parent name).symm, Function.update_self]

theorem replace_error {text : String} {e : Error}
    (failed : tree.replace path text = (.error e, other)) :
    tree.Keeps (other.locate path.temporary = .ok ·) other := by
  rw [replace] at failed
  split at failed
  · obtain rfl : tree = other := congrArg Prod.snd failed
    exact .refl _ tree
  · rename_i middle written
    split at failed
    · obtain rfl : middle = other := congrArg Prod.snd failed
      obtain ⟨parent, name, placed, change, kept⟩ := write_eq_ok written
      refine kept.mono ?_
      rintro location rfl
      rw [locate_of_place (place_of_folders kept.keepsFolders placed), change,
        Function.update_self]
      rfl
    · cases failed

theorem writeAtomic_ok {text : String} (done : tree.writeAtomic path text = (.ok (), other)) :
    ∃ folder name, Replaced path text.toUTF8 folder name tree other := by
  rw [writeAtomic] at done
  split at done
  · cases done
  · rename_i middle made
    obtain ⟨folder, name, replaced⟩ := replace_ok done
    exact ⟨folder, name,
      { replaced with kept := (keeps_makeParents _ made).trans replaced.kept }⟩

/-- A text that could not be written leaves all files as before, except for the one under the
temporary name. -/
theorem writeAtomic_error {text : String} {e : Error}
    (failed : tree.writeAtomic path text = (.error e, other)) :
    tree.Keeps (other.locate path.temporary = .ok ·) other := by
  rw [writeAtomic] at failed
  split at failed
  · rename_i middle made
    obtain rfl : middle = other := congrArg Prod.snd failed
    exact keeps_makeParents _ made
  · rename_i made
    exact (keeps_makeParents _ made).trans (replace_error failed)

/-- A file is not at the temporary path that belongs to it. -/
theorem readBytes_of_keeps (kept : tree.Keeps (other.locate path.temporary = .ok ·) other)
    (readable : tree.readBytes path = .ok content) : other.readBytes path = .ok content := by
  obtain ⟨location, located, there⟩ := readBytes_eq_ok_iff.1 readable
  obtain ⟨folder, name, placed, rfl⟩ := place_of_locate located there
  have placed := place_of_folders kept.keepsFolders placed
  rcases kept _ _ there with still | ⟨-, temporary⟩
  · refine readBytes_eq_ok_iff.2 ⟨folder ++ [name], ?_, still⟩
    rw [locate_of_place placed, still]
    rfl
  · rw [locate_of_place (place_temporary placed)] at temporary
    split at temporary
    · exact absurd (Except.ok.inj temporary).symm (ne_temporary folder name)
    · cases temporary

end ClassCatalog.FileTree
