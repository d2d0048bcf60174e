import ClassCatalog.FileTree.AtomicWrite
import ClassCatalog.Proofs.Except
import ClassCatalog.Proofs.FileTree.Nodes
import Mathlib.Data.List.TakeWhile

/-!
# Where paths lead

A path is followed by looking at the nodes along it, so that trees with the same nodes agree on
every path (`follow_congr`).  The place of a path is found through folders only and stays what it is
as long as they stay (`place_of_folders`).  The temporary path of a file has the same place as the
file, under its name with an ending (`place_temporary`).
-/

namespace ClassCatalog

/-! ## Steps of a path -/

namespace Path

variable {path : Path} {above : List String} {name : String}

/-- A step that is a name. -/
def IsName (step : String) : Prop :=
  isIdle step = false ∧ step ≠ ".."

theorem isName_tmp (name : String) : IsName (name ++ ".tmp") := by
  have long {step : String} (h : name ++ ".tmp" = step) : 4 ≤ step.length := by
    rw [← h, String.length_append]
    exact Nat.le_add_left _ _
  refine ⟨?_, fun h => absurd (long h) (by decide)⟩
  rw [isIdle, Bool.or_eq_false_iff]
  exact ⟨beq_false_of_ne fun h => absurd (long h) (by decide),
    beq_false_of_ne fun h => absurd (long h) (by decide)⟩

theorem exists_dropIdle_append (steps : List String) :
    ∃ idle, (∀ step ∈ idle, isIdle step) ∧ steps = dropIdle steps ++ idle := by
  cases steps with
  | nil => exact ⟨[], by simp, rfl⟩
  | cons first rest =>
    refine ⟨(rest.reverse.takeWhile isIdle).reverse,
      fun step h => List.mem_takeWhile_imp (List.mem_reverse.1 h), ?_⟩
    rw [dropIdle, List.cons_append, ← List.reverse_append, List.takeWhile_append_dropWhile,
      List.reverse_reverse]

theorem dropIdle_concat (proper : IsName name) (above : List String) :
    dropIdle (above ++ [name]) = above ++ [name] := by
  cases above with
  | nil => rfl
  | cons first rest =>
    rw [List.cons_append, dropIdle, List.reverse_concat,
      List.dropWhile_cons_of_neg (by simp [proper.1])]
    simp

/-- Only the first step may be empty where steps that mean nothing are left out. -/
theorem dropIdle_eq_of_getLast? {steps : List String} (h : (dropIdle steps).getLast? = some "") :
    dropIdle steps = [""] := by
  cases steps with
  | nil => cases h
  | cons first rest =>
    rw [dropIdle] at h ⊢
    have kept := List.head?_dropWhile_not isIdle rest.reverse
    cases trimmed : rest.reverse.dropWhile isIdle with
    | nil =>
      rw [trimmed] at h
      simpa using h
    | cons last others =>
      rw [trimmed, List.reverse_cons, ← List.cons_append, List.getLast?_concat] at h
      rw [trimmed] at kept
      obtain rfl := Option.some.inj h
      cases kept

theorem part?_of_isName (proper : IsName name) : part? name = some (.name name) := by
  rw [part?, if_neg (by simp [proper.1]), if_neg proper.2]

theorem name?_of_steps (proper : IsName name) (steps : path.steps = above ++ [name]) :
    path.name? = some name := by
  have last (rest : List String) :
      ((rest ++ [name]).filterMap part?).getLast? = some (.name name) := by
    rw [List.filterMap_append]
    simp [part?_of_isName proper]
  -- the first step may be empty or a dot, the last one may not
  have behind {first : String} {rest : List String} (idle : isIdle first)
      (split : above ++ [name] = first :: rest) : ∃ above', rest = above' ++ [name] := by
    cases above with
    | nil =>
      obtain rfl : name = first := by simpa using congrArg List.head? split
      rw [proper.1] at idle
      cases idle
    | cons first' above' =>
      rw [List.cons_append] at split
      exact ⟨above', (List.cons.inj split).2.symm⟩
  have lastPart : path.parts.getLast? = some (.name name) := by
    rw [parts, steps]
    split
    · rename_i split
      obtain ⟨above', h⟩ := behind rfl split
      simp at h
    · rename_i split
      obtain ⟨above', rfl⟩ := behind rfl split
      rw [List.getLast?_cons, last]
      rfl
    · rename_i split
      obtain ⟨above', rfl⟩ := behind rfl split
      rw [List.getLast?_cons, last]
      rfl
    · exact last above
  rw [name?, lastPart]

theorem parent?_of_single (proper : IsName name) (steps : path.steps = [name]) :
    path.parent? = some empty := by
  rw [parent?, steps, ← List.nil_append [name], dropIdle_concat proper]
  split
  · rename_i none
    cases none
  · rename_i single
    obtain rfl := List.singleton_inj.1 single
    cases proper.1
  · rfl
  · rename_i more
    exact absurd rfl (more name)

theorem parent?_of_steps (proper : IsName name) (more : above ≠ [])
    (steps : path.steps = above ++ [name]) :
    path.parent? = some (if dropIdle above = [""] then ⟨["", ""]⟩ else ⟨dropIdle above⟩) := by
  have length : 2 ≤ (above ++ [name]).length := by
    have := List.length_pos_of_ne_nil more
    rw [List.length_append, List.length_singleton]
    omega
  rw [parent?, steps, dropIdle_concat proper]
  split
  · rename_i none
    simp at none
  · rename_i single
    simp [single] at length
  · rename_i single
    simp [single] at length
  · rw [List.dropLast_concat]
    split
    · rename_i top
      rw [if_pos top]
    · rename_i other
      rw [if_neg other]

theorem steps_temporary (proper : IsName name) (steps : path.steps = above ++ [name]) :
    path.temporary.steps = dropIdle above ++ [name ++ ".tmp"] := by
  rw [temporary, withName, name?_of_steps proper steps, Option.isSome_some, if_pos rfl,
    Option.getD_some]
  cases above with
  | nil =>
    rw [parent?_of_single proper steps]
    rfl
  | cons first rest =>
    rw [parent?_of_steps proper (List.cons_ne_nil first rest) steps, Option.getD_some]
    by_cases top : dropIdle (first :: rest) = [""]
    · rw [if_pos top, top]
      rfl
    · rw [if_neg top, join, if_neg fun h => top (dropIdle_eq_of_getLast? h)]

end Path

namespace FileTree

variable {tree other : FileTree} {location parent : Location} {path : Path}

/-! ## Following steps -/

theorem follow_cons (tree : FileTree) (location : Location) (step : String) (rest : List String) :
    tree.follow location (step :: rest) =
      match tree.nodeAt? location with
      | none => .error .notFound
      | some (.file _) => .error .notAFolder
      | some .folder =>
        if Path.isIdle step then tree.follow location rest
        else if step = ".." then tree.follow location.dropLast rest
        else if (tree.nodeAt? (location ++ [step])).isSome then
          tree.follow (location ++ [step]) rest
        else .error .notFound := by
  rw [follow, nodeAt?, nodeAt?, get?_append]
  cases tree.get? location with
  | none => rfl
  | some entry =>
    cases entry with
    | file content => rfl
    | folder entries =>
      rw [Option.bind_some, get?]
      cases found : entries.lookup step <;> simp [node, get?, found]

theorem follow_congr (same : tree.nodeAt? = other.nodeAt?) (location : Location)
    (steps : List String) : tree.follow location steps = other.follow location steps := by
  induction steps generalizing location with
  | nil => rfl
  | cons step rest ih => simp only [follow_cons, same, ih]

theorem follow_append (tree : FileTree) (location : Location) (first second : List String) :
    tree.follow location (first ++ second) =
      (tree.follow location first).bind (tree.follow · second) := by
  induction first generalizing location with
  | nil => rfl
  | cons step rest ih =>
    rw [List.cons_append, follow_cons, follow_cons]
    split
    · rfl
    · rfl
    · split
      · exact ih _
      · split
        · exact ih _
        · split
          · exact ih _
          · rfl

/-- Where a step leads from a folder. -/
def advance (location : Location) (step : String) : Location :=
  if Path.isIdle step then location
  else if step = ".." then location.dropLast
  else location ++ [step]

theorem advance_of_isIdle {step : String} (idle : Path.isIdle step) (location : Location) :
    advance location step = location :=
  if_pos idle

theorem advance_dot (location : Location) : advance location "." = location := rfl

theorem follow_cons_eq_ok_iff {step : String} {rest : List String} :
    tree.follow location (step :: rest) = .ok parent ↔
      tree.nodeAt? location = some .folder ∧ (tree.nodeAt? (advance location step)).isSome ∧
        tree.follow (advance location step) rest = .ok parent := by
  rw [follow_cons, advance]
  split
  · simp_all
  · simp_all
  · rename_i here
    by_cases idle : Path.isIdle step
    · simp [idle, here]
    · by_cases up : step = ".."
      · subst up
        simp [idle, here, nodeAt?_dropLast here]
      · by_cases there : (tree.nodeAt? (location ++ [step])).isSome <;>
          simp [idle, up, here, there]

theorem nodeAt?_of_follow_ne_nil {steps : List String} (more : steps ≠ [])
    (h : tree.follow location steps = .ok parent) : tree.nodeAt? location = some .folder := by
  obtain ⟨step, rest, rfl⟩ := List.exists_cons_of_ne_nil more
  exact (follow_cons_eq_ok_iff.1 h).1

/-- A dot at the end asks for a folder. -/
theorem follow_dot_eq_ok_iff {steps : List String} :
    tree.follow location (steps ++ ["."]) = .ok parent ↔
      tree.follow location steps = .ok parent ∧ tree.nodeAt? parent = some .folder := by
  rw [follow_append, bind_eq_ok_iff]
  constructor
  · rintro ⟨last, followed, dot⟩
    obtain ⟨here, -, stays⟩ := follow_cons_eq_ok_iff.1 dot
    obtain rfl := Except.ok.inj stays
    exact ⟨followed, here⟩
  · rintro ⟨followed, here⟩
    refine ⟨parent, followed, follow_cons_eq_ok_iff.2 ⟨here, ?_, rfl⟩⟩
    rw [advance_dot, here]
    rfl

/-- Every folder of the first tree is a folder of the second one. -/
def KeepsFolders (tree other : FileTree) : Prop :=
  ∀ location, tree.nodeAt? location = some .folder → other.nodeAt? location = some .folder

theorem follow_of_folders (kept : tree.KeepsFolders other) {steps : List String}
    (h : tree.follow location (steps ++ ["."]) = .ok parent) :
    other.follow location (steps ++ ["."]) = .ok parent := by
  induction steps generalizing location with
  | nil =>
    obtain ⟨here, -, stays⟩ := follow_cons_eq_ok_iff.1 h
    exact follow_cons_eq_ok_iff.2 ⟨kept _ here, by rw [advance_dot, kept _ here]; rfl, stays⟩
  | cons step rest ih =>
    obtain ⟨here, -, later⟩ := follow_cons_eq_ok_iff.1 h
    have next := kept _ (nodeAt?_of_follow_ne_nil (by simp) later)
    exact follow_cons_eq_ok_iff.2 ⟨kept _ here, by rw [next]; rfl, ih later⟩

/-- Steps that mean nothing may be left out in front of a dot. -/
theorem follow_idle {idle : List String} (all : ∀ step ∈ idle, Path.isIdle step)
    (tree : FileTree) (location : Location) :
    tree.follow location (idle ++ ["."]) = tree.follow location ["."] := by
  induction idle with
  | nil => rfl
  | cons step rest ih =>
    have skipped := all step List.mem_cons_self
    rw [List.cons_append, follow_cons, ih fun s h => all s (List.mem_cons_of_mem _ h), follow_cons]
    split
    · rfl
    · rfl
    · rw [if_pos skipped]

theorem follow_dropIdle (tree : FileTree) (location : Location) (steps : List String) :
    tree.follow location (Path.dropIdle steps ++ ["."]) =
      tree.follow location (steps ++ ["."]) := by
  obtain ⟨idle, all, whole⟩ := Path.exists_dropIdle_append steps
  conv_rhs => rw [whole, List.append_assoc, follow_append]
  simp only [follow_idle all, follow_append]

/-! ## Places -/

theorem splitLast_of_steps {above : List String} {name : String} (proper : Path.IsName name)
    (steps : path.steps = above ++ [name]) : splitLast path = (above, .name name false) := by
  obtain ⟨notIdle, notUp⟩ := proper
  obtain ⟨notEmpty, notDot⟩ : name ≠ "" ∧ name ≠ "." := by simpa [Path.isIdle] using notIdle
  simp [splitLast, steps, notEmpty, notDot, notUp]

theorem steps_of_splitLast {above : List String} {name : String}
    (h : splitLast path = (above, .name name false)) :
    Path.IsName name ∧ path.steps = above ++ [name] := by
  rw [splitLast] at h
  split at h
  · cases h
  · rename_i step last
    obtain ⟨rfl, kind⟩ := Prod.mk.inj h
    split at kind
    · cases kind
    · rename_i proper
      rw [not_or] at proper
      obtain ⟨rfl, length⟩ := LastStep.name.inj kind
      -- nothing was left out, so that these are all steps
      have whole : path.steps.reverse.dropWhile (· == "") = path.steps.reverse := by
        refine (List.dropWhile_suffix _).eq_of_length ?_
        simpa using length
      have kept := List.head?_dropWhile_not (· == "") path.steps.reverse
      rw [whole, List.reverse_reverse] at last ⊢
      rw [whole, List.head?_reverse, last] at kept
      refine ⟨⟨by simpa [Path.isIdle, proper.1] using kept, proper.2⟩, ?_⟩
      obtain ⟨before, steps⟩ := List.getLast?_eq_some_iff.1 last
      rw [steps, List.dropLast_concat]

theorem place_eq_ok_iff {last : LastStep} :
    tree.place path = .ok (parent, last) ↔
      path.isEmpty = false ∧ tree.follow [] ((splitLast path).1 ++ ["."]) = .ok parent ∧
        (splitLast path).2 = last := by
  rw [place]
  by_cases empty : path.isEmpty
  · simp [empty]
  · rw [if_neg empty]
    split <;> simp_all

/-- The place of a path that ends in a name. -/
theorem place_eq_name_iff {name : String} :
    tree.place path = .ok (parent, .name name false) ↔
      Path.IsName name ∧ ∃ above, path.steps = above ++ [name] ∧
        tree.follow [] (above ++ ["."]) = .ok parent := by
  rw [place_eq_ok_iff]
  constructor
  · rintro ⟨-, followed, last⟩
    obtain ⟨proper, steps⟩ := steps_of_splitLast (Prod.ext rfl last)
    exact ⟨proper, _, steps, followed⟩
  · rintro ⟨proper, above, steps, followed⟩
    refine ⟨?_, ?_, ?_⟩
    · rw [Path.isEmpty, steps, Bool.or_eq_false_iff]
      refine ⟨by simp, beq_false_of_ne ?_⟩
      rintro rfl
      have last : [] ++ [""] = above ++ [name] := steps
      obtain ⟨-, same⟩ := List.append_inj' last rfl
      obtain rfl := List.singleton_inj.1 same
      cases proper.1
    · rwa [splitLast_of_steps proper steps]
    · rw [splitLast_of_steps proper steps]

theorem nodeAt?_of_place {last : LastStep} (placed : tree.place path = .ok (parent, last)) :
    tree.nodeAt? parent = some .folder :=
  (follow_dot_eq_ok_iff.1 (place_eq_ok_iff.1 placed).2.1).2

theorem place_of_folders (kept : tree.KeepsFolders other) {last : LastStep}
    (placed : tree.place path = .ok (parent, last)) : other.place path = .ok (parent, last) := by
  obtain ⟨some, followed, last⟩ := place_eq_ok_iff.1 placed
  exact place_eq_ok_iff.2 ⟨some, follow_of_folders kept followed, last⟩

theorem place_temporary {name : String}
    (placed : tree.place path = .ok (parent, .name name false)) :
    tree.place path.temporary = .ok (parent, .name (name ++ ".tmp") false) := by
  obtain ⟨proper, above, steps, followed⟩ := place_eq_name_iff.1 placed
  refine place_eq_name_iff.2 ⟨Path.isName_tmp name, _, Path.steps_temporary proper steps, ?_⟩
  rwa [follow_dropIdle]

theorem locate_of_place {name : String}
    (placed : tree.place path = .ok (parent, .name name false)) :
    tree.locate path =
      if (tree.nodeAt? (parent ++ [name])).isSome then .ok (parent ++ [name])
      else .error .notFound := by
  obtain ⟨⟨notIdle, notUp⟩, above, steps, followed⟩ := place_eq_name_iff.1 placed
  obtain ⟨reached, here⟩ := follow_dot_eq_ok_iff.1 followed
  rw [locate, (place_eq_ok_iff.1 placed).1, steps, follow_append, reached]
  simp only [Except.bind, follow_cons, here, notIdle, notUp]
  rfl

/-- A path that leads to a file ends in its name. -/
theorem place_of_locate {content : ByteArray} (located : tree.locate path = .ok location)
    (there : tree.nodeAt? location = some (.file content)) :
    ∃ parent name, tree.place path = .ok (parent, .name name false) ∧
      location = parent ++ [name] := by
  rw [locate] at located
  split at located
  · cases located
  · rename_i some
    rcases List.eq_nil_or_concat' path.steps with none | ⟨above, last, steps⟩
    · simp [Path.isEmpty, none] at some
    · rw [steps, follow_append, bind_eq_ok_iff] at located
      obtain ⟨parent, reached, lastStep⟩ := located
      obtain ⟨here, -, arrived⟩ := follow_cons_eq_ok_iff.1 lastStep
      obtain rfl := Except.ok.inj arrived
      -- a dot and two dots lead to folders
      have notIdle : Path.isIdle last = false := by
        by_contra idle
        rw [advance_of_isIdle (by simpa using idle), here] at there
        cases there
      have notUp : last ≠ ".." := by
        rintro rfl
        rw [advance, if_neg (by decide), if_pos rfl, nodeAt?_dropLast here] at there
        cases there
      refine ⟨parent, last, place_eq_name_iff.2 ⟨⟨notIdle, notUp⟩, above, steps, ?_⟩, ?_⟩
      · exact follow_dot_eq_ok_iff.2 ⟨reached, here⟩
      · rw [advance, if_neg (by simp [notIdle]), if_neg notUp]

/-! ## Looking at what a path leads to -/

theorem locate_congr (same : tree.nodeAt? = other.nodeAt?) (path : Path) :
    tree.locate path = other.locate path := by
  rw [locate, locate, follow_congr same]

theorem isFolder_eq (tree : FileTree) (path : Path) :
    tree.isFolder path =
      match tree.locate path with
      | .ok location =>
        match tree.nodeAt? location with
        | some .folder => true
        | _ => false
      | .error _ => false := by
  rw [isFolder]
  cases tree.locate path with
  | error reason => rfl
  | ok location =>
    simp only [nodeAt?]
    rcases tree.get? location with _ | _ | _ <;> rfl

theorem readBytes_eq (tree : FileTree) (path : Path) :
    tree.readBytes path =
      match tree.locate path with
      | .error reason => .error reason
      | .ok location =>
        match tree.nodeAt? location with
        | some (.file content) => .ok content
        | some .folder => .error .isAFolder
        | none => .error .notFound := by
  rw [readBytes]
  cases tree.locate path with
  | error reason => rfl
  | ok location =>
    simp only [nodeAt?]
    rcases tree.get? location with _ | _ | _ <;> rfl

theorem readBytes_eq_ok_iff {content : ByteArray} :
    tree.readBytes path = .ok content ↔
      ∃ location, tree.locate path = .ok location ∧
        tree.nodeAt? location = some (.file content) := by
  rw [readBytes_eq]
  cases tree.locate path with
  | error reason => simp
  | ok location =>
    simp only [Except.ok.injEq, exists_eq_left']
    rcases tree.nodeAt? location with _ | _ | _ <;> simp

end FileTree

end ClassCatalog
