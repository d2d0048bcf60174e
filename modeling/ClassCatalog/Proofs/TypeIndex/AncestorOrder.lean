import ClassCatalog.Proofs.TypeIndex.Reachability

/-!
# The order of ancestors

Each level of the listing puts a direct supertype behind what is listed already, and behind it those
of its ancestors that are new.  Up to repetitions the result is the depth-first walk over the stored
supertypes (`depthFirst_ancestorsAlong`).  The walk looks at one set of seen types for all levels,
the listing only at its own level; they agree because a seen type that is not on the path has all
its supertypes seen as well (`SeesAbove`), and no type on the path is met again.
-/

namespace ClassCatalog.TypeIndex

variable {index : TypeIndex}

/-! ## New names -/

/-- The names that are not among the seen ones, each at its first place. -/
def newTo (seen names : List String) : List String :=
  (names.removeAll seen).eraseDups

theorem mem_newTo {seen names : List String} {name : String} :
    name ∈ newTo seen names ↔ name ∈ names ∧ name ∉ seen := by
  simp [newTo, List.removeAll]

theorem newTo_congr {seen other : List String} (same : ∀ name, name ∈ seen ↔ name ∈ other)
    (names : List String) : newTo seen names = newTo other names := by
  simp only [newTo, List.removeAll, List.elem_eq_mem, same]

theorem newTo_nil_seen (names : List String) : newTo [] names = names.eraseDups := by
  rw [newTo, List.removeAll_nil]

theorem newTo_nil (seen : List String) : newTo seen [] = [] := rfl

theorem newTo_cons_of_mem {seen : List String} {name : String} (h : name ∈ seen)
    (rest : List String) : newTo seen (name :: rest) = newTo seen rest := by
  simp [newTo, List.cons_removeAll, h]

theorem newTo_cons_of_not_mem {seen : List String} {name : String} (h : name ∉ seen)
    (rest : List String) : newTo seen (name :: rest) = name :: newTo (name :: seen) rest := by
  have others : (rest.removeAll seen).filter (fun other => !other == name) =
      rest.removeAll (name :: seen) := by
    rw [List.removeAll, List.removeAll, List.filter_filter]
    refine List.filter_congr fun other _ => ?_
    by_cases same : other = name <;> simp [same]
  rw [newTo, List.cons_removeAll, if_pos (by simpa using h), List.eraseDups_cons, others, newTo]

theorem newTo_append (seen first second : List String) :
    newTo seen (first ++ second) = newTo seen first ++ newTo (first ++ seen) second := by
  induction first generalizing seen with
  | nil => rfl
  | cons name rest ih =>
    by_cases h : name ∈ seen
    · rw [List.cons_append, newTo_cons_of_mem h, newTo_cons_of_mem h, ih]
      refine congrArg _ (newTo_congr (fun other => ?_) second)
      simp only [List.cons_append, List.mem_cons, List.mem_append]
      constructor
      · exact .inr
      · rintro (rfl | h')
        · exact .inr h
        · exact h'
    · rw [List.cons_append, newTo_cons_of_not_mem h, newTo_cons_of_not_mem h, ih, List.cons_append]
      refine congrArg _ (congrArg _ (newTo_congr (fun other => ?_) second))
      simp only [List.cons_append, List.mem_cons, List.mem_append]
      exact or_left_comm

theorem newTo_eq_nil {seen names : List String} (h : names ⊆ seen) : newTo seen names = [] := by
  refine List.eq_nil_iff_forall_not_mem.2 fun name new => ?_
  obtain ⟨listed, notSeen⟩ := mem_newTo.1 new
  exact notSeen (h listed)

/-- Names that were left out before would be left out anyway. -/
theorem newTo_newTo {before seen : List String} (h : before ⊆ seen) (names : List String) :
    newTo seen (newTo before names) = newTo seen names := by
  induction names generalizing before seen with
  | nil => rfl
  | cons name rest ih =>
    by_cases inBefore : name ∈ before
    · rw [newTo_cons_of_mem inBefore, newTo_cons_of_mem (h inBefore), ih h]
    · rw [newTo_cons_of_not_mem inBefore]
      by_cases inSeen : name ∈ seen
      · rw [newTo_cons_of_mem inSeen, newTo_cons_of_mem inSeen,
          ih (List.cons_subset.2 ⟨inSeen, h⟩)]
      · rw [newTo_cons_of_not_mem inSeen, newTo_cons_of_not_mem inSeen,
          ih (List.cons_subset_cons name h)]

theorem newTo_cons_newTo {before seen : List String} (h : before ⊆ seen) (name : String)
    (names : List String) :
    newTo seen (name :: newTo (before ++ [name]) names) = newTo seen (name :: names) := by
  by_cases inSeen : name ∈ seen
  · rw [newTo_cons_of_mem inSeen, newTo_cons_of_mem inSeen, newTo_newTo]
    exact List.append_subset.2 ⟨h, by simpa using inSeen⟩
  · rw [newTo_cons_of_not_mem inSeen, newTo_cons_of_not_mem inSeen, newTo_newTo]
    exact List.append_subset.2 ⟨List.subset_cons_of_subset _ h, by simp⟩

theorem addNew_eq_append (names more : List String) :
    addNew names more = names ++ newTo names more := by
  induction more generalizing names with
  | nil => rw [addNew, newTo_nil, List.append_nil]
  | cons name rest ih =>
    by_cases h : name ∈ names
    · rw [addNew, if_pos h, ih, newTo_cons_of_mem h]
    · rw [addNew, if_neg h, ih, newTo_cons_of_not_mem h, List.append_assoc, List.singleton_append]
      refine congrArg _ (congrArg _ (newTo_congr (fun other => ?_) rest))
      simp only [List.mem_append, List.mem_cons, List.not_mem_nil, or_false]
      exact or_comm

theorem count_addNew_le (names more : List String) (name : String) :
    (addNew names more).count name ≤ max (names.count name) 1 := by
  induction more generalizing names with
  | nil => exact Nat.le_max_left _ _
  | cons first rest ih =>
    rw [addNew]
    by_cases h : first ∈ names
    · rw [if_pos h]
      exact ih names
    · rw [if_neg h]
      have := ih (names ++ [first])
      by_cases same : first = name
      · subst same
        rw [List.count_append, List.count_singleton_self, List.count_eq_zero_of_not_mem h] at this
        omega
      · have other : [first].count name = 0 :=
          List.count_eq_zero_of_not_mem (by simpa using Ne.symm same)
        rwa [List.count_append, other] at this

/-! ## The depth-first walk -/

theorem depthFirst_congr {seen other : List String} (same : ∀ name, name ∈ seen ↔ name ∈ other)
    (queue : List String) : index.depthFirst queue seen = index.depthFirst queue other := by
  fun_induction depthFirst index queue seen generalizing other with
  | case1 seen => rw [depthFirst]
  | case2 seen name rest visited ih => rw [depthFirst, if_pos ((same name).1 visited), ih same]
  | case3 seen name rest new ih =>
    have both : ∀ type, type ∈ name :: seen ↔ type ∈ name :: other := by
      simp only [List.mem_cons, same, implies_true]
    rw [depthFirst, if_neg fun h => new ((same name).2 h), ih both]

/-- What is met above a type is neither on the path to it nor the type itself. -/
theorem not_mem_of_ancestorsAlong {path : List String} {name : String} {listed : List String}
    (succeeds : index.ancestorsAlong path name = .ok listed) {other : String}
    (above : Relation.TransGen index.Edge name other) : other ∉ name :: path := by
  refine (ancestorsAlong_induction
    (fun path name _ => name ∉ path ∧
      ∀ other, Relation.TransGen index.Edge name other → other ∉ name :: path)
    (fun path supers _ _ => ∀ super ∈ supers, ∀ other, index.Reaches super other → other ∉ path)
    ?_ ?_ ?_ succeeds).2 other above
  · intro path name _ _ new through
    refine ⟨new, fun other above => ?_⟩
    obtain ⟨super, edge, reaches⟩ := Relation.TransGen.head'_iff.1 above
    exact through super edge other reaches
  · intro path _ super h
    cases h
  · intro path super rest before inherited listed _ first later other h type reaches
    rcases List.mem_cons.1 h with rfl | h
    · rcases Relation.reflTransGen_iff_eq_or_transGen.1 reaches with rfl | above
      · exact first.1
      · exact fun onPath => first.2 type above (List.mem_cons_of_mem _ onPath)
    · exact later other h type reaches

/-! ## Listing and walking -/

/-- Every seen type that is not on the path has all its direct supertypes seen. -/
def SeesAbove (index : TypeIndex) (path seen : List String) : Prop :=
  ∀ type ∈ seen, type ∉ path → ∀ super, index.Edge type super → super ∈ seen

namespace SeesAbove

variable {path seen listed : List String} {name : String}

theorem cons (sees : index.SeesAbove path seen) :
    index.SeesAbove (name :: path) (name :: seen) := by
  intro type h off super edge
  rw [List.mem_cons, not_or] at off
  have inSeen := (List.mem_cons.1 h).resolve_left off.1
  exact List.mem_cons_of_mem _ (sees type inSeen off.2 super edge)

theorem append (sees : index.SeesAbove path seen)
    (succeeds : index.ancestorsAlong path name = .ok listed) :
    index.SeesAbove path (name :: listed ++ seen) := by
  have reached := mem_ancestorsAlong_iff path name succeeds
  intro type h off super edge
  rw [List.cons_append, List.mem_cons, List.mem_append] at h ⊢
  rcases h with rfl | h | h
  · exact .inr (.inl ((reached super).2 (.single edge)))
  · exact .inr (.inl ((reached super).2 (.tail ((reached type).1 h) edge)))
  · exact .inr (.inr (sees type h off super edge))

theorem subset (sees : index.SeesAbove path seen)
    (succeeds : index.ancestorsAlong path name = .ok listed) (new : name ∉ path)
    (h : name ∈ seen) : listed ⊆ seen := by
  intro other inList
  have reached := mem_ancestorsAlong_iff path name succeeds
  have above := (reached other).1 inList
  induction above with
  | single edge => exact sees name h new _ edge
  | tail before edge ih =>
    have off := not_mem_of_ancestorsAlong succeeds before
    rw [List.mem_cons, not_or] at off
    exact sees _ (ih ((reached _).2 before)) off.2 _ edge

end SeesAbove

/-- A walk from a type meets what is listed above it as far as it was not seen before. -/
theorem depthFirst_ancestorsAlong {path : List String} {name : String} {listed : List String}
    (succeeds : index.ancestorsAlong path name = .ok listed) {seen : List String}
    (sees : index.SeesAbove path seen) (queue : List String) :
    index.depthFirst (name :: queue) seen =
      newTo seen (name :: listed) ++ index.depthFirst queue (name :: listed ++ seen) := by
  refine ancestorsAlong_induction
    (fun path name listed => ∀ seen, index.SeesAbove path seen → ∀ queue,
      index.depthFirst (name :: queue) seen =
        newTo seen (name :: listed) ++ index.depthFirst queue (name :: listed ++ seen))
    -- what comes behind the names that were listed before, all of which the walk has seen
    (fun path supers before listed => ∃ more, listed = before ++ more ∧
      ∀ seen, before ⊆ seen → index.SeesAbove path seen → ∀ queue,
        index.depthFirst (supers ++ queue) seen =
          newTo seen more ++ index.depthFirst queue (more ++ seen))
    ?_ ?_ ?_ succeeds seen sees queue
  · rintro path name listed succeeds new ⟨more, rfl, through⟩ seen sees queue
    by_cases h : name ∈ seen
    · have known := sees.subset succeeds new h
      rw [depthFirst, if_pos h, newTo_eq_nil (List.cons_subset.2 ⟨h, known⟩), List.nil_append]
      refine depthFirst_congr (fun other => ?_) queue
      grind
    · rw [depthFirst, if_neg h, through (name :: seen) (List.nil_subset _) sees.cons,
        newTo_cons_of_not_mem h, List.cons_append]
      refine congrArg _ (congrArg _ (depthFirst_congr (fun other => ?_) queue))
      grind
  · intro path listed
    exact ⟨[], (List.append_nil _).symm, fun seen _ _ queue => rfl⟩
  · rintro path super rest before inherited listed succeeds first ⟨more, rfl, through⟩
    refine ⟨super :: newTo (before ++ [super]) inherited ++ more, ?_, ?_⟩
    · rw [addNew_eq_append]
      simp only [List.append_assoc, List.cons_append, List.nil_append]
    · intro seen h sees queue
      have listed : addNew (before ++ [super]) inherited ⊆ super :: inherited ++ seen := by
        intro other
        rw [mem_addNew]
        grind
      have met : ∀ other, other ∈ super :: newTo (before ++ [super]) inherited ++ seen ↔
          other ∈ super :: inherited ++ seen := by
        intro other
        simp only [List.cons_append, List.mem_cons, List.mem_append, mem_newTo]
        grind
      rw [List.cons_append, first seen sees, through _ listed (sees.append succeeds), newTo_append,
        newTo_cons_newTo h, newTo_congr met, List.append_assoc]
      refine congrArg _ (congrArg _ (depthFirst_congr (fun other => ?_) queue))
      have := met other
      grind

/-- A name is listed at most once more often than it is stored as a direct supertype. -/
theorem count_ancestorsAlong_le {path : List String} {name : String} {listed : List String}
    (succeeds : index.ancestorsAlong path name = .ok listed) (type : String) :
    listed.count type ≤ (index.supertypes name).count type + 1 := by
  refine ancestorsAlong_induction
    (fun _ name listed => listed.count type ≤ (index.supertypes name).count type + 1)
    (fun _ supers before listed =>
      listed.count type ≤ supers.count type + max (before.count type) 1)
    ?_ ?_ ?_ succeeds
  · intro path name listed _ _ through
    simpa using through
  · intro path listed
    rw [List.count_nil, Nat.zero_add]
    exact Nat.le_max_left _ _
  · intro path super rest before inherited listed _ _ through
    have added := count_addNew_le (before ++ [super]) inherited type
    rw [List.count_append, List.count_singleton] at added
    rw [List.count_cons]
    omega

/-- Without its repetitions the list of the ancestors is the depth-first walk from the type, which
itself is left out.  So it holds exactly the types that are reached in one or more steps.  Only
direct supertypes are repeated, each at most once more often than it is stored. -/
theorem ancestors_eq_walk {name : String} {listed : List String}
    (succeeds : index.ancestors name = .ok listed) :
    index.depthFirst [name] [] = name :: listed.eraseDups ∧
    (∀ type, type ∈ listed ↔ Relation.TransGen index.Edge name type) ∧
    name ∉ listed ∧
    ∀ type, (1 < listed.count type → type ∈ index.supertypes name) ∧
      listed.count type ≤ (index.supertypes name).count type + 1 := by
  have reached := mem_ancestors_iff succeeds
  have off : name ∉ listed := fun h =>
    not_mem_of_ancestorsAlong succeeds ((reached name).1 h) List.mem_cons_self
  refine ⟨?_, reached, off, fun type => ⟨fun twice => ?_, count_ancestorsAlong_le succeeds type⟩⟩
  · have empty : index.SeesAbove [] [] := fun type h => by cases h
    have others : listed.filter (fun type => !type == name) = listed :=
      List.filter_eq_self.2 fun type h => by simpa using ne_of_mem_of_not_mem h off
    have walked := depthFirst_ancestorsAlong succeeds empty []
    rwa [newTo_nil_seen, List.eraseDups_cons, others, depthFirst, List.append_nil] at walked
  · have bound := count_ancestorsAlong_le succeeds type
    exact List.count_pos_iff.1 (by omega)

/-- A class that inherits an interface along two ways and names it a third time. -/
def diamond : TypeIndex where
  types :=
    ⟨[ ("Leaf", ⟨.plain, [.ok "Left", .ok "Right", .ok "Top"]⟩),
       ("Left", ⟨.plain, [.ok "Top"]⟩),
       ("Right", ⟨.interface, [.ok "Top", .ok "Side"]⟩),
       ("Top", ⟨.interface, []⟩),
       ("Side", ⟨.interface, []⟩) ]⟩

/-- The interface is listed where it is first inherited, and again where the class names it. -/
theorem diamond_walk :
    diamond.ancestors "Leaf" = .ok ["Left", "Top", "Right", "Side", "Top"] ∧
    diamond.depthFirst ["Leaf"] [] = ["Leaf", "Left", "Top", "Right", "Side"] ∧
    Relation.TransGen diamond.Edge "Leaf" "Side" := by
  have listed : diamond.ancestors "Leaf" = .ok ["Left", "Top", "Right", "Side", "Top"] := by
    cbv
  obtain ⟨walked, reached, -, -⟩ := ancestors_eq_walk listed
  exact ⟨listed, walked, (reached "Side").1 (by decide)⟩

end ClassCatalog.TypeIndex
