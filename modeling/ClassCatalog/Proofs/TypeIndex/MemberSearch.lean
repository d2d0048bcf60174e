import ClassCatalog.Proofs.TypeIndex.AncestorFailures
import Mathlib.Data.List.Lex

/-!
# Searching for member types

A member type is searched depth-first, in a type and then in its supertypes, and a type that was
visited before is left out, on whatever branch that was (`searchFrom`).  Nothing is missed by this:
a visited type either has been searched through with everything above it, or it is on the path to
the present one (`Explored`).  So the search finds what a search of all routes finds first, where
routes are compared by the positions of the supertypes they take (`FirstRoute`).  Where no type is
its own ancestor, the search may even forget which types it visited (`SearchesTo`).
-/

namespace ClassCatalog.TypeIndex

open Text

variable {index : TypeIndex} {simple : String}

/-- The end of a search: what it found, and the types visited by then, also those from before. -/
structure Search (visited : List String) where
  found : Option String
  now : List String
  grown : visited ⊆ now

mutual

/-- Searches a type for a member type of its own and then its supertypes, going into no visited type
again. -/
def searchFrom (index : TypeIndex) (simple : String) (visited : List String) (owner : String) :
    Search visited :=
  if _new : owner ∈ visited then ⟨none, visited, List.Subset.refl visited⟩
  else if index.contains (member owner simple) then
    ⟨some (member owner simple), visited, List.Subset.refl visited⟩
  else
    match _known : index.info? owner with
    | none => ⟨none, owner :: visited, List.subset_cons_self owner visited⟩
    | some entry =>
      let search := index.searchThrough simple (owner :: visited)
        (entry.supertypes.filterMap Except.toOption)
      ⟨search.found, search.now,
        List.Subset.trans (List.subset_cons_self owner visited) search.grown⟩
termination_by ((index.unvisited visited).length, 0)
decreasing_by
  exact Prod.Lex.left _ _ (length_unvisited_cons_lt (mem_names_of_info? _known) _new)

/-- Searches types one after the other, each with what the ones before it have visited. -/
def searchThrough (index : TypeIndex) (simple : String) (visited : List String) :
    List String → Search visited
  | [] => ⟨none, visited, List.Subset.refl visited⟩
  | owner :: rest =>
    match index.searchFrom simple visited owner with
    | ⟨some found, now, grown⟩ => ⟨some found, now, grown⟩
    | ⟨none, now, grown⟩ =>
      let search := index.searchThrough simple now rest
      ⟨search.found, search.now, List.Subset.trans grown search.grown⟩
termination_by owners => ((index.unvisited visited).length, owners.length + 1)
decreasing_by
  · exact Prod.Lex.right _ (by simp)
  · rcases Nat.lt_or_eq_of_le (index.length_unvisited_le_of_subset grown) with h | h
    · exact Prod.Lex.left _ _ h
    · rw [h]
      exact Prod.Lex.right _ (by simp)

end

/-- The induction over a search: a type is met again, has the member itself or passes the search on
to its supertypes, and these are searched one after the other. -/
theorem search_induction (start : List String → String → Option String → List String → Prop)
    (through : List String → List String → Option String → List String → Prop)
    (again : ∀ visited owner, owner ∈ visited → start visited owner none visited)
    (own : ∀ visited owner, owner ∉ visited → index.contains (member owner simple) = true →
      start visited owner (some (member owner simple)) visited)
    (enter : ∀ visited owner found now, owner ∉ visited →
      index.contains (member owner simple) = false →
      through (owner :: visited) (index.supertypes owner) found now → start visited owner found now)
    (done : ∀ visited, through visited [] none visited)
    (stop : ∀ visited owner rest found now, start visited owner (some found) now →
      through visited (owner :: rest) (some found) now)
    (next : ∀ visited owner rest now found later, start visited owner none now → now ⊆ later →
      through now rest found later → through visited (owner :: rest) found later)
    (visited : List String) (owner : String) :
    start visited owner (index.searchFrom simple visited owner).found
      (index.searchFrom simple visited owner).now := by
  refine (searchFrom.mutual_induct index simple
    (fun visited owner => start visited owner (index.searchFrom simple visited owner).found
      (index.searchFrom simple visited owner).now)
    (fun visited owners => through visited owners (index.searchThrough simple visited owners).found
      (index.searchThrough simple visited owners).now)
    ?_ ?_ ?_ ?_ ?_ ?_ ?_).1 visited owner
  · intro visited owner met
    rw [searchFrom, dif_pos met]
    exact again visited owner met
  · intro visited owner new declared
    rw [searchFrom, dif_neg new, if_pos declared]
    exact own visited owner new declared
  · intro visited owner new missing unknown
    have none : index.supertypes owner = [] := by rw [supertypes, unknown]
    rw [searchFrom, dif_neg new, if_neg missing]
    split
    · exact enter visited owner _ _ new (by simpa using missing) (none ▸ done (owner :: visited))
    · simp_all
  · intro visited owner new missing entry known ih
    rw [searchFrom, dif_neg new, if_neg missing]
    split
    · simp_all
    · rename_i entry' known'
      obtain rfl := Option.some.inj (known.symm.trans known')
      refine enter visited owner _ _ new (by simpa using missing) ?_
      rw [supertypes, known]
      exact ih
  · intro visited
    rw [searchThrough]
    exact done visited
  · intro visited owner rest found now grown searched ih
    rw [searched] at ih
    rw [searchThrough, searched]
    exact stop visited owner rest found now ih
  · intro visited owner rest now grown searched ih ihRest
    rw [searched] at ih
    rw [searchThrough, searched]
    exact next visited owner rest now _ _ ih (index.searchThrough simple now rest).grown ihRest

/-- The member type of a type itself. -/
def ownMember? (index : TypeIndex) (simple type : String) : Option String :=
  if index.contains (member type simple) then some (member type simple) else none

/-- A walk finds first what the search finds, and otherwise goes on with what it has visited. -/
theorem findSome?_depthFirst (visited : List String) (owner : String) (queue : List String) :
    (index.depthFirst (owner :: queue) visited).findSome? (index.ownMember? simple) =
      (index.searchFrom simple visited owner).found.or
        ((index.depthFirst queue (index.searchFrom simple visited owner).now).findSome?
          (index.ownMember? simple)) := by
  refine search_induction
    (fun visited owner found now => ∀ queue,
      (index.depthFirst (owner :: queue) visited).findSome? (index.ownMember? simple) =
        found.or ((index.depthFirst queue now).findSome? (index.ownMember? simple)))
    (fun visited owners found now => ∀ queue,
      (index.depthFirst (owners ++ queue) visited).findSome? (index.ownMember? simple) =
        found.or ((index.depthFirst queue now).findSome? (index.ownMember? simple)))
    ?_ ?_ ?_ ?_ ?_ ?_ visited owner queue
  · intro visited owner met queue
    rw [depthFirst, if_pos met, Option.none_or]
  · intro visited owner new declared queue
    rw [depthFirst, if_neg new, List.findSome?_cons, ownMember?, if_pos declared, Option.some_or]
  · intro visited owner found now new missing through queue
    rw [depthFirst, if_neg new, List.findSome?_cons, ownMember?, missing]
    exact through queue
  · intro visited queue
    rw [List.nil_append, Option.none_or]
  · intro visited owner rest found now start queue
    rw [List.cons_append, start, Option.some_or, Option.some_or]
  · intro visited owner rest now found later start _ through queue
    rw [List.cons_append, start, Option.none_or, through]

theorem found_searchFrom (owner : String) :
    (index.searchFrom simple [] owner).found = index.memberType? owner simple := by
  have walked := @findSome?_depthFirst index simple [] owner []
  rw [depthFirst, List.findSome?_nil, Option.or_none] at walked
  exact walked.symm

/-! ## Depth-first order -/

/-- A route from a type to another one: it says at each type which of the stored supertypes comes
next, and meets no type twice and none of those to be avoided. -/
inductive Route (index : TypeIndex) : List String → String → List Nat → String → Prop
  | here {avoided : List String} {type : String} (new : type ∉ avoided) :
      Route index avoided type [] type
  | step {avoided : List String} {type super target : String} {n : Nat} {route : List Nat}
      (new : type ∉ avoided) (edge : (index.supertypes type)[n]? = some super)
      (above : Route index (type :: avoided) super route target) :
      Route index avoided type (n :: route) target

/-- No route from a type leads to one with the member type. -/
def Misses (index : TypeIndex) (simple : String) (avoided : List String) (owner : String) : Prop :=
  ∀ route type, index.Route avoided owner route type → index.contains (member type simple) = false

/-- The first route from a type to one with the member type, in lexicographic order. -/
structure FirstRoute (index : TypeIndex) (simple : String) (avoided : List String) (owner : String)
    (route : List Nat) (type : String) : Prop where
  leads : index.Route avoided owner route type
  declares : index.contains (member type simple) = true
  first : ∀ before other, index.Route avoided owner before other → before < route →
    index.contains (member other simple) = false

/-- The member type at the end of the first route. -/
def Finds (index : TypeIndex) (simple : String) (avoided : List String) (owner found : String) :
    Prop :=
  ∃ route type, index.FirstRoute simple avoided owner route type ∧ found = member type simple

/-- The member type that the first of some types leads to, all types before it leading to none. -/
def FindsAmong (index : TypeIndex) (simple : String) (avoided owners : List String)
    (found : String) : Prop :=
  ∃ (n : Nat) (owner : String), owners[n]? = some owner ∧ index.Finds simple avoided owner found ∧
    ∀ m < n, ∀ before, owners[m]? = some before → index.Misses simple avoided before

section Order

variable {avoided owners : List String} {owner found : String}

theorem Route.target_eq {route : List Nat} {type other : String}
    (leads : index.Route avoided owner route type)
    (leads' : index.Route avoided owner route other) : type = other := by
  induction leads with
  | here _ => cases leads'; rfl
  | step _ edge _ ih =>
    cases leads' with
    | step _ edge' above =>
      obtain rfl := Option.some.inj (edge.symm.trans edge')
      exact ih above

theorem Route.reaches {route : List Nat} {type : String}
    (leads : index.Route avoided owner route type) : index.Reaches owner type := by
  induction leads with
  | here _ => exact .refl
  | step _ edge _ ih => exact .head (List.mem_of_getElem? edge) ih

theorem Finds.own (new : owner ∉ avoided) (declared : index.contains (member owner simple) = true) :
    index.Finds simple avoided owner (member owner simple) := by
  refine ⟨[], owner, ⟨.here new, declared, ?_⟩, rfl⟩
  intro before other _ earlier
  exact absurd earlier (List.not_lt_nil before)

theorem Finds.inherited (new : owner ∉ avoided)
    (missing : index.contains (member owner simple) = false)
    (finds : index.FindsAmong simple (owner :: avoided) (index.supertypes owner) found) :
    index.Finds simple avoided owner found := by
  obtain ⟨n, super, edge, ⟨route, type, first, rfl⟩, misses⟩ := finds
  refine ⟨n :: route, type, ⟨.step new edge first.leads, first.declares, ?_⟩, rfl⟩
  intro before other leads earlier
  cases leads with
  | here _ => exact missing
  | @step _ _ super' _ m before _ edge' above =>
    rcases List.cons_lt_cons_iff.1 earlier with less | ⟨rfl, less⟩
    · exact misses m less super' edge' before other above
    · obtain rfl := Option.some.inj (edge.symm.trans edge')
      exact first.first before other above less

theorem FindsAmong.head (finds : index.Finds simple avoided owner found) (rest : List String) :
    index.FindsAmong simple avoided (owner :: rest) found :=
  ⟨0, owner, rfl, finds, fun m less => absurd less m.not_lt_zero⟩

theorem FindsAmong.of_singleton (finds : index.FindsAmong simple avoided [owner] found) :
    index.Finds simple avoided owner found := by
  obtain ⟨n, super, listed, first, -⟩ := finds
  obtain rfl : super = owner := by simpa using List.mem_of_getElem? listed
  exact first

theorem FindsAmong.tail (misses : index.Misses simple avoided owner)
    (finds : index.FindsAmong simple avoided owners found) :
    index.FindsAmong simple avoided (owner :: owners) found := by
  obtain ⟨n, super, listed, first, before⟩ := finds
  refine ⟨n + 1, super, listed, first, ?_⟩
  intro m less other listed'
  cases m with
  | zero =>
    obtain rfl := Option.some.inj listed'
    exact misses
  | succ m => exact before m (by omega) other listed'

/-- The first route is the only one. -/
theorem Finds.unique {found' : String} (finds : index.Finds simple avoided owner found)
    (finds' : index.Finds simple avoided owner found') : found = found' := by
  obtain ⟨route, type, first, rfl⟩ := finds
  obtain ⟨route', type', first', rfl⟩ := finds'
  rcases lt_trichotomy route route' with less | rfl | less
  · have misses := first'.first route type first.leads less
    exact absurd first.declares (by simp [misses])
  · rw [first.leads.target_eq first'.leads]
  · have misses := first.first route' type' first'.leads less
    exact absurd first'.declares (by simp [misses])

end Order

/-! ## The visited types -/

/-- The visited types do not have the member type themselves, and all but those on the path have
their supertypes among them. -/
structure Explored (index : TypeIndex) (simple : String) (path visited : List String) : Prop where
  onPath : path ⊆ visited
  sees : index.SeesAbove path visited
  misses : ∀ type ∈ visited, index.contains (member type simple) = false

namespace Explored

variable {path visited : List String} {owner : String}

theorem nil : index.Explored simple [] [] where
  onPath := List.Subset.refl []
  sees := fun type h => by cases h
  misses := fun type h => by cases h

theorem enter (explored : index.Explored simple path visited)
    (missing : index.contains (member owner simple) = false) :
    index.Explored simple (owner :: path) (owner :: visited) where
  onPath := List.cons_subset_cons owner explored.onPath
  sees := explored.sees.cons
  misses := List.forall_mem_cons.2 ⟨missing, explored.misses⟩

theorem leave (explored : index.Explored simple (owner :: path) visited)
    (above : index.supertypes owner ⊆ visited) : index.Explored simple path visited where
  onPath := (List.cons_subset.1 explored.onPath).2
  sees := by
    intro type h off super edge
    by_cases same : type = owner
    · subst same
      exact above edge
    · exact explored.sees type h (by simp [same, off]) super edge
  misses := explored.misses

theorem mem_of_route {avoided : List String} {route : List Nat} {type : String}
    (explored : index.Explored simple path visited) (h : owner ∈ visited)
    (leads : index.Route avoided owner route type) (avoids : path ⊆ avoided) : type ∈ visited := by
  induction leads with
  | here _ => exact h
  | step new edge _ ih =>
    have seen := explored.sees _ h (fun onPath => new (avoids onPath)) _ (List.mem_of_getElem? edge)
    exact ih seen (List.subset_cons_of_subset _ avoids)

theorem misses_of_mem (explored : index.Explored simple path visited) (h : owner ∈ visited) :
    index.Misses simple path owner := by
  intro route type leads
  exact explored.misses type (explored.mem_of_route h leads (List.Subset.refl path))

theorem misses_of_reaches {type : String} (explored : index.Explored simple [] visited)
    (h : owner ∈ visited) (reaches : index.Reaches owner type) :
    index.contains (member type simple) = false := by
  refine explored.misses type ?_
  induction reaches with
  | refl => exact h
  | tail _ edge ih => exact explored.sees _ ih (by simp) _ edge

end Explored

/-- What a search from some types amounts to: the first member type, or only explored types. -/
def Concludes (index : TypeIndex) (simple : String) (path owners : List String) :
    Option String → List String → Prop
  | some found, _ => index.FindsAmong simple path owners found
  | none, now => owners ⊆ now ∧ index.Explored simple path now

theorem searchFrom_concludes {path visited : List String} (owner : String)
    (explored : index.Explored simple path visited) :
    index.Concludes simple path [owner] (index.searchFrom simple visited owner).found
      (index.searchFrom simple visited owner).now := by
  refine search_induction
    (fun visited owner found now => ∀ path, index.Explored simple path visited →
      index.Concludes simple path [owner] found now)
    (fun visited owners found now => ∀ path, index.Explored simple path visited →
      index.Concludes simple path owners found now)
    ?_ ?_ ?_ ?_ ?_ ?_ visited owner path explored
  · intro visited owner met path explored
    exact ⟨by simpa using met, explored⟩
  · intro visited owner new declared path explored
    exact .head (.own (fun onPath => new (explored.onPath onPath)) declared) []
  · intro visited owner found now new missing through path explored
    have above := through (owner :: path) (explored.enter missing)
    cases found with
    | some found =>
      exact .head (.inherited (fun onPath => new (explored.onPath onPath)) missing above) []
    | none =>
      obtain ⟨supers, explored'⟩ := above
      exact ⟨by simpa using explored'.onPath List.mem_cons_self, explored'.leave supers⟩
  · intro visited path explored
    exact ⟨List.nil_subset _, explored⟩
  · intro visited owner rest found now start path explored
    exact .head (FindsAmong.of_singleton (start path explored)) rest
  · intro visited owner rest now found later start grown through path explored
    obtain ⟨met, explored'⟩ := start path explored
    have later := through path explored'
    cases found with
    | some found => exact .tail (explored'.misses_of_mem (by simpa using met)) later
    | none => exact ⟨by simpa [later.1] using grown (met List.mem_cons_self), later.2⟩

theorem memberType?_concludes (owner : String) :
    ∃ now, index.Concludes simple [] [owner] (index.memberType? owner simple) now :=
  ⟨_, @found_searchFrom index simple owner ▸ searchFrom_concludes owner Explored.nil⟩

theorem finds_of_memberType? {owner found : String}
    (h : index.memberType? owner simple = some found) : index.Finds simple [] owner found := by
  obtain ⟨now, concludes⟩ := @memberType?_concludes index simple owner
  rw [h] at concludes
  exact FindsAmong.of_singleton concludes

theorem not_contains_of_memberType? {owner type : String}
    (h : index.memberType? owner simple = none) (reaches : index.Reaches owner type) :
    index.contains (member type simple) = false := by
  obtain ⟨now, concludes⟩ := @memberType?_concludes index simple owner
  rw [h] at concludes
  exact concludes.2.misses_of_reaches (concludes.1 List.mem_cons_self) reaches

theorem memberType?_eq_some_iff {owner found : String} :
    index.memberType? owner simple = some found ↔ index.Finds simple [] owner found := by
  refine ⟨finds_of_memberType?, fun finds => ?_⟩
  cases h : index.memberType? owner simple with
  | none =>
    obtain ⟨route, type, first, -⟩ := finds
    have misses := not_contains_of_memberType? h first.leads.reaches
    exact absurd first.declares (by simp [misses])
  | some other => rw [(finds_of_memberType? h).unique finds]

theorem isSome_memberType?_iff {owner : String} :
    (index.memberType? owner simple).isSome = true ↔
      ∃ type, index.Reaches owner type ∧ index.contains (member type simple) = true := by
  constructor
  · intro h
    obtain ⟨found, h⟩ := Option.isSome_iff_exists.1 h
    obtain ⟨route, type, first, -⟩ := finds_of_memberType? h
    exact ⟨type, first.leads.reaches, first.declares⟩
  · rintro ⟨type, reaches, declares⟩
    by_contra h
    rw [Bool.not_eq_true, Option.isSome_eq_false_iff, Option.isNone_iff_eq_none] at h
    have misses := not_contains_of_memberType? h reaches
    exact absurd declares (by simp [misses])

/-! ## The search without visited types -/

/-- The search through some types that keeps no visited types, as far as it comes to an end. -/
inductive SearchesTo (index : TypeIndex) (simple : String) : List String → Option String → Prop
  | done : SearchesTo index simple [] none
  | own {owner : String} {rest : List String}
      (declared : index.contains (member owner simple) = true) :
      SearchesTo index simple (owner :: rest) (some (member owner simple))
  | inherited {owner found : String} {rest : List String}
      (missing : index.contains (member owner simple) = false)
      (above : SearchesTo index simple (index.supertypes owner) (some found)) :
      SearchesTo index simple (owner :: rest) (some found)
  | next {owner : String} {rest : List String} {result : Option String}
      (missing : index.contains (member owner simple) = false)
      (above : SearchesTo index simple (index.supertypes owner) none)
      (later : SearchesTo index simple rest result) :
      SearchesTo index simple (owner :: rest) result

namespace SearchesTo

variable {owner : String} {owners rest : List String} {result result' : Option String}

theorem unique (search : index.SearchesTo simple owners result)
    (search' : index.SearchesTo simple owners result') : result = result' := by
  induction search generalizing result' with
  | done => cases search'; rfl
  | own declared =>
    cases search' with
    | own _ => rfl
    | inherited missing _ => simp [declared] at missing
    | next missing _ _ => simp [declared] at missing
  | inherited missing above ih =>
    cases search' with
    | own declared => simp [declared] at missing
    | inherited _ above' => exact ih above'
    | next _ above' _ => cases ih above'
  | next missing above later ih ihLater =>
    cases search' with
    | own declared => simp [declared] at missing
    | inherited _ above' => cases ih above'
    | next _ _ later' => exact ihLater later'

theorem cons_some {found : String} (search : index.SearchesTo simple [owner] (some found)) :
    index.SearchesTo simple (owner :: rest) (some found) := by
  cases search with
  | own declared => exact .own declared
  | inherited missing above => exact .inherited missing above
  | next _ _ later => cases later

theorem cons_none (search : index.SearchesTo simple [owner] none)
    (later : index.SearchesTo simple rest result) :
    index.SearchesTo simple (owner :: rest) result := by
  cases search with
  | next missing above _ => exact .next missing above later

end SearchesTo

/-- Where no type above a type is its own ancestor, what holds of a type whenever it holds of its
supertypes holds of all of them. -/
theorem induction_above {motive : String → Prop} {owner : String}
    (acyclic : ∀ type, index.Reaches owner type → ¬ Relation.TransGen index.Edge type type)
    (step : ∀ type, index.Reaches owner type → (∀ super, index.Edge type super → motive super) →
      motive type) : motive owner := by
  -- the types that were passed on the way all lead to the type, so that it is none of them
  suffices climb : ∀ n path type, (index.unvisited path).length = n → index.Reaches owner type →
      (∀ passed ∈ path, Relation.TransGen index.Edge passed type) → motive type from
    climb _ [] owner rfl .refl (by simp)
  intro n
  induction n using Nat.strongRecOn with
  | ind n ih =>
    rintro path type rfl reaches leads
    refine step type reaches fun super edge => ?_
    have new : type ∉ path := fun h => acyclic type reaches (leads type h)
    have known : type ∈ index.names := by
      by_contra unknown
      simp [Edge, supertypes_eq_nil unknown] at edge
    refine ih _ (length_unvisited_cons_lt known new) (type :: path) super rfl
      (reaches.tail edge) ?_
    intro passed h
    rcases List.mem_cons.1 h with rfl | h
    · exact .single edge
    · exact (leads passed h).tail edge

/-- Types to be avoided that are out of reach do not matter. -/
theorem Route.of_avoided {avoided avoided' : List String} {owner type : String} {route : List Nat}
    (leads : index.Route avoided owner route type)
    (free : ∀ other, index.Reaches owner other → other ∈ avoided' → other ∈ avoided) :
    index.Route avoided' owner route type := by
  induction leads generalizing avoided' with
  | here new => exact .here fun h => new (free _ .refl h)
  | step new edge above ih =>
    refine .step (fun h => new (free _ .refl h)) edge (ih fun other reaches h => ?_)
    rcases List.mem_cons.1 h with rfl | h
    · exact List.mem_cons_self
    · exact List.mem_cons_of_mem _ (free other (.head (List.mem_of_getElem? edge) reaches) h)

theorem Finds.avoiding {owner type found : String} (finds : index.Finds simple [] owner found)
    (free : ¬ index.Reaches owner type) : index.Finds simple [type] owner found := by
  obtain ⟨route, target, first, rfl⟩ := finds
  refine ⟨route, target, ⟨first.leads.of_avoided ?_, first.declares, ?_⟩, rfl⟩
  · intro other reaches h
    obtain rfl := List.mem_singleton.1 h
    exact absurd reaches free
  · intro before other leads earlier
    exact first.first before other (leads.of_avoided (by simp)) earlier

theorem findsAmong_of_findSome? {owners : List String} {type found : String}
    (free : ∀ owner ∈ owners, ¬ index.Reaches owner type)
    (h : owners.findSome? (index.memberType? · simple) = some found) :
    index.FindsAmong simple [type] owners found := by
  induction owners with
  | nil => cases h
  | cons owner rest ih =>
    rw [List.forall_mem_cons] at free
    rw [List.findSome?_cons] at h
    split at h
    · rename_i first
      rw [h] at first
      exact .head ((finds_of_memberType? first).avoiding free.1) rest
    · rename_i first
      refine .tail (fun route other leads => ?_) (ih free.2 h)
      exact not_contains_of_memberType? first leads.reaches

/-- For a type that is not its own ancestor, its supertypes can be searched one by one, each as if
nothing was visited before. -/
theorem memberType?_eq_findSome? {type : String}
    (acyclic : ¬ Relation.TransGen index.Edge type type)
    (missing : index.contains (member type simple) = false) :
    index.memberType? type simple =
      (index.supertypes type).findSome? (index.memberType? · simple) := by
  cases h : (index.supertypes type).findSome? (index.memberType? · simple) with
  | some found =>
    have free : ∀ super ∈ index.supertypes type, ¬ index.Reaches super type :=
      fun super edge reaches => acyclic (.head' edge reaches)
    exact memberType?_eq_some_iff.2
      (.inherited (by simp) missing (findsAmong_of_findSome? free h))
  | none =>
    rw [List.findSome?_eq_none_iff] at h
    rw [← Option.not_isSome_iff_eq_none, isSome_memberType?_iff]
    rintro ⟨other, reaches, declares⟩
    rcases Relation.ReflTransGen.cases_head reaches with rfl | ⟨super, edge, above⟩
    · simp [missing] at declares
    · simp [not_contains_of_memberType? (h super edge) above] at declares

theorem searchesTo_findSome? {owners : List String}
    (each : ∀ owner ∈ owners, index.SearchesTo simple [owner] (index.memberType? owner simple)) :
    index.SearchesTo simple owners (owners.findSome? (index.memberType? · simple)) := by
  induction owners with
  | nil => exact .done
  | cons owner rest ih =>
    rw [List.forall_mem_cons] at each
    have later := ih each.2
    have first := each.1
    rw [List.findSome?_cons]
    cases h : index.memberType? owner simple with
    | some found => exact .cons_some (h ▸ first)
    | none => exact .cons_none (h ▸ first) later

theorem searchesTo_memberType? {owner : String}
    (acyclic : ∀ type, index.Reaches owner type → ¬ Relation.TransGen index.Edge type type) :
    index.SearchesTo simple [owner] (index.memberType? owner simple) := by
  refine induction_above
    (motive := fun type => index.SearchesTo simple [type] (index.memberType? type simple))
    acyclic fun type reaches above => ?_
  cases declared : index.contains (member type simple) with
  | true =>
    rw [memberType?_eq_some_iff.2 (.own (by simp) declared)]
    exact .own declared
  | false =>
    have through := searchesTo_findSome? above
    rw [← memberType?_eq_findSome? (acyclic type reaches) declared] at through
    cases h : index.memberType? type simple with
    | some found => exact .inherited declared (h ▸ through)
    | none => exact .next declared (h ▸ through) .done

/-- Leaving visited types out misses nothing.  The search that shares them between all branches is
the look-up of a member type; it finds one exactly if some type that is reached has one, and then
the one at the end of the first route.  Above a type without cycles, the search that keeps no
visited types comes to an end and gives the same. -/
theorem memberType?_finds_first (index : TypeIndex) (owner simple : String) :
    (index.searchFrom simple [] owner).found = index.memberType? owner simple ∧
    ((index.memberType? owner simple).isSome = true ↔
      ∃ type, index.Reaches owner type ∧ index.contains (member type simple) = true) ∧
    (∀ found, index.memberType? owner simple = some found ↔
      ∃ route type, index.FirstRoute simple [] owner route type ∧ found = member type simple) ∧
    ((∀ type, index.Reaches owner type → ¬ Relation.TransGen index.Edge type type) →
      ∀ result, index.SearchesTo simple [owner] result ↔
        index.memberType? owner simple = result) := by
  refine ⟨found_searchFrom owner, isSome_memberType?_iff, fun found => memberType?_eq_some_iff, ?_⟩
  intro acyclic result
  have ends := @searchesTo_memberType? index simple owner acyclic
  refine ⟨fun search => ends.unique search, ?_⟩
  rintro rfl
  exact ends

/-- Two classes that inherit from each other, from a type that is not known and from two types with
a member of the same name. -/
def entangled : TypeIndex where
  types :=
    ⟨[ ("Left", ⟨.plain, [.ok "Right", .error (.unknownType "Lost"), .ok "Gone", .ok "Side"]⟩),
       ("Right", ⟨.plain, [.ok "Left", .ok "Base"]⟩),
       ("Base", ⟨.plain, []⟩),
       ("Base.Part", ⟨.plain, []⟩),
       ("Side", ⟨.plain, [.ok "Base"]⟩),
       ("Side.Part", ⟨.plain, []⟩) ]⟩

/-- The member of `Base` comes first, since the way to it through `Right` begins before the one to
`Side`.  There is no cycle above `Side`. -/
theorem entangled_finds :
    (entangled.searchFrom "Part" [] "Left").found = some "Base.Part" ∧
    (∃ route type, entangled.FirstRoute "Part" [] "Left" route type ∧
      "Base.Part" = member type "Part") ∧
    entangled.SearchesTo "Part" ["Side"] (some "Side.Part") := by
  have looked : entangled.memberType? "Left" "Part" = some "Base.Part" := by
    cbv
  have listed : entangled.ancestors "Side" = .ok ["Base"] := by
    cbv
  obtain ⟨searched, -, first, -⟩ := memberType?_finds_first entangled "Left" "Part"
  obtain ⟨-, -, -, forgets⟩ := memberType?_finds_first entangled "Side" "Part"
  refine ⟨searched.trans looked, (first _).1 looked, (forgets ?_ _).2 (by cbv)⟩
  intro type reaches cyclic
  exact not_isDefective_of_reaches listed reaches (.inr (.inr cyclic))

end ClassCatalog.TypeIndex
