import ClassCatalog.Proofs.TypeIndex.Closure
import Mathlib.Data.List.Infix

/-!
# Full names

Every type of a built index is found under its full name (`resolve_fullName`).  The invariant is
that a nested type stands in the index below the type around it (`IsCanonical`): by the fewest
segments that make up a known name a look-up finds the outermost of these types, and from there each
further segment is a member of its own, which comes before all inherited ones.
-/

namespace ClassCatalog

namespace Text

/-- The segments of a dotted name. -/
def segments (name : String) : List String :=
  (name.toList.splitOn '.').map String.ofList

theorem segments_member (outer simple : String) :
    segments (member outer simple) = segments outer ++ segments simple := by
  have text : (member outer simple).toList = outer.toList ++ '.' :: simple.toList := by
    simp [member]
  rw [segments, text, List.splitOn_append_cons_self, List.map_append]
  rfl

theorem segments_of_plain {simple : String} (plain : '.' ∉ simple.toList) :
    segments simple = [simple] := by
  simp [segments, List.splitOn_eq_singleton plain]

theorem segments_ne_nil (name : String) : segments name ≠ [] := by
  simp [segments, List.splitOn_ne_nil]

theorem intercalate_segments (name : String) : ".".intercalate (segments name) = name := by
  rw [← String.toList_inj, String.toList_intercalate, segments, List.map_map]
  simp [Function.comp_def]

end Text

open Text

namespace TypeIndex

variable {index : TypeIndex}

/-! ## Members named directly -/

theorem memberType?_of_contains {owner simple : String}
    (known : index.contains (member owner simple) = true) :
    index.memberType? owner simple = some (member owner simple) := by
  rw [memberType?, depthFirst]
  simp [known]

theorem memberPath?_concat {base outer simple : String} {segments : List String}
    (leads : index.memberPath? base segments = some outer)
    (known : index.contains (member outer simple) = true) :
    index.memberPath? base (segments ++ [simple]) = some (member outer simple) := by
  induction segments generalizing base with
  | nil =>
    obtain rfl := Option.some.inj leads
    simp [memberPath?, memberType?_of_contains known]
  | cons segment rest ih =>
    obtain ⟨inner, first, more⟩ := Option.bind_eq_some_iff.1 leads
    rw [List.cons_append, memberPath?, first, Option.bind_some, ih more]

/-- One more segment leads to the member of this name. -/
theorem lookupQualified_concat {full : TypeName} {taken segments : List String}
    {outer simple : String} (found : index.lookupQualified full taken segments = .ok outer)
    (known : index.contains (member outer simple) = true) :
    index.lookupQualified full taken (segments ++ [simple]) = .ok (member outer simple) := by
  induction segments generalizing taken with
  | nil => cases found
  | cons segment rest ih =>
    rw [lookupQualified] at found
    rw [List.cons_append, lookupQualified]
    split at found
    · rename_i declared
      rw [below, if_pos declared] at found
      rw [if_pos declared, below, if_pos declared]
      split at found
      · rename_i type leads
        obtain rfl := Except.ok.inj found
        rw [memberPath?_concat leads known]
      · cases found
    · rename_i unknown
      rw [if_neg unknown, ih found]

/-- Segments that make up no known name are passed over. -/
theorem lookupQualified_append {full : TypeName} {taken segments : List String}
    (unknown : ∀ front, front <+: segments → front ≠ [] →
      index.contains (".".intercalate (taken ++ front)) = false) (more : List String) :
    index.lookupQualified full taken (segments ++ more) =
      index.lookupQualified full (taken ++ segments) more := by
  induction segments generalizing taken with
  | nil => rw [List.nil_append, List.append_nil]
  | cons segment rest ih =>
    have first := unknown [segment] (by simp) (by simp)
    rw [List.cons_append, lookupQualified, first, ih]
    · simp
    · intro front leading nonempty
      have := unknown (segment :: front) (List.cons_prefix_cons.2 ⟨rfl, leading⟩) (by simp)
      rwa [← List.singleton_append, ← List.append_assoc] at this

/-! ## Canonical names -/

/-- No type has the name of the package or of a package around it. -/
def HasNoTypeAt (index : TypeIndex) (package : String) : Prop :=
  ∀ front, front <+: segments package → front ≠ [] →
    index.contains (".".intercalate front) = false

/-- The name is that of a known type in a package, or of a known member of such a type, of a member
of a member and so on. -/
inductive IsCanonical (index : TypeIndex) : String → Prop
  | top {package? : Option String} {simple : String}
      (free : ∀ package ∈ package?, index.HasNoTypeAt package) (plain : '.' ∉ simple.toList)
      (known : index.contains (qualify package? simple) = true) :
      IsCanonical index (qualify package? simple)
  | inner {outer simple : String} (outside : IsCanonical index outer) (plain : '.' ∉ simple.toList)
      (known : index.contains (member outer simple) = true) :
      IsCanonical index (member outer simple)

/-- The last segment makes a known name of the segments in front of it. -/
theorem lookupQualified_of_contains {full : TypeName} {taken : List String} {segment : String}
    (known : index.contains (".".intercalate (taken ++ [segment])) = true) :
    index.lookupQualified full taken [segment] = .ok (".".intercalate (taken ++ [segment])) := by
  rw [lookupQualified, if_pos known, below, if_pos known]
  rfl

theorem IsCanonical.lookupQualified_eq {name : String} (canonical : index.IsCanonical name)
    (full : TypeName) : index.lookupQualified full [] (segments name) = .ok name := by
  induction canonical with
  | @top package? simple free plain known =>
    cases package? with
    | none =>
      replace known : index.contains simple = true := known
      have found := @lookupQualified_of_contains index full [] simple (by simpa using known)
      rw [qualify, segments_of_plain plain, found, List.nil_append, String.intercalate_singleton]
    | some package =>
      have whole : ".".intercalate (segments package ++ [simple]) = member package simple := by
        rw [← segments_of_plain plain, ← segments_member, intercalate_segments]
      replace known : index.contains (member package simple) = true := known
      rw [qualify, segments_member, segments_of_plain plain, lookupQualified_append,
        List.nil_append, lookupQualified_of_contains (whole ▸ known), whole]
      exact free package rfl
  | @inner outer simple outside plain known ih =>
    rw [segments_member, segments_of_plain plain]
    exact lookupQualified_concat ih known

end TypeIndex

/-! ## Declared types -/

mutual

/-- The simple names of the types declared in a declaration, at any depth. -/
def Decl.simpleNames : Decl → List String
  | .type head members => head.name :: Decl.simpleNamesAll members
  | .method _ members => Decl.simpleNamesAll members
  | _ => []

/-- The simple names of the types declared in some declarations, at any depth. -/
def Decl.simpleNamesAll : List Decl → List String
  | [] => []
  | decl :: rest => decl.simpleNames ++ Decl.simpleNamesAll rest

end

namespace TypeIndex

variable {index : TypeIndex}

/-- What the full names of types declared at a place start with is canonical. -/
structure Places (index : TypeIndex) (scope : Scope) : Prop where
  around : ∀ outer ∈ scope.enclosing.getLast?, index.IsCanonical outer
  package : ∀ package ∈ scope.package, index.HasNoTypeAt package

theorem Places.isCanonical {scope : Scope} (places : index.Places scope) {simple : String}
    (plain : '.' ∉ simple.toList)
    (known : index.contains (DeclaredType.fullName scope simple) = true) :
    index.IsCanonical (DeclaredType.fullName scope simple) := by
  unfold DeclaredType.fullName at *
  split at *
  · rename_i outer innermost
    exact .inner (places.around outer innermost) plain known
  · exact .top places.package plain known

theorem Places.inside {scope : Scope} (places : index.Places scope) (head : ClassHead)
    (canonical : index.IsCanonical (DeclaredType.fullName scope head.name)) :
    index.Places (DeclaredType.innerScope scope head) := by
  refine ⟨fun outer innermost => ?_, places.package⟩
  rw [DeclaredType.innerScope, List.getLast?_concat] at innermost
  rwa [← Option.some.inj innermost]

mutual

theorem isCanonical_ofDecl : ∀ (decl : Decl) {scope : Scope}, index.Places scope →
    (∀ name ∈ decl.simpleNames, '.' ∉ name.toList) →
    (∀ type ∈ DeclaredType.ofDecl scope decl, index.contains type.name = true) →
    ∀ type ∈ DeclaredType.ofDecl scope decl, index.IsCanonical type.name
  | .type head members, scope, places, plain, known, type, h => by
    rw [Decl.simpleNames, List.forall_mem_cons] at plain
    rw [DeclaredType.ofDecl] at known h
    rw [List.forall_mem_append, List.forall_mem_singleton] at known
    have own := places.isCanonical plain.1 known.2
    rcases List.mem_append.1 h with inner | self
    · exact isCanonical_ofMembers members (places.inside head own) plain.2 known.1 type inner
    · rwa [List.mem_singleton.1 self]

theorem isCanonical_ofMembers : ∀ (decls : List Decl) {scope : Scope}, index.Places scope →
    (∀ name ∈ Decl.simpleNamesAll decls, '.' ∉ name.toList) →
    (∀ type ∈ DeclaredType.ofMembers scope decls, index.contains type.name = true) →
    ∀ type ∈ DeclaredType.ofMembers scope decls, index.IsCanonical type.name
  | .type head members :: rest, scope, places, plain, known, type, h => by
    rw [Decl.simpleNamesAll, List.forall_mem_append] at plain
    rw [DeclaredType.ofMembers] at known h
    rw [List.forall_mem_append] at known
    rcases List.mem_append.1 h with first | more
    · exact isCanonical_ofDecl (.type head members) places plain.1 known.1 type first
    · exact isCanonical_ofMembers rest places plain.2 known.2 type more
  | .method head members :: rest, scope, places, plain, known, type, h => by
    rw [Decl.simpleNamesAll, List.forall_mem_append, Decl.simpleNames] at plain
    rw [DeclaredType.ofMembers] at known h
    rw [List.forall_mem_append] at known
    rcases List.mem_append.1 h with inner | more
    · have inside : index.Places
          { scope with typeVariables := scope.typeVariables ++ head.typeParameters } :=
        ⟨places.around, places.package⟩
      exact isCanonical_ofLocals members inside plain.1 known.1 type inner
    · exact isCanonical_ofMembers rest places plain.2 known.2 type more
  | .package _ :: rest, _, places, plain, known, type, h =>
    isCanonical_ofMembers rest places plain known type h
  | .imported _ :: rest, _, places, plain, known, type, h =>
    isCanonical_ofMembers rest places plain known type h
  | .parameter _ :: rest, _, places, plain, known, type, h =>
    isCanonical_ofMembers rest places plain known type h
  | .supertype _ :: rest, _, places, plain, known, type, h =>
    isCanonical_ofMembers rest places plain known type h

theorem isCanonical_ofLocals : ∀ (decls : List Decl) {scope : Scope}, index.Places scope →
    (∀ name ∈ Decl.simpleNamesAll decls, '.' ∉ name.toList) →
    (∀ type ∈ DeclaredType.ofLocals scope decls, index.contains type.name = true) →
    ∀ type ∈ DeclaredType.ofLocals scope decls, index.IsCanonical type.name
  | .type head members :: rest, scope, places, plain, known, type, h => by
    rw [Decl.simpleNamesAll, List.forall_mem_append] at plain
    rw [DeclaredType.ofLocals] at known h
    rw [List.forall_mem_append] at known
    rcases List.mem_append.1 h with first | more
    · exact isCanonical_ofDecl (.type head members) places plain.1 known.1 type first
    · exact isCanonical_ofLocals rest places plain.2 known.2 type more
  | .method _ members :: rest, _, places, plain, known, type, h => by
    rw [Decl.simpleNamesAll, List.forall_mem_append] at plain
    exact isCanonical_ofLocals rest places plain.2 known type h
  | .package _ :: rest, _, places, plain, known, type, h =>
    isCanonical_ofLocals rest places plain known type h
  | .imported _ :: rest, _, places, plain, known, type, h =>
    isCanonical_ofLocals rest places plain known type h
  | .parameter _ :: rest, _, places, plain, known, type, h =>
    isCanonical_ofLocals rest places plain known type h
  | .supertype _ :: rest, _, places, plain, known, type, h =>
    isCanonical_ofLocals rest places plain known type h

end

theorem simpleNames_subset {decl : Decl} {decls : List Decl} (h : decl ∈ decls) :
    decl.simpleNames ⊆ Decl.simpleNamesAll decls := by
  induction decls with
  | nil => cases h
  | cons first rest ih =>
    rw [Decl.simpleNamesAll]
    rcases List.mem_cons.1 h with rfl | later
    · exact List.subset_append_left _ _
    · exact List.Subset.trans (ih later) (List.subset_append_right _ _)

theorem isCanonical_ofUnit {unit : SourceUnit}
    (package : ∀ package ∈ unit.package?, index.HasNoTypeAt package)
    (plain : ∀ name ∈ Decl.simpleNamesAll unit.decls, '.' ∉ name.toList)
    (known : ∀ type ∈ DeclaredType.ofUnit unit, index.contains type.name = true) :
    ∀ type ∈ DeclaredType.ofUnit unit, index.IsCanonical type.name := by
  intro type h
  obtain ⟨decl, declared, own⟩ := List.mem_flatMap.1 h
  refine isCanonical_ofDecl decl ⟨by simp [DeclaredType.unitScope], package⟩ ?_ ?_ type own
  · exact fun name inside => plain name (simpleNames_subset declared inside)
  · exact fun other inside => known other (List.mem_flatMap.2 ⟨decl, declared, inside⟩)

end TypeIndex

/-! ## Types of the standard library -/

namespace StandardType

/-- The packages of the known types of the standard library. -/
def packages : List String := ["java.lang", "java.io", "java.util", "java.util.function"]

/-- A name is a simple name behind another name and a dot. -/
def IsMember (outer name : String) : Prop :=
  ∃ simple : String, '.' ∉ simple.toList ∧ name = member outer simple

/-- Literals are compared by their characters. -/
theorem isMember_ofList {outer name : String} {front chars : List Char}
    (outer_eq : outer = String.ofList front) (name_eq : name = String.ofList chars)
    (below : ((front ++ ['.']).isPrefixOf chars &&
      !(chars.drop (front.length + 1)).contains '.') = true) : IsMember outer name := by
  rw [Bool.and_eq_true, List.isPrefixOf_iff_prefix, Bool.not_eq_true'] at below
  obtain ⟨⟨simple, rfl⟩, plain⟩ := below
  refine ⟨String.ofList simple, by simpa using plain, ?_⟩
  rw [name_eq, outer_eq, ← String.toList_inj]
  simp [member]

theorem isMember_langTypes : ∀ type ∈ langTypes, IsMember "java.lang" type.name := by
  simp only [langTypes, List.forall_mem_cons, rootClass, subclass, interface, annotationType]
  repeat' apply And.intro
  any_goals exact isMember_ofList rfl rfl rfl
  simp

theorem isMember_streamTypes : ∀ type ∈ streamTypes, IsMember "java.io" type.name := by
  simp only [streamTypes, List.forall_mem_cons, interface]
  repeat' apply And.intro
  any_goals exact isMember_ofList rfl rfl rfl
  simp

theorem isMember_utilTypes : ∀ type ∈ utilTypes,
    IsMember "java.util" type.name ∨ IsMember "java.util.Map" type.name := by
  simp only [utilTypes, List.forall_mem_cons, rootClass, subclass, interface]
  repeat' apply And.intro
  any_goals exact .inl (isMember_ofList rfl rfl rfl)
  any_goals exact .inr (isMember_ofList rfl rfl rfl)
  simp

theorem isMember_functionTypes :
    ∀ type ∈ functionTypes, IsMember "java.util.function" type.name := by
  simp only [functionTypes, List.forall_mem_cons, interface]
  repeat' apply And.intro
  any_goals exact isMember_ofList rfl rfl rfl
  simp

/-- A type of the table stands in one of the packages; the only nested one is a member of a map. -/
theorem isMember_all : ∀ type ∈ all,
    (∃ package ∈ packages, IsMember package type.name) ∨ IsMember "java.util.Map" type.name := by
  rw [all]
  simp only [List.forall_mem_append]
  refine ⟨⟨⟨?_, ?_⟩, ?_⟩, ?_⟩
  · exact fun type h => .inl ⟨_, by simp [packages], isMember_langTypes type h⟩
  · exact fun type h => .inl ⟨_, by simp [packages], isMember_streamTypes type h⟩
  · exact fun type h => (isMember_utilTypes type h).imp_left fun own => ⟨_, by simp [packages], own⟩
  · exact fun type h => .inl ⟨_, by simp [packages], isMember_functionTypes type h⟩

end StandardType

namespace TypeIndex

variable {index : TypeIndex}

theorem isCanonical_of_isMember {package name : String} (free : index.HasNoTypeAt package)
    (own : StandardType.IsMember package name) (known : index.contains name = true) :
    index.IsCanonical name := by
  obtain ⟨simple, plain, rfl⟩ := own
  refine @IsCanonical.top index (some package) simple ?_ plain known
  rintro _ ⟨⟩
  exact free

theorem isCanonical_standard
    (free : ∀ package ∈ StandardType.packages, index.HasNoTypeAt package)
    (known : ∀ name ∈ StandardType.all.map (·.name), index.contains name = true) :
    ∀ name ∈ StandardType.all.map (·.name), index.IsCanonical name := by
  intro name h
  obtain ⟨type, listed, rfl⟩ := List.mem_map.1 h
  rcases StandardType.isMember_all type listed with ⟨package, standard, own⟩ | nested
  · exact isCanonical_of_isMember (free package standard) own (known _ h)
  · obtain ⟨simple, plain, same⟩ := nested
    have map : index.contains "java.util.Map" = true := known _ (by decide +kernel)
    have outside : index.IsCanonical "java.util.Map" :=
      isCanonical_of_isMember (free "java.util" (by simp [StandardType.packages]))
        (StandardType.isMember_ofList rfl rfl rfl) map
    have entry := known _ h
    rw [same] at entry ⊢
    exact .inner outside plain entry

/-! ## Built indices -/

/-- Every type of a built index is what its full name stands for, in every scope where the first
segment has no meaning of its own. -/
theorem resolve_fullName {units : List SourceUnit}
    (plain : ∀ unit ∈ units, ∀ simple ∈ Decl.simpleNamesAll unit.decls, '.' ∉ simple.toList)
    (packages : ∀ unit ∈ units, ∀ package ∈ unit.package?, (build units []).HasNoTypeAt package)
    (standard : ∀ package ∈ StandardType.packages, (build units []).HasNoTypeAt package)
    {name : String} (known : (build units []).contains name = true) {scope : Scope}
    (free : ∀ first ∈ (segments name).head?,
      first ∉ scope.typeVariables ∧ (build units []).lookupSimple? first scope = none) :
    (build units []).resolve (.named ⟨segments name⟩) scope = .ok (.reference name) := by
  have canonical : (build units []).IsCanonical name := by
    rcases contains_build_iff.1 known with declared | none_known | listed
    · obtain ⟨type, h, rfl⟩ := List.mem_map.1 declared
      obtain ⟨unit, member, own⟩ := List.mem_flatMap.1 h
      refine isCanonical_ofUnit (packages unit member) (plain unit member) ?_ type own
      exact fun other inside => contains_build_iff.2
        (.inl (List.mem_map_of_mem (List.mem_flatMap.2 ⟨unit, member, inside⟩)))
    · cases none_known
    · exact isCanonical_standard standard (fun name h => contains_build_iff.2 (.inr (.inr h)))
        name listed
  obtain ⟨first, rest, parts⟩ := List.exists_cons_of_ne_nil (segments_ne_nil name)
  obtain ⟨unbound, unseen⟩ := free first (by rw [parts]; rfl)
  have found := canonical.lookupQualified_eq ⟨segments name⟩
  rw [parts] at found ⊢
  simp [resolve, lookup, unbound, unseen, found]

/-! ## Nested types

A member of its own comes before an inherited one of the same name, and a type declared in a method
body has members as well. -/

def shopUnit : SourceUnit where
  path := "Shop.java"
  decls :=
    [ .package "app",
      .type { name := "Base" } [.type { name := "Part" } []],
      .type { name := "Shop" }
        [ .supertype ⟨.extends, ⟨["Base"]⟩⟩,
          .type { name := "Part" } [],
          .method { name := "open" } [.type { name := "Local" } [.type { name := "Part" } []]] ] ]

def shopNames : List String :=
  ["app.Base.Part", "app.Base", "app.Shop.Part", "app.Shop.Local.Part", "app.Shop.Local",
    "app.Shop"]

theorem contains_shopUnit {name : String} {known : Bool}
    (h : decide (name ∈ shopNames ++ StandardType.all.map (·.name)) = known) :
    (build [shopUnit] []).contains name = known := by
  have names : (DeclaredType.ofUnits [shopUnit]).map DeclaredType.name = shopNames := by cbv
  rw [← h, Bool.eq_iff_iff, contains_build_iff, names]
  simp

theorem hasNoTypeAt_shopUnit :
    ∀ package ∈ "app" :: StandardType.packages, (build [shopUnit] []).HasNoTypeAt package := by
  intro package h front leading nonempty
  have outer : ∀ package ∈ "app" :: StandardType.packages, ∀ front ∈ (segments package).inits,
      front ≠ [] → ".".intercalate front ∈ "app" :: "java" :: StandardType.packages := by
    decide +kernel
  have unknown : ∀ name ∈ "app" :: "java" :: StandardType.packages,
      decide (name ∈ shopNames ++ StandardType.all.map (·.name)) = false :=
    of_decide_eq_true (by cbv)
  exact contains_shopUnit
    (unknown _ (outer package h front ((List.mem_inits _ _).2 leading) nonempty))

theorem lookupSimple?_shopUnit {first : String} (h : first ∈ ["app", "java"]) :
    (build [shopUnit] []).lookupSimple? first { package := some "app" } = none := by
  have unknown : ∀ first ∈ ["app", "java"],
      decide (member "app" first ∈ shopNames ++ StandardType.all.map (·.name)) = false ∧
      decide (member "java.lang" first ∈ shopNames ++ StandardType.all.map (·.name)) = false :=
    of_decide_eq_true (by cbv)
  have imports : ({} : ImportTable).single? first = none := rfl
  simp [lookupSimple?, firstKnown?, qualify, imports, contains_shopUnit (unknown first h).1,
    contains_shopUnit (unknown first h).2]

theorem resolve_shopUnit :
    (build [shopUnit] []).resolve (.named ⟨segments "app.Shop.Part"⟩) { package := some "app" } =
      .ok (.reference "app.Shop.Part") ∧
    (build [shopUnit] []).resolve (.named ⟨segments "app.Shop.Local.Part"⟩)
      { package := some "app" } = .ok (.reference "app.Shop.Local.Part") ∧
    (build [shopUnit] []).resolve (.named ⟨segments "java.util.Map.Entry"⟩)
      { package := some "app" } = .ok (.reference "java.util.Map.Entry") := by
  have found : ∀ name ∈ ["app.Shop.Part", "app.Shop.Local.Part", "java.util.Map.Entry"],
      (build [shopUnit] []).resolve (.named ⟨segments name⟩) { package := some "app" } =
        .ok (.reference name) := by
    intro name h
    have declared : ∀ name ∈ ["app.Shop.Part", "app.Shop.Local.Part", "java.util.Map.Entry"],
        decide (name ∈ shopNames ++ StandardType.all.map (·.name)) = true :=
      of_decide_eq_true (by cbv)
    have firsts : ∀ name ∈ ["app.Shop.Part", "app.Shop.Local.Part", "java.util.Map.Entry"],
        ∀ first ∈ (segments name).head?, first ∈ ["app", "java"] := by
      decide +kernel
    refine resolve_fullName ?_ ?_ ?_ (contains_shopUnit (declared name h)) fun first leads =>
      ⟨by simp, lookupSimple?_shopUnit (firsts name h first leads)⟩
    · simp only [List.mem_singleton, forall_eq]
      decide +kernel
    · simp only [List.mem_singleton, forall_eq]
      rintro _ ⟨⟩
      exact hasNoTypeAt_shopUnit "app" (by simp)
    · exact fun package listed => hasNoTypeAt_shopUnit package (List.mem_cons_of_mem _ listed)
  exact ⟨found _ (by simp), found _ (by simp), found _ (by simp)⟩

end TypeIndex

end ClassCatalog
