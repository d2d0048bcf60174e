import ClassCatalog.Proofs.TypeIndex.AncestorFailures

/-!
# Implicit superclasses

Every supertype in a built index is one that a declaration, a configured type or the standard
library names, or the superclass that a type has by its kind (`edge_build_cases`).  The types that
are superclasses by kind lead only to standard interfaces that extend nothing and to the root type.
So a cycle in the index that is not one of named supertypes consists of the root type alone
(`eq_root_of_cycle`).  A configured root type has no superclass, but a root type that is declared in
a unit is entered like any other class, with itself as its superclass, and then its ancestors cannot
be listed.
-/

namespace ClassCatalog

/-- The last of some configured types with a name. -/
def KnownType.last? (known : List KnownType) (name : String) : Option KnownType :=
  known.reverse.find? (·.name = name)

namespace TypeIndex

open DeclaredType

variable {units : List SourceUnit} {known : List KnownType}

/-! ## Supertypes that are named -/

/-- The second type is stored for the first because it is named there: by a clause of the
declaration that is stored, by a configured type, or by the standard library. -/
inductive NamesSupertype (units : List SourceUnit) (known : List KnownType) :
    String → String → Prop
  | declared {name super : String} {pass : Pass} {writer : DeclaredType} {s : Supertype}
      (written : writer? (buildPasses units known) name = some (pass, writer))
      (clause : s ∈ writer.supertypes)
      (found : pass.before.lookupReference s.name writer.scope = .ok super) :
      NamesSupertype units known name super
  | configured {super : String} {type : KnownType}
      (undeclared : type.name ∉ (ofUnits units).map DeclaredType.name)
      (last : KnownType.last? known type.name = some type)
      (named : super ∈ type.superclass.toList ++ type.interfaces) :
      NamesSupertype units known type.name super
  | standard {super : String} {type : StandardType}
      (undeclared : type.name ∉ (ofUnits units).map DeclaredType.name)
      (unconfigured : type.name ∉ known.map KnownType.name)
      (listed : type ∈ StandardType.all)
      (named : super ∈ type.superclass.toList ++ type.interfaces) :
      NamesSupertype units known type.name super

/-- The supertypes under which a type is entered that gives them by their full names. -/
def entered (name : String) (kind : ClassKind) (superclass : Option String)
    (interfaces : List String) : List String :=
  (superclass.or (if name = rootType then none else kind.implicitSuperclass?)).toList ++ interfaces

theorem info?_insertResolved (index : TypeIndex) (name key : String) (kind : ClassKind)
    (superclass : Option String) (interfaces : List String) :
    (index.insertResolved name kind superclass interfaces).info? key =
      if name = key then some ⟨kind, (entered name kind superclass interfaces).map .ok⟩
      else index.info? key := by
  cases superclass <;> exact info?_insert _ _ _ _

theorem mem_entered {name super : String} {kind : ClassKind} {superclass : Option String}
    {interfaces : List String} (h : super ∈ entered name kind superclass interfaces) :
    super ∈ superclass.toList ++ interfaces ∨ kind.implicitSuperclass? = some super := by
  rcases List.mem_append.1 h with parent | interface
  · cases superclass with
    | some own => exact .inl (List.mem_append_left _ parent)
    | none =>
      rw [Option.none_or] at parent
      split at parent
      · cases parent
      · exact .inr (Option.mem_toList.1 parent)
  · exact .inl (List.mem_append_right _ interface)

/-- The supertypes under which a standard type is entered. -/
def enteredStandard (type : StandardType) : List String :=
  entered type.name type.kind type.superclass type.interfaces

theorem info?_standard (name : String) :
    standard.info? name =
      (StandardType.all.reverse.find? (·.name = name)).map fun type =>
        ⟨type.kind, (enteredStandard type).map .ok⟩ := by
  have last := info?_foldl_last (fun type : StandardType => type.name)
    (fun type _ => some ⟨type.kind, (enteredStandard type).map .ok⟩)
    (fun index type => (info?_insertResolved _ _ _ _ _ _).trans (if_pos rfl))
    (fun index type name differs => (info?_insertResolved _ _ _ _ _ _).trans (if_neg differs))
    (fun _ _ _ => rfl) StandardType.all {} name
  refine last.trans ?_
  cases StandardType.all.reverse.find? (·.name = name) <;> rfl

theorem info?_known (known : List KnownType) (name : String) :
    (known.foldl insertKnown standard).info? name =
      (KnownType.last? known name).elim (standard.info? name) fun type =>
        some ⟨if type.interface then .interface else .plain,
          (entered type.name (if type.interface then .interface else .plain) type.superclass
            type.interfaces).map .ok⟩ :=
  info?_foldl_last KnownType.name
    (fun type _ => some ⟨if type.interface then .interface else .plain,
      (entered type.name (if type.interface then .interface else .plain) type.superclass
        type.interfaces).map .ok⟩)
    (fun _ _ => (info?_insertResolved _ _ _ _ _ _).trans (if_pos rfl))
    (fun _ _ _ differs => (info?_insertResolved _ _ _ _ _ _).trans (if_neg differs))
    (fun _ _ _ => rfl) known standard name

theorem edge_iff_of_entered {index : TypeIndex} {name super : String} {kind : ClassKind}
    {supers : List String} (found : index.info? name = some ⟨kind, supers.map .ok⟩) :
    index.Edge name super ↔ super ∈ supers := by
  rw [edge_iff_of_info? found]
  simp

/-- What leads out of a type that only the standard library knows. -/
theorem exists_standard_of_edge {name super : String}
    (undeclared : name ∉ (ofUnits units).map DeclaredType.name)
    (unconfigured : name ∉ known.map KnownType.name) (edge : (build units known).Edge name super) :
    ∃ type ∈ StandardType.all, type.name = name ∧ super ∈ enteredStandard type := by
  have none : KnownType.last? known name = none := by
    simpa [KnownType.last?] using unconfigured
  have stored : (build units known).info? name = standard.info? name := by
    rw [info?_build_of_not_mem undeclared, info?_known, none, Option.elim_none]
  rw [info?_standard] at stored
  cases h : StandardType.all.reverse.find? (·.name = name) with
  | none =>
    rw [h] at stored
    simp [Edge, supertypes, stored] at edge
  | some type =>
    rw [h] at stored
    refine ⟨type, List.mem_reverse.1 (List.mem_of_find?_eq_some h), ?_,
      (edge_iff_of_entered stored).1 edge⟩
    simpa using List.find?_some h

/-- A stored supertype is named, or it is the superclass of a kind. -/
theorem edge_build_cases {name super : String} (edge : (build units known).Edge name super) :
    NamesSupertype units known name super ∨
      ∃ kind : ClassKind, kind.implicitSuperclass? = some super := by
  cases h : DeclaredType.last? (ofUnits units) name with
  | some last =>
    obtain ⟨pass, writer, written, stored⟩ := @info?_build_of_last units known name last h
    rcases List.mem_append.1 ((edge_iff_of_info? stored super).1 edge) with implicit | looked
    · obtain ⟨parent, own, same⟩ := List.mem_map.1 implicit
      obtain rfl := Except.ok.inj same
      refine .inr ⟨writer.kind, ?_⟩
      split at own
      · cases own
      · exact Option.mem_toList.1 own
    · obtain ⟨s, clause, found⟩ := List.mem_map.1 looked
      exact .inl (.declared written clause found)
  | none =>
    have undeclared := last?_eq_none_iff.1 h
    cases h' : KnownType.last? known name with
    | some type =>
      obtain rfl : type.name = name := by simpa using List.find?_some h'
      have stored := @info?_build_of_not_mem units known type.name undeclared
      rw [info?_known, h'] at stored
      rcases mem_entered ((edge_iff_of_entered stored).1 edge) with named | implicit
      · exact .inl (.configured undeclared h' named)
      · exact .inr ⟨_, implicit⟩
    | none =>
      have unconfigured : name ∉ known.map KnownType.name := by
        simpa [KnownType.last?] using h'
      obtain ⟨type, listed, rfl, own⟩ := exists_standard_of_edge undeclared unconfigured edge
      rcases mem_entered own with named | implicit
      · exact .inl (.standard undeclared unconfigured listed named)
      · exact .inr ⟨_, implicit⟩

/-! ## Hierarchies over the standard library -/

/-- The types of some units and of the configuration are laid over the standard library: named
supertypes form no cycle, no standard type but the root type is replaced, and a replaced root type is
a class that names no supertypes. -/
structure LaidOverStandard (units : List SourceUnit) (known : List KnownType) : Prop where
  acyclic : ∀ name, ¬ Relation.TransGen (NamesSupertype units known) name name
  kept : ∀ name ∈ StandardType.all.map (·.name), name ≠ rootType →
    name ∉ (ofUnits units).map DeclaredType.name ∧ name ∉ known.map KnownType.name
  declaredRoot : ∀ type ∈ ofUnits units, type.name = rootType →
    type.kind = .plain ∧ type.supertypes = []
  configuredRoot : ∀ type ∈ known, type.name = rootType →
    type.interface = false ∧ type.superclass = none ∧ type.interfaces = []

/-- The superclasses of enumerations and records. -/
def kindSuperclasses : List String := ["java.lang.Enum", "java.lang.Record"]

/-- The interfaces that these implement. -/
def kindInterfaces : List String := ["java.lang.Comparable", "java.io.Serializable"]

theorem entered_kindInterfaces :
    ∀ type ∈ StandardType.all, type.name ∈ kindInterfaces → enteredStandard type = [] := by
  decide +kernel

theorem entered_kindSuperclasses :
    ∀ type ∈ StandardType.all, type.name ∈ kindSuperclasses →
      ∀ super ∈ enteredStandard type, super ∈ rootType :: kindInterfaces := by
  decide +kernel

theorem standard_kindSupertypes :
    ∀ name ∈ kindSuperclasses ++ kindInterfaces,
      name ∈ StandardType.all.map (·.name) ∧ name ≠ rootType := by
  decide +kernel

theorem not_mem_kindInterfaces : ∀ name ∈ kindSuperclasses, name ∉ rootType :: kindInterfaces := by
  decide

namespace LaidOverStandard

theorem info?_declared_root (laid : LaidOverStandard units known)
    (declared : rootType ∈ (ofUnits units).map DeclaredType.name) :
    ∃ kind, (build units known).info? rootType = some ⟨kind, [.ok rootType]⟩ := by
  cases h : DeclaredType.last? (ofUnits units) rootType with
  | none => exact absurd declared (last?_eq_none_iff.1 h)
  | some last =>
    obtain ⟨pass, writer, written, stored⟩ := @info?_build_of_last units known rootType last h
    obtain ⟨listed, own⟩ := mem_of_writer? written
    obtain ⟨kind, supertypes⟩ := laid.declaredRoot writer
      ((types_sublist_of_mem_passes listed).subset (mem_of_last? own)) (name_of_last? own)
    refine ⟨last.kind, ?_⟩
    rw [stored, directSupertypes, kind, supertypes]
    rfl

theorem info?_undeclared_root (laid : LaidOverStandard units known)
    (undeclared : rootType ∉ (ofUnits units).map DeclaredType.name) :
    (build units known).info? rootType = some ⟨.plain, []⟩ := by
  rw [info?_build_of_not_mem undeclared, info?_known]
  cases h : KnownType.last? known rootType with
  | none => rw [Option.elim_none, info?_standard_root]
  | some type =>
    have named : type.name = rootType := by simpa using List.find?_some h
    have listed : type ∈ known := List.mem_reverse.1 (List.mem_of_find?_eq_some h)
    obtain ⟨kind, superclass, interfaces⟩ := laid.configuredRoot type listed named
    simp [kind, superclass, interfaces, named, entered]

theorem edge_root_iff (laid : LaidOverStandard units known) (super : String) :
    (build units known).Edge rootType super ↔
      super = rootType ∧ rootType ∈ (ofUnits units).map DeclaredType.name := by
  by_cases declared : rootType ∈ (ofUnits units).map DeclaredType.name
  · obtain ⟨kind, stored⟩ := laid.info?_declared_root declared
    rw [edge_iff_of_info? stored]
    simp [declared]
  · rw [edge_iff_of_info? (laid.info?_undeclared_root declared)]
    simp [declared]

theorem eq_of_reaches_root (laid : LaidOverStandard units known) {name : String}
    (reaches : (build units known).Reaches rootType name) : name = rootType := by
  induction reaches with
  | refl => rfl
  | tail _ edge ih =>
    subst ih
    exact ((laid.edge_root_iff _).1 edge).1

theorem exists_standard (laid : LaidOverStandard units known) {name super : String}
    (h : name ∈ kindSuperclasses ++ kindInterfaces) (edge : (build units known).Edge name super) :
    ∃ type ∈ StandardType.all, type.name = name ∧ super ∈ enteredStandard type := by
  obtain ⟨standard, other⟩ := standard_kindSupertypes name h
  obtain ⟨undeclared, unconfigured⟩ := laid.kept name standard other
  exact exists_standard_of_edge undeclared unconfigured edge

theorem not_edge_interface (laid : LaidOverStandard units known) {name super : String}
    (h : name ∈ kindInterfaces) : ¬ (build units known).Edge name super := by
  intro edge
  obtain ⟨type, listed, rfl, own⟩ := laid.exists_standard (List.mem_append_right _ h) edge
  rw [entered_kindInterfaces type listed h] at own
  cases own

/-- The superclasses of enumerations and records lead to the root type and to interfaces. -/
theorem mem_of_superclass (laid : LaidOverStandard units known) {name other : String}
    (h : name ∈ kindSuperclasses)
    (above : Relation.TransGen (build units known).Edge name other) :
    other ∈ rootType :: kindInterfaces := by
  induction above with
  | single edge =>
    obtain ⟨type, listed, rfl, own⟩ := laid.exists_standard (List.mem_append_left _ h) edge
    exact entered_kindSuperclasses type listed h _ own
  | tail _ edge ih =>
    rcases List.mem_cons.1 ih with rfl | interface
    · exact List.mem_cons.2 (.inl ((laid.edge_root_iff _).1 edge).1)
    · exact absurd edge (laid.not_edge_interface interface)

/-- A cycle in the index consists of the root type alone, and the root type is then declared. -/
theorem eq_root_of_cycle (laid : LaidOverStandard units known) {name : String}
    (cycle : Relation.TransGen (build units known).Edge name name) :
    name = rootType ∧ rootType ∈ (ofUnits units).map DeclaredType.name := by
  -- a path of stored supertypes is one of named supertypes, or passes a superclass of a kind
  have passes {start stop : String}
      (path : Relation.TransGen (build units known).Edge start stop) :
      Relation.TransGen (NamesSupertype units known) start stop ∨
        ∃ kind : ClassKind, ∃ super, kind.implicitSuperclass? = some super ∧
          Relation.TransGen (build units known).Edge start super ∧
          (build units known).Reaches super stop := by
    induction path with
    | single edge =>
      rcases edge_build_cases edge with named | ⟨kind, implicit⟩
      · exact .inl (.single named)
      · exact .inr ⟨kind, _, implicit, .single edge, .refl⟩
    | tail before edge ih =>
      rcases ih with named | ⟨kind, super, implicit, first, rest⟩
      · rcases edge_build_cases edge with last | ⟨kind, implicit⟩
        · exact .inl (named.tail last)
        · exact .inr ⟨kind, _, implicit, before.tail edge, .refl⟩
      · exact .inr ⟨kind, super, implicit, first, rest.tail edge⟩
  rcases passes cycle with named | ⟨kind, super, implicit, first, rest⟩
  · exact absurd named (laid.acyclic name)
  · have again : Relation.TransGen (build units known).Edge super super :=
      Relation.TransGen.trans_right rest first
    have superclasses : super = rootType ∨ super ∈ kindSuperclasses := by
      cases kind <;> simp_all [ClassKind.implicitSuperclass?, rootType, kindSuperclasses]
    rcases superclasses with rfl | other
    · obtain ⟨next, edge, -⟩ := Relation.TransGen.head'_iff.1 again
      exact ⟨laid.eq_of_reaches_root rest, ((laid.edge_root_iff next).1 edge).2⟩
    · exact absurd (laid.mem_of_superclass other again) (not_mem_kindInterfaces super other)

theorem ancestors_declared_root (laid : LaidOverStandard units known)
    (declared : rootType ∈ (ofUnits units).map DeclaredType.name) :
    (build units known).ancestors rootType = .error (.cyclicInheritance rootType) := by
  obtain ⟨kind, stored⟩ := laid.info?_declared_root declared
  have again : (build units known).ancestorsAlong [rootType] rootType =
      .error (.cyclicInheritance rootType) := by
    rw [ancestorsAlong, dif_pos (by simp)]
  rw [ancestors, ancestorsAlong_eq_through (by simp) stored]
  simp only [ancestorsThrough, again]

end LaidOverStandard

theorem cycle_of_ancestors {name type : String}
    (failed : (build units known).ancestors name = .error (.cyclicInheritance type)) :
    Relation.TransGen (build units known).Edge type type := by
  obtain ⟨other, reaches, fails⟩ := ancestorsAlong_eq_error [] name (by simp) failed
  exact ((Arises.build units known).explains reaches fails).2

/-- In a hierarchy over the standard library, no type inherits from itself unless a unit declares the
root type.  A declared root type is its own superclass; then its ancestors cannot be listed, and
nothing else is ever found to inherit from itself. -/
theorem cyclic_only_at_declared_root (laid : LaidOverStandard units known) :
    (rootType ∉ (ofUnits units).map DeclaredType.name →
      (∀ name type, (build units known).ancestors name ≠ .error (.cyclicInheritance type)) ∧
      (build units known).ancestors rootType = .ok []) ∧
    (rootType ∈ (ofUnits units).map DeclaredType.name →
      (build units known).ancestors rootType = .error (.cyclicInheritance rootType) ∧
      ∀ name type, (build units known).ancestors name = .error (.cyclicInheritance type) →
        type = rootType) := by
  refine ⟨fun undeclared => ⟨fun name type failed => ?_, ?_⟩, fun declared => ⟨?_, ?_⟩⟩
  · exact undeclared (laid.eq_root_of_cycle (cycle_of_ancestors failed)).2
  · rw [ancestors, ancestorsAlong_eq_through (by simp) (laid.info?_undeclared_root undeclared)]
    simp only [ancestorsThrough]
  · exact laid.ancestors_declared_root declared
  · intro name type failed
    exact (laid.eq_root_of_cycle (cycle_of_ancestors failed)).1

/-! ## Figures

A hierarchy of all kinds of types, some of them configured, over a configured root type; and the same
standard library under a declared root type.  Both have no cycle of named supertypes, since these
come first in an order of the names. -/

/-- The named supertypes of the standard library and of `figures`, each behind its own. -/
def namedOrder : List String :=
  [ "java.lang.CharSequence", "java.lang.Comparable", "java.lang.Iterable", "java.lang.Runnable",
    "java.lang.AutoCloseable", "java.lang.Cloneable", "java.io.Serializable", "java.lang.Number",
    "java.lang.Throwable", "java.lang.Exception", "java.lang.RuntimeException",
    "java.io.Closeable", "java.util.Collection", "java.util.List", "java.util.Set",
    "java.util.SortedSet", "java.util.NavigableSet", "java.util.Queue", "java.util.Deque",
    "java.util.Map", "java.util.SortedMap", "java.util.NavigableMap", "java.util.Iterator",
    "java.util.RandomAccess", "java.util.AbstractCollection", "java.util.AbstractList",
    "java.util.AbstractSet", "java.util.AbstractQueue", "java.util.AbstractMap",
    "java.util.Vector", "java.util.HashMap", "java.util.Dictionary", "java.util.Hashtable",
    "java.util.HashSet", "java.util.function.BiFunction", "java.util.function.Function",
    "Drawn", "Shape" ]

theorem namedOrder_standard :
    ∀ type ∈ StandardType.all, ∀ super ∈ type.superclass.toList ++ type.interfaces,
      namedOrder.idxOf super < namedOrder.idxOf type.name := by
  decide +kernel

theorem acyclic_of_namedOrder
    (ordered : ∀ name super, NamesSupertype units known name super →
      namedOrder.idxOf super < namedOrder.idxOf name) (name : String) :
    ¬ Relation.TransGen (NamesSupertype units known) name name := by
  have descends {start stop : String}
      (path : Relation.TransGen (NamesSupertype units known) start stop) :
      namedOrder.idxOf stop < namedOrder.idxOf start := by
    induction path with
    | single named => exact ordered _ _ named
    | tail _ named ih => exact Nat.lt_trans (ordered _ _ named) ih
  exact fun cycle => Nat.lt_irrefl _ (descends cycle)

/-- An interface, classes, an enumeration and a record. -/
def figures : SourceUnit where
  path := "Figures.java"
  decls :=
    [ .type { name := "Drawn", kind := .interface } [],
      .type { name := "Shape" } [.supertype ⟨.implements, ⟨["Drawn"]⟩⟩],
      .type { name := "Circle" } [.supertype ⟨.extends, ⟨["Shape"]⟩⟩],
      .type { name := "Color", kind := .enum } [.supertype ⟨.implements, ⟨["Drawn"]⟩⟩],
      .type { name := "Point", kind := .record } [] ]

/-- The root type, and a type that extends a declared one. -/
def tools : List KnownType :=
  [{ name := rootType }, { name := "kit.Tool", superclass := some "Shape" }]

theorem ofUnits_figures :
    ofUnits [figures] =
      [ { name := "Drawn", kind := .interface, supertypes := [], scope := {} },
        { name := "Shape", kind := .plain, supertypes := [⟨.implements, ⟨["Drawn"]⟩⟩], scope := {} },
        { name := "Circle", kind := .plain, supertypes := [⟨.extends, ⟨["Shape"]⟩⟩], scope := {} },
        { name := "Color", kind := .enum, supertypes := [⟨.implements, ⟨["Drawn"]⟩⟩], scope := {} },
        { name := "Point", kind := .record, supertypes := [], scope := {} } ] := by
  cbv

theorem laidOver_figures : LaidOverStandard [figures] tools where
  acyclic := by
    refine acyclic_of_namedOrder fun name super named => ?_
    cases named with
    | @declared _ _ pass writer s written clause found =>
      obtain ⟨listed, own⟩ := mem_of_writer? written
      obtain rfl := name_of_last? own
      have declared := (types_sublist_of_mem_passes listed).subset (mem_of_last? own)
      have names {type : String} (h : type ∈ (ofUnits [figures]).map DeclaredType.name) :
          pass.before.lookupReference ⟨[type]⟩ {} = .ok type := by
        refine lookupReference_of_contains ?_
        rw [contains_of_mem_passes listed, ← contains_build, contains_build_iff]
        exact .inl h
      rw [ofUnits_figures] at declared names
      simp only [List.mem_cons, List.not_mem_nil, or_false] at declared
      rcases declared with rfl | rfl | rfl | rfl | rfl
      · cases clause
      · obtain rfl := List.mem_singleton.1 clause
        obtain rfl := Except.ok.inj ((names (by simp)).symm.trans found)
        decide
      · obtain rfl := List.mem_singleton.1 clause
        obtain rfl := Except.ok.inj ((names (by simp)).symm.trans found)
        decide
      · obtain rfl := List.mem_singleton.1 clause
        obtain rfl := Except.ok.inj ((names (by simp)).symm.trans found)
        decide
      · cases clause
    | configured undeclared last named =>
      have listed := List.mem_reverse.1 (List.mem_of_find?_eq_some last)
      simp only [tools, List.mem_cons, List.not_mem_nil, or_false] at listed
      rcases listed with rfl | rfl
      · cases named
      · obtain rfl := List.mem_singleton.1 named
        decide
    | standard undeclared unconfigured listed named =>
      exact namedOrder_standard _ listed super named
  kept := by
    rw [ofUnits_figures]
    decide +kernel
  declaredRoot := by
    rw [ofUnits_figures]
    decide +kernel
  configuredRoot := by decide

/-- The enumerations, records and classes among the figures are no ancestors of themselves. -/
theorem acyclic_figures :
    (∀ name type, (build [figures] tools).ancestors name ≠ .error (.cyclicInheritance type)) ∧
    (build [figures] tools).ancestors rootType = .ok [] := by
  have undeclared : rootType ∉ (ofUnits [figures]).map DeclaredType.name := by
    rw [ofUnits_figures]
    decide
  exact (cyclic_only_at_declared_root laidOver_figures).1 undeclared

/-- A unit that declares the root type, as a class without supertypes. -/
def ownRoot : SourceUnit where
  path := "Object.java"
  decls := [.package "java.lang", .type { name := "Object" } []]

theorem ofUnits_ownRoot :
    ofUnits [ownRoot] =
      [{ name := rootType, kind := .plain, supertypes := []
         scope := { package := some "java.lang" } }] := by
  cbv

theorem laidOver_ownRoot : LaidOverStandard [ownRoot] [] where
  acyclic := by
    refine acyclic_of_namedOrder fun name super named => ?_
    cases named with
    | declared written clause _ =>
      obtain ⟨listed, own⟩ := mem_of_writer? written
      have declared := (types_sublist_of_mem_passes listed).subset (mem_of_last? own)
      rw [ofUnits_ownRoot] at declared
      obtain rfl := List.mem_singleton.1 declared
      cases clause
    | configured _ last _ => cases last
    | standard _ _ listed named => exact namedOrder_standard _ listed super named
  kept := by
    rw [ofUnits_ownRoot]
    decide +kernel
  declaredRoot := by
    rw [ofUnits_ownRoot]
    decide
  configuredRoot := by simp

/-- A hierarchy without a cycle of named supertypes can still have an implicit one. -/
theorem declared_root_inherits_itself :
    ¬ ∀ (units : List SourceUnit) (known : List KnownType), LaidOverStandard units known →
      (∀ name type, (build units known).ancestors name ≠ .error (.cyclicInheritance type)) ∧
      (build units known).ancestors rootType = .ok [] := by
  intro acyclic
  have declared : rootType ∈ (ofUnits [ownRoot]).map DeclaredType.name := by
    rw [ofUnits_ownRoot]
    decide
  exact (acyclic [ownRoot] [] laidOver_ownRoot).1 rootType rootType
    (laidOver_ownRoot.ancestors_declared_root declared)

end TypeIndex

end ClassCatalog
