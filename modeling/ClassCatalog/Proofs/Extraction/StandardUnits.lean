import ClassCatalog.Proofs.Extraction.Visits
import ClassCatalog.TypeIndex.Build

/-!
# Standard units

In a standard unit the package and the imports come first, and the members of classes and methods
are of the kinds that Java has there.  In such a unit two recursions agree that know nothing of
each other: the classes that the walk leaves have, in order, the full names under which the index
declares them, and their supertypes are looked up in the same scopes.
-/

namespace ClassCatalog

open Text

/-! ## The shape of a standard unit -/

mutual

/-- Whether a declaration may be a member of a class. -/
def Decl.isMember : Decl → Bool
  | .type _ members => Decl.areMembers members
  | .method _ members => Decl.areLocals members
  | .parameter _ => true
  | .supertype _ => true
  | .package _ => false
  | .imported _ => false

/-- Whether declarations may be the members of a class. -/
def Decl.areMembers : List Decl → Bool
  | [] => true
  | decl :: rest => decl.isMember && Decl.areMembers rest

/-- Whether declarations may be the members of a method. -/
def Decl.areLocals : List Decl → Bool
  | [] => true
  | .type _ members :: rest => Decl.areMembers members && Decl.areLocals rest
  | .parameter _ :: rest => Decl.areLocals rest
  | _ :: _ => false

end

/-- Whether a declaration is a package or an import. -/
def Decl.isHeader : Decl → Bool
  | .package _ => true
  | .imported _ => true
  | _ => false

/-- Whether a declaration is a class with standard members. -/
def Decl.isClass : Decl → Bool
  | .type _ members => Decl.areMembers members
  | _ => false

/-- The package and the imports of a standard unit come before its classes, and there is at most
one package. -/
structure SourceUnit.IsStandard (unit : SourceUnit) : Prop where
  sections : ∃ header classes, unit.decls = header ++ classes ∧
    (∀ decl ∈ header, decl.isHeader = true) ∧ ∀ decl ∈ classes, decl.isClass = true
  package : (unit.decls.filterMap Decl.package?).length ≤ 1

/-- The supertype clauses of a declared type, with the scope of their look-up. -/
def DeclaredType.clauses (type : DeclaredType) : List (Supertype × Scope) :=
  type.supertypes.map fun s => (s, type.scope)

/-- The superclass that a declared type has without naming it. -/
def DeclaredType.implicit? (type : DeclaredType) : Option String :=
  if type.kind == .plain && type.supertypes.any (·.clause == .extends) then none
  else type.kind.implicitSuperclass?

theorem TypeIndex.directSupertypes_eq (index : TypeIndex) (type : DeclaredType) :
    index.directSupertypes type =
      type.implicit?.toList.map .ok ++
        type.clauses.map fun clause => index.lookupReference clause.1.name clause.2 := by
  rw [directSupertypes, DeclaredType.clauses, List.map_map]
  rfl

/-! ## Members change neither package nor imports -/

mutual

theorem header_eq_nil_of_isMember : ∀ (decl : Decl) (inside : Bool), decl.isMember = true →
    decl.header inside = []
  | .type head members, inside, h => headerAll_eq_nil_of_areMembers members true h
  | .method head members, inside, h => by
    rw [Decl.header, headerAll_eq_nil_of_areLocals members inside h, ite_self]
  | .parameter _, _, _ => rfl
  | .supertype _, _, _ => rfl

theorem headerAll_eq_nil_of_areMembers : ∀ (decls : List Decl) (inside : Bool),
    Decl.areMembers decls = true → Decl.headerAll inside decls = []
  | [], _, _ => rfl
  | decl :: rest, inside, h => by
    obtain ⟨first, more⟩ := Bool.and_eq_true_iff.1 h
    rw [Decl.headerAll, header_eq_nil_of_isMember decl inside first,
      headerAll_eq_nil_of_areMembers rest inside more, List.append_nil]

theorem headerAll_eq_nil_of_areLocals : ∀ (decls : List Decl) (inside : Bool),
    Decl.areLocals decls = true → Decl.headerAll inside decls = []
  | [], _, _ => rfl
  | .type head members :: rest, inside, h => by
    obtain ⟨first, more⟩ := Bool.and_eq_true_iff.1 h
    rw [Decl.headerAll, Decl.header, headerAll_eq_nil_of_areMembers members true first,
      headerAll_eq_nil_of_areLocals rest inside more, List.append_nil]
  | .parameter p :: rest, inside, h => headerAll_eq_nil_of_areLocals rest inside h

end

namespace Place

theorem after_eq_self {place : Place} {decl : Decl} (h : decl.isMember = true) :
    place.after decl = place := by
  rw [after, header_eq_nil_of_isMember decl _ h, List.append_nil]

/-- The innermost class begins in the package that is in force. -/
def InPackage (place : Place) : Prop := ∀ path ∈ place.classes.head?, path.package = place.package?

theorem inPackage_inClass (place : Place) (head : ClassHead) : (place.inClass head).InPackage := by
  intro path h
  obtain rfl := Option.some.inj h
  rfl

theorem fullName_classPath {place : Place} (inPackage : place.InPackage) (name : String) :
    (place.classPath name).fullName = DeclaredType.fullName place.innerScope name := by
  rw [ClassPath.fullName, name_classPath, DeclaredType.fullName]
  simp only [classPath, innerScope, List.getLast?_reverse, List.head?_map]
  cases h : place.classes.head? with
  | none => rfl
  | some path =>
    have package := inPackage path h
    simp only [Option.map_some, ClassPath.fullName, package]
    cases place.package? with
    | none => rfl
    | some package => simp [qualify, member, String.append_assoc]

theorem innerScope_inClass {place : Place} (inPackage : place.InPackage) (head : ClassHead) :
    (place.inClass head).innerScope = DeclaredType.innerScope place.innerScope head := by
  rw [DeclaredType.innerScope, ← fullName_classPath inPackage]
  simp [inClass, innerScope, package?, imports]

end Place

/-! ## Sites and declared types -/

theorem clauses_eq_nil_of_areLocals : ∀ (decls : List Decl) (place : Place),
    Decl.areLocals decls = true → Item.clauses (Item.ofDecls place decls) = []
  | [], _, _ => rfl
  | .type _ _ :: rest, _, h => clauses_eq_nil_of_areLocals rest _ (Bool.and_eq_true_iff.1 h).2
  | .parameter _ :: rest, _, h => clauses_eq_nil_of_areLocals rest _ h

theorem clauses_eq_of_areMembers : ∀ (decls : List Decl) (place : Place),
    Decl.areMembers decls = true →
    Item.clauses (Item.ofDecls place decls) =
      (decls.filterMap Decl.supertype?).map fun s => (s, place.outerScope)
  | [], _, _ => rfl
  | decl :: rest, place, h => by
    obtain ⟨first, more⟩ := Bool.and_eq_true_iff.1 h
    rw [Item.ofDecls, Item.clauses_append, Place.after_eq_self first,
      clauses_eq_of_areMembers rest place more]
    cases decl with
    | package _ => cases first
    | imported _ => cases first
    | type _ _ => rfl
    | parameter _ => rfl
    | supertype _ => rfl
    | method head members =>
      rw [Item.ofDecl]
      exact congrArg (· ++ _) (clauses_eq_nil_of_areLocals members _ first)

/-- What a site and a declared type have in common: a full name and the clauses with scopes. -/
def ClassSite.outline (site : ClassSite) : String × List (Supertype × Scope) :=
  (site.path.fullName, Item.clauses site.items)

def DeclaredType.outline (type : DeclaredType) : String × List (Supertype × Scope) :=
  (type.name, type.clauses)

mutual

theorem outline_ofDecl : ∀ (decl : Decl) {place : Place}, place.InPackage → decl.isClass = true →
    (ClassSite.ofDecl place decl).map ClassSite.outline =
      (DeclaredType.ofDecl place.innerScope decl).map DeclaredType.outline
  | .type head members, place, inPackage, h => by
    have nested := outline_ofMembers members (place.inPackage_inClass head) rfl h
    have clauses := clauses_eq_of_areMembers members (place.inClass head) h
    rw [ClassSite.ofDecl, DeclaredType.ofDecl, List.map_append, List.map_append, nested,
      Place.innerScope_inClass inPackage]
    refine congrArg _ (congrArg ([·]) (Prod.ext (Place.fullName_classPath inPackage _) ?_))
    exact clauses

theorem outline_ofMembers : ∀ (decls : List Decl) {place : Place}, place.InPackage →
    place.isInside = true → Decl.areMembers decls = true →
    (ClassSite.ofDecls place decls).map ClassSite.outline =
      (DeclaredType.ofMembers place.innerScope decls).map DeclaredType.outline
  | [], place, inPackage, inside, h => rfl
  | decl :: rest, place, inPackage, inside, h => by
    obtain ⟨first, more⟩ := Bool.and_eq_true_iff.1 h
    have others := outline_ofMembers rest inPackage inside more
    rw [ClassSite.ofDecls, List.map_append, Place.after_eq_self first, others]
    cases decl with
    | package _ => cases first
    | imported _ => cases first
    | parameter _ => rfl
    | supertype _ => rfl
    | type head members =>
      rw [DeclaredType.ofMembers, List.map_append, outline_ofDecl (.type head members) inPackage first]
    | method head members =>
      have inner := @outline_ofLocals members (place.inMethod head) inPackage inside first
      rw [DeclaredType.ofMembers, List.map_append, ClassSite.ofDecl, if_pos inside, inner]
      rfl

theorem outline_ofLocals : ∀ (decls : List Decl) {place : Place}, place.InPackage →
    place.isInside = true → Decl.areLocals decls = true →
    (ClassSite.ofDecls place decls).map ClassSite.outline =
      (DeclaredType.ofLocals place.innerScope decls).map DeclaredType.outline
  | [], place, inPackage, inside, h => rfl
  | .type head members :: rest, place, inPackage, inside, h => by
    obtain ⟨first, more⟩ := Bool.and_eq_true_iff.1 h
    have member : (Decl.type head members).isMember = true := first
    have others := outline_ofLocals rest inPackage inside more
    rw [ClassSite.ofDecls, List.map_append, Place.after_eq_self member, others,
      DeclaredType.ofLocals, List.map_append, outline_ofDecl (.type head members) inPackage first]
  | .parameter p :: rest, place, inPackage, inside, h => by
    rw [ClassSite.ofDecls, Place.after_eq_self rfl]
    exact outline_ofLocals rest inPackage inside h

end

/-! ## Whole units -/

theorem ClassSite.ofDecls_append (place : Place) (first second : List Decl) :
    ofDecls place (first ++ second) = ofDecls place first ++ ofDecls (place.afterAll first) second := by
  induction first generalizing place with
  | nil => simp [ofDecls]
  | cons decl rest ih =>
    rw [List.cons_append, ofDecls, ofDecls, ih, Place.afterAll_cons, List.append_assoc]

theorem ClassSite.ofDecls_header {decls : List Decl} (header : ∀ decl ∈ decls, decl.isHeader = true)
    (place : Place) : ofDecls place decls = [] := by
  induction decls generalizing place with
  | nil => rfl
  | cons decl rest ih =>
    have none : ofDecl place decl = [] := by
      have first := header decl (by simp)
      cases decl <;> first | rfl | cases first
    rw [ofDecls, none, ih fun d h => header d (by simp [h])]
    rfl

theorem headerAll_header {decls : List Decl} (header : ∀ decl ∈ decls, decl.isHeader = true)
    (inside : Bool) : Decl.headerAll inside decls = decls := by
  induction decls with
  | nil => rfl
  | cons decl rest ih =>
    have first : decl.header inside = [decl] := by
      have first := header decl (by simp)
      cases decl <;> first | rfl | cases first
    rw [Decl.headerAll, first, ih fun d h => header d (by simp [h])]
    rfl

theorem outline_ofDecls_classes {decls : List Decl} (classes : ∀ decl ∈ decls, decl.isClass = true)
    {place : Place} (inPackage : place.InPackage) :
    (ClassSite.ofDecls place decls).map ClassSite.outline =
      (decls.flatMap (DeclaredType.ofDecl place.innerScope)).map DeclaredType.outline := by
  induction decls with
  | nil => rfl
  | cons decl rest ih =>
    have first := classes decl (by simp)
    have member : decl.isMember = true := by
      cases decl <;> first | exact first | cases first
    rw [ClassSite.ofDecls, List.map_append, Place.after_eq_self member,
      ih fun d h => classes d (by simp [h]), outline_ofDecl decl inPackage first,
      List.flatMap_cons, List.map_append]

namespace SourceUnit

theorem unitScope_eq {unit : SourceUnit} {header classes : List Decl}
    (decls : unit.decls = header ++ classes) (plain : ∀ decl ∈ classes, decl.isClass = true)
    (package : (unit.decls.filterMap Decl.package?).length ≤ 1) :
    DeclaredType.unitScope unit = Place.innerScope { header } := by
  have noPackage : classes.filterMap Decl.package? = [] := by
    rw [List.filterMap_eq_nil_iff]
    intro decl h
    have := plain decl h
    cases decl <;> first | rfl | cases this
  have noImport : classes.filterMap Decl.import? = [] := by
    rw [List.filterMap_eq_nil_iff]
    intro decl h
    have := plain decl h
    cases decl <;> first | rfl | cases this
  have named : unit.package? = Place.package? { header } := by
    rw [package?, ← List.head?_filterMap, decls, List.filterMap_append, noPackage, List.append_nil,
      Place.package?]
    rw [decls, List.filterMap_append, noPackage, List.append_nil] at package
    rcases h : header.filterMap Decl.package? with _ | ⟨name, _ | ⟨other, more⟩⟩
    · rfl
    · rfl
    · simp [h] at package
  have imported : ImportTable.ofList unit.imports = Place.imports { header } := by
    rw [imports, decls, List.filterMap_append, noImport, List.append_nil, Place.imports]
  rw [DeclaredType.unitScope, named, imported]
  rfl

/-- The sites of a standard unit are its declared types, in the same order, with the same names and
the same scopes at the supertypes. -/
theorem IsStandard.outline_classSites {unit : SourceUnit} (standard : unit.IsStandard) :
    unit.classSites.map ClassSite.outline =
      (DeclaredType.ofUnit unit).map DeclaredType.outline := by
  obtain ⟨header, classes, decls, front, plain⟩ := standard.sections
  have declared : header.flatMap (DeclaredType.ofDecl (DeclaredType.unitScope unit)) = [] := by
    rw [List.flatMap_eq_nil_iff]
    intro decl h
    have := front decl h
    cases decl <;> first | rfl | cases this
  have place : Place.afterAll {} header = { header } := by
    rw [Place.afterAll, headerAll_header front]
    rfl
  rw [classSites, DeclaredType.ofUnit, decls, ClassSite.ofDecls_append,
    ClassSite.ofDecls_header front, List.nil_append, place, List.flatMap_append, declared,
    List.nil_append, unitScope_eq decls plain standard.package]
  exact outline_ofDecls_classes plain (by simp [Place.InPackage])

/-- The walk and the index agree on a standard unit.  The walk leaves its classes in the order in
which they are declared, under the same full names, and looks their supertypes up in the scopes in
which the index looks them up. -/
theorem IsStandard.exits_eq_declared {resolver : Resolver} {unit : SourceUnit}
    {docs : List ClassDoc} (standard : unit.IsStandard)
    (completes : (extractUnit resolver unit).result = .ok docs) :
    (unit.exits resolver).map (·.frame.fullName) =
        (DeclaredType.ofUnit unit).map DeclaredType.name ∧
    (unit.exits resolver).map ClassVisit.clauses =
        (DeclaredType.ofUnit unit).map DeclaredType.clauses ∧
    -- the notes taken at the exits are about the documents that come out
    (unit.exits resolver).map (·.frame.doc) = docs ∧
    (∀ visit ∈ unit.exits resolver, ∃ chains,
      List.Forall₂ (ClassSite.Contributes resolver) visit.clauses chains ∧
        visit.frame.doc.ancestors = chains.flatten) ∧
    -- and the clauses of declared types are what the index looks up
    ∀ (index : TypeIndex), ∀ type ∈ DeclaredType.ofUnit unit,
      index.directSupertypes type =
        type.implicit?.toList.map .ok ++
          type.clauses.map fun clause => index.lookupReference clause.1.name clause.2 := by
  have leaves := leaves_exits completes
  have outlines := standard.outline_classSites
  have names := congrArg (List.map Prod.fst) outlines
  have clauses := congrArg (List.map Prod.snd) outlines
  rw [List.map_map, List.map_map] at names clauses
  exact ⟨leaves.names.trans names, leaves.clauses.trans clauses, leaves.docs,
    leaves.ancestors_eq (extractUnit_result_eq_ok_iff.1 completes),
    fun index type _ => index.directSupertypes_eq type⟩

/-- A unit with a nested class and a class inside a generic method. -/
def nested : SourceUnit where
  path := "A.java"
  decls :=
    [ .package "p",
      .imported { path := "q.Base" },
      .type { name := "A", typeParameters := ["T"] }
        [ .supertype ⟨.extends, ⟨["Base"]⟩⟩,
          .type { name := "B" } [.supertype ⟨.extends, ⟨["A"]⟩⟩],
          .method { name := "m", typeParameters := ["U"] }
            [ .parameter ⟨"x", .named ⟨["U"]⟩⟩,
              .type { name := "L" } [.supertype ⟨.extends, ⟨["B"]⟩⟩] ] ] ]

/-- The types that `nested` mentions. -/
def nestedIndex : TypeIndex where
  types :=
    { entries :=
      [ ("q.Base", ⟨.plain, []⟩),
        ("p.A", ⟨.plain, [.ok "q.Base"]⟩),
        ("p.A.B", ⟨.plain, [.ok "p.A"]⟩),
        ("p.A.L", ⟨.plain, [.ok "p.A.B"]⟩) ] }

/-- The names visible at a place in `nested`. -/
def nestedScope (enclosing typeVariables : List String) : Scope where
  package := some "p"
  imports := ImportTable.ofList [{ path := "q.Base" }]
  enclosing := enclosing
  typeVariables := typeVariables

theorem classSites_nested :
    nested.classSites =
      [ ⟨{ package := some "p", outer := ["A"], simple := "B" }, none,
          [.supertype ⟨.extends, ⟨["A"]⟩⟩ (nestedScope ["p.A"] ["T"])]⟩,
        ⟨{ package := some "p", outer := ["A"], simple := "L" }, none,
          [.supertype ⟨.extends, ⟨["B"]⟩⟩ (nestedScope ["p.A"] ["T", "U"])]⟩,
        ⟨{ package := some "p", outer := [], simple := "A" }, none,
          [ .supertype ⟨.extends, ⟨["Base"]⟩⟩ (nestedScope [] ["T"]),
            .method { name := "m", typeParameters := ["U"] },
            .parameter ⟨"x", .named ⟨["U"]⟩⟩ (nestedScope ["p.A"] ["T", "U"]) ]⟩ ] := by
  rfl

theorem extractUnit_nested :
    (extractUnit nestedIndex.resolver nested).result =
      .ok [ { name := "A.B", ancestors := ["p.A", "q.Base"] },
        { name := "A.L", ancestors := ["p.A.B", "p.A", "q.Base"] },
        { name := "A"
          ancestors := ["q.Base"]
          methods :=
            [{ name := "m", parameters := [{ name := "x", type := "unknown: typevar U" }] }] } ] := by
  have ofB : nestedIndex.resolver.ancestorChain ⟨["A"]⟩ (nestedScope ["p.A"] ["T"]) =
      .ok ["p.A", "q.Base"] := by cbv
  have ofL : nestedIndex.resolver.ancestorChain ⟨["B"]⟩ (nestedScope ["p.A"] ["T", "U"]) =
      .ok ["p.A.B", "p.A", "q.Base"] := by cbv
  have ofA : nestedIndex.resolver.ancestorChain ⟨["Base"]⟩ (nestedScope [] ["T"]) =
      .ok ["q.Base"] := by cbv
  have ofX : nestedIndex.resolver.parameterType (.named ⟨["U"]⟩) (nestedScope ["p.A"] ["T", "U"]) =
      .ok (some "unknown: typevar U") := by cbv
  rw [extractUnit_result_eq_ok_iff, classSites_nested]
  refine .cons ⟨rfl, rfl, .nil, _, .cons ofB .nil, rfl⟩ <|
    .cons ⟨rfl, rfl, .nil, _, .cons ofL .nil, rfl⟩ <|
    .cons ⟨rfl, rfl, ?_, _, .cons ofA .nil, rfl⟩ .nil
  exact .cons ⟨_, .cons ⟨rfl, ofX⟩ .nil, rfl⟩ .nil

theorem nested_exits :
    (nested.exits nestedIndex.resolver).map (·.frame.fullName) = ["p.A.B", "p.A.L", "p.A"] ∧
    ((nested.exits nestedIndex.resolver).map ClassVisit.clauses).map
        (List.map fun clause => (clause.2.enclosing, clause.2.typeVariables)) =
      [[(["p.A"], ["T"])], [(["p.A"], ["T", "U"])], [([], ["T"])]] := by
  have standard : nested.IsStandard :=
    ⟨⟨nested.decls.take 2, nested.decls.drop 2, rfl, by decide, by decide⟩, by decide⟩
  obtain ⟨names, clauses, -⟩ := standard.exits_eq_declared extractUnit_nested
  rw [names, clauses]
  decide

end SourceUnit

end ClassCatalog
