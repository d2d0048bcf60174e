import ClassCatalog.ClassDoc.Document
import ClassCatalog.Proofs.Json.Layouts

/-!
# Documents lose nothing

Each record is read back from the JSON object that it is written as, whichever of its optional
fields are left out.  With the reading of both layouts this gives the classes of a document back
(`ofDocument?_document`).
-/

namespace ClassCatalog

namespace Json

/-! ## Fields -/

section Fields

variable {fields : List (String × Json)} {key : String}

theorem filter_optionalField (other key : String) (value : Option String) :
    (optionalField other value).filter (fun field => field.1 == key) =
      if other = key then optionalField other value else [] := by
  cases value <;> simp [optionalField, List.filter_cons]

theorem requiredString?_eq_some {value : String}
    (once : fields.filter (fun field => field.1 == key) = [(key, string value)]) :
    requiredString? fields key = some value := by
  simp [requiredString?, field?, once]

theorem optionalString?_eq_some {value : Option String}
    (once : fields.filter (fun field => field.1 == key) = optionalField key value) :
    optionalString? fields key = some value := by
  cases value <;> simp [optionalString?, field?, once, optionalField]

theorem list?_eq_mapM {α : Type} {decode? : Json → Option α} {items : List Json}
    (once : fields.filter (fun field => field.1 == key) = [(key, array items)]) :
    list? decode? fields key = items.mapM decode? := by
  simp [list?, field?, once]

end Fields

theorem mapM_map_of_decodes {α : Type} {encode : α → Json} {decode? : Json → Option α}
    (decodes : ∀ a, decode? (encode a) = some a) (values : List α) :
    (values.map encode).mapM decode? = some values := by
  induction values with
  | nil => rfl
  | cons value rest ih => simp [decodes, ih]

theorem mapM_string? (values : List String) : (values.map string).mapM string? = some values := by
  have decodes (value : String) : string? (string value) = some value := rfl
  exact mapM_map_of_decodes decodes values

/-! ## Values without numbers -/

theorem wellFormedItems_map {α : Type} {encode : α → Json} (each : ∀ a, (encode a).WellFormed)
    (values : List α) : WellFormedItems (values.map encode) := by
  induction values with
  | nil => trivial
  | cons value rest ih => exact ⟨each value, ih⟩

theorem wellFormed_ofStrings (values : List String) : (ofStrings values).WellFormed := by
  have each (value : String) : (string value).WellFormed := trivial
  exact wellFormedItems_map each values

theorem wellFormedFields_append {fields more : List (String × Json)}
    (first : WellFormedFields fields) (rest : WellFormedFields more) :
    WellFormedFields (fields ++ more) := by
  induction fields with
  | nil => exact rest
  | cons field fields ih => exact ⟨first.1, ih first.2⟩

theorem wellFormedFields_optionalField (key : String) (value : Option String) :
    WellFormedFields (optionalField key value) := by
  cases value with
  | none => trivial
  | some text => exact ⟨trivial, trivial⟩

end Json

open Json

/-! ## Records -/

section Records

variable {fields : List (String × Json)}

theorem ParameterDoc.ofJson?_object {doc : ParameterDoc}
    (name : requiredString? fields "name" = some doc.name)
    (type : optionalString? fields "type" = some doc.type) :
    ofJson? (.object fields) = some doc := by
  simp [ofJson?, fieldsOf?, name, type]

theorem MethodDoc.ofJson?_object {doc : MethodDoc}
    (name : requiredString? fields "name" = some doc.name)
    (description : optionalString? fields "documentation" = some doc.description)
    (type : optionalString? fields "type" = some doc.type)
    (modifiers : list? string? fields "modifiers" = some doc.modifiers)
    (parameters : list? ParameterDoc.ofJson? fields "parameters" = some doc.parameters) :
    ofJson? (.object fields) = some doc := by
  simp [ofJson?, fieldsOf?, name, description, type, modifiers, parameters]

theorem ClassDoc.ofJson?_object {doc : ClassDoc}
    (name : requiredString? fields "name" = some doc.name)
    (description : optionalString? fields "classJavaDoc" = some doc.description)
    (ancestors : list? string? fields "extendedClasses" = some doc.ancestors)
    (methods : list? MethodDoc.ofJson? fields "methods" = some doc.methods) :
    ofJson? (.object fields) = some doc := by
  simp [ofJson?, fieldsOf?, name, description, ancestors, methods]

end Records

-- In each record a key stands once, or not at all if it is optional, so that looking for it
-- leaves its own field only.
theorem ParameterDoc.ofJson?_toJson (doc : ParameterDoc) : ofJson? doc.toJson = some doc := by
  refine ofJson?_object (requiredString?_eq_some ?_) (optionalString?_eq_some ?_) <;>
    simp [filter_optionalField]

theorem MethodDoc.ofJson?_toJson (doc : MethodDoc) : ofJson? doc.toJson = some doc := by
  have modifiers := mapM_string? doc.modifiers
  have parameters := mapM_map_of_decodes ParameterDoc.ofJson?_toJson doc.parameters
  refine ofJson?_object (requiredString?_eq_some ?_) (optionalString?_eq_some ?_)
    (optionalString?_eq_some ?_) ((list?_eq_mapM ?_).trans modifiers)
    ((list?_eq_mapM ?_).trans parameters) <;>
    simp [filter_optionalField, Json.ofStrings]

theorem ClassDoc.ofJson?_toJson (doc : ClassDoc) : ofJson? doc.toJson = some doc := by
  have ancestors := mapM_string? doc.ancestors
  have methods := mapM_map_of_decodes MethodDoc.ofJson?_toJson doc.methods
  refine ofJson?_object (requiredString?_eq_some ?_) (optionalString?_eq_some ?_)
    ((list?_eq_mapM ?_).trans ancestors) ((list?_eq_mapM ?_).trans methods) <;>
    simp [filter_optionalField, Json.ofStrings]

theorem ParameterDoc.wellFormed_toJson (doc : ParameterDoc) : doc.toJson.WellFormed :=
  ⟨trivial, wellFormedFields_optionalField _ _⟩

theorem MethodDoc.wellFormed_toJson (doc : MethodDoc) : doc.toJson.WellFormed := by
  have parameters := wellFormedItems_map ParameterDoc.wellFormed_toJson doc.parameters
  have first : WellFormedFields
      (("name", .string doc.name) :: optionalField "documentation" doc.description) :=
    ⟨trivial, wellFormedFields_optionalField _ _⟩
  have second := wellFormedFields_append first (wellFormedFields_optionalField "type" doc.type)
  exact wellFormedFields_append second ⟨wellFormed_ofStrings _, parameters, trivial⟩

theorem ClassDoc.wellFormed_toJson (doc : ClassDoc) : doc.toJson.WellFormed := by
  have methods := wellFormedItems_map MethodDoc.wellFormed_toJson doc.methods
  refine ⟨trivial, wellFormedFields_append (wellFormedFields_optionalField _ _) ?_⟩
  exact ⟨wellFormed_ofStrings _, methods, trivial⟩

/-! ## Documents -/

namespace ClassDoc

theorem listOfJson?_array (docs : List ClassDoc) :
    listOfJson? (.array (docs.map toJson)) = some docs :=
  mapM_map_of_decodes ofJson?_toJson docs

theorem wellFormed_array (docs : List ClassDoc) : (Json.array (docs.map toJson)).WellFormed :=
  wellFormedItems_map wellFormed_toJson docs

theorem ofDocument?_document (layout : Layout) (docs : List ClassDoc) :
    ofDocument? (document layout docs) = some docs := by
  rw [ofDocument?, document, parse?_render layout (wellFormed_array docs)]
  exact listOfJson?_array docs

/-- The document of some classes is read back as these classes, so that it determines them, and
the texts of both layouts write one and the same JSON value, which stands for these classes. -/
theorem document_lossless :
    (∀ layout docs, ofDocument? (document layout docs) = some docs) ∧
    (∀ layout, Function.Injective (document layout)) ∧
    ∀ docs, ∃ json, listOfJson? json = some docs ∧
      ∀ layout other, ValueText other (document layout docs).toList ↔ other = json := by
  refine ⟨ofDocument?_document, ?_, ?_⟩
  · intro layout docs docs' same
    have read := ofDocument?_document layout docs
    rw [same, ofDocument?_document] at read
    exact (Option.some.inj read).symm
  · intro docs
    refine ⟨.array (docs.map toJson), listOfJson?_array docs, ?_⟩
    intro layout other
    have written := valueText_render layout (wellFormed_array docs)
    constructor
    · exact fun text => text.unique written
    · rintro rfl
      exact written

end ClassDoc

end ClassCatalog
