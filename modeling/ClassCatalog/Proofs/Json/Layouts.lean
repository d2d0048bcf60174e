import Mathlib.Tactic.SplitIfs
import ClassCatalog.Json.Printer
import ClassCatalog.Proofs.Json.Texts

/-!
# Both layouts are texts of the value

If the numbers in a value are well formed, then its compact and its pretty text write this value
(`valueText_render`), and reading them gives the value back (`parse?_render`).
-/

namespace ClassCatalog.Json

mutual

/-- All numbers in a value are well formed. -/
def WellFormed : Json → Prop
  | number literal => isNumber literal.toList = true
  | array items => WellFormedItems items
  | object fields => WellFormedFields fields
  | _ => True

def WellFormedItems : List Json → Prop
  | [] => True
  | item :: rest => item.WellFormed ∧ WellFormedItems rest

def WellFormedFields : List (String × Json) → Prop
  | [] => True
  | (_, value) :: rest => value.WellFormed ∧ WellFormedFields rest

end

/-! ## Strings -/

theorem hexDigit?_digitChar : ∀ n < 16, hexDigit? (Nat.digitChar n) = some n := by
  decide

theorem hexUnit?_control {n : Nat} (control : n < 0x20) :
    hexUnit? '0' '0' (Nat.digitChar (n / 16)) (Nat.digitChar (n % 16)) = some n := by
  have zero : hexDigit? '0' = some 0 := by decide
  simp [hexUnit?, zero, hexDigit?_digitChar (n / 16) (by omega),
    hexDigit?_digitChar (n % 16) (by omega), Nat.div_add_mod']

theorem charText_escape (c : Char) : CharText c (escape c) := by
  unfold escape
  split_ifs with quote backslash line carriage tab back form control
  · subst quote
    exact .letter (by decide)
  · subst backslash
    exact .letter (by decide)
  · subst line
    exact .letter (by decide)
  · subst carriage
    exact .letter (by decide)
  · subst tab
    exact .letter (by decide)
  · subst back
    exact .letter (by decide)
  · subst form
    exact .letter (by decide)
  · have high : isHighHalf c.toNat = false := by
      simp only [isHighHalf, Bool.and_eq_false_iff, decide_eq_false_iff_not]
      omega
    have low : isLowHalf c.toNat = false := by
      simp only [isLowHalf, Bool.and_eq_false_iff, decide_eq_false_iff_not]
      omega
    have spelled := CharText.unit (hexUnit?_control control) high low
    rwa [Char.ofNat_toNat] at spelled
  · exact .plain quote backslash (by omega)

theorem stringText_escape (chars : List Char) : StringText chars (chars.flatMap escape) := by
  induction chars with
  | nil => exact .nil
  | cons c chars ih => exact .cons (charText_escape c) ih

theorem valueText_quote (value : String) : ValueText (string value) (quote value) :=
  .string (stringText_escape value.toList)

theorem fieldText_quote {json : Json} {gap text : List Char} (key : String) (blank : Blank gap)
    (value : ValueText json text) : FieldText (key, json) (quote key ++ ':' :: (gap ++ text)) := by
  have field := FieldText.mk (stringText_escape key.toList) blank_nil blank value
  simpa [quote] using field

/-! ## On one line -/

mutual

theorem valueText_compact : ∀ (json : Json), json.WellFormed → ValueText json json.compact
  | null, _ => .null
  | bool true, _ => .boolTrue
  | bool false, _ => .boolFalse
  | number _, wellFormed => .number wellFormed
  | string value, _ => valueText_quote value
  | array [], _ => .emptyArray blank_nil
  | array (item :: rest), wellFormed =>
    .array blank_nil (itemsText_compact (item :: rest) (by simp) wellFormed)
  | object [], _ => .emptyObject blank_nil
  | object (field :: rest), wellFormed =>
    .object blank_nil (fieldsText_compact (field :: rest) (by simp) wellFormed)

theorem itemsText_compact : ∀ (items : List Json), items ≠ [] → WellFormedItems items →
    ItemsText items (compactItems items)
  | [item], _, wellFormed => by
    have last := ItemsText.last (valueText_compact item wellFormed.1) blank_nil
    rwa [List.append_nil] at last
  | item :: next :: rest, _, wellFormed => by
    have first := valueText_compact item wellFormed.1
    have more := itemsText_compact (next :: rest) (by simp) wellFormed.2
    exact .cons first blank_nil blank_nil more

theorem fieldsText_compact : ∀ (fields : List (String × Json)), fields ≠ [] →
    WellFormedFields fields → FieldsText fields (compactFields fields)
  | [(key, value)], _, wellFormed => by
    have first := fieldText_quote key blank_nil (valueText_compact value wellFormed.1)
    have last := FieldsText.last first blank_nil
    rwa [List.append_nil] at last
  | (key, value) :: next :: rest, _, wellFormed => by
    have first := fieldText_quote key blank_nil (valueText_compact value wellFormed.1)
    have more := fieldsText_compact (next :: rest) (by simp) wellFormed.2
    simpa [compactFields] using FieldsText.cons first blank_nil blank_nil more

end

/-! ## Over several lines -/

theorem blank_newline (level : Nat) : Blank (newline level) := by
  intro c mem
  simp only [newline, List.mem_cons, List.mem_replicate] at mem
  rcases mem with rfl | ⟨-, rfl⟩ <;> decide

mutual

theorem valueText_pretty (level : Nat) : ∀ (json : Json), json.WellFormed →
    ValueText json (json.pretty level)
  | null, _ => .null
  | bool true, _ => .boolTrue
  | bool false, _ => .boolFalse
  | number _, wellFormed => .number wellFormed
  | string value, _ => valueText_quote value
  | array [], _ => .emptyArray blank_nil
  | array (item :: rest), wellFormed => by
    obtain ⟨text, eq, body⟩ :=
      itemsText_pretty (level + 1) (blank_newline level) (item :: rest) (by simp) wellFormed
    rw [pretty, eq]
    simpa using ValueText.array (blank_newline (level + 1)) body
  | object [], _ => .emptyObject blank_nil
  | object (field :: rest), wellFormed => by
    obtain ⟨text, eq, body⟩ :=
      fieldsText_pretty (level + 1) (blank_newline level) (field :: rest) (by simp) wellFormed
    rw [pretty, eq]
    simpa using ValueText.object (blank_newline (level + 1)) body

/-- The new line in front of the first item belongs to the blanks behind the opening bracket. -/
theorem itemsText_pretty (level : Nat) {gap : List Char} (blank : Blank gap) :
    ∀ (items : List Json), items ≠ [] → WellFormedItems items →
      ∃ text, prettyItems level items = newline level ++ text ∧ ItemsText items (text ++ gap)
  | [item], _, wellFormed =>
    ⟨item.pretty level, rfl, .last (valueText_pretty level item wellFormed.1) blank⟩
  | item :: next :: rest, _, wellFormed => by
    obtain ⟨more, eq, body⟩ :=
      itemsText_pretty level blank (next :: rest) (by simp) wellFormed.2
    have first := valueText_pretty level item wellFormed.1
    refine ⟨item.pretty level ++ ',' :: (newline level ++ more), ?_, ?_⟩
    · simp [prettyItems, eq]
    · simpa using ItemsText.cons first blank_nil (blank_newline level) body

theorem fieldsText_pretty (level : Nat) {gap : List Char} (blank : Blank gap) :
    ∀ (fields : List (String × Json)), fields ≠ [] → WellFormedFields fields →
      ∃ text, prettyFields level fields = newline level ++ text ∧ FieldsText fields (text ++ gap)
  | [(key, value)], _, wellFormed => by
    have first := fieldText_quote key blank_space (valueText_pretty level value wellFormed.1)
    exact ⟨_, by simp [prettyFields], .last first blank⟩
  | (key, value) :: next :: rest, _, wellFormed => by
    obtain ⟨more, eq, body⟩ :=
      fieldsText_pretty level blank (next :: rest) (by simp) wellFormed.2
    have first := fieldText_quote key blank_space (valueText_pretty level value wellFormed.1)
    refine ⟨quote key ++ ':' :: ' ' :: (value.pretty level ++ ',' :: (newline level ++ more)),
      ?_, ?_⟩
    · simp [prettyFields, eq]
    · simpa using FieldsText.cons first blank_nil (blank_newline level) body

end

/-! ## Rendered texts -/

theorem valueText_render (layout : Layout) {json : Json} (wellFormed : json.WellFormed) :
    ValueText json (render layout json).toList := by
  cases layout with
  | pretty => simpa [render] using valueText_pretty 0 json wellFormed
  | compact => simpa [render] using valueText_compact json wellFormed

/-- Reading undoes writing. -/
theorem parse?_render (layout : Layout) {json : Json} (wellFormed : json.WellFormed) :
    parse? (render layout json) = some json := by
  have read := parse?_valueText blank_nil (valueText_render layout wellFormed) blank_nil
  simpa using read

end ClassCatalog.Json
