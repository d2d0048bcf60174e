import ClassCatalog.Json.Reader

/-!
# Texts of JSON values

`ValueText json text` is the grammar of JSON: the text writes the value, with blanks wherever they
are allowed and with any spelling of the characters of a string.  The reader accepts each such text
and gives the value back (`parse?_valueText`), so a text writes at most one value.
-/

namespace ClassCatalog.Json

/-- A text of blanks. -/
def Blank (text : List Char) : Prop :=
  ∀ c ∈ text, isSpace c = true

/-- A spelling of one character inside a string. -/
inductive CharText : Char → List Char → Prop
  | plain {c : Char} (quote : c ≠ '"') (backslash : c ≠ '\\') (printable : 0x20 ≤ c.toNat) :
    CharText c [c]
  | letter {c l : Char} (escaped : unescape? l = some c) : CharText c ['\\', l]
  | unit {h₁ h₂ h₃ h₄ : Char} {n : Nat} (digits : hexUnit? h₁ h₂ h₃ h₄ = some n)
    (high : isHighHalf n = false) (low : isLowHalf n = false) :
    CharText (Char.ofNat n) ['\\', 'u', h₁, h₂, h₃, h₄]
  | pair {h₁ h₂ h₃ h₄ l₁ l₂ l₃ l₄ : Char} {m n : Nat} (first : hexUnit? h₁ h₂ h₃ h₄ = some m)
    (second : hexUnit? l₁ l₂ l₃ l₄ = some n) (high : isHighHalf m = true)
    (low : isLowHalf n = true) :
    CharText (ofHalves m n) ['\\', 'u', h₁, h₂, h₃, h₄, '\\', 'u', l₁, l₂, l₃, l₄]

/-- What stands between the quotes of a string. -/
inductive StringText : List Char → List Char → Prop
  | nil : StringText [] []
  | cons {c : Char} {chars text more : List Char} (first : CharText c text)
    (rest : StringText chars more) : StringText (c :: chars) (text ++ more)

mutual

/-- A text that writes a value. -/
inductive ValueText : Json → List Char → Prop
  | null : ValueText null ['n', 'u', 'l', 'l']
  | boolTrue : ValueText (bool true) ['t', 'r', 'u', 'e']
  | boolFalse : ValueText (bool false) ['f', 'a', 'l', 's', 'e']
  | number {literal : String} (wellFormed : isNumber literal.toList = true) :
    ValueText (number literal) literal.toList
  | string {value : String} {text : List Char} (body : StringText value.toList text) :
    ValueText (string value) ('"' :: (text ++ ['"']))
  | emptyArray {gap : List Char} (blank : Blank gap) :
    ValueText (array []) ('[' :: (gap ++ [']']))
  | array {items : List Json} {gap text : List Char} (blank : Blank gap)
    (body : ItemsText items text) : ValueText (array items) ('[' :: (gap ++ (text ++ [']'])))
  | emptyObject {gap : List Char} (blank : Blank gap) :
    ValueText (object []) ('\x7b' :: (gap ++ ['\x7d']))
  | object {fields : List (String × Json)} {gap text : List Char} (blank : Blank gap)
    (body : FieldsText fields text) :
    ValueText (object fields) ('\x7b' :: (gap ++ (text ++ ['\x7d'])))

/-- One item or more, with commas between them. -/
inductive ItemsText : List Json → List Char → Prop
  | last {item : Json} {text gap : List Char} (value : ValueText item text) (blank : Blank gap) :
    ItemsText [item] (text ++ gap)
  | cons {item : Json} {rest : List Json} {text before after more : List Char}
    (value : ValueText item text) (blank : Blank before) (blank' : Blank after)
    (body : ItemsText rest more) :
    ItemsText (item :: rest) (text ++ (before ++ ',' :: (after ++ more)))

/-- One field. -/
inductive FieldText : String × Json → List Char → Prop
  | mk {key : String} {json : Json} {name before after text : List Char}
    (spelled : StringText key.toList name) (blank : Blank before) (blank' : Blank after)
    (value : ValueText json text) :
    FieldText (key, json) ('"' :: (name ++ '"' :: (before ++ ':' :: (after ++ text))))

/-- One field or more, with commas between them. -/
inductive FieldsText : List (String × Json) → List Char → Prop
  | last {field : String × Json} {text gap : List Char} (first : FieldText field text)
    (blank : Blank gap) : FieldsText [field] (text ++ gap)
  | cons {field : String × Json} {rest : List (String × Json)} {text before after more : List Char}
    (first : FieldText field text) (blank : Blank before) (blank' : Blank after)
    (body : FieldsText rest more) :
    FieldsText (field :: rest) (text ++ (before ++ ',' :: (after ++ more)))

end

/-! ## Blanks -/

theorem blank_nil : Blank [] := by
  simp [Blank]

theorem blank_space : Blank [' '] := by
  simp [Blank, isSpace]

theorem skipSpaces_append {gap : List Char} (blank : Blank gap) (text : List Char) :
    skipSpaces (gap ++ text) = skipSpaces text :=
  List.dropWhile_append_of_pos blank

theorem skipSpaces_cons {c : Char} (solid : isSpace c = false) (text : List Char) :
    skipSpaces (c :: text) = c :: text :=
  List.dropWhile_cons_of_neg (by simp [solid])

theorem skipSpaces_gap {gap : List Char} {c : Char} (blank : Blank gap) (solid : isSpace c = false)
    (text : List Char) : skipSpaces (gap ++ c :: text) = c :: text := by
  rw [skipSpaces_append blank, skipSpaces_cons solid]

/-! ## Strings -/

theorem readString_charText {c : Char} {text : List Char} (spelled : CharText c text)
    (taken rest : List Char) :
    readString taken none (text ++ rest) = readString (c :: taken) none rest := by
  cases spelled with
  | plain quote backslash printable =>
    have visible : ¬ c.toNat < 0x20 := by omega
    simp [readString, backslash, visible]
  | @letter _ l escaped =>
    have other : l ≠ 'u' := by
      rintro rfl
      cases escaped
    simp [readString, other, escaped]
  | unit digits high low => simp [readString, digits, high, low]
  | pair first second high low => simp [readString, first, second, high, low]

theorem readString_stringText {chars text : List Char} (spelled : StringText chars text) :
    ∀ taken rest,
      readString taken none (text ++ '"' :: rest) = some (taken.reverse ++ chars, rest) := by
  induction spelled with
  | nil =>
    intro taken rest
    simp [readString]
  | cons first _ ih =>
    intro taken rest
    rw [List.append_assoc, readString_charText first, ih]
    simp

/-! ## Numbers -/

theorem isNumberChar_of_dropWhile {text : List Char}
    (rest : ∀ c ∈ text.dropWhile Char.isDigit, isNumberChar c = true) :
    ∀ c ∈ text, isNumberChar c = true := by
  intro c mem
  rw [← List.takeWhile_append_dropWhile (p := Char.isDigit) (l := text), List.mem_append] at mem
  rcases mem with digit | mem
  · simp [isNumberChar, List.all_eq_true.1 List.all_takeWhile c digit]
  · exact rest c mem

theorem isNumberChar_of_isDigits {text : List Char} (digits : isDigits text = true) :
    ∀ c ∈ text, isNumberChar c = true := by
  rw [isDigits, Bool.and_eq_true, List.all_eq_true] at digits
  intro c mem
  simp [isNumberChar, digits.2 c mem]

theorem isNumberChar_of_isExponent {text : List Char} (exponent : isExponent text = true) :
    ∀ c ∈ text, isNumberChar c = true := by
  unfold isExponent at exponent
  split at exponent
  · simp
  · rename_i c rest
    obtain ⟨mark, digits⟩ := Bool.and_eq_true_iff.1 exponent
    have head : isNumberChar c = true := by
      rcases Bool.or_eq_true_iff.1 mark with h | h <;> simp [isNumberChar, of_decide_eq_true h]
    refine List.forall_mem_cons.2 ⟨head, ?_⟩
    split at digits
    · exact List.forall_mem_cons.2 ⟨by decide, isNumberChar_of_isDigits digits⟩
    · exact List.forall_mem_cons.2 ⟨by decide, isNumberChar_of_isDigits digits⟩
    · exact isNumberChar_of_isDigits digits

theorem isNumberChar_of_isFraction {text : List Char} (fraction : isFraction text = true) :
    ∀ c ∈ text, isNumberChar c = true := by
  unfold isFraction at fraction
  split at fraction
  · have exponent := (Bool.and_eq_true_iff.1 fraction).2
    refine List.forall_mem_cons.2 ⟨by decide, ?_⟩
    exact isNumberChar_of_dropWhile (isNumberChar_of_isExponent exponent)
  · exact isNumberChar_of_isExponent fraction

theorem isNumberChar_of_isMagnitude {text : List Char} (magnitude : isMagnitude text = true) :
    ∀ c ∈ text, isNumberChar c = true := by
  unfold isMagnitude at magnitude
  split at magnitude
  · exact List.forall_mem_cons.2 ⟨by decide, isNumberChar_of_isFraction magnitude⟩
  · have fraction := (Bool.and_eq_true_iff.1 magnitude).2
    exact isNumberChar_of_dropWhile (isNumberChar_of_isFraction fraction)

theorem isNumberChar_of_isNumber {text : List Char} (wellFormed : isNumber text = true) :
    ∀ c ∈ text, isNumberChar c = true := by
  unfold isNumber at wellFormed
  split at wellFormed
  · exact List.forall_mem_cons.2 ⟨by decide, isNumberChar_of_isMagnitude wellFormed⟩
  · exact isNumberChar_of_isMagnitude wellFormed

theorem isNumber.exists_cons {text : List Char} (wellFormed : isNumber text = true) :
    ∃ c rest, text = c :: rest ∧ isNumberChar c = true := by
  cases text with
  | nil => cases wellFormed
  | cons c rest => exact ⟨c, rest, rfl, isNumberChar_of_isNumber wellFormed c (by simp)⟩

theorem isNumberChar_of_isSpace {c : Char} (space : isSpace c = true) : isNumberChar c = false := by
  simp only [isSpace, Bool.or_eq_true, decide_eq_true_eq] at space
  obtain ((rfl | rfl) | rfl) | rfl := space <;> decide

/-- A text that does not go on with a character of a number. -/
def EndsNumber (text : List Char) : Prop :=
  ∀ c ∈ text.head?, isNumberChar c = false

theorem endsNumber_blank {gap : List Char} (blank : Blank gap) : EndsNumber gap := by
  cases gap with
  | nil => simp [EndsNumber]
  | cons space gap => simpa [EndsNumber] using isNumberChar_of_isSpace (blank space (by simp))

theorem endsNumber_gap {gap : List Char} {c : Char} (blank : Blank gap)
    (other : isNumberChar c = false) (text : List Char) : EndsNumber (gap ++ c :: text) := by
  cases gap with
  | nil => simpa [EndsNumber] using other
  | cons space gap => simpa [EndsNumber] using isNumberChar_of_isSpace (blank space (by simp))

theorem readNumber_append {literal : String} {rest : List Char}
    (wellFormed : isNumber literal.toList = true) (ends : EndsNumber rest) :
    readNumber (literal.toList ++ rest) = some (number literal, rest) := by
  have chars := isNumberChar_of_isNumber wellFormed
  have none : rest.takeWhile isNumberChar = [] ∧ rest.dropWhile isNumberChar = rest := by
    cases rest with
    | nil => exact ⟨rfl, rfl⟩
    | cons c rest => simp [ends c rfl]
  simp [readNumber, List.takeWhile_append_of_pos chars, List.dropWhile_append_of_pos chars, none,
    wellFormed]

theorem readValue_number {literal : String} {rest : List Char} (fuel : Nat)
    (wellFormed : isNumber literal.toList = true) (ends : EndsNumber rest) :
    readValue (fuel + 1) (literal.toList ++ rest) = some (number literal, rest) := by
  rw [← readNumber_append wellFormed ends]
  obtain ⟨c, more, eq, digit⟩ := isNumber.exists_cons wellFormed
  have other : c ≠ 'n' ∧ c ≠ 't' ∧ c ≠ 'f' ∧ c ≠ '"' ∧ c ≠ '[' ∧ c ≠ '\x7b' := by
    refine ⟨?_, ?_, ?_, ?_, ?_, ?_⟩ <;> rintro rfl <;> cases digit
  rw [eq, List.cons_append]
  simp [readValue, other]

/-! ## Values -/

theorem ValueText.exists_cons {json : Json} {text : List Char} (value : ValueText json text) :
    ∃ c rest, text = c :: rest ∧ isSpace c = false ∧ c ≠ ']' := by
  cases value with
  | number wellFormed =>
    obtain ⟨c, rest, eq, digit⟩ := isNumber.exists_cons wellFormed
    refine ⟨c, rest, eq, ?_, ?_⟩
    · rw [← Bool.not_eq_true]
      intro space
      rw [isNumberChar_of_isSpace space] at digit
      cases digit
    · rintro rfl
      cases digit
  | _ => exact ⟨_, _, rfl, by decide, by decide⟩

theorem ItemsText.exists_cons {items : List Json} {text : List Char} (body : ItemsText items text) :
    ∃ c rest, text = c :: rest ∧ isSpace c = false ∧ c ≠ ']' := by
  cases body with
  | last value _ =>
    obtain ⟨c, rest, rfl, first⟩ := value.exists_cons
    exact ⟨c, _, rfl, first⟩
  | cons value _ _ _ =>
    obtain ⟨c, rest, rfl, first⟩ := value.exists_cons
    exact ⟨c, _, rfl, first⟩

theorem FieldsText.exists_cons {fields : List (String × Json)} {text : List Char}
    (body : FieldsText fields text) : ∃ rest, text = '"' :: rest := by
  cases body with
  | last first _ =>
    cases first
    exact ⟨_, rfl⟩
  | cons first _ _ _ =>
    cases first
    exact ⟨_, rfl⟩

section Steps

variable {fuel : Nat} {gap before after text more rest : List Char}

theorem ValueText.skipSpaces_append {json : Json} (value : ValueText json text) (blank : Blank gap)
    (rest : List Char) : skipSpaces (gap ++ (text ++ rest)) = text ++ rest := by
  obtain ⟨c, text, rfl, solid, -⟩ := value.exists_cons
  exact skipSpaces_gap blank solid (text ++ rest)

theorem ItemsText.skipSpaces_append {items : List Json} (body : ItemsText items text)
    (blank : Blank gap) (rest : List Char) :
    skipSpaces (gap ++ (text ++ rest)) = text ++ rest := by
  obtain ⟨c, text, rfl, solid, -⟩ := body.exists_cons
  exact skipSpaces_gap blank solid (text ++ rest)

theorem FieldsText.skipSpaces_append {fields : List (String × Json)} (body : FieldsText fields text)
    (blank : Blank gap) (rest : List Char) :
    skipSpaces (gap ++ (text ++ rest)) = text ++ rest := by
  obtain ⟨text, rfl⟩ := body.exists_cons
  exact skipSpaces_gap blank (by decide) (text ++ rest)

theorem readValue_array {items : List Json} (blank : Blank gap) (body : ItemsText items text) :
    readValue (fuel + 1) ('[' :: (gap ++ (text ++ rest))) =
      (readItems fuel (text ++ rest) []).map fun (items, rest) => (array items, rest) := by
  obtain ⟨c, text, rfl, solid, opens⟩ := body.exists_cons
  simp [readValue, skipSpaces_gap blank solid, opens]

theorem readValue_object {fields : List (String × Json)} (blank : Blank gap)
    (body : FieldsText fields text) :
    readValue (fuel + 1) ('\x7b' :: (gap ++ (text ++ rest))) =
      (readFields fuel (text ++ rest) []).map fun (fields, rest) => (object fields, rest) := by
  obtain ⟨text, rfl⟩ := body.exists_cons
  simp [readValue, skipSpaces_gap blank (show isSpace '"' = false by decide)]

theorem readItems_last {item : Json} {taken : List Json} (blank : Blank gap)
    (first : readValue fuel text = some (item, gap ++ ']' :: rest)) :
    readItems (fuel + 1) text taken = some (taken.reverse ++ [item], rest) := by
  have closed := skipSpaces_gap blank (show isSpace ']' = false by decide) rest
  simp [readItems, first, closed]

theorem readItems_cons {item : Json} {items taken : List Json} (blank : Blank before)
    (blank' : Blank after) (body : ItemsText items more)
    (first : readValue fuel text = some (item, before ++ ',' :: (after ++ (more ++ rest)))) :
    readItems (fuel + 1) text taken = readItems fuel (more ++ rest) (item :: taken) := by
  have comma := skipSpaces_gap blank (show isSpace ',' = false by decide)
    (after ++ (more ++ rest))
  have next := body.skipSpaces_append blank' rest
  simp [readItems, first, comma, next]

/-- A field is read up to what stands behind its value: a comma with more fields, or the end. -/
theorem readFields_field {key : String} {name : List Char} {json : Json}
    {taken : List (String × Json)} (spelled : StringText key.toList name) (blank : Blank before)
    (blank' : Blank after) (value : ValueText json text)
    (read : readValue fuel (text ++ rest) = some (json, rest)) :
    let field := '"' :: (name ++ '"' :: (before ++ ':' :: (after ++ (text ++ rest))))
    (∀ more, skipSpaces rest = ',' :: more →
      readFields (fuel + 1) field taken =
        readFields fuel (skipSpaces more) ((key, json) :: taken)) ∧
    ∀ more, skipSpaces rest = '\x7d' :: more →
      readFields (fuel + 1) field taken = some (taken.reverse ++ [(key, json)], more) := by
  have colon := skipSpaces_gap blank (show isSpace ':' = false by decide)
    (after ++ (text ++ rest))
  have start := value.skipSpaces_append blank' rest
  have key' := readString_stringText spelled [] (before ++ ':' :: (after ++ (text ++ rest)))
  constructor
  · intro more comma
    simp [readFields, key', colon, start, read, comma]
  · intro more closed
    simp [readFields, key', colon, start, read, closed]

end Steps

mutual

-- The induction is on the fuel, which goes down with each call of the reader.  A text is longer
-- than each of its parts, so that its length is enough.
theorem readValue_valueText {json : Json} {text rest : List Char} : ∀ (fuel : Nat),
    ValueText json text → text.length ≤ fuel → EndsNumber rest →
      readValue fuel (text ++ rest) = some (json, rest)
  | 0, value, enough, _ => by
    obtain ⟨c, more, rfl, -⟩ := value.exists_cons
    simp at enough
  | fuel + 1, value, enough, ends => by
    cases value with
    | null => simp [readValue]
    | boolTrue => simp [readValue]
    | boolFalse => simp [readValue]
    | number wellFormed => exact readValue_number fuel wellFormed ends
    | string body => simp [readValue, readString_stringText body]
    | emptyArray blank =>
      have closed := skipSpaces_gap blank (show isSpace ']' = false by decide) rest
      simp [readValue, closed]
    | @array items gap text blank body =>
      have enough' : text.length < fuel := by
        simp only [List.length_cons, List.length_append, List.length_nil] at enough
        omega
      simp only [List.cons_append, List.append_assoc]
      rw [readValue_array blank body, List.nil_append, readItems_itemsText fuel body enough']
      rfl
    | emptyObject blank =>
      have closed := skipSpaces_gap blank (show isSpace '\x7d' = false by decide) rest
      simp [readValue, closed]
    | @object fields gap text blank body =>
      have enough' : text.length < fuel := by
        simp only [List.length_cons, List.length_append, List.length_nil] at enough
        omega
      simp only [List.cons_append, List.append_assoc]
      rw [readValue_object blank body, List.nil_append, readFields_fieldsText fuel body enough']
      rfl

theorem readItems_itemsText {items taken : List Json} {text rest : List Char} : ∀ (fuel : Nat),
    ItemsText items text → text.length < fuel →
      readItems fuel (text ++ ']' :: rest) taken = some (taken.reverse ++ items, rest)
  | fuel + 1, body, enough => by
    cases body with
    | last value blank =>
      have ends := endsNumber_gap blank (show isNumberChar ']' = false by decide) rest
      simp only [List.length_append] at enough
      have read := readValue_valueText fuel value (by omega) ends
      rw [List.append_assoc, readItems_last blank read]
    | @cons item items text before after more value blank blank' body =>
      have ends := endsNumber_gap blank (show isNumberChar ',' = false by decide)
        (after ++ (more ++ ']' :: rest))
      simp only [List.length_cons, List.length_append] at enough
      have read := readValue_valueText fuel value (by omega) ends
      simp only [List.cons_append, List.append_assoc]
      rw [readItems_cons blank blank' body read, readItems_itemsText fuel body (by omega)]
      simp

theorem readFields_fieldsText {fields taken : List (String × Json)} {text rest : List Char} :
    ∀ (fuel : Nat), FieldsText fields text → text.length < fuel →
      readFields fuel (text ++ '\x7d' :: rest) taken = some (taken.reverse ++ fields, rest)
  | fuel + 1, body, enough => by
    cases body with
    | last first blank =>
      cases first with
      | mk spelled colon colon' value =>
        have ends := endsNumber_gap blank (show isNumberChar '\x7d' = false by decide) rest
        simp only [List.length_cons, List.length_append] at enough
        have read := readValue_valueText fuel value (by omega) ends
        have closed := skipSpaces_gap blank (show isSpace '\x7d' = false by decide) rest
        simp only [List.cons_append, List.append_assoc]
        exact (readFields_field spelled colon colon' value read).2 rest closed
    | @cons field fields text before after more first blank blank' body =>
      cases first with
      | mk spelled colon colon' value =>
        have ends := endsNumber_gap blank (show isNumberChar ',' = false by decide)
          (after ++ (more ++ '\x7d' :: rest))
        simp only [List.length_cons, List.length_append] at enough
        have read := readValue_valueText fuel value (by omega) ends
        have comma := skipSpaces_gap blank (show isSpace ',' = false by decide)
          (after ++ (more ++ '\x7d' :: rest))
        have next := body.skipSpaces_append blank' ('\x7d' :: rest)
        simp only [List.cons_append, List.append_assoc]
        rw [(readFields_field spelled colon colon' value read).1 _ comma, next,
          readFields_fieldsText fuel body (by omega)]
        simp

end

/-! ## Whole texts -/

/-- Each text of a value is read as this value, also with blanks around it. -/
theorem parse?_valueText {json : Json} {before text after : List Char} (blank : Blank before)
    (value : ValueText json text) (blank' : Blank after) :
    parse? (String.ofList (before ++ (text ++ after))) = some json := by
  have start := value.skipSpaces_append blank after
  have enough : text.length ≤ (before ++ (text ++ after)).length + 1 := by
    simp only [List.length_append]
    omega
  have read := readValue_valueText _ value enough (endsNumber_blank blank')
  have done : skipSpaces after = [] := by
    rw [← List.append_nil after, skipSpaces_append blank']
    rfl
  simp only [parse?, String.toList_ofList, String.length_ofList, start, read, done]
  rfl

theorem ValueText.unique {json json' : Json} {text : List Char} (value : ValueText json text)
    (value' : ValueText json' text) : json = json' := by
  have read := parse?_valueText blank_nil value blank_nil
  rw [parse?_valueText blank_nil value' blank_nil] at read
  exact (Option.some.inj read).symm

end ClassCatalog.Json
