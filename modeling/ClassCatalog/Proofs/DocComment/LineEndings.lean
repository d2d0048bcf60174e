import ClassCatalog.Extraction.Signature
import ClassCatalog.Proofs.DocComment.Blocks

/-!
# Line endings of a comment

A comment whose lines end in a carriage return and a line feed says the same as the one with line
feeds alone (`parse_withLineFeeds`).  The carriage returns are dropped together with the line feeds
when the text is cut into lines; before that, neither the blanks around the comment nor its marks
depend on them (`body_lineFeeds`).
-/

namespace ClassCatalog

namespace Text

/-- The text with each carriage return and line feed replaced by the line feed alone. -/
def lineFeeds : List Char → List Char
  | [] => []
  | '\r' :: '\n' :: rest => '\n' :: lineFeeds rest
  | c :: rest => c :: lineFeeds rest

theorem lineFeeds_cons {c : Char} {rest : List Char}
    (unended : c = '\r' → rest.head? ≠ some '\n') :
    lineFeeds (c :: rest) = c :: lineFeeds rest := by
  rw [lineFeeds]
  rintro more rfl rfl
  exact unended rfl rfl

theorem lineFeeds_append {front back : List Char}
    (apart : front.getLast? = some '\r' → back.head? ≠ some '\n') :
    lineFeeds (front ++ back) = lineFeeds front ++ lineFeeds back := by
  induction front using lineFeeds.induct with
  | case1 => rfl
  | case2 rest ih =>
    have later : rest.getLast? = some '\r' → back.head? ≠ some '\n' := by
      intro last
      refine apart ?_
      rw [List.getLast?_cons_cons, List.getLast?_cons, last]
      rfl
    rw [List.cons_append, List.cons_append, lineFeeds, lineFeeds, ih later, List.cons_append]
  | case3 c rest unended ih =>
    have later : rest.getLast? = some '\r' → back.head? ≠ some '\n' := by
      intro last
      refine apart ?_
      rw [List.getLast?_cons, last]
      rfl
    have still : c = '\r' → (rest ++ back).head? ≠ some '\n' := by
      rintro rfl
      cases rest with
      | nil => exact apart rfl
      | cons d rest =>
        intro first
        obtain rfl := Option.some.inj first
        exact unended rest rfl rfl
    rw [List.cons_append, lineFeeds_cons still, lineFeeds.eq_3 c rest unended, ih later,
      List.cons_append]

theorem lineFeeds_eq_self {text : List Char} (plain : '\r' ∉ text) : lineFeeds text = text := by
  induction text with
  | nil => rfl
  | cons c text ih =>
    rw [List.mem_cons, not_or] at plain
    rw [lineFeeds_cons fun same => absurd same.symm plain.1, ih plain.2]

theorem mem_of_mem_lineFeeds {text : List Char} {c : Char} (h : c ∈ lineFeeds text) : c ∈ text := by
  induction text using lineFeeds.induct with
  | case1 => cases h
  | case2 rest ih =>
    rw [lineFeeds] at h
    rcases List.mem_cons.1 h with rfl | later
    · simp
    · exact List.mem_cons_of_mem _ (List.mem_cons_of_mem _ (ih later))
  | case3 d rest unended ih =>
    rw [lineFeeds.eq_3 d rest unended] at h
    rcases List.mem_cons.1 h with rfl | later
    · exact List.mem_cons_self
    · exact List.mem_cons_of_mem _ (ih later)

theorem getLast?_lineFeeds (text : List Char) : (lineFeeds text).getLast? = text.getLast? := by
  induction text using lineFeeds.induct with
  | case1 => rfl
  | case2 rest ih =>
    rw [lineFeeds, List.getLast?_cons_cons, List.getLast?_cons, List.getLast?_cons, ih]
  | case3 c rest unended ih =>
    rw [lineFeeds.eq_3 c rest unended, List.getLast?_cons, List.getLast?_cons, ih]

/-! ## Blanks and marks -/

theorem hasEnds_lineFeeds {text : List Char} (ends : HasEnds isBlank text) :
    HasEnds isBlank (lineFeeds text) := by
  refine ⟨?_, fun c last => ends.last c (getLast?_lineFeeds text ▸ last)⟩
  cases text with
  | nil => exact ends.first
  | cons c text =>
    have visible := ends.first c rfl
    rw [lineFeeds_cons fun same => by simp [same, isBlank] at visible]
    exact ends.first

theorem trim_lineFeeds (text : List Char) : trim (lineFeeds text) = lineFeeds (trim text) := by
  obtain ⟨front, back, parts, before, after⟩ := exists_trim text
  have ends := hasEnds_trim text
  have kept {part : List Char} (blank : ∀ c ∈ part, isBlank c = true) :
      ∀ c ∈ lineFeeds part, isBlank c = true := fun c h => blank c (mem_of_mem_lineFeeds h)
  rcases eq_or_ne (trim text) [] with none | some
  · have blank : ∀ c ∈ text, isBlank c = true := by
      rw [parts, none, List.append_nil]
      exact List.forall_mem_append.2 ⟨before, after⟩
    rw [none, trim_eq_nil (kept blank)]
    rfl
  · -- the outer parts end and begin at visible characters, so that no line ending is cut
    have opening : front.getLast? = Option.some '\r' → (trim text).head? ≠ Option.some '\n' :=
      fun _ first => absurd (ends.first '\n' first) (by decide)
    have closing : (front ++ trim text).getLast? = Option.some '\r' →
        back.head? ≠ Option.some '\n' := by
      intro last
      rw [List.getLast?_append_of_ne_nil front some] at last
      exact absurd (ends.last '\r' last) (by decide)
    conv_lhs => rw [parts, lineFeeds_append closing, lineFeeds_append opening]
    exact trim_eq_of_ends (hasEnds_lineFeeds ends) (kept before) (kept after)

section Marks

variable {mark : List Char} (visible : ∀ c ∈ mark, isBlank c = false)

include visible

theorem lineFeeds_mark : lineFeeds mark = mark :=
  lineFeeds_eq_self fun h => absurd (visible '\r' h) (by decide)

theorem append_eq_lineFeeds_iff {text more : List Char} :
    mark ++ more = lineFeeds text ↔ ∃ rest, mark ++ rest = text ∧ lineFeeds rest = more := by
  constructor
  · intro same
    induction mark generalizing text with
    | nil => exact ⟨text, rfl, same.symm⟩
    | cons c mark ih =>
      rw [List.forall_mem_cons] at visible
      cases text using lineFeeds.fun_cases with
      | case1 => cases same
      | case2 rest =>
        rw [lineFeeds] at same
        obtain rfl := (List.cons.inj same).1
        exact absurd visible.1 (by decide)
      | case3 d rest unended =>
        rw [lineFeeds.eq_3 d rest unended] at same
        obtain ⟨rfl, later⟩ := List.cons.inj same
        obtain ⟨more', rfl, left⟩ := ih visible.2 later
        exact ⟨more', rfl, left⟩
  · rintro ⟨rest, rfl, rfl⟩
    rw [lineFeeds_append, lineFeeds_mark visible]
    exact fun last => absurd (visible '\r' (List.mem_of_getLast? last)) (by decide)

theorem append_mark_eq_lineFeeds_iff {text more : List Char} :
    more ++ mark = lineFeeds text ↔ ∃ rest, rest ++ mark = text ∧ lineFeeds rest = more := by
  constructor
  · intro same
    induction mark using List.reverseRecOn generalizing text with
    | nil => exact ⟨text, by simp, by simpa using same.symm⟩
    | append_singleton mark c ih =>
      rw [List.forall_mem_append, List.forall_mem_singleton] at visible
      rw [← List.append_assoc] at same
      have last : text.getLast? = some c := by
        rw [← getLast?_lineFeeds, ← same, List.getLast?_concat]
      obtain ⟨front, rfl⟩ := List.getLast?_eq_some_iff.1 last
      have apart : front.getLast? = some '\r' → [c].head? ≠ some '\n' := fun _ first => by
        obtain rfl := Option.some.inj first
        exact absurd visible.2 (by decide)
      have alone : lineFeeds [c] = [c] := lineFeeds_cons (by simp)
      rw [lineFeeds_append apart, alone] at same
      obtain ⟨rest, rfl, left⟩ := ih visible.1 (List.append_cancel_right same)
      exact ⟨rest, (List.append_assoc ..).symm, left⟩
  · rintro ⟨rest, rfl, rfl⟩
    rw [lineFeeds_append, lineFeeds_mark visible]
    exact fun _ first => absurd (visible '\n' (List.mem_of_head? first)) (by decide)

theorem isPrefixOf?_lineFeeds (text : List Char) :
    mark.isPrefixOf? (lineFeeds text) = (mark.isPrefixOf? text).map lineFeeds := by
  ext more
  rw [List.isPrefixOf?_eq_some_iff_append_eq, append_eq_lineFeeds_iff visible,
    Option.map_eq_some_iff]
  simp only [List.isPrefixOf?_eq_some_iff_append_eq]

theorem isSuffixOf?_lineFeeds (text : List Char) :
    mark.isSuffixOf? (lineFeeds text) = (mark.isSuffixOf? text).map lineFeeds := by
  ext more
  rw [List.isSuffixOf?_eq_some_iff_append_eq, append_mark_eq_lineFeeds_iff visible,
    Option.map_eq_some_iff]
  simp only [List.isSuffixOf?_eq_some_iff_append_eq]

theorem lineFeeds_eq_mark_iff {text : List Char} : lineFeeds text = mark ↔ text = mark := by
  constructor
  · intro same
    obtain ⟨rest, rfl, left⟩ :=
      (append_eq_lineFeeds_iff visible).1 ((List.append_nil mark).trans same.symm)
    have nothing : rest.getLast? = none := by
      rw [← getLast?_lineFeeds, left]
      rfl
    rw [List.getLast?_eq_none_iff.1 nothing, List.append_nil]
  · rintro rfl
    exact lineFeeds_mark visible

end Marks

/-! ## Lines -/

theorem lineFeeds_eq_newline_cons {text more : List Char} (h : lineFeeds text = '\n' :: more) :
    ∃ rest, text = '\n' :: rest ∨ text = '\r' :: '\n' :: rest := by
  cases text using lineFeeds.fun_cases with
  | case1 => cases h
  | case2 rest => exact ⟨rest, .inr rfl⟩
  | case3 c rest unended =>
    rw [lineFeeds.eq_3 c rest unended] at h
    exact ⟨rest, .inl (by rw [(List.cons.inj h).1])⟩

/-- Cutting a text into lines drops the carriage returns in front of line feeds, as long as these
are single ones. -/
theorem lines_lineFeeds {text : List Char}
    (single : ∀ front back, text ≠ front ++ '\r' :: '\r' :: '\n' :: back) :
    lines (lineFeeds text) = lines text := by
  have tail {c : Char} {rest : List Char}
      (single : ∀ front back, c :: rest ≠ front ++ '\r' :: '\r' :: '\n' :: back) :
      ∀ front back, rest ≠ front ++ '\r' :: '\r' :: '\n' :: back :=
    fun front back same => single (c :: front) back (by rw [same, List.cons_append])
  induction text using lineFeeds.induct with
  | case1 => rfl
  | case2 rest ih => rw [lineFeeds, lines, lines.eq_3, ih (tail (tail single))]
  | case3 c rest unended ih =>
    rw [lineFeeds.eq_3 c rest unended]
    rcases eq_or_ne c '\n' with rfl | inside
    · rw [lines, lines, ih (tail single)]
    · have still : ∀ more, c = '\r' → lineFeeds rest = '\n' :: more → False := by
        rintro more rfl same
        obtain ⟨rest', rfl | rfl⟩ := lineFeeds_eq_newline_cons same
        · exact unended rest' rfl rfl
        · exact single [] rest' rfl
      rw [lines.eq_4 c _ inside still, lines.eq_4 c rest inside unended, ih (tail single)]

end Text

open Text

namespace DocComment

theorem body_lineFeeds (raw : List Char) : body (lineFeeds raw) = lineFeeds (body raw) := by
  have empty := @lineFeeds_eq_mark_iff ['/', '*', '*', '/'] (by simp [isBlank]) (trim raw)
  have opening := @isPrefixOf?_lineFeeds ['/', '*', '*'] (by simp [isBlank])
  have closing := @isSuffixOf?_lineFeeds ['*', '/'] (by simp [isBlank])
  rw [body_eq, body_eq, trim_lineFeeds]
  simp only [empty, opening, closing, Option.getD_map]
  split <;> rfl

theorem exists_around_body (raw : List Char) : ∃ front back, raw = front ++ body raw ++ back := by
  obtain ⟨front, back, parts, -, -⟩ := exists_trim raw
  have opened (mark text : List Char) :
      ∃ front, text = front ++ (mark.isPrefixOf? text).getD text := by
    cases found : mark.isPrefixOf? text with
    | none => exact ⟨[], rfl⟩
    | some rest => exact ⟨mark, (List.isPrefixOf?_eq_some_iff_append_eq.1 found).symm⟩
  have closed (mark text : List Char) :
      ∃ back, text = (mark.isSuffixOf? text).getD text ++ back := by
    cases found : mark.isSuffixOf? text with
    | none => exact ⟨[], (List.append_nil text).symm⟩
    | some rest => exact ⟨mark, (List.isSuffixOf?_eq_some_iff_append_eq.1 found).symm⟩
  rw [body_eq]
  split
  · exact ⟨raw, [], by simp⟩
  · obtain ⟨before, first⟩ := opened ['/', '*', '*'] (trim raw)
    obtain ⟨after, second⟩ :=
      closed ['*', '/'] ((['/', '*', '*'].isPrefixOf? (trim raw)).getD (trim raw))
    refine ⟨front ++ before, after ++ back, ?_⟩
    conv_lhs => rw [parts, first, second]
    simp

/-- The text with line feeds as its line endings. -/
def withLineFeeds (raw : String) : String :=
  String.ofList (lineFeeds raw.toList)

/-- Line endings do not change documentation: where carriage returns stand only in front of line
feeds, they can be left out. -/
theorem parse_withLineFeeds {raw : String}
    (paired : ∀ i, raw.toList[i]? = some '\r' → raw.toList[i + 1]? = some '\n') :
    parse (withLineFeeds raw) = parse raw ∧
    descriptionOf (some (withLineFeeds raw)) = descriptionOf (some raw) ∧
    ∀ head : MethodHead, MethodDoc.ofHead { head with doc := some (withLineFeeds raw) } =
      MethodDoc.ofHead { head with doc := some raw } := by
  have single : ∀ front back, body raw.toList ≠ front ++ '\r' :: '\r' :: '\n' :: back := by
    intro front back same
    obtain ⟨before, after, parts⟩ := exists_around_body raw.toList
    have whole : raw.toList = before ++ front ++ '\r' :: '\r' :: '\n' :: (back ++ after) := by
      rw [parts, same]
      simp
    have followed := paired (before ++ front).length (by rw [whole]; simp)
    rw [whole, List.getElem?_append_right (Nat.le_succ _)] at followed
    simp at followed
  have same : parse (withLineFeeds raw) = parse raw := by
    rw [parse, parse, withLineFeeds, String.toList_ofList, body_lineFeeds, cleanLines, cleanLines,
      lines_lineFeeds single]
  refine ⟨same, ?_, fun head => ?_⟩
  · simp only [descriptionOf, Option.bind_some, same]
  · simp only [MethodDoc.ofHead, Option.map_some, same]

/-- A comment with carriage returns behind its marks, in an empty line and around a tag. -/
def returns : String := "\r\n/**\r\n * one\r\n *\r\n * two\r\n * @type\r\n *  int\r\n */\r\n"

theorem parse_returns :
    withLineFeeds returns = "\n/**\n * one\n *\n * two\n * @type\n *  int\n */\n" ∧
    parse returns = { text := "one\n\ntwo", tags := [⟨"type", "int"⟩] } ∧
    parse (withLineFeeds returns) = parse returns := by
  have inside : ∀ i < returns.toList.length, returns.toList[i]? = some '\r' →
      returns.toList[i + 1]? = some '\n' := by
    decide
  have paired : ∀ i, returns.toList[i]? = some '\r' → returns.toList[i + 1]? = some '\n' :=
    fun i found => inside i (List.getElem?_eq_some_iff.1 found).1 found
  exact ⟨by decide, by decide, (parse_withLineFeeds paired).1⟩

end DocComment

end ClassCatalog
