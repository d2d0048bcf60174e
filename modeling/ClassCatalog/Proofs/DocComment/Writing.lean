import ClassCatalog.Proofs.DocComment.Blocks

/-!
# Written comments

A comment is written with its description on top and its tags below, each line behind a decoration.
Whatever the decorations are, reading the text gives the description and the tags back
(`parse_write`), provided that the lines are such as a comment can hold (`IsWritable`).
-/

namespace ClassCatalog

open Text

/-- The lines in which a tag is written. -/
def BlockTag.writtenLines (tag : BlockTag) : List (List Char) :=
  (tag.content.toList.splitOn '\n').modifyHead fun first => '@' :: tag.name.toList ++ ' ' :: first

namespace DocComment

/-- A space or a tab. -/
def Margin : Type := { c : Char // c = ' ' ∨ c = '\t' }

/-- What stands in front of a line: spaces and tabs, a `*`, and one space or tab. -/
structure Decoration where
  indent : List Margin
  gap : Margin

/-- A line behind its decoration. -/
def Decoration.decorate (decoration : Decoration) (line : List Char) : List Char :=
  decoration.indent.map Subtype.val ++ '*' :: decoration.gap.val :: line

/-- Lines behind decorations of their own. -/
def decorateAll (decorations : Nat → Decoration) (ls : List (List Char)) : List (List Char) :=
  ls.mapIdx fun i line => (decorations i).decorate line

/-- The lines in which a comment is written. -/
def writtenLines (doc : DocComment) : List (List Char) :=
  (if doc.text = "" then [] else doc.text.toList.splitOn '\n') ++
    doc.tags.flatMap BlockTag.writtenLines

/-- The text of a comment: the opening mark, the lines behind their decorations, and the closing
mark, each on a line of its own. -/
def write (doc : DocComment) (decorations : Nat → Decoration) (closing : List Margin) : String :=
  String.ofList <|
    ['/', '*', '*', '\n'] ++
      ((decorateAll decorations doc.writtenLines).flatMap (· ++ ['\n']) ++
        closing.map Subtype.val) ++
      ['*', '/']

/-- A line that is not changed by cleaning it: it is empty if it is blank, and it does not end in a
character that belongs to a line ending. -/
structure IsPlainLine (line : List Char) : Prop where
  blank : (∀ c ∈ line, isBlank c = true) → line = []
  ending : line.getLast? ≠ some '\r'

instance (line : List Char) : Decidable (IsPlainLine line) :=
  decidable_of_iff ((line.all isBlank = true → line = []) ∧ line.getLast? ≠ some '\r')
    ⟨fun ⟨blank, ending⟩ => ⟨by simpa using blank, ending⟩,
      fun ⟨blank, ending⟩ => ⟨by simpa using blank, ending⟩⟩

/-- A comment that can be written: its lines are plain, and only the first lines of its tags open
tags. -/
structure IsWritable (doc : DocComment) : Prop extends doc.IsProper where
  textLines : ∀ line ∈ doc.text.toList.splitOn '\n', IsPlainLine line
  contentLines : ∀ tag ∈ doc.tags, ∀ line ∈ tag.content.toList.splitOn '\n', IsPlainLine line
  furtherLines : ∀ tag ∈ doc.tags, ∀ line ∈ (tag.content.toList.splitOn '\n').tail,
    isTagLine line = false

/-! ## The body of a written comment -/

theorem body_between (text : List Char) :
    body (['/', '*', '*', '\n'] ++ text ++ ['*', '/']) = '\n' :: text := by
  have ends : HasEnds isBlank (['/', '*', '*', '\n'] ++ text ++ ['*', '/']) := by
    constructor
    · rintro c ⟨⟩
      decide
    · intro c last
      rw [List.getLast?_append] at last
      obtain rfl := Option.some.inj last
      decide
  have opened : ['/', '*', '*'].isPrefixOf? (['/', '*', '*', '\n'] ++ text ++ ['*', '/']) =
      some ('\n' :: text ++ ['*', '/']) :=
    List.isPrefixOf?_eq_some_iff_append_eq.2 rfl
  have closed : ['*', '/'].isSuffixOf? ('\n' :: text ++ ['*', '/']) = some ('\n' :: text) :=
    List.isSuffixOf?_eq_some_iff_append_eq.2 rfl
  rw [body_eq, trim_eq_self ends, opened, Option.getD_some, closed, Option.getD_some]
  exact if_neg (by simp)

/-! ## Cleaning decorated lines -/

theorem Margin.ends_no_line (c : Margin) : c.val ≠ '\n' ∧ c.val ≠ '\r' := by
  obtain ⟨c, rfl | rfl⟩ := c <;> decide

theorem isBlank_of_mem_margins {margins : List Margin} {c : Char}
    (h : c ∈ margins.map Subtype.val) : isBlank c = true := by
  obtain ⟨⟨c, rfl | rfl⟩, -, rfl⟩ := List.mem_map.1 h <;> decide

theorem cleanLine_of_blank {line : List Char} (blank : ∀ c ∈ line, isBlank c = true) :
    cleanLine line = [] := by
  have nothing : trimStart line = [] := List.dropWhile_eq_nil_iff.2 blank
  have same : undecorated line = line := by rw [undecorated, nothing]
  rw [cleanLine_eq, same, if_pos (List.all_eq_true.2 blank)]

theorem undecorated_decorate (decoration : Decoration) (line : List Char) :
    undecorated (decoration.decorate line) = line := by
  have start : trimStart (decoration.decorate line) = '*' :: decoration.gap.val :: line := by
    rw [trimStart, Decoration.decorate,
      List.dropWhile_append_of_pos fun c => isBlank_of_mem_margins]
    rfl
  rw [undecorated, start]
  obtain ⟨indent, gap, rfl | rfl⟩ := decoration <;> rfl

theorem cleanLine_decorate (decoration : Decoration) {line : List Char} (plain : IsPlainLine line) :
    cleanLine (decoration.decorate line) = line := by
  rw [cleanLine_eq, undecorated_decorate]
  split
  · rename_i blank
    exact (plain.blank (List.all_eq_true.1 blank)).symm
  · rfl

theorem newline_not_mem_decorate (decoration : Decoration) {line : List Char}
    (whole : '\n' ∉ line) : '\n' ∉ decoration.decorate line := by
  simp only [Decoration.decorate, List.mem_append, List.mem_cons, not_or]
  refine ⟨fun h => ?_, by decide, decoration.gap.ends_no_line.1.symm, whole⟩
  obtain ⟨margin, -, same⟩ := List.mem_map.1 h
  exact Margin.ends_no_line margin |>.1 same

theorem getLast?_decorate (decoration : Decoration) {line : List Char} (plain : IsPlainLine line) :
    (decoration.decorate line).getLast? ≠ some '\r' := by
  cases line with
  | nil => simpa [Decoration.decorate] using decoration.gap.ends_no_line.2
  | cons c line =>
    rw [Decoration.decorate, List.getLast?_append_cons, List.getLast?_cons_cons,
      List.getLast?_cons_cons]
    exact plain.ending

theorem mem_decorateAll {decorations : Nat → Decoration} {ls : List (List Char)}
    {written : List Char} (h : written ∈ decorateAll decorations ls) :
    ∃ decoration : Decoration, ∃ line ∈ ls, written = decoration.decorate line := by
  obtain ⟨i, inside, rfl⟩ := List.mem_mapIdx.1 h
  exact ⟨decorations i, ls[i], List.getElem_mem inside, rfl⟩

theorem cleanLines_decorated {ls : List (List Char)} (whole : ∀ line ∈ ls, '\n' ∉ line)
    (plain : ∀ line ∈ ls, IsPlainLine line) (ends : HasEnds List.isEmpty ls)
    (decorations : Nat → Decoration) (closing : List Margin) :
    cleanLines ('\n' :: ((decorateAll decorations ls).flatMap (· ++ ['\n']) ++
      closing.map Subtype.val)) = ls := by
  have cut : lines ((decorateAll decorations ls).flatMap (· ++ ['\n']) ++ closing.map Subtype.val) =
      decorateAll decorations ls ++ lines (closing.map Subtype.val) := by
    refine lines_joined (fun written h => ?_) (fun written h => ?_) _
    · obtain ⟨decoration, line, listed, rfl⟩ := mem_decorateAll h
      exact newline_not_mem_decorate decoration (whole line listed)
    · obtain ⟨decoration, line, listed, rfl⟩ := mem_decorateAll h
      exact getLast?_decorate decoration (plain line listed)
  have cleaned : (decorateAll decorations ls).map cleanLine = ls := by
    refine List.ext_getElem (by simp [decorateAll]) fun i _ inside => ?_
    rw [List.getElem_map]
    simp only [decorateAll, List.getElem_mapIdx]
    exact cleanLine_decorate _ (plain _ (List.getElem_mem inside))
  have last : ∀ line ∈ (lines (closing.map Subtype.val)).map cleanLine, line.isEmpty = true := by
    intro line h
    obtain ⟨written, listed, rfl⟩ := List.mem_map.1 h
    have blank : ∀ c ∈ written, isBlank c = true := fun c inLine =>
      isBlank_of_mem_margins (mem_of_mem_lines listed inLine).1
    rw [cleanLine_of_blank blank]
    rfl
  rw [cleanLines, lines, cut, List.map_cons, List.map_append, cleaned]
  exact @HasEnds.dropWhile_eq _ List.isEmpty [[]] ls _ ends (by simp) last

/-! ## The lines of a tag -/

theorem writtenLines_eq (tag : BlockTag) :
    ∃ first further, tag.content.toList.splitOn '\n' = first :: further ∧
      tag.writtenLines = ('@' :: tag.name.toList ++ ' ' :: first) :: further := by
  obtain ⟨first, further, pieces⟩ :=
    List.exists_cons_of_ne_nil (List.splitOn_ne_nil '\n' tag.content.toList)
  exact ⟨first, further, pieces, by rw [BlockTag.writtenLines, pieces, List.modifyHead_cons]⟩

theorem isBlock_writtenLines {tag : BlockTag}
    (further : ∀ line ∈ (tag.content.toList.splitOn '\n').tail, isTagLine line = false) :
    IsBlock tag.writtenLines := by
  obtain ⟨first, more, pieces, written⟩ := writtenLines_eq tag
  rw [written]
  rw [pieces] at further
  exact .intro rfl further

theorem hasEnds_writtenLines {tag : BlockTag} (proper : tag.IsProper) :
    HasEnds List.isEmpty tag.writtenLines := by
  obtain ⟨first, more, pieces, written⟩ := writtenLines_eq tag
  rw [written]
  refine ⟨?_, ?_⟩
  · rintro line ⟨⟩
    rfl
  · intro line last
    rcases eq_or_ne more [] with rfl | below
    · obtain rfl := Option.some.inj last
      rfl
    · -- there are further lines, so that the content does not end in a line feed
      rw [List.getLast?_cons_of_ne_nil below] at last
      have ends := hasEnds_of_trim_eq proper.trimmed
      have nonempty : tag.content.toList ≠ [] := by
        intro none
        rw [none, List.splitOn_nil] at pieces
        exact below (List.cons.inj pieces).2.symm
      have ending : tag.content.toList.getLast? ≠ some '\n' := fun h =>
        absurd (ends.last '\n' h) (by decide)
      have filled := last_splitOn_ne_nil nonempty ending line
      rw [pieces, List.getLast?_cons_of_ne_nil below] at filled
      simpa using filled last

theorem newline_not_mem_writtenLines {tag : BlockTag} (proper : tag.IsProper) :
    ∀ line ∈ tag.writtenLines, '\n' ∉ line := by
  obtain ⟨first, more, pieces, written⟩ := writtenLines_eq tag
  have whole : ∀ line ∈ first :: more, '\n' ∉ line := fun line h =>
    not_mem_of_mem_splitOn (pieces ▸ h)
  rw [List.forall_mem_cons] at whole
  rw [written, List.forall_mem_cons]
  refine ⟨?_, whole.2⟩
  have name : '\n' ∉ tag.name.toList := fun h => absurd (proper.visible _ h) (by decide)
  simp [name, whole.1]

theorem isPlainLine_writtenLines {tag : BlockTag}
    (plain : ∀ line ∈ tag.content.toList.splitOn '\n', IsPlainLine line) :
    ∀ line ∈ tag.writtenLines, IsPlainLine line := by
  obtain ⟨first, more, pieces, written⟩ := writtenLines_eq tag
  rw [pieces, List.forall_mem_cons] at plain
  rw [written, List.forall_mem_cons]
  refine ⟨⟨fun blank => ?_, ?_⟩, plain.2⟩
  · exact absurd (blank '@' (by simp)) (by decide)
  · rw [List.getLast?_append_cons]
    cases first with
    | nil => simp
    | cons c first =>
      rw [List.getLast?_cons_cons]
      exact plain.1.ending

theorem unlines_writtenLines (tag : BlockTag) :
    unlines tag.writtenLines = '@' :: (tag.name.toList ++ ' ' :: tag.content.toList) := by
  obtain ⟨first, more, pieces, written⟩ := writtenLines_eq tag
  have content := unlines_splitOn tag.content.toList
  have split : '@' :: tag.name.toList ++ ' ' :: first =
      ('@' :: tag.name.toList ++ [' ']) ++ first := by
    simp
  rw [written, split, unlines_append_cons, ← pieces, content]
  simp

theorem tagOfBlock?_writtenLines {tag : BlockTag} (proper : tag.IsProper) :
    tagOfBlock? tag.writtenLines = some tag := by
  obtain ⟨rest, written, gap, content⟩ : ∃ rest, trim (unlines tag.writtenLines) =
      '@' :: (tag.name.toList ++ rest) ∧ (∀ c ∈ rest.head?, isBlank c = true) ∧
        trim rest = tag.content.toList := by
    rw [unlines_writtenLines]
    have ends := hasEnds_of_trim_eq proper.trimmed
    rcases eq_or_ne tag.content.toList [] with none | some
    · refine ⟨[], ?_, by simp, none.symm⟩
      have word : HasEnds isBlank ('@' :: tag.name.toList) := by
        have visible : ∀ c ∈ '@' :: tag.name.toList, isBlank c = false :=
          List.forall_mem_cons.2 ⟨by decide, proper.visible⟩
        exact ⟨fun c h => visible c (List.mem_of_head? h),
          fun c h => visible c (List.mem_of_getLast? h)⟩
      rw [none, List.append_nil]
      exact @trim_eq_of_ends [] [' '] _ word (by simp) (by simp [isBlank])
    · refine ⟨' ' :: tag.content.toList, trim_eq_self ⟨?_, ?_⟩, ?_, ?_⟩
      · rintro c ⟨⟩
        decide
      · rw [← List.cons_append, List.getLast?_append_cons, List.getLast?_cons_of_ne_nil some]
        exact ends.last
      · rintro c ⟨⟩
        decide
      · simpa using @trim_eq_of_ends [' '] [] _ ends (by simp [isBlank]) (by simp)
  have named : tag.name.toList ≠ [] := by simpa using proper.named
  rw [tagOfBlock?_eq written proper.visible gap, if_neg named, content, String.ofList_toList,
    String.ofList_toList]

/-! ## All lines of a comment -/

/-- The description stands in lines of its own, in front of the tags. -/
theorem exists_descriptionLines {doc : DocComment} (writable : doc.IsWritable) :
    ∃ front, doc.writtenLines = front ++ doc.tags.flatMap BlockTag.writtenLines ∧
      trimEnd (unlines front) = doc.text.toList ∧ HasEnds List.isEmpty front ∧
      ∀ line ∈ front, '\n' ∉ line ∧ IsPlainLine line ∧ isTagLine line = false := by
  rw [writtenLines]
  split
  · rename_i none
    exact ⟨[], rfl, by simp [none], .nil, by simp⟩
  · rename_i filled
    have nonempty : doc.text.toList ≠ [] := by simpa using filled
    have description := writable.description
    refine ⟨_, rfl, by rw [unlines_splitOn, description.trimmed], ⟨?_, ?_⟩, ?_⟩
    · intro line first
      obtain ⟨c, inLine, -⟩ := description.first nonempty line first
      simpa using List.ne_nil_of_mem inLine
    · intro line last
      have ending : doc.text.toList.getLast? ≠ some '\n' := fun h =>
        absurd (visible_of_getLast? description.trimmed '\n' h) (by decide)
      simpa using last_splitOn_ne_nil nonempty ending line last
    · intro line h
      exact ⟨not_mem_of_mem_splitOn h, writable.textLines line h, description.untagged line h⟩

theorem tagContent?_eq_some_iff {doc : DocComment} {name content : String} :
    doc.tagContent? name = some content ↔ content ≠ "" ∧
      ∃ before after, doc.tags = before ++ ⟨name, content⟩ :: after ∧
        ∀ tag ∈ before, tag.name ≠ name := by
  rw [tagContent?, Option.filter_eq_some_iff, Option.map_eq_some_iff, and_comm]
  refine and_congr (by simp) ?_
  simp only [firstTag?, List.find?_eq_some_iff_append]
  constructor
  · rintro ⟨tag, ⟨named, before, after, tags, others⟩, rfl⟩
    obtain rfl : tag.name = name := by simpa using named
    exact ⟨before, after, tags, by simpa using others⟩
  · rintro ⟨before, after, tags, others⟩
    exact ⟨⟨name, content⟩, ⟨by simp, before, after, tags, by simpa using others⟩, rfl⟩

/-- Reading undoes writing, whatever the decorations are. -/
theorem parse_write {doc : DocComment} (writable : doc.IsWritable) (decorations : Nat → Decoration)
    (closing : List Margin) :
    parse (doc.write decorations closing) = doc ∧
    (parse (doc.write decorations closing)).description? =
      (if doc.text = "" then none else some doc.text) ∧
    ∀ name content, (parse (doc.write decorations closing)).tagContent? name = some content ↔
      content ≠ "" ∧ ∃ before after, doc.tags = before ++ ⟨name, content⟩ :: after ∧
        ∀ tag ∈ before, tag.name ≠ name := by
  obtain ⟨front, written, text, ends, fine⟩ := exists_descriptionLines writable
  have tags : ∀ tag ∈ doc.tags, tag.IsProper := writable.tags
  have cleaned : cleanLines (body (doc.write decorations closing).toList) =
      front ++ (doc.tags.map BlockTag.writtenLines).flatten := by
    rw [write, String.toList_ofList, body_between, ← List.flatMap_def, ← written]
    refine cleanLines_decorated ?_ ?_ ?_ decorations closing
    · rw [written, List.forall_mem_append]
      refine ⟨fun line h => (fine line h).1, fun line h => ?_⟩
      obtain ⟨tag, listed, own⟩ := List.mem_flatMap.1 h
      exact newline_not_mem_writtenLines (tags tag listed) line own
    · rw [written, List.forall_mem_append]
      refine ⟨fun line h => (fine line h).2.1, fun line h => ?_⟩
      obtain ⟨tag, listed, own⟩ := List.mem_flatMap.1 h
      exact isPlainLine_writtenLines (writable.contentLines tag listed) line own
    · rw [written]
      exact ends.append (.flatMap fun tag h => hasEnds_writtenLines (tags tag h))
  have blocks : ∀ block ∈ doc.tags.map BlockTag.writtenLines, IsBlock block := by
    intro block h
    obtain ⟨tag, listed, rfl⟩ := List.mem_map.1 h
    exact isBlock_writtenLines (writable.furtherLines tag listed)
  have read : (doc.tags.map BlockTag.writtenLines).filterMap tagOfBlock? = doc.tags := by
    rw [List.filterMap_map]
    refine (List.filterMap_congr fun tag h => ?_).trans List.filterMap_some
    exact tagOfBlock?_writtenLines (tags tag h)
  have same : parse (doc.write decorations closing) = doc := by
    rw [parse_eq cleaned (fun line h => (fine line h).2.2) blocks, text, read, String.ofList_toList]
  rw [same]
  refine ⟨rfl, ?_, fun name content => tagContent?_eq_some_iff⟩
  rw [description?]
  simp

/-- A comment whose lines start with stars, blanks and an `@`, or are empty. -/
def tricky : DocComment where
  text := "* first\n\n  second"
  tags := [⟨"param", "@x the\n  *value"⟩, ⟨"type", ""⟩, ⟨"type", "int"⟩]

/-- Decorations with spaces and tabs in turn. -/
def inTurn (i : Nat) : Decoration :=
  if i % 2 = 0 then ⟨[⟨' ', .inl rfl⟩], ⟨' ', .inl rfl⟩⟩ else ⟨[⟨'\t', .inr rfl⟩], ⟨'\t', .inr rfl⟩⟩

theorem parse_tricky :
    tricky.write inTurn [⟨' ', .inl rfl⟩] =
      "/**\n * * first\n\t*\t\n *   second\n\t*\t@param @x the\n *   *value\n" ++
        "\t*\t@type \n * @type int\n */" ∧
    parse (tricky.write inTurn [⟨' ', .inl rfl⟩]) = tricky := by
  have writable : tricky.IsWritable :=
    ⟨⟨by decide, by decide⟩, by decide, by decide, by decide⟩
  exact ⟨by decide, (parse_write writable _ _).1⟩

end DocComment

end ClassCatalog
