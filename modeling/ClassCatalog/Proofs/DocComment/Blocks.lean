import ClassCatalog.DocComment
import ClassCatalog.Proofs.Text.Lines

/-!
# Description and blocks of a comment

The cleaned lines of a comment are lines without tags followed by blocks, each of which has a tag
line on top and nowhere else (`exists_blocks`).  This decides what the comment says: the first lines
are its description, and each block gives at most one tag (`parse_eq`).
-/

namespace ClassCatalog

open Text

/-- The name of the tag is a word, and its content has no blanks at its ends. -/
structure BlockTag.IsProper (tag : BlockTag) : Prop where
  named : tag.name ≠ ""
  visible : ∀ c ∈ tag.name.toList, isBlank c = false
  trimmed : trim tag.content.toList = tag.content.toList

instance (tag : BlockTag) : Decidable tag.IsProper :=
  decidable_of_iff (tag.name ≠ "" ∧ tag.name.toList.any isBlank = false ∧
      trim tag.content.toList = tag.content.toList)
    ⟨fun ⟨named, visible, trimmed⟩ => ⟨named, by simpa using visible, trimmed⟩,
      fun ⟨named, visible, trimmed⟩ => ⟨named, by simpa using visible, trimmed⟩⟩

namespace DocComment

/-- A text that can be a description: it has no blanks at its end and no blank first line, and none
of its lines opens a tag. -/
structure IsDescription (text : List Char) : Prop where
  trimmed : trimEnd text = text
  first : text ≠ [] → ∀ line ∈ (text.splitOn '\n').head?, ∃ c ∈ line, isBlank c = false
  untagged : ∀ line ∈ text.splitOn '\n', isTagLine line = false

instance (text : List Char) : Decidable (IsDescription text) :=
  decidable_of_iff (trimEnd text = text ∧
      (text ≠ [] → ∀ line ∈ (text.splitOn '\n').head?, line.all isBlank = false) ∧
      ∀ line ∈ text.splitOn '\n', isTagLine line = false)
    ⟨fun ⟨trimmed, first, untagged⟩ => ⟨trimmed, by simpa using first, untagged⟩,
      fun ⟨trimmed, first, untagged⟩ => ⟨trimmed, by simpa using first, untagged⟩⟩

/-- Description and tags are such as they can be written in a comment. -/
structure IsProper (doc : DocComment) : Prop where
  description : IsDescription doc.text.toList
  tags : ∀ tag ∈ doc.tags, tag.IsProper

/-! ## Body and cleaned lines -/

theorem body_eq (raw : List Char) :
    body raw =
      if trim raw = ['/', '*', '*', '/'] then []
      else (['*', '/'].isSuffixOf? ((['/', '*', '*'].isPrefixOf? (trim raw)).getD (trim raw))).getD
        ((['/', '*', '*'].isPrefixOf? (trim raw)).getD (trim raw)) := rfl

theorem cleanLine_eq (line : List Char) :
    cleanLine line = if (undecorated line).all isBlank then [] else undecorated line := rfl

theorem hasEnds_dropOuterEmpty (ls : List (List Char)) :
    HasEnds List.isEmpty (dropOuterEmpty ls) :=
  hasEnds_dropWhile List.isEmpty ls

theorem mem_of_mem_dropOuterEmpty {ls : List (List Char)} {line : List Char}
    (h : line ∈ dropOuterEmpty ls) : line ∈ ls := by
  obtain ⟨front, back, parts, -, -⟩ := exists_dropped List.isEmpty ls
  rw [parts]
  exact List.mem_append_left back (List.mem_append_right front h)

/-! ## Lines without tags and blocks -/

/-- A block of lines: a tag line, and below it lines that open no other block. -/
inductive IsBlock : List (List Char) → Prop
  | intro {head : List Char} {tail : List (List Char)} (opens : isTagLine head = true)
      (continues : ∀ line ∈ tail, isTagLine line = false) : IsBlock (head :: tail)

theorem exists_blocks (ls : List (List Char)) :
    ∃ (front : List (List Char)) (bs : List (List (List Char))), ls = front ++ bs.flatten ∧
      (∀ line ∈ front, isTagLine line = false) ∧ ∀ block ∈ bs, IsBlock block := by
  induction ls with
  | nil => exact ⟨[], [], rfl, by simp, by simp⟩
  | cons line ls ih =>
    obtain ⟨front, bs, rfl, plain, proper⟩ := ih
    cases opens : isTagLine line with
    | true =>
      refine ⟨[], (line :: front) :: bs, rfl, by simp, ?_⟩
      exact List.forall_mem_cons.2 ⟨.intro opens plain, proper⟩
    | false => exact ⟨line :: front, bs, rfl, List.forall_mem_cons.2 ⟨opens, plain⟩, proper⟩

theorem head?_flatten_blocks {bs : List (List (List Char))} (proper : ∀ block ∈ bs, IsBlock block) :
    ∀ line ∈ bs.flatten.head?, isTagLine line = true := by
  cases bs with
  | nil => simp
  | cons block bs =>
    obtain ⟨opens, -⟩ := proper block List.mem_cons_self
    intro line first
    rwa [← Option.some.inj first]

/-! ## Cutting lines into blocks -/

theorem blocks_ne_nil (line : List Char) (rest : List (List Char)) :
    blocks (line :: rest) ≠ [] := by
  unfold blocks
  split
  · split <;> simp
  · simp

theorem blocks_append {head : List Char} {tail rest : List (List Char)}
    (continues : ∀ line ∈ tail, isTagLine line = false)
    (opens : ∀ line ∈ rest.head?, isTagLine line = true) :
    blocks (head :: tail ++ rest) = (head :: tail) :: blocks rest := by
  induction tail generalizing head with
  | nil =>
    cases rest with
    | nil => rfl
    | cons next rest =>
      obtain ⟨block, more, found⟩ := List.exists_cons_of_ne_nil (blocks_ne_nil next rest)
      rw [List.singleton_append, blocks.eq_2 _ _ _ _ _ found, if_pos (opens next rfl), found]
  | cons next tail ih =>
    rw [List.forall_mem_cons] at continues
    have below : blocks (next :: (tail ++ rest)) = (next :: tail) :: blocks rest := ih continues.2
    rw [List.cons_append, List.cons_append, blocks.eq_2 _ _ _ _ _ below,
      if_neg (by simp [continues.1])]

theorem blocks_flatten {bs : List (List (List Char))} (proper : ∀ block ∈ bs, IsBlock block) :
    blocks bs.flatten = bs := by
  induction bs with
  | nil => rfl
  | cons block bs ih =>
    rw [List.forall_mem_cons] at proper
    obtain ⟨-, continues⟩ := proper.1
    rw [List.flatten_cons, blocks_append continues (head?_flatten_blocks proper.2), ih proper.2]

/-- What a comment says, read off its cleaned lines. -/
theorem parse_eq {raw : String} {front : List (List Char)} {bs : List (List (List Char))}
    (cleaned : cleanLines (body raw.toList) = front ++ bs.flatten)
    (plain : ∀ line ∈ front, isTagLine line = false) (proper : ∀ block ∈ bs, IsBlock block) :
    parse raw =
      { text := String.ofList (trimEnd (unlines front)), tags := bs.filterMap tagOfBlock? } := by
  have description : ∀ line ∈ front, (!isTagLine line) = true := by simpa using plain
  have tags : (bs.flatten.takeWhile fun line => !isTagLine line) = [] ∧
      (bs.flatten.dropWhile fun line => !isTagLine line) = bs.flatten := by
    have opens := head?_flatten_blocks proper
    cases found : bs.flatten with
    | nil => exact ⟨rfl, rfl⟩
    | cons line more => simp [opens line (by simp [found])]
  rw [parse, cleaned, List.takeWhile_append_of_pos description,
    List.dropWhile_append_of_pos description, tags.1, tags.2, List.append_nil,
    blocks_flatten proper]

/-! ## Tags -/

theorem isTagLine_iff {line : List Char} :
    isTagLine line = true ↔
      ∃ indent rest, (∀ c ∈ indent, isBlank c = true) ∧ line = indent ++ '@' :: rest := by
  rw [isTagLine, beq_iff_eq]
  constructor
  · intro first
    obtain ⟨rest, found⟩ := List.head?_eq_some_iff.1 first
    refine ⟨line.takeWhile isBlank, rest, fun c h => List.mem_takeWhile_imp h, ?_⟩
    rw [← found, trimStart, List.takeWhile_append_dropWhile]
  · rintro ⟨indent, rest, blank, rfl⟩
    rw [trimStart, List.dropWhile_append_of_pos blank]
    rfl

/-- The tag of a block is cut behind the visible characters that follow the `@`. -/
theorem tagOfBlock?_eq {block : List (List Char)} {name rest : List Char}
    (written : trim (unlines block) = '@' :: (name ++ rest))
    (visible : ∀ c ∈ name, isBlank c = false) (gap : ∀ c ∈ rest.head?, isBlank c = true) :
    tagOfBlock? block =
      if name = [] then none else some ⟨String.ofList name, String.ofList (trim rest)⟩ := by
  have kept : ∀ c ∈ name, (!isBlank c) = true := by simpa using visible
  have cut : (rest.takeWhile fun c => !isBlank c) = [] ∧
      (rest.dropWhile fun c => !isBlank c) = rest := by
    cases rest with
    | nil => exact ⟨rfl, rfl⟩
    | cons c rest => simp [gap c rfl]
  simp only [tagOfBlock?, written, List.takeWhile_append_of_pos kept,
    List.dropWhile_append_of_pos kept, cut.1, cut.2, List.append_nil, List.isEmpty_iff]

end DocComment

end ClassCatalog
