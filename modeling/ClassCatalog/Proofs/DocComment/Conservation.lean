import ClassCatalog.Proofs.DocComment.Blocks

/-!
# Nothing of a comment is lost

A block whose `@` has no name behind it writes no tag.  Without these blocks, the visible characters
of the cleaned lines are those of the description and of the tags, in the same order
(`parse_conserves`).
-/

namespace ClassCatalog

open Text

/-- What a tag writes, up to blanks. -/
def BlockTag.characters (tag : BlockTag) : List Char :=
  '@' :: (tag.name.toList ++ tag.content.toList)

namespace DocComment

/-- Whether the `@` of a tag line has a visible character right behind it. -/
def isNamed (line : List Char) : Bool :=
  match trimStart line with
  | '@' :: c :: _ => !isBlank c
  | _ => false

/-- The lines without the blocks that have no name. -/
def withoutUnnamed : List (List Char) → List (List Char)
  | [] => []
  | line :: rest =>
    if isTagLine line && !isNamed line then
      withoutUnnamed (rest.dropWhile fun line => !isTagLine line)
    else line :: withoutUnnamed rest
termination_by ls => ls.length
decreasing_by
  · exact Nat.lt_succ_of_le (List.length_dropWhile_le _ _)
  · exact Nat.lt_succ_self _

/-! ## Cleaned lines -/

theorem mem_of_mem_dropMargin {text : List Char} {c : Char} (h : c ∈ dropMargin text) :
    c ∈ text := by
  unfold dropMargin at h
  split at h
  · exact List.mem_cons_of_mem _ h
  · exact List.mem_cons_of_mem _ h
  · exact h

theorem mem_of_mem_undecorated {line : List Char} {c : Char} (h : c ∈ undecorated line) :
    c ∈ line := by
  unfold undecorated at h
  split at h
  · rename_i rest found
    have : c ∈ trimStart line := found ▸ List.mem_cons_of_mem _ (mem_of_mem_dropMargin h)
    exact List.dropWhile_subset _ this
  · exact h

/-- A line without line feeds that is empty or shows something. -/
structure IsCleaned (line : List Char) : Prop where
  whole : '\n' ∉ line
  visible : line ≠ [] → ∃ c ∈ line, isBlank c = false

theorem isCleaned_cleanLine {line : List Char} (whole : '\n' ∉ line) :
    IsCleaned (cleanLine line) := by
  rw [cleanLine_eq]
  split
  · exact ⟨List.not_mem_nil, fun nonempty => absurd rfl nonempty⟩
  · rename_i visible
    refine ⟨fun inside => whole (mem_of_mem_undecorated inside), fun _ => ?_⟩
    simpa using visible

theorem IsCleaned.dropMargin {line : List Char} (cleaned : IsCleaned line) :
    IsCleaned (dropMargin line) := by
  refine ⟨fun inside => cleaned.whole (mem_of_mem_dropMargin inside), fun _ => ?_⟩
  unfold DocComment.dropMargin at *
  split at *
  · rename_i rest
    simpa [isBlank] using cleaned.visible (by simp)
  · rename_i rest
    simpa [isBlank] using cleaned.visible (by simp)
  · exact cleaned.visible ‹_›

theorem isCleaned_of_mem_cleanLines {text line : List Char} (h : line ∈ cleanLines text) :
    IsCleaned line := by
  have single : ∀ line ∈ (lines text).map cleanLine, IsCleaned line := by
    intro line h
    obtain ⟨written, listed, rfl⟩ := List.mem_map.1 h
    exact isCleaned_cleanLine fun inside => (mem_of_mem_lines listed inside).2 rfl
  have kept := mem_of_mem_dropOuterEmpty h
  split at kept
  · cases kept
  · rename_i first rest found
    rw [found, List.forall_mem_cons] at single
    rcases List.mem_cons.1 kept with rfl | later
    · exact single.1.dropMargin
    · exact single.2 line later

theorem visible_of_head?_cleanLines {text line : List Char}
    (h : (cleanLines text).head? = some line) : ∃ c ∈ line, isBlank c = false := by
  have nonempty := (hasEnds_dropOuterEmpty _).first line h
  exact (isCleaned_of_mem_cleanLines (List.mem_of_head? h)).visible (by simpa using nonempty)

/-! ## The description -/

theorem isTagLine_of_trimEnd {line : List Char} (h : isTagLine (trimEnd line) = true) :
    isTagLine line = true := by
  obtain ⟨indent, rest, blank, found⟩ := isTagLine_iff.1 h
  obtain ⟨back, parts, -⟩ := exists_trimEnd line
  refine isTagLine_iff.2 ⟨indent, rest ++ back, blank, ?_⟩
  rw [found, List.append_assoc, List.cons_append] at parts
  exact parts

/-- The lines in front of the first tag make up a description. -/
theorem isDescription_trimEnd {front : List (List Char)} (whole : ∀ line ∈ front, '\n' ∉ line)
    (plain : ∀ line ∈ front, isTagLine line = false)
    (first : ∀ line ∈ front.head?, ∃ c ∈ line, isBlank c = false) :
    IsDescription (trimEnd (unlines front)) := by
  rcases trimEnd_unlines front with none | ⟨above, line, below, rfl, visible, trimmed⟩
  · rw [none]
    exact ⟨rfl, fun nonempty => absurd rfl nonempty, by simp [isTagLine]⟩
  rw [List.forall_mem_append, List.forall_mem_cons] at whole plain
  obtain ⟨back, parts, -⟩ := exists_trimEnd line
  have last : '\n' ∉ trimEnd line := fun inside =>
    whole.2.1 (parts ▸ List.mem_append_left back inside)
  -- the lines of the description are the ones above and what is left of the last one
  have cut :
      (trimEnd (unlines (above ++ line :: below))).splitOn '\n' = above ++ [trimEnd line] := by
    rw [trimmed]
    refine List.splitOn_intercalate '\n' ?_ (by simp)
    exact List.forall_mem_append.2 ⟨whole.1, List.forall_mem_singleton.2 last⟩
  refine ⟨trimEnd_trimEnd _, fun _ => ?_, ?_⟩
  · rw [cut]
    cases above with
    | nil =>
      rintro line' ⟨⟩
      exact exists_visible_trimEnd visible
    | cons top above => exact first
  · rw [cut, List.forall_mem_append, List.forall_mem_singleton]
    refine ⟨plain.1, Bool.eq_false_iff.2 fun opens => ?_⟩
    exact absurd (isTagLine_of_trimEnd opens) (by simp [plain.2.1])

/-! ## The tag of a block -/

theorem isNamed_tagLine {indent : List Char} (blank : ∀ c ∈ indent, isBlank c = true)
    (rest : List Char) :
    isNamed (indent ++ '@' :: rest) = startsVisible rest := by
  have start : trimStart (indent ++ '@' :: rest) = '@' :: rest := by
    rw [trimStart, List.dropWhile_append_of_pos blank]
    rfl
  rw [isNamed, start]
  cases rest <;> rfl

theorem exists_trim_block {head : List Char} (opens : isTagLine head = true)
    (tail : List (List Char)) :
    ∃ text, trim (unlines (head :: tail)) = '@' :: text ∧ isNamed head = startsVisible text := by
  obtain ⟨indent, rest, blank, rfl⟩ := isTagLine_iff.1 opens
  refine ⟨trimEnd (unlines (rest :: tail)), ?_, ?_⟩
  · have below := unlines_append_cons ['@'] rest tail
    rw [List.singleton_append] at below
    rw [unlines_append_cons, below, trim, trimStart, List.dropWhile_append_of_pos blank]
    exact trimEnd_cons (by decide) _
  · rw [isNamed_tagLine blank, startsVisible_trimEnd, startsVisible_unlines]

theorem tagOfBlock?_of_unnamed {head : List Char} (opens : isTagLine head = true)
    (unnamed : isNamed head = false) (tail : List (List Char)) :
    tagOfBlock? (head :: tail) = none := by
  obtain ⟨text, written, same⟩ := exists_trim_block opens tail
  have gap : ∀ c ∈ text.head?, isBlank c = true := by
    intro c first
    rw [unnamed, startsVisible, Option.mem_def.1 first] at same
    simpa using same.symm
  rw [@tagOfBlock?_eq _ [] text written (by simp) gap, if_pos rfl]

theorem tagOfBlock?_of_named {head : List Char} (opens : isTagLine head = true)
    (named : isNamed head = true) (tail : List (List Char)) :
    ∃ tag, tagOfBlock? (head :: tail) = some tag ∧ tag.IsProper ∧
      squeeze tag.characters = squeeze (head :: tail).flatten := by
  obtain ⟨text, written, same⟩ := exists_trim_block opens tail
  obtain ⟨name, rest, rfl, visible, gap⟩ :
      ∃ name rest, text = name ++ rest ∧ (∀ c ∈ name, isBlank c = false) ∧
        ∀ c ∈ rest.head?, isBlank c = true := by
    refine ⟨text.takeWhile fun c => !isBlank c, text.dropWhile fun c => !isBlank c,
      List.takeWhile_append_dropWhile.symm, fun c h => ?_, fun c first => ?_⟩
    · simpa using List.mem_takeWhile_imp h
    · have stops := List.head?_dropWhile_not (fun c => !isBlank c) text
      rw [Option.mem_def.1 first] at stops
      simpa using stops
  have nonempty : name ≠ [] := by
    rintro rfl
    rw [named, List.nil_append, eq_comm, startsVisible, Option.any_eq_true_iff_get] at same
    obtain ⟨shown, first⟩ := same
    simp [gap _ (Option.get_mem shown)] at first
  refine ⟨⟨String.ofList name, String.ofList (trim rest)⟩, ?_, ⟨?_, ?_, ?_⟩, ?_⟩
  · rw [tagOfBlock?_eq written visible gap, if_neg nonempty]
  · simpa using nonempty
  · simpa using visible
  · simpa using trim_eq_self (hasEnds_trim rest)
  · rw [← squeeze_unlines, ← squeeze_trim (unlines _), written]
    simp only [BlockTag.characters, String.toList_ofList]
    rw [← List.cons_append, ← List.cons_append, squeeze_append, squeeze_append, squeeze_trim]

/-! ## Lines and tags -/

theorem withoutUnnamed_append {front : List (List Char)}
    (plain : ∀ line ∈ front, isTagLine line = false) (rest : List (List Char)) :
    withoutUnnamed (front ++ rest) = front ++ withoutUnnamed rest := by
  induction front with
  | nil => rfl
  | cons line front ih =>
    rw [List.forall_mem_cons] at plain
    rw [List.cons_append, withoutUnnamed, plain.1, ih plain.2]
    rfl

theorem withoutUnnamed_named {head : List Char} {tail : List (List Char)}
    (named : isNamed head = true) (continues : ∀ line ∈ tail, isTagLine line = false)
    (rest : List (List Char)) :
    withoutUnnamed (head :: tail ++ rest) = head :: tail ++ withoutUnnamed rest := by
  rw [List.cons_append, withoutUnnamed, named, withoutUnnamed_append continues]
  simp

theorem withoutUnnamed_unnamed {head : List Char} {tail rest : List (List Char)}
    (opens : isTagLine head = true) (unnamed : isNamed head = false)
    (continues : ∀ line ∈ tail, isTagLine line = false)
    (next : ∀ line ∈ rest.head?, isTagLine line = true) :
    withoutUnnamed (head :: tail ++ rest) = withoutUnnamed rest := by
  have stops : (rest.dropWhile fun line => !isTagLine line) = rest :=
    dropWhile_of_head fun line first => by simp [next line first]
  rw [List.cons_append, withoutUnnamed, opens, unnamed,
    List.dropWhile_append_of_pos (by simpa using continues), stops]
  rfl

/-- Block by block, the named ones give their characters to a tag. -/
theorem squeeze_withoutUnnamed {bs : List (List (List Char))}
    (proper : ∀ block ∈ bs, IsBlock block) :
    squeeze (withoutUnnamed bs.flatten).flatten =
      squeeze ((bs.filterMap tagOfBlock?).flatMap BlockTag.characters) := by
  induction bs with
  | nil => simp [withoutUnnamed]
  | cons block bs ih =>
    rw [List.forall_mem_cons] at proper
    have next := head?_flatten_blocks proper.2
    obtain ⟨opens, continues⟩ := proper.1
    rename_i head tail
    rw [List.flatten_cons]
    cases named : isNamed head with
    | true =>
      obtain ⟨tag, found, -, characters⟩ := tagOfBlock?_of_named opens named tail
      rw [withoutUnnamed_named named continues, List.flatten_append, squeeze_append, ih proper.2,
        ← characters, List.filterMap_cons_some found, List.flatMap_cons, squeeze_append]
    | false =>
      rw [withoutUnnamed_unnamed opens named continues next, ih proper.2,
        List.filterMap_cons_none (tagOfBlock?_of_unnamed opens named tail)]

theorem isProper_of_mem_filterMap {bs : List (List (List Char))}
    (proper : ∀ block ∈ bs, IsBlock block) : ∀ tag ∈ bs.filterMap tagOfBlock?, tag.IsProper := by
  intro tag h
  obtain ⟨block, listed, found⟩ := List.mem_filterMap.1 h
  obtain ⟨opens, -⟩ := proper block listed
  rename_i head tail
  cases named : isNamed head with
  | true =>
    obtain ⟨own, same, wellFormed, -⟩ := tagOfBlock?_of_named opens named tail
    rwa [Option.some.inj (found.symm.trans same)]
  | false => cases found.symm.trans (tagOfBlock?_of_unnamed opens named tail)

/-- Reading a comment loses, repeats and reorders nothing.  Apart from blocks without a name, the
visible characters of its cleaned lines are those of the description and then of the tags.  The
description has no blanks at its end, no blank first line and no line that opens a tag; the names of
tags are words, and their contents have no blanks at their ends. -/
theorem parse_conserves (raw : String) :
    squeeze (withoutUnnamed (cleanLines (body raw.toList))).flatten =
      squeeze ((parse raw).text.toList ++ (parse raw).tags.flatMap BlockTag.characters) ∧
    (parse raw).IsProper := by
  obtain ⟨front, bs, cleaned, plain, proper⟩ := exists_blocks (cleanLines (body raw.toList))
  have said := parse_eq cleaned plain proper
  have whole : ∀ line ∈ front, '\n' ∉ line := fun line h =>
    (isCleaned_of_mem_cleanLines (cleaned ▸ List.mem_append_left _ h)).whole
  have first : ∀ line ∈ front.head?, ∃ c ∈ line, isBlank c = false := by
    intro line top
    refine @visible_of_head?_cleanLines (body raw.toList) line ?_
    rw [cleaned, List.head?_append, Option.mem_def.1 top]
    rfl
  rw [said, cleaned]
  refine ⟨?_, ?_, isProper_of_mem_filterMap proper⟩
  · rw [withoutUnnamed_append plain, List.flatten_append, squeeze_append, squeeze_append,
      squeeze_withoutUnnamed proper, String.toList_ofList, squeeze_trimEnd, squeeze_unlines]
  · rw [String.toList_ofList]
    exact isDescription_trimEnd whole plain first

end DocComment

end ClassCatalog
