import ClassCatalog.Proofs.Text.Trimming
import ClassCatalog.Text.Lines
import Mathlib.Data.List.Induction

/-!
# Cutting texts into lines

Lines that are ended by line feeds are cut again where they were joined (`lines_joined`), unless a
carriage return at the end of a line is taken for a part of its ending.  Trimming the end of a text
drops its last lines as far as they are blank and trims the one before them (`trimEnd_unlines`).
-/

namespace ClassCatalog.Text

/-- A line holds only characters of the text, and no line feed. -/
theorem mem_of_mem_lines {text line : List Char} {c : Char} (h : line ∈ lines text)
    (inLine : c ∈ line) : c ∈ text ∧ c ≠ '\n' := by
  induction text using lines.induct generalizing line with
  | case1 => simp at h
  | case2 rest ih =>
    rw [lines] at h
    rcases List.mem_cons.1 h with rfl | later
    · cases inLine
    · exact (ih later inLine).imp_left (List.mem_cons_of_mem _)
  | case3 rest ih =>
    rw [lines] at h
    rcases List.mem_cons.1 h with rfl | later
    · cases inLine
    · exact (ih later inLine).imp_left fun inRest =>
        List.mem_cons_of_mem _ (List.mem_cons_of_mem _ inRest)
  | case4 first rest inside unended none ih =>
    rw [lines.eq_4 first rest inside unended, none, List.mem_singleton] at h
    rw [h, List.mem_singleton] at inLine
    exact ⟨List.mem_cons.2 (.inl inLine), inLine ▸ inside⟩
  | case5 first rest inside unended line' more found ih =>
    rw [found] at ih
    rw [lines.eq_4 first rest inside unended, found] at h
    rcases List.mem_cons.1 h with rfl | later
    · rcases List.mem_cons.1 inLine with rfl | inRest
      · exact ⟨List.mem_cons_self, inside⟩
      · exact (ih List.mem_cons_self inRest).imp_left (List.mem_cons_of_mem _)
    · exact (ih (List.mem_cons_of_mem _ later) inLine).imp_left (List.mem_cons_of_mem _)

theorem lines_append_newline {line : List Char} (whole : '\n' ∉ line)
    (ending : line.getLast? ≠ some '\r') (rest : List Char) :
    lines (line ++ '\n' :: rest) = line :: lines rest := by
  induction line with
  | nil => rw [List.nil_append, lines]
  | cons c line ih =>
    rw [List.mem_cons, not_or] at whole
    -- a carriage return is followed by the line feed only at the end of the line
    have unended : ∀ more, c = '\r' → line ++ '\n' :: rest = '\n' :: more → False := by
      rintro more rfl same
      cases line with
      | nil => exact ending rfl
      | cons d line => exact whole.2 (List.mem_cons.2 (.inl (List.cons.inj same).1.symm))
    have later : line.getLast? ≠ some '\r' := by
      intro last
      refine ending ?_
      rw [List.getLast?_cons, last]
      rfl
    rw [List.cons_append, lines.eq_4 _ _ (fun same => whole.1 same.symm) unended, ih whole.2 later]

theorem lines_joined {ls : List (List Char)} (whole : ∀ line ∈ ls, '\n' ∉ line)
    (endings : ∀ line ∈ ls, line.getLast? ≠ some '\r') (rest : List Char) :
    lines (ls.flatMap (· ++ ['\n']) ++ rest) = ls ++ lines rest := by
  induction ls with
  | nil => rfl
  | cons line ls ih =>
    rw [List.forall_mem_cons] at whole endings
    rw [List.flatMap_cons, List.append_assoc, List.append_assoc, List.singleton_append,
      lines_append_newline whole.1 endings.1, ih whole.2 endings.2, List.cons_append]

/-! ## Lines put below one another -/

theorem unlines_singleton (line : List Char) : unlines [line] = line :=
  List.intercalate_singleton

theorem unlines_append_cons (front line : List Char) (more : List (List Char)) :
    unlines ((front ++ line) :: more) = front ++ unlines (line :: more) := by
  cases more with
  | nil => rw [unlines_singleton, unlines_singleton]
  | cons next more => simp [unlines, List.intercalate_cons_cons]

theorem startsVisible_unlines (line : List Char) (more : List (List Char)) :
    startsVisible (unlines (line :: more)) = startsVisible line := by
  cases line with
  | nil =>
    cases more with
    | nil => rfl
    | cons next more => simp [startsVisible, unlines, List.intercalate_cons_cons, isBlank]
  | cons c line =>
    have below := unlines_append_cons [c] line more
    rw [List.singleton_append] at below
    rw [below]
    rfl

theorem unlines_concat {ls : List (List Char)} (nonempty : ls ≠ []) (line : List Char) :
    unlines (ls ++ [line]) = unlines ls ++ '\n' :: line := by
  induction ls with
  | nil => exact absurd rfl nonempty
  | cons first ls ih =>
    cases ls with
    | nil => simp [unlines, List.intercalate_cons_cons]
    | cons second ls =>
      have := ih (by simp)
      simp only [unlines, List.cons_append, List.intercalate_cons_cons, List.append_assoc] at this ⊢
      rw [this]

theorem unlines_splitOn (text : List Char) : unlines (text.splitOn '\n') = text :=
  List.intercalate_splitOn '\n'

theorem not_mem_of_mem_splitOn {a : Char} {text piece : List Char} (h : piece ∈ text.splitOn a) :
    a ∉ piece := by
  induction text generalizing piece with
  | nil =>
    rw [List.splitOn_nil, List.mem_singleton] at h
    rw [h]
    exact List.not_mem_nil
  | cons c text ih =>
    rw [List.splitOn_cons_eq_if_modifyHead] at h
    split at h
    · rcases List.mem_cons.1 h with rfl | later
      · exact List.not_mem_nil
      · exact ih later
    · rename_i differs
      obtain ⟨first, more, pieces⟩ := List.exists_cons_of_ne_nil (List.splitOn_ne_nil a text)
      rw [pieces] at ih h
      rcases List.mem_cons.1 h with rfl | later
      · rw [List.mem_cons, not_or]
        exact ⟨fun same => differs (by simp [same]), ih List.mem_cons_self⟩
      · exact ih (List.mem_cons_of_mem _ later)

/-- The last line of a text is empty only behind a line feed. -/
theorem last_splitOn_ne_nil {text : List Char} (nonempty : text ≠ [])
    (ending : text.getLast? ≠ some '\n') : ∀ line ∈ (text.splitOn '\n').getLast?, line ≠ [] := by
  rintro line last rfl
  obtain ⟨front, parts⟩ := List.getLast?_eq_some_iff.1 last
  have whole := unlines_splitOn text
  rw [parts] at whole
  rcases eq_or_ne front [] with rfl | above
  · exact nonempty whole.symm
  · rw [unlines_concat above] at whole
    exact ending (by simp [← whole])

theorem squeeze_unlines (ls : List (List Char)) : squeeze (unlines ls) = squeeze ls.flatten := by
  induction ls using List.reverseRecOn with
  | nil => rfl
  | append_singleton front line ih =>
    rcases eq_or_ne front [] with rfl | nonempty
    · simp [unlines_singleton]
    · rw [unlines_concat nonempty, squeeze_append, ih, List.flatten_concat, squeeze_append]
      rfl

/-- Trimming lines at their end drops the blank ones and trims the last of the others. -/
theorem trimEnd_unlines (ls : List (List Char)) :
    trimEnd (unlines ls) = [] ∨
      ∃ front line back, ls = front ++ line :: back ∧ trimEnd line ≠ [] ∧
        trimEnd (unlines ls) = unlines (front ++ [trimEnd line]) := by
  induction ls using List.reverseRecOn with
  | nil => exact .inl rfl
  | append_singleton ls last ih =>
    rcases eq_or_ne ls [] with rfl | nonempty
    · rw [List.nil_append, unlines_singleton]
      rcases eq_or_ne (trimEnd last) [] with blank | visible
      · exact .inl blank
      · exact .inr ⟨[], last, [], rfl, visible, (unlines_singleton _).symm⟩
    · rcases eq_or_ne (trimEnd last) [] with blank | visible
      · have dropped : trimEnd ('\n' :: last) = [] := by
          rw [trimEnd_eq_nil_iff] at blank ⊢
          exact List.forall_mem_cons.2 ⟨by decide, blank⟩
        rw [unlines_concat nonempty, trimEnd_append, if_pos dropped]
        refine ih.imp_right ?_
        rintro ⟨front, line, back, rfl, stays, trimmed⟩
        exact ⟨front, line, back ++ [last], by simp, stays, trimmed⟩
      · refine .inr ⟨ls, last, [], rfl, visible, ?_⟩
        rw [unlines_concat nonempty, unlines_concat nonempty, ← List.singleton_append,
          ← List.append_assoc, trimEnd_append, if_neg visible, List.append_assoc,
          List.singleton_append]

end ClassCatalog.Text
