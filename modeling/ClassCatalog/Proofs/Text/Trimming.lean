import ClassCatalog.Text.Blank
import Mathlib.Data.List.DropRight

/-!
# Dropping the ends of a list

Trimming a text drops the blanks at its ends.  What is left is the middle part of a decomposition
whose outer parts are blank and whose middle has no blank at its ends (`exists_trim`), and there is
only one such middle part (`trim_eq_of_ends`).  The same holds of every property in place of being
blank.  Trimming keeps all characters that are not blank (`squeeze_trim`).
-/

namespace ClassCatalog.Text

section Ends

variable {α : Type} {p : α → Bool}

/-- Neither the first nor the last element has the property, so that nothing is dropped. -/
structure HasEnds (p : α → Bool) (l : List α) : Prop where
  first : ∀ x ∈ l.head?, p x = false
  last : ∀ x ∈ l.getLast?, p x = false

theorem HasEnds.nil : HasEnds p [] := ⟨by simp, by simp⟩

theorem HasEnds.append {front back : List α} (first : HasEnds p front) (second : HasEnds p back) :
    HasEnds p (front ++ back) := by
  constructor
  · intro x h
    rw [List.head?_append, Option.mem_def, Option.or_eq_some_iff] at h
    exact h.elim (first.first x) fun h => second.first x h.2
  · intro x h
    rw [List.getLast?_append, Option.mem_def, Option.or_eq_some_iff] at h
    exact h.elim (second.last x) fun h => first.last x h.2

theorem HasEnds.flatMap {β : Type} {f : β → List α} {bs : List β}
    (each : ∀ b ∈ bs, HasEnds p (f b)) : HasEnds p (bs.flatMap f) := by
  induction bs with
  | nil => exact .nil
  | cons b bs ih =>
    rw [List.forall_mem_cons] at each
    rw [List.flatMap_cons]
    exact each.1.append (ih each.2)

theorem dropWhile_of_head {l : List α} (first : ∀ x ∈ l.head?, p x = false) :
    l.dropWhile p = l := by
  cases l with
  | nil => rfl
  | cons x rest => exact List.dropWhile_cons_of_neg (by simp [first x rfl])

theorem rdropWhile_of_last {l : List α} (last : ∀ x ∈ l.getLast?, p x = false) :
    l.rdropWhile p = l := by
  rw [List.rdropWhile, dropWhile_of_head (by simpa using last), List.reverse_reverse]

theorem rdropWhile_append (front back : List α) :
    (front ++ back).rdropWhile p =
      if back.rdropWhile p = [] then front.rdropWhile p else front ++ back.rdropWhile p := by
  simp only [List.rdropWhile, List.reverse_append, List.dropWhile_append, List.isEmpty_iff,
    List.reverse_eq_nil_iff]
  split <;> simp

theorem rdropWhile_append_of_pos {front back : List α} (dropped : ∀ x ∈ back, p x = true) :
    (front ++ back).rdropWhile p = front.rdropWhile p := by
  rw [rdropWhile_append, if_pos (List.rdropWhile_eq_nil_iff.2 dropped)]

/-- A middle part that has ends is what stays if the parts around it are dropped. -/
theorem HasEnds.dropWhile_eq {front middle back : List α} (ends : HasEnds p middle)
    (before : ∀ x ∈ front, p x = true) (after : ∀ x ∈ back, p x = true) :
    ((front ++ middle ++ back).dropWhile p).rdropWhile p = middle := by
  rw [List.append_assoc, List.dropWhile_append_of_pos before]
  cases middle with
  | nil =>
    rw [List.nil_append, List.dropWhile_eq_nil_iff.2 after]
    rfl
  | cons x rest =>
    rw [dropWhile_of_head (l := x :: rest ++ back) (by simpa using ends.first),
      rdropWhile_append_of_pos after, rdropWhile_of_last ends.last]

theorem hasEnds_dropWhile (p : α → Bool) (l : List α) :
    HasEnds p ((l.dropWhile p).rdropWhile p) := by
  constructor
  · intro x first
    obtain ⟨more, same⟩ := List.rdropWhile_prefix p (l.dropWhile p)
    have start : (l.dropWhile p).head? = some x := by
      rw [← same, List.head?_append, first]
      rfl
    have := List.head?_dropWhile_not p l
    rwa [start] at this
  · intro x last
    obtain ⟨front, same⟩ := List.getLast?_eq_some_iff.1 last
    have stays := List.rdropWhile_last_not p (l.dropWhile p) (by simp [same])
    simpa [same] using stays

theorem exists_dropped (p : α → Bool) (l : List α) :
    ∃ front back, l = front ++ (l.dropWhile p).rdropWhile p ++ back ∧
      (∀ x ∈ front, p x = true) ∧ ∀ x ∈ back, p x = true := by
  refine ⟨l.takeWhile p, (l.dropWhile p).rtakeWhile p, ?_, ?_, ?_⟩
  · rw [List.append_assoc, List.rdropWhile_append_rtakeWhile, List.takeWhile_append_dropWhile]
  · exact fun x h => List.mem_takeWhile_imp h
  · exact fun x h => List.mem_rtakeWhile_imp h

end Ends

/-! ## Blanks -/

variable {text front back : List Char}

theorem trim_eq_of_ends {middle : List Char} (ends : HasEnds isBlank middle)
    (before : ∀ c ∈ front, isBlank c = true) (after : ∀ c ∈ back, isBlank c = true) :
    trim (front ++ middle ++ back) = middle :=
  ends.dropWhile_eq before after

theorem hasEnds_trim (text : List Char) : HasEnds isBlank (trim text) :=
  hasEnds_dropWhile isBlank text

theorem exists_trim (text : List Char) :
    ∃ front back, text = front ++ trim text ++ back ∧
      (∀ c ∈ front, isBlank c = true) ∧ ∀ c ∈ back, isBlank c = true :=
  exists_dropped isBlank text

theorem trim_eq_self (ends : HasEnds isBlank text) : trim text = text := by
  simpa using @trim_eq_of_ends [] [] text ends (by simp) (by simp)

theorem trim_eq_nil (blank : ∀ c ∈ text, isBlank c = true) : trim text = [] := by
  simpa using @trim_eq_of_ends text [] [] .nil blank (by simp)

theorem hasEnds_of_trim_eq (trimmed : trim text = text) : HasEnds isBlank text :=
  trimmed ▸ hasEnds_trim text

theorem exists_trimEnd (text : List Char) :
    ∃ back, text = trimEnd text ++ back ∧ ∀ c ∈ back, isBlank c = true :=
  ⟨text.rtakeWhile isBlank, List.rdropWhile_append_rtakeWhile.symm,
    fun _ h => List.mem_rtakeWhile_imp h⟩

theorem trimEnd_append (front back : List Char) :
    trimEnd (front ++ back) =
      if trimEnd back = [] then trimEnd front else front ++ trimEnd back :=
  rdropWhile_append front back

theorem trimEnd_eq_nil_iff : trimEnd text = [] ↔ ∀ c ∈ text, isBlank c = true :=
  List.rdropWhile_eq_nil_iff

theorem trimEnd_cons {c : Char} (visible : isBlank c = false) (text : List Char) :
    trimEnd (c :: text) = c :: trimEnd text := by
  have alone : trimEnd [c] = [c] := by simp [trimEnd, visible]
  rw [← List.singleton_append, trimEnd_append, alone]
  split <;> simp_all

theorem trimEnd_trimEnd (text : List Char) : trimEnd (trimEnd text) = trimEnd text :=
  List.rdropWhile_idempotent isBlank text

theorem visible_of_getLast? (trimmed : trimEnd text = text) :
    ∀ c ∈ text.getLast?, isBlank c = false := by
  intro c last
  obtain ⟨front, rfl⟩ := List.getLast?_eq_some_iff.1 last
  simpa using List.rdropWhile_eq_self_iff.1 trimmed

theorem exists_visible_trimEnd (stays : trimEnd text ≠ []) :
    ∃ c ∈ trimEnd text, isBlank c = false := by
  rw [← trimEnd_trimEnd, ne_eq, trimEnd_eq_nil_iff] at stays
  simpa using stays

/-- Whether the first character of a text is there and visible. -/
def startsVisible (text : List Char) : Bool :=
  text.head?.any fun c => !isBlank c

theorem startsVisible_trimEnd (text : List Char) :
    startsVisible (trimEnd text) = startsVisible text := by
  unfold startsVisible
  cases text with
  | nil => rfl
  | cons c rest =>
    cases shown : isBlank c with
    | false => rw [trimEnd_cons shown, List.head?_cons, List.head?_cons]
    | true =>
      -- what is left starts with the blank, if anything is left at all
      obtain ⟨back, parts, -⟩ := exists_trimEnd (c :: rest)
      cases left : trimEnd (c :: rest) with
      | nil => simp [shown]
      | cons d more =>
        rw [left, List.cons_append] at parts
        simp [← (List.cons.inj parts).1, shown]

/-! ## What trimming keeps -/

theorem squeeze_append (front back : List Char) :
    squeeze (front ++ back) = squeeze front ++ squeeze back :=
  List.filter_append front back

theorem squeeze_eq_nil (blank : ∀ c ∈ text, isBlank c = true) : squeeze text = [] := by
  simpa [squeeze] using blank

theorem squeeze_trimEnd (text : List Char) : squeeze (trimEnd text) = squeeze text := by
  obtain ⟨back, parts, blank⟩ := exists_trimEnd text
  conv_rhs => rw [parts, squeeze_append, squeeze_eq_nil blank, List.append_nil]

theorem squeeze_trim (text : List Char) : squeeze (trim text) = squeeze text := by
  obtain ⟨front, back, parts, before, after⟩ := exists_trim text
  conv_rhs => rw [parts, squeeze_append, squeeze_append]
  rw [squeeze_eq_nil before, squeeze_eq_nil after, List.nil_append, List.append_nil]

end ClassCatalog.Text
