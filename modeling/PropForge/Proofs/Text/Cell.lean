import Mathlib.Algebra.Group.Nat.Even
import Mathlib.Data.List.Infix
import PropForge.Text.Escapes

/-!
# Cells of a table

A row of a table has its cells between bars. A bar behind an odd number of backslashes belongs to its
cell, and every other bar separates two cells. A text is written into a cell with one backslash before
each bar, whatever stands there already:

* `keepsCells_iff`: when the bars between the cells are all that separates;
* `escaped_inCell_iff`: when what is written into a cell has no bar that separates;
* `unbroken_inCell`: what is written into a cell is on one line.
-/

namespace PropForge.Text

/-- The number of backslashes at the end of a text. -/
def backslashes (cs : List Char) : Nat := (cs.reverse.takeWhile (· = '\\')).length

/-- The bar behind `front` separates two cells of a row. -/
def Separates (row front : List Char) : Prop := front ++ ['|'] <+: row ∧ Even (backslashes front)

/-- No bar of a text separates. -/
def Escaped (cs : List Char) : Prop := ∀ front, ¬ Separates cs front

/-- Every bar of a text separates. -/
def Unescaped (cs : List Char) : Prop :=
  ∀ front, front ++ ['|'] <+: cs → Even (backslashes front)

/-- A row with the given cells. -/
def delimited (cells : List (List Char)) : List Char :=
  '|' :: cells.flatMap fun c => ' ' :: (c ++ [' ', '|'])

/-- The bars that separate in a row are the first one and those behind its cells. -/
def KeepsCells (cells : List (List Char)) : Prop :=
  ∀ front, Separates (delimited cells) front ↔
    ∃ first, first <+: cells ∧ delimited first = front ++ ['|']

section Backslashes

theorem backslashes_nil : backslashes [] = 0 := rfl

theorem backslashes_concat (cs : List Char) (c : Char) :
    backslashes (cs ++ [c]) = if c = '\\' then backslashes cs + 1 else 0 := by
  rw [backslashes, List.reverse_append, List.reverse_singleton, List.singleton_append,
    List.takeWhile_cons]
  by_cases slash : c = '\\'
  · simp [slash, backslashes]
  · simp [slash]

/-- Backslashes are counted up to the nearest other character. -/
theorem backslashes_append_cons {c : Char} (other : c ≠ '\\') (cs ds : List Char) :
    backslashes (cs ++ c :: ds) = backslashes ds := by
  induction ds using List.reverseRecOn with
  | nil => rw [backslashes_concat, if_neg other, backslashes_nil]
  | append_singleton ds d ih =>
    rw [← List.cons_append, ← List.append_assoc, backslashes_concat, backslashes_concat, ih]

end Backslashes

section Rows

variable {cells : List (List Char)} {cell front : List Char}

/-- A bar of two texts is one of the first or one of the second. -/
theorem bar_prefix_append_iff {cs ds : List Char} : front ++ ['|'] <+: cs ++ ds ↔
    front ++ ['|'] <+: cs ∨ ∃ back, front = cs ++ back ∧ back ++ ['|'] <+: ds := by
  induction cs generalizing front with
  | nil => simp
  | cons c cs ih =>
    cases front with
    | nil => simp
    | cons d front =>
      simp only [List.cons_append, List.cons_prefix_cons, ih, List.cons.injEq]
      grind

theorem delimited_concat (cells : List (List Char)) (cell : List Char) :
    delimited (cells ++ [cell]) = delimited cells ++ ' ' :: (cell ++ [' ', '|']) := by
  simp [delimited]

theorem bar_prefix_blank_iff : front ++ ['|'] <+: [' ', '|'] ↔ front = [' '] := by
  match front with
  | [] => simp
  | [c] => simp
  | c :: d :: front => simp

/-- The bar behind the last cell of a row. -/
theorem delimited_concat_eq_iff : delimited (cells ++ [cell]) = front ++ ['|'] ↔
    front = delimited cells ++ ' ' :: (cell ++ [' ']) := by
  have split : ' ' :: (cell ++ [' ', '|']) = ' ' :: (cell ++ [' ']) ++ ['|'] := by simp
  rw [delimited_concat, split, ← List.append_assoc, List.append_left_inj, eq_comm]

/-- **One more cell** brings the bars that separate in it and the one behind it. -/
theorem separates_delimited_concat : Separates (delimited (cells ++ [cell])) front ↔
    Separates (delimited cells) front ∨
      (∃ inner, front = delimited cells ++ ' ' :: inner ∧ Separates cell inner) ∨
      delimited (cells ++ [cell]) = front ++ ['|'] := by
  have slashes (inner : List Char) :
      backslashes (delimited cells ++ ' ' :: inner) = backslashes inner :=
    backslashes_append_cons (by decide) _ _
  rw [delimited_concat_eq_iff, delimited_concat]
  unfold Separates
  rw [bar_prefix_append_iff]
  constructor
  · rintro ⟨first | ⟨back, rfl, second⟩, even⟩
    · exact .inl ⟨first, even⟩
    · cases back with
      | nil => simp at second
      | cons c inner =>
        rw [List.cons_append, List.cons_prefix_cons, bar_prefix_append_iff] at second
        obtain ⟨rfl, inside | ⟨back, rfl, second⟩⟩ := second
        · exact .inr (.inl ⟨inner, rfl, inside, slashes inner ▸ even⟩)
        · rw [bar_prefix_blank_iff] at second
          rw [second]
          exact .inr (.inr rfl)
  · rintro (⟨first, even⟩ | ⟨inner, rfl, inside, even⟩ | rfl)
    · exact ⟨.inl first, even⟩
    · refine ⟨.inr ⟨' ' :: inner, rfl, ?_⟩, (slashes inner).symm ▸ even⟩
      rw [List.cons_append, List.cons_prefix_cons]
      exact ⟨rfl, inside.trans (List.prefix_append _ _)⟩
    · refine ⟨.inr ⟨_, rfl, ?_⟩, ?_⟩
      · rw [List.cons_append, List.cons_prefix_cons]
        exact ⟨rfl, by simp⟩
      · rw [slashes, backslashes_concat]
        exact Even.zero

/-- **The separators of a row** are the bars behind its cells and those that separate in a cell. -/
theorem separates_delimited_iff : Separates (delimited cells) front ↔
    (∃ first, first <+: cells ∧ delimited first = front ++ ['|']) ∨
      ∃ before cell inner, before ++ [cell] <+: cells ∧
        front = delimited before ++ ' ' :: inner ∧ Separates cell inner := by
  induction cells using List.reverseRecOn with
  | nil =>
    have alone : Separates ['|'] front ↔ ['|'] = front ++ ['|'] := by
      unfold Separates
      cases front with
      | nil => simp [backslashes_nil]
      | cons c front => simp
    simp [delimited, alone]
  | append_singleton cells cell ih =>
    rw [separates_delimited_concat, ih]
    constructor
    · rintro ((⟨first, part, same⟩ | ⟨before, other, inner, part, place, separates⟩) |
        ⟨inner, place, separates⟩ | behind)
      · exact .inl ⟨first, part.trans (List.prefix_append _ _), same⟩
      · exact .inr ⟨before, other, inner, part.trans (List.prefix_append _ _), place, separates⟩
      · exact .inr ⟨cells, cell, inner, List.prefix_rfl, place, separates⟩
      · exact .inl ⟨_, List.prefix_rfl, behind⟩
    · rintro (⟨first, part, same⟩ | ⟨before, other, inner, part, place, separates⟩)
      · rcases List.prefix_concat_iff.mp part with rfl | part
        · exact .inr (.inr same)
        · exact .inl (.inl ⟨first, part, same⟩)
      · rcases List.prefix_concat_iff.mp part with both | part
        · obtain ⟨rfl, one⟩ := List.append_inj' both rfl
          obtain rfl := List.singleton_inj.mp one
          exact .inr (.inl ⟨inner, place, separates⟩)
        · exact .inl (.inr ⟨before, other, inner, part, place, separates⟩)

theorem delimited_length_le {first cells : List (List Char)} (h : first <+: cells) :
    (delimited first).length ≤ (delimited cells).length := by
  obtain ⟨rest, rfl⟩ := h
  simp [delimited]

/-- **A row keeps its cells** if and only if no bar of a cell separates. -/
theorem keepsCells_iff : KeepsCells cells ↔ ∀ cell ∈ cells, Escaped cell := by
  constructor
  · intro keeps cell mem inner separates
    obtain ⟨before, after, rfl⟩ := List.append_of_mem mem
    have among : before ++ [cell] <+: before ++ cell :: after := ⟨after, by simp⟩
    obtain ⟨first, part, same⟩ := (keeps (delimited before ++ ' ' :: inner)).mp
      (separates_delimited_iff.mpr (.inr ⟨before, cell, inner, among, rfl, separates⟩))
    -- the bar is behind the cells before, and before the end of its own cell
    have short := separates.1.length_le
    have length := congrArg List.length same
    simp only [List.length_append, List.length_cons, List.length_nil] at short length
    have parts : first <+: before ∨ before ++ [cell] <+: first := by
      rcases List.prefix_or_prefix_of_prefix part among with less | more
      · rcases List.prefix_concat_iff.mp less with rfl | less
        · exact .inr List.prefix_rfl
        · exact .inl less
      · exact .inr more
    rcases parts with less | more
    · have sooner := delimited_length_le less
      omega
    · have later := delimited_length_le more
      rw [delimited_concat] at later
      simp only [List.length_append, List.length_cons, List.length_nil] at later
      omega
  · intro escaped front
    rw [separates_delimited_iff]
    constructor
    · rintro (behind | ⟨before, cell, inner, among, -, separates⟩)
      · exact behind
      · exact absurd separates (escaped cell (among.subset (by simp)) inner)
    · exact .inl

end Rows

section Writing

/-- A text ends with as many backslashes as what is written of it. -/
theorem backslashes_inCell (cs : List Char) : backslashes (inCell cs) = backslashes cs := by
  induction cs using List.reverseRecOn with
  | nil => rfl
  | append_singleton cs c ih =>
    rw [inCell, List.flatMap_append, List.flatMap_singleton, ← inCell, backslashes_concat]
    unfold cellChar
    split
    · have bar : inCell cs ++ ['\\', '|'] = (inCell cs ++ ['\\']) ++ ['|'] := by simp
      rw [bar, backslashes_concat]
      rfl
    · rw [backslashes_concat]
      rfl
    · rw [backslashes_concat]
      rfl
    · rw [backslashes_concat, ih]

theorem bar_prefix_cellChar_iff {c : Char} {front : List Char} :
    front ++ ['|'] <+: cellChar c ↔ c = '|' ∧ front = ['\\'] := by
  have single {d : Char} (other : d ≠ '|') : ¬ front ++ ['|'] <+: [d] := by
    intro part
    have short := part.length_le
    match front with
    | [] => exact other (List.cons_prefix_cons.mp part).1.symm
    | _ :: _ => simp at short
  unfold cellChar
  split
  · match front with
    | [] => simp
    | [c] => simp
    | c :: d :: front => simp
  · exact iff_of_false (single (by decide)) fun h => absurd h.1 (by decide)
  · exact iff_of_false (single (by decide)) fun h => absurd h.1 (by decide)
  · rename_i bar _ _
    exact iff_of_false (single bar) fun ⟨same, _⟩ => bar same

/-- The bars of what is written are those of the text, each behind a backslash. -/
theorem bar_prefix_inCell_iff {cs front : List Char} : front ++ ['|'] <+: inCell cs ↔
    ∃ before, before ++ ['|'] <+: cs ∧ front = inCell before ++ ['\\'] := by
  induction cs using List.reverseRecOn generalizing front with
  | nil => simp [inCell]
  | append_singleton cs c ih =>
    have written : inCell (cs ++ [c]) = inCell cs ++ cellChar c := by simp [inCell]
    have others : (∃ before, before ++ ['|'] <+: cs ∧ front = inCell before ++ ['\\']) →
        ∃ before, before ++ ['|'] <+: cs ++ [c] ∧ front = inCell before ++ ['\\'] :=
      fun ⟨before, part, place⟩ => ⟨before, part.trans (List.prefix_append _ _), place⟩
    rw [written, bar_prefix_append_iff, ih]
    constructor
    · rintro (inside | ⟨back, rfl, last⟩)
      · exact others inside
      · obtain ⟨rfl, rfl⟩ := bar_prefix_cellChar_iff.mp last
        exact ⟨cs, List.prefix_rfl, rfl⟩
    · rintro ⟨before, part, rfl⟩
      rcases List.prefix_concat_iff.mp part with both | part
      · obtain ⟨rfl, one⟩ := List.append_inj' both rfl
        obtain rfl := List.singleton_inj.mp one
        exact .inr ⟨['\\'], rfl, List.prefix_rfl⟩
      · exact .inl ⟨before, part, rfl⟩

/-- **What is written into a cell** has no bar that separates if and only if every bar of the text does:
the backslash that is written escapes a bar, and it takes the escape from one that has it. -/
theorem escaped_inCell_iff {cs : List Char} : Escaped (inCell cs) ↔ Unescaped cs := by
  have parity (before : List Char) :
      Even (backslashes (inCell before ++ ['\\'])) ↔ ¬ Even (backslashes before) := by
    rw [backslashes_concat, if_pos rfl, backslashes_inCell, Nat.even_add_one]
  unfold Escaped Separates Unescaped
  constructor
  · intro escaped before bar
    by_contra odd
    exact escaped _ ⟨bar_prefix_inCell_iff.mpr ⟨before, bar, rfl⟩, (parity before).mpr odd⟩
  · rintro plain front ⟨bar, even⟩
    obtain ⟨before, inside, rfl⟩ := bar_prefix_inCell_iff.mp bar
    exact (parity before).mp even (plain before inside)

theorem unescaped_of_notMem {cs : List Char} (h : '|' ∉ cs) : Unescaped cs :=
  fun _ bar => absurd (bar.subset (by simp)) h

/-- What is written into a cell is on one line. -/
theorem unbroken_inCell {cs : List Char} {c : Char} (h : c ∈ inCell cs) : c ≠ '\n' ∧ c ≠ '\r' := by
  obtain ⟨d, -, mem⟩ := List.mem_flatMap.mp h
  unfold cellChar at mem
  split at mem
  · rcases List.mem_cons.mp mem with rfl | mem
    · decide
    · rw [List.mem_singleton.mp mem]
      decide
  · rw [List.mem_singleton.mp mem]
    decide
  · rw [List.mem_singleton.mp mem]
    decide
  · rename_i ret feed
    rw [List.mem_singleton.mp mem]
    exact ⟨feed, ret⟩

end Writing

end PropForge.Text
