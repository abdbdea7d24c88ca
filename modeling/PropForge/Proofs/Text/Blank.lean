import Mathlib.Data.List.DropRight
import Mathlib.Data.List.Infix
import PropForge.Text.Blank

/-!
# Blanks and line breaks

What is left of a text without the blanks around it, and of its lines without their ends:

* `trimmed_strip`, `strip_eq_self`: what is left has no blanks around it, and what has none is left;
* `mem_lines`, `lines_eq_singleton`: a line has no break in it, and what has none is one line;
* `unifyBreaks_of_notMem`: unifying line breaks changes carriage returns only.
-/

namespace PropForge.Text

/-- A carriage return changes nothing before it. -/
theorem unifyBreaks_append {cs : List Char} (h : '\r' ∉ cs) (rest : List Char) :
    unifyBreaks (cs ++ rest) = cs ++ unifyBreaks rest := by
  induction cs with
  | nil => rfl
  | cons c cs ih =>
    rw [List.mem_cons, not_or] at h
    rw [List.cons_append, unifyBreaks, ih h.2, List.cons_append]
    · rintro _ rfl
      exact absurd rfl h.1
    · exact Ne.symm h.1

theorem unifyBreaks_of_notMem {cs : List Char} (h : '\r' ∉ cs) : unifyBreaks cs = cs := by
  have whole := unifyBreaks_append h []
  rw [List.append_nil] at whole
  rw [whole, unifyBreaks, List.append_nil]

section Strip

/-- No blank stands at either end. -/
structure Trimmed (cs : List Char) : Prop where
  first : ∀ c, cs.head? = some c → isBlank c = false
  last : ∀ c, cs.getLast? = some c → isBlank c = false

theorem dropRightWhile_eq_rdropWhile (p : Char → Bool) (cs : List Char) :
    dropRightWhile p cs = cs.rdropWhile p := rfl

theorem strip_isInfix (cs : List Char) : strip cs <:+: cs := by
  rw [strip, dropRightWhile_eq_rdropWhile]
  exact (List.rdropWhile_prefix _ _).isInfix.trans (List.dropWhile_suffix _).isInfix

theorem trimmed_strip (cs : List Char) : Trimmed (strip cs) := by
  rw [strip, dropRightWhile_eq_rdropWhile]
  constructor
  · intro c hc
    obtain ⟨back, whole⟩ := List.rdropWhile_prefix isBlank (cs.dropWhile isBlank)
    have first := List.head?_dropWhile_not isBlank cs
    rw [← whole, List.head?_append, hc] at first
    exact first
  · intro c hc
    obtain ⟨ne, rfl⟩ := List.mem_getLast?_eq_getLast hc
    exact Bool.eq_false_iff.mpr (List.rdropWhile_last_not _ _ ne)

theorem strip_eq_self {cs : List Char} (h : Trimmed cs) : strip cs = cs := by
  have front : cs.dropWhile isBlank = cs := by
    cases cs with
    | nil => rfl
    | cons c cs => exact List.dropWhile_cons_of_neg (Bool.eq_false_iff.mp (h.first c rfl))
  rw [strip, front, dropRightWhile_eq_rdropWhile, List.rdropWhile_eq_self_iff]
  intro ne
  exact Bool.eq_false_iff.mp (h.last _ (List.getLast?_eq_some_getLast ne))

/-- The blanks around a text are dropped and nothing else. -/
theorem strip_between {cs : List Char} (h : Trimmed cs) : strip (' ' :: (cs ++ [' '])) = cs := by
  cases cs with
  | nil => decide
  | cons c rest =>
    have blank : isBlank ' ' = true := by decide
    have first : isBlank c = false := h.first c rfl
    have same := strip_eq_self h
    rw [strip, List.dropWhile_cons_of_neg (Bool.eq_false_iff.mp first)] at same
    rw [strip, List.dropWhile_cons_of_pos blank, List.cons_append,
      List.dropWhile_cons_of_neg (Bool.eq_false_iff.mp first), dropRightWhile_eq_rdropWhile,
      ← List.cons_append, List.rdropWhile_concat, if_pos blank, ← dropRightWhile_eq_rdropWhile, same]

end Strip

section Lines

/-- **A line** is a part of its text and has no break in it. -/
theorem mem_lines {cs l : List Char} (h : l ∈ lines cs) :
    l <:+: cs ∧ ∀ c ∈ l, isLineBreak c = false := by
  have onward (line cs : List Char) (clean : ∀ c ∈ line, isLineBreak c = false)
      (mem : l ∈ lines.go line cs) :
      l <:+: line.reverse ++ cs ∧ ∀ c ∈ l, isLineBreak c = false := by
    fun_induction lines.go line cs with
    | case1 line empty => cases mem
    | case2 line full =>
      rw [List.mem_singleton] at mem
      subst mem
      exact ⟨by simp, by simpa using clean⟩
    | case3 line rest ih =>
      rcases List.mem_cons.mp mem with rfl | later
      · exact ⟨(List.prefix_append _ _).isInfix, by simpa using clean⟩
      · obtain ⟨part, none⟩ := ih (by simp) later
        exact ⟨part.trans ⟨line.reverse ++ ['\r', '\n'], [], by simp⟩, none⟩
    | case4 line c rest _ brk ih =>
      rcases List.mem_cons.mp mem with rfl | later
      · exact ⟨(List.prefix_append _ _).isInfix, by simpa using clean⟩
      · obtain ⟨part, none⟩ := ih (by simp) later
        exact ⟨part.trans ⟨line.reverse ++ [c], [], by simp⟩, none⟩
    | case5 line c rest _ other ih =>
      obtain ⟨part, none⟩ := ih (by simpa using ⟨by simpa using other, clean⟩) mem
      exact ⟨by simpa using part, none⟩
  simpa using onward [] cs (by simp) h

/-- What has no break in it is one line. -/
theorem lines_eq_singleton {cs : List Char} (ne : cs ≠ [])
    (h : ∀ c ∈ cs, isLineBreak c = false) : lines cs = [cs] := by
  have onward (line cs : List Char) (ne : line.reverse ++ cs ≠ [])
      (h : ∀ c ∈ cs, isLineBreak c = false) : lines.go line cs = [line.reverse ++ cs] := by
    fun_induction lines.go line cs with
    | case1 line empty => simp_all
    | case2 line full => simp
    | case3 line rest ih => exact absurd (h '\r' List.mem_cons_self) (by decide)
    | case4 line c rest _ brk ih => simp [h c List.mem_cons_self] at brk
    | case5 line c rest _ other ih =>
      rw [ih (by simp) fun d hd => h d (List.mem_cons_of_mem c hd)]
      simp
  exact onward [] cs ne h

end Lines

end PropForge.Text
