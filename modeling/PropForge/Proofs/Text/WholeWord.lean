import Mathlib.Data.List.Basic
import PropForge.Text.WholeWord

/-!
# Whole words

A word stands in a text where there is a boundary on either side of it. The search goes through the
text from its beginning and carries the character before the rest:

* `hasWordFrom_iff`: what the search finds in a rest;
* `hasWord_iff`: it finds a word if and only if the word stands in the text.
-/

namespace PropForge.Text

/-- A word is a part of a text with a boundary before it and one behind it. -/
def StandsIn (word text : String) : Prop :=
  ∃ front back : List Char, text.toList = front ++ (word.toList ++ back) ∧
    isBoundary front.getLast? (word.toList ++ back).head? = true ∧
    isBoundary (front ++ word.toList).getLast? back.head? = true

/-- The last character of a part, or else the one before it, goes on from the first of the part. -/
theorem getLast?_cons_or (c : Char) (cs : List Char) (before : Option Char) :
    (c :: cs).getLast?.or before = cs.getLast?.or (some c) := by
  rw [List.getLast?_cons]
  cases cs.getLast? with
  | none => rfl
  | some d => rfl

theorem hasWordFrom_iff (word : List Char) (before : Option Char) (cs : List Char) :
    hasWordFrom word before cs = true ↔ ∃ front back, cs = front ++ (word ++ back) ∧
      isBoundary (front.getLast?.or before) (word ++ back).head? = true ∧
      isBoundary ((front ++ word).getLast?.or before) back.head? = true := by
  -- at the beginning of a rest the part in front of the word is empty
  have here (before : Option Char) (cs : List Char) :
      (word.isPrefixOf cs && isBoundary before cs.head? &&
        isBoundary (word.getLast?.or before) (cs.drop word.length).head?) = true ↔
      ∃ back, cs = word ++ back ∧ isBoundary before (word ++ back).head? = true ∧
        isBoundary (word.getLast?.or before) back.head? = true := by
    rw [Bool.and_eq_true, Bool.and_eq_true, List.isPrefixOf_iff_prefix]
    constructor
    · rintro ⟨⟨⟨back, rfl⟩, first⟩, last⟩
      rw [List.drop_left] at last
      exact ⟨back, rfl, first, last⟩
    · rintro ⟨back, rfl, first, last⟩
      rw [List.drop_left]
      exact ⟨⟨List.prefix_append word back, first⟩, last⟩
  induction cs generalizing before with
  | nil =>
    rw [hasWordFrom, Bool.or_false, here]
    constructor
    · rintro ⟨back, empty, first, last⟩
      exact ⟨[], back, empty, first, last⟩
    · rintro ⟨front, back, empty, first, last⟩
      obtain ⟨rfl, rest⟩ := List.append_eq_nil_iff.mp empty.symm
      exact ⟨back, rest.symm, first, last⟩
  | cons c rest ih =>
    rw [hasWordFrom, Bool.or_eq_true, here]
    constructor
    · rintro (⟨back, found, first, last⟩ | later)
      · exact ⟨[], back, found, first, last⟩
      · obtain ⟨front, back, rfl, first, last⟩ := (ih (some c)).mp later
        refine ⟨c :: front, back, rfl, ?_, ?_⟩
        · rwa [getLast?_cons_or]
        · rwa [List.cons_append, getLast?_cons_or]
    · rintro ⟨front, back, found, first, last⟩
      cases front with
      | nil => exact .inl ⟨back, found, first, last⟩
      | cons d front =>
        rw [List.cons_append, List.cons.injEq] at found
        obtain ⟨rfl, rfl⟩ := found
        rw [getLast?_cons_or] at first
        rw [List.cons_append, getLast?_cons_or] at last
        exact .inr ((ih (some c)).mpr ⟨front, back, rfl, first, last⟩)

/-- **The search** finds a word if and only if it stands in the text. -/
theorem hasWord_iff (word text : String) : hasWord word text = true ↔ StandsIn word text := by
  rw [hasWord, hasWordFrom_iff]
  simp only [Option.or_none, StandsIn]

end PropForge.Text
