import Mathlib.Tactic.Ring
import PropForge.Proofs.Number.Digits
import PropForge.Text.Quoted

/-!
# Quoted texts

How each character of a text is written between quotes. All that is known of literals is derived from
the four forms that this can have:

* `ofDigits_hexDigits`: the digits of an escape denote its unit;
* `quotedChar_cases`: the forms in which a character is written;
* `isPrintable_of_mem_quoted`: a quoted text is of printable ASCII.
-/

namespace PropForge

section Hexadecimal

open Number

theorem length_hexDigits (width n : Nat) : (hexDigits width n).length = width := by
  induction width generalizing n with
  | zero => rfl
  | succ width ih => rw [hexDigits, List.length_append, ih, List.length_singleton]

theorem isHexDigit_of_mem_hexDigits {width n : Nat} {c : Char} (h : c ∈ hexDigits width n) :
    isHexDigit c = true := by
  induction width generalizing n with
  | zero => cases h
  | succ width ih =>
    rw [hexDigits, List.mem_append, List.mem_singleton] at h
    rcases h with h | rfl
    · exact ih h
    · exact isHexDigit_digitChar (Nat.mod_lt _ (by decide))

theorem ofDigits_hexDigits (width n : Nat) : ofDigits 16 (hexDigits width n) = n % 16 ^ width := by
  induction width generalizing n with
  | zero => rw [Nat.pow_zero, Nat.mod_one]; rfl
  | succ width ih =>
    rw [hexDigits, ofDigits_concat, ih, digitValue_digitChar (Nat.mod_lt _ (by decide)),
      Nat.pow_succ, Nat.mul_comm (16 ^ width), Nat.mod_mul]
    ring

end Hexadecimal

namespace Text

/-- No character is half a surrogate pair. -/
theorem not_surrogate (c : Char) : c.toNat < 0xd800 ∨ 0xdfff < c.toNat ∧ c.toNat < 0x110000 := by
  have valid := c.valid
  simp only [UInt32.isValidChar, Nat.isValidChar] at valid
  unfold Char.toNat
  omega

/-- A character of printable ASCII. -/
def IsPrintable (c : Char) : Prop := 0x20 ≤ c.toNat ∧ c.toNat ≤ 0x7e

instance (c : Char) : Decidable (IsPrintable c) := inferInstanceAs (Decidable (_ ∧ _))

/-- The characters that have an escape of one letter or mark, behind it. -/
def letterEscapes : List (Char × Char) :=
  [('"', '"'), ('\\', '\\'), ('n', '\n'), ('r', '\r'), ('t', '\t'), ('b', '\x08'), ('f', '\x0c')]

/-- **How a character is written**: as a letter or mark behind a backslash, as it is, by its unit or by
the two halves of its surrogate pair. -/
theorem quotedChar_cases (c : Char) :
    (∃ letter, quotedChar c = ['\\', letter] ∧ (letter, c) ∈ letterEscapes) ∨
    (quotedChar c = [c] ∧ IsPrintable c ∧ c ≠ '"' ∧ c ≠ '\\') ∨
    (quotedChar c = unitEscape c.toNat ∧ c.toNat < 0x10000) ∨
    ∃ n < 0x100000, c.toNat = 0x10000 + n ∧
      quotedChar c = unitEscape (0xd800 + n / 0x400) ++ unitEscape (0xdc00 + n % 0x400) := by
  generalize written : quotedChar c = text
  unfold quotedChar at written
  split at written
  · subst_vars; exact .inl ⟨_, rfl, by decide⟩
  split at written
  · subst_vars; exact .inl ⟨_, rfl, by decide⟩
  split at written
  · subst_vars; exact .inl ⟨_, rfl, by decide⟩
  split at written
  · subst_vars; exact .inl ⟨_, rfl, by decide⟩
  split at written
  · subst_vars; exact .inl ⟨_, rfl, by decide⟩
  split at written
  · subst_vars; exact .inl ⟨_, rfl, by decide⟩
  split at written
  · subst_vars; exact .inl ⟨_, rfl, by decide⟩
  split at written
  · rename_i quote backslash _ _ _ _ _ printable
    rw [Bool.and_eq_true, decide_eq_true_eq, decide_eq_true_eq] at printable
    exact .inr (.inl ⟨written.symm, printable, quote, backslash⟩)
  split at written
  · rename_i small
    exact .inr (.inr (.inl ⟨written.symm, small⟩))
  · rename_i large
    have range := not_surrogate c
    exact .inr (.inr (.inr ⟨c.toNat - 0x10000, by omega, by omega, written.symm⟩))

theorem isPrintable_of_isHexDigit {c : Char} (h : Number.isHexDigit c = true) : IsPrintable c := by
  simp only [Number.isHexDigit, Char.isDigit, Bool.or_eq_true, Bool.and_eq_true, decide_eq_true_eq,
    Char.le_def, UInt32.le_iff_toNat_le, ge_iff_le] at h
  unfold IsPrintable Char.toNat
  simp only [UInt32.reduceToNat, Char.reduceVal] at h
  omega

theorem isPrintable_of_mem_unitEscape {n : Nat} {c : Char} (h : c ∈ unitEscape n) :
    IsPrintable c := by
  simp only [unitEscape, List.mem_cons] at h
  rcases h with rfl | rfl | digit
  · decide
  · decide
  · exact isPrintable_of_isHexDigit (isHexDigit_of_mem_hexDigits digit)

theorem isPrintable_of_mem_quotedChar {c d : Char} (h : d ∈ quotedChar c) : IsPrintable d := by
  obtain ⟨letter, text, mem⟩ | ⟨text, printable, -⟩ | ⟨text, -⟩ | ⟨n, -, -, text⟩ :=
    quotedChar_cases c <;> rw [text] at h
  · have all : ∀ p ∈ letterEscapes, IsPrintable p.1 := by decide
    rw [List.mem_cons, List.mem_singleton] at h
    rcases h with rfl | rfl
    · decide
    · exact all _ mem
  · exact List.mem_singleton.mp h ▸ printable
  · exact isPrintable_of_mem_unitEscape h
  · rcases List.mem_append.mp h with high | low
    · exact isPrintable_of_mem_unitEscape high
    · exact isPrintable_of_mem_unitEscape low

theorem isPrintable_of_mem_quoted {cs : List Char} {c : Char} (h : c ∈ quoted cs) :
    IsPrintable c := by
  rw [quoted, List.mem_cons, List.mem_append, List.mem_flatMap, List.mem_singleton] at h
  rcases h with rfl | ⟨d, -, mem⟩ | rfl
  · decide
  · exact isPrintable_of_mem_quotedChar mem
  · decide

end Text

end PropForge
