import Mathlib.Data.List.Induction
import Mathlib.Tactic.IntervalCases
import PropForge.Number.Digits

/-!
Digits denote the number they are the digits of, in base ten and in base sixteen. So two numbers
with the same digits are equal.
-/

namespace PropForge.Number

theorem digitValue_digitChar {d : Nat} (h : d < 16) : digitValue (digitChar d) = d := by
  interval_cases d <;> rfl

theorem isDigit_digitChar {d : Nat} (h : d < 10) : (digitChar d).isDigit = true := by
  interval_cases d <;> rfl

theorem isHexDigit_digitChar {d : Nat} (h : d < 16) : isHexDigit (digitChar d) = true := by
  interval_cases d <;> rfl

/-- The digits of ASCII are those that numbers are written with. -/
theorem eq_digitChar_of_isDigit {c : Char} (h : c.isDigit = true) :
    ∃ d < 10, c = digitChar d := by
  simp only [Char.isDigit, Bool.and_eq_true, decide_eq_true_eq, UInt32.le_iff_toNat_le] at h
  obtain ⟨low, high⟩ := h
  simp only [Char.reduceVal, UInt32.reduceToNat] at low high
  have small : c.toNat - 48 < 10 := by unfold Char.toNat; omega
  refine ⟨c.toNat - 48, small, ?_⟩
  rw [digitChar, if_pos small, Nat.sub_add_cancel (by exact low), Char.ofNat_toNat]

@[simp] theorem ofDigits_nil (base : Nat) : ofDigits base [] = 0 := rfl

theorem ofDigits_concat (base : Nat) (cs : List Char) (c : Char) :
    ofDigits base (cs ++ [c]) = ofDigits base cs * base + digitValue c := by
  simp [ofDigits]

/-- Zeros in front count for nothing. -/
theorem ofDigits_zeros_append (k : Nat) (ds : List Char) :
    ofDigits 10 (List.replicate k '0' ++ ds) = ofDigits 10 ds := by
  induction k with
  | zero => rfl
  | succ k ih => exact ih

theorem ofDigits_digits (n : Nat) : ofDigits 10 (digits n) = n := by
  induction n using digits.induct with
  | case1 n h =>
    rw [digits, if_pos h]
    simpa [ofDigits] using digitValue_digitChar (by omega : n < 16)
  | case2 n h ih =>
    rw [digits, if_neg h, ofDigits_concat, ih, digitValue_digitChar (by omega)]
    omega

theorem digits_injective {m n : Nat} (h : digits m = digits n) : m = n := by
  rw [← ofDigits_digits m, h, ofDigits_digits]

theorem isDigit_of_mem_digits {n : Nat} {c : Char} (h : c ∈ digits n) : c.isDigit = true := by
  induction n using digits.induct with
  | case1 n hn =>
    rw [digits, if_pos hn, List.mem_singleton] at h
    exact h ▸ isDigit_digitChar hn
  | case2 n hn ih =>
    rw [digits, if_neg hn, List.mem_append, List.mem_singleton] at h
    rcases h with h | rfl
    · exact ih h
    · exact isDigit_digitChar (by omega)

theorem digits_ne_nil (n : Nat) : digits n ≠ [] := by
  rw [digits]
  split <;> simp

/-- Ten times a number has a zero behind its digits. -/
theorem digits_mul_ten {n : Nat} (h : n ≠ 0) : digits (n * 10) = digits n ++ ['0'] := by
  rw [digits, if_neg (by omega), Nat.mul_div_cancel n (by decide), Nat.mul_mod_left]
  rfl

theorem length_digits_mul_pow {n : Nat} (h : n ≠ 0) (k : Nat) :
    (digits (n * 10 ^ k)).length = (digits n).length + k := by
  induction k with
  | zero => simp
  | succ k ih =>
    have pos : n * 10 ^ k ≠ 0 := Nat.mul_ne_zero h (Nat.pow_pos (by decide)).ne'
    rw [Nat.pow_succ, ← Nat.mul_assoc, digits_mul_ten pos, List.length_append, ih]
    rfl

theorem lt_pow_length_digits (n : Nat) : n < 10 ^ (digits n).length := by
  induction n using digits.induct with
  | case1 n h => rw [digits, if_pos h]; exact h
  | case2 n h ih =>
    rw [digits, if_neg h, List.length_append, List.length_singleton, Nat.pow_succ]
    omega

theorem pow_length_digits_le {n : Nat} (h : n ≠ 0) : 10 ^ ((digits n).length - 1) ≤ n := by
  induction n using digits.induct with
  | case1 n hn =>
    rw [digits, if_pos hn]
    exact Nat.one_le_iff_ne_zero.mpr h
  | case2 n hn ih =>
    have more := List.length_pos_iff.mpr (digits_ne_nil (n / 10))
    rw [digits, if_neg hn, List.length_append, List.length_singleton, Nat.add_sub_cancel]
    rw [show (digits (n / 10)).length = (digits (n / 10)).length - 1 + 1 by omega, Nat.pow_succ]
    have := ih (by omega)
    omega

/-- Only zero starts with a zero. -/
theorem head?_digits {n : Nat} (h : n ≠ 0) : (digits n).head? ≠ some '0' := by
  induction n using digits.induct with
  | case1 n hn =>
    rw [digits, if_pos hn]
    interval_cases n
    · exact absurd rfl h
    all_goals decide
  | case2 n hn ih =>
    rw [digits, if_neg hn, List.head?_append, Option.or_of_isSome (by simp [digits_ne_nil])]
    exact ih (by omega)

theorem ofDigits_padded (width n : Nat) : ofDigits 10 (padded width n) = n := by
  rw [padded, ofDigits_zeros_append, ofDigits_digits]

theorem padded_ne_nil (width n : Nat) : padded width n ≠ [] :=
  List.append_ne_nil_of_right_ne_nil _ (digits_ne_nil n)

theorem isDigit_of_mem_zeros {k : Nat} {c : Char} (h : c ∈ List.replicate k '0') :
    c.isDigit = true := by
  rw [List.eq_of_mem_replicate h]
  rfl

theorem isDigit_of_mem_padded {width n : Nat} {c : Char} (h : c ∈ padded width n) :
    c.isDigit = true := by
  rcases List.mem_append.mp h with h | h
  · exact isDigit_of_mem_zeros h
  · exact isDigit_of_mem_digits h

end PropForge.Number
