import PropForge.Proofs.Number.Digits
import PropForge.Text.Case

/-!
The first character in upper case: what is put behind a text is not touched, and digits have no
case. Letters and digits are ranges of characters.
-/

namespace PropForge.Text

theorem isAlphanum_iff {c : Char} : c.isAlphanum = true ↔
    ((65 ≤ c.toNat ∧ c.toNat ≤ 90) ∨ 97 ≤ c.toNat ∧ c.toNat ≤ 122) ∨
      48 ≤ c.toNat ∧ c.toNat ≤ 57 := by
  change ((decide (65 ≤ c.val ∧ c.val ≤ 90) || (decide (97 ≤ c.val) && decide (c.val ≤ 122))) ||
      (decide (48 ≤ c.val) && decide (c.val ≤ 57))) = true ↔ _
  simp only [Bool.or_eq_true, Bool.and_eq_true, decide_eq_true_eq, UInt32.le_iff_toNat_le]
  exact Iff.rfl

theorem upperFirst_ofList_cons (c : Char) (cs : List Char) :
    upperFirst (String.ofList (c :: cs)) = String.ofList (upperChar c ++ cs) := by
  simp [upperFirst]

theorem upperFirst_append {s : String} (t : String) (h : s ≠ "") :
    upperFirst (s ++ t) = upperFirst s ++ t := by
  obtain ⟨c, cs, hs⟩ := List.exists_cons_of_ne_nil (mt String.toList_eq_nil_iff.mp h)
  rw [← String.ofList_toList (s := s), hs, ← String.ofList_toList (s := t),
    ← String.ofList_append, List.cons_append, upperFirst_ofList_cons, upperFirst_ofList_cons]
  simp only [String.ofList_append, String.append_assoc]

theorem upperChar_of_isDigit {c : Char} (h : c.isDigit = true) : upperChar c = [c] := by
  obtain ⟨d, hd, rfl⟩ := Number.eq_digitChar_of_isDigit h
  interval_cases d <;> rfl

theorem upperFirst_digits (n : Nat) :
    upperFirst (String.ofList (Number.digits n)) = String.ofList (Number.digits n) := by
  obtain ⟨c, cs, hs⟩ := List.exists_cons_of_ne_nil (Number.digits_ne_nil n)
  have hc : c.isDigit = true := Number.isDigit_of_mem_digits (n := n) (by simp [hs])
  rw [hs, upperFirst_ofList_cons, upperChar_of_isDigit hc, List.singleton_append]

end PropForge.Text
