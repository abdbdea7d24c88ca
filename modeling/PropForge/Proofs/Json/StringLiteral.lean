import PropForge.Json.Reader
import PropForge.Proofs.Text.Quoted

/-!
# String literals read back

A literal denotes the text it was made of, whatever follows it:

* `readString_quotedChar`: how one character is written is read as that character;
* `readString_quoted`: a whole literal.
-/

namespace PropForge

namespace Json

open Text (quotedChar unitEscape quoted)

theorem hexValue?_hexDigits {n : Nat} (h : n < 0x10000) :
    hexValue? (Number.hexDigits 4 n) = some n := by
  have all : (Number.hexDigits 4 n).all Number.isHexDigit = true :=
    List.all_eq_true.mpr fun _ => isHexDigit_of_mem_hexDigits
  rw [hexValue?, if_pos all, ofDigits_hexDigits, Nat.mod_eq_of_lt (by exact h)]

/-- The four digits of an escape, one by one. -/
theorem unitEscape_eq {n : Nat} (h : n < 0x10000) :
    ∃ a b c d, unitEscape n = ['\\', 'u', a, b, c, d] ∧ hexValue? [a, b, c, d] = some n := by
  obtain ⟨a, b, c, d, four⟩ : ∃ a b c d, Number.hexDigits 4 n = [a, b, c, d] := by
    have length := length_hexDigits 4 n
    match Number.hexDigits 4 n, length with
    | [a, b, c, d], _ => exact ⟨a, b, c, d, rfl⟩
  exact ⟨a, b, c, d, by rw [unitEscape, four], four ▸ hexValue?_hexDigits h⟩

theorem simpleEscape?_of_mem {letter c : Char} (mem : (letter, c) ∈ Text.letterEscapes) :
    simpleEscape? letter = some c := by
  have all : ∀ p ∈ Text.letterEscapes, simpleEscape? p.1 = some p.2 := by decide
  exact all _ mem

section Step

theorem readString_plain {start offset : Nat} {done rest : List Char} {c : Char}
    (quote : c ≠ '"') (backslash : c ≠ '\\') (printable : ¬ c < ' ') :
    readString start done offset (c :: rest) =
      readString start (c :: done) (offset + 1) rest := by
  conv_lhs => unfold readString
  split <;> simp_all

theorem readString_simple {start offset : Nat} {done rest : List Char} {c d : Char}
    (h : simpleEscape? c = some d) :
    readString start done offset ('\\' :: c :: rest) =
      readString start (d :: done) (offset + 2) rest := by
  unfold simpleEscape? at h
  split at h <;> cases h <;> rfl

theorem readString_unit {start offset n : Nat} {done rest : List Char} {a b c d e : Char}
    (h : hexValue? [a, b, c, d] = some n) (single : n < 0xd800 ∨ 0xdfff < n) :
    readString start done offset ('\\' :: 'u' :: a :: b :: c :: d :: e :: rest) =
      readString start (Char.ofNat n :: done) (offset + 6) (e :: rest) := by
  have notHigh : ¬ (0xd800 ≤ n ∧ n < 0xdc00) := by omega
  have notHalf : ¬ (0xd800 ≤ n ∧ n < 0xe000) := by omega
  conv_lhs => unfold readString
  simp [h, notHigh, notHalf, unitChar]

theorem readString_pair {start offset n m : Nat} {done rest : List Char}
    {a b c d a' b' c' d' e : Char}
    (high : hexValue? [a, b, c, d] = some n) (hn : 0xd800 ≤ n ∧ n < 0xdc00)
    (low : hexValue? [a', b', c', d'] = some m) (hm : 0xdc00 ≤ m ∧ m < 0xe000) :
    readString start done offset ('\\' :: 'u' :: a :: b :: c :: d ::
        '\\' :: 'u' :: a' :: b' :: c' :: d' :: e :: rest) =
      readString start (Char.ofNat (0x10000 + (n - 0xd800) * 0x400 + (m - 0xdc00)) :: done)
        (offset + 12) (e :: rest) := by
  conv_lhs => unfold readString
  simp [high, low, hn, hm]

end Step

/-- **One character.** How it is written is read as it, if something follows. -/
theorem readString_quotedChar (start offset : Nat) (done : List Char) (c e : Char)
    (rest : List Char) :
    ∃ after, readString start done offset (quotedChar c ++ e :: rest) =
      readString start (c :: done) after (e :: rest) := by
  obtain ⟨letter, text, mem⟩ | ⟨text, printable, quote, backslash⟩ | ⟨text, small⟩ |
    ⟨n, small, pair, text⟩ := Text.quotedChar_cases c <;> rw [text]
  · exact ⟨_, readString_simple (simpleEscape?_of_mem mem)⟩
  · exact ⟨_, readString_plain quote backslash (Char.not_lt.mpr printable.1)⟩
  · obtain ⟨a, b, x, y, escape, value⟩ := unitEscape_eq small
    have single := Text.not_surrogate c
    rw [escape]
    refine ⟨offset + 6, (readString_unit value (by omega)).trans ?_⟩
    rw [Char.ofNat_toNat]
  · obtain ⟨a, b, x, y, high, highValue⟩ := unitEscape_eq (n := 0xd800 + n / 0x400) (by omega)
    obtain ⟨a', b', x', y', low, lowValue⟩ := unitEscape_eq (n := 0xdc00 + n % 0x400) (by omega)
    simp only [high, low]
    refine ⟨offset + 12, (readString_pair highValue (by omega) lowValue (by omega)).trans ?_⟩
    rw [show 0x10000 + (0xd800 + n / 0x400 - 0xd800) * 0x400 + (0xdc00 + n % 0x400 - 0xdc00) =
      c.toNat by omega, Char.ofNat_toNat]

theorem readString_flatMap (start offset : Nat) (done cs rest : List Char) :
    ∃ after, readString start done offset (cs.flatMap quotedChar ++ '"' :: rest) =
      .ok (String.ofList (done.reverse ++ cs), ⟨rest, after⟩) := by
  induction cs generalizing offset done with
  | nil =>
    rw [List.flatMap_nil, List.nil_append, List.append_nil]
    exact ⟨_, rfl⟩
  | cons c cs ih =>
    obtain ⟨e, more, some⟩ : ∃ e more, cs.flatMap quotedChar ++ '"' :: rest = e :: more :=
      List.exists_cons_of_ne_nil (by simp)
    obtain ⟨after, one⟩ := readString_quotedChar start offset done c e more
    obtain ⟨last, all⟩ := ih after (c :: done)
    refine ⟨last, ?_⟩
    rw [List.flatMap_cons, List.append_assoc, some, one, ← some, all, List.reverse_cons,
      List.append_assoc, List.singleton_append]

/-- **String literals read back**, from the character after the opening quote. -/
theorem readString_quoted (start offset : Nat) (s : String) (rest : List Char) :
    ∃ after, readString start [] offset ((quoted s.toList ++ rest).drop 1) =
      .ok (s, ⟨rest, after⟩) := by
  obtain ⟨after, all⟩ := readString_flatMap start offset [] s.toList rest
  refine ⟨after, ?_⟩
  rw [List.reverse_nil, List.nil_append, String.ofList_toList] at all
  rw [← all, quoted, List.cons_append, List.drop_one, List.tail_cons, List.append_assoc,
    List.singleton_append]

end Json

end PropForge
