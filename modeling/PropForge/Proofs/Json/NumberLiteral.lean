import Mathlib.Data.List.TakeWhile
import PropForge.Json.Reader
import PropForge.Json.Writer
import PropForge.Proofs.Number.Shortest

/-!
# Number literals read back

* `readNumber_text`: a literal denotes what its parts say, whatever stands behind it;
* `denotes_decimal`, `denotes_magnitudeText`: whole numbers, and numbers of the 64-bit format in
  each of their layouts.
-/

namespace PropForge.Json

open Number (ofDigits Binary64)

section Literal

/-- What may follow a value in a text that was written: a comma or a line break. -/
def Ends (rest : List Char) : Prop := ∃ c tail, rest = c :: tail ∧ (c = ',' ∨ c = '\n')

def AllDigits (cs : List Char) : Prop := ∀ c ∈ cs, c.isDigit = true

namespace NumberParts

/-- The text of the fraction with its point. -/
def fractionText (p : NumberParts) : List Char :=
  if p.fraction.isEmpty then [] else '.' :: p.fraction

/-- The text of the exponent with its letter and its sign. -/
def exponentText (p : NumberParts) : List Char :=
  if p.exponent.isEmpty then [] else 'e' :: (if p.negativeExponent then '-' else '+') :: p.exponent

/-- The literal that has these parts. -/
def text (p : NumberParts) : List Char :=
  (if p.negative then ['-'] else []) ++ (p.whole ++ (p.fractionText ++ p.exponentText))

/-- Parts that a literal can have. -/
structure Plain (p : NumberParts) : Prop where
  whole : AllDigits p.whole
  nonempty : p.whole ≠ []
  leading : p.whole = ['0'] ∨ p.whole.head? ≠ some '0'
  fraction : AllDigits p.fraction
  exponent : AllDigits p.exponent

end NumberParts

/-- Where digits end. -/
def Stops (rest : List Char) : Prop := ∀ c ∈ rest.head?, c.isDigit = false

theorem takeWhile_digits {ds rest : List Char} (all : AllDigits ds) (stop : Stops rest) :
    (ds ++ rest).takeWhile Char.isDigit = ds := by
  rw [List.takeWhile_append_of_pos all]
  cases rest with
  | nil => simp
  | cons c rest => simp [stop c rfl]

theorem Ends.stops {rest : List Char} (h : Ends rest) : Stops rest := by
  obtain ⟨c, tail, rfl, rfl | rfl⟩ := h <;> exact fun _ same => by cases same; rfl

theorem wholeDigits_append {whole tail : List Char} (all : AllDigits whole) (nonempty : whole ≠ [])
    (leading : whole = ['0'] ∨ whole.head? ≠ some '0') (stop : Stops tail) :
    wholeDigits (whole ++ tail) = whole := by
  obtain ⟨d, ds, rfl⟩ := List.exists_cons_of_ne_nil nonempty
  unfold wholeDigits
  split
  · rename_i same
    rcases leading with leading | leading
    · exact leading.symm
    · rw [List.cons_append, List.cons.injEq] at same
      exact absurd (congrArg some same.1) leading
  · exact takeWhile_digits all stop

variable {p : NumberParts} {rest : List Char}

theorem stops_exponentText (ends : Ends rest) : Stops (p.exponentText ++ rest) := by
  unfold NumberParts.exponentText
  split
  · exact ends.stops
  · exact fun _ same => by cases same; rfl

theorem stops_fractionText (ends : Ends rest) :
    Stops (p.fractionText ++ (p.exponentText ++ rest)) := by
  unfold NumberParts.fractionText
  split
  · exact stops_exponentText ends
  · exact fun _ same => by cases same; rfl

theorem fractionDigits_text (plain : p.Plain) (ends : Ends rest) :
    fractionDigits (p.fractionText ++ (p.exponentText ++ rest)) = p.fraction := by
  unfold NumberParts.fractionText
  split
  · rename_i none
    rw [List.isEmpty_iff] at none
    rw [none, List.nil_append]
    unfold NumberParts.exponentText
    split
    · obtain ⟨c, tail, rfl, rfl | rfl⟩ := ends <;> rfl
    · rfl
  · exact takeWhile_digits plain.fraction (stops_exponentText ends)

theorem exponentDigits_text (plain : p.Plain) (ends : Ends rest) :
    exponentDigits (p.exponentText ++ rest) = p.exponent := by
  unfold NumberParts.exponentText
  split
  · rename_i none
    rw [List.isEmpty_iff] at none
    rw [none, List.nil_append]
    obtain ⟨c, tail, rfl, rfl | rfl⟩ := ends <;> rfl
  · have digits := takeWhile_digits plain.exponent ends.stops
    cases p.negativeExponent <;> exact digits

theorem exponentSign_text (some : p.exponent ≠ []) :
    exponentSign (p.exponentText ++ rest) = (p.negativeExponent, 2) := by
  have : p.exponent.isEmpty = false := by simpa using some
  unfold NumberParts.exponentText
  rw [this]
  cases p.negativeExponent <;> rfl

theorem head?_text (plain : p.Plain) :
    ((p.text ++ rest).head? = some '-') ↔ p.negative = true := by
  obtain ⟨d, ds, whole⟩ := List.exists_cons_of_ne_nil plain.nonempty
  have digit := plain.whole d (by rw [whole]; exact List.mem_cons_self)
  unfold NumberParts.text
  rw [whole]
  cases p.negative with
  | true => exact iff_of_true rfl rfl
  | false =>
    refine iff_of_false ?_ (by decide)
    rintro same
    rw [show d = '-' from Option.some.inj same] at digit
    cases digit

/-- The parts of a literal are found again, the sign of an exponent if there is one. -/
theorem numberParts_text (plain : p.Plain) (ends : Ends rest) :
    ∃ negativeExponent, numberParts (p.text ++ rest) =
        { p with negativeExponent, length := p.text.length } ∧
      (p.exponent ≠ [] → negativeExponent = p.negativeExponent) := by
  have unsigned : (if (p.text ++ rest).head? = some '-' then (p.text ++ rest).drop 1
      else p.text ++ rest) = p.whole ++ (p.fractionText ++ (p.exponentText ++ rest)) := by
    rw [if_congr (head?_text plain) rfl rfl]
    unfold NumberParts.text
    cases p.negative <;> simp
  have whole := wholeDigits_append plain.whole plain.nonempty plain.leading
    (stops_fractionText (p := p) ends)
  have afterFraction : (p.fractionText ++ (p.exponentText ++ rest)).drop
      (p.fraction.length + if p.fraction.isEmpty then 0 else 1) = p.exponentText ++ rest := by
    rw [show p.fraction.length + (if p.fraction.isEmpty then 0 else 1) = p.fractionText.length by
      unfold NumberParts.fractionText; cases p.fraction <;> simp]
    exact List.drop_left
  refine ⟨(exponentSign (p.exponentText ++ rest)).1, ?_, fun some => by
    rw [exponentSign_text some]⟩
  have negative : decide ((p.text ++ rest).head? = some '-') = p.negative := by
    rw [Bool.eq_iff_iff, decide_eq_true_iff]
    exact head?_text plain
  have length : (if (p.text ++ rest).head? = some '-' then 1 else 0) + p.whole.length +
      (if p.fraction.isEmpty then 0 else 1) + p.fraction.length +
      (if p.exponent.isEmpty then 0
        else (exponentSign (p.exponentText ++ rest)).2 + p.exponent.length) = p.text.length := by
    rw [if_congr (head?_text plain) rfl rfl]
    unfold NumberParts.text NumberParts.fractionText
    by_cases none : p.exponent = []
    · cases p.negative <;> cases p.fraction <;> simp [NumberParts.exponentText, none] <;> omega
    · rw [exponentSign_text none]
      cases p.negative <;> cases p.fraction <;> simp [NumberParts.exponentText, none] <;> omega
  simp only [numberParts, negative, unsigned, whole, List.drop_left, fractionDigits_text plain ends,
    afterFraction, exponentDigits_text plain ends, length]

/-- **A literal** denotes what its parts say, and is read up to its end. -/
theorem readNumber_text (plain : p.Plain) (ends : Ends rest) (offset : Nat) :
    ∃ after, readNumber ⟨p.text ++ rest, offset⟩ = .ok (p.value, ⟨rest, after⟩) := by
  obtain ⟨negativeExponent, parts, sign⟩ := numberParts_text plain ends
  refine ⟨offset + p.text.length, ?_⟩
  have whole : p.whole.isEmpty = false := by simpa using plain.nonempty
  have value : { p with negativeExponent, length := p.text.length }.value = p.value := by
    by_cases none : p.exponent = []
    · simp [NumberParts.value, none]
    · simp [NumberParts.value, sign none]
  unfold readNumber
  dsimp only
  rw [parts, value]
  simp [whole, Cursor.advance]

end Literal

section Layout

open Number.Binary64 (Exact magnitudeText positional scientific)

/-- A text that is the literal of a value. -/
def Denotes (cs : List Char) (v : Json) : Prop :=
  ∃ p : NumberParts, p.Plain ∧ p.text = cs ∧ p.value = v

theorem leading_digits (n : Nat) :
    Number.digits n = ['0'] ∨ (Number.digits n).head? ≠ some '0' := by
  by_cases zero : n = 0
  · subst zero
    exact .inl (by rw [Number.digits]; rfl)
  · exact .inr (Number.head?_digits zero)

theorem denotes_decimal (n : Int) : Denotes (Number.decimal n) (integer n) := by
  have plain (negative : Bool) (n : Nat) :
      NumberParts.Plain ⟨negative, Number.digits n, [], false, [], 0⟩ :=
    { whole := fun _ => Number.isDigit_of_mem_digits
      nonempty := Number.digits_ne_nil n
      leading := leading_digits n
      fraction := fun _ h => by cases h
      exponent := fun _ h => by cases h }
  cases n with
  | ofNat n =>
    refine ⟨_, plain false n, ?_, ?_⟩
    · simp [NumberParts.text, NumberParts.fractionText, NumberParts.exponentText, Number.decimal]
    · simp [NumberParts.value, Number.ofDigits_digits]
  | negSucc n =>
    refine ⟨_, plain true (n + 1), ?_, ?_⟩
    · simp [NumberParts.text, NumberParts.fractionText, NumberParts.exponentText, Number.decimal]
    · simp [NumberParts.value, Number.ofDigits_digits, Int.negSucc_eq]

/-- A sign in front of a text that has none. -/
def signed (negative : Bool) (cs : List Char) : List Char := if negative then '-' :: cs else cs

variable {units : Nat} {s : Binary64.Scientific}

theorem denotes_zero (negative : Bool) :
    Denotes (signed negative ['0', '.', '0']) (real (.finite negative 0)) := by
  refine ⟨⟨negative, ['0'], ['0'], false, [], 0⟩, ⟨?_, by simp, .inl rfl, ?_, ?_⟩, ?_, ?_⟩
  · intro c h; rw [List.mem_singleton.mp h]; rfl
  · intro c h; rw [List.mem_singleton.mp h]; rfl
  · intro c h; cases h
  · cases negative <;> rfl
  · exact congrArg real (Number.Binary64.ofDecimal_zero negative _)

theorem denotes_scientific (negative : Bool) (exact : Exact units s) :
    Denotes (signed negative (scientific s)) (real (.finite negative units)) := by
  obtain ⟨d, ds, split⟩ := List.exists_cons_of_ne_nil exact.nonempty
  have exponent : Number.padded 2 s.exponent.natAbs ≠ [] := by
    simp [Number.padded, Number.digits_ne_nil]
  refine ⟨⟨negative, [d], ds, decide (s.exponent < 0), Number.padded 2 s.exponent.natAbs, 0⟩,
    ⟨?_, by simp, .inr ?_, ?_, fun _ => Number.isDigit_of_mem_padded⟩, ?_, ?_⟩
  · intro c h
    rw [List.mem_singleton.mp h]
    exact exact.isDigit d (by rw [split]; exact List.mem_cons_self)
  · have := exact.leading
    rw [split] at this
    exact this
  · intro c h
    exact exact.isDigit c (by rw [split]; exact List.mem_cons_of_mem _ h)
  · have sign : (if decide (s.exponent < 0) = true then '-' else '+') =
        if s.exponent < 0 then '-' else '+' := by simp
    cases negative <;> cases ds <;>
      simp [NumberParts.text, NumberParts.fractionText, NumberParts.exponentText, signed, split,
        scientific, Binary64.exponentText, exponent]
  · have worth := exact.worth negative
    have power : (if s.exponent < 0 then -(s.exponent.natAbs : Int) else s.exponent.natAbs) -
        (ds.length : Int) = s.exponent + 1 - (d :: ds).length := by
      rw [List.length_cons]
      omega
    rw [split, ← power] at worth
    rw [← worth]
    simp [NumberParts.value, exponent, Number.ofDigits_padded]

/-- Below one: a zero, the point, and zeros in front of the digits. -/
theorem denotes_positional_of_neg (negative : Bool) (exact : Exact units s)
    (below : s.exponent < 0) :
    Denotes (signed negative (positional s)) (real (.finite negative units)) := by
  refine ⟨⟨negative, ['0'], List.replicate (s.exponent.natAbs - 1) '0' ++ s.digits, false, [], 0⟩,
    ⟨?_, by simp, .inl rfl, ?_, ?_⟩, ?_, ?_⟩
  · intro c h
    rw [List.mem_singleton.mp h]
    rfl
  · intro c h
    rcases List.mem_append.mp h with h | h
    · exact Number.isDigit_of_mem_zeros h
    · exact exact.isDigit c h
  · intro c h
    cases h
  · cases negative <;>
      simp [NumberParts.text, NumberParts.fractionText, NumberParts.exponentText, signed,
        positional, below, exact.nonempty]
  · have worth := exact.worth negative
    have mantissa : ofDigits 10 ('0' :: (List.replicate (s.exponent.natAbs - 1) '0' ++ s.digits)) =
        ofDigits 10 s.digits := by
      rw [← List.cons_append, ← List.replicate_succ, Number.ofDigits_zeros_append]
    have power : -((List.replicate (s.exponent.natAbs - 1) '0' ++ s.digits).length : Int) =
        s.exponent + 1 - s.digits.length := by
      rw [List.length_append, List.length_replicate]
      omega
    rw [← power, ← mantissa] at worth
    rw [← worth]
    simp [NumberParts.value, exact.nonempty, ofDigits]

/-- From one on, digits that end before the point: zeros stand for the places up to it and for the
fraction. -/
theorem denotes_positional_of_short (negative : Bool) (exact : Exact units s)
    (above : ¬ s.exponent < 0) (short : s.digits.length ≤ s.exponent.toNat + 1) :
    Denotes (signed negative (positional s)) (real (.finite negative units)) := by
  generalize hk : s.exponent.toNat + 1 - s.digits.length = k
  refine ⟨⟨negative, s.digits ++ List.replicate k '0', ['0'], false, [], 0⟩,
    ⟨?_, by simp [exact.nonempty], .inr ?_, ?_, ?_⟩, ?_, ?_⟩
  · intro c h
    rcases List.mem_append.mp h with h | h
    · exact exact.isDigit c h
    · exact Number.isDigit_of_mem_zeros h
  · obtain ⟨d, ds, split⟩ := List.exists_cons_of_ne_nil exact.nonempty
    have := exact.leading
    rw [split] at this ⊢
    exact this
  · intro c h
    rw [List.mem_singleton.mp h]
    rfl
  · intro c h
    cases h
  · have back : s.digits.drop (s.exponent.toNat + 1) = [] := List.drop_eq_nil_of_le short
    have front : s.digits.take (s.exponent.toNat + 1) = s.digits := List.take_of_length_le short
    cases negative <;>
      simp [NumberParts.text, NumberParts.fractionText, NumberParts.exponentText, signed,
        positional, above, back, front, hk]
  · have mantissa : ofDigits 10 (s.digits ++ List.replicate k '0' ++ ['0']) =
        ofDigits 10 s.digits * 10 ^ (k + 1) := by
      rw [List.append_assoc, ← List.replicate_succ', Binary64.ofDigits_append_zeros]
    have worth := exact.worth negative
    rw [show s.exponent + 1 - s.digits.length = -1 + (k + 1 : Nat) by omega,
      ← Binary64.ofDecimal_shift, ← mantissa] at worth
    rw [← worth]
    simp [NumberParts.value]

/-- From one on, digits that go beyond the point. -/
theorem denotes_positional_of_long (negative : Bool) (exact : Exact units s)
    (above : ¬ s.exponent < 0) (long : s.exponent.toNat + 1 < s.digits.length) :
    Denotes (signed negative (positional s)) (real (.finite negative units)) := by
  have some : s.digits.drop (s.exponent.toNat + 1) ≠ [] := by
    rw [Ne, List.drop_eq_nil_iff]
    omega
  refine ⟨⟨negative, s.digits.take (s.exponent.toNat + 1), s.digits.drop (s.exponent.toNat + 1),
    false, [], 0⟩, ⟨?_, by simp [exact.nonempty], .inr ?_, ?_, ?_⟩, ?_, ?_⟩
  · intro c h
    exact exact.isDigit c (List.mem_of_mem_take h)
  · obtain ⟨d, ds, split⟩ := List.exists_cons_of_ne_nil exact.nonempty
    have := exact.leading
    rw [split] at this ⊢
    exact this
  · intro c h
    exact exact.isDigit c (List.mem_of_mem_drop h)
  · intro c h
    cases h
  · have none : s.exponent.toNat + 1 - s.digits.length = 0 := by omega
    cases negative <;>
      simp [NumberParts.text, NumberParts.fractionText, NumberParts.exponentText, signed,
        positional, above, none, some]
  · have worth := exact.worth negative
    rw [show s.exponent + 1 - s.digits.length =
      -((s.digits.drop (s.exponent.toNat + 1)).length : Int) by
        rw [List.length_drop]; omega] at worth
    rw [← worth]
    simp [NumberParts.value, some]

/-- **Numbers read back**: how a number of the format is written denotes it. -/
theorem denotes_magnitudeText (negative : Bool) (whole : Binary64.Whole units) :
    Denotes (signed negative (magnitudeText units)) (real (.finite negative units)) := by
  unfold magnitudeText
  split
  · rename_i zero
    subst zero
    exact denotes_zero negative
  · rename_i pos
    have exact := Binary64.shortest_exact whole pos
    dsimp only
    split
    · exact denotes_scientific negative exact
    · by_cases below : (Binary64.shortest units).exponent < 0
      · exact denotes_positional_of_neg negative exact below
      · by_cases short : (Binary64.shortest units).digits.length ≤
          (Binary64.shortest units).exponent.toNat + 1
        · exact denotes_positional_of_short negative exact below short
        · exact denotes_positional_of_long negative exact below (by omega)

end Layout

end PropForge.Json
