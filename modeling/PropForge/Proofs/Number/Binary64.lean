import Mathlib.Algebra.Order.Ring.Nat
import Mathlib.Tactic.Linarith
import Mathlib.Tactic.Ring
import PropForge.Number.Binary64
import PropForge.Proofs.Number.Digits

/-!
# Rounding to the 64-bit format

Numbers and quotients are compared as whole numbers of units, without fractions:

* `nearestUnits_of_above`, `nearestUnits_of_below`: a quotient within half a step of a number of
  the format rounds to it; below a power of two the step is half as wide;
* `representable_ofQuotient`: what a quotient rounds to is a number of the format;
* `nearestUnits_mono`: rounding is monotone;
* `ofDecimal_shift`: a decimal rounds by its worth alone, however its point is placed.
-/

namespace PropForge.Number.Binary64

section Rounding

/-- The nearest whole number is the one within half a divisor; of two it is the even one. -/
theorem roundDiv_eq {num den q : Nat} (hd : 0 < den) (low : 2 * (q * den) ≤ 2 * num + den)
    (high : 2 * num ≤ 2 * (q * den) + den)
    (tie : 2 * (q * den) = 2 * num + den ∨ 2 * num = 2 * (q * den) + den → q % 2 = 0) :
    roundDiv num den = q := by
  have parts := Nat.div_add_mod num den
  have rest := Nat.mod_lt num hd
  obtain same | next : q = num / den ∨ q = num / den + 1 := by
    have whole : num / den * den = den * (num / den) := Nat.mul_comm _ _
    have le : q * den < (num / den + 2) * den := by rw [Nat.add_mul]; omega
    have ge : num / den * den < (q + 1) * den := by rw [Nat.add_mul]; omega
    have := Nat.lt_of_mul_lt_mul_right le
    have := Nat.lt_of_mul_lt_mul_right ge
    omega
  · subst same
    have : num / den * den = den * (num / den) := Nat.mul_comm _ _
    simp only [roundDiv]
    grind
  · subst next
    have : (num / den + 1) * den = den * (num / den) + den := by ring
    simp only [roundDiv]
    grind

theorem log2_eq_of_bounds {n k : Nat} (low : 2 ^ k ≤ n) (high : n < 2 ^ (k + 1)) :
    n.log2 = k := by
  have pos : n ≠ 0 := by
    have := Nat.two_pow_pos k
    omega
  have := (Nat.le_log2 pos).mpr low
  have := (Nat.log2_lt pos).mpr high
  omega

/-- A number below two to the 53rd is as exact as can be. -/
theorem stepExponent_of_lt {n : Nat} (h : n < 2 ^ 53) : stepExponent n = 0 := by
  by_cases pos : n = 0
  · subst pos; rfl
  · have := (Nat.log2_lt pos).mpr h
    simp only [stepExponent, precision]
    omega

theorem stepExponent_of_bounds {n s : Nat} (low : 2 ^ (s + 52) ≤ n) (high : n < 2 ^ (s + 53)) :
    stepExponent n = s := by
  rw [stepExponent, log2_eq_of_bounds low high, precision]
  omega

/-- A step is a fraction of its number: two to the 53rd steps go beyond it. -/
theorem lt_steps (n : Nat) : n < 2 ^ 53 * 2 ^ stepExponent n := by
  rw [← Nat.pow_add]
  by_cases pos : n = 0
  · subst pos; positivity
  · refine (Nat.log2_lt pos).mp ?_
    simp only [stepExponent, precision]
    omega

/-- Where steps are wider than a unit, a number has at least two to the 52nd of them. -/
theorem steps_le {n : Nat} (h : 0 < stepExponent n) : 2 ^ 52 * 2 ^ stepExponent n ≤ n := by
  rw [← Nat.pow_add]
  have pos : n ≠ 0 := by
    rintro rfl
    simp [stepExponent, precision] at h
  refine (Nat.le_log2 pos).mp ?_
  simp only [stepExponent, precision] at h ⊢
  omega

end Rounding

section Nearest

/-- The numbers of the format: as many whole steps, and not out of range. -/
structure Whole (units : Nat) : Prop where
  steps : 2 ^ stepExponent units ∣ units
  inRange : units < Nat.pow 2 limitExponent

variable {units num den : Nat}

/-- A quotient whose whole part has as wide a step as a number near it rounds to that number. -/
theorem nearestUnits_eq {q e : Nat} (hd : 0 < den) (step : stepExponent (num / den) = e)
    (same : units = q * 2 ^ e) (inRange : units < Nat.pow 2 limitExponent)
    (low : 2 * (units * den) ≤ 2 * num + 2 ^ e * den)
    (high : 2 * num ≤ 2 * (units * den) + 2 ^ e * den)
    (tie : 2 * (units * den) = 2 * num + 2 ^ e * den ∨
      2 * num = 2 * (units * den) + 2 ^ e * den → q % 2 = 0) :
    nearestUnits num den = some units := by
  have flat : q * (den * 2 ^ e) = units * den := by rw [same]; ring
  have width : den * 2 ^ e = 2 ^ e * den := Nat.mul_comm _ _
  have rounded : roundDiv num (den * 2 ^ e) = q := by
    apply roundDiv_eq (Nat.mul_pos hd (Nat.two_pow_pos e))
    · rw [flat, width]; exact low
    · rw [flat, width]; exact high
    · rw [flat, width]; exact tie
  have product : roundDiv num (den * Nat.pow 2 e) * Nat.pow 2 e = units := by
    rw [Nat.pow_eq, rounded, ← same]
  unfold nearestUnits
  dsimp only
  rw [step, product, if_pos inRange]

/-- A quotient at most half a step above a number rounds down to it. -/
theorem nearestUnits_of_above (hd : 0 < den) (hw : Whole units) (above : units * den ≤ num)
    (near : 2 * num ≤ 2 * (units * den) + 2 ^ stepExponent units * den)
    (tie : 2 * num = 2 * (units * den) + 2 ^ stepExponent units * den →
      units / 2 ^ stepExponent units % 2 = 0) :
    nearestUnits num den = some units := by
  obtain ⟨q, hq⟩ := hw.steps
  have pos := Nat.two_pow_pos (stepExponent units)
  have same : units = q * 2 ^ stepExponent units := by rw [Nat.mul_comm]; exact hq
  have quotient : units / 2 ^ stepExponent units = q :=
    Nat.div_eq_of_eq_mul_left pos same
  have width := Nat.mul_pos pos hd
  have low : units ≤ num / den := (Nat.le_div_iff_mul_le hd).mpr above
  have high : num / den < units + 2 ^ stepExponent units := by
    apply (Nat.div_lt_iff_lt_mul hd).mpr
    rw [Nat.add_mul]
    omega
  have step : stepExponent (num / den) = stepExponent units := by
    have top := lt_steps units
    by_cases wide : 0 < stepExponent units
    · have bottom := steps_le wide
      apply stepExponent_of_bounds
      · rw [Nat.add_comm, Nat.pow_add]; omega
      · -- the number is a whole number of steps below two to the 53rd of them
        rw [Nat.add_comm, Nat.pow_add]
        have : q < 2 ^ 53 :=
          Nat.lt_of_mul_lt_mul_right (a := 2 ^ stepExponent units) (by omega)
        calc num / den < (q + 1) * 2 ^ stepExponent units := by rw [Nat.add_mul]; omega
          _ ≤ 2 ^ 53 * 2 ^ stepExponent units := Nat.mul_le_mul_right _ this
    · have none : stepExponent units = 0 := by omega
      rw [none] at high top ⊢
      exact stepExponent_of_lt (by omega)
  refine nearestUnits_eq hd step same hw.inRange (by omega) near ?_
  rintro (h | h)
  · omega
  · rw [← quotient]; exact tie h

/-- A power of two with wide steps: below it steps are half as wide as above it. -/
def Narrow (units : Nat) : Prop := units = 2 ^ units.log2 ∧ 0 < stepExponent units

/-- A quotient at most half a step below a number that is no power of two rounds up to it. -/
theorem nearestUnits_of_below (hd : 0 < den) (hw : Whole units) (wide : ¬ Narrow units)
    (below : num < units * den)
    (near : 2 * (units * den) ≤ 2 * num + 2 ^ stepExponent units * den)
    (tie : 2 * (units * den) = 2 * num + 2 ^ stepExponent units * den →
      units / 2 ^ stepExponent units % 2 = 0) :
    nearestUnits num den = some units := by
  obtain ⟨q, hq⟩ := hw.steps
  have pos := Nat.two_pow_pos (stepExponent units)
  have same : units = q * 2 ^ stepExponent units := by rw [Nat.mul_comm]; exact hq
  have quotient : units / 2 ^ stepExponent units = q :=
    Nat.div_eq_of_eq_mul_left pos same
  have width := Nat.mul_pos pos hd
  have high : num / den < units := (Nat.div_lt_iff_lt_mul hd).mpr below
  have low : units - 2 ^ stepExponent units ≤ num / den := by
    apply (Nat.le_div_iff_mul_le hd).mpr
    rw [Nat.sub_mul]
    omega
  have step : stepExponent (num / den) = stepExponent units := by
    have top := lt_steps units
    by_cases more : 0 < stepExponent units
    · have bottom := steps_le more
      have notLeast : q ≠ 2 ^ 52 := by
        rintro rfl
        apply wide
        refine ⟨?_, more⟩
        rw [← Nat.pow_add] at same
        rw [same, Nat.log2_two_pow]
      have : 2 ^ 52 ≤ q := Nat.le_of_mul_le_mul_right (c := 2 ^ stepExponent units) (by omega) pos
      apply stepExponent_of_bounds
      · rw [Nat.add_comm, Nat.pow_add]
        have : (2 ^ 52 + 1) * 2 ^ stepExponent units ≤ units := by
          calc (2 ^ 52 + 1) * 2 ^ stepExponent units
              ≤ q * 2 ^ stepExponent units := Nat.mul_le_mul_right _ (by omega)
            _ = units := same.symm
        rw [Nat.add_mul] at this
        omega
      · rw [Nat.add_comm, Nat.pow_add]; omega
    · have none : stepExponent units = 0 := by omega
      rw [none] at top ⊢
      exact stepExponent_of_lt (by omega)
  refine nearestUnits_eq hd step same hw.inRange near (by omega) ?_
  rintro (h | h)
  · rw [← quotient]; exact tie h
  · omega

/-- Below a power of two a quotient rounds up if it is at most a quarter of the step above. -/
theorem nearestUnits_of_narrow (hd : 0 < den) (hw : Whole units) (narrow : Narrow units)
    (below : num < units * den)
    (near : 2 * (units * den) ≤ 2 * num + 2 ^ stepExponent units / 2 * den) :
    nearestUnits num den = some units := by
  obtain ⟨power, wide⟩ := narrow
  obtain ⟨s, hs⟩ : ∃ s, stepExponent units = s + 1 := ⟨stepExponent units - 1, by omega⟩
  have log : units.log2 = s + 53 := by
    simp only [stepExponent, precision] at hs
    omega
  rw [log] at power
  have half : 2 ^ stepExponent units / 2 = 2 ^ s := by
    rw [hs, Nat.pow_succ, Nat.mul_div_cancel _ (by decide)]
  rw [half] at near
  have same : units = 2 ^ 53 * 2 ^ s := by rw [power, ← Nat.pow_add, Nat.add_comm]
  have width := Nat.mul_pos (Nat.two_pow_pos s) hd
  have high : num / den < units := (Nat.div_lt_iff_lt_mul hd).mpr below
  have low : units - 2 ^ s ≤ num / den := by
    apply (Nat.le_div_iff_mul_le hd).mpr
    rw [Nat.sub_mul]
    omega
  have step : stepExponent (num / den) = s := by
    apply stepExponent_of_bounds
    · rw [Nat.add_comm, Nat.pow_add]
      have : 2 ^ s ≤ 2 ^ 52 * 2 ^ s := Nat.le_mul_of_pos_left _ (by decide)
      have : (2 : Nat) ^ 53 * 2 ^ s = 2 ^ 52 * 2 ^ s + 2 ^ 52 * 2 ^ s := by ring
      omega
    · rw [Nat.add_comm, Nat.pow_add]; omega
  exact nearestUnits_eq hd step same hw.inRange near (by omega) fun _ => by decide

end Nearest

section Representable

theorem roundDiv_le (num den : Nat) : roundDiv num den ≤ num / den + 1 := by
  simp only [roundDiv]
  grind

/-- Rounding gives at most two to the 53rd steps. -/
theorem roundDiv_steps_le (num den : Nat) :
    roundDiv num (den * 2 ^ stepExponent (num / den)) ≤ 2 ^ 53 := by
  have few := (Nat.div_lt_iff_lt_mul (Nat.two_pow_pos _)).mpr (lt_steps (num / den))
  rw [Nat.div_div_eq_div_mul] at few
  exact (roundDiv_le num _).trans few

/-- What rounding gives is whole: two to the 53rd steps, the most there can be, are a power of
two. -/
theorem whole_of_nearestUnits {num den units : Nat} (h : nearestUnits num den = some units) :
    Whole units := by
  unfold nearestUnits at h
  dsimp only at h
  generalize he : stepExponent (num / den) = e at h
  generalize hk : roundDiv num (den * Nat.pow 2 e) = k at h
  obtain ⟨inRange, same⟩ := Option.ite_none_right_eq_some.mp h
  rw [Option.some.injEq] at same
  rw [same] at inRange
  rw [Nat.pow_eq] at same hk
  refine ⟨?_, inRange⟩
  have few : k ≤ 2 ^ 53 := by
    rw [← hk, ← he]
    exact roundDiv_steps_le num den
  obtain less | full : k < 2 ^ 53 ∨ k = 2 ^ 53 := by omega
  · have le : stepExponent units ≤ e := by
      by_cases pos : units = 0
      · subst pos; exact Nat.zero_le _
      · have : units < 2 ^ (53 + e) := by
          rw [← same, Nat.pow_add]
          exact Nat.mul_lt_mul_of_pos_right less (Nat.two_pow_pos e)
        have := (Nat.log2_lt pos).mpr this
        simp only [stepExponent, precision]
        omega
    rw [← same]
    exact (Nat.pow_dvd_pow 2 (same ▸ le)).trans (Nat.dvd_mul_left _ _)
  · rw [full, ← Nat.pow_add] at same
    rw [← same, stepExponent, Nat.log2_two_pow]
    exact Nat.pow_dvd_pow 2 (by simp only [precision]; omega)

theorem le_roundDiv (num den : Nat) : num / den ≤ roundDiv num den := by
  simp only [roundDiv]
  grind

theorem den_le_of_roundDiv_ne_zero {num den : Nat} (h : roundDiv num den ≠ 0) :
    den ≤ 2 * num := by
  by_cases le : den ≤ 2 * num
  · exact le
  · have less : num < den := by omega
    simp only [roundDiv, Nat.div_eq_of_lt less, Nat.mod_eq_of_lt less] at h
    grind

theorem roundDiv_mono {m n : Nat} (le : m ≤ n) (den : Nat) : roundDiv m den ≤ roundDiv n den := by
  rcases (Nat.div_le_div_right (c := den) le).lt_or_eq with less | same
  · exact (roundDiv_le m den).trans (less.trans_le (le_roundDiv n den))
  · have rest : m % den ≤ n % den := by
      have parts := Nat.div_add_mod m den
      have parts' := Nat.div_add_mod n den
      rw [same] at parts
      omega
    simp only [roundDiv, same]
    split_ifs <;> omega

/-- **Rounding is monotone.** -/
theorem nearestUnits_mono {m n den u v : Nat} (le : m ≤ n) (hm : nearestUnits m den = some u)
    (hn : nearestUnits n den = some v) : u ≤ v := by
  unfold nearestUnits at hm hn
  dsimp only at hm hn
  obtain ⟨-, hm⟩ := Option.ite_none_right_eq_some.mp hm
  obtain ⟨-, hn⟩ := Option.ite_none_right_eq_some.mp hn
  rw [Option.some.injEq, Nat.pow_eq] at hm hn
  have floor := Nat.div_le_div_right (c := den) le
  have few := roundDiv_steps_le m den
  generalize he : stepExponent (m / den) = e at hm few
  generalize hf : stepExponent (n / den) = f at hn
  have many (wide : 0 < f) : 2 ^ 52 ≤ roundDiv n (den * 2 ^ f) := by
    have steps := steps_le (n := n / den) (by rwa [hf])
    rw [hf, ← Nat.le_div_iff_mul_le (Nat.two_pow_pos f), Nat.div_div_eq_div_mul] at steps
    exact steps.trans (le_roundDiv n _)
  rw [← hm, ← hn]
  rcases Nat.lt_trichotomy e f with less | rfl | more
  · calc roundDiv m (den * 2 ^ e) * 2 ^ e
        ≤ 2 ^ 53 * 2 ^ e := Nat.mul_le_mul_right _ few
      _ = 2 ^ 52 * 2 ^ (e + 1) := by ring
      _ ≤ 2 ^ 52 * 2 ^ f := Nat.mul_le_mul_left _ (Nat.pow_le_pow_right (by decide) less)
      _ ≤ roundDiv n (den * 2 ^ f) * 2 ^ f := Nat.mul_le_mul_right _ (many (by omega))
  · exact Nat.mul_le_mul_right _ (roundDiv_mono le _)
  · -- a greater number has no smaller step
    have high := lt_steps (n / den)
    have low := steps_le (n := m / den) (by omega)
    rw [hf] at high
    rw [he] at low
    have : 2 ^ 53 * 2 ^ f ≤ 2 ^ 52 * 2 ^ e := by
      calc 2 ^ 53 * 2 ^ f = 2 ^ 52 * 2 ^ (f + 1) := by ring
        _ ≤ 2 ^ 52 * 2 ^ e := Nat.mul_le_mul_left _ (Nat.pow_le_pow_right (by decide) more)
    omega

/-- Whole numbers are compared as they are, unless rounding makes them equal. -/
theorem not_less_of_le {m n : Nat} {x y : Binary64} (le : m ≤ n) (hm : ofInt? m = some x)
    (hn : ofInt? n = some y) : y.less x = false := by
  obtain ⟨u, hu, rfl⟩ := Option.map_eq_some_iff.mp hm
  obtain ⟨v, hv, rfl⟩ := Option.map_eq_some_iff.mp hn
  have units := nearestUnits_mono (Nat.mul_le_mul_right _ le) hu hv
  have positive (k : Nat) : decide ((k : Int) < 0) = false := decide_eq_false (by omega)
  simp only [less, signedUnits, positive, Bool.false_eq_true, if_false, decide_eq_false_iff_not]
  omega

/-- A quotient that rounds to a number is at least half a unit and less than twice the number. -/
theorem bounds_of_nearestUnits {num den units : Nat} (hd : 0 < den) (pos : units ≠ 0)
    (h : nearestUnits num den = some units) : den ≤ 2 * num ∧ num < 2 * (units * den) := by
  unfold nearestUnits at h
  dsimp only at h
  obtain ⟨-, same⟩ := Option.ite_none_right_eq_some.mp h
  rw [Option.some.injEq] at same
  by_cases wide : 0 < stepExponent (num / den)
  · have many := steps_le wide
    have least := Nat.one_le_two_pow (n := stepExponent (num / den))
    have floor := le_roundDiv num (den * 2 ^ stepExponent (num / den))
    rw [Nat.pow_eq] at same
    generalize 2 ^ stepExponent (num / den) = step at *
    have parts := Nat.div_add_mod num (den * step)
    have rest := Nat.mod_lt num (Nat.mul_pos hd least)
    have below : den * step * (num / (den * step)) ≤ units * den := by
      calc den * step * (num / (den * step)) = num / (den * step) * step * den := by ring
        _ ≤ roundDiv num (den * step) * step * den :=
          Nat.mul_le_mul_right _ (Nat.mul_le_mul_right _ floor)
        _ = units * den := by rw [same]
    have much : 2 ^ 52 * (den * step) ≤ num := by
      calc 2 ^ 52 * (den * step) = 2 ^ 52 * step * den := by ring
        _ ≤ num / den * den := Nat.mul_le_mul_right _ many
        _ ≤ num := Nat.div_mul_le_self _ _
    have : den ≤ den * step := Nat.le_mul_of_pos_right _ least
    omega
  · have none : stepExponent (num / den) = 0 := by omega
    rw [none, Nat.pow_eq, Nat.pow_zero, Nat.mul_one, Nat.mul_one] at same
    subst same
    refine ⟨den_le_of_roundDiv_ne_zero pos, ?_⟩
    have floor := le_roundDiv num den
    have parts := Nat.div_add_mod num den
    have rest := Nat.mod_lt num hd
    have : den * (num / den) ≤ roundDiv num den * den := by
      rw [Nat.mul_comm]
      exact Nat.mul_le_mul_right _ floor
    have : den ≤ roundDiv num den * den := Nat.le_mul_of_pos_left _ (by omega)
    omega

/-- The values that the format has, which are all that reading gives. -/
inductive Representable : Binary64 → Prop where
  | finite (negative : Bool) {units : Nat} (whole : Whole units) :
      Representable (.finite negative units)
  | infinite (negative : Bool) : Representable (.infinite negative)
  | nan : Representable .nan

theorem pow_two_pos (n : Nat) : 0 < Nat.pow 2 n := Nat.two_pow_pos n

theorem whole_zero : Whole 0 where
  steps := Nat.dvd_zero _
  inRange := pow_two_pos limitExponent

/-- A number of few units, each wide, is of the format. -/
theorem whole_mul_pow {n k : Nat} (h : n < 2 ^ 53) (small : 53 + k ≤ limitExponent) :
    Whole (n * 2 ^ k) := by
  have size : n * 2 ^ k < 2 ^ (53 + k) := by
    rw [Nat.pow_add]
    exact Nat.mul_lt_mul_of_pos_right h (Nat.two_pow_pos k)
  refine ⟨?_, size.trans_le (Nat.pow_le_pow_right (by decide) small)⟩
  refine (Nat.pow_dvd_pow 2 ?_).trans (Nat.dvd_mul_left (2 ^ k) n)
  by_cases pos : n * 2 ^ k = 0
  · rw [pos, stepExponent_of_lt (Nat.two_pow_pos 53)]
    exact Nat.zero_le k
  · have log := (Nat.log2_lt pos).mpr size
    simp only [stepExponent, precision]
    omega

theorem nearestUnits_of_whole {units : Nat} (h : Whole units) : nearestUnits units 1 = some units := by
  refine nearestUnits_of_above Nat.one_pos h (by omega) (by omega) fun tie => ?_
  have step := Nat.two_pow_pos (stepExponent units)
  omega

/-- Whole numbers below two to the 53rd are not rounded. -/
theorem ofInt?_of_lt {n : Nat} (h : n < 2 ^ 53) :
    ofInt? n = some (finite false (n * Nat.pow 2 unitExponent)) := by
  have exact := nearestUnits_of_whole (whole_mul_pow h (k := unitExponent) (by decide))
  have positive : decide ((n : Int) < 0) = false := decide_eq_false (by omega)
  rw [← Nat.pow_eq] at exact
  unfold ofInt?
  rw [Int.natAbs_natCast, exact, positive, Option.map_some]

theorem less_of_lt {m n : Nat} {x y : Binary64} (lt : m < n) (small : n < 2 ^ 53)
    (hm : ofInt? m = some x) (hn : ofInt? n = some y) : x.less y = true := by
  rw [ofInt?_of_lt (lt.trans small)] at hm
  rw [ofInt?_of_lt small] at hn
  cases hm
  cases hn
  have units := Nat.mul_lt_mul_of_pos_right lt (pow_two_pos unitExponent)
  generalize Nat.pow 2 unitExponent = unit at units ⊢
  simp only [less, signedUnits, Bool.false_eq_true, if_false, decide_eq_true_eq]
  omega

theorem ofQuotient_of_nearestUnits {negative : Bool} {num den units : Nat}
    (h : nearestUnits num den = some units) :
    ofQuotient negative num den = finite negative units := by
  unfold ofQuotient
  rw [h]

theorem representable_ofQuotient (negative : Bool) (num den : Nat) :
    (ofQuotient negative num den).Representable := by
  unfold ofQuotient
  split
  · rename_i found
    exact .finite _ (whole_of_nearestUnits found)
  · exact .infinite _

end Representable

section Decimal

theorem roundDiv_scale {k : Nat} (hk : 0 < k) (num den : Nat) :
    roundDiv (k * num) (k * den) = roundDiv num den := by
  have twice : 2 * (k * (num % den)) = k * (2 * (num % den)) := by ring
  simp only [roundDiv, Nat.mul_div_mul_left _ _ hk, Nat.mul_mod_mul_left, twice,
    Nat.mul_lt_mul_left hk]

theorem nearestUnits_scale {k : Nat} (hk : 0 < k) (num den : Nat) :
    nearestUnits (k * num) (k * den) = nearestUnits num den := by
  simp only [nearestUnits, Nat.mul_div_mul_left _ _ hk, Nat.mul_assoc, roundDiv_scale hk]

/-- Equal quotients round to the same number. -/
theorem nearestUnits_congr {num den num' den' : Nat} (hd : 0 < den) (hd' : 0 < den')
    (same : num * den' = num' * den) : nearestUnits num den = nearestUnits num' den' := by
  calc nearestUnits num den
      = nearestUnits (den' * num) (den' * den) := (nearestUnits_scale hd' _ _).symm
    _ = nearestUnits (den * num') (den * den') := by
        rw [Nat.mul_comm den' num, same, Nat.mul_comm num' den, Nat.mul_comm den' den]
    _ = nearestUnits num' den' := nearestUnits_scale hd _ _

theorem ofQuotient_congr {negative : Bool} {num den num' den' : Nat} (hd : 0 < den)
    (hd' : 0 < den') (same : num * den' = num' * den) :
    ofQuotient negative num den = ofQuotient negative num' den' := by
  unfold ofQuotient
  rw [nearestUnits_congr hd hd' same]

/-- A decimal in range as a quotient of units. -/
theorem ofDecimal_eq_ofQuotient (negative : Bool) {mantissa : Nat} {exponent : Int}
    (pos : mantissa ≠ 0) (low : -400 ≤ ((digits mantissa).length : Int) + exponent)
    (high : ((digits mantissa).length : Int) + exponent ≤ 400) :
    ofDecimal negative mantissa exponent =
      ofQuotient negative (mantissa * (10 ^ exponent.toNat * 2 ^ unitExponent))
        (10 ^ (-exponent).toNat) := by
  have inside : ¬ ((mantissa = 0 || ((digits mantissa).length : Int) + exponent < -400) = true) := by
    simp [pos]; omega
  unfold ofDecimal
  dsimp only
  rw [if_neg inside, if_neg (by omega)]
  cases exponent with
  | ofNat e =>
    have none : (-Int.ofNat e).toNat = 0 := by
      rw [Int.ofNat_eq_natCast]
      omega
    have some : (Int.ofNat e).toNat = e := rfl
    rw [none, some, Nat.pow_zero]
    simp only [Nat.pow_eq, Nat.mul_assoc]
  | negSucc e =>
    have none : (Int.negSucc e).toNat = 0 := rfl
    have some : (-Int.negSucc e).toNat = e + 1 := by omega
    rw [none, some, Nat.pow_zero, Nat.one_mul]
    simp only [Nat.pow_eq]

theorem ofDecimal_zero (negative : Bool) (exponent : Int) :
    ofDecimal negative 0 exponent = finite negative 0 := by
  unfold ofDecimal
  dsimp only
  rw [if_pos (by simp only [decide_true, Bool.true_or])]

theorem ofDecimal_of_low (negative : Bool) {mantissa : Nat} {exponent : Int}
    (low : ((digits mantissa).length : Int) + exponent < -400) :
    ofDecimal negative mantissa exponent = finite negative 0 := by
  unfold ofDecimal
  dsimp only
  rw [if_pos (by simp only [low, decide_true, Bool.or_true])]

theorem ofDecimal_of_high (negative : Bool) {mantissa : Nat} {exponent : Int}
    (pos : mantissa ≠ 0) (high : 400 < ((digits mantissa).length : Int) + exponent) :
    ofDecimal negative mantissa exponent = infinite negative := by
  have inside : ¬ ((mantissa = 0 || ((digits mantissa).length : Int) + exponent < -400) = true) := by
    simp [pos]; omega
  unfold ofDecimal
  dsimp only
  rw [if_neg inside, if_pos high]

theorem representable_ofDecimal (negative : Bool) (mantissa : Nat) (exponent : Int) :
    (ofDecimal negative mantissa exponent).Representable := by
  by_cases pos : mantissa = 0
  · rw [pos, ofDecimal_zero]
    exact .finite _ whole_zero
  · by_cases low : -400 ≤ ((digits mantissa).length : Int) + exponent
    · by_cases high : ((digits mantissa).length : Int) + exponent ≤ 400
      · rw [ofDecimal_eq_ofQuotient _ pos low high]
        exact representable_ofQuotient _ _ _
      · rw [ofDecimal_of_high _ pos (by omega)]
        exact .infinite _
    · rw [ofDecimal_of_low _ (by omega)]
      exact .finite _ whole_zero

/-- Powers of ten may go from the exponent into the mantissa. -/
theorem ofDecimal_shift (negative : Bool) (mantissa k : Nat) (exponent : Int) :
    ofDecimal negative (mantissa * 10 ^ k) exponent = ofDecimal negative mantissa (exponent + k) := by
  by_cases pos : mantissa = 0
  · subst pos
    rw [Nat.zero_mul, ofDecimal_zero, ofDecimal_zero]
  · have size : ((digits (mantissa * 10 ^ k)).length : Int) + exponent =
        ((digits mantissa).length : Int) + (exponent + k) := by
      rw [length_digits_mul_pow pos]
      omega
    have pos' : mantissa * 10 ^ k ≠ 0 := Nat.mul_ne_zero pos (Nat.pow_pos (by decide)).ne'
    by_cases low : -400 ≤ ((digits mantissa).length : Int) + (exponent + k)
    · by_cases high : ((digits mantissa).length : Int) + (exponent + k) ≤ 400
      · rw [ofDecimal_eq_ofQuotient _ pos' (size ▸ low) (size ▸ high),
          ofDecimal_eq_ofQuotient _ pos low high]
        have ten (n : Nat) : 0 < 10 ^ n := Nat.pow_pos (by decide)
        apply ofQuotient_congr (ten _) (ten _)
        have powers : 10 ^ k * 10 ^ exponent.toNat * 10 ^ (-(exponent + k)).toNat =
            10 ^ (exponent + k).toNat * 10 ^ (-exponent).toNat := by
          simp only [← Nat.pow_add]
          congr 1
          omega
        calc mantissa * 10 ^ k * (10 ^ exponent.toNat * 2 ^ unitExponent) *
              10 ^ (-(exponent + k)).toNat
            = mantissa * 2 ^ unitExponent *
              (10 ^ k * 10 ^ exponent.toNat * 10 ^ (-(exponent + k)).toNat) := by ring
          _ = mantissa * 2 ^ unitExponent *
              (10 ^ (exponent + k).toNat * 10 ^ (-exponent).toNat) := by rw [powers]
          _ = mantissa * (10 ^ (exponent + k).toNat * 2 ^ unitExponent) *
              10 ^ (-exponent).toNat := by ring
      · rw [ofDecimal_of_high _ pos' (by omega), ofDecimal_of_high _ pos (by omega)]
    · rw [ofDecimal_of_low _ (by omega), ofDecimal_of_low _ (by omega)]

end Decimal

end PropForge.Number.Binary64
