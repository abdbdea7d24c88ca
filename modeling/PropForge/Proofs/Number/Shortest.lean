import Mathlib.Data.List.TakeWhile
import Mathlib.Tactic.Linarith
import PropForge.Number.Shortest
import PropForge.Proofs.Number.Binary64

/-!
# Numbers read back from their digits

The digits of a number are searched from one to seventeen:

* `nearestUnits_of_readsBack`: steps that are accepted round to the number;
* `nearest?_ne_none`: at seventeen digits one of the two neighbours is accepted;
* `shortest_exact`: the digits found denote a decimal that reads back to the number.
-/

namespace PropForge.Number.Binary64

section ReadingBack

variable {units : Nat} {power : Int}

/-- Ten to minus the power: what a number of units is multiplied by to be whole on the grid. -/
def fineness (power : Int) : Nat := 10 ^ (-power).toNat

theorem fineness_pos (power : Int) : 0 < fineness power := Nat.pow_pos (by decide)

theorem scale_value (units : Nat) (power : Int) :
    (scale units power).value = units * fineness power := rfl

theorem scale_grid (units : Nat) (power : Int) :
    (scale units power).grid = 10 ^ power.toNat * Nat.pow 2 unitExponent := rfl

theorem grid_pos (units : Nat) (power : Int) : 0 < (scale units power).grid :=
  Nat.mul_pos (Nat.pow_pos (by decide)) (pow_two_pos unitExponent)

theorem scale_above (units : Nat) (power : Int) :
    (scale units power).above = 2 ^ stepExponent units * fineness power := rfl

theorem scale_below_of_narrow (h : Narrow units) :
    (scale units power).below = 2 ^ stepExponent units / 2 * fineness power := by
  have : (units = Nat.pow 2 units.log2 && 0 < stepExponent units) = true := by
    simpa [Narrow, Nat.pow_eq] using h
  simp only [scale, this, if_true]
  rfl

theorem scale_below_of_wide (h : ¬ Narrow units) :
    (scale units power).below = 2 ^ stepExponent units * fineness power := by
  have : (units = Nat.pow 2 units.log2 && 0 < stepExponent units) = false := by
    simpa [Narrow, Nat.pow_eq] using h
  simp only [scale, this, Bool.false_eq_true, if_false]
  rfl

theorem scale_closed (h : (scale units power).closed = true) :
    units / 2 ^ stepExponent units % 2 = 0 := by
  simpa [scale, Nat.pow_eq] using h

/-- Steps that are accepted are near enough to round to the number. -/
theorem nearestUnits_of_readsBack (hw : Whole units) {count : Nat}
    (h : (scale units power).readsBack count = true) :
    nearestUnits (count * (scale units power).grid) (fineness power) = some units := by
  have hd := fineness_pos power
  generalize hx : count * (scale units power).grid = x at *
  unfold Scale.readsBack at h
  simp only [hx, scale_value] at h
  split at h
  · rename_i le
    simp only [Bool.or_eq_true, Bool.and_eq_true, decide_eq_true_eq] at h
    by_cases exact : x = units * fineness power
    · exact nearestUnits_of_above hd hw exact.ge (by omega) (by
        have := Nat.mul_pos (Nat.two_pow_pos (stepExponent units)) hd
        omega)
    · by_cases narrow : Narrow units
      · rw [scale_below_of_narrow narrow] at h
        exact nearestUnits_of_narrow hd hw narrow (by omega) (by omega)
      · rw [scale_below_of_wide narrow] at h
        refine nearestUnits_of_below hd hw narrow (by omega) (by omega) fun tie => ?_
        exact scale_closed (h.resolve_left (by omega)).1
  · rename_i gt
    simp only [Bool.or_eq_true, Bool.and_eq_true, decide_eq_true_eq] at h
    rw [scale_above] at h
    refine nearestUnits_of_above hd hw (by omega) (by omega) fun tie => ?_
    exact scale_closed (h.resolve_left (by omega)).1

end ReadingBack

section Search

variable {units : Nat} {power : Int}

theorem readsBack_of_nearest? {s : Scale} {n : Nat} (h : s.nearest? = some n) :
    s.readsBack n = true := by
  unfold Scale.nearest? at h
  simp only at h
  split at h
  · split at h <;> simp_all
  all_goals simp_all

/-- A neighbour on the grid that is near enough reads back. -/
theorem nearest?_of_near {s : Scale} (grid : 0 < s.grid)
    (near : 2 * (s.value % s.grid) < s.below ∨ 2 * (s.grid - s.value % s.grid) < s.above) :
    s.nearest? ≠ none := by
  have parts := Nat.div_add_mod s.value s.grid
  have rest := Nat.mod_lt s.value grid
  have whole : s.value / s.grid * s.grid = s.grid * (s.value / s.grid) := Nat.mul_comm _ _
  have next : (s.value / s.grid + 1) * s.grid = s.grid * (s.value / s.grid) + s.grid := by
    rw [Nat.add_mul, whole, Nat.one_mul]
  have found : s.readsBack (s.value / s.grid) = true ∨
      s.readsBack (s.value / s.grid + 1) = true := by
    unfold Scale.readsBack
    dsimp only
    rcases near with low | high
    · left
      rw [if_pos (by omega), Bool.or_eq_true, decide_eq_true_eq]
      left
      omega
    · right
      rw [if_neg (by omega), Bool.or_eq_true, decide_eq_true_eq]
      left
      omega
  unfold Scale.nearest?
  dsimp only
  rcases found with found | found <;> rw [found] <;> split <;> simp_all

/-- A power of two with wide steps has two to the 52nd of them. -/
theorem steps_of_narrow (h : Narrow units) : units = 2 ^ 52 * 2 ^ stepExponent units := by
  obtain ⟨same, wide⟩ := h
  rw [← Nat.pow_add]
  rw [stepExponent, precision] at *
  rw [show 52 + (units.log2 + 1 - 53) = units.log2 by omega]
  exact same

/-- **Fine enough steps.** With sixteen digits behind the leading one, the steps of the grid are
narrower than those of the numbers, so that a neighbour reads back. -/
theorem nearest?_ne_none (fine : 10 ^ 16 * (scale units power).grid ≤ (scale units power).value) :
    (scale units power).nearest? ≠ none := by
  have grid := grid_pos units power
  have rest := Nat.mod_lt (scale units power).value grid
  apply nearest?_of_near grid
  by_cases narrow : Narrow units
  · -- a power of two has the fewest steps, so that its upper neighbour is near enough
    right
    have least : (scale units power).value = 2 ^ 52 * (scale units power).above := by
      rw [scale_value, scale_above, ← Nat.mul_assoc, ← steps_of_narrow narrow]
    omega
  · have below : (scale units power).below = (scale units power).above := by
      rw [scale_below_of_wide narrow, scale_above]
    have most : (scale units power).value < 2 ^ 53 * (scale units power).above := by
      rw [scale_value, scale_above, ← Nat.mul_assoc]
      exact Nat.mul_lt_mul_of_pos_right (lt_steps units) (fineness_pos power)
    omega

end Search

section Leading

variable {units : Nat}

/-- A third of a power of two is less than the power of ten. -/
theorem ten_pow_le_two_pow {a b : Nat} (h : 103 * a ≤ 31 * b) : 10 ^ a ≤ 2 ^ b := by
  apply (Nat.pow_le_pow_iff_left (by decide : 31 ≠ 0)).mp
  calc (10 ^ a) ^ 31 = (10 ^ 31) ^ a := by rw [← Nat.pow_mul, ← Nat.pow_mul, Nat.mul_comm]
    _ ≤ (2 ^ 103) ^ a := Nat.pow_le_pow_left (by decide) a
    _ = 2 ^ (103 * a) := (Nat.pow_mul _ _ _).symm
    _ ≤ 2 ^ (31 * b) := Nat.pow_le_pow_right (by decide) h
    _ = (2 ^ b) ^ 31 := by rw [← Nat.pow_mul, Nat.mul_comm]

theorem two_pow_le_ten_pow {a b : Nat} (h : 28 * a ≤ 93 * b) : 2 ^ a ≤ 10 ^ b := by
  apply (Nat.pow_le_pow_iff_left (by decide : 93 ≠ 0)).mp
  calc (2 ^ a) ^ 93 = (2 ^ 93) ^ a := by rw [← Nat.pow_mul, ← Nat.pow_mul, Nat.mul_comm]
    _ ≤ (10 ^ 28) ^ a := Nat.pow_le_pow_left (by decide) a
    _ = 10 ^ (28 * a) := (Nat.pow_mul _ _ _).symm
    _ ≤ 10 ^ (93 * b) := Nat.pow_le_pow_right (by decide) h
    _ = (10 ^ b) ^ 93 := by rw [← Nat.pow_mul, Nat.mul_comm]

/-- The least power of ten that is tried is not beyond the number. -/
theorem grid_le_value_of_guess (pos : units ≠ 0) (small : units.log2 < limitExponent) :
    let guess : Int := ((units.log2 : Int) - unitExponent) * 30103 / 100000
    (scale units (guess - 1)).grid ≤ (scale units (guess - 1)).value := by
  intro guess
  have le : 100000 * guess ≤ ((units.log2 : Int) - unitExponent) * 30103 :=
    Int.mul_ediv_self_le (by decide)
  have least : 2 ^ units.log2 ≤ units := Nat.log2_self_le pos
  have limit : limitExponent = 2098 := rfl
  have unit : unitExponent = 1074 := rfl
  rw [scale_grid, scale_value, fineness, Nat.pow_eq]
  generalize units.log2 = log at *
  generalize unitExponent = one at *
  by_cases sign : 0 ≤ guess - 1
  · rw [show (-(guess - 1)).toNat = 0 by omega, Nat.pow_zero, Nat.mul_one]
    have below : 10 ^ (guess - 1).toNat ≤ 2 ^ (log - one) := ten_pow_le_two_pow (by omega)
    calc 10 ^ (guess - 1).toNat * 2 ^ one ≤ 2 ^ (log - one) * 2 ^ one :=
          Nat.mul_le_mul_right _ below
      _ = 2 ^ log := by rw [← Nat.pow_add]; congr 1; omega
      _ ≤ units := least
  · rw [show (guess - 1).toNat = 0 by omega, Nat.pow_zero, Nat.one_mul]
    have below : 2 ^ (one - log) ≤ 10 ^ (-(guess - 1)).toNat := two_pow_le_ten_pow (by omega)
    calc 2 ^ one ≤ 2 ^ (log + (one - log)) := Nat.pow_le_pow_right (by decide) (by omega)
      _ = 2 ^ log * 2 ^ (one - log) := Nat.pow_add _ _ _
      _ ≤ units * 10 ^ (-(guess - 1)).toNat := Nat.mul_le_mul least below

theorem leadingPower_le (pos : units ≠ 0) (small : units.log2 < limitExponent) :
    (scale units (leadingPower units)).grid ≤ (scale units (leadingPower units)).value := by
  unfold leadingPower
  dsimp only
  split
  · rename_i h
    exact of_decide_eq_true h
  · split
    · rename_i h
      exact of_decide_eq_true h
    · exact grid_le_value_of_guess pos small

/-- Each digit more makes the steps of the grid ten times finer. -/
theorem grid_le_value_shift {power : Int}
    (h : (scale units power).grid ≤ (scale units power).value) (k : Nat) :
    10 ^ k * (scale units (power - k)).grid ≤ (scale units (power - k)).value := by
  rw [scale_grid, scale_value] at *
  generalize Nat.pow 2 unitExponent = unit at *
  have powers : 10 ^ k * 10 ^ (power - k).toNat * fineness power =
      10 ^ power.toNat * fineness (power - k) := by
    simp only [fineness, ← Nat.pow_add]
    congr 1
    omega
  apply Nat.le_of_mul_le_mul_right (c := fineness power) _ (fineness_pos power)
  calc 10 ^ k * (10 ^ (power - k).toNat * unit) * fineness power
      = 10 ^ power.toNat * unit * fineness (power - k) := by
        rw [← Nat.mul_assoc, Nat.mul_right_comm, powers, Nat.mul_right_comm]
    _ ≤ units * fineness power * fineness (power - k) := Nat.mul_le_mul_right _ h
    _ = units * fineness (power - k) * fineness power := Nat.mul_right_comm _ _ _

end Leading

section Found

variable {units : Nat}

/-- What the search gives: digits of steps that are accepted. -/
theorem searchDigits_spec {leading : Int}
    (le : (scale units leading).grid ≤ (scale units leading).value) :
    ∃ (power : Int) (n : Nat), (scale units power).readsBack n = true ∧
      searchDigits units leading = ⟨Number.digits n, power + (Number.digits n).length - 1⟩ := by
  unfold searchDigits
  cases found : (List.range 17).findSome? fun more : Nat => candidate? units (leading - more) with
  | some s =>
    obtain ⟨more, -, accepted⟩ := List.exists_of_findSome?_eq_some found
    rw [candidate?, Option.map_eq_some_iff] at accepted
    obtain ⟨n, nearest, same⟩ := accepted
    exact ⟨leading - more, n, readsBack_of_nearest? nearest, same.symm⟩
  | none =>
    -- with sixteen digits behind the leading one a neighbour would have been found
    have last := List.findSome?_eq_none_iff.mp found 16 (by decide)
    rw [candidate?, Option.map_eq_none_iff] at last
    exact absurd last (nearest?_ne_none (grid_le_value_shift le 16))

/-- A decimal that denotes a number, in digits that a number may start with. -/
structure Exact (units : Nat) (s : Scientific) : Prop where
  isDigit : ∀ c ∈ s.digits, c.isDigit = true
  nonempty : s.digits ≠ []
  leading : s.digits.head? ≠ some '0'
  worth : ∀ negative, ofDecimal negative (ofDigits 10 s.digits) (s.exponent + 1 - s.digits.length) =
    finite negative units

/-- Digits with zeros behind them: the zeros count as powers of ten. -/
theorem ofDigits_append_zeros (ds : List Char) (k : Nat) :
    ofDigits 10 (ds ++ List.replicate k '0') = ofDigits 10 ds * 10 ^ k := by
  induction k with
  | zero => simp
  | succ k ih =>
    rw [List.replicate_succ', ← List.append_assoc, ofDigits_concat, ih, Nat.pow_succ, Nat.mul_assoc]
    rfl

/-- A list without its closing zeros, and those. -/
theorem eq_append_zeros (ds : List Char) :
    ∃ k, ds = (ds.reverse.dropWhile (· = '0')).reverse ++ List.replicate k '0' := by
  refine ⟨(ds.reverse.takeWhile (· = '0')).length, ?_⟩
  have zeros : ds.reverse.takeWhile (· = '0') =
      List.replicate (ds.reverse.takeWhile (· = '0')).length '0' := by
    apply List.eq_replicate_of_mem
    intro c hc
    simpa using List.mem_takeWhile_imp hc
  conv_lhs => rw [← List.reverse_reverse ds, ← List.takeWhile_append_dropWhile (p := (· = '0'))
    (l := ds.reverse), List.reverse_append, zeros, List.reverse_replicate]

/-- The powers of ten that units go with are within the range in which decimals are rounded. -/
theorem unit_range {units : Nat} (hw : Whole units) :
    units < 2 ^ (limitExponent - unitExponent) * Nat.pow 2 unitExponent ∧ 2 * Nat.pow 2 unitExponent ≤ 10 ^ 400 := by
  have sum : limitExponent = limitExponent - unitExponent + unitExponent := rfl
  have limit : Nat.pow 2 limitExponent =
      2 ^ (limitExponent - unitExponent) * Nat.pow 2 unitExponent := by
    conv_lhs => rw [sum, Nat.pow_eq, Nat.pow_add]
    rw [Nat.pow_eq]
  refine ⟨limit ▸ hw.inRange, ?_⟩
  calc 2 * Nat.pow 2 unitExponent = 2 ^ (unitExponent + 1) := by
        rw [Nat.pow_eq, Nat.pow_succ, Nat.mul_comm]
    _ ≤ 10 ^ 400 := two_pow_le_ten_pow (by decide)

/-- A decimal that rounds to a number is not far out of range. -/
theorem size_of_nearestUnits (hw : Whole units) (pos : units ≠ 0) {n : Nat} {power : Int}
    (h : nearestUnits (n * (scale units power).grid) (fineness power) = some units) :
    n ≠ 0 ∧ -400 ≤ ((Number.digits n).length : Int) + power ∧
      ((Number.digits n).length : Int) + power ≤ 400 := by
  have fine := fineness_pos power
  obtain ⟨least, most⟩ := bounds_of_nearestUnits fine pos h
  obtain ⟨inRange, unitRange⟩ := unit_range hw
  have large : 2 * 2 ^ (limitExponent - unitExponent) ≤ 10 ^ 400 := by
    calc 2 * 2 ^ (limitExponent - unitExponent) = 2 ^ (limitExponent - unitExponent + 1) := by
          rw [Nat.pow_succ, Nat.mul_comm]
      _ ≤ 10 ^ 400 := two_pow_le_ten_pow (by decide)
  rw [scale_grid] at *
  have unitPos := pow_two_pos unitExponent
  generalize Nat.pow 2 unitExponent = unit at *
  have nonzero : n ≠ 0 := by
    rintro rfl
    rw [Nat.zero_mul, Nat.mul_zero] at least
    omega
  have low := pow_length_digits_le nonzero
  have high := lt_pow_length_digits n
  generalize (Number.digits n).length = len at *
  generalize 2 ^ (limitExponent - unitExponent) = range at *
  refine ⟨nonzero, ?_, ?_⟩
  · have : fineness power < 10 ^ (len + power.toNat + 400) := by
      calc fineness power ≤ 2 * (n * (10 ^ power.toNat * unit)) := least
        _ = n * 10 ^ power.toNat * (2 * unit) := by ring
        _ < 10 ^ len * 10 ^ power.toNat * (2 * unit) := by
          apply Nat.mul_lt_mul_of_pos_right _ (by omega)
          exact Nat.mul_lt_mul_of_pos_right high (Nat.pow_pos (by decide))
        _ ≤ 10 ^ len * 10 ^ power.toNat * 10 ^ 400 := Nat.mul_le_mul_left _ unitRange
        _ = 10 ^ (len + power.toNat + 400) := by rw [← Nat.pow_add, ← Nat.pow_add]
    have := (Nat.pow_lt_pow_iff_right (by decide)).mp this
    omega
  · have : 10 ^ (len - 1 + power.toNat) < 10 ^ (400 + (-power).toNat) := by
      apply Nat.lt_of_mul_lt_mul_right (a := unit)
      calc 10 ^ (len - 1 + power.toNat) * unit = 10 ^ (len - 1) * (10 ^ power.toNat * unit) := by
            rw [Nat.pow_add, Nat.mul_assoc]
        _ ≤ n * (10 ^ power.toNat * unit) := Nat.mul_le_mul_right _ low
        _ < 2 * (units * fineness power) := most
        _ ≤ 2 * (range * unit * fineness power) :=
          Nat.mul_le_mul_left _ (Nat.mul_le_mul_right _ inRange.le)
        _ = 2 * range * fineness power * unit := by ring
        _ ≤ 10 ^ 400 * fineness power * unit :=
          Nat.mul_le_mul_right _ (Nat.mul_le_mul_right _ large)
        _ = 10 ^ (400 + (-power).toNat) * unit := by rw [fineness, ← Nat.pow_add]
    have := (Nat.pow_lt_pow_iff_right (by decide)).mp this
    omega

/-- **Digits read back.** The digits of a positive number of the format denote it. -/
theorem shortest_exact (hw : Whole units) (pos : units ≠ 0) : Exact units (shortest units) := by
  have small := hw.inRange
  rw [Nat.pow_eq, ← Nat.log2_lt pos] at small
  obtain ⟨power, n, reads, found⟩ := searchDigits_spec (leadingPower_le pos small)
  have near := nearestUnits_of_readsBack hw reads
  obtain ⟨nonzero, low, high⟩ := size_of_nearestUnits hw pos near
  obtain ⟨k, split⟩ := eq_append_zeros (Number.digits n)
  generalize hf : ((Number.digits n).reverse.dropWhile (· = '0')).reverse = front at split
  have head := head?_digits nonzero
  have nonempty : front ≠ [] := by
    rintro rfl
    cases k with
    | zero => exact digits_ne_nil n split
    | succ k => exact head (by rw [split]; rfl)
  obtain ⟨d, ds, rfl⟩ := List.exists_cons_of_ne_nil nonempty
  have same : shortest units = ⟨d :: ds, power + (Number.digits n).length - 1⟩ := by
    unfold shortest
    dsimp only
    rw [found]
    dsimp only
    rw [hf]
  rw [same]
  refine ⟨fun c hc => ?_, nonempty, ?_, fun negative => ?_⟩
  · exact isDigit_of_mem_digits (n := n) (by rw [split]; exact List.mem_append_left _ hc)
  · rw [split] at head
    exact head
  · have worth := ofDigits_digits n
    rw [split, ofDigits_append_zeros] at worth
    have place : power + (Number.digits n).length - 1 + 1 - (d :: ds).length = power + k := by
      rw [split, List.length_append, List.length_replicate]
      omega
    dsimp only
    rw [scale_grid, Nat.pow_eq, fineness] at near
    rw [place, ← ofDecimal_shift, worth, ofDecimal_eq_ofQuotient negative nonzero low high]
    exact ofQuotient_of_nearestUnits near

end Found

end PropForge.Number.Binary64
