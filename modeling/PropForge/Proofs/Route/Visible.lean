import PropForge.Proofs.Failure
import PropForge.Proofs.Route.Order
import PropForge.Proofs.Route.Scan

/-!
# Hiding routes and putting them in order

Routes are sorted by the positions they state, unless none of them states one:

* `Binary64.inLine_trans`, `Binary64.inLine_total`: numbers are compared as on a line;
* `Binary64.ofInt?_eq_none_iff`: which whole numbers are too large to be compared;
* `order_eq`: where no route states a position, sorting would change nothing;
* `placed_eq_error_iff`, `order_eq_error_iff`: what cannot be sorted;
* `order_filter`: some of the routes are in the order that they have among all of them;
* `visible_of_order`: so hidden routes may be left out before or after.
-/

namespace PropForge.Number.Binary64

section Line

/-- A number, and the last one in place of what is none. -/
def orLast : Binary64 → Binary64
  | .nan => .infinite false
  | x => x

/-- Two numbers come in order, if what is none comes last. -/
def inLine (x y : Binary64) : Bool := !y.orLast.less x.orLast

variable {x y z : Binary64}

theorem orLast_of_number (hx : x ≠ .nan) : x.orLast = x := by
  cases x with
  | nan => exact absurd rfl hx
  | _ => rfl

theorem orLast_ne_nan (x : Binary64) : x.orLast ≠ .nan := by
  cases x <;> nofun

theorem less_of_orLast (hx : x ≠ .nan) (hy : y ≠ .nan) : (!y.less x) = x.inLine y := by
  rw [inLine, orLast_of_number hx, orLast_of_number hy]

/-- Of two numbers, the other one is not less if the one is. -/
theorem inLine_total (x y : Binary64) : (x.inLine y || y.inLine x) = true := by
  unfold inLine
  have hx := x.orLast_ne_nan
  have hy := y.orLast_ne_nan
  generalize x.orLast = x at *
  generalize y.orLast = y at *
  cases x with
  | nan => exact absurd rfl hx
  | infinite s =>
    cases y with
    | nan => exact absurd rfl hy
    | infinite t => cases s <;> cases t <;> rfl
    | finite t v => cases s <;> rfl
  | finite s u =>
    cases y with
    | nan => exact absurd rfl hy
    | infinite t => cases t <;> rfl
    | finite t v =>
      simp only [less, Bool.or_eq_true, Bool.not_eq_true', decide_eq_false_iff_not]
      omega

theorem inLine_trans (hxy : x.inLine y = true) (hyz : y.inLine z = true) : x.inLine z = true := by
  unfold inLine at *
  have hy := y.orLast_ne_nan
  generalize x.orLast = x at *
  generalize y.orLast = y at *
  generalize z.orLast = z at *
  cases y with
  | nan => exact absurd rfl hy
  | infinite t =>
    cases t <;> cases x <;> cases z <;> simp_all [less]
  | finite t v =>
    cases x <;> cases z <;> simp_all [less]
    omega

end Line

section TooLarge

variable {num t : Nat}

/-- Half a step below the first number out of range is the tie that rounds to it. -/
theorem roundDiv_of_tie_le (low : (2 ^ 54 - 1) * t ≤ num) (high : num < 2 ^ 54 * t) :
    roundDiv num (2 * t) = 2 ^ 53 := by
  apply roundDiv_eq
  · omega
  · omega
  · omega
  · exact fun _ => rfl

theorem roundDiv_of_lt_tie (pos : 0 < t) (low : num < (2 ^ 54 - 1) * t) :
    roundDiv num (2 * t) < 2 ^ 53 := by
  have last : roundDiv ((2 ^ 54 - 1) * t - 1) (2 * t) = 2 ^ 53 - 1 := by
    apply roundDiv_eq <;> omega
  have le := roundDiv_mono (Nat.le_sub_one_of_lt low) (2 * t)
  omega

/-- **Rounding** stays below a power of two from the tie below that on. -/
theorem rounded_lt_iff (num s : Nat) :
    roundDiv num (2 ^ stepExponent num) * 2 ^ stepExponent num < 2 ^ (s + 54) ↔
      num < (2 ^ 54 - 1) * 2 ^ s := by
  have pos := Nat.two_pow_pos s
  have limit : 2 ^ (s + 54) = 2 ^ 54 * 2 ^ s := by rw [Nat.pow_add, Nat.mul_comm]
  have double : 2 ^ (s + 1) = 2 * 2 ^ s := Nat.pow_succ'
  have top := lt_steps num
  have few := roundDiv_steps_le num 1
  rw [Nat.div_one, Nat.one_mul] at few
  rcases Nat.lt_trichotomy (stepExponent num) (s + 1) with less | same | more
  · -- steps this narrow do not reach so far
    have narrow : 2 ^ stepExponent num ≤ 2 ^ s := Nat.pow_le_pow_right (by decide) (by omega)
    have rounded := Nat.mul_le_mul few narrow
    constructor <;> intro _ <;> omega
  · rw [same, double] at top ⊢
    constructor
    · intro below
      by_contra reached
      rw [roundDiv_of_tie_le (by omega) (by omega)] at below
      omega
    · intro below
      have fewer := roundDiv_of_lt_tie pos below
      have rounded := Nat.mul_le_mul_right (2 * 2 ^ s) (Nat.le_sub_one_of_lt fewer)
      omega
  · have wide : 2 * 2 ^ (s + 1) ≤ 2 ^ stepExponent num := by
      rw [← Nat.pow_succ']
      exact Nat.pow_le_pow_right (by decide) more
    have many := steps_le (n := num) (by omega)
    have floor := le_roundDiv num (2 ^ stepExponent num)
    have whole := (Nat.le_div_iff_mul_le (Nat.two_pow_pos (stepExponent num))).mpr many
    have rounded := Nat.mul_le_mul_right (2 ^ stepExponent num) (whole.trans floor)
    constructor <;> intro _ <;> omega

/-- **Which whole numbers are too large**: those from the tie below two to the power of 1024 on. -/
theorem ofInt?_eq_none_iff (n : Int) :
    ofInt? n = none ↔ (2 ^ 54 - 1) * 2 ^ 970 ≤ n.natAbs := by
  obtain ⟨k, hk⟩ : ∃ k, k = 970 := ⟨970, rfl⟩
  have limit : limitExponent = k + unitExponent + 54 := by rw [hk]; rfl
  have rounds := rounded_lt_iff (n.natAbs * 2 ^ unitExponent) (k + unitExponent)
  rw [← limit, Nat.pow_add, ← Nat.mul_assoc, Nat.mul_lt_mul_right (Nat.two_pow_pos _)] at rounds
  unfold ofInt? nearestUnits
  rw [← hk, Option.map_eq_none_iff, Nat.div_one]
  dsimp only
  simp only [Nat.pow_eq]
  rw [Nat.one_mul, ite_eq_right_iff]
  simp only [reduceCtorEq, imp_false]
  rw [rounds, Nat.not_lt]

end TooLarge

end PropForge.Number.Binary64

namespace PropForge.Route

open Number (Binary64)

variable {routes : List Route} {r : Route} {f : RouteFault}

section Position

/-- What a route says of its place: its order if that is a number, and otherwise its priority. -/
inductive StatesPosition (r : Route) : Json → Prop where
  | order {v : Json} (field : r.field? "order" = some v) (number : isNumber (some v) = true) :
      StatesPosition r v
  | priority {v : Json} (unordered : isNumber (r.field? "order") = false)
      (field : r.field? "priority" = some v) (number : isNumber (some v) = true) : StatesPosition r v

theorem StatesPosition.hasExplicitOrder {v : Json} (h : r.StatesPosition v) :
    r.hasExplicitOrder = true := by
  unfold Route.hasExplicitOrder
  cases h with
  | order field number => rw [field, number, Bool.true_or]
  | priority _ field number => rw [field, number, Bool.or_true]

/-- The position that counts is the one that a route states, or else the last. -/
theorem effectivePosition_cases (r : Route) :
    (∃ v, r.StatesPosition v ∧ isNumber (some v) = true ∧ r.effectivePosition = position v) ∨
      r.hasExplicitOrder = false ∧ r.effectivePosition = .ok (.infinite false) := by
  unfold effectivePosition
  cases order : isNumber (r.field? "order") with
  | true =>
    cases field : r.field? "order" with
    | none => rw [field] at order; cases order
    | some v =>
      rw [field] at order
      exact .inl ⟨v, .order field order, order, rfl⟩
  | false =>
    cases priority : isNumber (r.field? "priority") with
    | true =>
      cases field : r.field? "priority" with
      | none => rw [field] at priority; cases priority
      | some v =>
        rw [field] at priority
        exact .inl ⟨v, .priority order field priority, priority, rfl⟩
    | false => exact .inr ⟨by rw [Route.hasExplicitOrder, order, priority]; rfl, rfl⟩

/-- A route states one position at most. -/
theorem StatesPosition.unique {v w : Json} (h : r.StatesPosition v) (h' : r.StatesPosition w) :
    v = w := by
  cases h with
  | order field number =>
    cases h' with
    | order field' _ => exact Option.some.inj (field.symm.trans field')
    | priority unordered _ _ => rw [field, number] at unordered; cases unordered
  | priority unordered field _ =>
    cases h' with
    | order field' number => rw [field', number] at unordered; cases unordered
    | priority _ field' _ => exact Option.some.inj (field.symm.trans field')

/-- A route states a position that is too large to be compared. -/
def StatesTooLarge (r : Route) : Prop :=
  ∃ n : Int, r.StatesPosition (.integer n) ∧ (2 ^ 54 - 1) * 2 ^ 970 ≤ n.natAbs

theorem placed_eq (r : Route) : r.placed = r.effectivePosition.map fun x => (x, r) := by
  unfold placed
  cases r.effectivePosition <;> rfl

theorem position_tooLarge {n : Int} (outOfRange : Binary64.ofInt? n = none) :
    position (.integer n) = .error .tooLarge := by
  rw [position, outOfRange]
  rfl

/-- **What has no place**: a route with a position that is too large. -/
theorem placed_eq_error_iff : r.placed = .error f ↔ f = .tooLarge ∧ r.StatesTooLarge := by
  rw [placed_eq]
  rcases effectivePosition_cases r with ⟨v, states, number, effective⟩ | ⟨unplaced, effective⟩
  · rw [effective]
    have only {n : Int} (other : r.StatesPosition (.integer n)) : v = .integer n :=
      states.unique other
    cases v with
    | integer n =>
      have large := Binary64.ofInt?_eq_none_iff n
      cases nearest : Binary64.ofInt? n with
      | none =>
        rw [position_tooLarge nearest]
        constructor
        · intro h
          cases h
          exact ⟨rfl, n, states, large.mp nearest⟩
        · rintro ⟨rfl, -⟩
          rfl
      | some x =>
        rw [position_integer nearest]
        constructor
        · intro h
          cases h
        · rintro ⟨-, m, other, tooLarge⟩
          cases only other
          exact absurd (nearest.symm.trans (large.mpr tooLarge)) (Option.some_ne_none x)
    | real x =>
      constructor
      · intro h
        cases h
      · rintro ⟨-, m, other, -⟩
        cases only other
    | _ => cases number
  · rw [effective]
    constructor
    · intro h
      cases h
    · rintro ⟨-, n, states, -⟩
      rw [states.hasExplicitOrder] at unplaced
      cases unplaced

end Position

section Order

/-- The routes of a list of places, in the order of the places. -/
def inOrder (places : List (Binary64 × Route)) : List Route :=
  (places.mergeSort fun a b => !b.1.less a.1).map (·.2)

variable {places : List (Binary64 × Route)}

/-- Where no route states a position, each has the last one. -/
theorem mapM_placed_of_unplaced (unplaced : routes.any hasExplicitOrder = false) :
    routes.mapM placed = .ok (routes.map fun r => (.infinite false, r)) := by
  induction routes with
  | nil => rfl
  | cons r rest ih =>
    rw [List.any_cons, Bool.or_eq_false_iff] at unplaced
    rw [List.mapM_cons, ih unplaced.2, placed_eq]
    rcases effectivePosition_cases r with ⟨v, states, -, -⟩ | ⟨-, last⟩
    · rw [states.hasExplicitOrder] at unplaced
      cases unplaced.1
    · rw [last]
      rfl

/-- **Sorting** would not move routes none of which states a position. -/
theorem order_eq (routes : List Route) : order routes = (routes.mapM placed).map inOrder := by
  unfold order
  split
  · rename_i unplaced
    rw [mapM_placed_of_unplaced (by simpa using unplaced)]
    have last : ((routes.map fun r => (Binary64.infinite false, r)).mergeSort fun a b =>
        !b.1.less a.1) = routes.map fun r => (.infinite false, r) := by
      apply List.mergeSort_of_pairwise
      rw [List.pairwise_map]
      exact List.pairwise_of_forall fun _ _ => rfl
    change _ = Except.ok (inOrder _)
    rw [inOrder, last, List.map_map]
    exact congrArg Except.ok (List.map_id' routes).symm
  · cases routes.mapM placed <;> rfl

theorem mapM_placed_eq_error_iff :
    routes.mapM placed = .error f ↔ f = .tooLarge ∧ ∃ r ∈ routes, r.StatesTooLarge := by
  induction routes with
  | nil =>
    constructor
    · intro h
      cases h
    · rintro ⟨-, r, mem, -⟩
      cases mem
  | cons r rest ih =>
    rw [List.mapM_cons, List.exists_mem_cons_iff]
    cases first : r.placed with
    | error e =>
      obtain ⟨rfl, large⟩ := placed_eq_error_iff.mp first
      constructor
      · intro h
        cases h
        exact ⟨rfl, .inl large⟩
      · rintro ⟨rfl, -⟩
        rfl
    | ok place =>
      have small : ¬ r.StatesTooLarge := fun large => by
        rw [placed_eq_error_iff.mpr ⟨rfl, large⟩] at first
        cases first
      simp only [small, false_or]
      rw [← ih]
      cases rest.mapM placed with
      | error e =>
        constructor <;>
        · intro h
          cases h
          rfl
      | ok others =>
        constructor <;>
        · intro h
          cases h

/-- **What cannot be put in order**: routes among which one states a position that is too large. -/
theorem order_eq_error_iff :
    order routes = .error f ↔ f = .tooLarge ∧ ∃ r ∈ routes, r.StatesTooLarge := by
  rw [order_eq, ← mapM_placed_eq_error_iff]
  cases routes.mapM placed with
  | error e =>
    constructor <;>
    · intro h
      cases h
      rfl
  | ok places =>
    constructor <;>
    · intro h
      cases h

/-- Places are those of the routes, in their order; some routes have the places that they have among
all of them. -/
theorem mapM_placed_filter (all : routes.mapM placed = .ok places) (p : Route → Bool) :
    (∀ a ∈ places, a.2 ∈ routes ∧ a.2.placed = .ok a) ∧
      (routes.filter p).mapM placed = .ok (places.filter fun a => p a.2) := by
  induction routes generalizing places with
  | nil =>
    cases all
    exact ⟨nofun, rfl⟩
  | cons r rest ih =>
    rw [List.mapM_cons] at all
    obtain ⟨place, first, all⟩ := exists_of_bind_eq_ok all
    obtain ⟨others, after, all⟩ := exists_of_bind_eq_ok all
    cases all
    have route : place.2 = r := by
      rw [placed_eq] at first
      obtain ⟨x, -, rfl⟩ := exists_of_map_eq_ok first
      rfl
    obtain ⟨from_rest, some⟩ := ih after
    refine ⟨List.forall_mem_cons.mpr ⟨?_, fun a ha => ?_⟩, ?_⟩
    · rw [route]
      exact ⟨List.mem_cons_self, first⟩
    · exact ⟨List.mem_cons_of_mem r (from_rest a ha).1, (from_rest a ha).2⟩
    · rw [List.filter_cons, List.filter_cons, route]
      cases p r with
      | false => exact some
      | true =>
        simp only [if_true]
        rw [List.mapM_cons, first, some]
        rfl

/-- No route states a position that is no number. -/
def Comparable (routes : List Route) : Prop := ∀ r ∈ routes, ¬ r.StatesPosition (.real .nan)

theorem ne_nan_of_placed {a : Binary64 × Route} (comparable : ¬ a.2.StatesPosition (.real .nan))
    (h : a.2.placed = .ok a) : a.1 ≠ .nan := by
  rw [placed_eq] at h
  obtain ⟨x, effective, same⟩ := exists_of_map_eq_ok h
  have position : a.1 = x := congrArg Prod.fst same.symm
  rw [position]
  rintro rfl
  rcases effectivePosition_cases a.2 with ⟨v, states, number, counts⟩ | ⟨-, last⟩
  · rw [effective] at counts
    cases v with
    | integer n =>
      cases nearest : Binary64.ofInt? n with
      | none =>
        rw [position_tooLarge nearest] at counts
        cases counts
      | some y =>
        rw [position_integer nearest] at counts
        obtain rfl := Except.ok.inj counts
        obtain ⟨units, -, isNaN⟩ := Option.map_eq_some_iff.mp nearest
        cases isNaN
    | real y =>
      cases counts
      exact comparable states
    | _ => cases number
  · rw [effective] at last
    cases last

/-- Numbers are compared as on a line. -/
theorem inOrder_eq (numbers : ∀ a ∈ places, a.1 ≠ .nan) :
    inOrder places = (places.mergeSort fun a b => a.1.inLine b.1).map (·.2) := by
  unfold inOrder
  rw [mergeSort_congr fun a ha b hb => Binary64.less_of_orLast (numbers a ha) (numbers b hb)]

/-- **Some of the places** are in the order that they have among all of them. -/
theorem inOrder_filter (numbers : ∀ a ∈ places, a.1 ≠ .nan) (p : Route → Bool) :
    inOrder (places.filter fun a => p a.2) = (inOrder places).filter p := by
  have stable : ((places.mergeSort fun a b => a.1.inLine b.1).filter fun a => p a.2) =
      (places.filter fun a => p a.2).mergeSort fun a b => a.1.inLine b.1 := by
    apply filter_mergeSort
    · intro a b c
      exact Binary64.inLine_trans
    · intro a b
      exact Binary64.inLine_total a.1 b.1
  rw [inOrder_eq numbers, inOrder_eq fun a ha => numbers a (List.mem_of_mem_filter ha), ← stable,
    List.filter_map]
  rfl

/-- **Some of the routes** are in the order that they have among all of them. -/
theorem order_filter {sorted : List Route} (comparable : Comparable routes)
    (all : order routes = .ok sorted) (p : Route → Bool) :
    order (routes.filter p) = .ok (sorted.filter p) := by
  rw [order_eq] at all
  obtain ⟨places, placedAll, rfl⟩ := exists_of_map_eq_ok all
  obtain ⟨each, some⟩ := mapM_placed_filter placedAll p
  rw [order_eq, some]
  refine congrArg Except.ok (inOrder_filter (fun a ha => ?_) p)
  exact ne_nan_of_placed (comparable a.2 (each a ha).1) (each a ha).2

end Order

section Visible

/-- **Hiding and ordering.** If routes can be put in order, then so can those that are not hidden, which
are shown as they come in the order of all, also where only hidden routes state positions. Routes
cannot be put in order if and only if one of them states a whole number that is too large, and no other
reason is given. -/
theorem visible_of_order (routes : List Route) (comparable : Comparable routes) :
    (∀ sorted, order routes = .ok sorted →
      visible routes = .ok (sorted.filter fun r => !r.isHidden)) ∧
    ∀ f, order routes = .error f ↔ f = .tooLarge ∧ ∃ r ∈ routes, ∃ n : Int,
      r.StatesPosition (.integer n) ∧ (2 ^ 54 - 1) * 2 ^ 970 ≤ n.natAbs := by
  constructor
  · intro sorted all
    exact order_filter comparable all fun r => !r.isHidden
  · intro f
    exact order_eq_error_iff

/-- A route without a position, and one with a position that may be hidden. -/
def hiddenSample (position : Int) : List Route :=
  [[("path", .string "/a")],
    [("path", .string "/b"), ("hidden", .bool true), ("order", .integer position)]]

theorem statesPosition_hiddenSample {position : Int} {v : Json} (mem : r ∈ hiddenSample position)
    (states : r.StatesPosition v) : v = .integer position := by
  simp only [hiddenSample, List.mem_cons, List.not_mem_nil, or_false] at mem
  rcases mem with rfl | rfl
  · cases states.hasExplicitOrder
  · exact states.unique (.order rfl rfl)

/-- The one route with a position is hidden, and the other one is shown; that is so even where the
position is too large. -/
theorem visible_of_order_hidden :
    (∃ sorted, order (hiddenSample 1) = .ok sorted ∧
      visible (hiddenSample 1) = .ok (sorted.filter fun r => !r.isHidden) ∧
      visible (hiddenSample 1) = .ok [[("path", .string "/a")]]) ∧
    order (hiddenSample (2 ^ 54 * 2 ^ 970)) = .error .tooLarge ∧
    visible (hiddenSample (2 ^ 54 * 2 ^ 970)) = .ok [[("path", .string "/a")]] := by
  have comparable (position : Int) : Comparable (hiddenSample position) := fun r mem states => by
    cases statesPosition_hiddenSample mem states
  have shown (position : Int) :
      visible (hiddenSample position) = .ok [[("path", .string "/a")]] := rfl
  have fails (position : Int) (large : (2 ^ 54 - 1) * 2 ^ 970 ≤ position.natAbs) :
      order (hiddenSample position) = .error .tooLarge :=
    ((visible_of_order (hiddenSample position) (comparable position)).2 .tooLarge).mpr
      ⟨rfl, _, List.mem_cons_of_mem _ List.mem_cons_self, position, .order rfl rfl, large⟩
  have tooLarge (k : Nat) : (2 ^ 54 - 1) * 2 ^ k ≤ (2 ^ 54 * 2 ^ k : Int).natAbs := by
    rw [Int.natAbs_mul, Int.natAbs_pow, Int.natAbs_pow, show (2 : Int).natAbs = 2 from rfl]
    exact Nat.mul_le_mul_right _ (by decide)
  refine ⟨?_, fails _ (tooLarge 970), shown _⟩
  obtain ⟨hides, fails⟩ := visible_of_order (hiddenSample 1) (comparable 1)
  cases ordered : order (hiddenSample 1) with
  | error f =>
    obtain ⟨-, r, mem, n, states, large⟩ := (fails f).mp ordered
    cases statesPosition_hiddenSample mem states
    have := Nat.two_pow_pos 970
    omega
  | ok sorted => exact ⟨sorted, rfl, hides sorted ordered, shown 1⟩

end Visible

end PropForge.Route
