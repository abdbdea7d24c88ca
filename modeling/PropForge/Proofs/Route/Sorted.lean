import PropForge.Proofs.Route.Visible

/-!
# Routes in order

Routes are compared by a number that each of them has, and where two numbers are equal by where they
stand. A list in which no number falls is not moved.

* `hasKey_iff`: the number of a route is that of the position it states, or else the last one;
* `order_of_rising`: routes whose numbers do not fall are in order already;
* `byKeyAndIndex_eq`: to sort by number and index is to sort by number and keep the order of equals;
* `order_spec`: the routes in order are those that were given, by their numbers, and putting them in
  order again moves none.
-/

namespace PropForge.Number.Binary64

variable {x y : Binary64}

/-- Two numbers are equal if neither is less. -/
theorem equals_eq (hx : x ≠ .nan) (hy : y ≠ .nan) : x.equals y = (!x.less y && !y.less x) := by
  cases x with
  | nan => exact absurd rfl hx
  | infinite s =>
    cases y with
    | nan => exact absurd rfl hy
    | infinite t => cases s <;> cases t <;> rfl
    | finite t v => cases s <;> rfl
  | finite s u =>
    cases y with
    | nan => exact absurd rfl hy
    | infinite t => cases t <;> rfl
    | finite t v =>
      rw [Bool.eq_iff_iff]
      simp only [equals, less, Bool.and_eq_true, Bool.not_eq_true', decide_eq_true_eq,
        decide_eq_false_iff_not]
      omega

/-- Numbers that are equal to one number are equal to each other. -/
theorem not_less_of_equals {z : Binary64} (hx : x.equals z = true) (hy : y.equals z = true) :
    y.less x = false := by
  cases z with
  | nan => cases x <;> cases hx
  | infinite t => cases x <;> cases y <;> simp_all [equals, less]
  | finite t w =>
    cases x <;> cases y <;> simp_all [equals, less]

end PropForge.Number.Binary64

namespace PropForge.Route

open Number (Binary64)

variable {routes sorted : List Route} {r : Route} {x : Binary64}

section Key

/-- The number by which a route is compared: the one nearest to a whole position, a position that is
such a number, and without a position the last one. -/
inductive HasKey (r : Route) : Binary64 → Prop where
  | whole {n : Int} {x : Binary64} (states : r.StatesPosition (.integer n))
      (nearest : Binary64.ofInt? n = some x) : HasKey r x
  | real {x : Binary64} (states : r.StatesPosition (.real x)) : HasKey r x
  | last (silent : ∀ v, ¬ r.StatesPosition v) : HasKey r (.infinite false)

/-- The number by which a route is compared, if it has one. -/
def key (r : Route) : Binary64 := r.effectivePosition.toOption.getD (.infinite false)

theorem effectivePosition_of_states {v : Json} (states : r.StatesPosition v) :
    r.effectivePosition = position v := by
  rcases effectivePosition_cases r with ⟨w, other, -, effective⟩ | ⟨silent, -⟩
  · rw [effective, states.unique other]
  · rw [states.hasExplicitOrder] at silent
    cases silent

theorem hasKey_iff : r.HasKey x ↔ r.effectivePosition = .ok x := by
  constructor
  · intro h
    cases h with
    | whole states nearest => rw [effectivePosition_of_states states, position_integer nearest]
    | real states => rw [effectivePosition_of_states states]; rfl
    | last silent =>
      rcases effectivePosition_cases r with ⟨v, states, -, -⟩ | ⟨-, effective⟩
      · exact absurd states (silent v)
      · exact effective
  · intro h
    rcases effectivePosition_cases r with ⟨v, states, number, effective⟩ | ⟨silent, effective⟩
    · rw [effective] at h
      cases v with
      | integer n =>
        cases nearest : Binary64.ofInt? n with
        | none =>
          rw [position_tooLarge nearest] at h
          cases h
        | some y =>
          rw [position_integer nearest] at h
          exact Except.ok.inj h ▸ .whole states nearest
      | real y => exact Except.ok.inj h ▸ .real states
      | _ => cases number
    · rw [effective] at h
      refine Except.ok.inj h ▸ .last fun v states => ?_
      rw [states.hasExplicitOrder] at silent
      cases silent

theorem HasKey.key_eq (h : r.HasKey x) : r.key = x := by
  rw [key, hasKey_iff.mp h]
  rfl

/-- The routes that can be put in order have numbers. -/
theorem hasKey_of_order (h : order routes = .ok sorted) : ∀ r ∈ routes, r.HasKey r.key := by
  intro r mem
  cases effective : r.effectivePosition with
  | ok x =>
    have has : r.HasKey x := hasKey_iff.mpr effective
    rwa [has.key_eq]
  | error f =>
    have fails : r.placed = .error f := by rw [placed_eq, effective]; rfl
    obtain ⟨rfl, large⟩ := placed_eq_error_iff.mp fails
    rw [order_eq_error_iff.mpr ⟨rfl, r, mem, large⟩] at h
    cases h

theorem HasKey.ne_nan (h : r.HasKey x) (comparable : ¬ r.StatesPosition (.real .nan)) :
    x ≠ .nan := by
  have place : r.placed = .ok (x, r) := by rw [placed_eq, hasKey_iff.mp h]; rfl
  exact ne_nan_of_placed (a := (x, r)) comparable place

end Key

section Places

/-- Routes with their numbers. -/
def places (routes : List Route) : List (Binary64 × Route) := routes.map fun r => (r.key, r)

theorem mapM_placed_of_hasKey (keys : ∀ r ∈ routes, r.HasKey r.key) :
    routes.mapM placed = .ok (places routes) := by
  induction routes with
  | nil => rfl
  | cons r rest ih =>
    obtain ⟨first, others⟩ := List.forall_mem_cons.mp keys
    rw [List.mapM_cons, placed_eq, hasKey_iff.mp first, ih others]
    rfl

theorem order_of_hasKey (keys : ∀ r ∈ routes, r.HasKey r.key) :
    order routes = .ok (inOrder (places routes)) := by
  rw [order_eq, mapM_placed_of_hasKey keys]
  rfl

/-- The numbers of routes do not fall along a list. -/
def Rising (routes : List Route) : Prop := routes.Pairwise fun a b => b.key.less a.key = false

/-- **A list in order.** Routes whose numbers do not fall are not moved. -/
theorem order_of_rising (keys : ∀ r ∈ routes, r.HasKey r.key) (rising : Rising routes) :
    order routes = .ok routes := by
  rw [order_of_hasKey keys, inOrder, List.mergeSort_of_pairwise, places, List.map_map]
  · exact congrArg Except.ok (List.map_id' routes)
  · rw [places, List.pairwise_map]
    refine rising.imp fun {a b} le => ?_
    rw [le]
    rfl

variable {l : List (Binary64 × Route)}

theorem inOrder_perm (l : List (Binary64 × Route)) : (inOrder l).Perm (l.map (·.2)) :=
  (List.mergeSort_perm l _).map _

theorem perm_places (routes : List Route) : (inOrder (places routes)).Perm routes := by
  have own : (places routes).map (·.2) = routes := by
    rw [places, List.map_map]
    exact List.map_id' routes
  have perm := inOrder_perm (places routes)
  rwa [own] at perm

/-- After sorting no number falls. -/
theorem rising_inOrder (numbers : ∀ r ∈ routes, r.key ≠ .nan) :
    Rising (inOrder (places routes)) := by
  have own : ∀ a ∈ places routes, a.1 = a.2.key ∧ a.1 ≠ .nan := by
    intro a mem
    obtain ⟨r, hr, rfl⟩ := List.mem_map.mp mem
    exact ⟨rfl, numbers r hr⟩
  have line : ((places routes).mergeSort fun a b => a.1.inLine b.1).Pairwise
      fun a b => a.1.inLine b.1 = true := by
    apply List.pairwise_mergeSort
    · intro a b c
      exact Binary64.inLine_trans
    · intro a b
      exact Binary64.inLine_total a.1 b.1
  rw [Rising, inOrder_eq fun a ha => (own a ha).2, List.pairwise_map]
  refine line.imp_of_mem fun {a b} ha hb le => ?_
  obtain ⟨keyA, numberA⟩ := own a (List.mem_mergeSort.mp ha)
  obtain ⟨keyB, numberB⟩ := own b (List.mem_mergeSort.mp hb)
  rw [← Binary64.less_of_orLast numberA numberB, keyA, keyB] at le
  simpa using le

/-- Whether a number at an index comes before another: if it is less, or if they are equal and its
index is less. -/
def comesBefore (a b : (Binary64 × Route) × Nat) : Bool :=
  if a.1.1.equals b.1.1 then a.2 < b.2 else a.1.1.less b.1.1

/-- The routes of a list of places, by number and then by index. -/
def byKeyAndIndex (l : List (Binary64 × Route)) : List Route :=
  (l.zipIdx.mergeSort fun a b => !comesBefore b a).map (·.1.2)

/-- **Index and stability.** To sort by number and then by index is to sort by number and to keep the
order of equals. -/
theorem byKeyAndIndex_eq (numbers : ∀ a ∈ l, a.1 ≠ .nan) : byKeyAndIndex l = inOrder l := by
  let le (a b : Binary64 × Route) : Bool := !b.1.less a.1
  have tuples : ∀ a ∈ l.zipIdx, ∀ b ∈ l.zipIdx, (!comesBefore b a) = List.zipIdxLE le a b := by
    intro a ha b hb
    have numberA := numbers a.1 (List.fst_mem_of_mem_zipIdx ha)
    have numberB := numbers b.1 (List.fst_mem_of_mem_zipIdx hb)
    have index : decide (b.2 < a.2) = !decide (a.2 ≤ b.2) := by
      rw [← decide_not]
      exact decide_eq_decide.mpr Nat.not_le.symm
    simp only [comesBefore, List.zipIdxLE, le, Binary64.equals_eq numberB numberA, index]
    rcases Bool.eq_false_or_eq_true (a.1.1.less b.1.1) with ab | ab <;>
      rcases Bool.eq_false_or_eq_true (b.1.1.less a.1.1) with ba | ba <;> simp [ab, ba]
  have forgotten : (l.zipIdx.mergeSort (List.zipIdxLE le)).map (·.1) = l.mergeSort le :=
    List.mergeSort_zipIdx
  rw [byKeyAndIndex, mergeSort_congr tuples, inOrder, ← forgotten, List.map_map]
  rfl

end Places

/-- **Routes in order** are the routes that were given, so that no number falls along them and routes
with equal numbers come as they did. The number of a route is that of its order, or else of its
priority, or else the last one. Putting them in order again moves none of them, and where none states
a position none is moved; to sort by number and index would give the same in any case. -/
theorem order_spec (comparable : Comparable routes) (h : order routes = .ok sorted) :
    sorted.Perm routes ∧ (∀ r ∈ routes, r.HasKey r.key ∧ r.key ≠ .nan) ∧
    sorted.Pairwise (fun a b => b.key.less a.key = false) ∧
    (∀ x : Binary64, sorted.filter (fun r => r.key.equals x) =
      routes.filter fun r => r.key.equals x) ∧
    order sorted = .ok sorted ∧
    ((∀ r ∈ routes, r.hasExplicitOrder = false) → sorted = routes) ∧
    (routes.mapM placed).map byKeyAndIndex = .ok sorted := by
  have keys := hasKey_of_order h
  have numbers (r : Route) (mem : r ∈ routes) : r.key ≠ .nan :=
    (keys r mem).ne_nan (comparable r mem)
  have placeNumbers : ∀ a ∈ places routes, a.1 ≠ .nan := by
    intro a mem
    obtain ⟨r, hr, rfl⟩ := List.mem_map.mp mem
    exact numbers r hr
  obtain rfl : inOrder (places routes) = sorted :=
    Except.ok.inj ((order_of_hasKey keys).symm.trans h)
  have perm := perm_places routes
  have rising := rising_inOrder numbers
  refine ⟨perm, fun r mem => ⟨keys r mem, numbers r mem⟩, rising, ?stable, ?again, ?unmoved, ?tuples⟩
  case stable =>
    intro x
    have level : Rising (routes.filter fun r => r.key.equals x) := by
      refine List.pairwise_of_forall_mem_list fun a ha b hb => ?_
      exact Binary64.not_less_of_equals (List.mem_filter.mp ha).2 (List.mem_filter.mp hb).2
    have some := order_filter comparable h fun r => r.key.equals x
    rw [order_of_rising (fun r mem => keys r (List.mem_of_mem_filter mem)) level] at some
    exact (Except.ok.inj some).symm
  case again =>
    exact order_of_rising (fun r mem => keys r (perm.mem_iff.mp mem)) rising
  case unmoved =>
    intro silent
    have none : routes.any hasExplicitOrder = false := by simpa using silent
    rw [order, none] at h
    exact (Except.ok.inj h).symm
  case tuples =>
    rw [mapM_placed_of_hasKey keys]
    exact congrArg Except.ok (byKeyAndIndex_eq placeNumbers)

/-- A route without a position, and routes with a priority, with an order, and with a priority of the
same worth behind an order that is no number. -/
def mixedSample : List Route :=
  [[("path", .string "/c")],
    [("path", .string "/b"), ("priority", .integer 0)],
    [("path", .string "/a"), ("priority", .integer 9), ("order", .integer (-1))],
    [("path", .string "/d"), ("order", .bool true), ("priority", .real (.finite true 0))]]

theorem key_mixedSample : mixedSample.map key = [.infinite false, .finite false 0,
    .finite true (Nat.pow 2 Binary64.unitExponent), .finite true 0] := by decide +kernel

theorem hasKey_mixedSample : ∀ r ∈ mixedSample, r.HasKey r.key := by
  intro r mem
  rw [hasKey_iff]
  simp only [mixedSample, List.mem_cons, List.not_mem_nil, or_false] at mem
  rcases mem with rfl | rfl | rfl | rfl <;> decide +kernel

theorem order_mixedSample : order mixedSample =
    .ok [mixedSample[2], mixedSample[1], mixedSample[3], mixedSample[0]] := by
  have pos := Binary64.pow_two_pos Binary64.unitExponent
  rw [order_of_hasKey hasKey_mixedSample, inOrder, places, List.map_prod_right_eq_zip,
    key_mixedSample]
  generalize Nat.pow 2 Binary64.unitExponent = one at pos
  simp [mixedSample, List.mergeSort, Binary64.less, Binary64.signedUnits, pos]

theorem order_spec_mixed :
    Comparable mixedSample ∧
    order mixedSample = .ok [mixedSample[2], mixedSample[1], mixedSample[3], mixedSample[0]] ∧
    order [mixedSample[2], mixedSample[1], mixedSample[3], mixedSample[0]] =
      .ok [mixedSample[2], mixedSample[1], mixedSample[3], mixedSample[0]] := by
  have comparable : Comparable mixedSample := by
    intro r mem states
    have isKey : r.key ∈ mixedSample.map key := List.mem_map_of_mem mem
    rw [(HasKey.real states).key_eq, key_mixedSample] at isKey
    simp at isKey
  exact ⟨comparable, order_mixedSample,
    (order_spec comparable order_mixedSample).2.2.2.2.1⟩

end PropForge.Route
