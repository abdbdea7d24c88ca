import PropForge.Proofs.Number.Binary64
import PropForge.Proofs.Route.Stored
import PropForge.Route.Order

/-!
# Positions along a list of routes

Runs tell routes where they stand by whole numbers, their seats:

* `order_of_ascending`: where seats do not fall along a list, it is in order already;
* `merge_seats`: a merge keeps the seats of old routes and counts on from the number of them;
* `ascending_append_iff`: they ascend afterwards if no old one lies beyond the first new one.
-/

namespace PropForge.Route

open Number (Binary64)

/-- The place that a route was told. -/
def seat? (r : Route) : Option Nat :=
  match r.field? "order" with
  | some (.integer (.ofNat n)) => some n
  | _ => none

/-- The places that were told, along a list. -/
def seats (l : List Route) : List Nat := l.filterMap seat?

/-- All routes were told a place. -/
def Seated (l : List Route) : Prop := ∀ r ∈ l, ∃ n, r.seat? = some n

/-- The places do not fall along a list. -/
def Ascending (l : List Route) : Prop := (seats l).Pairwise (· ≤ ·)

theorem seat?_eq_some {r : Route} {n : Nat} :
    r.seat? = some n ↔ r.field? "order" = some (.integer n) := by
  unfold seat?
  constructor
  · intro h
    split at h
    · rename_i field
      cases h
      exact field
    · cases h
  · intro h
    rw [h]

theorem hasExplicitOrder_of_seat {r : Route} {n : Nat} (h : r.seat? = some n) :
    r.hasExplicitOrder = true := by
  rw [hasExplicitOrder, seat?_eq_some.mp h]
  rfl

section Order

theorem position_integer {n : Int} {x : Binary64} (inRange : Binary64.ofInt? n = some x) :
    position (.integer n) = .ok x := by
  rw [position, inRange]
  rfl

theorem effectivePosition_of_seat {r : Route} {n : Nat} {x : Binary64} (h : r.seat? = some n)
    (inRange : Binary64.ofInt? n = some x) : r.effectivePosition = .ok x := by
  unfold effectivePosition
  rw [seat?_eq_some.mp h, Option.getD_some, position_integer inRange]
  rfl

/-- The routes with the positions by which they are sorted. -/
theorem placed_of_seated {l : List Route} (seated : Seated l)
    (inRange : ∀ n ∈ seats l, ∃ x, Binary64.ofInt? n = some x) :
    ∃ pairs, l.mapM placed = .ok pairs ∧ pairs.map (·.2) = l ∧
      ∀ p ∈ pairs, ∃ n ∈ seats l, p.2.seat? = some n ∧ Binary64.ofInt? n = some p.1 := by
  induction l with
  | nil => exact ⟨[], rfl, rfl, fun _ hp => by cases hp⟩
  | cons r rest ih =>
    obtain ⟨⟨n, seat⟩, seated⟩ := List.forall_mem_cons.mp seated
    have front : seats (r :: rest) = n :: seats rest := List.filterMap_cons_some seat
    rw [front, List.forall_mem_cons] at inRange
    obtain ⟨⟨x, hx⟩, inRange⟩ := inRange
    obtain ⟨pairs, placed_rest, routes, from_seats⟩ := ih seated inRange
    rw [front]
    refine ⟨(x, r) :: pairs, ?_, ?_, ?_⟩
    · rw [List.mapM_cons, placed, effectivePosition_of_seat seat hx, placed_rest]
      rfl
    · rw [List.map_cons, routes]
    · refine List.forall_mem_cons.mpr ⟨⟨n, List.mem_cons_self, seat, hx⟩, fun p hp => ?_⟩
      obtain ⟨m, hm, found⟩ := from_seats p hp
      exact ⟨m, List.mem_cons_of_mem n hm, found⟩

/-- Routes with places are sorted by them. -/
theorem order_of_seated {l : List Route} (seated : Seated l)
    (inRange : ∀ n ∈ seats l, ∃ x, Binary64.ofInt? n = some x) :
    ∃ pairs : List (Binary64 × Route), pairs.map (·.2) = l ∧
      (∀ p ∈ pairs, ∃ n ∈ seats l, p.2.seat? = some n ∧ Binary64.ofInt? n = some p.1) ∧
      order l = .ok ((pairs.mergeSort fun a b => !b.1.less a.1).map (·.2)) := by
  obtain ⟨pairs, all, routes, from_seats⟩ := placed_of_seated seated inRange
  refine ⟨pairs, routes, from_seats, ?_⟩
  unfold order
  split
  · rename_i none
    cases l with
    | nil =>
      rw [List.map_eq_nil_iff.mp routes, List.mergeSort_nil]
      rfl
    | cons r rest =>
      obtain ⟨n, seat⟩ := seated r List.mem_cons_self
      rw [List.any_cons, hasExplicitOrder_of_seat seat] at none
      cases none
  · rw [all]
    rfl

theorem ascending_iff {l : List Route} : Ascending l ↔
    l.Pairwise fun a b => ∀ m, a.seat? = some m → ∀ n, b.seat? = some n → m ≤ n :=
  List.pairwise_filterMap

/-- **A list in order.** Routes whose places do not fall along their list are not moved. -/
theorem order_of_ascending {l : List Route} (seated : Seated l) (asc : Ascending l)
    (inRange : ∀ n ∈ seats l, ∃ x, Binary64.ofInt? n = some x) : order l = .ok l := by
  obtain ⟨pairs, routes, from_seats, sorted⟩ := order_of_seated seated inRange
  rw [sorted, List.mergeSort_of_pairwise, routes]
  rw [ascending_iff, ← routes, List.pairwise_map] at asc
  refine asc.imp_of_mem fun {a b} ha hb le => ?_
  obtain ⟨m, -, seat, hx⟩ := from_seats a ha
  obtain ⟨n, -, seat', hy⟩ := from_seats b hb
  rw [Binary64.not_less_of_le (le m seat n seat') hx hy]
  rfl

/-- A list that is not moved ascends, if its places are small enough to be told apart. -/
theorem ascending_of_order {l : List Route} (seated : Seated l) (small : ∀ n ∈ seats l, n < 2 ^ 53)
    (h : order l = .ok l) : Ascending l := by
  obtain ⟨pairs, routes, from_seats, sorted⟩ := order_of_seated seated fun n hn =>
    ⟨_, Binary64.ofInt?_of_lt (small n hn)⟩
  let place (r : Route) : Nat := r.seat?.getD 0
  have byPlace : (pairs.mergeSort fun a b => !b.1.less a.1).map (fun p => place p.2) =
      (pairs.map fun p => place p.2).mergeSort fun m n => decide (m ≤ n) := by
    refine List.map_mergeSort fun a ha b hb => ?_
    obtain ⟨m, hm, seat, hx⟩ := from_seats a ha
    obtain ⟨n, hn, seat', hy⟩ := from_seats b hb
    have left : place a.2 = m := by rw [show place a.2 = a.2.seat?.getD 0 from rfl, seat]; rfl
    have right : place b.2 = n := by rw [show place b.2 = b.2.seat?.getD 0 from rfl, seat']; rfl
    rw [left, right]
    by_cases le : m ≤ n
    · rw [Binary64.not_less_of_le le hx hy, decide_eq_true le]
      rfl
    · rw [Binary64.less_of_lt (Nat.lt_of_not_le le) (small m hm) hy hx, decide_eq_false le]
      rfl
  have moved := congrArg (List.map place) (Except.ok.inj (sorted.symm.trans h))
  rw [List.map_map] at moved
  have stays := calc (l.map place).mergeSort (fun m n => decide (m ≤ n))
    _ = (pairs.map fun p => place p.2).mergeSort fun m n => decide (m ≤ n) := by
      rw [← routes, List.map_map]
      rfl
    _ = (pairs.mergeSort fun a b => !b.1.less a.1).map fun p => place p.2 := byPlace.symm
    _ = l.map place := moved
  have asc : ((l.map place).mergeSort fun m n => decide (m ≤ n)).Pairwise fun m n =>
      decide (m ≤ n) = true :=
    List.pairwise_mergeSort (fun a b c => by simp only [decide_eq_true_eq]; exact Nat.le_trans)
      (fun a b => by simp only [Bool.or_eq_true, decide_eq_true_eq]; exact Nat.le_total a b) _
  rw [stays, List.pairwise_map] at asc
  refine ascending_iff.mpr (asc.imp fun {a b} le m hm n hn => ?_)
  simp only [place, hm, hn, Option.getD_some, decide_eq_true_eq] at le
  exact le

end Order

section Merge

variable {existing discovered : List Route}

/-- Routes that were told no place and say none. -/
def Unplaced (l : List Route) : Prop := ∀ r ∈ l, r.hasExplicitOrder = false

theorem unplaced_ofPlace (places : List (List String)) : Unplaced (places.map ofPlace) := by
  intro r hr
  obtain ⟨names, -, rfl⟩ := List.mem_map.mp hr
  rfl

theorem seats_of_forall₂ {rs kept : List Route} (seated : Seated rs)
    (h : List.Forall₂ (Filled discovered) rs kept) : Seated kept ∧ seats kept = seats rs := by
  induction h with
  | nil => exact ⟨fun _ hr => (by cases hr), rfl⟩
  | @cons r k rs kept filled _ ih =>
    obtain ⟨⟨n, seat⟩, others⟩ := List.forall_mem_cons.mp seated
    obtain ⟨seated, same⟩ := ih others
    have keep : k.seat? = some n := by
      obtain ⟨d, -, -, fields⟩ := filled
      rw [seat?_eq_some, fields, seat?_eq_some.mp seat, Option.some_or]
    refine ⟨List.forall_mem_cons.mpr ⟨⟨n, keep⟩, seated⟩, ?_⟩
    rw [seats, seats, List.filterMap_cons_some keep, List.filterMap_cons_some seat]
    exact congrArg _ same

theorem seat?_seedOrder {r : Route} (unplaced : r.hasExplicitOrder = false) (index : Nat) :
    (seedOrder r index).seat? = some (index + 1) := by
  rw [seat?_eq_some, (seeded_seedOrder r index).2, unplaced, if_neg Bool.false_ne_true]
  rfl

/-- Newcomers are told the places from `count` on. -/
theorem seats_newcomers (new : List Route) (unplaced : Unplaced new) (count : Nat) :
    Seated (new.mapIdx fun i r => seedOrder r (i + count)) ∧
      seats (new.mapIdx fun i r => seedOrder r (i + count)) =
        List.range' (count + 1) new.length := by
  induction new generalizing count with
  | nil => exact ⟨fun _ hr => (by cases hr), rfl⟩
  | cons r new ih =>
    obtain ⟨first, others⟩ := List.forall_mem_cons.mp unplaced
    have next (i : Nat) : i + 1 + count = i + (count + 1) := by omega
    obtain ⟨seated, same⟩ := ih others (count + 1)
    have seat := seat?_seedOrder first (0 + count)
    rw [Nat.zero_add] at seat
    simp only [List.mapIdx_cons, Nat.zero_add, next]
    refine ⟨List.forall_mem_cons.mpr ⟨⟨_, seat⟩, seated⟩, ?_⟩
    rw [seats, List.filterMap_cons_some seat, List.length_cons, List.range'_succ]
    exact congrArg _ same

/-- **The places after a merge.** The old routes that stay keep theirs, and the new ones count on
from the number of those. -/
theorem merge_seats {m : Merge} (hd : Discovered discovered) (unplaced : Unplaced discovered)
    (nodup : ∀ r ∈ existing, (Assoc.keys r).Nodup) (seated : Seated existing)
    (h : merge existing discovered = .ok m) :
    ∃ kept new, m.routes = kept ++ new ∧ new.length = m.added ∧ Seated kept ∧ Seated new ∧
      (seats kept).Sublist (seats existing) ∧
      seats new = List.range' (kept.length + 1) m.added := by
  obtain rfl := mergeChecked_of_merge h
  let kept := existing.filterMap (keep? discovered)
  let new := newcomers existing discovered
  have stay : Seated (existing.filter (stillThere discovered)) := fun r hr =>
    seated r (List.mem_filter.mp hr).1
  obtain ⟨keptSeated, keptSeats⟩ := seats_of_forall₂ stay (kept_forall₂ hd nodup)
  obtain ⟨newSeated, newSeats⟩ := seats_newcomers new
    (fun d hd => unplaced d (mem_newcomers.mp hd).1) kept.length
  have added : (mergeChecked existing discovered).added = new.length := mergeChecked_added hd
  refine ⟨kept, new.mapIdx fun i r => seedOrder r (i + kept.length), ?_, ?_, keptSeated, newSeated,
    ?_, ?_⟩
  · rw [mergeChecked_routes hd, List.mapIdx_append, mapIdx_seedOrder_of_placed]
    intro r hr
    obtain ⟨n, seat⟩ := keptSeated r hr
    exact hasExplicitOrder_of_seat seat
  · rw [List.length_mapIdx, added]
  · rw [keptSeats]
    exact List.filter_sublist.filterMap seat?
  · rw [newSeats, added]

/-- **Ascending places after a merge**: no old place lies beyond the first new one. -/
theorem ascending_append_iff {kept new : List Route} {count : Nat} (asc : Ascending kept)
    (h : seats new = List.range' (kept.length + 1) count) :
    Ascending (kept ++ new) ↔ count = 0 ∨ ∀ n ∈ seats kept, n ≤ kept.length + 1 := by
  have split : seats (kept ++ new) = seats kept ++ seats new := List.filterMap_append
  rw [Ascending, split, List.pairwise_append, h]
  constructor
  · rintro ⟨-, -, across⟩
    by_cases none : count = 0
    · exact .inl none
    · refine .inr fun n hn => across n hn _ ?_
      rw [List.mem_range'_1]
      omega
  · intro bound
    refine ⟨asc, List.pairwise_le_range', fun n hn k hk => ?_⟩
    rw [List.mem_range'_1] at hk
    rcases bound with none | bound
    · omega
    · exact (bound n hn).trans hk.1

end Merge

end PropForge.Route
