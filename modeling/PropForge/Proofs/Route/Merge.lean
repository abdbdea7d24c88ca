import Mathlib.Data.List.Forall2
import PropForge.Proofs.Assoc
import PropForge.Route.Merge

/-!
# What a merge keeps, adds and changes

Existing routes are looked up among the discovered paths, and discovered routes among the existing
ones. Discovered paths are texts, so both look-ups come down to the text of a path:

* `merge_spec`: the existing routes that are still there, each with the fields it lacked, and
  behind them the discovered routes that are new; only the order of routes without a position is
  set;
* `mergeChecked_again`: a second merge of the same discovered routes changes nothing.
-/

namespace PropForge.Route

/-- The path of a route, if it is a text. -/
def pathName? (r : Route) : Option String :=
  match r.field? "path" with
  | some (.string s) => some s
  | _ => none

/-- Values that can be looked up. -/
def IsScalar : Json → Prop
  | .array _ | .object _ => False
  | _ => True

theorem pathName?_eq_some {r : Route} {s : String} :
    r.pathName? = some s ↔ r.field? "path" = some (.string s) := by
  unfold pathName?
  split <;> simp_all

theorem path_eq_string {r : Route} {s : String} : r.path = .string s ↔ r.pathName? = some s := by
  rw [pathName?_eq_some, path]
  cases r.field? "path" <;> simp

theorem samePath_string {a : Json} {s : String} :
    samePath a (.string s) = true ↔ a = .string s := by
  cases a <;> simp [samePath, wholeNumber?]

theorem string_samePath {b : Json} {s : String} :
    samePath (.string s) b = true ↔ b = .string s := by
  cases b <;> simp [samePath, wholeNumber?, eq_comm]

theorem checkPath_of_isScalar {p : Json} (h : IsScalar p) : checkPath p = .ok () := by
  cases p <;> first | rfl | cases h

/-- Discovered routes that say their paths, each path once. -/
structure Discovered (discovered : List Route) : Prop where
  named : ∀ d ∈ discovered, ∃ s, d.pathName? = some s
  distinct : ∀ d ∈ discovered, ∀ d' ∈ discovered, d.pathName? = d'.pathName? → d = d'

section Lookup

variable {existing discovered : List Route}

/-- Whether an existing route is still there. -/
def stillThere (discovered : List Route) (r : Route) : Bool :=
  discovered.any fun d => d.pathName?.isSome && d.pathName? = r.pathName?

theorem stillThere_iff (hd : Discovered discovered) {r : Route} :
    stillThere discovered r = true ↔ ∃ d ∈ discovered, d.pathName? = r.pathName? := by
  simp only [stillThere, List.any_eq_true, Bool.and_eq_true, decide_eq_true_eq]
  constructor
  · rintro ⟨d, hm, -, same⟩
    exact ⟨d, hm, same⟩
  · rintro ⟨d, hm, same⟩
    obtain ⟨s, hs⟩ := hd.named d hm
    exact ⟨d, hm, by simp [hs], same⟩

theorem samePath_path (hd : Discovered discovered) {d r : Route} (hm : d ∈ discovered) :
    samePath d.path r.path = true ↔ d.pathName? = r.pathName? := by
  obtain ⟨s, hs⟩ := hd.named d hm
  rw [path_eq_string.mpr hs, string_samePath, path_eq_string, hs, eq_comm]

/-- The look-up of a path among the discovered ones. -/
theorem discoveredAt?_eq_some (hd : Discovered discovered) {r d : Route} :
    discoveredAt? discovered r.path = some d ↔ d ∈ discovered ∧ d.pathName? = r.pathName? := by
  unfold discoveredAt?
  constructor
  · intro h
    have hm := List.mem_reverse.mp (List.mem_of_find?_eq_some h)
    exact ⟨hm, (samePath_path hd hm).mp (by simpa using List.find?_some h)⟩
  · rintro ⟨hm, same⟩
    cases found : discovered.reverse.find? fun r' => samePath r'.path r.path with
    | none =>
      have := List.find?_eq_none.mp found d (List.mem_reverse.mpr hm)
      exact absurd ((samePath_path hd hm).mpr same) (by simpa using this)
    | some d' =>
      have hm' := List.mem_reverse.mp (List.mem_of_find?_eq_some found)
      have same' := (samePath_path hd hm').mp (by simpa using List.find?_some found)
      rw [hd.distinct d' hm' d hm (same'.trans same.symm)]

theorem discoveredAt?_isSome (hd : Discovered discovered) (r : Route) :
    (discoveredAt? discovered r.path).isSome = stillThere discovered r := by
  rw [Bool.eq_iff_iff, stillThere_iff hd, Option.isSome_iff_exists]
  simp only [discoveredAt?_eq_some hd]

/-- A discovered route is new if no existing one has its path. -/
theorem isNew_eq (hd : Discovered discovered) {d : Route} (hm : d ∈ discovered) :
    isNew existing d = !(existing.map pathName?).contains d.pathName? := by
  obtain ⟨s, hs⟩ := hd.named d hm
  rw [isNew, Bool.not_inj_iff, Bool.eq_iff_iff, List.any_eq_true, path_eq_string.mpr hs]
  simp only [samePath_string, path_eq_string, List.contains_eq_mem, List.mem_map,
    decide_eq_true_eq, hs]

end Lookup

section Kept

variable {existing discovered : List Route}

/-- A route with the fields of a discovered one where it had none. -/
def Filled (discovered : List Route) (r kept : Route) : Prop :=
  ∃ d ∈ discovered, d.pathName? = r.pathName? ∧
    ∀ name, kept.field? name = (r.field? name).or (d.field? name)

theorem Filled.pathName?_eq {r kept : Route} (h : Filled discovered r kept) :
    kept.pathName? = r.pathName? := by
  obtain ⟨d, -, same, fields⟩ := h
  cases hr : r.field? "path" with
  | some p => simp [pathName?, fields, hr]
  | none => simpa [pathName?, fields, hr] using same

/-- The kept routes, one for each existing route that is still there. -/
theorem kept_forall₂ (hd : Discovered discovered)
    (nodup : ∀ r ∈ existing, (Assoc.keys r).Nodup) :
    List.Forall₂ (Filled discovered) (existing.filter (stillThere discovered))
      (existing.filterMap (keep? discovered)) := by
  induction existing with
  | nil => exact .nil
  | cons r rest ih =>
    have ih := ih fun r' hr' => nodup r' (List.mem_cons_of_mem _ hr')
    cases found : discoveredAt? discovered r.path with
    | none =>
      have gone := discoveredAt?_isSome hd r
      rw [found] at gone
      simpa [keep?, found, ← gone] using ih
    | some d =>
      have there := discoveredAt?_isSome hd r
      rw [found] at there
      simp only [List.filter_cons, ← there, Option.isSome_some, if_true, List.filterMap_cons,
        keep?, found, Option.map_some]
      obtain ⟨hm, same⟩ := (discoveredAt?_eq_some hd).mp found
      refine .cons ⟨d, hm, same, fun name => ?_⟩ ih
      exact Assoc.get?_merge (nodup r List.mem_cons_self) d name

/-- A route after positions were given to those without one: all but its order is as before. -/
def Seeded (index : Nat) (before after : Route) : Prop :=
  (∀ name, name ≠ "order" → after.field? name = before.field? name) ∧
  after.field? "order" =
    if before.hasExplicitOrder then before.field? "order" else some (.integer (index + 1))

theorem seeded_seedOrder (r : Route) (index : Nat) : Seeded index r (seedOrder r index) := by
  unfold seedOrder
  by_cases h : r.hasExplicitOrder = true
  · simp [Seeded, h]
  · rw [if_neg h]
    refine ⟨fun name ne => Assoc.get?_put_ne (Ne.symm ne) _ _, ?_⟩
    simp [h, field?]

theorem pathName?_seedOrder (r : Route) (index : Nat) :
    (seedOrder r index).pathName? = r.pathName? := by
  simp only [pathName?, (seeded_seedOrder r index).1 "path" (by decide)]

/-- Whoever did not say where it stands is told a whole number. -/
theorem hasExplicitOrder_seedOrder (r : Route) (index : Nat) :
    (seedOrder r index).hasExplicitOrder = true := by
  obtain ⟨others, order⟩ := seeded_seedOrder r index
  cases h : r.hasExplicitOrder with
  | false =>
    rw [h, if_neg Bool.false_ne_true] at order
    rw [hasExplicitOrder, order]
    rfl
  | true =>
    rw [h, if_pos rfl] at order
    rw [hasExplicitOrder, order, others "priority" (by decide)]
    exact h

end Kept

section Merge

variable {existing discovered : List Route}

theorem forM_ok {l : List Route} {f : Route → Except RouteFault Unit}
    (h : ∀ r ∈ l, f r = .ok ()) : l.forM f = .ok () := by
  induction l with
  | nil => rfl
  | cons r rest ih =>
    rw [List.forM_eq_forM, List.forM_cons, h r List.mem_cons_self]
    exact ih fun r' hr' => h r' (List.mem_cons_of_mem _ hr')

/-- Routes whose paths can be looked up are merged. -/
theorem merge_eq_ok (hd : Discovered discovered)
    (scalar : ∀ r ∈ existing, IsScalar r.path) :
    merge existing discovered = .ok (mergeChecked existing discovered) := by
  have checked : discovered.forM checkDiscovered = .ok () := forM_ok fun d hm => by
    obtain ⟨s, hs⟩ := hd.named d hm
    simp [checkDiscovered, pathName?_eq_some.mp hs, checkPath]
  have lookedUp : (existing.forM fun r => checkPath r.path) = .ok () :=
    forM_ok fun r hr => checkPath_of_isScalar (scalar r hr)
  simp [merge, checked, lookedUp, bind, Except.bind, pure, Except.pure]

/-- The discovered routes that no existing route has the path of. -/
def newcomers (existing discovered : List Route) : List Route :=
  discovered.filter fun d => !(existing.map pathName?).contains d.pathName?

theorem mem_newcomers {d : Route} :
    d ∈ newcomers existing discovered ↔
      d ∈ discovered ∧ d.pathName? ∉ existing.map pathName? := by
  simp [newcomers]

theorem mergeChecked_routes (hd : Discovered discovered) :
    (mergeChecked existing discovered).routes =
      (existing.filterMap (keep? discovered) ++ newcomers existing discovered).mapIdx
        fun index r => seedOrder r index := by
  rw [mergeChecked, List.filter_congr fun _ hm => isNew_eq hd hm, newcomers]

theorem mergeChecked_added (hd : Discovered discovered) :
    (mergeChecked existing discovered).added = (newcomers existing discovered).length := by
  rw [mergeChecked, List.filter_congr fun _ hm => isNew_eq hd hm, newcomers]

theorem map_pathName?_mapIdx_seedOrder (l : List Route) :
    (l.mapIdx fun index r => seedOrder r index).map pathName? = l.map pathName? := by
  apply List.ext_getElem?
  intro i
  simp only [List.getElem?_map, List.getElem?_mapIdx, Option.map_map]
  congr 1
  funext r
  exact pathName?_seedOrder r i

theorem map_pathName?_of_filled {rs kept : List Route}
    (h : List.Forall₂ (Filled discovered) rs kept) :
    kept.map pathName? = rs.map pathName? := by
  induction h with
  | nil => rfl
  | cons hr _ ih => rw [List.map_cons, List.map_cons, hr.pathName?_eq, ih]

/-- The paths of a merge: those of the existing routes that are still there, then the new ones. -/
theorem mergeChecked_paths (hd : Discovered discovered)
    (nodup : ∀ r ∈ existing, (Assoc.keys r).Nodup) :
    (mergeChecked existing discovered).routes.map pathName? =
      (existing.filter (stillThere discovered)).map pathName? ++
        (newcomers existing discovered).map pathName? := by
  rw [mergeChecked_routes hd, map_pathName?_mapIdx_seedOrder, List.map_append,
    map_pathName?_of_filled (kept_forall₂ hd nodup)]

theorem mem_mergeChecked_paths (hd : Discovered discovered)
    (nodup : ∀ r ∈ existing, (Assoc.keys r).Nodup) (p : Option String) :
    p ∈ (mergeChecked existing discovered).routes.map pathName? ↔
      p ∈ discovered.map pathName? := by
  rw [mergeChecked_paths hd nodup, List.mem_append]
  constructor
  · rintro (h | h)
    · obtain ⟨r, hr, rfl⟩ := List.mem_map.mp h
      obtain ⟨d, hm, same⟩ := (stillThere_iff hd).mp (List.mem_filter.mp hr).2
      exact List.mem_map.mpr ⟨d, hm, same⟩
    · obtain ⟨d, hnew, rfl⟩ := List.mem_map.mp h
      exact List.mem_map_of_mem (mem_newcomers.mp hnew).1
  · intro h
    obtain ⟨d, hm, rfl⟩ := List.mem_map.mp h
    by_cases old : d.pathName? ∈ existing.map pathName?
    · obtain ⟨r, hr, same⟩ := List.mem_map.mp old
      have there := (stillThere_iff hd).mpr ⟨d, hm, same.symm⟩
      exact .inl (List.mem_map.mpr ⟨r, List.mem_filter.mpr ⟨hr, there⟩, same⟩)
    · exact .inr (List.mem_map_of_mem (mem_newcomers.mpr ⟨hm, old⟩))

theorem nodup_mergeChecked_paths (hd : Discovered discovered)
    (nodup : ∀ r ∈ existing, (Assoc.keys r).Nodup) (once : (discovered.map pathName?).Nodup)
    (distinct : (existing.map path).Nodup) :
    ((mergeChecked existing discovered).routes.map pathName?).Nodup := by
  rw [mergeChecked_paths hd nodup]
  refine List.nodup_append.mpr ⟨?_, once.sublist (List.filter_sublist.map _), ?_⟩
  · refine List.pairwise_map.mpr ?_
    have apart := (List.pairwise_map.mp distinct).sublist
      (List.filter_sublist (p := stillThere discovered))
    refine apart.imp_of_mem fun {r r'} hr _ ne same => ne ?_
    -- a route that is still there has a text for a path
    obtain ⟨d, hm, hs⟩ := (stillThere_iff hd).mp (List.mem_filter.mp hr).2
    obtain ⟨s, hds⟩ := hd.named d hm
    have first := hs.symm.trans hds
    rw [path_eq_string.mpr first, path_eq_string.mpr (same.symm.trans first)]
  · rintro p hk q hn rfl
    obtain ⟨d, hnew, same⟩ := List.mem_map.mp hn
    obtain ⟨r, hr, hp⟩ := List.mem_map.mp hk
    apply (mem_newcomers.mp hnew).2
    rw [same, ← hp]
    exact List.mem_map_of_mem (List.mem_filter.mp hr).1

end Merge

section Again

variable {existing discovered : List Route}

/-- A route that a further merge of the same discovered routes leaves as it is: its path is among
them, it begins with all fields that it could gain, and it says where it stands. -/
structure Settled (discovered : List Route) (r : Route) : Prop where
  nodup : (Assoc.keys r).Nodup
  found : ∃ d ∈ discovered, d.pathName? = r.pathName? ∧ Assoc.keys d <+: Assoc.keys r
  placed : r.hasExplicitOrder = true

theorem settled_seedOrder {d r : Route} (hm : d ∈ discovered) (nodup : (Assoc.keys r).Nodup)
    (same : d.pathName? = r.pathName?) (sub : Assoc.keys d <+: Assoc.keys r) (index : Nat) :
    Settled discovered (seedOrder r index) := by
  refine ⟨?_, ⟨d, hm, by rw [same, pathName?_seedOrder], ?_⟩, hasExplicitOrder_seedOrder r index⟩
  · unfold seedOrder
    split
    · exact nodup
    · exact Assoc.nodup_keys_put nodup
  · unfold seedOrder
    split
    · exact sub
    · exact sub.trans (Assoc.keys_prefix_put _ _ _)

theorem settled_of_mem_mergeChecked (hd : Discovered discovered)
    (fields : ∀ d ∈ discovered, (Assoc.keys d).Nodup)
    (nodup : ∀ r ∈ existing, (Assoc.keys r).Nodup) {r : Route}
    (hr : r ∈ (mergeChecked existing discovered).routes) : Settled discovered r := by
  rw [mergeChecked_routes hd] at hr
  obtain ⟨i, hi, rfl⟩ := List.mem_mapIdx.mp hr
  rcases List.mem_append.mp (List.getElem_mem hi) with hk | hn
  · obtain ⟨old, hold, kept⟩ := List.mem_filterMap.mp hk
    obtain ⟨d, found, merged⟩ := Option.map_eq_some_iff.mp kept
    obtain ⟨hm, same⟩ := (discoveredAt?_eq_some hd).mp found
    rw [← merged]
    refine settled_seedOrder hm (Assoc.nodup_keys_merge (fields d hm) old) ?_
      (Assoc.keys_prefix_merge d old) i
    have filled : Filled discovered old (Assoc.merge d old) :=
      ⟨d, hm, same, fun name => Assoc.get?_merge (nodup old hold) d name⟩
    rw [same, filled.pathName?_eq]
  · have hm := (mem_newcomers.mp hn).1
    exact settled_seedOrder hm (fields _ hm) rfl List.prefix_rfl i

theorem keep?_of_settled (hd : Discovered discovered) {r : Route}
    (h : Settled discovered r) : keep? discovered r = some r := by
  obtain ⟨d, hm, same, sub⟩ := h.found
  rw [keep?, (discoveredAt?_eq_some hd).mpr ⟨hm, same⟩, Option.map_some,
    Assoc.merge_eq_self h.nodup sub]

/-- Routes that say where they stand are not told. -/
theorem mapIdx_seedOrder_of_placed {l : List Route} (placed : ∀ r ∈ l, r.hasExplicitOrder = true) :
    (l.mapIdx fun index r => seedOrder r index) = l := by
  apply List.ext_getElem?
  intro i
  rw [List.getElem?_mapIdx]
  cases found : l[i]? with
  | none => rfl
  | some r => simp [seedOrder, placed r (List.mem_of_getElem? found)]

/-- Settled routes that leave out no discovered path are merged as they are. -/
theorem mergeChecked_of_settled (hd : Discovered discovered)
    (settled : ∀ r ∈ existing, Settled discovered r)
    (covered : ∀ d ∈ discovered, d.pathName? ∈ existing.map pathName?) :
    mergeChecked existing discovered = ⟨existing, 0, 0⟩ := by
  have kept : existing.filterMap (keep? discovered) = existing := by
    rw [List.filterMap_congr fun r hr => keep?_of_settled hd (settled r hr), List.filterMap_some]
  have new : discovered.filter (isNew existing) = [] := by
    rw [List.filter_congr fun _ hm => isNew_eq hd hm]
    refine List.filter_eq_nil_iff.mpr fun d hm => ?_
    simpa using covered d hm
  have seeded := mapIdx_seedOrder_of_placed fun r hr => (settled r hr).placed
  simp [mergeChecked, kept, new, seeded]

/-- **A merge is made once.** Merging the same discovered routes into the result changes
nothing. -/
theorem mergeChecked_again (hd : Discovered discovered)
    (fields : ∀ d ∈ discovered, (Assoc.keys d).Nodup)
    (nodup : ∀ r ∈ existing, (Assoc.keys r).Nodup) :
    mergeChecked (mergeChecked existing discovered).routes discovered =
      ⟨(mergeChecked existing discovered).routes, 0, 0⟩ :=
  mergeChecked_of_settled hd (fun _ hr => settled_of_mem_mergeChecked hd fields nodup hr)
    fun _ hm => (mem_mergeChecked_paths hd nodup _).mpr (List.mem_map_of_mem hm)

end Again

theorem discovered_of_nodup {discovered : List Route}
    (named : ∀ d ∈ discovered, ∃ s, d.pathName? = some s)
    (once : (discovered.map pathName?).Nodup) : Discovered discovered :=
  ⟨named, fun _ hm _ hm' same => List.inj_on_of_nodup_map once hm hm' same⟩

/-- **What a merge is.** First come the existing routes that are still there, in their old order
and with all their fields, and then the discovered routes that no existing one has the path of. A
route without a position gets the place at which it stands; nothing else is changed. -/
theorem merge_spec {existing discovered : List Route}
    (scalar : ∀ r ∈ existing, ∀ p, r.field? "path" = some p → IsScalar p)
    (nodup : ∀ r ∈ existing, (Assoc.keys r).Nodup)
    (named : ∀ d ∈ discovered, ∃ s, d.pathName? = some s)
    (once : (discovered.map pathName?).Nodup) :
    ∃ m kept, merge existing discovered = .ok m ∧
      List.Forall₂ (Filled discovered) (existing.filter (stillThere discovered)) kept ∧
      m.routes.length = (kept ++ newcomers existing discovered).length ∧
      (∀ i b, (kept ++ newcomers existing discovered)[i]? = some b →
        ∃ r, m.routes[i]? = some r ∧ Seeded i b r) ∧
      (∀ p, p ∈ m.routes.map pathName? ↔ p ∈ discovered.map pathName?) ∧
      (∀ r ∈ m.routes, r.hasExplicitOrder = true) ∧
      ((existing.map path).Nodup → (m.routes.map pathName?).Nodup) ∧
      m.added = (newcomers existing discovered).length ∧
      m.removed + kept.length = existing.length ∧
      m.routes.length = existing.length - m.removed + m.added := by
  have hd := discovered_of_nodup named once
  have scalarPath : ∀ r ∈ existing, IsScalar r.path := by
    intro r hr
    rw [path]
    cases found : r.field? "path" with
    | none => trivial
    | some p => exact scalar r hr p found
  have kept_le := List.length_filterMap_le (keep? discovered) existing
  have added : (mergeChecked existing discovered).added =
      (newcomers existing discovered).length := by
    rw [mergeChecked, List.filter_congr fun _ hm => isNew_eq hd hm, newcomers]
  have removed : (mergeChecked existing discovered).removed +
      (existing.filterMap (keep? discovered)).length = existing.length :=
    Nat.sub_add_cancel kept_le
  have routes : (mergeChecked existing discovered).routes = _ := mergeChecked_routes hd
  refine ⟨_, _, merge_eq_ok hd scalarPath, kept_forall₂ hd nodup, ?_, ?_,
    mem_mergeChecked_paths hd nodup, ?_, nodup_mergeChecked_paths hd nodup once, added, removed, ?_⟩
  · rw [routes, List.length_mapIdx]
  · intro i b hb
    refine ⟨seedOrder b i, ?_, seeded_seedOrder b i⟩
    rw [routes, List.getElem?_mapIdx, hb, Option.map_some]
  · intro r hr
    rw [routes] at hr
    obtain ⟨i, _, rfl⟩ := List.mem_mapIdx.mp hr
    exact hasExplicitOrder_seedOrder _ _
  · rw [routes, List.length_mapIdx, List.length_append, added]
    omega

/-- Stored routes, one of which is gone and one of which has a position. -/
def storedSample : List Route :=
  [[("path", .string "/b"), ("hidden", .bool true)], [("title", .string "No path")],
    [("path", .string "/a"), ("order", .integer 7)]]

def foundSample : List Route := ["/a", "/b", "/c"].map ofPath

theorem merge_spec_sample : ∃ m, merge storedSample foundSample = .ok m ∧
    m.routes.length = 3 ∧ m.added = 1 ∧ m.removed = 1 ∧
    ∀ r ∈ m.routes, r.hasExplicitOrder = true := by
  have scalar : ∀ r ∈ storedSample, ∀ p, r.field? "path" = some p → IsScalar p := by
    simp [storedSample, field?, Assoc.get?, IsScalar]
  have nodup : ∀ r ∈ storedSample, (Assoc.keys r).Nodup := by decide
  have named : ∀ d ∈ foundSample, ∃ s, d.pathName? = some s := by
    simp [foundSample, ofPath, pathName?, field?, Assoc.get?]
  have once : (foundSample.map pathName?).Nodup := by decide
  obtain ⟨m, kept, merged, -, -, -, -, placed, -, added, removed, total⟩ :=
    merge_spec scalar nodup named once
  have new : m.added = 1 := added
  have gone : m.removed = 1 := by
    cases merged
    rfl
  have old : storedSample.length = 3 := rfl
  exact ⟨m, merged, by omega, new, gone, placed⟩

end PropForge.Route
