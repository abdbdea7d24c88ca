import PropForge.Proofs.Json.RoundTrip
import PropForge.Proofs.Route.Merge
import PropForge.Route.Scan

/-!
# Routes that can be stored

Merging keeps routes storable (`storable_mergeChecked`), and merging the routes of pages into what
came of merging them before changes nothing (`merge_again`).
-/

namespace PropForge

namespace Route

/-- A route that can be stored and read back. -/
def Storable (r : Route) : Prop := (Json.object r).WellFormed

theorem Storable.nodup {r : Route} (h : Storable r) : (Assoc.keys r).Nodup := by
  cases h with
  | object once all => exact once

theorem Storable.all {r : Route} (h : Storable r) : ∀ f ∈ r, f.2.WellFormed := by
  cases h with
  | object once all => exact all

theorem storable_ofPath (path : String) : Storable (ofPath path) := by
  refine .object (by simp [Assoc.keys, ofPath]) fun f hf => ?_
  rcases List.mem_cons.mp hf with rfl | hf
  · exact .string _
  · rw [List.mem_singleton.mp hf]
    exact .string _

theorem storable_merge {found r : Route} (hf : Storable found) (hr : Storable r) :
    Storable (Assoc.merge found r) :=
  .object (Assoc.nodup_keys_merge hf.nodup r) fun _ h =>
    (Assoc.mem_merge h).elim (hf.all _) (hr.all _)

theorem storable_seedOrder {r : Route} (h : Storable r) (index : Nat) :
    Storable (seedOrder r index) := by
  unfold seedOrder
  split
  · exact h
  · refine .object (Assoc.nodup_keys_put h.nodup) fun f hf => ?_
    rcases Assoc.mem_put hf with rfl | hf
    · exact .integer _
    · exact h.all f hf

theorem storable_mergeChecked {existing discovered : List Route}
    (he : ∀ r ∈ existing, Storable r) (hd : ∀ r ∈ discovered, Storable r) :
    ∀ r ∈ (mergeChecked existing discovered).routes, Storable r := by
  intro r hr
  obtain ⟨index, bound, rfl⟩ := List.mem_mapIdx.mp hr
  apply storable_seedOrder
  have mem := List.getElem_mem bound
  rcases List.mem_append.mp mem with kept | new
  · obtain ⟨old, hold, keep⟩ := List.mem_filterMap.mp kept
    obtain ⟨found, at?, same⟩ := Option.map_eq_some_iff.mp keep
    rw [← same]
    have there : found ∈ discovered := List.mem_reverse.mp (List.mem_of_find?_eq_some at?)
    exact storable_merge (hd found there) (he old hold)
  · exact hd _ (List.mem_filter.mp new).1

theorem pathName?_ofPath (path : String) : (ofPath path).pathName? = some path := rfl

theorem discovered_ofPlace (places : List (List String)) : Discovered (places.map ofPlace) where
  named d hd := by
    obtain ⟨names, -, rfl⟩ := List.mem_map.mp hd
    exact ⟨_, pathName?_ofPath _⟩
  distinct d hd d' hd' same := by
    obtain ⟨names, -, rfl⟩ := List.mem_map.mp hd
    obtain ⟨names', -, rfl⟩ := List.mem_map.mp hd'
    rw [ofPlace, ofPlace, pathName?_ofPath, pathName?_ofPath, Option.some.injEq] at same
    rw [ofPlace, ofPlace, same]

theorem mergeChecked_of_merge {existing discovered : List Route} {m : Merge}
    (h : merge existing discovered = .ok m) : mergeChecked existing discovered = m := by
  obtain ⟨-, -, h⟩ := exists_of_bind_eq_ok h
  obtain ⟨-, -, h⟩ := exists_of_bind_eq_ok h
  exact Except.ok.inj h

theorem storable_of_merge {existing discovered : List Route} {m : Merge}
    (he : ∀ r ∈ existing, Storable r) (hd : ∀ r ∈ discovered, Storable r)
    (h : merge existing discovered = .ok m) : ∀ r ∈ m.routes, Storable r := by
  rw [← mergeChecked_of_merge h]
  exact storable_mergeChecked he hd

/-- **Merging the same routes again** is a success that changes nothing. -/
theorem merge_again {existing discovered : List Route} {m : Merge} (hd : Discovered discovered)
    (fields : ∀ d ∈ discovered, Storable d) (old : ∀ r ∈ existing, Storable r)
    (h : merge existing discovered = .ok m) : merge m.routes discovered = .ok ⟨m.routes, 0, 0⟩ := by
  have nodup := fun r hr => (old r hr).nodup
  obtain rfl := mergeChecked_of_merge h
  rw [merge_eq_ok hd, mergeChecked_again hd (fun d hd => (fields d hd).nodup) nodup]
  intro r hr
  have path := (mem_mergeChecked_paths hd nodup _).mp (List.mem_map_of_mem hr)
  obtain ⟨d, there, same⟩ := List.mem_map.mp path
  obtain ⟨s, named⟩ := hd.named d there
  rw [path_eq_string.mpr (same.symm.trans named)]
  trivial

end Route

end PropForge
