import Mathlib.Data.List.Induction
import Mathlib.Data.List.Nodup
import PropForge.Assoc

/-!
Association lists by what they say of a key: the last value that was put, and keys that keep their
places. A list with each key once stays one.
-/

namespace PropForge.Assoc

variable {κ α : Type} [DecidableEq κ]

theorem get?_put (key k : κ) (value : α) (m : List (κ × α)) :
    get? k (put key value m) = if key = k then some value else get? k m := by
  induction m with
  | nil => rfl
  | cons entry rest ih =>
    obtain ⟨k', a⟩ := entry
    by_cases h : k' = key
    · subst h
      by_cases hk : k' = k <;> simp [put, get?, hk]
    · by_cases hk : k' = k
      · subst hk
        simp [put, get?, h, Ne.symm h]
      · simp [put, get?, h, hk, ih]

@[simp] theorem get?_put_self (key : κ) (value : α) (m : List (κ × α)) :
    get? key (put key value m) = some value := by
  rw [get?_put, if_pos rfl]

theorem get?_put_ne {key k : κ} (h : key ≠ k) (value : α) (m : List (κ × α)) :
    get? k (put key value m) = get? k m := by
  rw [get?_put, if_neg h]

/-- An entry was put, or it was there. -/
theorem mem_put {key : κ} {value : α} {m : List (κ × α)} {entry : κ × α}
    (h : entry ∈ put key value m) : entry = (key, value) ∨ entry ∈ m := by
  induction m with
  | nil => exact .inl (List.mem_singleton.mp h)
  | cons first rest ih =>
    obtain ⟨k, a⟩ := first
    by_cases same : k = key
    · subst same
      rw [put, if_pos rfl, List.mem_cons] at h
      exact h.imp_right (List.mem_cons_of_mem _)
    · rw [put, if_neg same, List.mem_cons] at h
      rcases h with h | h
      · exact .inr (h ▸ List.mem_cons_self)
      · exact (ih h).imp_right (List.mem_cons_of_mem _)

theorem mem_merge {older newer : List (κ × α)} {entry : κ × α} (h : entry ∈ merge older newer) :
    entry ∈ older ∨ entry ∈ newer := by
  induction newer generalizing older with
  | nil => exact .inl h
  | cons first rest ih =>
    rcases ih h with h | h
    · rcases mem_put h with rfl | h
      · exact .inr List.mem_cons_self
      · exact .inl h
    · exact .inr (List.mem_cons_of_mem _ h)

/-- A new key comes last; an old one stays where it is. -/
theorem keys_put (key : κ) (value : α) (m : List (κ × α)) :
    keys (put key value m) = if key ∈ keys m then keys m else keys m ++ [key] := by
  induction m with
  | nil => simp [put, keys]
  | cons entry rest ih =>
    obtain ⟨k, a⟩ := entry
    by_cases h : k = key
    · simp [put, keys, h]
    · simp only [keys] at ih
      by_cases hk : key ∈ rest.map (·.1) <;> simp [put, keys, h, Ne.symm h, ih, hk]

theorem nodup_keys_put {key : κ} {value : α} {m : List (κ × α)} (h : (keys m).Nodup) :
    (keys (put key value m)).Nodup := by
  rw [keys_put]
  split
  · exact h
  · rename_i absent
    rw [← List.concat_eq_append]
    exact h.concat absent

/-- A key that is not there is put at the end. -/
theorem put_of_notMem {key : κ} {m : List (κ × α)} (value : α) (h : key ∉ keys m) :
    put key value m = m ++ [(key, value)] := by
  induction m with
  | nil => rfl
  | cons entry rest ih =>
    obtain ⟨k, a⟩ := entry
    simp only [keys, List.map_cons, List.mem_cons, not_or] at h
    simp [put, Ne.symm h.1, ih h.2]

/-- What is read off entries stays the same if it is the same of the value that is put. -/
theorem map_put_of_get? {β : Type} {key : κ} {value old : α} {m : List (κ × α)} (f : κ × α → β)
    (h : get? key m = some old) (same : f (key, value) = f (key, old)) :
    (put key value m).map f = m.map f := by
  induction m with
  | nil => cases h
  | cons entry rest ih =>
    obtain ⟨k, a⟩ := entry
    by_cases first : k = key
    · subst first
      rw [get?, if_pos rfl] at h
      cases h
      rw [put, if_pos rfl, List.map_cons, List.map_cons, same]
    · rw [get?, if_neg first] at h
      rw [put, if_neg first, List.map_cons, List.map_cons, ih h]

theorem get?_eq_none_iff {key : κ} {m : List (κ × α)} : get? key m = none ↔ key ∉ keys m := by
  induction m with
  | nil => simp [get?, keys]
  | cons entry rest ih =>
    obtain ⟨k, a⟩ := entry
    by_cases h : k = key
    · simp [get?, keys, h]
    · simp only [get?, h, if_false, ih, keys, List.map_cons, List.mem_cons, not_or]
      exact ⟨fun hm => ⟨Ne.symm h, hm⟩, fun hm => hm.2⟩

theorem mem_of_get? {key : κ} {value : α} {m : List (κ × α)} (h : get? key m = some value) :
    (key, value) ∈ m := by
  induction m with
  | nil => cases h
  | cons entry rest ih =>
    obtain ⟨k, a⟩ := entry
    by_cases hk : k = key
    · simp_all [get?]
    · simp only [get?, hk, if_false] at h
      exact List.mem_cons_of_mem _ (ih h)

theorem get?_of_mem {key : κ} {value : α} {m : List (κ × α)} (nodup : (keys m).Nodup)
    (mem : (key, value) ∈ m) : get? key m = some value := by
  induction m with
  | nil => cases mem
  | cons entry rest ih =>
    obtain ⟨absent, nodup⟩ := List.nodup_cons.mp nodup
    rcases List.mem_cons.mp mem with rfl | mem
    · exact if_pos rfl
    · have other : entry.1 ≠ key := by
        rintro rfl
        exact absent (List.mem_map.mpr ⟨_, mem, rfl⟩)
      exact (if_neg other).trans (ih nodup mem)

theorem merge_cons (older rest : List (κ × α)) (k : κ) (a : α) :
    merge older ((k, a) :: rest) = merge (put k a older) rest := rfl

/-- The newer value counts, and where there is none the older one. -/
theorem get?_merge {newer : List (κ × α)} (nodup : (keys newer).Nodup) (older : List (κ × α))
    (k : κ) : get? k (merge older newer) = (get? k newer).or (get? k older) := by
  induction newer generalizing older with
  | nil => simp [merge, get?]
  | cons entry rest ih =>
    obtain ⟨k', a⟩ := entry
    simp only [keys, List.map_cons, List.nodup_cons] at nodup
    rw [merge_cons, ih nodup.2, get?_put]
    by_cases h : k' = k
    · subst h
      have absent : get? k' rest = none := get?_eq_none_iff.mpr nodup.1
      simp [get?, absent]
    · simp [get?, h]

theorem nodup_keys_merge {older : List (κ × α)} (h : (keys older).Nodup)
    (newer : List (κ × α)) : (keys (merge older newer)).Nodup := by
  induction newer generalizing older with
  | nil => exact h
  | cons entry rest ih => exact ih (nodup_keys_put h)

/-- Keys keep their places when others are put over them. -/
theorem keys_prefix_put (key : κ) (value : α) (m : List (κ × α)) :
    keys m <+: keys (put key value m) := by
  rw [keys_put]
  split
  · exact List.prefix_rfl
  · exact List.prefix_append _ _

theorem keys_prefix_merge (older newer : List (κ × α)) :
    keys older <+: keys (merge older newer) := by
  induction newer generalizing older with
  | nil => exact List.prefix_rfl
  | cons entry rest ih => exact (keys_prefix_put _ _ _).trans (ih _)

/-- Entries with keys of their own are put behind the others. -/
theorem merge_eq_append {older newer : List (κ × α)} (nodup : (keys newer).Nodup)
    (apart : ∀ k ∈ keys newer, k ∉ keys older) : merge older newer = older ++ newer := by
  induction newer generalizing older with
  | nil => simp [merge]
  | cons entry rest ih =>
    obtain ⟨k, a⟩ := entry
    simp only [keys, List.map_cons, List.nodup_cons] at nodup
    have absent : k ∉ keys older := apart k (by simp [keys])
    rw [merge_cons, put_of_notMem a absent, ih nodup.2]
    · simp
    · intro k' hk'
      have old := apart k' (by simp only [keys, List.map_cons]; exact List.mem_cons_of_mem _ hk')
      have : k' ≠ k := fun same => nodup.1 (same ▸ hk')
      simpa [keys, this] using old

/-- Entries that are put over the same keys in the same order replace them one by one; `front` is
what is replaced already. -/
theorem merge_append_of_keys_eq (front : List (κ × α)) {older newer : List (κ × α)}
    (nodup : (keys (front ++ newer)).Nodup) (same : keys older = keys newer) :
    merge (front ++ older) newer = front ++ newer := by
  induction newer generalizing front older with
  | nil =>
    have : older = [] := by simpa [keys] using same
    simp [merge, this]
  | cons entry rest ih =>
    obtain ⟨k, a⟩ := entry
    cases older with
    | nil => cases same
    | cons entry' rest' =>
      obtain ⟨k', a'⟩ := entry'
      simp only [keys, List.map_cons, List.cons.injEq] at same
      obtain ⟨rfl, same⟩ := same
      have replaced : put k' a (front ++ (k', a') :: rest') = front ++ [(k', a)] ++ rest' := by
        have absent : k' ∉ keys front := by
          simp only [keys, List.map_append, List.map_cons] at nodup
          exact fun h => (List.nodup_append.mp nodup).2.2 k' h k' List.mem_cons_self rfl
        clear ih nodup
        induction front with
        | nil => simp [put]
        | cons f fs ihf =>
          simp only [keys, List.map_cons, List.mem_cons, not_or] at absent
          simp [put, Ne.symm absent.1, ihf absent.2]
      rw [merge_cons, replaced, ih _ (by simpa using nodup) same]
      simp

/-- A list that begins with the keys of an older one holds all that the older one could give. -/
theorem merge_eq_self {older newer : List (κ × α)} (nodup : (keys newer).Nodup)
    (sub : keys older <+: keys newer) : merge older newer = newer := by
  obtain ⟨front, back, rfl, same⟩ : ∃ front back, newer = front ++ back ∧
      keys older = keys front := by
    refine ⟨newer.take older.length, newer.drop older.length, (List.take_append_drop _ _).symm, ?_⟩
    have := List.prefix_iff_eq_take.mp sub
    simpa [keys, List.map_take] using this
  have front_nodup : (keys front).Nodup := by
    simp only [keys, List.map_append] at nodup
    exact (List.nodup_append.mp nodup).1
  have step : merge older front = front := by
    simpa using merge_append_of_keys_eq [] (by simpa using front_nodup) same
  calc merge older (front ++ back)
      = merge (merge older front) back := by simp [merge, List.foldl_append]
    _ = merge front back := by rw [step]
    _ = front ++ back := by
        simp only [keys, List.map_append] at nodup
        obtain ⟨_, hb, apart⟩ := List.nodup_append.mp nodup
        exact merge_eq_append hb fun k hk hf => apart k hf k hk rfl

/-- If the value of each key is settled, it does not matter when and how often it is put. -/
theorem get?_ofList_filterMap (value? : κ → Option α) (items : List κ) (k : κ) :
    get? k (ofList (items.filterMap fun i => (value? i).map (i, ·))) =
      if k ∈ items then value? k else none := by
  unfold ofList
  induction items using List.reverseRecOn with
  | nil => rfl
  | append_singleton items last ih =>
    rw [List.filterMap_append, List.foldl_append]
    cases found : value? last with
    | none =>
      simp only [List.filterMap_cons, found, Option.map_none, List.filterMap_nil, List.foldl_nil, ih,
        List.mem_append, List.mem_singleton]
      by_cases same : k = last
      · simp [same, found]
      · simp [same]
    | some a =>
      simp only [List.filterMap_cons, found, Option.map_some, List.filterMap_nil, List.foldl_cons,
        List.foldl_nil, get?_put, ih, List.mem_append, List.mem_singleton]
      by_cases same : last = k
      · simp [same, ← found]
      · simp [same, Ne.symm same]

end PropForge.Assoc
