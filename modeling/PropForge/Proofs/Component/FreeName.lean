import PropForge.Proofs.Component.Names

/-!
# The search for a free name

A name that is not free is numbered, from two on, until a candidate is. The search is stated here as it
runs, one candidate after another and with no bound on their number, and `freeName` and the two
passes are shown to agree with it:

* `Search.Ends`: how a search goes on, how it ends and what is reserved then;
* `Search.ends_iff`: a search that is at some candidate ends at the first free one from there on;
* `nameState_of_ends`, `nameHooks_of_ends`: each pass names what is next by such a search, and goes
  on with what is reserved at its end;
* `search_ends`: every search ends, and no more candidates are in its way than names are reserved.
-/

namespace PropForge.ComponentView

/-- Where a search stands: the candidate on trial, and the number that the next one gets. -/
structure Search where
  candidate : String
  number : Nat
  deriving DecidableEq, Repr

namespace Search

/-- The first candidate is the name that is asked for. -/
def start (base : String) : Search := ⟨base, 2⟩

/-- On to the next candidate. -/
def next (base : String) (s : Search) : Search :=
  ⟨base ++ String.ofList (Number.digits s.number), s.number + 1⟩

/-- How a search ends from where it stands: after how many candidates, with which name, and with
which names reserved. A search that goes on for ever does not end. -/
inductive Ends (reserved : List String) (withSetter : Bool) (base : String) :
    Search → Nat → String → List String → Prop where
  | found {s : Search} (free : isFree reserved withSetter s.candidate = true) :
      Ends reserved withSetter base s 1 s.candidate (taken withSetter s.candidate ++ reserved)
  | blocked {s : Search} {tried : Nat} {name : String} {after : List String}
      (notFree : isFree reserved withSetter s.candidate = false)
      (rest : Ends reserved withSetter base (s.next base) tried name after) :
      Ends reserved withSetter base s (tried + 1) name after

/-- A search after `n` candidates that were not free. -/
def reached (base : String) (n : Nat) : Search := ⟨numbered base n, n + 2⟩

theorem reached_zero (base : String) : reached base 0 = start base := rfl

theorem next_reached (base : String) (n : Nat) :
    (reached base n).next base = reached base (n + 1) := by
  simp [reached, next, numbered]

variable {reserved after : List String} {withSetter : Bool} {base name : String} {n tried : Nat}

/-- **A search** ends at the first free candidate from where it stands, and nowhere else. -/
theorem ends_iff : Ends reserved withSetter base (reached base n) tried name after ↔
    ∃ k, tried = k + 1 ∧ name = numbered base (n + k) ∧ after = taken withSetter name ++ reserved ∧
      isFree reserved withSetter (numbered base (n + k)) = true ∧
      ∀ j < k, isFree reserved withSetter (numbered base (n + j)) = false := by
  constructor
  · intro h
    -- Along the run, each turn moves the place on by one candidate.
    generalize place : reached base n = s at h
    induction h generalizing n with
    | found free =>
      subst place
      exact ⟨0, rfl, rfl, rfl, free, nofun⟩
    | blocked notFree _ ih =>
      subst place
      obtain ⟨k, rfl, rfl, rfl, free, least⟩ := ih (next_reached base n).symm
      have same (i : Nat) : n + 1 + i = n + (i + 1) := by omega
      rw [same] at free ⊢
      refine ⟨k + 1, rfl, rfl, rfl, free, fun j hj => ?_⟩
      cases j with
      | zero => exact notFree
      | succ j => exact same j ▸ least j (by omega)
  · rintro ⟨k, rfl, rfl, rfl, free, least⟩
    -- The run is put together from its end, so the candidates still ahead are counted down.
    induction k generalizing n with
    | zero => exact .found free
    | succ k ih =>
      have same (i : Nat) : n + (i + 1) = n + 1 + i := by omega
      have notFree := least 0 (Nat.succ_pos k)
      rw [same] at free ⊢
      refine .blocked notFree ?_
      rw [next_reached]
      exact ih free fun j hj => same j ▸ least (j + 1) (by omega)

theorem ends_start_iff : Ends reserved withSetter base (start base) tried name after ↔
    ∃ n, tried = n + 1 ∧ name = numbered base n ∧ after = taken withSetter name ++ reserved ∧
      isFree reserved withSetter (numbered base n) = true ∧
      ∀ m < n, isFree reserved withSetter (numbered base m) = false := by
  rw [← reached_zero, ends_iff]
  simp only [Nat.zero_add]

end Search

variable {reserved after : List String} {withSetter : Bool} {base name : String} {tried : Nat}

theorem isFree_eq_false_iff : isFree reserved withSetter name = false ↔
    name ∈ reserved ∨ withSetter = true ∧ setterName name ∈ reserved := by
  cases withSetter <;> simp [isFree]
  tauto

theorem mem_taken {x : String} :
    x ∈ taken withSetter name ↔ x = name ∨ withSetter = true ∧ x = setterName name := by
  cases withSetter <;> simp [taken]

/-- What a search ends with is the name that is chosen, and what is reserved then is what the name
takes and all that was reserved before. -/
theorem eq_freeName_of_ends
    (h : Search.Ends reserved withSetter base (.start base) tried name after) :
    name = freeName reserved withSetter base ∧ after = taken withSetter name ++ reserved := by
  obtain ⟨n, -, rfl, after_eq, first⟩ := Search.ends_start_iff.mp h
  exact ⟨(freeName_eq_numbered_iff.mpr first).symm, after_eq⟩

/-- A state variable is named by a search, and the variables behind it when the search is over. -/
theorem nameState_of_ends {s : StateVariable} (rest : List StateVariable)
    (h : Search.Ends reserved true s.name (.start s.name) tried name after) :
    nameState reserved (s :: rest) =
      ({ s with name } :: (nameState after rest).1, (nameState after rest).2) := by
  obtain ⟨rfl, rfl⟩ := eq_freeName_of_ends h
  rfl

/-- The result of a hook is named by a search, and the results behind it when the search is over. -/
theorem nameHooks_of_ends {hook : String} (rest : List String)
    (h : Search.Ends (hook :: reserved) false (hookResult hook) (.start (hookResult hook)) tried name
      after) :
    nameHooks reserved (hook :: rest) = ⟨hook, name⟩ :: nameHooks after rest := by
  obtain ⟨rfl, rfl⟩ := eq_freeName_of_ends h
  rfl

/-- **Every search ends.** It has no bound, and still tries no more candidates than names are
reserved and one, because no reserved name stands in the way of two, neither as a value nor as a
setter. It ends in one way: with the first of `base`, `base2`, `base3` and so on that is free, and
whose setter is free if it has one; and then this name and its setter are reserved too. State
variables and hooks are named so, one after another. -/
theorem search_ends (reserved : List String) (withSetter : Bool) (base : String) :
    ∃ n ≤ reserved.toFinset.card, ∃ after,
      (∀ tried name left, Search.Ends reserved withSetter base (.start base) tried name left ↔
        tried = n + 1 ∧ name = numbered base n ∧ left = after) ∧
      freeName reserved withSetter base = numbered base n ∧
      (numbered base n ∉ reserved ∧
        (withSetter = true → setterName (numbered base n) ∉ reserved)) ∧
      (∀ m < n, numbered base m ∈ reserved ∨
        withSetter = true ∧ setterName (numbered base m) ∈ reserved) ∧
      (∀ x, x ∈ after ↔ x ∈ reserved ∨ x = numbered base n ∨
        withSetter = true ∧ x = setterName (numbered base n)) ∧
      (∀ (s : StateVariable) (rest : List StateVariable), withSetter = true → s.name = base →
        nameState reserved (s :: rest) =
          ({ s with name := numbered base n } :: (nameState after rest).1,
            (nameState after rest).2)) ∧
      ∀ (hook : String) (earlier rest : List String), withSetter = false →
        reserved = hook :: earlier → hookResult hook = base →
        nameHooks earlier (hook :: rest) = ⟨hook, numbered base n⟩ :: nameHooks after rest := by
  obtain ⟨n, few, chosen, free, least⟩ := freeName_spec reserved withSetter base
  have ends : Search.Ends reserved withSetter base (.start base) (n + 1) (numbered base n)
      (taken withSetter (numbered base n) ++ reserved) :=
    Search.ends_start_iff.mpr ⟨n, rfl, rfl, rfl, free, least⟩
  refine ⟨n, few, taken withSetter (numbered base n) ++ reserved,
    fun tried name left => ⟨fun h => ?_, ?_⟩, chosen, ?_, ?_, ?_, ?_, ?_⟩
  · obtain ⟨m, rfl, rfl, rfl, first⟩ := Search.ends_start_iff.mp h
    have same := (freeName_eq_numbered_iff.mpr first).symm.trans chosen
    rw [numbered_injective base same]
    exact ⟨rfl, rfl, rfl⟩
  · rintro ⟨rfl, rfl, rfl⟩
    exact ends
  · simpa [isFree, imp_iff_not_or] using free
  · intro m hm
    exact isFree_eq_false_iff.mp (least m hm)
  · intro x
    rw [List.mem_append, mem_taken, or_comm]
  · rintro s rest rfl rfl
    exact nameState_of_ends rest ends
  · rintro hook earlier rest rfl rfl rfl
    exact nameHooks_of_ends rest ends

/-- Each of three reserved names can stand in the way of a candidate, two as values and one as a
setter. -/
example : freeName ["open", "setOpen2", "open3"] true "open" = "open4" := by decide +kernel

end PropForge.ComponentView
