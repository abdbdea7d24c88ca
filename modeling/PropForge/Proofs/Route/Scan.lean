import Mathlib.Data.List.TakeWhile
import Mathlib.Data.List.Sort
import Mathlib.Data.String.Basic
import PropForge.Proofs.File.Tree
import PropForge.Route.Scan

/-!
# Pages are found again

What is no page does not change what a scan finds: `pagePlaces_put` says so of whatever is put into
a tree, `scanned_put` of every directory of that tree.
-/

namespace PropForge.Route

section Sorting

variable {α : Type} {le : α → α → Bool}

/-- A list splits in one way only into a part with a property and a part without. -/
theorem split_unique {q : α → Bool} {a b c d : List α} (same : a ++ b = c ++ d)
    (ha : ∀ x ∈ a, q x = true) (hb : ∀ x ∈ b, q x = false) (hc : ∀ x ∈ c, q x = true)
    (hd : ∀ x ∈ d, q x = false) : a = c ∧ b = d := by
  have front {m n : List α} (hm : ∀ x ∈ m, q x = true) (hn : ∀ x ∈ n, q x = false) :
      (m ++ n).takeWhile q = m := by
    rw [List.takeWhile_append_of_pos hm]
    cases n with
    | nil => simp
    | cons x n => simp [hn x List.mem_cons_self]
  have first : a = c := by rw [← front ha hb, same, front hc hd]
  subst first
  exact ⟨rfl, List.append_cancel_left same⟩

theorem mergeSort_congr {le' : α → α → Bool} {l : List α}
    (same : ∀ a ∈ l, ∀ b ∈ l, le a b = le' a b) : l.mergeSort le = l.mergeSort le' := by
  have sorted := List.map_mergeSort (f := id) same
  rw [List.map_id, List.map_id] at sorted
  exact sorted

/-- Sorting keeps the order of equals, so that leaving something out may come first. -/
theorem filter_mergeSort (trans : ∀ a b c, le a b = true → le b c = true → le a c = true)
    (total : ∀ a b, (le a b || le b a) = true) (p : α → Bool) (l : List α) :
    (l.mergeSort le).filter p = (l.filter p).mergeSort le := by
  induction l with
  | nil => simp
  | cons a l ih =>
    obtain ⟨before, after, sorted, rest, less⟩ := List.mergeSort_cons trans total a l
    have order := List.pairwise_mergeSort trans total (a :: l)
    rw [sorted] at order
    have more := (List.pairwise_cons.mp (List.pairwise_append.mp order).2.1).1
    rw [rest, List.filter_append] at ih
    by_cases keep : p a = true
    · obtain ⟨before', after', sorted', rest', less'⟩ :=
        List.mergeSort_cons trans total a (l.filter p)
      have order' := List.pairwise_mergeSort trans total (a :: l.filter p)
      rw [sorted'] at order'
      have more' := (List.pairwise_cons.mp (List.pairwise_append.mp order').2.1).1
      obtain ⟨front, back⟩ := split_unique (q := fun b => !le a b) (ih.trans rest')
        (fun b hb => less b (List.mem_of_mem_filter hb))
        (fun b hb => by simp [more b (List.mem_of_mem_filter hb)])
        less' (fun b hb => by simp [more' b hb])
      rw [sorted, List.filter_append, List.filter_cons_of_pos keep, List.filter_cons_of_pos keep,
        sorted', front, back]
    · rw [sorted, List.filter_append, List.filter_cons_of_neg keep, List.filter_cons_of_neg keep, ih]

end Sorting

/-- The places with pages to which one entry of a directory leads. -/
def placesOf (above : List String) (name : String) (t : FileTree) : List (List String) :=
  if isPrivate name then []
  else match t with
    | .file _ => if name = pageFile then [above] else []
    | .directory es => pagePlaces (above ++ [name]) (.directory es)

theorem placesIn_eq_map (above : List String) (entries : List (String × FileTree)) :
    placesIn above entries = entries.map fun (name, t) => (name, placesOf above name t) := by
  induction entries with
  | nil => rfl
  | cons entry entries ih =>
    obtain ⟨name, t⟩ := entry
    unfold placesIn
    rw [ih]
    rfl

theorem pagePlaces_directory (above : List String) (entries : List (String × FileTree)) :
    pagePlaces above (.directory entries) =
      ((entries.map fun (name, t) => (name, placesOf above name t)).mergeSort
        fun (m, _) (n, _) => m ≤ n).flatMap (·.2) := by
  rw [← placesIn_eq_map]
  unfold pagePlaces
  rfl

theorem placesOf_file {name : String} (h : name ≠ pageFile) (above : List String) (c : Content) :
    placesOf above name (.file c) = [] := by
  simp [placesOf, h]

theorem pagePlaces_empty (above : List String) : pagePlaces above .empty = [] := by
  simp [FileTree.empty, pagePlaces, placesIn]

theorem placesOf_empty (above : List String) (name : String) :
    placesOf above name .empty = [] := by
  have inside := pagePlaces_empty (above ++ [name])
  unfold placesOf
  split
  · rfl
  · exact inside

/-- Entries that lead to no page do not count. -/
theorem flatMap_filter {l : List (String × List (List String))} :
    (l.filter fun entry => entry.2 ≠ []).flatMap (·.2) = l.flatMap (·.2) := by
  induction l with
  | nil => rfl
  | cons entry l ih =>
    by_cases none : entry.2 = []
    · rw [List.filter_cons_of_neg (by simpa using none), ih, List.flatMap_cons, none,
        List.nil_append]
    · rw [List.filter_cons_of_pos (by simpa using none), List.flatMap_cons, List.flatMap_cons, ih]

theorem sorted_congr {l l' : List (String × List (List String))}
    (same : (l.filter fun entry => entry.2 ≠ []) = l'.filter fun entry => entry.2 ≠ []) :
    (l.mergeSort fun (m, _) (n, _) => m ≤ n).flatMap (·.2) =
      (l'.mergeSort fun (m, _) (n, _) => m ≤ n).flatMap (·.2) := by
  have trans (a b c : String × List (List String)) (h : decide (a.1 ≤ b.1) = true)
      (h' : decide (b.1 ≤ c.1) = true) : decide (a.1 ≤ c.1) = true := by
    rw [decide_eq_true_eq] at *
    exact le_trans h h'
  have total (a b : String × List (List String)) :
      (decide (a.1 ≤ b.1) || decide (b.1 ≤ a.1)) = true := by
    simpa using le_total a.1 b.1
  rw [← flatMap_filter, filter_mergeSort trans total, same, ← filter_mergeSort trans total,
    flatMap_filter]

/-- What is put in the place of something leads to the same pages as that did; where nothing was,
to none. -/
def Unseen (name : String) (old : Option FileTree) (new : FileTree) : Prop :=
  ∀ above, placesOf above name new = (old.map (placesOf above name)).getD []

theorem unseen_file {name : String} {old : Option FileTree} (free : ∀ es, old ≠ some (.directory es))
    (h : old = none → name ≠ pageFile) (c : Content) : Unseen name old (.file c) := by
  intro above
  match old with
  | none => exact placesOf_file (h rfl) above c
  | some (.file _) => rfl
  | some (.directory es) => exact absurd rfl (free es)

theorem unseen_empty (name : String) : Unseen name none .empty :=
  fun above => placesOf_empty above name

section Put

open FileTree

variable {new t : FileTree} {place : List String}

theorem pagePlaces_put_entry {name : String} {entries : List (String × FileTree)}
    (same : Unseen name (Assoc.get? name entries) new) (above : List String) :
    pagePlaces above (.directory (Assoc.put name new entries)) =
      pagePlaces above (.directory entries) := by
  rw [pagePlaces_directory, pagePlaces_directory]
  apply sorted_congr
  cases there : Assoc.get? name entries with
  | none =>
    have none := same above
    rw [there] at none
    rw [Assoc.put_of_notMem new (Assoc.get?_eq_none_iff.mp there), List.map_append,
      List.filter_append, List.map_singleton]
    simp [none]
  | some old =>
    have replaced := same above
    rw [there] at replaced
    rw [Assoc.map_put_of_get? _ there]
    exact congrArg (Prod.mk name) replaced

/-- A directory leads to the pages that it leads to, whatever its name. -/
theorem unseen_of_pagePlaces {name : String} {t t' : FileTree} (kind : t.isFile = t'.isFile)
    (same : ∀ above, pagePlaces above t' = pagePlaces above t) : Unseen name (some t) t' := by
  intro above
  match t, t' with
  | .file _, .file _ => rfl
  | .file _, .directory _ => cases kind
  | .directory _, .file _ => cases kind
  | .directory es, .directory es' =>
    change placesOf above name (.directory es') = placesOf above name (.directory es)
    unfold placesOf
    dsimp only
    rw [same]

theorem unseen_inside {name : String} {entries : List (String × FileTree)} {child : FileTree}
    {rest : List String} (there : Assoc.get? name entries = some child) (fits : Fits rest child)
    (same : ∀ last ∈ (name :: rest).getLast?,
      Unseen last (at? (name :: rest) (.directory entries)) new) :
    ∀ last ∈ rest.getLast?, Unseen last (at? rest child) new := by
  intro last hl
  obtain ⟨n, more, rfl⟩ := List.exists_cons_of_ne_nil fits.ne_nil
  have here := same last (by rw [List.getLast?_cons_cons]; exact hl)
  rw [at?_cons, there] at here
  exact here

/-- **What is unseen changes no scan** of the tree that it is put into. -/
theorem pagePlaces_put (fits : Fits place t)
    (same : ∀ name ∈ place.getLast?, Unseen name (at? place t) new) (above : List String) :
    pagePlaces above (put new place t) = pagePlaces above t := by
  induction fits generalizing above with
  | last name entries =>
    rw [put_cons]
    apply pagePlaces_put_entry
    have here := same name rfl
    rw [at?_cons] at here
    cases there : Assoc.get? name entries with
    | none => rw [there] at here; exact here
    | some old => rw [there] at here; exact here
  | inside there fits ih =>
    rename_i name entries child rest
    rw [put_cons, there]
    apply pagePlaces_put_entry
    rw [there]
    apply unseen_of_pagePlaces
    · cases fits <;> rfl
    · exact ih (unseen_inside there fits same)

/-- What a scan of a place finds, if there is a directory. -/
def scanned : Option FileTree → List (List String)
  | some (.directory entries) => pagePlaces [] (.directory entries)
  | _ => []

theorem scanned_of_isLeaf {t : FileTree} (h : IsLeaf t) (q : List String) :
    scanned (at? q t) = [] := by
  cases q with
  | nil =>
    cases t with
    | file c => rfl
    | directory entries =>
      have empty : entries = [] := h
      subst empty
      exact pagePlaces_empty []
  | cons name q => rw [at?_of_isLeaf h]; rfl

/-- So does none of any directory in the tree. -/
theorem scanned_put (fits : Fits place t) (free : ¬ HasDirectory place t) (leaf : IsLeaf new)
    (same : ∀ name ∈ place.getLast?, Unseen name (at? place t) new) (q : List String) :
    scanned (at? q (put new place t)) = scanned (at? q t) := by
  induction fits generalizing q with
  | last name entries =>
    cases q with
    | nil => exact pagePlaces_put (.last name entries) same []
    | cons n q =>
      rw [put_cons, at?_cons, at?_cons]
      by_cases first : name = n
      · subst first
        rw [Assoc.get?_put_self]
        change scanned (at? q new) = _
        rw [scanned_of_isLeaf leaf]
        cases there : Assoc.get? name entries with
        | none => rfl
        | some old =>
          cases old with
          | file c => exact (scanned_of_isLeaf (t := .file c) trivial q).symm
          | directory es => exact absurd (hasDirectory_cons.mpr ⟨_, there, es, rfl⟩) free
      · rw [Assoc.get?_put_ne first]
  | inside there fits ih =>
    rename_i name entries child rest
    cases q with
    | nil => exact pagePlaces_put (.inside there fits) same []
    | cons n q =>
      rw [put_cons, at?_cons, at?_cons]
      by_cases first : name = n
      · subst first
        rw [Assoc.get?_put_self, there]
        apply ih
        · exact fun occupied => free (hasDirectory_cons.mpr ⟨child, there, occupied⟩)
        · exact unseen_inside there fits same
      · rw [Assoc.get?_put_ne first]

end Put

end PropForge.Route
