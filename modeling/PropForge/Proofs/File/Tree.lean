import PropForge.File.Tree
import PropForge.Proofs.Assoc

/-!
# What putting something into a tree changes

A file or an empty directory is put where a directory has room for it:

* `at?_put_append`: what was put is there;
* `hasDirectory_put`: directories stay;
* `file?_put_of_ne`: so do all other files.
-/

namespace PropForge.FileTree

/-- What the file at a place holds, if there is one. -/
def file? (place : List String) (t : FileTree) : Option Content :=
  match at? place t with
  | some (file c) => some c
  | _ => none

theorem file?_eq_some {place : List String} {t : FileTree} {c : Content} :
    file? place t = some c ↔ at? place t = some (file c) := by
  unfold file?
  cases at? place t with
  | none => simp
  | some t => cases t <;> simp

def HasDirectory (place : List String) (t : FileTree) : Prop :=
  ∃ entries, at? place t = some (directory entries)

/-- A place whose directory is there. -/
inductive Fits : List String → FileTree → Prop where
  | last (name : String) (entries : List (String × FileTree)) : Fits [name] (directory entries)
  | inside {name : String} {entries : List (String × FileTree)} {t : FileTree}
      {rest : List String} (there : Assoc.get? name entries = some t) (fits : Fits rest t) :
      Fits (name :: rest) (directory entries)

theorem Fits.ne_nil {place : List String} {t : FileTree} (fits : Fits place t) : place ≠ [] := by
  cases fits <;> simp

/-- What has no entries: a file, and the empty directory. -/
def IsLeaf : FileTree → Prop
  | file _ => True
  | directory entries => entries = []

theorem at?_cons (name : String) (rest : List String) (entries : List (String × FileTree)) :
    at? (name :: rest) (directory entries) = (Assoc.get? name entries).bind (at? rest) := rfl

theorem at?_append (p q : List String) (t : FileTree) :
    at? (p ++ q) t = (at? p t).bind (at? q) := by
  induction p generalizing t with
  | nil => rfl
  | cons name p ih =>
    cases t with
    | file c => rfl
    | directory entries =>
      rw [List.cons_append, at?_cons, at?_cons]
      cases Assoc.get? name entries with
      | none => rfl
      | some t => exact ih t

theorem file?_cons (name : String) (rest : List String) (entries : List (String × FileTree)) :
    file? (name :: rest) (directory entries) = (Assoc.get? name entries).bind (file? rest) := by
  rw [file?, at?_cons]
  cases Assoc.get? name entries <;> rfl

theorem hasDirectory_cons {name : String} {rest : List String}
    {entries : List (String × FileTree)} :
    HasDirectory (name :: rest) (directory entries) ↔
      ∃ t, Assoc.get? name entries = some t ∧ HasDirectory rest t := by
  constructor
  · rintro ⟨es, h⟩
    rw [at?_cons, Option.bind_eq_some_iff] at h
    obtain ⟨t, there, h⟩ := h
    exact ⟨t, there, es, h⟩
  · rintro ⟨t, there, es, h⟩
    exact ⟨es, by rw [at?_cons, there]; exact h⟩

theorem at?_of_isLeaf {t : FileTree} (h : IsLeaf t) (name : String) (rest : List String) :
    at? (name :: rest) t = none := by
  cases t with
  | file c => rfl
  | directory entries =>
    have empty : entries = [] := h
    subst empty
    rfl

theorem fits_of_hasDirectory {place : List String} {t : FileTree} (nonempty : place ≠ [])
    (h : HasDirectory place.dropLast t) : Fits place t := by
  induction place generalizing t with
  | nil => exact absurd rfl nonempty
  | cons name rest ih =>
    obtain ⟨es, h⟩ := h
    cases rest with
    | nil =>
      cases h
      exact .last name es
    | cons next rest =>
      cases t with
      | file c => cases h
      | directory entries =>
        rw [List.dropLast_cons_cons, at?_cons, Option.bind_eq_some_iff] at h
        obtain ⟨child, there, h⟩ := h
        exact .inside there (ih (by simp) ⟨es, h⟩)

theorem Fits.hasDirectory {place : List String} {t : FileTree} (fits : Fits place t) :
    HasDirectory place.dropLast t := by
  induction fits with
  | last name entries => exact ⟨entries, rfl⟩
  | inside there fits ih =>
    obtain ⟨n, rest, rfl⟩ := List.exists_cons_of_ne_nil fits.ne_nil
    rw [List.dropLast_cons_cons]
    exact hasDirectory_cons.mpr ⟨_, there, ih⟩

theorem not_hasDirectory_of_file? {place : List String} {t : FileTree} {c : Content}
    (h : file? place t = some c) : ¬ HasDirectory place t := by
  rintro ⟨es, there⟩
  rw [file?, there] at h
  cases h

section Put

variable {new t : FileTree} {place : List String}

/-- Where something fits, it is put among the entries of a directory. -/
theorem put_cons (name : String) (rest : List String) (entries : List (String × FileTree)) :
    put new (name :: rest) (directory entries) =
      directory (Assoc.put name (put new rest ((Assoc.get? name entries).getD empty)) entries) := rfl

theorem at?_put_append (fits : Fits place t) (rest : List String) :
    at? (place ++ rest) (put new place t) = at? rest new := by
  induction fits with
  | last name entries =>
    rw [List.singleton_append, put_cons, at?_cons, Assoc.get?_put_self]
    rfl
  | inside there fits ih =>
    rw [List.cons_append, put_cons, at?_cons, Assoc.get?_put_self, there]
    exact ih

theorem file?_put_self (fits : Fits place t) (c : Content) :
    file? place (put (file c) place t) = some c := by
  have there : at? (place ++ []) (put (file c) place t) = _ := at?_put_append fits []
  rw [List.append_nil] at there
  rw [file?, there]
  rfl

/-- Directories stay, if none is replaced. -/
theorem hasDirectory_put (fits : Fits place t) (free : ¬ HasDirectory place t) {q : List String}
    (h : HasDirectory q t) : HasDirectory q (put new place t) := by
  induction fits generalizing q with
  | last name entries =>
    cases q with
    | nil => exact ⟨_, rfl⟩
    | cons n q =>
      obtain ⟨child, there, h⟩ := hasDirectory_cons.mp h
      by_cases same : name = n
      · -- nothing is below what is no directory
        subst same
        refine absurd (hasDirectory_cons.mpr ⟨child, there, ?_⟩) free
        cases child with
        | directory es => exact ⟨es, rfl⟩
        | file c =>
          obtain ⟨es, h⟩ := h
          cases q <;> cases h
      · exact hasDirectory_cons.mpr ⟨child, by rw [Assoc.get?_put_ne same, there], h⟩
  | inside there fits ih =>
    rename_i name entries child rest
    cases q with
    | nil => exact ⟨_, rfl⟩
    | cons n q =>
      obtain ⟨other, found, h⟩ := hasDirectory_cons.mp h
      by_cases same : name = n
      · subst same
        obtain rfl : child = other := Option.some.inj (there.symm.trans found)
        refine hasDirectory_cons.mpr ⟨put new rest child, by rw [Assoc.get?_put_self, there]; rfl, ?_⟩
        exact ih (fun occupied => free (hasDirectory_cons.mpr ⟨child, there, occupied⟩)) h
      · exact hasDirectory_cons.mpr ⟨other, by rw [Assoc.get?_put_ne same, found], h⟩

theorem file?_of_isLeaf {t : FileTree} (h : IsLeaf t) (name : String) (rest : List String) :
    file? (name :: rest) t = none := by
  rw [file?, at?_of_isLeaf h]

/-- Other files stay as they are. -/
theorem file?_put_of_ne (fits : Fits place t) (free : ¬ HasDirectory place t) (leaf : IsLeaf new)
    {q : List String} (ne : q ≠ place) : file? q (put new place t) = file? q t := by
  induction fits generalizing q with
  | last name entries =>
    cases q with
    | nil => rfl
    | cons n q =>
      rw [put_cons, file?_cons, file?_cons]
      by_cases same : name = n
      · subst same
        obtain ⟨next, q, rfl⟩ : ∃ next rest, q = next :: rest :=
          List.exists_cons_of_ne_nil (by rintro rfl; exact ne rfl)
        rw [Assoc.get?_put_self]
        change file? (next :: q) new = _
        rw [file?_of_isLeaf leaf]
        cases there : Assoc.get? name entries with
        | none => rfl
        | some child =>
          cases child with
          | file c => rfl
          | directory es => exact absurd (hasDirectory_cons.mpr ⟨_, there, es, rfl⟩) free
      · rw [Assoc.get?_put_ne same]
  | inside there fits ih =>
    rename_i name entries child rest
    cases q with
    | nil => rfl
    | cons n q =>
      rw [put_cons, file?_cons, file?_cons]
      by_cases same : name = n
      · subst same
        rw [Assoc.get?_put_self, there]
        refine ih (fun occupied => free (hasDirectory_cons.mpr ⟨child, there, occupied⟩)) ?_
        rintro rfl
        exact ne rfl
      · rw [Assoc.get?_put_ne same]

/-- What is put elsewhere, whatever it replaces, changes nothing here. -/
theorem at?_put_apart {name other : String} (ne : name ≠ other) (new : FileTree)
    (front below rest : List String) (t : FileTree) :
    at? (front ++ other :: rest) (put new (front ++ name :: below) t) =
      at? (front ++ other :: rest) t := by
  induction front generalizing t with
  | nil =>
    cases t with
    | file c => rfl
    | directory entries =>
      rw [List.nil_append, List.nil_append, put_cons, at?_cons, at?_cons, Assoc.get?_put_ne ne]
  | cons n front ih =>
    cases t with
    | file c => rfl
    | directory entries =>
      rw [List.cons_append, List.cons_append, put_cons, at?_cons, at?_cons, Assoc.get?_put_self,
        Option.bind_some, ih]
      cases Assoc.get? n entries with
      | none => cases front <;> rfl
      | some t => rfl

end Put

end PropForge.FileTree
