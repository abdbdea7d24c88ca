import Mathlib.Data.List.Basic
import PropForge.File.Disk
import PropForge.Proofs.File.Tree

/-!
# What operations leave of a disk

* `Kept`: directories stay, and so do all files but those that are said to be touched;
* `kept_write`, `kept_makeDirectories`, `kept_append`: what each operation keeps;
* `locate_of_kept`: a path that can be followed leads to the same place afterwards;
* `makeDirectories_of_isDirectory`: making a directory that is there changes nothing.
-/

namespace PropForge.Disk

open FileTree

/-- The place at which a path starts. -/
def start (d : Disk) (p : Path) : List String := if p.root = "" then d.here else []

/-- Files that are touched aside, what a disk held it still holds. -/
structure Kept (touched : List String → Prop) (d d' : Disk) : Prop where
  here : d'.here = d.here
  home : d'.home = d.home
  directory : ∀ q, HasDirectory q d.tree → HasDirectory q d'.tree
  file : ∀ q, ¬ touched q → file? q d'.tree = file? q d.tree

namespace Kept

variable {touched : List String → Prop} {d d' d'' : Disk}

theorem refl (touched : List String → Prop) (d : Disk) : Kept touched d d :=
  ⟨rfl, rfl, fun _ h => h, fun _ _ => rfl⟩

theorem trans (h : Kept touched d d') (h' : Kept touched d' d'') : Kept touched d d'' where
  here := h'.here.trans h.here
  home := h'.home.trans h.home
  directory q hq := h'.directory q (h.directory q hq)
  file q hq := (h'.file q hq).trans (h.file q hq)

theorem mono {more : List String → Prop} (h : Kept touched d d') (le : ∀ q, touched q → more q) :
    Kept more d d' where
  here := h.here
  home := h.home
  directory := h.directory
  file q hq := h.file q fun hit => hq (le q hit)

end Kept

section Locate

variable {d d' : Disk} {p : Path} {place : List String}

theorem step_of_hasDirectory {tree : FileTree} {place : List String} (h : HasDirectory place tree)
    (name : String) :
    step tree place name = .ok (if name = ".." then place.dropLast else place ++ [name]) := by
  obtain ⟨es, there⟩ := h
  rw [step, there]

theorem step_of_not {tree : FileTree} {place : List String} (h : ¬ HasDirectory place tree)
    (name : String) : ∃ cause, step tree place name = .error cause := by
  unfold step
  split
  · rename_i es there
    exact absurd ⟨es, there⟩ h
  · exact ⟨_, rfl⟩
  · exact ⟨_, rfl⟩

theorem foldlM_step_cons {tree : FileTree} {place after : List String} {name : String}
    {names : List String} :
    (name :: names).foldlM (step tree) place = .ok after ↔ HasDirectory place tree ∧
      names.foldlM (step tree) (if name = ".." then place.dropLast else place ++ [name]) =
        .ok after := by
  rw [List.foldlM_cons]
  by_cases there : HasDirectory place tree
  · rw [step_of_hasDirectory there]
    exact ⟨fun h => ⟨there, h⟩, fun h => h.2⟩
  · obtain ⟨cause, stuck⟩ := step_of_not there name
    rw [stuck]
    exact ⟨fun h => (by cases h), fun h => absurd h.1 there⟩

/-- Where directories stay, a path that can be followed leads to the same place. -/
theorem foldlM_step_mono {tree tree' : FileTree} {names after : List String}
    (stay : ∀ q, HasDirectory q tree → HasDirectory q tree')
    (h : names.foldlM (step tree) place = .ok after) :
    names.foldlM (step tree') place = .ok after := by
  induction names generalizing place with
  | nil => exact h
  | cons name names ih =>
    obtain ⟨there, h⟩ := foldlM_step_cons.mp h
    exact foldlM_step_cons.mpr ⟨stay _ there, ih h⟩

theorem locate_of_kept {touched : List String → Prop} (kept : Kept touched d d')
    (h : d.locate p = .ok place) : d'.locate p = .ok place := by
  unfold locate at *
  rw [kept.here]
  exact foldlM_step_mono kept.directory h

/-- A path that can be followed leads where its names say. -/
theorem absolute_of_locate (h : d.locate p = .ok place) : (d.absolute p).names = place := by
  unfold locate at h
  unfold absolute
  dsimp only
  generalize (if p.root = "" then d.here else []) = here at *
  generalize p.names = names at *
  induction names generalizing here with
  | nil => exact Except.ok.inj h
  | cons name names ih => exact ih _ (foldlM_step_cons.mp h).2

theorem absolute_of_here (same : d'.here = d.here) (p : Path) : d'.absolute p = d.absolute p := by
  simp only [absolute, same]

/-- Following names without double dots is looking for them all at once. -/
theorem at?_of_foldlM (tree : FileTree) (names here : List String) (plain : ".." ∉ names) :
    (match names.foldlM (step tree) here with
      | .ok place => tree.at? place
      | .error _ => none) = tree.at? (here ++ names) := by
  induction names generalizing here with
  | nil => rw [List.append_nil]; rfl
  | cons name names ih =>
    rw [List.mem_cons, not_or] at plain
    by_cases there : HasDirectory here tree
    · have next := ih (here ++ [name]) plain.2
      rw [List.append_assoc, List.singleton_append] at next
      rw [List.foldlM_cons, step_of_hasDirectory there, if_neg (Ne.symm plain.1)]
      exact next
    · obtain ⟨cause, stuck⟩ := step_of_not there name
      rw [List.foldlM_cons, stuck, at?_append]
      cases found : tree.at? here with
      | none => rfl
      | some t =>
        cases t with
        | file c => rfl
        | directory es => exact absurd ⟨es, found⟩ there

theorem expandHome_of_absolute (absolute : p.root ≠ "") : d.expandHome p = some p := by
  unfold expandHome
  split
  · rename_i root _
    exact absurd root absolute
  · rename_i root _
    exact absurd root absolute
  · rfl

/-- What is expanded once is not expanded again. -/
theorem expandHome_again (absolute : d.home.root ≠ "") {q : Path} (h : d.expandHome p = some q) :
    d.expandHome q = some q := by
  have whole := h
  unfold expandHome at h
  split at h
  · cases h
    exact expandHome_of_absolute absolute
  · split at h
    · cases h
    · cases h
      exact whole
  · cases h
    exact whole

theorem expandHome_of_home (same : d'.home = d.home) (p : Path) :
    d'.expandHome p = d.expandHome p := by
  unfold expandHome
  rw [same]

/-- Without double dots, what is at a path is what is at the place that its names say. -/
theorem at?_of_plain (plain : ".." ∉ p.names) : d.at? p = d.tree.at? (d.start p ++ p.names) :=
  at?_of_foldlM d.tree p.names (d.start p) plain

theorem absolute_of_plain (plain : ".." ∉ p.names) :
    (d.absolute p).names = d.start p ++ p.names := by
  unfold absolute start
  dsimp only
  generalize (if p.root = "" then d.here else []) = here
  generalize p.names = names at *
  induction names generalizing here with
  | nil => exact (List.append_nil here).symm
  | cons name names ih =>
    rw [List.mem_cons, not_or] at plain
    rw [List.foldl_cons, if_neg (Ne.symm plain.1), ih _ plain.2, List.append_assoc,
      List.singleton_append]

/-- A place from the root is spelled without double dots. -/
theorem plain_absolute (plain : ".." ∉ d.here) (p : Path) : ".." ∉ (d.absolute p).names := by
  have begin : ".." ∉ (if p.root = "" then d.here else []) := by
    split
    · exact plain
    · exact List.not_mem_nil
  unfold absolute
  dsimp only
  generalize (if p.root = "" then d.here else []) = here at *
  generalize p.names = names
  induction names generalizing here with
  | nil => exact begin
  | cons name names ih =>
    refine ih _ ?_
    dsimp only
    split
    · exact fun h => begin (List.dropLast_subset here h)
    · rename_i down
      rw [List.mem_append, List.mem_singleton, not_or]
      exact ⟨begin, Ne.symm down⟩

/-- Names below a place that a path leads to. -/
theorem at?_below {names : List String} (found : d.locate p = .ok place) (plain : ".." ∉ names) :
    d.at? ⟨p.root, p.names ++ names⟩ = d.tree.at? (place ++ names) := by
  unfold locate at found
  unfold Disk.at? locate
  dsimp only
  rw [List.foldlM_append, found]
  exact at?_of_foldlM d.tree names place plain

/-- Names between places of directories: all before a directory are directories. -/
theorem hasDirectory_dropLast {tree : FileTree} (h : HasDirectory place tree) :
    HasDirectory place.dropLast tree := by
  obtain ⟨es, there⟩ := h
  by_cases empty : place = []
  · subst empty
    exact ⟨es, there⟩
  · rw [← List.dropLast_append_getLast empty, at?_append, Option.bind_eq_some_iff] at there
    obtain ⟨t, above, below⟩ := there
    cases t with
    | file c => cases below
    | directory es' => exact ⟨es', above⟩

theorem hasDirectory_nil {tree : FileTree} (h : HasDirectory place tree) : HasDirectory [] tree := by
  obtain ⟨es, there⟩ := h
  cases tree with
  | directory entries => exact ⟨entries, rfl⟩
  | file c => cases place <;> cases there

/-- Where a path leads, if not to a directory: the last name is the last of the path. -/
theorem last_of_locate (begin : HasDirectory (d.start p) d.tree) (h : d.locate p = .ok place)
    (free : ¬ HasDirectory place d.tree) : place.getLast? = some p.name := by
  unfold locate at h
  unfold start at begin
  unfold Path.name
  generalize (if p.root = "" then d.here else []) = here at *
  rcases List.eq_nil_or_concat' p.names with none | ⟨front, last, some⟩
  · rw [none] at h
    cases h
    exact absurd begin free
  · rw [some, List.foldlM_append] at h
    cases inside : front.foldlM (step d.tree) here with
    | error cause => rw [inside] at h; cases h
    | ok mid =>
      rw [inside] at h
      obtain ⟨there, h⟩ := foldlM_step_cons.mp h
      cases h
      by_cases up : last = ".."
      · rw [if_pos up] at free
        exact absurd (hasDirectory_dropLast there) free
      · rw [if_neg up, some, List.getLast?_append, List.getLast?_append]
        rfl

end Locate

section Operations

variable {d d' : Disk} {p : Path} {c : Content}

/-- What a write needs and what it does. -/
theorem write_eq_ok (h : d.write p c = .ok d') :
    ∃ place, d.locate p = .ok place ∧ Fits place d.tree ∧ ¬ HasDirectory place d.tree ∧
      d' = { d with tree := FileTree.put (.file c) place d.tree } := by
  unfold write at h
  split at h
  · cases h
  · rename_i place found
    refine ⟨place, found, ?_⟩
    split at h
    · cases h
    · rename_i es there free
      cases h
      have bare : ¬ HasDirectory place d.tree := fun ⟨es', occupied⟩ => free es' occupied
      refine ⟨fits_of_hasDirectory ?_ ⟨es, there⟩, bare, rfl⟩
      rintro rfl
      exact bare ⟨es, there⟩
    · cases h
    · cases h

theorem write_of_fits {place : List String} (found : d.locate p = .ok place)
    (dir : HasDirectory place.dropLast d.tree) (free : ¬ HasDirectory place d.tree) :
    d.write p c = .ok { d with tree := FileTree.put (.file c) place d.tree } := by
  obtain ⟨es, there⟩ := dir
  unfold write
  rw [found]
  dsimp only
  rw [there]
  split <;> simp_all [HasDirectory]

theorem content_eq_ok : d.content p = .ok c ↔
    ∃ place, d.locate p = .ok place ∧ file? place d.tree = some c := by
  unfold content file?
  cases d.locate p with
  | error cause =>
    constructor
    · intro h
      cases h
    · rintro ⟨place, h, -⟩
      cases h
  | ok place =>
    dsimp only
    constructor
    · intro h
      split at h
      · rename_i held there
        cases h
        exact ⟨place, rfl, by rw [there]⟩
      · cases h
      · cases h
    · rintro ⟨place', same, h⟩
      cases same
      split at h
      · rename_i held there
        cases h
        rw [there]
      · cases h

theorem content_eq_ok_iff_at? : d.content p = .ok c ↔ d.at? p = some (.file c) := by
  unfold content Disk.at?
  cases d.locate p with
  | error cause => simp
  | ok place =>
    dsimp only
    split <;> simp [*]

theorem isFile_iff : d.isFile p = true ↔ ∃ c, d.content p = .ok c := by
  simp only [content_eq_ok_iff_at?]
  unfold isFile
  cases d.at? p with
  | none => simp
  | some t => cases t <;> simp [FileTree.isFile]

theorem start_absolute (d d' : Disk) (p : Path) : d'.start (d.absolute p) = [] := by
  unfold start absolute
  dsimp only
  split <;> rfl

theorem names_absolute_again {d : Disk} (plain : ".." ∉ d.here) (d' : Disk) (p : Path) :
    (d'.absolute (d.absolute p)).names = (d.absolute p).names := by
  rw [absolute_of_plain (plain_absolute plain p), start_absolute, List.nil_append]

/-- The file at an absolute path is that at its names. -/
theorem content_absolute_iff {d d' : Disk} (plain : ".." ∉ d.here) :
    d'.content (d.absolute p) = .ok c ↔ file? (d.absolute p).names d'.tree = some c := by
  rw [content_eq_ok_iff_at?, at?_of_plain (plain_absolute plain p), file?_eq_some,
    start_absolute, List.nil_append]

theorem kept_put {new : FileTree} {place : List String} (fits : Fits place d.tree)
    (free : ¬ HasDirectory place d.tree) (leaf : IsLeaf new) :
    Kept (· = place) d { d with tree := FileTree.put new place d.tree } where
  here := rfl
  home := rfl
  directory _ h := hasDirectory_put fits free h
  file _ ne := file?_put_of_ne fits free leaf ne

/-- A write touches no other file. -/
theorem kept_write (h : d.write p c = .ok d') : Kept (· = (d.absolute p).names) d d' := by
  obtain ⟨place, found, fits, free, rfl⟩ := write_eq_ok h
  rw [absolute_of_locate found]
  exact kept_put fits free trivial

theorem file?_of_write (h : d.write p c = .ok d') :
    file? (d.absolute p).names d'.tree = some c := by
  obtain ⟨place, found, fits, free, rfl⟩ := write_eq_ok h
  rw [absolute_of_locate found]
  exact file?_put_self fits c

theorem content_of_write (h : d.write p c = .ok d') : d'.content p = .ok c := by
  have held := file?_of_write h
  obtain ⟨place, found, -, -, -⟩ := write_eq_ok h
  rw [absolute_of_locate found] at held
  exact content_eq_ok.mpr ⟨place, locate_of_kept (kept_write h) found, held⟩

theorem content_of_kept {touched : List String → Prop} (kept : Kept touched d d')
    (apart : ¬ touched (d.absolute p).names) (h : d.content p = .ok c) : d'.content p = .ok c := by
  obtain ⟨place, found, held⟩ := content_eq_ok.mp h
  rw [absolute_of_locate found] at apart
  exact content_eq_ok.mpr ⟨place, locate_of_kept kept found, (kept.file place apart).trans held⟩

/-- A file that is there can be written. -/
theorem write_of_content (begin : HasDirectory (d.start p) d.tree) (h : d.content p = .ok c)
    (new : Content) :
    ∃ d', d.write p new = .ok d' := by
  obtain ⟨place, found, held⟩ := content_eq_ok.mp h
  have free := not_hasDirectory_of_file? held
  refine ⟨_, write_of_fits found ?_ free⟩
  have some : place ≠ [] := fun none => free (none ▸ hasDirectory_nil begin)
  rw [← List.dropLast_append_getLast some, file?, at?_append] at held
  cases above : d.tree.at? place.dropLast with
  | none => rw [above] at held; cases held
  | some t =>
    cases t with
    | file c => rw [above] at held; cases held
    | directory es => exact ⟨es, above⟩

/-- A file that is there holds what it held, with the text that is added. -/
theorem content_append (begin : HasDirectory (d.start p) d.tree) (h : d.content p = .ok c)
    (s : String) : (d.append p s).content p = .ok (c.append s) := by
  obtain ⟨d', wrote⟩ := write_of_content begin h (c.append s)
  rw [append, h]
  dsimp only
  rw [wrote]
  exact content_of_write wrote

/-- A text is added to a file that is there, and to no other. -/
theorem kept_append (d : Disk) (p : Path) (s : String) :
    Kept (· = (d.absolute p).names) d (d.append p s) := by
  unfold append
  split
  · split
    · rename_i written
      exact kept_write written
    · exact .refl _ d
  · exact .refl _ d

/-- A text is added to the file at a place, or nothing is. -/
theorem file?_append (d : Disk) (p : Path) (s : String) (q : List String) :
    file? q (d.append p s).tree = file? q d.tree ∨
      ∃ c, file? q d.tree = some c ∧ file? q (d.append p s).tree = some (c.append s) := by
  unfold append
  split
  · rename_i c held
    split
    · rename_i written
      obtain ⟨place, found, there⟩ := content_eq_ok.mp held
      rw [← absolute_of_locate found] at there
      by_cases same : q = (d.absolute p).names
      · subst same
        exact .inr ⟨c, there, file?_of_write written⟩
      · exact .inl ((kept_write written).file q same)
    · exact .inl rfl
  · exact .inl rfl

/-- What making a directory needs and what it does. -/
theorem makeDirectory_eq_ok (h : d.makeDirectory p = .ok d') :
    ∃ place, d.locate p = .ok place ∧ Fits place d.tree ∧ d.tree.at? place = none ∧
      d' = { d with tree := FileTree.put .empty place d.tree } := by
  unfold makeDirectory at h
  split at h
  · cases h
  · rename_i place found
    refine ⟨place, found, ?_⟩
    split at h
    · cases h
    · rename_i absent
      rw [Bool.not_eq_true, Option.isSome_eq_false_iff, Option.isNone_iff_eq_none] at absent
      split at h
      · rename_i es there
        cases h
        refine ⟨fits_of_hasDirectory ?_ ⟨es, there⟩, absent, rfl⟩
        rintro rfl
        cases absent
      · cases h
      · cases h

theorem not_hasDirectory_of_none {place : List String} {tree : FileTree}
    (h : tree.at? place = none) : ¬ HasDirectory place tree := by
  rintro ⟨es, there⟩
  rw [h] at there
  cases there

/-- Making a directory touches no file. -/
theorem kept_makeDirectory (h : d.makeDirectory p = .ok d') : Kept (fun _ => False) d d' := by
  obtain ⟨place, -, fits, absent, rfl⟩ := makeDirectory_eq_ok h
  have kept := kept_put fits (not_hasDirectory_of_none absent) (show IsLeaf .empty from rfl)
  refine { kept with file := fun q _ => ?_ }
  by_cases same : q = place
  · subst same
    have there : FileTree.at? (q ++ []) (FileTree.put .empty q d.tree) = _ := at?_put_append fits []
    rw [List.append_nil] at there
    rw [file?, file?, there, absent]
    rfl
  · exact kept.file q same

theorem isDirectory_iff : d.isDirectory p = true ↔
    ∃ place, d.locate p = .ok place ∧ HasDirectory place d.tree := by
  unfold isDirectory Disk.at?
  cases d.locate p with
  | error cause => simp
  | ok place =>
    dsimp only
    cases found : d.tree.at? place with
    | none => simp [HasDirectory, found]
    | some t => cases t <;> simp [HasDirectory, found, FileTree.isDirectory]

theorem isDirectory_of_kept {touched : List String → Prop} (kept : Kept touched d d')
    (h : d.isDirectory p = true) : d'.isDirectory p = true := by
  obtain ⟨place, found, there⟩ := isDirectory_iff.mp h
  exact isDirectory_iff.mpr ⟨place, locate_of_kept kept found, kept.directory place there⟩

/-- A path into a directory starts at one. -/
theorem hasDirectory_start (h : d.isDirectory p.parent = true) :
    HasDirectory (d.start p) d.tree := by
  obtain ⟨place, found, there⟩ := isDirectory_iff.mp h
  change p.names.dropLast.foldlM (step d.tree) (d.start p) = .ok place at found
  generalize p.names.dropLast = names at *
  cases names with
  | nil =>
    cases found
    exact there
  | cons name rest => exact (foldlM_step_cons.mp found).1

end Operations

section MakeDirectories

variable {R : Disk → Disk → Prop}

theorem settleDirectory_induct (refl : ∀ d, R d d)
    (one : ∀ d d' p, d.makeDirectory p = .ok d' → R d d') (d : Disk) (p : Path) :
    R d (d.settleDirectory p).1 := by
  unfold settleDirectory
  split
  · rename_i made h
    exact one d made p h
  · exact refl d

/-- Making directories is making one after the other. -/
theorem makeDirectoriesAt_induct (refl : ∀ d, R d d) (trans : ∀ a b c, R a b → R b c → R a c)
    (one : ∀ d d' p, d.makeDirectory p = .ok d' → R d d') (d : Disk) (root : String)
    (names : List String) : R d (d.makeDirectoriesAt root names).1 := by
  induction names generalizing d with
  | nil => exact settleDirectory_induct refl one d _
  | cons name above ih =>
    rw [makeDirectoriesAt]
    split
    · have before := ih d
      split
      · rename_i e made h
        rw [h] at before
        exact trans _ _ _ before (settleDirectory_induct refl one made _)
      · rename_i e made f h
        rw [h] at before
        exact before
    · exact settleDirectory_induct refl one d _

theorem kept_makeDirectories (d : Disk) (p : Path) :
    Kept (fun _ => False) d (d.makeDirectories p).1 :=
  makeDirectoriesAt_induct (.refl _) (fun _ _ _ => .trans) (fun _ _ _ => kept_makeDirectory) d _ _

variable {d d' : Disk} {p : Path}

theorem isDirectory_of_makeDirectory (h : d.makeDirectory p = .ok d') : d'.isDirectory p = true := by
  have kept := kept_makeDirectory h
  obtain ⟨place, found, fits, -, rfl⟩ := makeDirectory_eq_ok h
  have there : FileTree.at? (place ++ []) (FileTree.put .empty place d.tree) = _ :=
    at?_put_append fits []
  rw [List.append_nil] at there
  exact isDirectory_iff.mpr ⟨place, locate_of_kept kept found, [], there⟩

theorem isDirectory_of_settleDirectory (h : d.settleDirectory p = (d', none)) :
    d'.isDirectory p = true := by
  unfold settleDirectory at h
  split at h
  · rename_i made made_eq
    cases h
    exact isDirectory_of_makeDirectory made_eq
  · split at h
    · rename_i there
      cases h
      rw [Bool.and_eq_true] at there
      exact there.2
    · cases h

theorem isDirectory_of_makeDirectoriesAt {root : String} {names : List String}
    (h : d.makeDirectoriesAt root names = (d', none)) :
    d'.isDirectory ⟨root, names.reverse⟩ = true := by
  cases names with
  | nil => exact isDirectory_of_settleDirectory h
  | cons name above =>
    rw [makeDirectoriesAt] at h
    split at h
    · split at h
      · exact isDirectory_of_settleDirectory h
      · cases h
    · exact isDirectory_of_settleDirectory h

/-- Without a failure the directory is there. -/
theorem isDirectory_of_makeDirectories (h : d.makeDirectories p = (d', none)) :
    d'.isDirectory p = true := by
  have there := isDirectory_of_makeDirectoriesAt h
  rw [List.reverse_reverse] at there
  exact there

theorem makeDirectory_of_isDirectory (h : d.isDirectory p = true) :
    d.makeDirectory p = .error ⟨.alreadyThere, p.text⟩ := by
  obtain ⟨place, found, es, there⟩ := isDirectory_iff.mp h
  rw [makeDirectory, found]
  dsimp only
  rw [there]
  rfl

theorem settleDirectory_of_isDirectory (h : d.isDirectory p = true) :
    d.settleDirectory p = (d, none) := by
  rw [settleDirectory, makeDirectory_of_isDirectory h]
  simp [h]

/-- **Making a directory that is there** changes nothing. -/
theorem makeDirectories_of_isDirectory (h : d.isDirectory p = true) :
    d.makeDirectories p = (d, none) := by
  unfold makeDirectories
  cases names : p.names.reverse with
  | nil =>
    have : p = ⟨p.root, []⟩ := by
      rw [List.reverse_eq_nil_iff] at names
      rw [← names]
    rw [makeDirectoriesAt, ← this]
    exact settleDirectory_of_isDirectory h
  | cons name above =>
    have : p = ⟨p.root, (name :: above).reverse⟩ := by rw [← names, List.reverse_reverse]
    rw [makeDirectoriesAt, ← this, makeDirectory_of_isDirectory h]
    exact settleDirectory_of_isDirectory h

end MakeDirectories

end PropForge.Disk
