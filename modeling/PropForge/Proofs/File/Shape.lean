import Mathlib.Data.List.Induction
import Mathlib.Data.List.Infix
import PropForge.Proofs.File.Disk
import PropForge.Proofs.File.Path

/-!
# Where there are files and directories

Whether an operation on a disk can be done depends on where there are files and directories, and not
on what files hold.

* `kind?_put`: putting a file or an empty directory somewhere changes nothing elsewhere;
* `Grows`: how a disk changes while new files and directories appear at some places only;
* `SameShape`: two disks with files and directories at the same places, on which directories can be
  made alike (`makeDirectories_congr`);
* `makeDirectories_child`: making a directory is making the one that it is in and then this one;
* `Grows.isThere_eq`: what is new below a place is not in the way of a path that avoids it.
-/

namespace PropForge

namespace FileTree

/-- Whether what is at a place is a directory, if there is anything. -/
def kind? (place : List String) (t : FileTree) : Option Bool := (at? place t).map isDirectory

theorem kind?_cons (name : String) (rest : List String) (entries : List (String × FileTree)) :
    kind? (name :: rest) (directory entries) = (Assoc.get? name entries).bind (kind? rest) := by
  rw [kind?, at?_cons]
  cases Assoc.get? name entries <;> rfl

theorem hasDirectory_iff_kind? {place : List String} {t : FileTree} :
    HasDirectory place t ↔ kind? place t = some true := by
  unfold HasDirectory kind?
  cases at? place t with
  | none => simp
  | some u => cases u <;> simp [isDirectory]

theorem kind?_eq_none {place : List String} {t : FileTree} :
    kind? place t = none ↔ at? place t = none := Option.map_eq_none_iff

theorem kind?_of_file? {place : List String} {t : FileTree} {c : Content}
    (h : file? place t = some c) : kind? place t = some false := by
  rw [kind?, file?_eq_some.mp h]
  rfl

theorem exists_file?_of_kind? {place : List String} {t : FileTree}
    (h : kind? place t = some false) : ∃ c, file? place t = some c := by
  obtain ⟨u, there, kind⟩ := Option.map_eq_some_iff.mp h
  cases u with
  | file c => exact ⟨c, file?_eq_some.mpr there⟩
  | directory es => cases kind

/-- **What is put** somewhere where no directory is changes nothing elsewhere. -/
theorem kind?_put {new t : FileTree} {place : List String} (fits : Fits place t)
    (free : ¬ HasDirectory place t) (leaf : IsLeaf new) (q : List String) :
    kind? q (put new place t) = if q = place then some new.isDirectory else kind? q t := by
  induction fits generalizing q with
  | last name entries =>
    cases q with
    | nil => rfl
    | cons n q =>
      rw [put_cons, kind?_cons, kind?_cons]
      by_cases same : name = n
      · subst same
        rw [Assoc.get?_put_self]
        cases q with
        | nil => rw [if_pos rfl]; rfl
        | cons next q =>
          rw [if_neg (by simp)]
          refine (kind?_eq_none.mpr (at?_of_isLeaf leaf next q)).trans ?_
          -- what was replaced had nothing below it
          cases there : Assoc.get? name entries with
          | none => rfl
          | some child =>
            cases child with
            | file c => rfl
            | directory es => exact absurd (hasDirectory_cons.mpr ⟨_, there, es, rfl⟩) free
      · rw [Assoc.get?_put_ne same, if_neg (by simp [Ne.symm same])]
  | inside there fits ih =>
    rename_i name entries child rest
    cases q with
    | nil => rfl
    | cons n q =>
      rw [put_cons, kind?_cons, kind?_cons]
      by_cases same : name = n
      · subst same
        rw [Assoc.get?_put_self, there]
        have below := ih (fun occupied => free (hasDirectory_cons.mpr ⟨child, there, occupied⟩)) q
        simpa using below
      · rw [Assoc.get?_put_ne same, if_neg (by simp [Ne.symm same])]

end FileTree

namespace Disk

open FileTree

variable {files directories : List String → Prop} {d d' d'' : Disk} {p : Path} {place : List String}

/-- What is on a disk stays a file or a directory, and new files and directories are at some places
only. -/
structure Grows (files directories : List String → Prop) (d d' : Disk) : Prop where
  here : d'.here = d.here
  home : d'.home = d.home
  kind : ∀ q, kind? q d'.tree = kind? q d.tree ∨ kind? q d.tree = none ∧
    (files q ∧ kind? q d'.tree = some false ∨ directories q ∧ kind? q d'.tree = some true)

namespace Grows

theorem refl (d : Disk) : Grows files directories d d := ⟨rfl, rfl, fun _ => .inl rfl⟩

/-- What is there stays what it is. -/
theorem kind_eq (h : Grows files directories d d') {q : List String} {b : Bool}
    (there : kind? q d.tree = some b) : kind? q d'.tree = some b := by
  rcases h.kind q with same | ⟨none, -⟩
  · exact same.trans there
  · rw [there] at none
    cases none

/-- Where no directory is new, directories are the old ones. -/
theorem kind_true_iff (h : Grows files directories d d') {q : List String} (old : ¬ directories q) :
    kind? q d'.tree = some true ↔ kind? q d.tree = some true := by
  refine ⟨fun there => ?_, h.kind_eq⟩
  rcases h.kind q with same | ⟨-, ⟨-, file⟩ | ⟨new, -⟩⟩
  · exact same ▸ there
  · rw [file] at there
    cases there
  · exact absurd new old

/-- Where no file is new, files are the old ones. -/
theorem kind_false_iff (h : Grows files directories d d') {q : List String} (old : ¬ files q) :
    kind? q d'.tree = some false ↔ kind? q d.tree = some false := by
  refine ⟨fun there => ?_, h.kind_eq⟩
  rcases h.kind q with same | ⟨-, ⟨new, -⟩ | ⟨-, directory⟩⟩
  · exact same ▸ there
  · exact absurd new old
  · rw [directory] at there
    cases there

/-- Away from what is new everything is as it was. -/
theorem kind_away (h : Grows files directories d d')
    (below : ∀ q, files q ∨ directories q → place <+: q) {q : List String}
    (away : ¬ place <+: q) : kind? q d'.tree = kind? q d.tree := by
  rcases h.kind q with same | ⟨-, ⟨new, -⟩ | ⟨new, -⟩⟩
  · exact same
  · exact absurd (below q (.inl new)) away
  · exact absurd (below q (.inr new)) away

theorem trans (h : Grows files directories d d') (h' : Grows files directories d' d'') :
    Grows files directories d d'' where
  here := h'.here.trans h.here
  home := h'.home.trans h.home
  kind q := by
    rcases h'.kind q with same | ⟨none, new⟩
    · rw [same]
      exact h.kind q
    · rcases h.kind q with same | ⟨_, file | directory⟩
      · exact .inr ⟨same.symm.trans none, new⟩
      · rw [none] at file
        cases file.2
      · rw [none] at directory
        cases directory.2

theorem mono {files' directories' : List String → Prop} (h : Grows files directories d d')
    (more : ∀ q, files q → files' q) (more' : ∀ q, directories q → directories' q) :
    Grows files' directories' d d' where
  here := h.here
  home := h.home
  kind q := by
    rcases h.kind q with same | ⟨absent, file | directory⟩
    · exact .inl same
    · exact .inr ⟨absent, .inl ⟨more q file.1, file.2⟩⟩
    · exact .inr ⟨absent, .inr ⟨more' q directory.1, directory.2⟩⟩

theorem hasDirectory (h : Grows files directories d d') {q : List String}
    (there : HasDirectory q d.tree) : HasDirectory q d'.tree :=
  hasDirectory_iff_kind?.mpr (h.kind_eq (hasDirectory_iff_kind?.mp there))

theorem locate (h : Grows files directories d d') (found : d.locate p = .ok place) :
    d'.locate p = .ok place := by
  unfold Disk.locate at *
  rw [h.here]
  exact foldlM_step_mono (fun _ => h.hasDirectory) found

theorem isDirectory (h : Grows files directories d d') (there : d.isDirectory p = true) :
    d'.isDirectory p = true := by
  obtain ⟨place, found, there⟩ := isDirectory_iff.mp there
  exact isDirectory_iff.mpr ⟨place, h.locate found, h.hasDirectory there⟩

end Grows

/-- Files and directories are at the same places. -/
def SameShape (d d' : Disk) : Prop := Grows (fun _ => False) (fun _ => False) d d'

theorem SameShape.here (h : SameShape d d') : d'.here = d.here := Grows.here h

theorem SameShape.home (h : SameShape d d') : d'.home = d.home := Grows.home h

theorem SameShape.kind (h : SameShape d d') (q : List String) :
    kind? q d'.tree = kind? q d.tree := by
  rcases Grows.kind h q with same | ⟨-, no | no⟩
  · exact same
  · exact no.1.elim
  · exact no.1.elim

theorem SameShape.grows (h : SameShape d d') : Grows files directories d d' :=
  Grows.mono h (fun _ no => no.elim) fun _ no => no.elim

section Operations

variable {c : Content}

theorem isThere_iff : d.isThere p = true ↔
    ∃ place b, d.locate p = .ok place ∧ kind? place d.tree = some b := by
  unfold Disk.isThere Disk.at? kind?
  cases d.locate p with
  | error cause => simp
  | ok place =>
    cases found : d.tree.at? place <;> simp [found]

theorem Grows.isThere (h : Grows files directories d d') (there : d.isThere p = true) :
    d'.isThere p = true := by
  obtain ⟨place, b, found, kind⟩ := isThere_iff.mp there
  exact isThere_iff.mpr ⟨place, b, h.locate found, h.kind_eq kind⟩

/-- A write makes at most one new file. -/
theorem grows_write (h : d.write p c = .ok d') :
    Grows (· = (d.absolute p).names) directories d d' := by
  obtain ⟨place, found, fits, free, rfl⟩ := write_eq_ok h
  rw [absolute_of_locate found]
  refine ⟨rfl, rfl, fun q => ?_⟩
  have put := kind?_put fits free (show IsLeaf (.file c) from trivial) q
  by_cases same : q = place
  · subst same
    rw [if_pos rfl] at put
    cases there : kind? q d.tree with
    | none => exact .inr ⟨rfl, .inl ⟨rfl, put⟩⟩
    | some b =>
      cases b with
      | false => exact .inl put
      | true => exact absurd (hasDirectory_iff_kind?.mpr there) free
  · rw [if_neg same] at put
    exact .inl put

/-- Writing a file that is there makes none. -/
theorem sameShape_write {old : Content} (held : d.content p = .ok old) (h : d.write p c = .ok d') :
    SameShape d d' := by
  obtain ⟨place, found, there⟩ := content_eq_ok.mp held
  have grows : Grows _ (fun _ => False) d d' := grows_write h
  refine ⟨grows.here, grows.home, fun q => ?_⟩
  rcases grows.kind q with same | ⟨absent, ⟨rfl, -⟩ | no⟩
  · exact .inl same
  · rw [absolute_of_locate found, kind?_of_file? there] at absent
    cases absent
  · exact no.1.elim

/-- Adding to a file makes none. -/
theorem sameShape_append (d : Disk) (p : Path) (text : String) : SameShape d (d.append p text) := by
  unfold append
  split
  · rename_i c held
    split
    · rename_i written wrote
      exact sameShape_write held wrote
    · exact .refl d
  · exact .refl d

theorem grows_makeDirectory (h : d.makeDirectory p = .ok d') :
    Grows files (· = (d.absolute p).names) d d' := by
  obtain ⟨place, found, fits, absent, rfl⟩ := makeDirectory_eq_ok h
  rw [absolute_of_locate found]
  refine ⟨rfl, rfl, fun q => ?_⟩
  have put := kind?_put fits (not_hasDirectory_of_none absent) (show IsLeaf .empty from rfl) q
  by_cases same : q = place
  · subst same
    rw [if_pos rfl] at put
    exact .inr ⟨kind?_eq_none.mpr absent, .inr ⟨rfl, put⟩⟩
  · rw [if_neg same] at put
    exact .inl put

theorem grows_settleDirectory (d : Disk) (p : Path) :
    Grows files (· = (d.absolute p).names) d (d.settleDirectory p).1 := by
  unfold settleDirectory
  split
  · rename_i made h
    exact grows_makeDirectory h
  · exact .refl d

end Operations

section Congruence

/-- Where a name leads depends on whether there is a directory. -/
theorem step_congr {t t' : FileTree} (same : kind? place t' = kind? place t) (name : String) :
    step t' place name = step t place name := by
  unfold kind? at same
  unfold step
  cases there : t.at? place with
  | none =>
    rw [there, Option.map_none, Option.map_eq_none_iff] at same
    rw [same]
  | some u =>
    rw [there, Option.map_some] at same
    obtain ⟨u', there', kind⟩ := Option.map_eq_some_iff.mp same
    rw [there']
    cases u <;> cases u' <;> first | rfl | cases kind

theorem locate_congr (h : SameShape d d') (p : Path) : d'.locate p = d.locate p := by
  unfold locate
  rw [h.here]
  congr 1
  funext place name
  exact step_congr (h.kind place) name

theorem isThere_congr (h : SameShape d d') (p : Path) : d'.isThere p = d.isThere p := by
  rw [Bool.eq_iff_iff, isThere_iff, isThere_iff]
  simp only [locate_congr h, h.kind]

theorem isDirectory_iff_kind? : d.isDirectory p = true ↔
    ∃ place, d.locate p = .ok place ∧ kind? place d.tree = some true := by
  simp only [isDirectory_iff, hasDirectory_iff_kind?]

theorem isDirectory_congr (h : SameShape d d') (p : Path) : d'.isDirectory p = d.isDirectory p := by
  rw [Bool.eq_iff_iff, isDirectory_iff_kind?, isDirectory_iff_kind?]
  simp only [locate_congr h, h.kind]

/-- What making a directory does, by what is where it is made. -/
theorem makeDirectory_of_locate (found : d.locate p = .ok place) :
    d.makeDirectory p =
      match kind? place d.tree, kind? place.dropLast d.tree with
      | some _, _ => .error ⟨.alreadyThere, p.text⟩
      | none, some true => .ok { d with tree := FileTree.put .empty place d.tree }
      | none, some false => .error ⟨.notDirectory, p.text⟩
      | none, none => .error ⟨.missing, p.text⟩ := by
  unfold makeDirectory kind?
  rw [found]
  dsimp only
  cases d.tree.at? place with
  | some t => rfl
  | none =>
    cases d.tree.at? place.dropLast with
    | none => rfl
    | some t => cases t <;> rfl

/-- On disks of one shape a directory can be made alike. -/
theorem makeDirectory_congr (h : SameShape d d') (p : Path) :
    (∃ f, d.makeDirectory p = .error f ∧ d'.makeDirectory p = .error f) ∨
      ∃ made made', d.makeDirectory p = .ok made ∧ d'.makeDirectory p = .ok made' ∧
        SameShape made made' := by
  cases found : d.locate p with
  | error cause =>
    have found' := (locate_congr h p).trans found
    refine .inl ⟨⟨cause, p.text⟩, ?_, ?_⟩
    · rw [makeDirectory, found]
    · rw [makeDirectory, found']
  | ok place =>
    have same := makeDirectory_of_locate ((locate_congr h p).trans found)
    rw [h.kind, h.kind] at same
    rw [makeDirectory_of_locate found, same]
    cases absent : kind? place d.tree with
    | some b => exact .inl ⟨_, rfl, rfl⟩
    | none =>
      cases above : kind? place.dropLast d.tree with
      | none => exact .inl ⟨_, rfl, rfl⟩
      | some b =>
        cases b with
        | false => exact .inl ⟨_, rfl, rfl⟩
        | true =>
          refine .inr ⟨_, _, rfl, rfl, ⟨h.here, h.home, fun q => .inl ?_⟩⟩
          have put {d : Disk} (above : kind? place.dropLast d.tree = some true)
              (absent : kind? place d.tree = none) :
              kind? q (FileTree.put .empty place d.tree) =
                if q = place then some true else kind? q d.tree := by
            refine kind?_put (fits_of_hasDirectory ?_ (hasDirectory_iff_kind?.mpr above))
              (not_hasDirectory_of_none (kind?_eq_none.mp absent)) (show IsLeaf .empty from rfl) q
            rintro rfl
            rw [List.dropLast_nil, absent] at above
            cases above
          change kind? q (FileTree.put .empty place d'.tree) = kind? q (FileTree.put .empty place d.tree)
          rw [put above absent, put ((h.kind _).trans above) ((h.kind _).trans absent), h.kind]

theorem settleDirectory_congr (h : SameShape d d') (p : Path) :
    SameShape (d.settleDirectory p).1 (d'.settleDirectory p).1 ∧
      (d'.settleDirectory p).2 = (d.settleDirectory p).2 := by
  unfold settleDirectory
  rcases makeDirectory_congr h p with ⟨f, error, error'⟩ | ⟨made, made', ok, ok', same⟩
  · rw [error, error', isDirectory_congr h]
    exact ⟨h, rfl⟩
  · rw [ok, ok']
    exact ⟨same, rfl⟩

theorem makeDirectoriesAt_congr (h : SameShape d d') (root : String) (names : List String) :
    SameShape (d.makeDirectoriesAt root names).1 (d'.makeDirectoriesAt root names).1 ∧
      (d'.makeDirectoriesAt root names).2 = (d.makeDirectoriesAt root names).2 := by
  induction names generalizing d d' with
  | nil => exact settleDirectory_congr h _
  | cons name above ih =>
    have settled := settleDirectory_congr h ⟨root, (name :: above).reverse⟩
    rw [makeDirectoriesAt, makeDirectoriesAt]
    rcases makeDirectory_congr h ⟨root, (name :: above).reverse⟩ with
      ⟨⟨cause, text⟩, error, error'⟩ | ⟨made, made', ok, ok', -⟩
    · rw [error, error']
      cases cause with
      | missing =>
        dsimp only
        obtain ⟨shape, faults⟩ := ih h
        generalize d.makeDirectoriesAt root above = r at *
        generalize d'.makeDirectoriesAt root above = r' at *
        obtain ⟨made, fault⟩ := r
        obtain ⟨made', fault'⟩ := r'
        obtain rfl : fault' = fault := faults
        cases fault' with
        | none => exact settleDirectory_congr shape _
        | some f => exact ⟨shape, rfl⟩
      | _ => exact settled
    · rw [ok, ok']
      exact settled

/-- **On disks of one shape** directories can be made alike. -/
theorem makeDirectories_congr (h : SameShape d d') (p : Path) :
    SameShape (d.makeDirectories p).1 (d'.makeDirectories p).1 ∧
      (d'.makeDirectories p).2 = (d.makeDirectories p).2 := makeDirectoriesAt_congr h _ _

end Congruence

section Child

variable {name : String}

/-- Below a path that leads nowhere nothing can be made until something is made there. -/
theorem makeDirectory_child_missing
    (missing : (∃ place, d.locate p = .ok place ∧ kind? place d.tree = none) ∨
      d.locate p = .error .missing) :
    d.makeDirectory (p.child name) = .error ⟨.missing, (p.child name).text⟩ := by
  have stuck : d.locate (p.child name) = .error .missing := by
    unfold Disk.locate Path.child at *
    rw [List.foldlM_append]
    rcases missing with ⟨place, found, absent⟩ | error
    · rw [found]
      have none : d.tree.at? place = none := kind?_eq_none.mp absent
      change (List.foldlM (step d.tree) place [name]) = _
      rw [List.foldlM_cons, step, none]
      rfl
    · rw [error]
      rfl
  rw [makeDirectory, stuck]

theorem settleDirectory_of_fault {f : DiskFault} (h : d.makeDirectory p = .error f)
    (bare : d.isDirectory p = false) : d.settleDirectory p = (d, some f) := by
  rw [settleDirectory, h, bare]
  simp

/-- What is in the way of a directory is in the way of making it with all above it. -/
theorem makeDirectories_of_fault {f : DiskFault} (h : d.makeDirectory p = .error f)
    (obstacle : f.cause ≠ .missing) (bare : d.isDirectory p = false) :
    d.makeDirectories p = (d, some f) := by
  unfold makeDirectories
  cases names : p.names.reverse with
  | nil =>
    have : p = ⟨p.root, []⟩ := by
      rw [List.reverse_eq_nil_iff] at names
      rw [← names]
    rw [makeDirectoriesAt, ← this]
    exact settleDirectory_of_fault h bare
  | cons name above =>
    have : p = ⟨p.root, (name :: above).reverse⟩ := by rw [← names, List.reverse_reverse]
    obtain ⟨cause, text⟩ := f
    rw [makeDirectoriesAt, ← this, h]
    cases cause with
    | missing => exact absurd rfl obstacle
    | _ => exact settleDirectory_of_fault h bare

theorem makeDirectories_child_eq (d : Disk) (p : Path) (name : String) :
    d.makeDirectories (p.child name) =
      match d.makeDirectory (p.child name) with
      | .error ⟨.missing, _⟩ => match d.makeDirectories p with
        | (made, none) => made.settleDirectory (p.child name)
        | (made, some f) => (made, some f)
      | _ => d.settleDirectory (p.child name) := by
  have names : (p.child name).names.reverse = name :: p.names.reverse := by
    rw [Path.child, List.reverse_append, List.reverse_singleton, List.singleton_append]
  have path : (⟨p.root, (name :: p.names.reverse).reverse⟩ : Path) = p.child name := by
    rw [Path.child, List.reverse_cons, List.reverse_reverse]
  unfold makeDirectories
  rw [names]
  change d.makeDirectoriesAt p.root (name :: p.names.reverse) = _
  generalize p.child name = q at path ⊢
  subst path
  rfl

/-- If a directory is not made because of more than that the one it is in is missing, then the one
that it is in is there or cannot be made either. -/
theorem obstacle_child (h : ∀ text, d.makeDirectory (p.child name) ≠ .error ⟨.missing, text⟩)
    (bare : d.isDirectory p = false) :
    (∃ f, d.makeDirectories p = (d, some f)) ∧
      ∃ f, d.settleDirectory (p.child name) = (d, some f) := by
  constructor
  · cases found : d.locate p with
    | error cause =>
      refine ⟨⟨cause, p.text⟩, makeDirectories_of_fault (by rw [makeDirectory, found]) ?_ bare⟩
      rintro rfl
      exact h _ (makeDirectory_child_missing (.inr found))
    | ok place =>
      cases kind : kind? place d.tree with
      | none => exact absurd (makeDirectory_child_missing (.inl ⟨place, found, kind⟩)) (h _)
      | some b =>
        have there : d.makeDirectory p = .error ⟨.alreadyThere, p.text⟩ := by
          rw [makeDirectory_of_locate found, kind]
        exact ⟨_, makeDirectories_of_fault there (by simp) bare⟩
  · have unreached : ∀ place, d.locate (p.child name) ≠ .ok place := by
      intro place found
      rw [isDirectory_of_locate_child found] at bare
      cases bare
    cases found : d.locate (p.child name) with
    | ok place => exact absurd found (unreached place)
    | error cause =>
      refine ⟨⟨cause, (p.child name).text⟩, settleDirectory_of_fault ?_ ?_⟩
      · rw [makeDirectory, found]
      · rw [isDirectory, Disk.at?, found]
        rfl

/-- **Making a directory** in one that can be made is making that one first. -/
theorem makeDirectories_child {made : Disk} (ready : d.makeDirectories p = (made, none)) :
    d.makeDirectories (p.child name) = made.settleDirectory (p.child name) := by
  rw [makeDirectories_child_eq, ready]
  split
  · rfl
  · rename_i missing
    cases there : d.isDirectory p with
    | true =>
      have same := makeDirectories_of_isDirectory there
      rw [ready] at same
      rw [(Prod.mk.inj same).1]
    | false =>
      obtain ⟨⟨f, fault⟩, -⟩ := obstacle_child (fun text error => missing text error) there
      rw [ready] at fault
      cases fault

/-- Where no directory can be made, none can be made in it. -/
theorem makeDirectories_child_of_fault {f : DiskFault} (fault : d.makeDirectories p = (d, some f)) :
    ∃ f', d.makeDirectories (p.child name) = (d, some f') := by
  rw [makeDirectories_child_eq, fault]
  split
  · exact ⟨f, rfl⟩
  · rename_i missing
    cases there : d.isDirectory p with
    | true =>
      rw [makeDirectories_of_isDirectory there] at fault
      cases fault
    | false => exact (obstacle_child (fun text error => missing text error) there).2

/-- In a directory only a file is in the way of another one. -/
theorem settleDirectory_child (named : IsFileName name) (found : d.locate p = .ok place)
    (there : HasDirectory place d.tree) :
    (d.settleDirectory (p.child name)).2 =
      if kind? (place ++ [name]) d.tree = some false then
        some ⟨.alreadyThere, (p.child name).text⟩
      else none := by
  have below := locate_child named found there
  have make := makeDirectory_of_locate below
  rw [List.dropLast_concat, hasDirectory_iff_kind?.mp there] at make
  have known : d.isDirectory (p.child name) = true ↔ kind? (place ++ [name]) d.tree = some true := by
    rw [isDirectory_iff_kind?, below]
    simp
  unfold settleDirectory
  rw [make]
  cases kind : kind? (place ++ [name]) d.tree with
  | none => rfl
  | some b =>
    rw [kind] at known
    cases b with
    | false => simp [show d.isDirectory (p.child name) = false by simpa using known]
    | true => simp [known.mpr rfl]

/-- In a directory, something is a directory if it is one at its place. -/
theorem isDirectory_child (named : IsFileName name) (there : d.isDirectory p = true) :
    d.isDirectory (p.child name) = true ↔
      kind? ((d.absolute p).names ++ [name]) d.tree = some true := by
  obtain ⟨place, found, there⟩ := isDirectory_iff.mp there
  rw [absolute_of_locate found, isDirectory_iff_kind?, locate_child named found there]
  simp

end Child

section Away

variable {touched : List String → Prop} {names : List String}

/-- Following a path further is one more step. -/
theorem locate_concat (d : Disk) (root : String) (names : List String) (name : String) :
    d.locate ⟨root, names ++ [name]⟩ = (d.locate ⟨root, names⟩ >>= fun place =>
      step d.tree place name) := by
  unfold locate
  rw [List.foldlM_append]
  simp

/-- No part of a path leads to a place or below it. -/
def Avoids (d : Disk) (p : Path) (place : List String) : Prop :=
  ∀ names ∈ p.names.inits, ¬ place <+: (d.absolute ⟨p.root, names⟩).names

instance : Decidable (d.Avoids p place) :=
  inferInstanceAs (Decidable (∀ names ∈ p.names.inits, ¬ place <+: (d.absolute ⟨p.root, names⟩).names))

/-- What is new below a place is not in the way of a path that avoids it. -/
theorem Grows.locate_eq (h : Grows files directories d d')
    (below : ∀ q, files q ∨ directories q → place <+: q) (avoids : d.Avoids p place) :
    d'.locate p = d.locate p := by
  obtain ⟨root, names⟩ := p
  unfold Avoids at avoids
  induction names using List.reverseRecOn with
  | nil =>
    unfold Disk.locate
    rw [h.here]
    rfl
  | append_singleton names name ih =>
    have before : d'.locate ⟨root, names⟩ = d.locate ⟨root, names⟩ := ih fun part mem =>
      avoids part (List.mem_inits _ _ |>.mpr
        ((List.mem_inits _ _ |>.mp mem).trans (List.prefix_append _ _)))
    rw [locate_concat, locate_concat, before]
    cases found : d.locate ⟨root, names⟩ with
    | error cause => rfl
    | ok q =>
      have away := avoids names (List.mem_inits _ _ |>.mpr (List.prefix_append _ _))
      rw [absolute_of_locate found] at away
      exact step_congr (h.kind_away below away) name

theorem Grows.isThere_eq (h : Grows files directories d d')
    (below : ∀ q, files q ∨ directories q → place <+: q) (avoids : d.Avoids p place) :
    d'.isThere p = d.isThere p := by
  have found := h.locate_eq below avoids
  rw [Bool.eq_iff_iff, isThere_iff, isThere_iff, found]
  have away := avoids p.names (List.mem_inits _ _ |>.mpr (List.prefix_refl _))
  refine exists_congr fun q => exists_congr fun b => and_congr_right fun found => ?_
  rw [absolute_of_locate found] at away
  rw [h.kind_away below away]

/-- What is not touched stays where it is. -/
theorem isThere_of_kept (kept : Kept touched d d') (apart : ¬ touched (d.absolute p).names)
    (there : d.isThere p = true) : d'.isThere p = true := by
  obtain ⟨place, b, found, kind⟩ := isThere_iff.mp there
  rw [absolute_of_locate found] at apart
  refine isThere_iff.mpr ⟨place, b, locate_of_kept kept found, ?_⟩
  cases b with
  | true => exact hasDirectory_iff_kind?.mp (kept.directory _ (hasDirectory_iff_kind?.mpr kind))
  | false =>
    obtain ⟨c, held⟩ := exists_file?_of_kind? kind
    exact kind?_of_file? ((kept.file place apart).trans held)

theorem content_of_isDirectory (there : d.isDirectory p = true) :
    d.content p = .error ⟨.isDirectory, p.text⟩ := by
  obtain ⟨place, found, es, there⟩ := isDirectory_iff.mp there
  rw [content, found]
  dsimp only
  rw [there]

/-- What is not touched goes on to hold what it held, or to be a directory. -/
theorem content_eq_of_kept (kept : Kept touched d d') (apart : ¬ touched (d.absolute p).names)
    (there : d.isThere p = true) : d'.content p = d.content p := by
  obtain ⟨place, b, found, kind⟩ := isThere_iff.mp there
  cases b with
  | true =>
    have directory := isDirectory_iff_kind?.mpr ⟨place, found, kind⟩
    rw [content_of_isDirectory directory, content_of_isDirectory (isDirectory_of_kept kept directory)]
  | false =>
    obtain ⟨c, held⟩ := exists_file?_of_kind? kind
    have content := content_eq_ok.mpr ⟨place, found, held⟩
    rw [content, content_of_kept kept apart content]

/-- Where nothing is nothing can be read. -/
theorem content_of_absent (same : d'.locate p = d.locate p) (absent : d.isThere p = false)
    (absent' : d'.isThere p = false) : d'.content p = d.content p := by
  unfold isThere Disk.at? at absent absent'
  unfold content
  rw [same] at absent' ⊢
  cases found : d.locate p with
  | error cause => rfl
  | ok place =>
    simp only [found, Option.isSome_eq_false_iff, Option.isNone_iff_eq_none] at absent absent'
    dsimp only
    rw [absent, absent']

/-- **On disks of one shape** what is not touched is read alike. -/
theorem content_eq_of_sameShape (same : SameShape d d') (kept : Kept touched d d')
    (apart : ¬ touched (d.absolute p).names) : d'.content p = d.content p := by
  cases there : d.isThere p with
  | true => exact content_eq_of_kept kept apart there
  | false => exact content_of_absent (locate_congr same p) there ((isThere_congr same p).trans there)

/-- Writing what a file holds touches nothing. -/
theorem kept_rewrite {c : Content} (held : d.content p = .ok c) (h : d.write p c = .ok d') :
    Kept (fun _ => False) d d' := by
  have kept := kept_write h
  refine ⟨kept.here, kept.home, kept.directory, fun q _ => ?_⟩
  by_cases same : q = (d.absolute p).names
  · obtain ⟨place, found, there⟩ := content_eq_ok.mp held
    rw [same, file?_of_write h, absolute_of_locate found, there]
  · exact kept.file q same

end Away

end Disk

end PropForge
