import PropForge.Project.Generate
import PropForge.Proofs.File.Disk

/-!
# Templates that stay

A library reads the files below a directory and no others, so that it stays while only other files
are touched.
-/

namespace PropForge.Disk

open FileTree

/-- No place that is touched lies below a directory, and a path to it that goes up can be
followed. -/
structure Spares (touched : List String → Prop) (d : Disk) (directory : Path) : Prop where
  reach : ".." ∈ directory.names → ∃ place, d.locate directory = .ok place
  apart : ∀ q, touched q → ¬ (d.absolute directory).names <+: q

variable {touched : List String → Prop} {d d' : Disk} {directory : Path}

/-- The text of a template's file. -/
theorem templates_file? (reach : ".." ∈ directory.names → ∃ place, d.locate directory = .ok place)
    {names : List String} (plain : ".." ∉ names) :
    (d.templates directory).file? names =
      (file? ((d.absolute directory).names ++ names) d.tree).map Content.readText := by
  have at_place : d.at? ⟨directory.root, directory.names ++ names⟩ =
      d.tree.at? ((d.absolute directory).names ++ names) := by
    by_cases up : ".." ∈ directory.names
    · obtain ⟨place, found⟩ := reach up
      rw [absolute_of_locate found]
      exact at?_below found plain
    · have all : ".." ∉ directory.names ++ names := by
        rw [List.mem_append, not_or]
        exact ⟨up, plain⟩
      rw [absolute_of_plain up, List.append_assoc]
      exact at?_of_plain (p := ⟨directory.root, directory.names ++ names⟩) all
  unfold templates file?
  dsimp only
  rw [at_place]
  split <;> simp_all

theorem templates_of_kept (kept : Kept touched d d') (spares : Spares touched d directory)
    {names : List String} (plain : ".." ∉ names) :
    (d'.templates directory).file? names = (d.templates directory).file? names := by
  have reach (up : ".." ∈ directory.names) : ∃ place, d'.locate directory = .ok place := by
    obtain ⟨place, found⟩ := spares.reach up
    exact ⟨place, locate_of_kept kept found⟩
  rw [templates_file? reach plain, templates_file? spares.reach plain,
    absolute_of_here kept.here, kept.file]
  exact fun hit => spares.apart _ hit (List.prefix_append _ _)

theorem plain_of_namePath? {name : String} {path : List String}
    (h : Template.namePath? name = some path) : ".." ∉ path := by
  unfold Template.namePath? at h
  dsimp only at h
  split at h
  · cases h
  · rename_i plain
    cases h
    exact fun mem => plain (List.contains_iff_mem.mpr (List.mem_filter.mp mem).1)

/-- **A library** stays while no file of its directory is touched. -/
theorem library_of_kept {directory? : Option Path} (kept : Kept touched d d')
    (spares : ∀ directory ∈ directory?, Spares touched d directory) :
    Template.library (directory?.map d'.templates) =
      Template.library (directory?.map d.templates) := by
  cases directory? with
  | none => rfl
  | some directory =>
    funext name
    unfold Template.library
    dsimp only
    cases path : Template.namePath? name with
    | none => rfl
    | some path =>
      have same := templates_of_kept kept (spares directory rfl) (plain_of_namePath? ‹_›)
      dsimp only [Option.map_some, Option.bind_some]
      rw [same]
      rfl

end PropForge.Disk
