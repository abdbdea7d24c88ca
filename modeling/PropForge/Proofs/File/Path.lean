import Mathlib.Data.List.Basic
import PropForge.Proofs.Failure
import PropForge.Proofs.File.Disk
import PropForge.Proofs.Naming

/-!
# Paths of one name

A text without slashes that is neither empty nor made of dots alone is the path of one name. Names
of components are such texts, and so are those of their files.
-/

namespace PropForge

/-- A text that is a path of one name. -/
structure IsFileName (s : String) : Prop where
  flat : '/' ∉ s.toList
  named : s ∉ ["", ".", ".."]

namespace Path

theorem ofText_of_isFileName {s : String} (h : IsFileName s) : ofText s = ofName s := by
  have apart : ∀ c ∈ s.toList, decide (c = '/') = false := fun c hc =>
    decide_eq_false fun same => h.flat (same ▸ hc)
  have slashes : s.toList.takeWhile (· = '/') = [] := by
    cases front : s.toList with
    | nil => rfl
    | cons c rest =>
      rw [List.takeWhile_cons, apart c (by rw [front]; exact List.mem_cons_self)]
      rfl
  have named := h.named
  simp only [List.mem_cons, List.not_mem_nil, or_false, not_or] at named
  unfold ofText ofName
  simp [slashes, Text.splitOn_of_all apart, named.1, named.2.1]

theorem join_of_isFileName {s : String} (h : IsFileName s) (p : Path) :
    p.join (ofText s) = p.child s := by
  rw [ofText_of_isFileName h]
  rfl

theorem parent_child (p : Path) (name : String) : (p.child name).parent = p := by
  rw [child, parent, List.dropLast_concat]

end Path

/-- Something called so stands right below the place of its directory. -/
theorem Disk.absolute_child {name : String} (h : IsFileName name) (d : Disk) (p : Path) :
    (d.absolute (p.child name)).names = (d.absolute p).names ++ [name] := by
  have down : name ≠ ".." := fun same => h.named (by simp [same])
  unfold Disk.absolute Path.child
  dsimp only
  rw [List.foldl_append, List.foldl_cons, List.foldl_nil, if_neg down]

/-- A path that leads to a directory leads on to what is called so in it. -/
theorem Disk.locate_child {name : String} (h : IsFileName name) {d : Disk} {p : Path}
    {place : List String} (found : d.locate p = .ok place)
    (there : FileTree.HasDirectory place d.tree) :
    d.locate (p.child name) = .ok (place ++ [name]) := by
  have down : name ≠ ".." := fun same => h.named (by simp [same])
  unfold Disk.locate at found ⊢
  unfold Path.child
  dsimp only
  rw [List.foldlM_append, found]
  exact foldlM_step_cons.mpr ⟨there, by rw [if_neg down]; rfl⟩

/-- What is below a path can be reached only if the path leads to a directory. -/
theorem Disk.isDirectory_of_locate_child {d : Disk} {p : Path} {name : String} {place : List String}
    (found : d.locate (p.child name) = .ok place) : d.isDirectory p = true := by
  unfold Disk.locate Path.child at found
  rw [List.foldlM_append] at found
  obtain ⟨above, inside, last⟩ := exists_of_bind_eq_ok found
  exact isDirectory_iff.mpr ⟨above, inside, (foldlM_step_cons.mp last).1⟩

/-- A file stands in a directory. -/
theorem Disk.isDirectory_of_content {d : Disk} {p : Path} {name : String} {c : Content}
    (h : d.content (p.child name) = .ok c) : d.isDirectory p = true := by
  obtain ⟨place, found, -⟩ := content_eq_ok.mp h
  exact isDirectory_of_locate_child found

theorem isFileName_of_long {s : String} (flat : '/' ∉ s.toList) (long : 2 < s.length) :
    IsFileName s := by
  refine ⟨flat, ?_⟩
  simp only [List.mem_cons, List.not_mem_nil, or_false]
  rintro (rfl | rfl | rfl) <;> exact absurd long (by decide)

namespace Naming

theorem isFileName_of_isIdentifier {s : String} (h : isIdentifier s = true) : IsFileName s where
  flat hc := by
    rcases isIdentifierPart_of_mem h hc with part | same
    · exact absurd part (by decide)
    · cases same
  named := by
    simp only [List.mem_cons, List.not_mem_nil, or_false]
    rintro (rfl | rfl | rfl) <;> exact absurd h (by decide)

end Naming

namespace Text

theorem slash_notMem_lowerChar {c : Char} (part : Naming.isIdentifierPart c = true ∨ c = '\n') :
    '/' ∉ lowerChar c := by
  have bounds : c.toNat < 128 ∧ c.toNat ≠ 47 := by
    rcases part with part | rfl
    · simp only [Naming.isIdentifierPart, Bool.or_eq_true, isAlphanum_iff, decide_eq_true_eq] at part
      rcases part with (part | rfl) | rfl
      · omega
      · decide
      · decide
    · decide
  have small : c < '\u0080' := Char.lt_def.mpr (UInt32.lt_iff_toNat_lt.mpr bounds.1)
  rw [lowerChar, if_pos small, List.mem_singleton]
  intro same
  have number := congrArg Char.toNat same
  unfold Char.toLower at number
  split at number
  · rename_i letter
    have low : 65 ≤ c.val.toNat := UInt32.le_iff_toNat_le.mp letter.1
    have high : c.val.toNat < 128 := bounds.1
    change 47 = (c.val + 32).toNat at number
    rw [UInt32.toNat_add] at number
    change 47 = (c.val.toNat + 32) % 2 ^ 32 at number
    omega
  · exact bounds.2 number.symm

/-- An identifier in lower case holds no slash. -/
theorem slash_notMem_lower {s : String} (h : Naming.isIdentifier s = true) :
    '/' ∉ (lower s).toList := by
  have all (cs before : List Char) (parts : ∀ c ∈ cs, Naming.isIdentifierPart c = true ∨ c = '\n') :
      '/' ∉ lowerFrom before cs := by
    induction cs generalizing before with
    | nil => exact List.not_mem_nil
    | cons c rest ih =>
      rw [List.forall_mem_cons] at parts
      rw [lowerFrom, List.mem_append, not_or]
      refine ⟨?_, ih _ parts.2⟩
      split
      · split <;> decide
      · exact slash_notMem_lowerChar parts.1
  rw [lower, String.toList_ofList]
  exact all s.toList [] fun c hc => Naming.isIdentifierPart_of_mem h hc

end Text

/-- The files of a component are called by its name in lower case. -/
theorem isFileName_of_ending {name ending : String} (h : Naming.isIdentifier name = true)
    (flat : '/' ∉ ending.toList) (long : 2 < ending.length) :
    IsFileName (Text.lower name ++ ending) := by
  refine isFileName_of_long ?_ ?_
  · rw [String.toList_append, List.mem_append, not_or]
    exact ⟨Text.slash_notMem_lower h, flat⟩
  · rw [String.length_append]
    omega

end PropForge
