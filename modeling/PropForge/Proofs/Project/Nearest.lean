import PropForge.Proofs.Project.Manifest
import PropForge.Proofs.Project.Recovery

/-!
# What the nearest manifest says

A directory has the manifest that is in it, or else that of the nearest directory above which has one.
A manifest says which object it is, and it says nothing if it is another document or none at all. Bytes
that spell no text are not passed over like that, they are refused:

* `findFrom_cases`: which manifest is found;
* `result_readManifest`, `result_readManifest_iff`: what is read of it, whatever it holds;
* `readManifest_ends_iff`: which readings come to their ends, and what they give.
-/

namespace PropForge

open FileTree

namespace Manifest

variable {tree : FileTree} {d : Disk} {start place place' : List String} {c c' : Content}

/-- The manifest of a directory is in it or in the nearest one above. -/
structure Nearest (tree : FileTree) (start place : List String) (c : Content) : Prop where
  above : place <+: start
  held : file? (place ++ [fileName]) tree = some c
  passed : ∀ q, Between place start q → file? (q ++ [fileName]) tree = none

/-- From a directory up to the root there is no manifest. -/
def Absent (tree : FileTree) (start : List String) : Prop :=
  ∀ q, q <+: start → file? (q ++ [fileName]) tree = none

theorem Nearest.unique (h : Nearest tree start place c) (h' : Nearest tree start place' c') :
    place = place' ∧ c = c' := by
  have same : place = place' := by
    by_contra ne
    rcases List.prefix_or_prefix_of_prefix h.above h'.above with upper | upper
    · cases h'.held.symm.trans (h.passed place' ⟨upper, h'.above, Ne.symm ne⟩)
    · cases h.held.symm.trans (h'.passed place ⟨upper, h.above, ne⟩)
  subst same
  exact ⟨rfl, Option.some.inj (h.held.symm.trans h'.held)⟩

theorem Nearest.not_absent (h : Nearest tree start place c) : ¬ Absent tree start := by
  intro absent
  cases h.held.symm.trans (absent place h.above)

/-- A manifest in the directory itself is the nearest one. -/
theorem nearest_of_file (held : file? (start ++ [fileName]) tree = some c) :
    Nearest tree start start c where
  above := List.prefix_rfl
  held := held
  passed _ between :=
    absurd (between.upTo.eq_of_length_le between.under.length_le) between.ne

/-- **Which manifest is found**: the nearest one, if there is any. -/
theorem findFrom_cases (plain : ".." ∉ start) :
    (Absent d.tree start ∧ findFrom d start.reverse = none) ∨
      ∃ place c, Nearest d.tree start place c ∧
        findFrom d start.reverse = some (.ofNames (place ++ [fileName])) := by
  have here {start : List String} (plain : ".." ∉ start) {c : Content}
      (held : file? (start ++ [fileName]) d.tree = some c) :
      ∃ place c, Nearest d.tree start place c ∧
        findFrom d start.reverse = some (.ofNames (place ++ [fileName])) :=
    ⟨start, c, nearest_of_file held, findFrom_of_file plain held⟩
  induction start using List.reverseRecOn with
  | nil =>
    cases held : file? ([] ++ [fileName]) d.tree with
    | some c => exact .inr (here plain held)
    | none =>
      refine .inl ⟨fun q upTo => ?_, ?_⟩
      · rw [List.prefix_nil.mp upTo, held]
      · have bare : d.isFile (.ofNames [fileName]) = false := by
          rw [isFile_ofNames (by decide), show file? [fileName] d.tree = none from held,
            Option.isSome_none]
        exact if_neg (by rw [bare]; exact Bool.false_ne_true)
  | append_singleton front name ih =>
    cases held : file? (front ++ [name] ++ [fileName]) d.tree with
    | some c => exact .inr (here plain held)
    | none =>
      have passes : findFrom d (front ++ [name]).reverse = findFrom d front.reverse := by
        rw [findFrom_concat, isFile_ofNames (plain_append_fileName plain), held,
          Option.isSome_none, if_neg Bool.false_ne_true]
      rw [passes]
      rcases ih fun h => plain (List.mem_append_left _ h) with
        ⟨absent, none⟩ | ⟨place, c, nearest, found⟩
      · refine .inl ⟨fun q upTo => ?_, none⟩
        rcases List.prefix_concat_iff.mp upTo with rfl | upTo
        · exact held
        · exact absent q upTo
      · refine .inr ⟨place, c, ⟨?_, nearest.held, fun q between => ?_⟩, found⟩
        · exact nearest.above.trans (List.prefix_append _ _)
        · rcases List.prefix_concat_iff.mp between.upTo with rfl | upTo
          · exact held
          · exact nearest.passed q ⟨between.under, upTo, between.ne⟩

/-- What a manifest says: the fields of the object that its text is, or nothing if the text is no
object. Bytes that spell no text have no say. -/
inductive Tells : Content → Option (List (String × Json)) → Prop where
  | object {c : Content} {text : String} {fields : List (String × Json)} (read : c.readText = .ok text)
      (parsed : Json.parse text.toList = .ok (.object fields)) : Tells c (some fields)
  | nothing {c : Content} {text : String} (read : c.readText = .ok text)
      (other : ∀ fields, Json.parse text.toList ≠ .ok (.object fields)) : Tells c none

/-- What was stored is told. -/
theorem tells_document {m : List (String × Json)} (well : (Json.object m).WellFormed) :
    Tells (.text (Json.document (.object m))) (some m) :=
  .object (Json.readText_document well) (by rw [Json.parse_document well])

theorem Tells.unique {r r' : Option (List (String × Json))} (h : Tells c r) (h' : Tells c r') :
    r = r' := by
  cases h with
  | object read parsed =>
    cases h' with
    | object read' parsed' =>
      cases read.symm.trans read'
      cases parsed.symm.trans parsed'
      rfl
    | nothing read' other =>
      cases read.symm.trans read'
      exact absurd parsed (other _)
  | nothing read other =>
    cases h' with
    | object read' parsed =>
      cases read.symm.trans read'
      exact absurd parsed (other _)
    | nothing => rfl

theorem Tells.not_faulty {r : Option (List (String × Json))} {fault : Text.ByteFault} (h : Tells c r) :
    c.exactText ≠ .error fault := by
  intro faulty
  have unread := Project.readText_error_iff.mpr faulty
  cases h with
  | object read => cases read.symm.trans unread
  | nothing read => cases read.symm.trans unread

/-- How a reading ends, by what is where on the way up. -/
inductive Reading (tree : FileTree) (start : List String) :
    Except Failure (Option (List (String × Json))) → Prop where
  | absent (h : Absent tree start) : Reading tree start (.ok none)
  | told {place : List String} {c : Content} {r : Option (List (String × Json))}
      (nearest : Nearest tree start place c) (told : Tells c r) : Reading tree start (.ok r)
  | faulty {place : List String} {c : Content} {fault : Text.ByteFault}
      (nearest : Nearest tree start place c) (faulty : c.exactText = .error fault) :
      Reading tree start (.error (.undecodable fault))

/-- A reading ends in one way. -/
theorem Reading.unique {r r' : Except Failure (Option (List (String × Json)))}
    (h : Reading tree start r) (h' : Reading tree start r') : r = r' := by
  cases h with
  | absent none =>
    cases h' with
    | absent => rfl
    | told nearest | faulty nearest => exact absurd none nearest.not_absent
  | told nearest told =>
    cases h' with
    | absent none => exact absurd none nearest.not_absent
    | told nearest' told' =>
      obtain ⟨rfl, rfl⟩ := nearest.unique nearest'
      rw [told.unique told']
    | faulty nearest' faulty =>
      obtain ⟨rfl, rfl⟩ := nearest.unique nearest'
      exact absurd faulty told.not_faulty
  | faulty nearest faulty =>
    cases h' with
    | absent none => exact absurd none nearest.not_absent
    | told nearest' told =>
      obtain ⟨rfl, rfl⟩ := nearest.unique nearest'
      exact absurd faulty told.not_faulty
    | faulty nearest' faulty' =>
      obtain ⟨rfl, rfl⟩ := nearest.unique nearest'
      rw [Except.error.inj (faulty.symm.trans faulty')]

end Manifest

namespace Project

open Manifest (Nearest Absent Tells Reading tells_document)

variable {s : Session} {start : Path} {place : List String} {c : Content}

theorem recording_readManifest (start : Path) : Recording (readManifest start) := by
  have refused (message : String) : Recording (Action.log .error "manifest" message >>=
      fun _ => pure (none : Option (List (String × Json)))) :=
    (recording_log _ _ _).bind fun _ => recording_pure _
  refine recording_disk.bind fun d => ?_
  split
  · exact recording_pure _
  · refine (recording_tryRead _).bind fun read => ?_
    split
    · exact recording_throw _
    · exact refused _
    · split
      · exact recording_pure _
      · exact refused _
      · exact refused _

/-- What is read of the file that the search finds. -/
theorem result_readManifest {p : Path} (found : Manifest.find? s.disk start = some p)
    (held : s.disk.content p = .ok c) :
    (∃ fault, c.exactText = .error fault ∧
      ((readManifest start).run.run s).1 = .error (.undecodable fault)) ∨
    ∃ r, Tells c r ∧ ((readManifest start).run.run s).1 = .ok r := by
  have spoiled (fault : Text.ByteFault) (text : c.readText = .error fault) :
      s.disk.readText p = .error (.bytes fault) := by
    simp only [Disk.readText, held, text]
  have whole (t : String) (text : c.readText = .ok t) : s.disk.readText p = .ok t := by
    simp only [Disk.readText, held, text]
  unfold readManifest
  rw [result_bind, run_disk]
  dsimp only
  rw [found]
  dsimp only
  rw [result_bind, run_tryRead]
  dsimp only
  cases text : c.readText with
  | error fault =>
    rw [spoiled fault text]
    exact .inl ⟨fault, readText_error_iff.mp text, rfl⟩
  | ok text' =>
    rw [whole text' text]
    right
    dsimp only
    cases parsed : Json.parse text'.toList with
    | error fault =>
      refine ⟨none, .nothing text fun fields h => ?_, rfl⟩
      cases parsed.symm.trans h
    | ok document =>
      cases document with
      | object fields => exact ⟨some fields, .object text parsed, rfl⟩
      | null | bool | integer | real | string | array =>
        refine ⟨none, .nothing text fun fields h => ?_, rfl⟩
        cases parsed.symm.trans h

/-- **A reading** ends as what is on the way up says. -/
theorem result_readManifest_iff (plain : ".." ∉ s.disk.here)
    {r : Except Failure (Option (List (String × Json)))} :
    ((readManifest start).run.run s).1 = r ↔
      Reading s.disk.tree (s.disk.absolute start).names r := by
  suffices reads : Reading s.disk.tree (s.disk.absolute start).names
      ((readManifest start).run.run s).1 by
    constructor
    · rintro rfl
      exact reads
    · exact reads.unique
  have way := Disk.plain_absolute plain start
  rcases Manifest.findFrom_cases (d := s.disk) way with
    ⟨absent, found⟩ | ⟨place, c, nearest, found⟩
  · have none : ((readManifest start).run.run s).1 = .ok none := by
      unfold readManifest
      rw [result_bind, run_disk]
      dsimp only
      rw [show Manifest.find? s.disk start = none from found]
      rfl
    rw [none]
    exact .absent absent
  · have above : ".." ∉ place := fun h => way (nearest.above.subset h)
    have held : s.disk.content (.ofNames (place ++ [Manifest.fileName])) = .ok c := by
      rw [Disk.content_eq_ok_iff_at?, Manifest.at?_ofNames (Manifest.plain_append_fileName above)]
      exact file?_eq_some.mp nearest.held
    rcases result_readManifest found held with ⟨fault, faulty, failed⟩ | ⟨r, told, given⟩
    · rw [failed]
      exact .faulty nearest faulty
    · rw [given]
      exact .told nearest told

/-- A site with a manifest that holds `c`. -/
def manifestHeld (c : Content) : Session :=
  let site : FileTree := .directory [("app", .directory []), (Manifest.fileName, .file c)]
  { builtSample .initial with
    disk := { (builtSample .initial).disk with tree := .directory [("site", site)] } }

end Project

end PropForge
