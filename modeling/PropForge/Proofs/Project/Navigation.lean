import PropForge.Project.Navigation
import PropForge.Proofs.Route.Scan
import PropForge.Proofs.Route.Stored
import PropForge.Proofs.Session

/-!
# Syncing routes again

A run stores the routes that it found; the next one finds the same pages, reads the same routes
and has nothing to add:

* `Quiet`: what goes on beside the stored file changes no page;
* `readRoutes_stored`, `readRoutes_spoiled`: the stored routes are read back, unless the log was
  added to them;
* `gives_syncRoutes`: a run merges what is read and what is found;
* `syncRoutes_again`: the second run leaves everything as the first one did.
-/

namespace PropForge

namespace Disk

open FileTree Route

/-- A scan of any place finds the same pages. -/
def SameScan (d d' : Disk) : Prop :=
  ∀ q, scanned (d'.tree.at? q) = scanned (d.tree.at? q)

theorem SameScan.refl (d : Disk) : SameScan d d := fun _ => rfl

theorem SameScan.trans {a b c : Disk} (h : SameScan a b) (h' : SameScan b c) : SameScan a c :=
  fun q => (h' q).trans (h q)

variable {d d' : Disk} {p : Path}

/-- A new file is no page unless it has the name of one. -/
theorem sameScan_write {c : Content} (h : d.write p c = .ok d')
    (named : ∀ place, d.locate p = .ok place → d.tree.at? place = none →
      place.getLast? ≠ some pageFile) : SameScan d d' := by
  obtain ⟨place, found, fits, free, rfl⟩ := write_eq_ok h
  refine scanned_put fits free trivial fun name last => ?_
  refine unseen_file (fun es there => free ⟨es, there⟩) (fun absent same => ?_) c
  rw [Option.mem_def, same] at last
  exact named place found absent last

theorem sameScan_append (d : Disk) (p : Path) (s : String) : SameScan d (d.append p s) := by
  unfold append
  split
  · rename_i c held
    split
    · rename_i written
      refine sameScan_write written fun place found absent => ?_
      rw [content, found] at held
      dsimp only at held
      rw [absent] at held
      cases held
    · exact .refl d
  · exact .refl d

theorem sameScan_makeDirectories (d : Disk) (p : Path) : SameScan d (d.makeDirectories p).1 := by
  refine makeDirectoriesAt_induct .refl (fun _ _ _ => .trans) (fun d d' p h => ?_) d _ _
  obtain ⟨place, -, fits, absent, rfl⟩ := makeDirectory_eq_ok h
  refine scanned_put fits (not_hasDirectory_of_none absent) rfl fun name _ => ?_
  rw [absent]
  exact unseen_empty name

/-- A path leads to the same pages again, unless it goes up and can be followed only now. -/
theorem scanned_of_kept {touched : List String → Prop} (kept : Kept touched d d')
    (same : SameScan d d')
    (reach : ".." ∈ p.names → (∃ place, d'.locate p = .ok place) → ∃ place, d.locate p = .ok place) :
    scanned (d'.at? p) = scanned (d.at? p) := by
  by_cases plain : ".." ∈ p.names
  · unfold Disk.at?
    cases before : d.locate p with
    | ok place =>
      rw [locate_of_kept kept before]
      exact same place
    | error cause =>
      cases now : d'.locate p with
      | error cause => rfl
      | ok place =>
        obtain ⟨place, found⟩ := reach plain ⟨place, now⟩
        rw [before] at found
        cases found
  · rw [at?_of_plain plain, at?_of_plain plain, start, start, kept.here]
    exact same _

end Disk

/-- A session goes on with no change but in the log: no other file is touched, files of the log grow
by lines, and no page comes or goes. -/
structure Quiet (s s' : Session) : Prop extends Continues (LoggedTo s) s s' where
  scan : Disk.SameScan s.disk s'.disk
  grown : Disk.Grown s.disk s'.disk

namespace Quiet

variable {s s' s'' : Session}

theorem refl (s : Session) : Quiet s s := ⟨.refl _ s, .refl s.disk, .refl s.disk⟩

theorem trans (h : Quiet s s') (h' : Quiet s' s'') : Quiet s s'' where
  toContinues := h.toContinues.trans_logged (fun _ hit => hit) h'.toContinues
  scan := h.scan.trans h'.scan
  grown := h.grown.trans h'.grown

theorem emit (s : Session) (r : LogRecord) : Quiet s (s.emit r) where
  toContinues := continues_emit s r
  scan := (emit_induct .refl (fun _ _ _ => .trans) s r fun d path _ _ _ =>
    Disk.sameScan_append d path _).2.2
  grown := grown_emit s r

/-- A text that is there stays, with what the log may add. -/
theorem text (h : Quiet s s') {p : Path} {t : String} (held : s.disk.content p = .ok (.text t)) :
    ∃ more, IsLogText more ∧ s'.disk.content p = .ok (.text (t ++ more)) := by
  obtain ⟨place, located, there⟩ := Disk.content_eq_ok.mp held
  obtain ⟨more, log, grown⟩ := h.grown.text place t there
  exact ⟨more, log, Disk.content_eq_ok.mpr ⟨place, Disk.locate_of_kept h.kept located, grown⟩⟩

end Quiet

namespace Project

variable {s s' : Session} {p : Path}

/-- The routes of the pages below a path. -/
def foundRoutes (d : Disk) (p : Path) : List Route := (Route.scanned (d.at? p)).map Route.ofPlace

theorem storable_foundRoutes (d : Disk) (p : Path) : ∀ r ∈ foundRoutes d p, Route.Storable r := by
  intro r hr
  obtain ⟨place, -, rfl⟩ := List.mem_map.mp hr
  exact Route.storable_ofPath _

/-- Looking for pages gives their routes. -/
theorem gives_scanRoutes (s : Session) (p : Path) :
    ∃ s', Gives (scanRoutes p) s (foundRoutes s.disk p) s' ∧ Quiet s s' := by
  have first : Gives Action.disk s s.disk s := gives_disk_iff.mpr ⟨rfl, rfl⟩
  have missing (none : ∀ es, s.disk.at? p ≠ some (.directory es)) :
      foundRoutes s.disk p = [] := by
    unfold foundRoutes Route.scanned
    split
    · rename_i es there
      exact absurd there (none es)
    · rfl
  by_cases there : ∃ es, s.disk.at? p = some (.directory es)
  · obtain ⟨es, there⟩ := there
    refine ⟨s, gives_bind_iff.mpr ⟨_, _, first, ?_⟩, .refl s⟩
    rw [there]
    refine gives_pure_iff.mpr ⟨?_, rfl⟩
    rw [foundRoutes, there]
    rfl
  · have none := fun es h => there ⟨es, h⟩
    let note : LogRecord :=
      ⟨.debug, LogRecord.loggerName "routes", s!"App directory {p.text} does not exist"⟩
    refine ⟨s.emit note, gives_bind_iff.mpr ⟨_, _, first, ?_⟩, .emit s note⟩
    rw [missing none]
    split
    · rename_i es h
      exact absurd h (none es)
    · exact gives_bind_iff.mpr ⟨(), _, gives_log_iff.mpr rfl, gives_pure_iff.mpr ⟨rfl, rfl⟩⟩

theorem storable_routesIn {document : Json} (h : document.WellFormed) :
    ∀ r ∈ routesIn document, Route.Storable r := by
  intro r hr
  unfold routesIn at hr
  split at hr
  · rename_i items found
    obtain ⟨item, mem, same⟩ := List.mem_filterMap.mp hr
    cases h with
    | object once all =>
      have inside := all _ (Assoc.mem_of_get? found)
      cases inside with
      | array each =>
        have well := each item mem
        cases item with
        | object fields => cases same; exact well
        | _ => cases same
    | _ => cases found
  · cases hr

/-- Reading gives the routes of a document or none, and changes no more than the log. -/
theorem readRoutes_cases {routes : List Route} (h : Gives (readRoutes p) s routes s') :
    Quiet s s' ∧ (routes = [] ∨ ∃ text document, s.disk.readText p = .ok text ∧
      Json.parse text.toList = .ok document ∧ routes = routesIn document) := by
  have nothing {severity : Severity} {part message : String}
      (h : Gives (Action.log severity part message >>= fun _ => pure []) s routes s') :
      Quiet s s' ∧ routes = [] := by
    obtain ⟨_, between, noted, h⟩ := gives_bind_iff.mp h
    obtain rfl := gives_log_iff.mp noted
    obtain ⟨rfl, rfl⟩ := gives_pure_iff.mp h
    exact ⟨.emit s _, rfl⟩
  unfold readRoutes at h
  obtain ⟨read, between, first, h⟩ := gives_bind_iff.mp h
  obtain ⟨found, rfl⟩ := gives_tryRead_iff.mp first
  split at h
  · exact absurd h (not_gives_throw _ _)
  · split at h
    · obtain ⟨rfl, rfl⟩ := gives_pure_iff.mp h
      exact ⟨.refl s, .inl rfl⟩
    · exact (nothing h).imp_right .inl
  · rename_i text
    split at h
    · rename_i document parsed
      obtain ⟨rfl, rfl⟩ := gives_pure_iff.mp h
      exact ⟨.refl s, .inr ⟨text, document, found, parsed, rfl⟩⟩
    · exact (nothing h).imp_right .inl

/-- What is read can be stored again, and reading changes no more than the log. -/
theorem readRoutes_spec {routes : List Route} (h : Gives (readRoutes p) s routes s') :
    Quiet s s' ∧ ∀ r ∈ routes, Route.Storable r := by
  obtain ⟨quiet, rfl | ⟨text, document, -, parsed, rfl⟩⟩ := readRoutes_cases h
  · exact ⟨quiet, fun _ hr => by cases hr⟩
  · exact ⟨quiet, storable_routesIn (Json.wellFormed_of_parse parsed)⟩

theorem routesIn_routesDocument (now : Timestamp) (routes : List Route) :
    routesIn (routesDocument now routes) = routes := by
  change (routes.map Route.toJson).filterMap _ = routes
  rw [List.filterMap_map]
  exact List.filterMap_some

theorem wellFormed_routesDocument {now : Timestamp} {routes : List Route}
    (h : ∀ r ∈ routes, Route.Storable r) : (routesDocument now routes).WellFormed := by
  refine .object (by simp [Assoc.keys]) fun f hf => ?_
  rcases List.mem_cons.mp hf with rfl | hf
  · refine .array fun v hv => ?_
    obtain ⟨r, hr, rfl⟩ := List.mem_map.mp hv
    exact h r hr
  · rw [List.mem_singleton.mp hf]
    exact .string _

/-- **Stored routes** are read back. -/
theorem readRoutes_stored {now : Timestamp} {routes : List Route}
    (storable : ∀ r ∈ routes, Route.Storable r)
    (held : s.disk.content p = .ok (.text (Json.document (routesDocument now routes)))) :
    Gives (readRoutes p) s routes s := by
  have well : (routesDocument now routes).WellFormed := wellFormed_routesDocument storable
  have read := Disk.readText_eq_ok.mpr ⟨_, held, Json.readText_document well⟩
  unfold readRoutes
  refine gives_bind_iff.mpr ⟨_, s, gives_tryRead_iff.mpr ⟨read, rfl⟩, ?_⟩
  dsimp only
  rw [Json.parse_document well]
  exact gives_pure_iff.mpr ⟨routesIn_routesDocument now routes, rfl⟩

/-- Nothing is read of a document that the log was added to. -/
theorem readRoutes_spoiled {v : Json} {more : String} (well : v.WellFormed) (log : IsLogText more)
    (added : more ≠ "") (held : s.disk.content p = .ok (.text (Json.document v ++ more))) :
    ∃ s', Gives (readRoutes p) s [] s' := by
  obtain ⟨text, fault, whole, bad⟩ := Json.readText_document_digit well log added
  have read := Disk.readText_eq_ok.mpr ⟨_, held, whole⟩
  let reason := fault.message text.toList
  let note : LogRecord := ⟨.warning, LogRecord.loggerName "routes",
    s!"Ignoring unreadable routes file {p.text}: {reason}"⟩
  refine ⟨s.emit note, ?_⟩
  unfold readRoutes
  refine gives_bind_iff.mpr ⟨_, s, gives_tryRead_iff.mpr ⟨read, rfl⟩, ?_⟩
  dsimp only
  rw [bad]
  exact gives_bind_iff.mpr ⟨(), _, gives_log_iff.mpr rfl, gives_pure_iff.mpr ⟨rfl, rfl⟩⟩

section Store

variable {target : Path} {found : List Route} {r : Synced}

/-- The text that a run stores. -/
def storedText (now : Timestamp) (routes : List Route) : Content :=
  .text (Json.document (routesDocument now routes))

/-- The record of stored routes. -/
def syncedNote (target : Path) (m : Route.Merge) : LogRecord :=
  let added := String.ofList (Number.digits m.added)
  let removed := String.ofList (Number.digits m.removed)
  ⟨.info, LogRecord.loggerName "routes", s!"Synced {count m.routes} routes -> {target.text} " ++
    s!"(+{added} added, -{removed} removed)"⟩

/-- Storing succeeds if each of its steps does. -/
theorem gives_storeRoutes_iff : Gives (storeRoutes target found) s r s' ↔
    ∃ existing m before made written, Gives (readRoutes target) s existing before ∧
      Route.merge existing found = .ok m ∧
      before.disk.makeDirectories target.parent = (made, none) ∧
      made.write target (storedText before.now m.routes) = .ok written ∧
      s' = Session.emit (syncedNote target m) { before with disk := written } ∧
      r = ⟨target, m.routes, m.added, m.removed⟩ := by
  unfold storeRoutes
  constructor
  · intro h
    obtain ⟨existing, before, read, h⟩ := gives_bind_iff.mp h
    split at h
    case h_2 => exact absurd (gives_bind_iff.mp h) fun ⟨_, _, bad, _⟩ => not_gives_throw _ _ bad
    rename_i m merged
    obtain ⟨m', between, same, h⟩ := gives_bind_iff.mp h
    obtain ⟨rfl, rfl⟩ := gives_pure_iff.mp same
    obtain ⟨_, s₁, ready, h⟩ := gives_bind_iff.mp h
    obtain ⟨made, prepared, rfl⟩ := gives_makeDirectories_iff.mp ready
    obtain ⟨clock, s₂, now, h⟩ := gives_bind_iff.mp h
    obtain ⟨rfl, rfl⟩ := gives_get_iff.mp now
    obtain ⟨_, s₃, stored, h⟩ := gives_bind_iff.mp h
    obtain ⟨written, wrote, rfl⟩ := gives_write_iff.mp stored
    obtain ⟨_, s₄, noted, h⟩ := gives_bind_iff.mp h
    obtain rfl := gives_log_iff.mp noted
    obtain ⟨rfl, rfl⟩ := gives_pure_iff.mp h
    exact ⟨existing, m, before, made, written, read, merged, prepared, wrote, rfl, rfl⟩
  · rintro ⟨existing, m, before, made, written, read, merged, prepared, wrote, rfl, rfl⟩
    let ready : Session := { before with disk := made }
    have store : Gives (Action.write target (Json.document (routesDocument before.now m.routes)))
        ready () { before with disk := written } := gives_write_iff.mpr ⟨written, wrote, rfl⟩
    refine gives_bind_iff.mpr ⟨existing, before, read, ?_⟩
    rw [merged]
    refine gives_bind_iff.mpr ⟨m, before, gives_pure_iff.mpr ⟨rfl, rfl⟩, ?_⟩
    refine gives_bind_iff.mpr ⟨(), ready, gives_makeDirectories_iff.mpr ⟨made, prepared, rfl⟩, ?_⟩
    refine gives_bind_iff.mpr ⟨ready, ready, gives_get_iff.mpr ⟨rfl, rfl⟩, ?_⟩
    refine gives_bind_iff.mpr ⟨(), _, store, ?_⟩
    refine gives_bind_iff.mpr ⟨(), _, gives_log_iff.mpr rfl, ?_⟩
    exact gives_pure_iff.mpr ⟨rfl, rfl⟩

/-- What storing did that succeeded. -/
theorem storeRoutes_spec (h : Gives (storeRoutes target found) s r s') :
    ∃ existing m before made written, Quiet s before ∧
      (∀ old ∈ existing, Route.Storable old) ∧ Route.merge existing found = .ok m ∧
      before.disk.makeDirectories target.parent = (made, none) ∧
      made.write target (storedText s.now m.routes) = .ok written ∧
      Quiet { before with disk := written } s' ∧ r = ⟨target, m.routes, m.added, m.removed⟩ := by
  obtain ⟨existing, m, before, made, written, read, merged, prepared, wrote, rfl, rfl⟩ :=
    gives_storeRoutes_iff.mp h
  obtain ⟨quiet, storable⟩ := readRoutes_spec read
  rw [quiet.now] at wrote
  exact ⟨existing, m, before, made, written, quiet, storable, merged, prepared, wrote, .emit _ _, rfl⟩

end Store

section Sync

variable {root appDir routesPath : Path} {r : Synced}

/-- The record of what a scan found. -/
def foundNote (scanned : Path) (found : List Route) : LogRecord :=
  ⟨.debug, LogRecord.loggerName "routes", s!"Discovered {count found} routes under {scanned.text}"⟩

/-- A run is a scan, and storing what it found. -/
theorem run_syncRoutes {found : List Route} {scanned : Session}
    (scan : Gives (scanRoutes (root.join appDir)) s found scanned) :
    (syncRoutes root appDir routesPath).run.run s =
      (storeRoutes (root.join routesPath) found).run.run
        (scanned.emit (foundNote (root.join appDir) found)) := by
  unfold syncRoutes
  rw [run_bind, show (scanRoutes (root.join appDir)).run.run s = _ from scan]
  exact run_bind

theorem exists_run_syncRoutes (s : Session) : ∃ before, Quiet s before ∧
    (syncRoutes root appDir routesPath).run.run s =
      (storeRoutes (root.join routesPath) (foundRoutes s.disk (root.join appDir))).run.run
        before := by
  obtain ⟨scanned, scan, quiet⟩ := gives_scanRoutes s (root.join appDir)
  exact ⟨_, quiet.trans (.emit scanned _), run_syncRoutes scan⟩

/-- What a run leaves: the stored routes in their directory, no other file touched, and the same
pages. -/
theorem syncRoutes_leaves (h : Gives (syncRoutes root appDir routesPath) s r s')
    (named : (root.join routesPath).name ≠ Route.pageFile)
    (apart : ¬ LoggedTo s (s.disk.absolute (root.join routesPath)).names) :
    s'.disk.content (root.join routesPath) = .ok (storedText s.now r.routes) ∧
      s'.disk.isDirectory (root.join routesPath).parent = true ∧
      Disk.Kept (fun q => LoggedTo s q ∨ q = (s.disk.absolute (root.join routesPath)).names)
        s.disk s'.disk ∧
      Disk.SameScan s.disk s'.disk := by
  obtain ⟨between, scan, run⟩ := exists_run_syncRoutes s
  obtain ⟨existing, m, before, made, written, read, -, -, prepared, wrote, quiet', rfl⟩ :=
    storeRoutes_spec (run.symm.trans h)
  have quiet := scan.trans read
  rw [scan.now] at wrote
  have scan_made : Disk.SameScan before.disk made := by
    have scan := Disk.sameScan_makeDirectories before.disk (root.join routesPath).parent
    rwa [prepared] at scan
  have start : Continues (LoggedTo s) s { before with disk := made } :=
    quiet.toContinues.trans ((continues_makeDirectories prepared).mono fun _ no => no.elim)
  have place := start.absolute (root.join routesPath)
  have step : Continues (· = (made.absolute (root.join routesPath)).names) { before with disk := made }
      { before with disk := written } := continues_write (s := { before with disk := made }) wrote
  have stored : Continues (fun q => LoggedTo s q ∨ q = (s.disk.absolute (root.join routesPath)).names)
      s { before with disk := written } :=
    (start.mono fun _ => Or.inl).trans (step.mono fun q hit => Or.inr (hit.trans (by rw [← place])))
  have kept := (stored.trans_logged (fun _ => Or.inl) quiet'.toContinues).kept
  have there := Disk.isDirectory_of_makeDirectories prepared
  refine ⟨content_of_stored start wrote quiet'.toContinues apart, ?_, kept, ?_⟩
  · have on : Disk.Kept (fun _ => True) made s'.disk :=
      (step.kept.mono fun _ _ => trivial).trans (quiet'.kept.mono fun _ _ => trivial)
    exact Disk.isDirectory_of_kept on there
  · refine ((quiet.scan.trans scan_made).trans ?_).trans quiet'.scan
    refine Disk.sameScan_write wrote fun place found absent same => named ?_
    have last := Disk.last_of_locate (Disk.hasDirectory_start there) found
      (Disk.not_hasDirectory_of_none absent)
    exact Option.some.inj (last.symm.trans same)

/-- A run succeeds where a text is stored, if what is read of it can be merged with what is found. -/
theorem gives_syncRoutes {text : String} {existing : List Route} {m : Route.Merge}
    (held : s.disk.content (root.join routesPath) = .ok (.text text))
    (dir : s.disk.isDirectory (root.join routesPath).parent = true)
    (read : ∀ before, Quiet s before →
      ∃ after, Gives (readRoutes (root.join routesPath)) before existing after)
    (merged : Route.merge existing (foundRoutes s.disk (root.join appDir)) = .ok m) :
    ∃ s', Gives (syncRoutes root appDir routesPath) s
      ⟨root.join routesPath, m.routes, m.added, m.removed⟩ s' := by
  obtain ⟨before, scan, run⟩ := exists_run_syncRoutes s
  obtain ⟨after, read⟩ := read before scan
  have quiet := scan.trans (readRoutes_spec read).1
  have there := Disk.isDirectory_of_kept quiet.kept dir
  obtain ⟨more, -, stays⟩ := quiet.text held
  obtain ⟨written, wrote⟩ := Disk.write_of_content (Disk.hasDirectory_start there) stays
    (storedText after.now m.routes)
  exact ⟨_, run.trans (gives_storeRoutes_iff.mpr ⟨existing, m, after, after.disk, written, read,
    merged, Disk.makeDirectories_of_isDirectory there, wrote, rfl, rfl⟩)⟩

/-- Where the stored routes are as a run left them, they are merged with what is found. -/
theorem gives_syncRoutes_of_stored {now : Timestamp} {routes : List Route} {m : Route.Merge}
    (storable : ∀ r ∈ routes, Route.Storable r)
    (held : s.disk.content (root.join routesPath) = .ok (storedText now routes))
    (dir : s.disk.isDirectory (root.join routesPath).parent = true)
    (apart : ¬ LoggedTo s (s.disk.absolute (root.join routesPath)).names)
    (merged : Route.merge routes (foundRoutes s.disk (root.join appDir)) = .ok m) :
    ∃ s', Gives (syncRoutes root appDir routesPath) s
      ⟨root.join routesPath, m.routes, m.added, m.removed⟩ s' :=
  gives_syncRoutes held dir (fun before quiet =>
    ⟨before, readRoutes_stored storable (Disk.content_of_kept quiet.kept apart held)⟩) merged

/-- Where the log was added to a document, what is found is merged with nothing. -/
theorem gives_syncRoutes_of_spoiled {v : Json} {more : String} {m : Route.Merge}
    (well : v.WellFormed) (log : IsLogText more) (added : more ≠ "")
    (held : s.disk.content (root.join routesPath) = .ok (.text (Json.document v ++ more)))
    (dir : s.disk.isDirectory (root.join routesPath).parent = true)
    (merged : Route.merge [] (foundRoutes s.disk (root.join appDir)) = .ok m) :
    ∃ s', Gives (syncRoutes root appDir routesPath) s
      ⟨root.join routesPath, m.routes, m.added, m.removed⟩ s' := by
  refine gives_syncRoutes held dir (fun before quiet => ?_) merged
  obtain ⟨last, log', stays⟩ := quiet.text held
  rw [String.append_assoc] at stays
  refine readRoutes_spoiled well (log.append log') (fun none => added ?_) stays
  exact (String.append_eq_empty_iff.mp none).1

/-- **Syncing again** with the same clock, on the disk that a run left, finds nothing to add or to
remove, gives the same routes and leaves the stored file as it was. A path to the pages that goes up
must not have been opened by the run itself, which makes the stored file's directory. -/
theorem syncRoutes_again {s₂ : Session} (first : Gives (syncRoutes root appDir routesPath) s r s')
    (named : (root.join routesPath).name ≠ Route.pageFile)
    (reach : ".." ∈ (root.join appDir).names →
      (∃ place, s'.disk.locate (root.join appDir) = .ok place) →
      ∃ place, s.disk.locate (root.join appDir) = .ok place)
    (apart : ¬ LoggedTo s (s.disk.absolute (root.join routesPath)).names)
    (disk : s₂.disk = s'.disk) (now : s₂.now = s.now)
    (apart₂ : ¬ LoggedTo s₂ (s.disk.absolute (root.join routesPath)).names) :
    s'.disk.content (root.join routesPath) = .ok (storedText s.now r.routes) ∧
      ∃ s₃, Gives (syncRoutes root appDir routesPath) s₂ ⟨r.path, r.routes, 0, 0⟩ s₃ ∧
        s₃.disk.content (root.join routesPath) = .ok (storedText s.now r.routes) := by
  obtain ⟨held, dir, kept, scan⟩ := syncRoutes_leaves first named apart
  obtain ⟨between, quiet, run⟩ := exists_run_syncRoutes s
  obtain ⟨existing, m, -, -, -, -, storable, merged, -, -, -, rfl⟩ :=
    storeRoutes_spec (run.symm.trans first)
  refine ⟨held, ?_⟩
  have same : foundRoutes s₂.disk (root.join appDir) = foundRoutes s.disk (root.join appDir) := by
    unfold foundRoutes
    rw [disk, Disk.scanned_of_kept kept scan reach]
  have again : Route.merge m.routes (foundRoutes s₂.disk (root.join appDir)) = .ok ⟨m.routes, 0, 0⟩ := by
    rw [same]
    exact Route.merge_again (Route.discovered_ofPlace _) (storable_foundRoutes _ _) storable merged
  have routes := Route.storable_of_merge storable (storable_foundRoutes _ _) merged
  have place : (s₂.disk.absolute (root.join routesPath)).names =
      (s.disk.absolute (root.join routesPath)).names := by
    rw [disk, Disk.absolute_of_here kept.here]
  rw [← place] at apart₂
  rw [← disk] at held dir
  obtain ⟨s₃, second⟩ := gives_syncRoutes_of_stored routes held dir apart₂ again
  exact ⟨s₃, second, now ▸ (syncRoutes_leaves second named apart₂).1⟩

/-- A site with one page and other entries. -/
def siteSample (others : List (String × FileTree)) (log : Log) : Session where
  disk.tree := .directory [("site", .directory
    (("app", .directory [(Route.pageFile, .file (.text ""))]) :: others))]
  disk.here := ["site"]
  disk.home := .ofNames ["home"]
  log := log
  now := ⟨2024, 1, 2, 3, 4, 5, 678901, some 0⟩
  output := ""
  errorOutput := ""

/-- What is stored at first, if anything: the page twice, at a position that is none, and a page that
is gone. -/
def publicSample : String × FileTree :=
  ("public", .directory [("routes.json", .file (.text
    ("\x7b\"routes\": [\x7b\"path\": \"/\", \"order\": true\x7d, " ++
      "\x7b\"path\": \"/\"\x7d, \x7b\"path\": \"/gone\"\x7d]\x7d")))])

/-- A run in the sample site. -/
def syncSample (appDir : String) : Action Synced :=
  syncRoutes ⟨"", []⟩ (.ofText appDir) (.ofText "public/routes.json")

/-- Whether something is a directory that holds one page and nothing else. -/
def isPageDirectory : Option FileTree → Bool
  | some (.directory [(name, .file _)]) => name = Route.pageFile
  | _ => false

theorem gives_scanRoutes_page (there : isPageDirectory (s.disk.at? p) = true) :
    Gives (scanRoutes p) s [Route.ofPath "/"] s := by
  refine gives_bind_iff.mpr ⟨_, s, gives_disk_iff.mpr ⟨rfl, rfl⟩, ?_⟩
  unfold isPageDirectory at there
  split at there
  · rename_i name c held
    rw [held]
    refine gives_pure_iff.mpr ⟨?_, rfl⟩
    rw [of_decide_eq_true there]
    simp [Route.scan, Route.pagePlaces, Route.placesIn, Route.isPrivate, Route.pageFile,
      Route.ofPlace]
  · cases there

theorem foundRoutes_page (there : isPageDirectory (s.disk.at? p) = true) :
    foundRoutes s.disk p = [Route.ofPath "/"] := by
  obtain ⟨s', scan, -⟩ := gives_scanRoutes s p
  exact (gives_unique scan (gives_scanRoutes_page there)).1

theorem syncRoutes_again_sample : ∃ r s₁ s₃,
    Gives (syncSample "public/../app") (siteSample [publicSample] .initial) r s₁ ∧
      r.routes.length = 2 ∧
      Gives (syncSample "public/../app")
        { siteSample [publicSample] .initial with disk := s₁.disk } ⟨r.path, r.routes, 0, 0⟩ s₃ ∧
      s₃.disk.content (.ofText "public/routes.json") =
        s₁.disk.content (.ofText "public/routes.json") := by
  have unlogged (d : Disk) (q : List String) :
      ¬ LoggedTo { siteSample [publicSample] .initial with disk := d } q :=
    not_loggedTo_of_initial rfl q
  have seen : ((syncSample "public/../app").run.run
      (siteSample [publicSample] .initial)).1.toOption.map (·.routes.length) = some 2 := by
    rw [syncSample, run_syncRoutes (gives_scanRoutes_page (by decide +kernel))]
    decide +kernel
  obtain ⟨r, s₁, first, two⟩ := exists_gives seen
  have same : ({ siteSample [publicSample] .initial with disk := s₁.disk } : Session).disk =
      s₁.disk := rfl
  obtain ⟨held, s₃, second, held'⟩ := syncRoutes_again first (by decide)
    (fun _ _ => ⟨["site", "app"], rfl⟩) (unlogged _ _) same rfl (unlogged _ _)
  exact ⟨r, s₁, s₃, first, two, second, held'.trans held.symm⟩

/-- The site with a log that goes to the stored file. -/
def loggedSample : Session :=
  siteSample [("public", .directory [("routes.json", .file (.text ""))])]
    ⟨.info, [.file (.ofText "public/routes.json") .info]⟩

/-- A run can add what the one before it did not: the first opened the way to the pages, or the log
went to the stored file. -/
theorem syncRoutes_adds_later :
    (∃ r s₁ r' s₂, Gives (syncSample "public/../app") (siteSample [] .initial) r s₁ ∧ r.added = 0 ∧
      Gives (syncSample "public/../app") s₁ r' s₂ ∧ r'.added = 1) ∧
    ∃ r s₁ r' s₂, Gives (syncSample "app") loggedSample r s₁ ∧ r.added = 1 ∧
      Gives (syncSample "app") s₁ r' s₂ ∧ r'.added = 1 := by
  obtain ⟨m, merged, one⟩ : ∃ m, Route.merge [] [Route.ofPath "/"] = .ok m ∧ m.added = 1 :=
    ⟨_, rfl, rfl⟩
  constructor
  case left =>
    have seen : ((syncSample "public/../app").run.run (siteSample [] .initial)).1.toOption.map
        (fun r => (r.routes.length, r.added)) = some (0, 0) := by decide +kernel
    obtain ⟨r, s₁, first, counts⟩ := exists_gives seen
    obtain ⟨none, added⟩ := Prod.mk.inj counts
    have after := session_of_gives first
    obtain ⟨held, dir, -, -⟩ := syncRoutes_leaves first (by decide)
      (not_loggedTo_of_initial rfl _)
    rw [List.length_eq_zero_iff.mp none] at held
    have found : foundRoutes s₁.disk (Path.join ⟨"", []⟩ (.ofText "public/../app")) = _ :=
      foundRoutes_page (by rw [after]; decide +kernel)
    have second : ∃ s₂, Gives (syncSample "public/../app") s₁ ⟨_, m.routes, m.added, m.removed⟩ s₂ :=
      gives_syncRoutes_of_stored (fun _ hx => by cases hx) held dir
        (not_loggedTo_of_initial (by rw [after]; decide +kernel) _) ((congrArg (Route.merge []) found).trans merged)
    obtain ⟨s₂, second⟩ := second
    exact ⟨r, s₁, _, s₂, first, added, second, one⟩
  case right =>
    have seen : ((syncSample "app").run.run loggedSample).1.toOption.map (·.added) = some 1 := by
      rw [syncSample, run_syncRoutes (gives_scanRoutes_page (by decide +kernel))]
      decide +kernel
    obtain ⟨r, s₁, first, added⟩ := exists_gives seen
    have after := session_of_gives first
    rw [syncSample, run_syncRoutes (gives_scanRoutes_page (by decide +kernel))] at after
    have found : foundRoutes s₁.disk (Path.join ⟨"", []⟩ (.ofText "app")) = _ :=
      foundRoutes_page (by rw [after]; decide +kernel)
    -- the record of what was stored follows it
    obtain ⟨between, scan, run⟩ := exists_run_syncRoutes loggedSample
    obtain ⟨existing, m₁, before, made, written, read, merged₁, prepared, wrote, left, -⟩ :=
      gives_storeRoutes_iff.mp (run.symm.trans first)
    obtain ⟨quiet, storable⟩ := readRoutes_spec read
    have log : ({ before with disk := written } : Session).log = loggedSample.log :=
      (scan.trans quiet).log
    have there := Disk.isDirectory_of_kept (Disk.kept_write wrote)
      (Disk.isDirectory_of_makeDirectories prepared)
    let note := syncedNote (Path.join ⟨"", []⟩ (.ofText "public/routes.json")) m₁
    have rest := (continues_emit { before with disk := written } note).kept
    have dir := Disk.isDirectory_of_kept rest there
    have own : note.isOwn = true := LogRecord.isOwn_of_plain (by simp) _ _
    have held := content_emit_of_file own log rfl rfl there (Disk.content_of_write wrote)
    rw [← left] at dir held
    have stored := Route.storable_of_merge storable (storable_foundRoutes _ _) merged₁
    have second : ∃ s₂, Gives (syncSample "app") s₁ ⟨_, m.routes, m.added, m.removed⟩ s₂ :=
      gives_syncRoutes_of_spoiled (wellFormed_routesDocument stored) (isLogText_fileLine _ _)
        (fileLine_ne_empty _ _) held dir ((congrArg (Route.merge []) found).trans merged)
    obtain ⟨s₂, second⟩ := second
    exact ⟨r, s₁, _, s₂, first, added, second, one⟩

end Sync

end Project

end PropForge
