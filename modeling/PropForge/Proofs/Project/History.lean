import PropForge.Proofs.Project.Navigation
import PropForge.Proofs.Route.Order

/-!
# Positions along a history of runs

Runs sync the routes again and again while pages come and go. A page that is gone takes its place
with it, so that a new page can be told a place before that of an old one:

* `syncRoutes_step`: a run merges into what the run before it stored, or into nothing;
* `History.ascending_iff`: when the places ascend along what is stored;
* `History.stored_in_order`: the places ascend along every stored list if, and only if, no run that
  adds a page keeps a place beyond the first that it tells; then each list is in order.
-/

namespace PropForge

open FileTree

namespace Synced

/-- The routes that a run kept. -/
def kept (r : Synced) : List Route := r.routes.take (r.routes.length - r.added)

/-- A run that adds a page keeps no place beyond the first that it tells. -/
def Steady (r : Synced) : Prop :=
  r.added = 0 ∨ ∀ n ∈ Route.seats r.kept, n ≤ r.kept.length + 1

instance (r : Synced) : Decidable r.Steady :=
  inferInstanceAs (Decidable (r.added = 0 ∨ ∀ n ∈ Route.seats r.kept, n ≤ r.kept.length + 1))

end Synced

namespace Project

variable {root appDir routesPath : Path} {s s' : Session} {target : Path} {routes : List Route}

/-- What the file is to which a path leads. -/
def heldAt (s : Session) (p : Path) : Option Content :=
  file? (s.disk.absolute p).names s.disk.tree

/-- A file that holds no more than stored routes, with what the log may have added. -/
def Stores (target : Path) (routes : List Route) (s : Session) : Prop :=
  ∀ c, heldAt s target = some c → ∃ now more, IsLogText more ∧
    c = .text (Json.document (routesDocument now routes) ++ more)

theorem Stores.quiet (h : Stores target routes s) (quiet : Quiet s s') : Stores target routes s' := by
  intro c held
  rw [heldAt, quiet.absolute] at held
  cases before : file? (s.disk.absolute target).names s.disk.tree with
  | none =>
    rw [quiet.grown.absent _ before] at held
    cases held
  | some c₀ =>
    obtain ⟨now, more, log, rfl⟩ := h c₀ before
    obtain ⟨last, log', grown⟩ := quiet.grown.text _ _ before
    rw [grown] at held
    cases held
    exact ⟨now, more ++ last, log.append log', by rw [String.append_assoc]⟩

/-- A document that the log was added to is none. -/
theorem log_eq_empty_of_parse {v document : Json} {more : String} {text : String}
    (well : v.WellFormed) (log : IsLogText more)
    (read : (Content.text (Json.document v ++ more)).readText = .ok text)
    (parsed : Json.parse text.toList = .ok document) : more = "" := by
  by_contra added
  obtain ⟨whole, fault, read', bad⟩ := Json.readText_document_digit well log added
  cases read.symm.trans read'
  rw [bad] at parsed
  cases parsed

/-- What is read of such a file: the routes, or nothing once the log was added. -/
theorem readRoutes_of_stores {stored : List Route} (storable : ∀ r ∈ routes, Route.Storable r)
    (h : Stores target routes s) (read : Gives (readRoutes target) s stored s') :
    stored = [] ∨ stored = routes := by
  refine (readRoutes_cases read).2.imp_right ?_
  rintro ⟨text, document, found, parsed, rfl⟩
  obtain ⟨c, held, whole⟩ := Disk.readText_eq_ok.mp found
  obtain ⟨place, located, there⟩ := Disk.content_eq_ok.mp held
  rw [← Disk.absolute_of_locate located] at there
  obtain ⟨now, more, log, rfl⟩ := h c there
  have well : (routesDocument now routes).WellFormed := wellFormed_routesDocument storable
  obtain rfl := log_eq_empty_of_parse well log whole parsed
  rw [String.append_empty, Json.readText_document well] at whole
  cases whole
  rw [Json.parse_document well] at parsed
  cases parsed
  exact routesIn_routesDocument now routes

/-- A run merges the routes of the pages into those that were stored, or into none, and stores what
comes of it. -/
theorem syncRoutes_step {r : Synced} (storable : ∀ x ∈ routes, Route.Storable x)
    (h : Stores (root.join routesPath) routes s)
    (run : Gives (syncRoutes root appDir routesPath) s r s') :
    ∃ existing, (existing = [] ∨ existing = routes) ∧
      Route.merge existing (foundRoutes s.disk (root.join appDir)) =
        .ok ⟨r.routes, r.added, r.removed⟩ ∧
      (∀ x ∈ r.routes, Route.Storable x) ∧ Stores (root.join routesPath) r.routes s' := by
  obtain ⟨between, scan, steps⟩ := exists_run_syncRoutes s
  obtain ⟨existing, m, before, made, written, read, merged, prepared, wrote, rfl, rfl⟩ :=
    gives_storeRoutes_iff.mp (steps.symm.trans run)
  have old := readRoutes_of_stores storable (h.quiet scan) read
  refine ⟨existing, old, merged, Route.storable_of_merge (readRoutes_spec read).2 (storable_foundRoutes _ _) merged, ?_⟩
  have fresh : Stores (root.join routesPath) m.routes { before with disk := written } := by
    intro c held
    have stored := Disk.file?_of_write wrote
    rw [heldAt, Disk.absolute_of_here (Disk.kept_write wrote).here, stored] at held
    cases held
    exact ⟨before.now, "", isLogText_empty, by rw [String.append_empty]; rfl⟩
  exact fresh.quiet (.emit _ _)

/-- What a run leaves for the next one: routes that can be read back, each of which was told a
place. -/
structure Holds (target : Path) (routes : List Route) (s : Session) : Prop where
  stores : Stores target routes s
  storable : ∀ r ∈ routes, Route.Storable r
  seated : Route.Seated routes

/-- **One run.** The routes that it keeps were stored and keep their places; the others are told
those that follow their number. -/
theorem Holds.run {r : Synced} (h : Holds (root.join routesPath) routes s)
    (run : Gives (syncRoutes root appDir routesPath) s r s') :
    Holds (root.join routesPath) r.routes s' ∧
      (Route.seats r.kept).Sublist (Route.seats routes) ∧
      ∃ new, r.routes = r.kept ++ new ∧
        Route.seats new = List.range' (r.kept.length + 1) r.added := by
  obtain ⟨existing, old, merged, storable, stores⟩ := syncRoutes_step h.storable h.stores run
  have within : (∀ x ∈ existing, x ∈ routes) ∧ existing.Sublist routes := by
    rcases old with rfl | rfl
    · exact ⟨fun _ hx => (by cases hx), List.nil_sublist _⟩
    · exact ⟨fun _ hx => hx, .refl _⟩
  obtain ⟨kept, new, split, count, keptSeated, newSeated, sub, places⟩ :=
    Route.merge_seats (Route.discovered_ofPlace _) (Route.unplaced_ofPlace _)
      (fun x hx => (h.storable x (within.1 x hx)).nodup) (fun x hx => h.seated x (within.1 x hx))
      merged
  dsimp only at split count places
  have same : r.kept = kept := by
    rw [Synced.kept, split, List.length_append, count, Nat.add_sub_cancel, List.take_left]
  rw [same]
  refine ⟨⟨stores, storable, ?_⟩, sub.trans (within.2.filterMap _), new, split, places⟩
  rw [split]
  exact List.forall_mem_append.mpr ⟨keptSeated, newSeated⟩

/-- What goes on between two runs leaves the stored file. -/
theorem Holds.between (h : Holds target routes s) (same : heldAt s' target = heldAt s target) :
    Holds target routes s' where
  stores c held := h.stores c (same.symm.trans held)
  storable := h.storable
  seated := h.seated

/-- Runs one after the other, the last one first, up to a session. They begin without a stored
file; between them all may change but what that file holds. -/
inductive History (root appDir routesPath : Path) : List Synced → Session → Prop where
  | start {s : Session} (absent : heldAt s (root.join routesPath) = none) :
      History root appDir routesPath [] s
  | run {runs : List Synced} {s between s' : Session} {r : Synced}
      (before : History root appDir routesPath runs s)
      (same : heldAt between (root.join routesPath) = heldAt s (root.join routesPath))
      (run : Gives (syncRoutes root appDir routesPath) between r s') :
      History root appDir routesPath (r :: runs) s'

/-- The routes that the last run stored. -/
def latest : List Synced → List Route
  | [] => []
  | r :: _ => r.routes

section History

variable {runs : List Synced}

theorem History.holds (h : History root appDir routesPath runs s) :
    Holds (root.join routesPath) (latest runs) s := by
  induction h with
  | start absent =>
    refine ⟨fun c held => ?_, fun _ hx => (by cases hx), fun _ hx => (by cases hx)⟩
    rw [absent] at held
    cases held
  | run before same run ih => exact ((ih.between same).run run).1

/-- **Places along a history.** They ascend along every list if, and only if, every run is steady:
a run that adds a page keeps no place beyond the first that it tells. -/
theorem History.ascending_iff (h : History root appDir routesPath runs s) :
    (∀ r ∈ runs, r.Steady) ↔ ∀ r ∈ runs, Route.Ascending r.routes := by
  induction h with
  | start absent => exact ⟨fun _ _ hr => (by cases hr), fun _ _ hr => (by cases hr)⟩
  | @run runs s between s' r before same run ih =>
    obtain ⟨-, sub, new, split, places⟩ := (before.holds.between same).run run
    rw [List.forall_mem_cons, List.forall_mem_cons, ih]
    refine and_congr_left fun all => ?_
    have asc : Route.Ascending (latest runs) := by
      cases runs with
      | nil => exact .nil
      | cons last rest => exact all last List.mem_cons_self
    have keptAsc : Route.Ascending r.kept := List.Pairwise.sublist sub asc
    rw [split, Route.ascending_append_iff keptAsc places]
    rfl

/-- All routes along a history were told a place. -/
theorem History.seated (h : History root appDir routesPath runs s) :
    ∀ r ∈ runs, Route.Seated r.routes := by
  induction h with
  | start absent => exact fun _ hr => (by cases hr)
  | run before same run ih =>
    exact List.forall_mem_cons.mpr ⟨((before.run same run).holds).seated, ih⟩

/-- **Stored lists in order.** Along a history the places ascend in every stored list if, and only
if, every run is steady; a list in which they ascend is in order as it is. What is read of the
stored file is the last list, unless the log was written there too. -/
theorem History.stored_in_order (h : History root appDir routesPath runs s)
    (inRange : ∀ r ∈ runs, ∀ n ∈ Route.seats r.routes, ∃ x, Number.Binary64.ofInt? n = some x) :
    ((∀ r ∈ runs, r.Steady) ↔ ∀ r ∈ runs, Route.Ascending r.routes) ∧
      (∀ r ∈ runs, Route.Ascending r.routes → Route.order r.routes = .ok r.routes) ∧
      ∀ stored s', Gives (readRoutes (root.join routesPath)) s stored s' →
        stored = [] ∨ stored = latest runs := by
  refine ⟨h.ascending_iff, fun r hr asc => ?_, fun stored s' read => ?_⟩
  · exact Route.order_of_ascending (h.seated r hr) asc (inRange r hr)
  · exact readRoutes_of_stores h.holds.storable h.holds.stores read

end History

section Sample

/-- The file of a page. -/
def pageSample : String × FileTree := (Route.pageFile, .file (.text ""))

/-- The sample site with these pages. -/
def withPages (app : List (String × FileTree)) (s : Session) : Session :=
  { s with disk := { s.disk with tree := FileTree.put (.directory app) ["site", "app"] s.disk.tree } }

theorem at?_app_withPages {app : List (String × FileTree)} (here : s.disk.here = ["site"])
    (there : HasDirectory ["site"] s.disk.tree) :
    (withPages app s).disk.at? (.ofText "app") = some (.directory app) := by
  have fits : Fits ["site", "app"] s.disk.tree := fits_of_hasDirectory (by simp) there
  rw [Disk.at?_of_plain (by decide)]
  change FileTree.at? (s.disk.here ++ ["app"]) _ = _
  rw [here]
  exact at?_put_append fits []

theorem at?_withPages (app : List (String × FileTree)) (here : s.disk.here = ["site"])
    {names : List String} (plain : ".." ∉ "public" :: names) :
    (withPages app s).disk.at? ⟨"", "public" :: names⟩ = s.disk.at? ⟨"", "public" :: names⟩ := by
  rw [Disk.at?_of_plain plain, Disk.at?_of_plain plain]
  change FileTree.at? (s.disk.here ++ "public" :: names) _ =
    FileTree.at? (s.disk.here ++ "public" :: names) _
  rw [here]
  exact at?_put_apart (by decide) _ ["site"] [] names s.disk.tree

theorem heldAt_withPages (app : List (String × FileTree)) (here : s.disk.here = ["site"]) :
    heldAt (withPages app s) (.ofText "public/routes.json") =
      heldAt s (.ofText "public/routes.json") := by
  have place : (s.disk.absolute (.ofText "public/routes.json")).names =
      ["site", "public", "routes.json"] := by
    rw [Disk.absolute_of_plain (by decide)]
    change s.disk.here ++ _ = _
    rw [here]
    rfl
  have apart : at? ["site", "public", "routes.json"] (withPages app s).disk.tree =
      at? ["site", "public", "routes.json"] s.disk.tree :=
    at?_put_apart (by decide) _ ["site"] [] ["routes.json"] s.disk.tree
  change file? (s.disk.absolute _).names _ = file? (s.disk.absolute _).names _
  rw [place, file?, file?, apart]

/-- Three pages, one below the other. -/
def pagesSample : List (String × FileTree) :=
  [pageSample, ("x", .directory [pageSample, ("y", .directory [pageSample])])]

/-- The sample site before a first run. -/
def unsyncedSample : Session := withPages pagesSample (siteSample [] .initial)

/-- What a run gives that finds the routes with these paths. -/
def foundSample (paths : List String) (s : Session) : Except Failure Synced × Session :=
  let found := paths.map Route.ofPath
  (storeRoutes (.ofText "public/routes.json") found).run.run (s.emit (foundNote (.ofText "app") found))

theorem run_syncSample {paths : List String} {app : List (String × FileTree)}
    (there : s.disk.at? (.ofText "app") = some (.directory app))
    (scan : Route.scan (.directory app) = paths.map Route.ofPath) :
    (syncSample "app").run.run s = foundSample paths s := by
  refine run_syncRoutes (gives_bind_iff.mpr ⟨_, _, gives_disk_iff.mpr ⟨rfl, rfl⟩, ?_⟩)
  have same : s.disk.at? (Path.join ⟨"", []⟩ (.ofText "app")) = some (.directory app) := there
  rw [same, ← scan]
  exact gives_pure_iff.mpr ⟨rfl, rfl⟩

/-- A second run, after pages came and went. -/
theorem history_sample (paths : List String) (app : List (String × FileTree)) (places : List Nat)
    (steady : Bool) (scan : Route.scan (.directory app) = paths.map Route.ofPath)
    (seen : ((foundSample ["/", "/x", "/x/y"] unsyncedSample).1.toOption.bind fun r =>
      (Route.merge r.routes (paths.map Route.ofPath)).toOption.map fun m =>
        ((Route.seats r.routes, decide r.Steady), Route.seats m.routes,
          decide (Synced.Steady ⟨.ofText "public/routes.json", m.routes, m.added, m.removed⟩))) =
      some (([1, 2, 3], true), places, steady)) :
    ∃ r r' s, History ⟨"", []⟩ (.ofText "app") (.ofText "public/routes.json") [r', r] s ∧
      Route.seats r.routes = [1, 2, 3] ∧ decide r.Steady = true ∧
      Route.seats r'.routes = places ∧ decide r'.Steady = steady := by
  have scanned : Route.scan (.directory pagesSample) = ["/", "/x", "/x/y"].map Route.ofPath := by
    simp [Route.scan, Route.pagePlaces, Route.placesIn, Route.isPrivate, Route.pageFile, pageSample,
      pagesSample, Route.ofPlace, List.mergeSort_of_pairwise]
  obtain ⟨r, given, merge⟩ := Option.bind_eq_some_iff.mp seen
  obtain ⟨m, merged, same⟩ := Option.map_eq_some_iff.mp merge
  obtain ⟨⟨seats, steady₁⟩, seats', steady₂⟩ := Prod.mk.inj same |>.imp Prod.mk.inj Prod.mk.inj
  -- the first run
  have ran : ((syncSample "app").run.run unsyncedSample).1.toOption.map id = some r := by
    rw [Option.map_id_apply, run_syncSample rfl scanned, given]
  obtain ⟨r', s₁, first, same⟩ := exists_gives ran
  obtain rfl : r = r' := same.symm
  have one : History ⟨"", []⟩ (.ofText "app") (.ofText "public/routes.json") [r] s₁ :=
    .run (.start (s := unsyncedSample) rfl) rfl first
  obtain ⟨held, dir, kept, -⟩ :=
    syncRoutes_leaves first (by decide) (not_loggedTo_of_initial rfl _)
  -- what is left of it when the pages have changed
  let left : Session := { unsyncedSample with disk := s₁.disk }
  have here : left.disk.here = ["site"] := kept.here
  have there : HasDirectory ["site"] left.disk.tree := kept.directory _ ⟨_, rfl⟩
  have held₂ : (withPages app left).disk.content (.ofText "public/routes.json") = _ :=
    Disk.content_eq_ok_iff_at?.mpr
      ((at?_withPages app here (by decide)).trans (Disk.content_eq_ok_iff_at?.mp held))
  have dir₂ : (withPages app left).disk.isDirectory (.ofText "public") = true := by
    rw [Disk.isDirectory, show (withPages app left).disk.at? (.ofText "public") = _ from
      at?_withPages app here (by decide)]
    exact dir
  have found : foundRoutes (withPages app left).disk (.ofText "app") = paths.map Route.ofPath := by
    rw [foundRoutes, at?_app_withPages here there]
    exact scan
  have merged₂ : Route.merge r.routes
      (foundRoutes (withPages app left).disk (.ofText "app")) = .ok m := by
    rw [found]
    cases result : Route.merge r.routes (paths.map Route.ofPath) with
    | ok m' =>
      rw [result] at merged
      cases merged
      rfl
    | error f =>
      rw [result] at merged
      cases merged
  -- the second run
  have second : ∃ s₂, Gives (syncRoutes ⟨"", []⟩ (.ofText "app") (.ofText "public/routes.json"))
      (withPages app left) ⟨.ofText "public/routes.json", m.routes, m.added, m.removed⟩ s₂ :=
    gives_syncRoutes_of_stored one.holds.storable held₂ dir₂ (not_loggedTo_of_initial rfl _) merged₂
  obtain ⟨s₂, second⟩ := second
  have same₂ : heldAt (withPages app left) (.ofText "public/routes.json") =
      heldAt s₁ (.ofText "public/routes.json") := heldAt_withPages app here
  exact ⟨r, _, s₂, .run one same₂ second, seats, steady₁, seats', steady₂⟩

/-- Where all pages stay and one is new, the places ascend. -/
theorem stored_in_order_sample : ∃ r r' s,
    History ⟨"", []⟩ (.ofText "app") (.ofText "public/routes.json") [r', r] s ∧
      Route.seats r'.routes = [1, 2, 3] ∧ Route.order r'.routes = .ok r'.routes := by
  obtain ⟨r, r', s, history, seats, steady, seats', steady'⟩ :=
    history_sample ["/", "/x", "/x/z"]
      [pageSample, ("x", .directory [pageSample, ("z", .directory [pageSample])])] [1, 2, 3] true
      (by simp [Route.scan, Route.pagePlaces, Route.placesIn, Route.isPrivate, Route.pageFile,
        pageSample, Route.ofPlace, List.mergeSort_of_pairwise]) (by decide +kernel)
  have small : ∀ n ∈ [1, 2, 3], n < 2 ^ 53 := by decide
  have all : ∀ x ∈ [r', r], x.Steady :=
    List.forall_mem_cons.mpr ⟨of_decide_eq_true steady',
      List.forall_mem_singleton.mpr (of_decide_eq_true steady)⟩
  obtain ⟨ascending, ordered, -⟩ := history.stored_in_order (by
    refine List.forall_mem_cons.mpr ⟨?_, List.forall_mem_singleton.mpr ?_⟩
    · rw [seats']
      exact fun n hn => ⟨_, Number.Binary64.ofInt?_of_lt (small n hn)⟩
    · rw [seats]
      exact fun n hn => ⟨_, Number.Binary64.ofInt?_of_lt (small n hn)⟩)
  exact ⟨r, r', s, history, seats', ordered r' (by simp) (ascending.mp all r' (by simp))⟩

/-- Where two of three pages are gone and one is new, the new one, which comes last, is told a place
before that of the old one. -/
theorem stored_out_of_order : ∃ r r' s,
    History ⟨"", []⟩ (.ofText "app") (.ofText "public/routes.json") [r', r] s ∧
      Route.seats r.routes = [1, 2, 3] ∧ Route.seats r'.routes = [3, 2] ∧
      Route.order r'.routes ≠ .ok r'.routes := by
  obtain ⟨r, r', s, history, seats, -, seats', -⟩ :=
    history_sample ["/x/y", "/x/y/z"]
      [("x", .directory [("y", .directory [pageSample, ("z", .directory [pageSample])])])]
      [3, 2] false
      (by simp [Route.scan, Route.pagePlaces, Route.placesIn, Route.isPrivate, Route.pageFile,
        pageSample, Route.ofPlace, List.mergeSort_of_pairwise]) (by decide +kernel)
  have small : ∀ n ∈ Route.seats r'.routes, n < 2 ^ 53 := by
    rw [seats']
    decide
  refine ⟨r, r', s, history, seats, seats', fun ordered => ?_⟩
  have asc : Route.Ascending r'.routes :=
    Route.ascending_of_order history.holds.seated small ordered
  rw [Route.Ascending, seats'] at asc
  exact absurd asc (by decide)

end Sample

end Project

end PropForge
