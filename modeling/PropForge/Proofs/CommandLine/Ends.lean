import PropForge.Proofs.CommandLine.Failures

/-!
# How a command line ends

* `configureLog_cases`: the log, which is set up first, fails for its file alone;
* `gives_runGenerate`, `givesOnly_zero`: which commands exit with a code that is not that of success;
* `ends_or_escapes`: a request ends with a code, or fails with nothing told of it;
* `run_ends_iff`: so what is asked for is done, or the console tells why it is not, or there is one of
  the failures that are not told.
-/

namespace PropForge

open Project

variable {α β : Type}

namespace CommandLine

section Start

variable {verbose : Bool} {file : Option Path} {s s' : Session} {f : Failure}

/-- What a disk is like once a log file is opened: a file that is there stays, and else there is an
empty one. -/
def openLog (d : Disk) (path : Path) : Except DiskFault Disk :=
  if d.isFile path then .ok d else d.write path (.text "")

/-- Why a log file cannot be set up, and what the disk is like by then. -/
inductive BlocksLog (d : Disk) (path : Path) : DiskFault → Disk → Prop where
  /-- There is no directory for it, and none can be made. -/
  | directory {fault : DiskFault} {made : Disk}
      (stuck : d.makeDirectories path.parent = (made, some fault)) : BlocksLog d path fault made
  /-- It is not there, and nothing can be written in its place. -/
  | file {fault : DiskFault} {made : Disk}
      (prepared : d.makeDirectories path.parent = (made, none))
      (stuck : openLog made (made.absolute path) = .error fault) : BlocksLog d path fault made

/-- A session whose log goes to the console alone. -/
def onConsole (verbose : Bool) (s : Session) : Session :=
  { s with log.handlers := [.console (if verbose then .debug else .info)] }

/-- A session whose log goes to the console and to a file. -/
def onFile (verbose : Bool) (s : Session) (path : Path) : Session :=
  { s with log := ⟨.debug, (onConsole verbose s).log.handlers ++ [.file path .debug]⟩ }

theorem run_configureLog (verbose : Bool) (path : Path) (s : Session) :
    (Action.configureLog verbose (some path)).run.run s =
      match s.disk.makeDirectories path.parent with
      | (made, some fault) => (.error (.disk fault), { onConsole verbose s with disk := made })
      | (made, none) => match openLog made (made.absolute path) with
        | .error fault => (.error (.disk fault), { onConsole verbose s with disk := made })
        | .ok opened => (.ok (), { onFile verbose s (made.absolute path) with disk := opened }) := by
  have first : ((modify fun s => { s with
      log := { s.log with handlers := [.console (if verbose then .debug else .info)] } } :
      Action Unit)).run.run s = (.ok (), onConsole verbose s) := rfl
  unfold Action.configureLog
  rw [run_bind, first]
  dsimp only
  rw [run_bind, run_makeDirectories, show (onConsole verbose s).disk = s.disk from rfl]
  rcases s.disk.makeDirectories path.parent with ⟨made, none | fault⟩
  · dsimp only
    rw [run_bind, show StateT.run (ExceptT.run (Action.absolute path)) _ =
      (.ok (made.absolute path), { onConsole verbose s with disk := made }) from rfl]
    dsimp only
    rw [run_bind, run_disk]
    dsimp only
    unfold openLog
    cases made.isFile (made.absolute path) with
    | true => rfl
    | false =>
      rw [Bool.not_false, if_pos rfl, if_neg Bool.false_ne_true, run_bind, run_write]
      dsimp only
      cases made.write (made.absolute path) (.text "") <;> rfl
  · rfl

theorem run_of_blocksLog {path : Path} {fault : DiskFault} {made : Disk}
    (blocks : BlocksLog s.disk path fault made) :
    (Action.configureLog verbose (some path)).run.run s =
      (.error (.disk fault), { onConsole verbose s with disk := made }) := by
  rw [run_configureLog]
  cases blocks with
  | directory stuck => rw [stuck]
  | file prepared stuck =>
    rw [prepared]
    dsimp only
    rw [stuck]

/-- **The log is set up**, or its file is what it cannot be set up with. -/
theorem configureLog_cases (verbose : Bool) (file : Option Path) (s : Session) :
    (∃ s', Gives (Action.configureLog verbose file) s () s') ∨
      ∃ path fault made, file = some path ∧ BlocksLog s.disk path fault made := by
  cases file with
  | none => exact .inl ⟨_, rfl⟩
  | some path =>
    unfold Gives
    rw [run_configureLog]
    rcases prepared : s.disk.makeDirectories path.parent with ⟨made, none | fault⟩
    · dsimp only
      cases opens : openLog made (made.absolute path) with
      | ok opened => exact .inl ⟨_, rfl⟩
      | error fault => exact .inr ⟨path, fault, made, rfl, .file prepared opens⟩
    · exact .inr ⟨path, fault, made, rfl, .directory prepared⟩

/-- The directory of a project is known by an absolute path. -/
theorem gives_inDirectory_iff {q : Path} {p : Project} :
    Gives (inDirectory q) s p s' ↔
      ∃ expanded, s.disk.expandHome q = some expanded ∧ p = ⟨s.disk.absolute expanded⟩ ∧ s' = s := by
  unfold inDirectory
  rw [gives_bind_iff]
  constructor
  · rintro ⟨expanded, _, expands, rest⟩
    obtain ⟨known, rfl⟩ := gives_expandHome_iff.mp expands
    cases rest
    exact ⟨expanded, known, rfl, rfl⟩
  · rintro ⟨expanded, known, rfl, rfl⟩
    exact ⟨expanded, _, gives_expandHome_iff.mpr ⟨known, rfl⟩, rfl⟩

theorem absolute_of_inDirectory {q : Path} {p : Project} (h : Gives (inDirectory q) s p s') :
    p.root.root ≠ "" := by
  obtain ⟨expanded, -, rfl, -⟩ := gives_inDirectory_iff.mp h
  unfold Disk.absolute
  dsimp only
  split <;> decide

/-- The log is set up and the project's directory is known. -/
structure Prepared (r : Request) (s : Session) (p : Project) (ready : Session) : Prop where
  log : Gives (Action.configureLog r.verbose r.logFile) s () ready
  root : Gives (inDirectory r.command.root) ready p ready

end Start

section Outcomes

variable {r : Request} {c : Command} {p : Project} {s s' ready : Session} {f : Failure} {code : Nat}

/-- What the console tells of a failure. -/
def complaint (c : Command) (f : Failure) : String :=
  if f.isExtraction || f.isPresence then f.message ++ "\n"
  else s!"pfgen {c.name} failed: {f.message}\n" ++ "Run with --verbose for more details.\n"

/-- What the console tells of a batch in which components failed. -/
def batchComplaint (o : Outcome) : String :=
  let failed := ", ".intercalate (o.failures.map fun (source, _) => source.text)
  s!"pfgen generate failed for: {failed}\n"

theorem run_report_of_told (told : isTold f = true) : (report c f).run.run s =
    (.ok 1, { s with errorOutput := s.errorOutput ++ complaint c f }) := by
  unfold report complaint
  split
  · rfl
  · rename_i other
    have refused : isRefusal f = true := by
      rw [isTold, Bool.or_eq_true] at told
      exact told.resolve_left other
    rw [if_pos refused]
    rfl

theorem run_report_of_untold (untold : isTold f = false) :
    (report c f).run.run s = (.error f, s) := by
  rw [isTold, Bool.or_eq_false_iff] at untold
  unfold report
  rw [untold.1, untold.2]
  rfl

/-- A command that is prepared is run, and of its failure it is told what there is to tell. -/
theorem run_runRequest_of_prepared (prepared : Prepared r s p ready) : (runRequest r).run.run s =
    match (runCommand p r.command).run.run ready with
    | (.ok code, s') => (.ok code, s')
    | (.error f, s') => (report r.command f).run.run s' := by
  unfold runRequest
  rw [run_bind, show StateT.run (ExceptT.run (Action.configureLog r.verbose r.logFile)) s = _ from
    prepared.log]
  dsimp only
  rw [run_bind, show StateT.run (ExceptT.run (inDirectory r.command.root)) ready = _ from
    prepared.root]
  dsimp only
  rw [run_bind, run_attempt]
  rcases (runCommand p r.command).run.run ready with ⟨f | code, s'⟩ <;> rfl

/-- What all results of a command are like. -/
def GivesOnly (P : α → Prop) (a : Action α) : Prop := ∀ s x s', Gives a s x s' → P x

theorem GivesOnly.bind {Q : β → Prop} {a : Action α} {rest : α → Action β}
    (last : ∀ x, GivesOnly Q (rest x)) : GivesOnly Q (a >>= rest) := by
  intro s y s' h
  obtain ⟨x, between, -, h⟩ := gives_bind_iff.mp h
  exact last x between y s' h

theorem givesOnly_pure {Q : α → Prop} {x : α} (h : Q x) : GivesOnly Q (pure x) := by
  intro s y s' given
  obtain ⟨rfl, -⟩ := gives_pure_iff.mp given
  exact h

/-- A batch that comes to its end has failed if one of its components has, and says so at last. -/
theorem gives_runGenerate {files : List Path} {choices : GenerateChoices}
    (h : Gives (runGenerate p files choices) s code s') : ∃ settings o configured generated,
      Gives p.settings s settings configured ∧
      Gives (p.generate settings (p.generateSettings settings choices) files) configured o generated ∧
      (o.failures = [] ∧ code = 0 ∨ o.failures ≠ [] ∧ code = 1 ∧
        ∃ earlier, s'.errorOutput = earlier ++ batchComplaint o) := by
  obtain ⟨settings, configured, loads, h⟩ := gives_bind_iff.mp h
  obtain ⟨o, generated, generates, h⟩ := gives_bind_iff.mp h
  obtain ⟨_, printed, -, h⟩ := gives_bind_iff.mp h
  refine ⟨settings, o, configured, generated, loads, generates, ?_⟩
  dsimp only at h
  split at h
  · rename_i complete
    obtain ⟨rfl, -⟩ := gives_pure_iff.mp h
    exact .inl ⟨List.isEmpty_iff.mp complete, rfl⟩
  · rename_i incomplete
    obtain ⟨_, told, complains, h⟩ := gives_bind_iff.mp h
    obtain rfl := gives_modify_iff.mp complains
    obtain ⟨rfl, rfl⟩ := gives_pure_iff.mp h
    exact .inr ⟨fun none => incomplete (List.isEmpty_iff.mpr none), rfl, printed.errorOutput, rfl⟩

/-- A command that is no batch exits with no code but that of success. -/
theorem givesOnly_zero (noBatch : ∀ files choices, c ≠ .generate files choices) :
    GivesOnly (· = 0) (runCommand p c) := by
  cases c with
  | generate files choices => exact absurd rfl (noBatch files choices)
  | extract file asDocument output =>
    refine GivesOnly.bind fun text => ?_
    cases output with
    | none => exact .bind fun _ => givesOnly_pure rfl
    | some target => exact .bind fun _ => .bind fun _ => .bind fun _ => .bind fun _ => givesOnly_pure rfl
  | isolate file outputDir templates frameworks =>
    exact .bind fun _ => .bind fun _ => .bind fun _ => givesOnly_pure rfl
  | syncRoutes root => exact .bind fun _ => .bind fun _ => .bind fun _ => givesOnly_pure rfl
  | initManifest root => exact .bind fun _ => .bind fun _ => .bind fun _ => givesOnly_pure rfl
  | showManifest root => exact .bind fun _ => .bind fun _ => givesOnly_pure rfl

/-- How a request ends with an exit code. -/
inductive Ends (r : Request) (s : Session) : Nat → Session → Prop where
  | done {p : Project} {ready s' : Session} (prepared : Prepared r s p ready)
      (runs : Gives (runCommand p r.command) ready 0 s') : Ends r s 0 s'
  /-- Components of a batch failed, and the console tells last which. -/
  | batch {p : Project} {ready s' configured generated : Session} {files : List Path}
      {choices : GenerateChoices} {settings : Settings} {o : Outcome} {earlier : String}
      (prepared : Prepared r s p ready) (asked : r.command = .generate files choices)
      (loads : Gives p.settings ready settings configured)
      (generates : Gives (p.generate settings (p.generateSettings settings choices) files)
        configured o generated)
      (failed : o.failures ≠ []) (runs : Gives (runCommand p r.command) ready 1 s')
      (told : s'.errorOutput = earlier ++ batchComplaint o) : Ends r s 1 s'
  /-- The command failed, and the console tells last why. -/
  | told {p : Project} {ready left : Session} {f : Failure} (prepared : Prepared r s p ready)
      (fails : (runCommand p r.command).run.run ready = (.error f, left)) (told : isTold f = true) :
      Ends r s 1 { left with errorOutput := left.errorOutput ++ complaint r.command f }

/-- How a request fails with nothing told of it. -/
inductive Escapes (r : Request) (s : Session) : Failure → Session → Prop where
  | log {path : Path} {fault : DiskFault} {made : Disk} (file : r.logFile = some path)
      (blocks : BlocksLog s.disk path fault made) :
      Escapes r s (.disk fault) { onConsole r.verbose s with disk := made }
  | root {logged : Session} (log : Gives (Action.configureLog r.verbose r.logFile) s () logged)
      (unknown : logged.disk.expandHome r.command.root = none) : Escapes r s .noHome logged
  | command {p : Project} {ready left : Session} {f : Failure} (prepared : Prepared r s p ready)
      (fails : (runCommand p r.command).run.run ready = (.error f, left))
      (untold : Untold r.command f) : Escapes r s f left

theorem gives_of_ends (h : Ends r s code s') : Gives (runRequest r) s code s' := by
  unfold Gives
  cases h with
  | done prepared runs =>
    rw [run_runRequest_of_prepared prepared, show StateT.run (ExceptT.run _) _ = _ from runs]
  | batch prepared asked loads generates failed runs told =>
    rw [run_runRequest_of_prepared prepared, show StateT.run (ExceptT.run _) _ = _ from runs]
  | told prepared fails told =>
    rw [run_runRequest_of_prepared prepared, fails]
    exact run_report_of_told told

theorem run_of_escapes (h : Escapes r s f s') : (runRequest r).run.run s = (.error f, s') := by
  cases h with
  | log file blocks =>
    refine run_bind_error_iff.mpr (.inl ?_)
    rw [file]
    exact run_of_blocksLog blocks
  | root log unknown =>
    refine run_bind_error_iff.mpr (.inr ⟨(), s', log, run_bind_error_iff.mpr (.inl ?_)⟩)
    unfold inDirectory
    refine run_bind_error_iff.mpr (.inl ?_)
    rw [run_expandHome, unknown]
  | command prepared fails untold =>
    rw [run_runRequest_of_prepared prepared, fails]
    exact run_report_of_untold (isTold_eq_false_of_untold untold)

/-- A command that comes to its end succeeds, or is a batch that tells which of its components failed. -/
theorem ends_of_gives (prepared : Prepared r s p ready)
    (runs : Gives (runCommand p r.command) ready code s') : Ends r s code s' := by
  by_cases several : ∃ files choices, r.command = .generate files choices
  · obtain ⟨files, choices, asked⟩ := several
    have batch := runs
    rw [asked] at batch
    obtain ⟨settings, o, configured, generated, loads, generates,
      ⟨-, rfl⟩ | ⟨failed, rfl, earlier, told⟩⟩ := gives_runGenerate batch
    · exact .done prepared runs
    · exact .batch prepared asked loads generates failed runs told
  · have noBatch : ∀ files choices, r.command ≠ .generate files choices := by
      intro files choices asked
      exact several ⟨files, choices, asked⟩
    obtain rfl : code = 0 := givesOnly_zero noBatch ready code s' runs
    exact .done prepared runs

/-- There is no other way for a request to go. -/
theorem ends_or_escapes (r : Request) (s : Session) :
    (∃ code s', Ends r s code s') ∨ ∃ f s', Escapes r s f s' := by
  rcases configureLog_cases r.verbose r.logFile s with ⟨ready, log⟩ | ⟨path, fault, made, file, blocks⟩
  case inr => exact .inr ⟨_, _, .log file blocks⟩
  cases known : ready.disk.expandHome r.command.root with
  | none => exact .inr ⟨_, _, .root log known⟩
  | some expanded =>
    have root := gives_inDirectory_iff.mpr ⟨expanded, known, rfl, rfl⟩
    have prepared : Prepared r s _ ready := ⟨log, root⟩
    have foreseen := failsAs_runCommand (absolute_of_inDirectory root) r.command ready
    rcases ran : (runCommand ⟨ready.disk.absolute expanded⟩ r.command).run.run ready with
      ⟨f | code, left⟩
    · rcases foreseen f (congrArg Prod.fst ran) with told | untold
      · exact .inl ⟨_, _, .told prepared ran told⟩
      · exact .inr ⟨_, _, .command prepared ran untold⟩
    · exact .inl ⟨code, left, ends_of_gives prepared ran⟩

theorem run_of_accepted {words : List String} (accepted : request words = .ok r) :
    run words = runRequest r := by
  unfold run
  rw [accepted]

/-- A site with a file where a log's directory should be, and a directory where a manifest should be. -/
def blockedSample : Session where
  disk.tree := .directory [("site", .directory [("f", .file (.text "")),
    (Manifest.fileName, .directory [])])]
  disk.here := ["site"]
  disk.home := .ofNames ["home"]
  log := .initial
  now := ⟨2024, 1, 2, 3, 4, 5, 678901, some 0⟩
  output := ""
  errorOutput := ""

/-- How a command line ends there, and what is on the console for errors by then. -/
def endSample (words : List String) : Except Failure Nat × String :=
  let ran := (run words).run.run blockedSample
  (ran.1, ran.2.errorOutput)

end Outcomes

end CommandLine

end PropForge
