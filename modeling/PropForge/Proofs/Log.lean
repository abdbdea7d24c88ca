import PropForge.Proofs.Session

/-!
# What the log delivers

The log is set up again and again, and in between records are given to it:

* `SetUp.InForce`: what a session is like while a set-up is in force;
* `inForce_of_configureLog`, `InForce.emit`: setting the log up brings that about, and a record keeps it;
* `configured_delivers`: so each record is shown once, or not at all, as the set-up in force says, and
  is added to its log file and to no other;
* `record_unheard`: a part whose name begins with a dot is not heard.
-/

namespace PropForge

open FileTree

/-- How the log is set up. -/
structure SetUp where
  verbose : Bool
  file : Option Path

/-- A part's name does not begin with a dot. -/
def IsPartName (part : Option String) : Prop := ∀ name ∈ part, name.toList.head? ≠ some '.'

/-- What is done to the log. -/
inductive LogStep where
  | configure (u : SetUp)
  | record (severity : Severity) (part : Option String) (message : String)

namespace LogStep

def run : LogStep → Action Unit
  | configure u => Action.configureLog u.verbose u.file
  | record severity part message => modify (·.emit ⟨severity, LogRecord.loggerName part, message⟩)

/-- All steps in turn. -/
def runAll : List LogStep → Action Unit
  | [] => pure ()
  | step :: rest => do
    step.run
    runAll rest

end LogStep

namespace SetUp

/-- The least severity that the console shows. -/
def console (u : SetUp) : Severity := if u.verbose then .debug else .info

/-- The place of the log file. -/
def place? (u : SetUp) (d : Disk) : Option (List String) :=
  u.file.map fun p => (d.absolute p).names

/-- The records of some steps, each with the set-up that is in force when it is made. -/
def recordsFrom : SetUp → List LogStep → List (SetUp × LogRecord)
  | _, [] => []
  | _, .configure u :: rest => recordsFrom u rest
  | u, .record severity part message :: rest =>
    (u, ⟨severity, LogRecord.loggerName part, message⟩) :: recordsFrom u rest

/-- The lines on the console: one for each record that the set-up in force shows there. -/
def consoleLines (u : SetUp) (steps : List LogStep) : List String :=
  ((u.recordsFrom steps).filter fun (u, r) => u.console.passes r.severity).map fun (_, r) =>
    r.consoleLine

/-- The lines for a place: one for each record that is made while the log file is there. -/
def fileLines (u : SetUp) (s : Session) (q : List String) (steps : List LogStep) : List String :=
  ((u.recordsFrom steps).filter fun (u, _) => u.place? s.disk = some q).map fun (_, r) =>
    r.fileLine s.now

/-- What a place holds once log files are opened: nothing is lost, and a file that was not there is
empty. -/
def opened (d : Disk) (q : List String) (us : List SetUp) (held : Option Content) : Option Content :=
  if ∃ u ∈ us, u.place? d = some q then held.or (some (.text "")) else held

/-- The set-ups of some steps. -/
def setUpsIn (steps : List LogStep) : List SetUp :=
  steps.filterMap fun
    | .configure u => some u
    | .record .. => none

/-- What a file holds after lines are added to it. -/
def withLines (lines : List String) (c : Content) : Content :=
  lines.foldl (fun c line => c.append line) c

/-- What the log is like while a set-up is in force. -/
def log (u : SetUp) (d : Disk) : Log where
  lowest := if u.file.isSome then .debug else u.console
  handlers := .console u.console :: (u.file.map fun p => .file (d.absolute p) .debug).toList

/-- A set-up is in force in a session that goes on from another one. -/
structure InForce (u : SetUp) (start s : Session) : Prop where
  here : s.disk.here = start.disk.here
  now : s.now = start.now
  log : s.log = u.log start.disk
  there : ∀ q, u.place? start.disk = some q →
    HasDirectory [] s.disk.tree ∧ ∃ c, file? q s.disk.tree = some c

variable {u : SetUp} {start s s' : Session} {r : LogRecord}

theorem handle_console (r : LogRecord) (s : Session) (lowest : Severity) :
    s.handle r (.console lowest) = { s with
      errorOutput := s.errorOutput ++ if lowest.passes r.severity then r.consoleLine else "" } := by
  unfold Session.handle
  dsimp only
  split
  · rfl
  · rw [String.append_empty]

theorem handle_file (r : LogRecord) (s : Session) (p : Path) :
    s.handle r (.file p .debug) = { s with disk := s.disk.append p (r.fileLine s.now) } := by
  have all : Severity.debug.passes r.severity = true := by cases r.severity <;> rfl
  unfold Session.handle
  dsimp only
  rw [if_pos all]

/-- Of what the log lets through no handler would show what the log keeps back. -/
theorem InForce.emit_eq (h : u.InForce start s) (own : r.isOwn = true) :
    s.emit r = { s with
      errorOutput := s.errorOutput ++ if u.console.passes r.severity then r.consoleLine else ""
      disk := u.file.elim s.disk fun p =>
        s.disk.append (start.disk.absolute p) (r.fileLine s.now) } := by
  have lowest := congrArg Log.lowest h.log
  have handlers := congrArg Log.handlers h.log
  unfold Session.emit
  rw [if_pos own, lowest, handlers]
  unfold SetUp.log
  cases u.file with
  | none =>
    change (if u.console.passes r.severity then s.handle r (.console u.console) else s) = _
    rw [handle_console]
    split
    · rfl
    · rw [String.append_empty]
      rfl
  | some p =>
    have all : Severity.debug.passes r.severity = true := by cases r.severity <;> rfl
    change (if Severity.debug.passes r.severity then (s.handle r (.console u.console)).handle r
      (.file (start.disk.absolute p) .debug) else s) = _
    rw [if_pos all, handle_console, handle_file]
    rfl

/-- **A record** is shown on the console if it is severe enough, is added to the log file if there is
one, and to no other; the set-up stays in force. -/
theorem InForce.emit (h : u.InForce start s) (plain : ".." ∉ start.disk.here)
    (own : r.isOwn = true) :
    u.InForce start (s.emit r) ∧
    (s.emit r).errorOutput =
      s.errorOutput ++ (if u.console.passes r.severity then r.consoleLine else "") ∧
    ∀ q, file? q (s.emit r).disk.tree =
      if u.place? start.disk = some q then (file? q s.disk.tree).map (·.append (r.fileLine start.now))
      else file? q s.disk.tree := by
  rw [h.emit_eq own]
  cases file : u.file with
  | none =>
    have nowhere : u.place? start.disk = none := by rw [place?, file]; rfl
    refine ⟨⟨h.here, h.now, h.log, h.there⟩, rfl, fun q => ?_⟩
    rw [nowhere]
    rfl
  | some p =>
    have place : u.place? start.disk = some (start.disk.absolute p).names := by rw [place?, file]; rfl
    obtain ⟨root, c, held⟩ := h.there _ place
    have root' : HasDirectory (s.disk.start (start.disk.absolute p)) s.disk.tree := by
      rw [Disk.start_absolute]
      exact root
    have grown := Disk.content_append root' ((Disk.content_absolute_iff plain).mpr held) (r.fileLine s.now)
    rw [Disk.content_absolute_iff plain] at grown
    have kept := Disk.kept_append s.disk (start.disk.absolute p) (r.fileLine s.now)
    refine ⟨⟨kept.here.trans h.here, h.now, h.log, ?_⟩, rfl, ?_⟩
    · intro q at_place
      cases place.symm.trans at_place
      exact ⟨kept.directory [] root, c.append (r.fileLine s.now), grown⟩
    · intro q
      by_cases at_place : u.place? start.disk = some q
      · rw [if_pos at_place]
        cases place.symm.trans at_place
        rw [held, ← h.now]
        exact grown
      · rw [if_neg at_place]
        refine kept.file q fun hit => at_place ?_
        rw [place, hit, Disk.names_absolute_again plain]

/-- What setting the log up does: the log file is made, with the directories above it, if it is not
there. -/
theorem gives_configureLog (h : Gives (Action.configureLog u.verbose u.file) s () s') :
    ∃ d, s' = { s with log := u.log d, disk := d } ∧
      u.file.elim (d = s.disk) fun p => ∃ made, s.disk.makeDirectories p.parent = (made, none) ∧
        (made.isFile (made.absolute p) = true ∧ d = made ∨
          made.isFile (made.absolute p) = false ∧
            made.write (made.absolute p) (.text "") = .ok d) := by
  unfold Action.configureLog at h
  obtain ⟨_, s₁, shown, h⟩ := gives_bind_iff.mp h
  obtain rfl := gives_modify_iff.mp shown
  unfold SetUp.log
  cases file : u.file with
  | none =>
    rw [file] at h
    obtain rfl := gives_modify_iff.mp h
    exact ⟨s.disk, rfl, rfl⟩
  | some p =>
    rw [file] at h
    obtain ⟨_, s₂, directories, h⟩ := gives_bind_iff.mp h
    obtain ⟨made, prepared, rfl⟩ := gives_makeDirectories_iff.mp directories
    obtain ⟨_, s₃, absolute, h⟩ := gives_bind_iff.mp h
    obtain ⟨rfl, rfl⟩ := gives_absolute_iff.mp absolute
    obtain ⟨_, s₄, seen, h⟩ := gives_bind_iff.mp h
    obtain ⟨rfl, rfl⟩ := gives_disk_iff.mp seen
    dsimp only at h
    split at h
    · rename_i absent
      obtain ⟨_, s₅, opens, h⟩ := gives_bind_iff.mp h
      obtain ⟨d, wrote, rfl⟩ := gives_write_iff.mp opens
      obtain rfl := gives_modify_iff.mp h
      have here := (Disk.kept_write wrote).here
      refine ⟨d, ?_, made, prepared, .inr ⟨by simpa using absent, wrote⟩⟩
      rw [Option.map_some, Disk.absolute_of_here here]
      rfl
    · rename_i there
      obtain rfl := gives_modify_iff.mp h
      exact ⟨made, rfl, made, prepared, .inl ⟨by simpa using there, rfl⟩⟩

/-- **Opening a log file** leaves it as it is if it is there, and makes it if it is not. No other file is
touched. -/
theorem kept_of_opens {d made opened : Disk} {p : Path} (plain : ".." ∉ d.here)
    (prepared : d.makeDirectories p.parent = (made, none))
    (opens : made.isFile (d.absolute p) = true ∧ opened = made ∨
      made.isFile (d.absolute p) = false ∧ made.write (d.absolute p) (.text "") = .ok opened) :
    Disk.Kept (· = (d.absolute p).names) d opened ∧ HasDirectory [] opened.tree ∧
      file? (d.absolute p).names opened.tree =
        (file? (d.absolute p).names d.tree).or (some (.text "")) := by
  have kept := Disk.kept_makeDirectories d p.parent
  rw [prepared] at kept
  have root := Disk.hasDirectory_nil
    (Disk.hasDirectory_start (Disk.isDirectory_of_makeDirectories prepared))
  rw [← kept.file _ not_false]
  rcases opens with ⟨there, rfl⟩ | ⟨absent, wrote⟩
  · obtain ⟨c, held⟩ := Disk.isFile_iff.mp there
    rw [Disk.content_absolute_iff plain] at held
    rw [held]
    exact ⟨kept.mono fun _ => False.elim, root, rfl⟩
  · have new : file? (d.absolute p).names made.tree = none := by
      by_contra some
      obtain ⟨c, held⟩ := Option.ne_none_iff_exists'.mp some
      rw [Disk.isFile_iff.mpr ⟨c, (Disk.content_absolute_iff plain).mpr held⟩] at absent
      cases absent
    have written := Disk.file?_of_write wrote
    have rest := Disk.kept_write wrote
    rw [Disk.names_absolute_again plain] at written rest
    rw [new, written]
    exact ⟨(kept.mono fun _ => False.elim).trans rest, rest.directory [] root, rfl⟩

/-- **Setting the log up** puts the set-up in force. Of all files it touches the log file alone, and that
one only if it is not there yet. -/
theorem inForce_of_configureLog (plain : ".." ∉ s.disk.here)
    (h : Gives (Action.configureLog u.verbose u.file) s () s') :
    u.InForce s s' ∧ s'.errorOutput = s.errorOutput ∧
    ∀ q, file? q s'.disk.tree = opened s.disk q [u] (file? q s.disk.tree) := by
  obtain ⟨d, rfl, reached⟩ := gives_configureLog h
  unfold opened
  simp only [List.mem_singleton, exists_eq_left]
  cases file : u.file with
  | none =>
    rw [file] at reached
    obtain rfl := reached
    have nowhere : u.place? s.disk = none := by rw [place?, file]; rfl
    rw [nowhere]
    exact ⟨⟨rfl, rfl, rfl, fun q at_place => by rw [nowhere] at at_place; cases at_place⟩, trivial,
      fun q => rfl⟩
  | some p =>
    rw [file] at reached
    obtain ⟨made, prepared, opens⟩ := reached
    have place : u.place? s.disk = some (s.disk.absolute p).names := by rw [place?, file]; rfl
    have same : made.absolute p = s.disk.absolute p := by
      have kept := Disk.kept_makeDirectories s.disk p.parent
      rw [prepared] at kept
      exact Disk.absolute_of_here kept.here p
    rw [same] at opens
    obtain ⟨kept, root, held⟩ := kept_of_opens plain prepared opens
    refine ⟨⟨kept.here, rfl, ?_, ?_⟩, trivial, ?_⟩
    · rw [SetUp.log, SetUp.log, file, Option.map_some, Option.map_some,
        Disk.absolute_of_here kept.here]
    · intro q at_place
      cases place.symm.trans at_place
      refine ⟨root, ?_⟩
      rw [held]
      cases file? (s.disk.absolute p).names s.disk.tree with
      | none => exact ⟨.text "", rfl⟩
      | some c => exact ⟨c, rfl⟩
    · intro q
      simp only [place, Option.some.injEq]
      split
      · rename_i at_place
        rw [← at_place, held]
      · rename_i elsewhere
        exact kept.file q (Ne.symm elsewhere)

theorem place?_congr {d d' : Disk} (same : d'.here = d.here) : u.place? d' = u.place? d := by
  simp only [place?, Disk.absolute_of_here same]

/-- A set-up stays in force for whoever looks from an earlier session. -/
theorem InForce.since {earlier : Session} (h : u.InForce start s)
    (here : start.disk.here = earlier.disk.here) (now : start.now = earlier.now) :
    u.InForce earlier s where
  here := h.here.trans here
  now := h.now.trans now
  log := by
    rw [h.log, SetUp.log, SetUp.log]
    simp only [Disk.absolute_of_here here]
  there q at_place := h.there q ((place?_congr here).trans at_place)

theorem opened_nil (d : Disk) (q : List String) (held : Option Content) :
    opened d q [] held = held := by
  unfold opened
  simp

theorem opened_some (d : Disk) (q : List String) (us : List SetUp) (c : Content) :
    opened d q us (some c) = some c := by
  unfold opened
  split <;> rfl

theorem opened_cons (d : Disk) (q : List String) (u : SetUp) (us : List SetUp)
    (held : Option Content) : opened d q us (opened d q [u] held) = opened d q (u :: us) held := by
  unfold opened
  by_cases at_place : u.place? d = some q
  · simp [at_place]
  · simp [at_place]

theorem opened_congr {d d' : Disk} (same : d'.here = d.here) (q : List String) (us : List SetUp)
    (held : Option Content) : opened d' q us held = opened d q us held := by
  simp only [opened, place?_congr same]

variable {severity : Severity} {part : Option String} {message : String} {steps : List LogStep}

theorem consoleLines_record :
    String.join (u.consoleLines (.record severity part message :: steps)) =
      (if u.console.passes severity then
        LogRecord.consoleLine ⟨severity, LogRecord.loggerName part, message⟩ else "") ++
      String.join (u.consoleLines steps) := by
  unfold consoleLines
  rw [recordsFrom.eq_def]
  dsimp only
  rw [List.filter_cons]
  split
  · rw [List.map_cons, String.join_cons]
  · rw [String.empty_append]

theorem fileLines_record {q : List String} :
    u.fileLines start q (.record severity part message :: steps) =
      if u.place? start.disk = some q then
        LogRecord.fileLine start.now ⟨severity, LogRecord.loggerName part, message⟩ ::
          u.fileLines start q steps
      else u.fileLines start q steps := by
  unfold fileLines
  rw [recordsFrom.eq_def]
  dsimp only
  simp only [List.filter_cons, decide_eq_true_eq]
  split <;> rfl

/-- **A run** from a set-up on. -/
theorem InForce.runAll (plain : ".." ∉ start.disk.here) (steps : List LogStep)
    (named : ∀ severity part message, .record severity part message ∈ steps → IsPartName part)
    (h : u.InForce start s) (ran : Gives (LogStep.runAll steps) s () s') :
    ((setUpsIn steps).getLastD u).InForce start s' ∧
    s'.errorOutput = s.errorOutput ++ String.join (u.consoleLines steps) ∧
    ∀ q, file? q s'.disk.tree =
      (opened start.disk q (setUpsIn steps) (file? q s.disk.tree)).map
        (withLines (u.fileLines start q steps)) := by
  induction steps generalizing u s with
  | nil =>
    obtain ⟨-, rfl⟩ := gives_pure_iff.mp ran
    refine ⟨h, String.append_empty.symm, fun q => ?_⟩
    change _ = (opened start.disk q [] _).map id
    rw [opened_nil, Option.map_id, id]
  | cons step rest ih =>
    obtain ⟨_, s₁, first, remaining⟩ := gives_bind_iff.mp ran
    have named' := fun severity part message mem =>
      named severity part message (List.mem_cons_of_mem step mem)
    cases step with
    | configure u' =>
      obtain ⟨inForce, quiet, files⟩ := inForce_of_configureLog (h.here ▸ plain) first
      obtain ⟨last, shown, held⟩ := ih named' (inForce.since h.here h.now) remaining
      refine ⟨?_, shown.trans (by rw [quiet]; rfl), fun q => ?_⟩
      · change ((u' :: setUpsIn rest).getLastD u).InForce start s'
        rw [List.getLastD_cons]
        exact last
      rw [held q, files q, opened_congr h.here, opened_cons]
      rfl
    | record severity part message =>
      obtain rfl := gives_modify_iff.mp first
      have own := LogRecord.isOwn_of_plain (named severity part message List.mem_cons_self) severity
        message
      obtain ⟨inForce, line, files⟩ := h.emit plain own
      obtain ⟨last, shown, held⟩ := ih named' inForce remaining
      refine ⟨last, ?_, ?_⟩
      · rw [shown, line, String.append_assoc, consoleLines_record]
      · intro q
        rw [held q, files q, fileLines_record]
        by_cases at_place : u.place? start.disk = some q
        · obtain ⟨-, c, there⟩ := h.there q at_place
          rw [if_pos at_place, if_pos at_place, there, Option.map_some, opened_some, opened_some]
          rfl
        · rw [if_neg at_place, if_neg at_place]
          rfl

/-- **What a configured log delivers.** A run that starts with a set-up shows one line on the console
for each record that is severe enough for the set-up in force, in order, and nothing else. A file that
is there keeps what it holds; a log file is made where there is none. To each file one line is added for
each record made while it is the log file, and nothing else, so that the log files of other set-ups stay
as they are. So it goes on with the next record. -/
theorem configured_delivers (u : SetUp) (steps : List LogStep) (plain : ".." ∉ s.disk.here)
    (named : ∀ severity part message, .record severity part message ∈ steps → IsPartName part)
    (ran : Gives (LogStep.runAll (.configure u :: steps)) s () s') :
    s'.errorOutput = s.errorOutput ++ String.join (u.consoleLines steps) ∧
    (∀ q, file? q s'.disk.tree =
      (opened s.disk q (u :: setUpsIn steps) (file? q s.disk.tree)).map
        (withLines (u.fileLines s q steps))) ∧
    ∀ severity part message, IsPartName part →
      let last := (setUpsIn steps).getLastD u
      let r : LogRecord := ⟨severity, LogRecord.loggerName part, message⟩
      (s'.emit r).errorOutput =
        s'.errorOutput ++ (if last.console.passes severity then r.consoleLine else "") ∧
      ∀ q, if last.place? s.disk = some q
        then ∃ c, file? q s'.disk.tree = some c ∧
          file? q (s'.emit r).disk.tree = some (c.append (r.fileLine s.now))
        else file? q (s'.emit r).disk.tree = file? q s'.disk.tree := by
  obtain ⟨_, s₁, first, remaining⟩ := gives_bind_iff.mp ran
  obtain ⟨inForce, quiet, files⟩ := inForce_of_configureLog plain first
  obtain ⟨last, shown, held⟩ := inForce.runAll plain steps named remaining
  refine ⟨shown.trans (by rw [quiet]), fun q => ?_, fun severity part message name => ?_⟩
  · rw [held q, files q, opened_cons]
  · obtain ⟨-, line, file⟩ := last.emit plain (LogRecord.isOwn_of_plain name severity message)
    refine ⟨line, fun q => ?_⟩
    have next := file q
    split
    · rename_i at_place
      obtain ⟨-, c, there⟩ := last.there q at_place
      rw [if_pos at_place, there] at next
      exact ⟨c, there, next⟩
    · rename_i elsewhere
      rw [if_neg elsewhere] at next
      exact next

section Sample

/-- An empty site, before the log is set up. -/
def logSample : Session where
  disk.tree := .directory [("site", .directory [])]
  disk.here := ["site"]
  disk.home := .ofNames ["home"]
  log := .initial
  now := ⟨2024, 1, 2, 3, 4, 5, 678901, some 0⟩
  output := ""
  errorOutput := ""

/-- A log file, and few lines on the console. -/
def fileSample : SetUp := ⟨false, some (.ofText "run.log")⟩

/-- Records before and after the log file is given up. -/
def stepsSample : List LogStep :=
  [.record .debug (some "routes") "found", .record .error none "lost", .configure ⟨true, none⟩,
    .record .debug (some "cli") "done"]

theorem configured_delivers_sample : ∃ t,
    Gives (LogStep.runAll (.configure fileSample :: stepsSample)) logSample () t ∧
    t.errorOutput = "[pfgen] ERROR lost\n[pfgen] DEBUG done\n" ∧
    file? ["site", "run.log"] t.disk.tree = some (.text
      ("2024-01-02 03:04:05,678 DEBUG pfgen.routes: found\n" ++
        "2024-01-02 03:04:05,678 ERROR pfgen: lost\n")) := by
  have seen : ((LogStep.runAll (.configure fileSample :: stepsSample)).run.run
    logSample).1.toOption.map id = some () := by decide +kernel
  obtain ⟨_, t, ran, -⟩ := exists_gives seen
  have named : ∀ severity part message, .record severity part message ∈ stepsSample →
      IsPartName part := by
    intro severity part message mem
    unfold stepsSample at mem
    rcases mem with _ | ⟨_, _ | ⟨_, _ | ⟨_, _ | ⟨_, ⟨⟩⟩⟩⟩⟩ <;> simp [IsPartName]
  obtain ⟨shown, files, -⟩ := configured_delivers fileSample stepsSample (by decide) named ran
  refine ⟨t, ran, ?_, ?_⟩
  · rw [shown]
    decide +kernel
  · rw [files]
    decide +kernel

/-- **A part that is not heard**: the dot that its name begins with leads past the program's logger, so
that the record is shown nowhere. -/
theorem record_unheard : ∃ t,
    Gives (LogStep.runAll [.configure fileSample, .record .info (some ".x") "hello"]) logSample () t ∧
    fileSample.console.passes .info = true ∧ t.errorOutput = logSample.errorOutput ∧
    file? ["site", "run.log"] t.disk.tree = some (.text "") := by
  have seen : ((LogStep.runAll [.configure fileSample, .record .info (some ".x") "hello"]).run.run
    logSample).1.toOption.map id = some () := by decide +kernel
  obtain ⟨_, t, ran, -⟩ := exists_gives seen
  have after := session_of_gives ran
  refine ⟨t, ran, rfl, ?_, ?_⟩ <;>
  · rw [after]
    decide +kernel

end Sample

end SetUp

end PropForge
