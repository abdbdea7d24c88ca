import PropForge.Proofs.Project.Single

/-!
# How writing a component ends

Whether the parts of a component can be written depends on where there are files and directories, and
not on what they are generated from:

* `run_writeParts_first`: the directory of a component is made, or nothing is written;
* `Reached`: what other components can change of the disk, below the directory for what is generated;
* `Reached.writeParts`: this changes for no component how writing its parts ends.
-/

namespace PropForge.Project

variable {s : Session} {output directory : Path} {g : Generator}

section Write

variable {name text : String} {parts : List Part}

/-- How writing files into a directory that is there ends. -/
def filesResult (d : Disk) (directory : Path) (names : List String) : Except Failure (List Path) :=
  match names.find? fun name => d.isDirectory (directory.child name) with
  | some name => .error (.disk ⟨.isDirectory, (directory.child name).text⟩)
  | none => .ok (names.map directory.child)

/-- How writing files into a directory ends. -/
def writeResult (d : Disk) (directory : Path) (names : List String) : Except Failure (List Path) :=
  match d.makeDirectories directory with
  | (_, some f) => .error (.disk f)
  | (made, none) => filesResult made directory names

theorem run_makeDirectories : (Action.makeDirectories directory).run.run s =
    match s.disk.makeDirectories directory with
    | (made, none) => (.ok (), { s with disk := made })
    | (made, some f) => (.error (Failure.disk f), { s with disk := made }) := by
  unfold Action.makeDirectories
  rw [run_bind, run_disk]
  dsimp only
  generalize s.disk.makeDirectories directory = r
  obtain ⟨made, fault⟩ := r
  cases fault <;> rfl

theorem run_write {path : Path} : (Action.write path text).run.run s =
    match s.disk.write path (.text text) with
    | .ok written => (.ok (), { s with disk := written })
    | .error f => (.error (Failure.disk f), s) := by
  unfold Action.write Action.change
  rw [run_bind, run_disk]
  dsimp only
  cases s.disk.write path (.text text) <;> rfl

/-- In a directory only another one is in the way of a file. -/
theorem write_child {d : Disk} (named : IsFileName name) (there : d.isDirectory directory = true)
    (c : Content) :
    if d.isDirectory (directory.child name) = true then
      d.write (directory.child name) c = .error ⟨.isDirectory, (directory.child name).text⟩
    else ∃ written, d.write (directory.child name) c = .ok written := by
  have known := Disk.isDirectory_child named there
  obtain ⟨place, found, inside⟩ := Disk.isDirectory_iff.mp there
  have below := Disk.locate_child named found inside
  rw [Disk.absolute_of_locate found, ← FileTree.hasDirectory_iff_kind?] at known
  split
  · rename_i occupied
    obtain ⟨es, occupied⟩ := known.mp occupied
    rw [Disk.write, below]
    dsimp only
    rw [occupied]
  · rename_i free
    refine ⟨_, Disk.write_of_fits below ?_ fun occupied => free (known.mpr occupied)⟩
    rw [List.dropLast_concat]
    exact inside

/-- A part can be rendered whatever is on the disk. -/
theorem run_renderPart (g : Generator) (part : Part) :
    ∃ t, ∀ s, (renderPart none g part).run.run s = (.ok t, s) := by
  obtain ⟨t, rendered⟩ := g.render_bundled part
  exact ⟨t, fun s => gives_renderPart_iff.mpr ⟨rendered, rfl⟩⟩

/-- What the log says of a file that was written. -/
def generatedRecord (path : Path) : LogRecord :=
  ⟨.info, LogRecord.loggerName "generators", s!"Generated {path.text}"⟩

/-- What is to be written goes into a directory that is made first. -/
theorem run_writeInto_first : (writeInto directory name text).run.run s =
    match s.disk.makeDirectories directory with
    | (made, none) => (do
        Action.write (directory.child name) text
        Action.info "generators" s!"Generated {(directory.child name).text}"
        return directory.child name : Action Path).run.run { s with disk := made }
    | (made, some f) => (.error (Failure.disk f), { s with disk := made }) := by
  unfold writeInto
  rw [run_bind, run_makeDirectories]
  generalize s.disk.makeDirectories directory = r
  obtain ⟨made, fault⟩ := r
  cases fault <;> rfl

theorem run_writeInto (ready : s.disk.isDirectory directory = true) :
    (writeInto directory name text).run.run s =
      match s.disk.write (directory.child name) (.text text) with
      | .ok written => (.ok (directory.child name),
          { s with disk := written }.emit (generatedRecord (directory.child name)))
      | .error f => (.error (Failure.disk f), s) := by
  rw [run_writeInto_first, Disk.makeDirectories_of_isDirectory ready]
  dsimp only
  rw [run_bind, run_write]
  cases s.disk.write (directory.child name) (.text text) <;> rfl

theorem filesResult_congr {d d' : Disk} {names : List String}
    (same : ∀ name ∈ names,
      d'.isDirectory (directory.child name) = d.isDirectory (directory.child name)) :
    filesResult d' directory names = filesResult d directory names := by
  have found : (names.find? fun name => d'.isDirectory (directory.child name)) =
      names.find? fun name => d.isDirectory (directory.child name) := by
    induction names with
    | nil => rfl
    | cons name names ih =>
      obtain ⟨first, rest⟩ := List.forall_mem_cons.mp same
      rw [List.find?_cons, List.find?_cons, first, ih rest]
  rw [filesResult, filesResult, found]

/-- New files are not in the way of others. -/
theorem filesResult_of_grows {files : List String → Prop} {d d' : Disk} {names : List String}
    (grows : Disk.Grows files (fun _ => False) d d') (ready : d.isDirectory directory = true)
    (named : ∀ name ∈ names, IsFileName name) :
    filesResult d' directory names = filesResult d directory names := by
  refine filesResult_congr fun name mem => ?_
  rw [Bool.eq_iff_iff, Disk.isDirectory_child (named name mem) ready,
    Disk.isDirectory_child (named name mem) (grows.isDirectory ready),
    Disk.absolute_of_here grows.here]
  exact grows.kind_true_iff not_false

/-- **Writing parts** into a directory that is there: how it ends, and the files that are new. -/
theorem run_writeParts (named : ∀ part, IsFileName (g.fileName part)) (parts : List Part)
    (ready : s.disk.isDirectory directory = true) :
    ((writeParts directory none g parts).run.run s).1 =
        filesResult s.disk directory (parts.map g.fileName) ∧
      Disk.Grows (fun q => ∃ name, q = (s.disk.absolute directory).names ++ [name]) (fun _ => False)
        s.disk ((writeParts directory none g parts).run.run s).2.disk := by
  induction parts generalizing s with
  | nil => exact ⟨rfl, .refl s.disk⟩
  | cons first rest ih =>
    obtain ⟨t, render⟩ := run_renderPart g first
    have step := write_child (named first) ready (.text t)
    rw [writeParts, run_bind, render]
    dsimp only
    rw [run_bind, run_writeInto ready]
    rw [filesResult, List.map_cons, List.find?_cons]
    cases occupied : s.disk.isDirectory (directory.child (g.fileName first)) with
    | true =>
      rw [if_pos occupied] at step
      rw [step]
      exact ⟨rfl, .refl s.disk⟩
    | false =>
      rw [if_neg (by rw [occupied]; exact Bool.false_ne_true)] at step
      obtain ⟨written, wrote⟩ := step
      rw [wrote]
      dsimp only
      generalize logged : ({ s with disk := written } : Session).emit
        (generatedRecord (directory.child (g.fileName first))) = between
      have recorded : Recorded { s with disk := written } between := ⟨[_], logged.symm⟩
      have stored : Disk.Grows _ (fun _ => False) s.disk written := Disk.grows_write wrote
      rw [Disk.absolute_child (named first)] at stored
      have grown : Disk.Grows (fun q => ∃ name, q = (s.disk.absolute directory).names ++ [name])
          (fun _ => False) s.disk between.disk :=
        (stored.mono (fun q same => ⟨_, same⟩) fun _ no => no).trans recorded.sameShape.grows
      obtain ⟨result, more⟩ := ih (grown.isDirectory ready)
      rw [Disk.absolute_of_here grown.here] at more
      rw [filesResult_of_grows grown ready fun name mem => by
        obtain ⟨part, -, rfl⟩ := List.mem_map.mp mem
        exact named part] at result
      rw [run_bind]
      generalize (writeParts directory none g rest).run.run between = r at *
      obtain ⟨ended, after⟩ := r
      subst result
      unfold filesResult
      cases (rest.map g.fileName).find? fun name => s.disk.isDirectory (directory.child name) with
      | some name => exact ⟨rfl, grown.trans more⟩
      | none => exact ⟨rfl, grown.trans more⟩

/-- **Writing parts** makes their directory first: this cannot be done, or what happens afterwards
depends on what is in it. -/
theorem run_writeParts_first (directory : Path) (named : ∀ part, IsFileName (g.fileName part))
    (wanted : parts ≠ []) (s : Session) :
    (∃ made f, s.disk.makeDirectories directory = (made, some f) ∧
      (writeParts directory none g parts).run.run s =
        (.error (.disk f), { s with disk := made })) ∨
    ∃ made, s.disk.makeDirectories directory = (made, none) ∧
      ((writeParts directory none g parts).run.run s).1 =
        filesResult made directory (parts.map g.fileName) ∧
      Disk.Grows (fun q => ∃ name, q = (s.disk.absolute directory).names ++ [name]) (fun _ => False)
        made ((writeParts directory none g parts).run.run s).2.disk := by
  obtain ⟨part, rest, rfl⟩ := List.exists_cons_of_ne_nil wanted
  obtain ⟨t, render⟩ := run_renderPart g part
  have rendered (s : Session) : (writeParts directory none g (part :: rest)).run.run s =
      match (writeInto directory (g.fileName part) t).run.run s with
      | (.ok path, between) => (do
          return path :: (← writeParts directory none g rest) : Action _).run.run between
      | (.error f, between) => (.error f, between) := by
    rw [writeParts, run_bind, render]
    dsimp only
    rw [run_bind]
    generalize (writeInto directory (g.fileName part) t).run.run s = r
    obtain ⟨result, between⟩ := r
    cases result <;> rfl
  have here := (Disk.kept_makeDirectories s.disk directory).here
  cases prepared : s.disk.makeDirectories directory with
  | mk made fault =>
    cases fault with
    | some f =>
      refine .inl ⟨made, f, rfl, ?_⟩
      rw [rendered, run_writeInto_first, prepared]
    | none =>
      have ready := Disk.isDirectory_of_makeDirectories prepared
      -- it is all the same if the directory was there before
      have same : (writeParts directory none g (part :: rest)).run.run s =
          (writeParts directory none g (part :: rest)).run.run { s with disk := made } := by
        rw [rendered, rendered, run_writeInto_first, run_writeInto_first, prepared,
          Disk.makeDirectories_of_isDirectory ready]
      rw [prepared] at here
      obtain ⟨result, grown⟩ := run_writeParts (s := { s with disk := made }) named (part :: rest) ready
      rw [Disk.absolute_of_here here] at grown
      rw [same]
      exact .inr ⟨made, rfl, result, grown⟩

end Write

section Reached

variable {d₀ d d' made : Disk} {name : String} {names : List String}

/-- New are only directories of components and files in them. -/
def Below (output : Path) (d d' : Disk) : Prop :=
  Disk.Grows (fun q => ∃ name file, q = (d.absolute output).names ++ [name, file])
    (fun q => ∃ name, q = (d.absolute output).names ++ [name]) d d'

/-- What a batch makes of a disk: nothing is new, or the directory for what is generated is there,
and what is new besides it is in it. -/
def Reached (output : Path) (d₀ d : Disk) : Prop :=
  d₀.SameShape d ∨ ∃ made, d₀.makeDirectories output = (made, none) ∧ Below output made d

theorem Reached.sameShape (h : Reached output d₀ d) (same : d.SameShape d') :
    Reached output d₀ d' := by
  rcases h with h | ⟨made, prepared, grown⟩
  · exact .inl (Disk.Grows.trans h same)
  · exact .inr ⟨made, prepared, grown.trans same.grows⟩

/-- If the directory for what is generated can be made at first, then it can be made later. -/
theorem Reached.ready (h : Reached output d₀ d) (prepared : d₀.makeDirectories output = (made, none)) :
    ∃ made', d.makeDirectories output = (made', none) ∧ Below output made made' := by
  rcases h with same | ⟨made', prepared', grown⟩
  · obtain ⟨shape, fault⟩ := Disk.makeDirectories_congr same output
    rw [prepared] at shape fault
    exact ⟨_, Prod.ext rfl fault, shape.grows⟩
  · cases prepared.symm.trans prepared'
    have there := Disk.isDirectory_of_makeDirectories prepared
    exact ⟨d, Disk.makeDirectories_of_isDirectory (grown.isDirectory there), grown⟩

/-- If it cannot be made, and nothing is made in the attempt, then nothing is ever made. -/
theorem Reached.stuck {f : DiskFault} (h : Reached output d₀ d)
    (fault : d₀.makeDirectories output = (d₀, some f)) (name : String) :
    d₀.SameShape (d.makeDirectories (output.child name)).1 ∧
      ∃ f', (d₀.makeDirectories (output.child name)).2 = some f' ∧
        (d.makeDirectories (output.child name)).2 = some f' := by
  rcases h with same | ⟨made, prepared, -⟩
  · obtain ⟨f', below⟩ : ∃ f', d₀.makeDirectories (output.child name) = (d₀, some f') :=
      Disk.makeDirectories_child_of_fault fault
    obtain ⟨shape, faults⟩ := Disk.makeDirectories_congr same (output.child name)
    rw [below] at shape faults
    exact ⟨shape, f', congrArg Prod.snd below, faults⟩
  · cases fault.symm.trans prepared

/-- Whether a component has a directory depends on what was there at first. -/
theorem Below.settle (h : Below output made d) (there : made.isDirectory output = true)
    (named : IsFileName name) :
    (d.settleDirectory (output.child name)).2 = (made.settleDirectory (output.child name)).2 ∧
      Below output made (d.settleDirectory (output.child name)).1 := by
  obtain ⟨place, found, inside⟩ := Disk.isDirectory_iff.mp there
  have old : ¬ ∃ n file, place ++ [name] = place ++ [n, file] := by simp
  constructor
  · rw [Disk.settleDirectory_child named found inside,
      Disk.settleDirectory_child named (h.locate found) (h.hasDirectory inside)]
    rw [Below, Disk.absolute_of_locate found] at h
    simp only [h.kind_false_iff old]
  · refine h.trans (Disk.Grows.mono (Disk.grows_settleDirectory d _) (fun _ no => no) ?_)
    rintro q rfl
    rw [Disk.absolute_child named, Disk.absolute_of_here h.here]
    exact ⟨name, rfl⟩

/-- Whether files are in the way in a directory of a component depends on what was there at first. -/
theorem Below.filesResult_eq (h : Below output made d) (h' : Below output made d')
    (named : IsFileName name) (ready : d.isDirectory (output.child name) = true)
    (ready' : d'.isDirectory (output.child name) = true) (files : ∀ n ∈ names, IsFileName n) :
    filesResult d' (output.child name) names = filesResult d (output.child name) names := by
  refine filesResult_congr fun n mem => ?_
  rw [Bool.eq_iff_iff, Disk.isDirectory_child (files n mem) ready',
    Disk.isDirectory_child (files n mem) ready, Disk.absolute_child named, Disk.absolute_child named,
    Disk.absolute_of_here h.here, Disk.absolute_of_here h'.here]
  have old : ¬ ∃ m, (made.absolute output).names ++ [name] ++ [n] =
      (made.absolute output).names ++ [m] := by simp
  rw [h.kind_true_iff old, h'.kind_true_iff old]

/-- **What is written for a component**, and whether it can be, depends on what was there at first. -/
theorem Reached.writeParts {parts : List Part} (h : Reached output d₀ s.disk)
    (whole : (d₀.makeDirectories output).2 ≠ none → (d₀.makeDirectories output).1 = d₀)
    (named : IsFileName name) (files : ∀ part, IsFileName (g.fileName part)) (wanted : parts ≠ []) :
    ((Project.writeParts (output.child name) none g parts).run.run s).1 =
        writeResult d₀ (output.child name) (parts.map g.fileName) ∧
      Reached output d₀ ((Project.writeParts (output.child name) none g parts).run.run s).2.disk := by
  have run := run_writeParts_first (output.child name) files wanted s
  unfold writeResult
  cases prepared : d₀.makeDirectories output with
  | mk made fault =>
    cases fault with
    | some f =>
      rw [prepared] at whole
      obtain rfl : made = d₀ := whole nofun
      obtain ⟨shape, f', fault, fault'⟩ := h.stuck prepared name
      rcases run with ⟨made', f'', stuck, ran⟩ | ⟨made', ready, -⟩
      · rw [stuck] at shape fault'
        obtain rfl : f'' = f' := Option.some.inj fault'
        rw [ran, ← Prod.eta (made.makeDirectories _), fault]
        exact ⟨rfl, .inl shape⟩
      · rw [ready] at fault'
        cases fault'
    | none =>
      have there := Disk.isDirectory_of_makeDirectories prepared
      obtain ⟨made', prepared', below⟩ := h.ready prepared
      have here : s.disk.here = made.here := by
        have kept := Disk.kept_makeDirectories s.disk output
        rw [prepared'] at kept
        exact kept.here.symm.trans below.here
      obtain ⟨same, settled⟩ := below.settle there named
      obtain ⟨-, settled₀⟩ := Below.settle (.refl made) there named
      rw [Disk.makeDirectories_child prepared'] at run
      rw [Disk.makeDirectories_child prepared]
      generalize component : made.settleDirectory (output.child name) = r at *
      obtain ⟨d₁, fault⟩ := r
      rcases run with ⟨d₂, f, stuck, ran⟩ | ⟨d₂, ready, result, grown⟩
      · rw [stuck] at same settled
        obtain rfl : some f = fault := same
        rw [ran]
        exact ⟨rfl, .inr ⟨made, prepared, settled⟩⟩
      · rw [ready] at same settled
        obtain rfl : none = fault := same
        have names : ∀ n ∈ parts.map g.fileName, IsFileName n := by
          intro n mem
          obtain ⟨part, -, rfl⟩ := List.mem_map.mp mem
          exact files part
        refine ⟨?_, .inr ⟨made, prepared, settled.trans (grown.mono ?_ fun _ no => no.elim)⟩⟩
        · rw [result]
          exact settled₀.filesResult_eq settled named (Disk.isDirectory_of_settleDirectory component)
            (Disk.isDirectory_of_settleDirectory ready) names
        · rintro q ⟨n, rfl⟩
          rw [Disk.absolute_child named, Disk.absolute_of_here here]
          exact ⟨name, n, by simp⟩

end Reached

end PropForge.Project
