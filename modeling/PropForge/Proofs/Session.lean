import PropForge.Proofs.File.Disk
import PropForge.Proofs.Number.Digits
import PropForge.Session

/-!
# Commands as runs

`Gives` says that a command ends without a failure, with a result and a session:

* `gives_bind_iff`: a sequence of commands is one run after the other;
* `gives_log_iff`, `gives_write_iff`, `gives_makeDirectories_iff`, `gives_tryRead_iff`: what the
  commands do that work on the log and the disk;
* `LogRecord.isOwn_of_plain`: which records come up to the program's log;
* `continues_emit`, `grown_emit`: a record touches no file but those that the log is written to, and
  adds at most a line to them.
-/

namespace PropForge

/-- A command ends with a result, and with what became of the session. -/
def Gives {α : Type} (a : Action α) (s : Session) (x : α) (s' : Session) : Prop :=
  a.run.run s = (.ok x, s')

section Sequence

variable {α β : Type} {a : Action α} {s s' : Session}

theorem run_bind {f : α → Action β} :
    (a >>= f).run.run s = match a.run.run s with
      | (.ok x, between) => (f x).run.run between
      | (.error e, between) => (.error e, between) := by
  rw [ExceptT.run_bind, StateT.run_bind]
  change (match (a.run.run s) with | (x, s1) => _) = _
  generalize a.run.run s = r
  obtain ⟨x | x, s1⟩ := r <;> rfl

theorem gives_bind_iff {f : α → Action β} {y : β} :
    Gives (a >>= f) s y s' ↔ ∃ x between, Gives a s x between ∧ Gives (f x) between y s' := by
  unfold Gives
  rw [run_bind]
  generalize a.run.run s = r
  obtain ⟨x | x, between⟩ := r
  · constructor
    · intro h; cases h
    · rintro ⟨_, _, h, _⟩; cases h
  · constructor
    · exact fun h => ⟨x, between, rfl, h⟩
    · rintro ⟨_, _, h, rest⟩; cases h; exact rest

/-- What a command gives is settled by the session that it starts from. -/
theorem gives_unique {x y : α} {s'' : Session} (h : Gives a s x s') (h' : Gives a s y s'') :
    x = y ∧ s' = s'' := by
  have same := h.symm.trans h'
  cases same
  exact ⟨rfl, rfl⟩

/-- A run that succeeds, seen by a part of what it gives. -/
theorem exists_gives {part : α → β} {y : β} (h : (a.run.run s).1.toOption.map part = some y) :
    ∃ x s', Gives a s x s' ∧ part x = y := by
  unfold Gives
  generalize a.run.run s = r at *
  obtain ⟨x | x, s'⟩ := r
  · cases h
  · exact ⟨x, s', rfl, Option.some.inj h⟩

theorem exists_fails {f : Failure} (h : (a.run.run s).1 = .error f) :
    ∃ s', a.run.run s = (.error f, s') :=
  ⟨(a.run.run s).2, Prod.ext h rfl⟩

theorem session_of_gives {x : α} (h : Gives a s x s') : s' = (a.run.run s).2 :=
  (congrArg Prod.snd h).symm

theorem gives_pure_iff {x y : α} : Gives (pure x) s y s' ↔ x = y ∧ s = s' := by
  constructor
  · intro h
    cases h
    exact ⟨rfl, rfl⟩
  · rintro ⟨rfl, rfl⟩
    rfl

theorem not_gives_throw (f : Failure) (x : α) : ¬ Gives (throw f) s x s' := by
  intro h
  cases h

theorem gives_get_iff {x : Session} : Gives get s x s' ↔ s = x ∧ s = s' := by
  constructor
  · intro h
    cases h
    exact ⟨rfl, rfl⟩
  · rintro ⟨rfl, rfl⟩
    rfl

theorem gives_modify_iff {f : Session → Session} {x : Unit} :
    Gives (modify f) s x s' ↔ f s = s' := by
  constructor
  · intro h
    cases h
    rfl
  · rintro rfl
    rfl

end Sequence

section Commands

variable {s s' : Session} {p : Path}

theorem gives_disk_iff {d : Disk} : Gives Action.disk s d s' ↔ s.disk = d ∧ s = s' := by
  constructor
  · intro h
    cases h
    exact ⟨rfl, rfl⟩
  · rintro ⟨rfl, rfl⟩
    rfl

theorem gives_expandHome_iff {q : Path} :
    Gives (Action.expandHome p) s q s' ↔ s.disk.expandHome p = some q ∧ s = s' := by
  unfold Action.expandHome
  rw [gives_bind_iff]
  constructor
  · rintro ⟨d, between, first, rest⟩
    obtain ⟨rfl, rfl⟩ := gives_disk_iff.mp first
    split at rest
    · rename_i expanded
      obtain ⟨rfl, rfl⟩ := gives_pure_iff.mp rest
      exact ⟨expanded, rfl⟩
    · exact absurd rest (not_gives_throw _ _)
  · rintro ⟨expanded, rfl⟩
    refine ⟨s.disk, s, gives_disk_iff.mpr ⟨rfl, rfl⟩, ?_⟩
    rw [expanded]
    exact gives_pure_iff.mpr ⟨rfl, rfl⟩

theorem gives_absolute_iff {q : Path} :
    Gives (Action.absolute p) s q s' ↔ s.disk.absolute p = q ∧ s = s' := by
  constructor
  · intro h
    cases h
    exact ⟨rfl, rfl⟩
  · rintro ⟨rfl, rfl⟩
    rfl

theorem gives_log_iff {severity : Severity} {part message : String} {x : Unit} :
    Gives (Action.log severity part message) s x s' ↔
      s.emit ⟨severity, LogRecord.loggerName part, message⟩ = s' :=
  gives_modify_iff

theorem gives_change_iff {f : Disk → Except DiskFault Disk} {x : Unit} :
    Gives (Action.change f) s x s' ↔ ∃ d, f s.disk = .ok d ∧ s' = { s with disk := d } := by
  unfold Action.change
  rw [gives_bind_iff]
  constructor
  · rintro ⟨d, between, first, rest⟩
    obtain ⟨rfl, rfl⟩ := gives_disk_iff.mp first
    split at rest
    · rename_i d changed
      exact ⟨d, changed, (gives_modify_iff.mp rest).symm⟩
    · exact absurd rest (not_gives_throw _ _)
  · rintro ⟨d, changed, rfl⟩
    refine ⟨s.disk, s, gives_disk_iff.mpr ⟨rfl, rfl⟩, ?_⟩
    rw [changed]
    exact gives_modify_iff.mpr rfl

theorem gives_write_iff {text : String} {x : Unit} :
    Gives (Action.write p text) s x s' ↔
      ∃ d, s.disk.write p (.text text) = .ok d ∧ s' = { s with disk := d } :=
  gives_change_iff

theorem gives_makeDirectories_iff {x : Unit} :
    Gives (Action.makeDirectories p) s x s' ↔
      ∃ d, s.disk.makeDirectories p = (d, none) ∧ s' = { s with disk := d } := by
  unfold Action.makeDirectories
  rw [gives_bind_iff]
  constructor
  · rintro ⟨d, between, first, rest⟩
    obtain ⟨rfl, rfl⟩ := gives_disk_iff.mp first
    obtain ⟨d, made⟩ : ∃ d, d = s.disk.makeDirectories p := ⟨_, rfl⟩
    rw [← made] at rest ⊢
    obtain ⟨d, fault⟩ := d
    obtain ⟨_, between, changed, rest⟩ := gives_bind_iff.mp rest
    obtain rfl := gives_modify_iff.mp changed
    cases fault with
    | none => exact ⟨d, rfl, (gives_pure_iff.mp rest).2.symm⟩
    | some f => exact absurd rest (not_gives_throw _ _)
  · rintro ⟨d, made, rfl⟩
    refine ⟨s.disk, s, gives_disk_iff.mpr ⟨rfl, rfl⟩, ?_⟩
    rw [made]
    exact gives_bind_iff.mpr ⟨(), _, gives_modify_iff.mpr rfl, gives_pure_iff.mpr ⟨rfl, rfl⟩⟩

/-- What reading a file gives. -/
def Disk.readText (d : Disk) (p : Path) : Except ReadFault String :=
  match d.content p with
  | .error f => .error (.disk f)
  | .ok c => match c.readText with
    | .error f => .error (.bytes f)
    | .ok text => .ok text

theorem Disk.readText_eq_ok {d : Disk} {text : String} :
    d.readText p = .ok text ↔ ∃ c, d.content p = .ok c ∧ c.readText = .ok text := by
  unfold Disk.readText
  cases d.content p with
  | error f => simp
  | ok c =>
    dsimp only
    cases read : c.readText <;> simp [read]

theorem gives_tryRead_iff {r : Except ReadFault String} :
    Gives (Action.tryRead p) s r s' ↔ s.disk.readText p = r ∧ s = s' := by
  unfold Action.tryRead Disk.readText
  rw [gives_bind_iff]
  constructor
  · rintro ⟨d, between, first, rest⟩
    obtain ⟨rfl, rfl⟩ := gives_disk_iff.mp first
    cases held : s.disk.content p with
    | error f => rw [held] at rest; exact gives_pure_iff.mp rest
    | ok c =>
      rw [held] at rest
      dsimp only at rest ⊢
      cases read : c.readText with
      | error f => rw [read] at rest; exact gives_pure_iff.mp rest
      | ok text => rw [read] at rest; exact gives_pure_iff.mp rest
  · rintro ⟨rfl, rfl⟩
    refine ⟨s.disk, s, gives_disk_iff.mpr ⟨rfl, rfl⟩, ?_⟩
    cases held : s.disk.content p with
    | error f => exact gives_pure_iff.mpr ⟨rfl, rfl⟩
    | ok c =>
      dsimp only
      cases c.readText <;> exact gives_pure_iff.mpr ⟨rfl, rfl⟩

end Commands

namespace LogRecord

/-- From a name one comes up to what its first dot follows, unless a dot follows that one. -/
theorem mem_namesAbove {root : List Char} (named : root ≠ []) (part : List Char)
    (plain : part.getLast? ≠ some '.') : root ∈ namesAbove (part ++ '.' :: root) := by
  fun_induction namesAbove part with
  | case1 d above ih =>
    refine List.mem_cons_of_mem _ (ih ?_)
    cases above with
    | nil => nofun
    | cons e above => simpa using plain
  | case2 c rest apart ih =>
    have dot : c = '.' → rest ≠ [] := by
      rintro rfl rfl
      exact plain rfl
    rw [List.cons_append, namesAbove]
    · refine ih ?_
      cases rest with
      | nil => nofun
      | cons e rest => simpa using plain
    · rintro d above rfl same
      cases rest with
      | nil => exact dot rfl rfl
      | cons e rest => exact apart e rest rfl rfl
  | case3 =>
    obtain ⟨c, rest, rfl⟩ := List.exists_cons_of_ne_nil named
    exact List.mem_cons_self

/-- **Whose records come up**: those of every part of the program whose name does not begin with a
dot. -/
theorem isOwn_of_plain {part : Option String} (plain : ∀ name ∈ part, name.toList.head? ≠ some '.')
    (severity : Severity) (message : String) :
    isOwn ⟨severity, loggerName part, message⟩ = true := by
  unfold isOwn loggerName
  dsimp only
  split
  · rfl
  · rfl
  · rename_i name _
    have last : name.toList.reverse.getLast? ≠ some '.' := by
      rw [List.getLast?_reverse]
      exact plain name rfl
    have named : "pfgen".toList.reverse ≠ [] := by decide
    have found := mem_namesAbove named name.toList.reverse last
    have split : ("pfgen." ++ name).toList.reverse =
        name.toList.reverse ++ '.' :: "pfgen".toList.reverse := by
      rw [String.toList_append, List.reverse_append]
      rfl
    rw [split, List.contains_iff_mem.mpr found, Bool.or_true]

end LogRecord

section Records

/-- The places that the log is written to. -/
def LoggedTo (s : Session) (q : List String) : Prop :=
  ∃ path lowest, Handler.file path lowest ∈ s.log.handlers ∧ q = (s.disk.absolute path).names

/-- Until a log is set up it goes to no file. -/
theorem not_loggedTo_of_initial {s : Session} (initial : s.log = .initial) (q : List String) :
    ¬ LoggedTo s q := by
  rintro ⟨path, lowest, mem, -⟩
  rw [initial] at mem
  cases List.mem_singleton.mp mem

/-- A session goes on: its log and its clock stay, and the disk keeps what is not touched. -/
structure Continues (touched : List String → Prop) (s s' : Session) : Prop where
  log : s'.log = s.log
  now : s'.now = s.now
  kept : Disk.Kept touched s.disk s'.disk

namespace Continues

variable {touched more : List String → Prop} {s s' s'' : Session}

theorem refl (touched : List String → Prop) (s : Session) : Continues touched s s :=
  ⟨rfl, rfl, .refl touched s.disk⟩

theorem trans (h : Continues touched s s') (h' : Continues touched s' s'') :
    Continues touched s s'' :=
  ⟨h'.log.trans h.log, h'.now.trans h.now, h.kept.trans h'.kept⟩

theorem mono (h : Continues touched s s') (le : ∀ q, touched q → more q) : Continues more s s' :=
  ⟨h.log, h.now, h.kept.mono le⟩

theorem loggedTo_iff (h : Continues touched s s') (q : List String) :
    LoggedTo s' q ↔ LoggedTo s q := by
  unfold LoggedTo
  simp only [h.log, Disk.absolute_of_here h.kept.here]

/-- Records after something that may itself have written to where the log is written. -/
theorem trans_logged (h : Continues touched s s') (le : ∀ q, LoggedTo s q → touched q)
    (h' : Continues (LoggedTo s') s' s'') : Continues touched s s'' :=
  h.trans (h'.mono fun q hit => le q ((h.loggedTo_iff q).mp hit))

/-- A file that is not touched holds what it held. -/
theorem content (h : Continues touched s s') {p : Path} {c : Content}
    (apart : ¬ touched (s.disk.absolute p).names) (held : s.disk.content p = .ok c) :
    s'.disk.content p = .ok c :=
  Disk.content_of_kept h.kept apart held

theorem absolute (h : Continues touched s s') (p : Path) : s'.disk.absolute p = s.disk.absolute p :=
  Disk.absolute_of_here h.kept.here p

end Continues

theorem continues_write {s : Session} {p : Path} {c : Content} {written : Disk}
    (wrote : s.disk.write p c = .ok written) :
    Continues (· = (s.disk.absolute p).names) s { s with disk := written } :=
  ⟨rfl, rfl, Disk.kept_write wrote⟩

theorem continues_makeDirectories {s : Session} {p : Path} {made : Disk}
    (prepared : s.disk.makeDirectories p = (made, none)) :
    Continues (fun _ => False) s { s with disk := made } := by
  have kept := Disk.kept_makeDirectories s.disk p
  rw [prepared] at kept
  exact ⟨rfl, rfl, kept⟩

/-- A file that was written holds what was written, whatever is recorded afterwards. -/
theorem content_of_stored {touched : List String → Prop} {s before after : Session} {p : Path}
    {c : Content} {written : Disk} (start : Continues touched s before)
    (wrote : before.disk.write p c = .ok written)
    (rest : Continues (LoggedTo { before with disk := written }) { before with disk := written }
      after) (apart : ¬ LoggedTo s (s.disk.absolute p).names) : after.disk.content p = .ok c := by
  have step := continues_write wrote
  refine rest.content (fun hit => apart ?_) (Disk.content_of_write wrote)
  rw [step.loggedTo_iff, start.loggedTo_iff, step.absolute, start.absolute] at hit
  exact hit

/-- A record is handed to one handler after the other, each of which at most adds to a file. -/
theorem emit_induct {R : Disk → Disk → Prop} (refl : ∀ d, R d d)
    (trans : ∀ a b c, R a b → R b c → R a c) (s : Session) (r : LogRecord)
    (append : ∀ d path lowest, Handler.file path lowest ∈ s.log.handlers →
      d.here = s.disk.here → R d (d.append path (r.fileLine s.now))) :
    (s.emit r).log = s.log ∧ (s.emit r).now = s.now ∧ R s.disk (s.emit r).disk := by
  have hand (handlers : List Handler) (all : ∀ h ∈ handlers, h ∈ s.log.handlers) (t : Session)
      (here : t.disk.here = s.disk.here) (clock : t.now = s.now) :
      (handlers.foldl (·.handle r) t).log = t.log ∧ (handlers.foldl (·.handle r) t).now = t.now ∧
        R t.disk (handlers.foldl (·.handle r) t).disk := by
    induction handlers generalizing t with
    | nil => exact ⟨rfl, rfl, refl t.disk⟩
    | cons h handlers ih =>
      have one : (t.handle r h).log = t.log ∧ (t.handle r h).now = t.now ∧
          (t.handle r h).disk.here = t.disk.here ∧ R t.disk (t.handle r h).disk := by
        cases h with
        | silent => exact ⟨rfl, rfl, rfl, refl t.disk⟩
        | console lowest => unfold Session.handle; dsimp only; split <;> exact ⟨rfl, rfl, rfl, refl _⟩
        | file path lowest =>
          unfold Session.handle
          dsimp only
          split
          · exact ⟨rfl, rfl, (Disk.kept_append t.disk path _).here,
              clock ▸ append t.disk path lowest (all _ List.mem_cons_self) here⟩
          · exact ⟨rfl, rfl, rfl, refl _⟩
      obtain ⟨log, now, same, step⟩ := one
      obtain ⟨log', now', rest⟩ := ih (fun h hh => all h (List.mem_cons_of_mem _ hh))
        (t.handle r h) (same.trans here) (now.trans clock)
      exact ⟨log'.trans log, now'.trans now, trans _ _ _ step rest⟩
  unfold Session.emit
  split
  · split
    · exact hand s.log.handlers (fun _ h => h) s rfl rfl
    · exact ⟨rfl, rfl, refl s.disk⟩
  · split <;> exact ⟨rfl, rfl, refl s.disk⟩

/-- **A record** touches no file but those that the log is written to. -/
theorem continues_emit (s : Session) (r : LogRecord) : Continues (LoggedTo s) s (s.emit r) := by
  obtain ⟨log, now, kept⟩ := emit_induct (R := Disk.Kept (LoggedTo s)) (.refl _)
    (fun _ _ _ => .trans) s r fun d path lowest mem here =>
      (Disk.kept_append d path _).mono fun q hit =>
        ⟨path, lowest, mem, by rw [hit, Disk.absolute_of_here here]⟩
  exact ⟨log, now, kept⟩

/-- A record that passes goes to the one file that the log is written to. -/
theorem emit_of_file {s : Session} {r : LogRecord} {p : Path} {lowest least : Severity}
    (own : r.isOwn = true) (log : s.log = ⟨lowest, [.file p least]⟩)
    (shown : lowest.passes r.severity = true) (through : least.passes r.severity = true) :
    s.emit r = { s with disk := s.disk.append p (r.fileLine s.now) } := by
  have least : s.log.lowest = lowest := congrArg Log.lowest log
  have handlers : s.log.handlers = [.file p _] := congrArg Log.handlers log
  rw [Session.emit, if_pos own, least, handlers, if_pos shown, List.foldl_cons, List.foldl_nil,
    Session.handle, if_pos through]

/-- Such a record follows what the file held. -/
theorem content_emit_of_file {s : Session} {r : LogRecord} {p : Path} {lowest least : Severity}
    {text : String} (own : r.isOwn = true) (log : s.log = ⟨lowest, [.file p least]⟩)
    (shown : lowest.passes r.severity = true) (through : least.passes r.severity = true)
    (dir : s.disk.isDirectory p.parent = true) (held : s.disk.content p = .ok (.text text)) :
    (s.emit r).disk.content p = .ok (.text (text ++ r.fileLine s.now)) := by
  rw [emit_of_file own log shown through]
  exact Disk.content_append (Disk.hasDirectory_start dir) held _

/-- What records add to a file: lines, the first of which starts with the year. -/
def IsLogText (text : String) : Prop := ∀ c ∈ text.toList.head?, c.isDigit = true

theorem isLogText_empty : IsLogText "" := fun _ h => by cases h

theorem IsLogText.append {text more : String} (h : IsLogText text) (h' : IsLogText more) :
    IsLogText (text ++ more) := by
  intro c hc
  rw [String.toList_append, List.head?_append, Option.mem_def, Option.or_eq_some_iff] at hc
  rcases hc with hc | ⟨-, hc⟩
  · exact h c hc
  · exact h' c hc

/-- A line starts with the year. -/
theorem fileLine_eq_cons (now : Timestamp) (r : LogRecord) :
    ∃ c rest, (r.fileLine now).toList = c :: rest ∧ c.isDigit = true := by
  obtain ⟨year, rest, first⟩ := List.exists_cons_of_ne_nil (Number.padded_ne_nil 4 now.year)
  have digit : year.isDigit = true :=
    Number.isDigit_of_mem_padded (first ▸ List.mem_cons_self : year ∈ Number.padded 4 now.year)
  unfold LogRecord.fileLine LogRecord.stamp
  simp only [toString, String.toList_append, String.toList_ofList, first, List.cons_append]
  exact ⟨year, _, rfl, digit⟩

theorem isLogText_fileLine (now : Timestamp) (r : LogRecord) : IsLogText (r.fileLine now) := by
  obtain ⟨year, rest, line, digit⟩ := fileLine_eq_cons now r
  intro c hc
  rw [line] at hc
  cases hc
  exact digit

theorem fileLine_ne_empty (now : Timestamp) (r : LogRecord) : r.fileLine now ≠ "" := by
  obtain ⟨year, rest, line, -⟩ := fileLine_eq_cons now r
  rintro none
  rw [none] at line
  cases line

/-- Files at most grow, by what records add to them. -/
structure Disk.Grown (d d' : Disk) : Prop where
  absent : ∀ q, FileTree.file? q d.tree = none → FileTree.file? q d'.tree = none
  text : ∀ q t, FileTree.file? q d.tree = some (.text t) →
    ∃ more, IsLogText more ∧ FileTree.file? q d'.tree = some (.text (t ++ more))

namespace Disk.Grown

theorem refl (d : Disk) : Grown d d where
  absent _ h := h
  text _ t h := ⟨"", isLogText_empty, by rw [String.append_empty, h]⟩

theorem trans {a b c : Disk} (h : Grown a b) (h' : Grown b c) : Grown a c where
  absent q none := h'.absent q (h.absent q none)
  text q t held := by
    obtain ⟨more, log, held⟩ := h.text q t held
    obtain ⟨last, log', held⟩ := h'.text q _ held
    exact ⟨more ++ last, log.append log', by rw [held, String.append_assoc]⟩

theorem append {line : String} (log : IsLogText line) (d : Disk) (p : Path) :
    Grown d (d.append p line) where
  absent q none := by
    rcases Disk.file?_append d p line q with same | ⟨c, held, -⟩
    · exact same.trans none
    · rw [held] at none
      cases none
  text q t held := by
    rcases Disk.file?_append d p line q with same | ⟨c, held', grown⟩
    · exact ⟨"", isLogText_empty, by rw [same, held, String.append_empty]⟩
    · rw [held] at held'
      cases held'
      exact ⟨line, log, grown⟩

end Disk.Grown

/-- A record makes no file, and adds no more than a line to one. -/
theorem grown_emit (s : Session) (r : LogRecord) : Disk.Grown s.disk (s.emit r).disk :=
  (emit_induct .refl (fun _ _ _ => .trans) s r fun d path _ _ _ =>
    .append (isLogText_fileLine s.now r) d path).2.2

theorem continues_log {severity : Severity} {part message : String} {s s' : Session} {x : Unit}
    (h : Gives (Action.log severity part message) s x s') : Continues (LoggedTo s) s s' := by
  obtain rfl := gives_log_iff.mp h
  exact continues_emit s _

end Records

end PropForge
