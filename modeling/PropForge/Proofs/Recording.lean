import PropForge.Proofs.Confined
import PropForge.Proofs.File.Shape

/-!
# Commands that only record

What a command that looks at the disk leaves is its records:

* `Recording.bind`: a sequence only records if each of its commands does;
* `Recorded.continues`, `Recorded.sameShape`: records touch no file but those that the log is
  written to, and no directory;
* `Unchanged`: so they leave everything else as it was.
-/

namespace PropForge

/-- A session after some records. -/
def Recorded (s s' : Session) : Prop :=
  ∃ records : List LogRecord, s' = records.foldl (fun s r => s.emit r) s

namespace Recorded

variable {s s' s'' : Session}

theorem refl (s : Session) : Recorded s s := ⟨[], rfl⟩

theorem trans (h : Recorded s s') (h' : Recorded s' s'') : Recorded s s'' := by
  obtain ⟨records, rfl⟩ := h
  obtain ⟨more, rfl⟩ := h'
  exact ⟨records ++ more, by rw [List.foldl_append]⟩

/-- What each record keeps all of them keep. -/
theorem induct {R : Session → Session → Prop} (refl : ∀ s, R s s)
    (step : ∀ s s' r, R s s' → R s (s'.emit r)) (h : Recorded s s') : R s s' := by
  obtain ⟨records, rfl⟩ := h
  induction records using List.reverseRecOn with
  | nil => exact refl s
  | append_singleton records r ih =>
    rw [List.foldl_append]
    exact step _ _ r ih

/-- **Records** touch no file but those that the log is written to. -/
theorem continues (h : Recorded s s') : Continues (LoggedTo s) s s' :=
  h.induct (R := fun s s' => Continues (LoggedTo s) s s') (fun s => .refl _ s) fun _ s' r start =>
    start.trans_logged (fun _ hit => hit) (continues_emit s' r)

/-- Records make no file and no directory. -/
theorem sameShape (h : Recorded s s') : s.disk.SameShape s'.disk :=
  h.induct (R := fun s s' => s.disk.SameShape s'.disk) (fun s => .refl s.disk) fun _ s' r start =>
    Disk.Grows.trans start (emit_induct Disk.Grows.refl (fun _ _ _ => Disk.Grows.trans) s' r
      fun d path _ _ _ => Disk.sameShape_append d path _).2.2

end Recorded

/-- Everything is as it was, but for what the log adds to its files. -/
structure Unchanged (s s' : Session) : Prop where
  shape : s.disk.SameShape s'.disk
  rest : Continues (LoggedTo s) s s'

namespace Unchanged

variable {s s' s'' : Session}

theorem trans (h : Unchanged s s') (h' : Unchanged s' s'') : Unchanged s s'' :=
  ⟨Disk.Grows.trans h.shape h'.shape, h.rest.trans_logged (fun _ hit => hit) h'.rest⟩

/-- What can be read at a path is as it was, unless the log goes there. -/
theorem content_eq (h : Unchanged s s') {p : Path} (apart : ¬ LoggedTo s (s.disk.absolute p).names) :
    s'.disk.content p = s.disk.content p :=
  Disk.content_eq_of_sameShape h.shape h.rest.kept apart

end Unchanged

/-- **Records** leave everything else as it was. -/
theorem Recorded.unchanged {s s' : Session} (h : Recorded s s') : Unchanged s s' :=
  ⟨h.sameShape, h.continues⟩

variable {α β : Type} {a : Action α}

/-- Whether or not a command succeeds, it leaves no more than records. -/
def Recording (a : Action α) : Prop := ∀ s, Recorded s (a.run.run s).2

theorem Recording.bind {f : α → Action β} (first : Recording a) (rest : ∀ x, Recording (f x)) :
    Recording (a >>= f) := by
  intro s
  have start := first s
  rcases run_bind_cases a f s with ⟨e, run⟩ | ⟨x, between, one, run⟩
  · rw [run]
    exact start
  · rw [run]
    rw [show a.run.run s = _ from one] at start
    exact start.trans (rest x between)

/-- A command that only records touches no files but those of the log. -/
theorem Recording.confined {touched : List String → Prop} (h : Recording a) (s : Session) :
    Confined touched a s :=
  fun le => (h s).continues.mono le

theorem Recording.recorded {x : α} {s s' : Session} (h : Recording a) (given : Gives a s x s') :
    Recorded s s' := by
  have left := h s
  rwa [show a.run.run s = _ from given] at left

/-- A command that only records, by what it gives. -/
theorem Recording.run_eq {x : α} {s : Session} (h : Recording a)
    (given : (a.run.run s).1 = .ok x) : ∃ s', Recorded s s' ∧ a.run.run s = (.ok x, s') :=
  ⟨_, h s, Prod.ext given rfl⟩

/-- What a sequence gives. -/
theorem result_bind {f : α → Action β} {s : Session} :
    ((a >>= f).run.run s).1 = match (a.run.run s).1 with
      | .ok x => ((f x).run.run (a.run.run s).2).1
      | .error e => .error e := by
  rw [run_bind]
  generalize a.run.run s = r
  obtain ⟨e | x, between⟩ := r <;> rfl

theorem recording_pure (x : α) : Recording (pure x : Action α) := .refl

theorem recording_throw (f : Failure) : Recording (throw f : Action α) := .refl

theorem recording_disk : Recording Action.disk := .refl

theorem recording_get : Recording (get : Action Session) := .refl

theorem recording_log (severity : Severity) (part message : String) :
    Recording (Action.log severity part message) :=
  fun _ => ⟨[⟨severity, LogRecord.loggerName part, message⟩], rfl⟩

theorem recording_expandHome (p : Path) : Recording (Action.expandHome p) := by
  refine recording_disk.bind fun d => ?_
  split
  · exact recording_pure _
  · exact recording_throw _

theorem recording_tryRead (p : Path) : Recording (Action.tryRead p) := by
  refine recording_disk.bind fun d => ?_
  split
  · exact recording_pure _
  · split <;> exact recording_pure _

theorem recording_read (p : Path) : Recording (Action.read p) := by
  refine (recording_tryRead p).bind fun read => ?_
  split
  · exact recording_pure _
  · exact recording_throw _

theorem result_log {severity : Severity} {part message : String} {s : Session} :
    ((Action.log severity part message).run.run s).1 = .ok () := rfl

theorem run_disk {s : Session} : Action.disk.run.run s = (.ok s.disk, s) := rfl

theorem run_pure {x : α} {s : Session} : (pure x : Action α).run.run s = (.ok x, s) := rfl

theorem run_expandHome {p : Path} {s : Session} : (Action.expandHome p).run.run s =
    match s.disk.expandHome p with
    | some q => (.ok q, s)
    | none => (.error Failure.noHome, s) := by
  unfold Action.expandHome
  rw [run_bind]
  change ((match s.disk.expandHome p with
    | some q => pure q
    | none => throw Failure.noHome : Action Path)).run.run s = _
  cases s.disk.expandHome p <;> rfl

theorem run_tryRead {p : Path} {s : Session} :
    (Action.tryRead p).run.run s = (.ok (s.disk.readText p), s) :=
  gives_tryRead_iff.mpr ⟨rfl, rfl⟩

theorem result_read {p : Path} {s : Session} :
    ((Action.read p).run.run s).1 = (s.disk.readText p).mapError .ofRead := by
  unfold Action.read
  rw [run_bind, run_tryRead]
  cases s.disk.readText p <;> rfl

theorem recording_forIn {items : List α} {body : α → Action Unit}
    (h : ∀ item, Recording (body item)) :
    Recording (forIn items PUnit.unit fun item _ => do
      body item
      pure (ForInStep.yield PUnit.unit)) := by
  induction items with
  | nil => exact recording_pure _
  | cons item items ih =>
    rw [List.forIn_cons]
    refine ((h item).bind fun _ => recording_pure _).bind fun step => ?_
    cases step with
    | done x => exact recording_pure _
    | yield x => exact ih

/-- A loop that records something of each item does not fail. -/
theorem result_forIn_log {items : List α} {severity : Severity} {part : String}
    {message : α → String} (s : Session) :
    ((forIn items PUnit.unit fun item _ => do
      Action.log severity part (message item)
      pure (ForInStep.yield PUnit.unit) : Action PUnit).run.run s).1 = .ok PUnit.unit := by
  induction items generalizing s with
  | nil => rfl
  | cons item items ih =>
    rw [List.forIn_cons, result_bind, result_bind, result_log]
    exact ih _

/-- Records leave the time as it is. -/
theorem result_noted {items : List α} {severity severity' : Severity} {part part' note : String}
    (message : α → String) (result : Timestamp → β) (s : Session) :
    ((do
      Action.log severity part note
      for item in items do
        Action.log severity' part' (message item)
      return result (← get).now : Action β).run.run s).1 = .ok (result s.now) := by
  have loop : Recording (forIn items PUnit.unit fun item _ => do
      Action.log severity' part' (message item)
      pure (ForInStep.yield PUnit.unit)) := recording_forIn fun item => recording_log _ _ _
  rw [result_bind, result_log]
  dsimp only
  have first := recording_log severity part note s
  generalize ((Action.log severity part note).run.run s).2 = t at *
  rw [result_bind, result_forIn_log]
  dsimp only
  have now := (first.trans (loop t)).continues.now
  rw [← now]
  rfl

end PropForge
