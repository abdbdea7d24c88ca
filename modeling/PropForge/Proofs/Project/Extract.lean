import PropForge.Project.Extract
import PropForge.Proofs.Recording

/-!
# What a schema depends on

A component is described by the text of its file and by the tables. Reading it changes no more than
the log:

* `extractSchema_spec`: what a schema says of a component;
* `extractSchema_again`: the same file gives the same contract, implementation and state.
-/

namespace PropForge.Project

open TypeScript (Source)

variable {s s' : Session} {asked p : Path} {source : Source} {tables : Classification}

/-- The source in a file, as it is read from a disk. -/
def HoldsSource (d : Disk) (p : Path) (source : Source) : Prop :=
  ∃ c text, d.content p = .ok c ∧ c.exactText = .ok text ∧
    source = Source.ofText (dialectOf p) text

section Recording

theorem recording_loadSource (asked : Path) : Recording (loadSource asked) := by
  have refused (f : Failure) (rest : String → Action (Path × Source)) :
      Recording (throw f >>= rest) := fun s => .refl s
  have last (message : String) (x : Path × Source) :
      Recording (Action.debug "extractors.loader" message >>= fun _ => pure x) :=
    (recording_log _ _ _).bind fun _ => recording_pure x
  refine (recording_expandHome asked).bind fun p => recording_disk.bind fun d => ?_
  dsimp only
  split
  · exact fun s => .refl s
  split
  · exact refused _ _
  split
  · exact refused _ _
  refine (recording_pure _).bind fun text => ?_
  split
  · exact (recording_log _ _ _).bind fun _ => last _ _
  · exact last _ _

theorem recording_describe (p : Path) (source : Source) : Recording (describe p tables source) := by
  refine Recording.bind ?_ fun _ => ?_
  · unfold noteChoice
    dsimp only
    split
    · exact recording_log _ _ _
    · exact recording_pure _
  · split
    · exact recording_pure _
    · exact recording_throw _

/-- **Describing a component**, successfully or not, leaves no more than records. -/
theorem recording_extractSchema (asked : Path) : Recording (extractSchema asked tables) := by
  refine (recording_loadSource asked).bind fun ⟨p, source⟩ => ?_
  refine (recording_describe p source).bind fun contract => ?_
  refine (recording_log _ _ _).bind fun _ => ?_
  refine (recording_forIn fun w => recording_log _ _ _).bind fun _ => ?_
  exact recording_get.bind fun _ => recording_pure _

end Recording

theorem loadSource_spec (h : Gives (loadSource asked) s (p, source) s') :
    s.disk.expandHome asked = some p ∧ HoldsSource s.disk p source := by
  unfold loadSource at h
  obtain ⟨found, s₁, expand, h⟩ := gives_bind_iff.mp h
  obtain ⟨expanded, rfl⟩ := gives_expandHome_iff.mp expand
  obtain ⟨d, s₂, disk, h⟩ := gives_bind_iff.mp h
  obtain ⟨rfl, rfl⟩ := gives_disk_iff.mp disk
  dsimp only at h
  split at h
  · obtain ⟨_, _, bad, _⟩ := gives_bind_iff.mp h
    exact absurd bad (not_gives_throw _ _)
  split at h
  · obtain ⟨_, _, bad, _⟩ := gives_bind_iff.mp h
    exact absurd bad (not_gives_throw _ _)
  rename_i c held
  split at h
  · obtain ⟨_, _, bad, _⟩ := gives_bind_iff.mp h
    exact absurd bad (not_gives_throw _ _)
  rename_i text exact
  obtain ⟨_, s₃, same, h⟩ := gives_bind_iff.mp h
  obtain ⟨rfl, rfl⟩ := gives_pure_iff.mp same
  have last {s₁ : Session} {message : String} (h : Gives (Action.debug "extractors.loader" message >>=
      fun _ => pure (found, Source.ofText (dialectOf found) text)) s₁ (p, source) s') :
      (found, Source.ofText (dialectOf found) text) = (p, source) := by
    obtain ⟨_, between, log, h⟩ := gives_bind_iff.mp h
    exact (gives_pure_iff.mp h).1
  split at h
  · obtain ⟨_, between, log, h⟩ := gives_bind_iff.mp h
    cases last h
    exact ⟨expanded, c, text, held, exact, rfl⟩
  · cases last h
    exact ⟨expanded, c, text, held, exact, rfl⟩

theorem describe_spec {contract : Contract} (h : Gives (describe p tables source) s contract s') :
    Extraction.contract? tables source = some contract := by
  unfold describe at h
  obtain ⟨_, between, note, h⟩ := gives_bind_iff.mp h
  split at h
  · rename_i c found
    obtain ⟨rfl, rfl⟩ := gives_pure_iff.mp h
    exact found
  · exact absurd h (not_gives_throw _ _)

/-- **A schema** says what its source says of the component. -/
theorem extractSchema_spec {schema : Schema} (h : Gives (extractSchema asked tables) s schema s') :
    ∃ p source, s.disk.expandHome asked = some p ∧ HoldsSource s.disk p source ∧
      Extraction.contract? tables source = some schema.contract ∧
      schema.implementation = Extraction.implementation source ∧
      schema.state = Extraction.stateUse source ∧ Continues (LoggedTo s) s s' := by
  have quiet := ((recording_extractSchema asked).recorded h).continues
  unfold extractSchema at h
  obtain ⟨⟨p, source⟩, s₁, load, h⟩ := gives_bind_iff.mp h
  obtain ⟨expanded, held⟩ := loadSource_spec load
  dsimp only at h
  obtain ⟨contract, s₂, describe, h⟩ := gives_bind_iff.mp h
  obtain ⟨_, s₃, log, h⟩ := gives_bind_iff.mp h
  obtain ⟨_, s₄, warn, h⟩ := gives_bind_iff.mp h
  obtain ⟨now, s₅, clock, h⟩ := gives_bind_iff.mp h
  obtain ⟨rfl, rfl⟩ := gives_get_iff.mp clock
  obtain ⟨rfl, rfl⟩ := gives_pure_iff.mp h
  exact ⟨p, source, expanded, held, describe_spec describe, rfl, rfl, quiet⟩

/-- The same file says the same again. -/
theorem extractSchema_again {t t' : Session} {asked' : Path} {schema schema' : Schema}
    (h : Gives (extractSchema asked tables) s schema s')
    (h' : Gives (extractSchema asked' tables) t schema' t')
    (same : t.disk.expandHome asked' = s.disk.expandHome asked)
    (content : ∀ p ∈ s.disk.expandHome asked, ∀ c, s.disk.content p = .ok c →
      t.disk.content p = .ok c) :
    schema'.contract = schema.contract ∧ schema'.implementation = schema.implementation ∧
      schema'.state = schema.state := by
  obtain ⟨p, source, expanded, ⟨c, text, held, exact, rfl⟩, described, implemented, used, -⟩ :=
    extractSchema_spec h
  obtain ⟨p', source', expanded', ⟨c', text', held', exact', rfl⟩, described', implemented', used', -⟩ :=
    extractSchema_spec h'
  obtain rfl := Option.some.inj (expanded'.symm.trans (same.trans expanded))
  obtain rfl := Except.ok.inj (held'.symm.trans (content p' expanded c held))
  obtain rfl := Except.ok.inj (exact'.symm.trans exact)
  refine ⟨Option.some.inj (described'.symm.trans described), ?_, used'.trans used.symm⟩
  exact implemented'.trans implemented.symm

end PropForge.Project
