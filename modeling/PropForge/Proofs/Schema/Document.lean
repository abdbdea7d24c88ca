import Mathlib.Logic.Function.Basic
import PropForge.Calendar
import PropForge.Proofs.Json.RoundTrip
import PropForge.Schema.Document

/-!
# A document tells its schema

Two schemas with the same document are the same:

* `Timestamp.text_injective`: the text of a moment tells the moment, and whether it is universal
  time or none;
* `Schema.toJson_injective`: the JSON value of a schema tells each of its records;
* `Schema.document_injective`: so does the text of that value.
-/

namespace PropForge

/-- A moment of the calendar, in a year of four digits. Its distance from universal time, if that is
known, is less than a day. -/
structure Timestamp.Valid (t : Timestamp) : Prop where
  year : 1 ≤ t.year ∧ t.year ≤ 9999
  month : 1 ≤ t.month ∧ t.month ≤ 12
  day : 1 ≤ t.day ∧ t.day ≤ Calendar.daysIn t.year t.month
  hour : t.hour < 24
  minute : t.minute < 60
  second : t.second < 60
  microsecond : t.microsecond < 1000000
  offset : ∀ m ∈ t.offset, m.natAbs < 24 * 60

/-- A schema whose accessibility map has each name once, and which was read at a moment of the
calendar. -/
structure Schema.Proper (s : Schema) : Prop where
  once : (Assoc.keys s.contract.accessibility).Nodup
  moment : s.provenance.extractedAt.Valid

section Moment

theorem Number.length_padded {width n : Nat} (some : 0 < width) (small : n < 10 ^ width) :
    (Number.padded width n).length = width := by
  have fits : (Number.digits n).length ≤ width := by
    by_cases zero : n = 0
    · subst zero
      simp [Number.digits]
      omega
    · have low := Number.pow_length_digits_le zero
      have less : 10 ^ ((Number.digits n).length - 1) < 10 ^ width := by omega
      have := (Nat.pow_lt_pow_iff_right (by decide)).mp less
      omega
  simp [Number.padded, fits]

theorem Number.padded_injective {width m n : Nat}
    (same : Number.padded width m = Number.padded width n) : m = n := by
  have read := congrArg (Number.ofDigits 10) same
  rwa [Number.ofDigits_padded, Number.ofDigits_padded] at read

/-- A number of a fixed width can be told from what follows it. -/
theorem Number.padded_append_inj {width m n : Nat} {rest rest' : List Char} (some : 0 < width)
    (hm : m < 10 ^ width) (hn : n < 10 ^ width)
    (same : Number.padded width m ++ rest = Number.padded width n ++ rest') :
    m = n ∧ rest = rest' := by
  have lengths := (Number.length_padded some hm).trans (Number.length_padded some hn).symm
  obtain ⟨front, back⟩ := List.append_inj same lengths
  exact ⟨Number.padded_injective front, back⟩

namespace Timestamp

/-- The part of a second. -/
def fractionText (microsecond : Nat) : List Char :=
  if microsecond = 0 then [] else '.' :: Number.padded 6 microsecond

/-- The mark of a distance from universal time. -/
def zoneText : Option Int → List Char
  | none => []
  | some 0 => ['Z']
  | some m => (if m < 0 then '-' else '+') :: Number.padded 2 (m.natAbs / 60) ++
      ':' :: Number.padded 2 (m.natAbs % 60)

theorem toList_text (t : Timestamp) : t.text.toList =
    Number.padded 4 t.year ++ '-' :: (Number.padded 2 t.month ++ '-' :: (Number.padded 2 t.day ++
      'T' :: (Number.padded 2 t.hour ++ ':' :: (Number.padded 2 t.minute ++
        ':' :: (Number.padded 2 t.second ++ (fractionText t.microsecond ++ zoneText t.offset)))))) := by
  unfold text
  rw [String.toList_ofList]
  simp only [List.append_assoc, List.cons_append]
  rfl

theorem zoneText_some {m : Int} (h : m ≠ 0) : zoneText (some m) =
    (if m < 0 then '-' else '+') :: (Number.padded 2 (m.natAbs / 60) ++
      ':' :: Number.padded 2 (m.natAbs % 60)) := by
  unfold zoneText
  split
  · contradiction
  · rename_i zero
    cases zero
    contradiction
  · rename_i same
    cases same
    rfl

/-- A mark of a zone starts with no point, and tells whether there is a zone. -/
theorem zoneText_head (z : Option Int) : (zoneText z).head? ≠ some '.' ∧
    (zoneText z = [] → z = none) ∧ ((zoneText z).head? = some 'Z' → z = some 0) := by
  cases z with
  | none => exact ⟨by decide, fun _ => rfl, by decide⟩
  | some m =>
    by_cases zero : m = 0
    · subst zero
      exact ⟨by decide, by decide, fun _ => rfl⟩
    · rw [zoneText_some zero]
      by_cases negative : m < 0 <;> simp [negative]

theorem zoneText_injective {z z' : Option Int} (h : ∀ m ∈ z, m.natAbs < 24 * 60)
    (h' : ∀ m ∈ z', m.natAbs < 24 * 60) (same : zoneText z = zoneText z') : z = z' := by
  obtain ⟨-, none, universal⟩ := zoneText_head z
  obtain ⟨-, none', universal'⟩ := zoneText_head z'
  match z, z' with
  | .none, z' => exact (none' same.symm).symm
  | z, .none => exact none same
  | some m, some m' =>
    by_cases zero : m = 0
    · subst zero
      exact (universal' (by rw [← same]; rfl)).symm
    by_cases zero' : m' = 0
    · subst zero'
      exact universal (by rw [same]; rfl)
    have small := h m rfl
    have small' := h' m' rfl
    rw [zoneText_some zero, zoneText_some zero', List.cons.injEq] at same
    obtain ⟨sign, clock⟩ := same
    obtain ⟨hours, clock⟩ :=
      Number.padded_append_inj (by decide) (by norm_num; omega) (by norm_num; omega) clock
    have minutes := Number.padded_injective (List.cons.inj clock).2
    have same : m.natAbs = m'.natAbs := by omega
    have signs : m < 0 ↔ m' < 0 := by
      by_cases negative : m < 0 <;> by_cases negative' : m' < 0 <;> simp [negative, negative'] at sign ⊢
    have : m = m' := by omega
    rw [this]

/-- The point of a fraction can be told from the mark of a zone. -/
theorem fractionText_append_inj {n n' : Nat} {z z' : Option Int} (h : n < 1000000)
    (h' : n' < 1000000)
    (same : fractionText n ++ zoneText z = fractionText n' ++ zoneText z') :
    n = n' ∧ zoneText z = zoneText z' := by
  have point := (zoneText_head z).1
  have point' := (zoneText_head z').1
  unfold fractionText at same
  by_cases zero : n = 0 <;> by_cases zero' : n' = 0
  · rw [if_pos zero, if_pos zero'] at same
    exact ⟨zero.trans zero'.symm, same⟩
  · rw [if_pos zero, if_neg zero'] at same
    exact absurd (congrArg List.head? same) point
  · rw [if_neg zero, if_pos zero'] at same
    exact absurd (congrArg List.head? same).symm point'
  · rw [if_neg zero, if_neg zero', List.cons_append, List.cons_append] at same
    exact Number.padded_append_inj (by decide) h h' (List.cons.inj same).2

theorem day_lt {t : Timestamp} (h : t.Valid) : t.day < 10 ^ 2 := by
  have := h.day.2
  have : Calendar.daysIn t.year t.month ≤ 31 := by
    unfold Calendar.daysIn
    repeat' split
    all_goals omega
  omega

/-- **The text of a moment** tells the moment, and its zone or that it has none. -/
theorem text_injective {t t' : Timestamp} (h : t.Valid) (h' : t'.Valid) (same : t.text = t'.text) :
    t = t' := by
  have chars := congrArg String.toList same
  rw [toList_text, toList_text] at chars
  have year := h.year.2
  have year' := h'.year.2
  have month := h.month.2
  have month' := h'.month.2
  have hour := h.hour
  have hour' := h'.hour
  have minute := h.minute
  have minute' := h'.minute
  have second := h.second
  have second' := h'.second
  obtain ⟨years, chars⟩ := Number.padded_append_inj (by decide) (by omega) (by omega) chars
  obtain ⟨months, chars⟩ :=
    Number.padded_append_inj (by decide) (by omega) (by omega) (List.cons.inj chars).2
  obtain ⟨days, chars⟩ :=
    Number.padded_append_inj (by decide) (day_lt h) (day_lt h') (List.cons.inj chars).2
  obtain ⟨hours, chars⟩ :=
    Number.padded_append_inj (by decide) (by omega) (by omega) (List.cons.inj chars).2
  obtain ⟨minutes, chars⟩ :=
    Number.padded_append_inj (by decide) (by omega) (by omega) (List.cons.inj chars).2
  obtain ⟨seconds, chars⟩ :=
    Number.padded_append_inj (by decide) (by omega) (by omega) (List.cons.inj chars).2
  obtain ⟨microseconds, zones⟩ := fractionText_append_inj h.microsecond h'.microsecond chars
  have offsets := zoneText_injective h.offset h'.offset zones
  cases t
  cases t'
  simp_all

end Timestamp

end Moment

section Records

namespace Json

theorem ofOption_injective : Function.Injective ofOption := by
  rintro (_ | a) (_ | b) same
  · rfl
  · cases same
  · cases same
  · rw [Json.string.inj same]

theorem strings_injective : Function.Injective strings := by
  intro ss ss' same
  have items := Json.array.inj same
  exact List.map_injective_iff.mpr (fun _ _ h => Json.string.inj h) items

/-- A list of records is told by the texts of its records, if each record is. -/
theorem array_map_inj {α : Type} {f : α → Json} (inj : Function.Injective f) {xs ys : List α}
    (same : array (xs.map f) = array (ys.map f)) : xs = ys :=
  List.map_injective_iff.mpr inj (Json.array.inj same)

end Json

theorem PropSpec.toJson_injective : Function.Injective PropSpec.toJson := by
  rintro ⟨⟩ ⟨⟩ same
  simp_all [toJson, Json.ofOption_injective.eq_iff]

theorem EventSpec.toJson_injective : Function.Injective EventSpec.toJson := by
  rintro ⟨⟩ ⟨⟩ same
  simp_all [toJson, Json.ofOption_injective.eq_iff]

theorem VariantSpec.toJson_injective : Function.Injective VariantSpec.toJson := by
  rintro ⟨⟩ ⟨⟩ same
  simp_all [toJson, Json.strings_injective.eq_iff]

theorem SlotSpec.toJson_injective : Function.Injective SlotSpec.toJson := by
  rintro ⟨⟩ ⟨⟩ same
  simp_all [toJson, Json.ofOption_injective.eq_iff]

theorem Contract.toJson_injective : Function.Injective Contract.toJson := by
  rintro ⟨⟩ ⟨⟩ same
  simp only [toJson, Json.object.injEq, List.cons.injEq, Prod.mk.injEq, Json.string.injEq,
    true_and, and_true] at same
  obtain ⟨name, props, events, variants, slots, accessibility, description⟩ := same
  have entry : Function.Injective fun entry : String × String => (entry.1, Json.string entry.2) := by
    rintro ⟨_, _⟩ ⟨_, _⟩ h
    simpa using h
  simp only [mk.injEq]
  exact ⟨name, Json.array_map_inj PropSpec.toJson_injective props,
    Json.array_map_inj EventSpec.toJson_injective events,
    Json.array_map_inj VariantSpec.toJson_injective variants,
    Json.array_map_inj SlotSpec.toJson_injective slots,
    List.map_injective_iff.mpr entry accessibility, Json.ofOption_injective description⟩

theorem HookUse.toJson_injective : Function.Injective HookUse.toJson := by
  rintro ⟨⟩ ⟨⟩ same
  simp_all [toJson, Json.strings_injective.eq_iff]

theorem RefUse.toJson_injective : Function.Injective RefUse.toJson := by
  rintro ⟨⟩ ⟨⟩ same
  simp_all [toJson]

theorem ContextUse.toJson_injective : Function.Injective ContextUse.toJson := by
  rintro ⟨⟩ ⟨⟩ same
  simp_all [toJson, Json.ofOption_injective.eq_iff]

theorem ImportUse.toJson_injective : Function.Injective ImportUse.toJson := by
  rintro ⟨⟩ ⟨⟩ same
  simp_all [toJson, Json.strings_injective.eq_iff]

theorem Implementation.toJson_injective : Function.Injective Implementation.toJson := by
  rintro ⟨⟩ ⟨⟩ same
  simp only [toJson, Json.object.injEq, List.cons.injEq, Prod.mk.injEq, Json.string.injEq,
    Json.bool.injEq, true_and, and_true] at same
  obtain ⟨type, forwards, hooks, refs, context, imports⟩ := same
  simp only [mk.injEq]
  exact ⟨type, forwards, Json.array_map_inj HookUse.toJson_injective hooks,
    Json.array_map_inj RefUse.toJson_injective refs,
    Json.array_map_inj ContextUse.toJson_injective context,
    Json.array_map_inj ImportUse.toJson_injective imports⟩

theorem StateVariable.toJson_injective : Function.Injective StateVariable.toJson := by
  rintro ⟨⟩ ⟨⟩ same
  simp_all [toJson, Json.ofOption_injective.eq_iff]

theorem EffectUse.toJson_injective : Function.Injective EffectUse.toJson := by
  rintro ⟨⟩ ⟨⟩ same
  simp_all [toJson, Json.strings_injective.eq_iff]

theorem ContextState.toJson_injective : Function.Injective ContextState.toJson := by
  rintro ⟨⟩ ⟨⟩ same
  simp_all [toJson, Json.ofOption_injective.eq_iff]

theorem DerivedState.toJson_injective : Function.Injective DerivedState.toJson := by
  rintro ⟨⟩ ⟨⟩ same
  simp_all [toJson, Json.strings_injective.eq_iff]

theorem StateUse.toJson_injective : Function.Injective StateUse.toJson := by
  rintro ⟨⟩ ⟨⟩ same
  simp only [toJson, Json.object.injEq, List.cons.injEq, Prod.mk.injEq, true_and, and_true] at same
  obtain ⟨state, context, effects, derived⟩ := same
  simp only [mk.injEq]
  exact ⟨Json.array_map_inj StateVariable.toJson_injective state,
    Json.array_map_inj ContextState.toJson_injective context,
    Json.array_map_inj EffectUse.toJson_injective effects,
    Json.array_map_inj DerivedState.toJson_injective derived⟩

theorem Issue.toJson_injective : Function.Injective Issue.toJson := by
  rintro ⟨⟩ ⟨⟩ same
  simp_all [toJson, Json.ofOption_injective.eq_iff]

theorem Validation.toJson_injective : Function.Injective Validation.toJson := by
  rintro ⟨⟩ ⟨⟩ same
  simp only [toJson, Json.object.injEq, List.cons.injEq, Prod.mk.injEq, true_and, and_true] at same
  obtain ⟨errors, warnings, -⟩ := same
  simp only [mk.injEq]
  exact ⟨Json.array_map_inj Issue.toJson_injective errors,
    Json.array_map_inj Issue.toJson_injective warnings⟩

/-- **The JSON value of a schema** tells the schema, if the moments of both can be told. -/
theorem Schema.toJson_injective {s s' : Schema} (h : s.provenance.extractedAt.Valid)
    (h' : s'.provenance.extractedAt.Valid) (same : s.toJson = s'.toJson) : s = s' := by
  obtain ⟨contract, implementation, state, ⟨source, moment, validation, version⟩⟩ := s
  obtain ⟨contract', implementation', state', ⟨source', moment', validation', version'⟩⟩ := s'
  simp only [toJson, Provenance.toJson, Json.object.injEq, List.cons.injEq, Prod.mk.injEq,
    Json.string.injEq, true_and, and_true] at same
  obtain ⟨contracts, implementations, states, sources, moments, validations, versions⟩ := same
  simp only [mk.injEq, Provenance.mk.injEq]
  exact ⟨Contract.toJson_injective contracts, Implementation.toJson_injective implementations,
    StateUse.toJson_injective states, sources, Timestamp.text_injective h h' moments,
    Validation.toJson_injective validations, versions⟩

end Records

section Document

namespace Json

@[simp] theorem wellFormed_string (s : String) : WellFormed (string s) := .string s

@[simp] theorem wellFormed_bool (b : Bool) : WellFormed (bool b) := .bool b

@[simp] theorem wellFormed_ofOption (s : Option String) : WellFormed (ofOption s) := by
  cases s with
  | none => exact .null
  | some s => exact .string s

@[simp] theorem wellFormed_array_iff {items : List Json} :
    WellFormed (array items) ↔ ∀ v ∈ items, WellFormed v := by
  constructor
  · intro h
    cases h with
    | array all => exact all
  · exact .array

@[simp] theorem wellFormed_object_iff {fields : List (String × Json)} :
    WellFormed (object fields) ↔ (Assoc.keys fields).Nodup ∧ ∀ f ∈ fields, WellFormed f.2 := by
  constructor
  · intro h
    cases h with
    | object once all => exact ⟨once, all⟩
  · exact fun h => .object h.1 h.2

@[simp] theorem wellFormed_strings (ss : List String) : WellFormed (strings ss) := by
  simp [strings]

end Json

/-- A map of texts is a map if it has each name once. -/
theorem Json.wellFormed_texts {m : List (String × String)} (once : (Assoc.keys m).Nodup) :
    (Json.object (m.map fun (name, type) => (name, Json.string type))).WellFormed := by
  rw [Json.wellFormed_object_iff]
  refine ⟨by simpa [Assoc.keys, Function.comp_def] using once, fun f hf => ?_⟩
  obtain ⟨⟨name, type⟩, -, rfl⟩ := List.mem_map.mp hf
  exact Json.wellFormed_string type

theorem Contract.wellFormed_toJson {c : Contract} (once : (Assoc.keys c.accessibility).Nodup) :
    c.toJson.WellFormed := by
  have map := Json.wellFormed_texts once
  simp [toJson, PropSpec.toJson, EventSpec.toJson, VariantSpec.toJson, SlotSpec.toJson, Assoc.keys]
    at map ⊢
  exact map

theorem Implementation.wellFormed_toJson (m : Implementation) : m.toJson.WellFormed := by
  simp [toJson, HookUse.toJson, RefUse.toJson, ContextUse.toJson, ImportUse.toJson, Assoc.keys]

theorem StateUse.wellFormed_toJson (s : StateUse) : s.toJson.WellFormed := by
  simp [toJson, StateVariable.toJson, EffectUse.toJson, ContextState.toJson, DerivedState.toJson,
    Assoc.keys]

theorem Provenance.wellFormed_toJson (p : Provenance) : p.toJson.WellFormed := by
  simp [toJson, Validation.toJson, Issue.toJson, Assoc.keys]

/-- Schemas can be read back. -/
theorem Schema.wellFormed_toJson {s : Schema}
    (once : (Assoc.keys s.contract.accessibility).Nodup) : s.toJson.WellFormed := by
  have contract := Contract.wellFormed_toJson once
  have implementation := s.implementation.wellFormed_toJson
  have state := s.state.wellFormed_toJson
  have provenance := s.provenance.wellFormed_toJson
  rw [toJson, Json.wellFormed_object_iff]
  simp [Assoc.keys, contract, implementation, state, provenance]

/-- **The document of a schema** tells the schema: every list and the accessibility map in their
order, texts that are empty from those that are not there, and universal time from a time without a
zone. -/
theorem Schema.document_injective {s s' : Schema} (h : s.Proper) (h' : s'.Proper)
    (same : Json.document s.toJson = Json.document s'.toJson) : s = s' := by
  have read := Json.parse_document (Schema.wellFormed_toJson h.once)
  have read' := Json.parse_document (Schema.wellFormed_toJson h'.once)
  rw [same, read'] at read
  exact Schema.toJson_injective h.moment h'.moment (Except.ok.inj read).symm

/-- A schema with an empty text beside none and with names that differ by an underscore. -/
def Schema.sample (moment : Timestamp) : Schema where
  contract := {
    componentName := "Card"
    props := [⟨"aria_label", "string", false, "accessibility", some ""⟩,
      ⟨"ariaLabel", "string", false, "core", none⟩]
    events := [], variants := [], slots := []
    accessibility := [("aria_label", "string"), ("ariaLabel", "string")]
    description := none }
  implementation := ⟨"functional", true, [], [], [], []⟩
  state := ⟨[], [], [], []⟩
  provenance := ⟨"Card.tsx", moment, ⟨[], []⟩, schemaVersion⟩

/-- The moment of the sample. -/
def Schema.sampleMoment : Timestamp := ⟨2024, 1, 2, 3, 4, 5, 678901, some 0⟩

/-- One schema, its moment stated in the one and counted from its seconds in the other. -/
theorem Schema.document_injective_sample :
    (sample sampleMoment).Proper ∧ (sample (Calendar.ofSeconds 1704164645 678901)).Proper ∧
      Json.document (sample sampleMoment).toJson =
        Json.document (sample (Calendar.ofSeconds 1704164645 678901)).toJson ∧
      sample sampleMoment = sample (Calendar.ofSeconds 1704164645 678901) := by
  have clock : Calendar.ofSeconds 1704164645 678901 = sampleMoment := by decide +kernel
  have stated : (sample sampleMoment).Proper :=
    ⟨by simp [sample, Assoc.keys], by decide, by decide, by decide, by decide, by decide, by decide,
      by decide, by decide⟩
  have counted : (sample (Calendar.ofSeconds 1704164645 678901)).Proper := by
    rw [clock]
    exact stated
  have same : Json.document (sample sampleMoment).toJson =
      Json.document (sample (Calendar.ofSeconds 1704164645 678901)).toJson := by
    rw [clock]
  exact ⟨stated, counted, same, document_injective stated counted same⟩

end Document

end PropForge
