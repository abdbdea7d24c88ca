import PropForge.Proofs.Component.Imports
import PropForge.Proofs.Component.Pattern

/-!
# Names that can be bound

What a module binds is an identifier, and none of the words that the language keeps for itself. The
head of a component binds a name for each prop, and a call of a hook binds one for its result. These
names are looked at as identifiers only:

* `localName_bindable_iff`: when the name that a prop is bound under can be bound;
* `freeName_bindable_iff`: a reserved word is numbered, and can be bound then, only if it is taken;
* `result_of_nameHooks`: a result is named when all calls before it are;
* `names_bindable_iff`: what has to hold of props and hooks so that all their names can be bound.
-/

namespace PropForge

namespace Naming

/-- The reserved words of modules, whose code is strict and may wait. -/
def reservedWords : List String :=
  ["await", "break", "case", "catch", "class", "const", "continue", "debugger", "default", "delete",
    "do", "else", "enum", "export", "extends", "false", "finally", "for", "function", "if",
    "implements", "import", "in", "instanceof", "interface", "let", "new", "null", "package",
    "private", "protected", "public", "return", "static", "super", "switch", "this", "throw",
    "true", "try", "typeof", "var", "void", "while", "with", "yield"]

/-- A name that a module can bind. -/
structure Bindable (name : String) : Prop where
  identifier : isStrictIdentifier name.toList = true
  free : name ∉ reservedWords

section ReservedWords

variable {w : String}

/-- Reserved words are of small letters. -/
theorem small_of_mem_reservedWords (h : w ∈ reservedWords) {c : Char} (hc : c ∈ w.toList) :
    c.isUpper = false ∧ c.isDigit = false ∧ c ≠ '_' := by
  have all : (reservedWords.all fun w =>
      w.toList.all fun c => !c.isUpper && !c.isDigit && c != '_') = true := by decide
  have small := List.all_eq_true.mp (List.all_eq_true.mp all w h) c hc
  simpa [and_assoc] using small

theorem isIdentifier_of_mem_reservedWords (h : w ∈ reservedWords) : isIdentifier w = true := by
  have all : reservedWords.all isIdentifier = true := by decide
  exact List.all_eq_true.mp all w h

/-- An underscore makes no reserved word out of what is no identifier. -/
theorem underscored_mem_reservedWords_iff {name : String} :
    (if isIdentifier name then name else "_" ++ name) ∈ reservedWords ↔ name ∈ reservedWords := by
  split
  · rfl
  · rename_i odd
    constructor
    · intro reserved
      have underscore : '_' ∈ ("_" ++ name).toList := by simp
      exact absurd rfl (small_of_mem_reservedWords reserved underscore).2.2
    · intro reserved
      exact absurd (isIdentifier_of_mem_reservedWords reserved) odd

/-- A second word begins with a capital or a digit, and no reserved word has one. -/
theorem joined_notMem_reservedWords {prop word second : String} {others : List String}
    (mem : second ∈ words prop) :
    word ++ String.join ((second :: others).map Text.upperFirst) ∉ reservedWords := by
  intro reserved
  obtain ⟨first, more, upper, kind, -⟩ :=
    upperFirst_of_isPlain (isPlain_of_mem_words mem) (ne_empty_of_mem_words mem)
  have within : first ∈ (word ++ String.join ((second :: others).map Text.upperFirst)).toList := by
    rw [List.map_cons, String.join_cons, upper]
    simp
  obtain ⟨noCapital, noDigit, -⟩ := small_of_mem_reservedWords reserved within
  simp [noCapital, noDigit] at kind

end ReservedWords

/-- A name is made into a reserved word only out of that word. -/
theorem localName_mem_reservedWords_iff {prop : String} (h : isIdentifier prop ≠ true) :
    localName prop ∈ reservedWords ↔ ∃ w ∈ reservedWords, words prop = [w] := by
  rw [localName, if_neg h]
  cases found : words prop with
  | nil => simp [reservedWords]
  | cons word rest =>
    rw [underscored_mem_reservedWords_iff]
    cases rest with
    | nil => simp
    | cons second others =>
      have mem : second ∈ words prop := by simp [found]
      constructor
      · intro reserved
        exact absurd reserved (joined_notMem_reservedWords mem)
      · rintro ⟨w, -, same⟩
        cases same

/-- **The name that a prop is bound under** can be bound if and only if that of the prop can be, or is
no identifier and has no reserved word as its only word. -/
theorem localName_bindable_iff (prop : String) : Bindable (localName prop) ↔
    if isIdentifier prop then Bindable prop else ∀ w ∈ reservedWords, words prop ≠ [w] := by
  by_cases own : isIdentifier prop = true
  · rw [localName_of_isIdentifier own, if_pos own]
  · have reserved := localName_mem_reservedWords_iff own
    rw [if_neg own]
    constructor
    · intro bindable w hw only
      exact bindable.free (reserved.mpr ⟨w, hw, only⟩)
    · intro apart
      refine ⟨isStrictIdentifier_localName own, fun mem => ?_⟩
      obtain ⟨w, hw, only⟩ := reserved.mp mem
      exact apart w hw only

end Naming

namespace ComponentView

open Naming

section Chosen

variable {reserved hooks : List String} {base : String}

theorem isStrictIdentifier_numbered (base : String) (n : Nat) :
    isStrictIdentifier (numbered base n).toList = true ↔
      isStrictIdentifier base.toList = true := by
  rw [numbered_eq_append, String.toList_append]
  refine isStrictIdentifier_append_iff fun d hd => ?_
  by_cases first : n = 0
  · simp [suffix, first] at hd
  · simp only [suffix, first, if_false, String.toList_ofList] at hd
    exact Number.isDigit_of_mem_digits hd

/-- No reserved word ends in a number. -/
theorem numbered_notMem_reservedWords (base : String) {n : Nat} (h : n ≠ 0) :
    numbered base n ∉ reservedWords := by
  intro reserved
  obtain ⟨d, ds, digits⟩ := List.exists_cons_of_ne_nil (Number.digits_ne_nil (n + 1))
  have digit : d ∈ Number.digits (n + 1) := digits ▸ List.mem_cons_self
  have within : d ∈ (numbered base n).toList := by
    rw [numbered_eq_append, suffix, if_neg h, String.toList_append, String.toList_ofList]
    exact List.mem_append_right _ digit
  have noDigit := (small_of_mem_reservedWords reserved within).2.1
  rw [Number.isDigit_of_mem_digits digit] at noDigit
  cases noDigit

/-- **A chosen name** can be bound if and only if what it is made of is an identifier, and taken if it
is a reserved word. -/
theorem freeName_bindable_iff : Bindable (freeName reserved false base) ↔
    isStrictIdentifier base.toList = true ∧ (base ∈ reservedWords → base ∈ reserved) := by
  obtain ⟨n, -, chosen, -⟩ := freeName_spec reserved false base
  have kept : freeName reserved false base = base ↔ base ∉ reserved := by
    simp [freeName_eq_self_iff, taken]
  have strict : isStrictIdentifier (freeName reserved false base).toList = true ↔
      isStrictIdentifier base.toList = true := by
    rw [chosen, isStrictIdentifier_numbered]
  constructor
  · rintro ⟨identifier, free⟩
    refine ⟨strict.mp identifier, fun word => ?_⟩
    by_contra untaken
    rw [kept.mpr untaken] at free
    exact free word
  · rintro ⟨identifier, blocked⟩
    refine ⟨strict.mpr identifier, fun word => ?_⟩
    by_cases first : n = 0
    · subst first
      have same : freeName reserved false base = base := chosen
      rw [same] at word
      exact kept.mp same (blocked word)
    · rw [chosen] at word
      exact numbered_notMem_reservedWords base first word

/-- **A result** is named when all calls before its own are, and apart from all these hooks. -/
theorem result_of_nameHooks {before after : List HookCall} {c : HookCall}
    (split : nameHooks reserved hooks = before ++ c :: after) :
    ∃ taken, c.result = freeName taken false (hookResult c.name) ∧
      ∀ n, n ∈ taken ↔ n = c.name ∨ n ∈ reserved ∨ ∃ d ∈ before, n = d.name ∨ n = d.result := by
  induction before generalizing reserved hooks with
  | nil =>
    cases hooks with
    | nil => cases split
    | cons hook rest =>
      rw [nameHooks, List.nil_append, List.cons.injEq] at split
      obtain ⟨rfl, -⟩ := split
      exact ⟨_, rfl, by simp⟩
  | cons d before ih =>
    cases hooks with
    | nil => cases split
    | cons hook rest =>
      rw [nameHooks, List.cons_append, List.cons.injEq] at split
      obtain ⟨rfl, split⟩ := split
      obtain ⟨taken, chosen, all⟩ := ih split
      refine ⟨taken, chosen, fun n => ?_⟩
      rw [all]
      simp only [List.mem_cons, exists_eq_or_imp, or_assoc, or_left_comm]

/-- No result asks for the name of its hook. -/
theorem hookResult_ne_of_mem_reservedWords {hook : String} (h : hook ∈ reservedWords) :
    hookResult hook ≠ hook := by
  have all : (reservedWords.all fun w => hookResult w != w) = true := by decide +kernel
  exact bne_iff_ne.mp (List.all_eq_true.mp all hook h)

theorem notMem_templateLocals {w : String} (h : w ∈ reservedWords) : w ∉ templateLocals := by
  have all : (reservedWords.all fun w => !templateLocals.contains w) = true := by decide
  simpa using List.all_eq_true.mp all w h

end Chosen

variable {tables : Classification} {schema : Schema} {v : ComponentView}

/-- What has to hold of a prop so that the head can bind a name for it. -/
def PropBindable (p : PropSpec) : Prop :=
  if isIdentifier p.name then Bindable p.name else ∀ w ∈ reservedWords, words p.name ≠ [w]

/-- What has to hold of the hooks that a component imports so that it can bind their results. -/
def HooksBindable (schema : Schema) (v : ComponentView) : Prop :=
  ∀ before hook after, importedHooks schema = before ++ hook :: after →
    isStrictIdentifier (hookResult hook).toList = true ∧
      (hookResult hook ∈ reservedWords →
        hookResult hook = schema.contract.componentName ∨
          hookResult hook ∈ stateNames v.state ∨ hookResult hook ∈ before)

/-- A result of a view is named when its state is. -/
theorem result_of_ofSchema (h : ofSchema tables schema = .ok v) {before after : List HookCall}
    {c : HookCall} (split : v.customHooks = before ++ c :: after) :
    ∃ taken, c.result = freeName taken false (hookResult c.name) ∧
      ∀ n, n ∈ taken ↔ n = c.name ∨ n ∈ stateNames v.state ∨ n ∈ v.patternNames ∨
        n ∈ templateLocals ∨ n = schema.contract.componentName ∨
          ∃ d ∈ before, n = d.name ∨ n = d.result := by
  obtain ⟨-, state, calls⟩ := named_of_ofSchema h
  rw [calls] at split
  obtain ⟨taken, chosen, all⟩ := result_of_nameHooks split
  refine ⟨taken, chosen, fun n => ?_⟩
  rw [all, mem_nameState_reserved, ← state, reservedNames, List.mem_append, List.mem_append,
    ← (patternNames_perm h).mem_iff, List.mem_singleton]
  simp only [or_assoc]

/-- A prop that is bound under a reserved word would keep a result from it, so that the props come
first. -/
theorem hooksBindable_iff (h : ofSchema tables schema = .ok v)
    (props : ∀ n ∈ v.patternNames, Bindable n) :
    (∀ c ∈ v.customHooks, Bindable c.result) ↔ HooksBindable schema v := by
  have names : v.customHooks.map (·.name) = importedHooks schema := by
    rw [(named_of_ofSchema h).2.2, map_name_nameHooks]
  constructor
  · intro bindable before hook after split
    rw [← names] at split
    obtain ⟨front, rest, calls, rfl, others⟩ := List.map_eq_append_iff.mp split
    obtain ⟨c, back, rfl, rfl, rfl⟩ := List.map_eq_cons_iff.mp others
    obtain ⟨taken, chosen, all⟩ := result_of_ofSchema h calls
    have own := bindable c (by simp [calls])
    rw [chosen, freeName_bindable_iff] at own
    refine ⟨own.1, fun word => ?_⟩
    rcases (all _).mp (own.2 word) with itself | state | prop | template | component |
      ⟨d, hd, hook | result⟩
    · exact absurd itself (hookResult_ne_of_mem_reservedWords (itself ▸ word))
    · exact .inr (.inl state)
    · exact absurd word (props _ prop).free
    · exact absurd template (notMem_templateLocals word)
    · exact .inl component
    · exact .inr (.inr (hook ▸ List.mem_map_of_mem hd))
    · exact absurd (result ▸ word) (bindable d (by simp [calls, hd])).free
  · intro bindable c hc
    obtain ⟨before, after, split⟩ := List.append_of_mem hc
    obtain ⟨taken, chosen, all⟩ := result_of_ofSchema h split
    have mapped : importedHooks schema =
        before.map (·.name) ++ c.name :: after.map (·.name) := by
      rw [← names, split, List.map_append, List.map_cons]
    obtain ⟨identifier, blocked⟩ := bindable _ _ _ mapped
    rw [chosen, freeName_bindable_iff]
    refine ⟨identifier, fun word => (all _).mpr ?_⟩
    rcases blocked word with component | state | hook
    · simp only [component, or_true, true_or]
    · exact .inr (.inl state)
    · obtain ⟨d, hd, same⟩ := List.mem_map.mp hook
      have earlier : ∃ d ∈ before, hookResult c.name = d.name ∨ hookResult c.name = d.result :=
        ⟨d, hd, .inl same.symm⟩
      simp only [earlier, or_true]

/-- **Names that are bound.** The head of a component has a line for each prop, which ends in the name
that the prop is bound under, and each hook is called in a line that binds its result. All these names
can be bound if and only if

* each prop whose name passes for an identifier has one that can be bound, and no other prop has a
  reserved word as its only word; and
* no result asks for a name with a line feed, and each that asks for a reserved word is refused it
  because the component, a state variable, a setter or a hook that is called before has that name. -/
theorem names_bindable_iff (h : ofSchema tables schema = .ok v) :
    (∃ front wiring back, Generator.render ⟨.nextjs, v⟩ (Template.library none) .component =
      .ok (front ++ v.patternText ++ wiring ++ v.callsText ++ back)) ∧
    (∀ p : PropSpec, ∃ before,
      p.patternLine = before ++ Naming.localName p.name ++ ",\n") ∧
    ((∀ n ∈ v.patternNames, Bindable n) ∧ (∀ c ∈ v.customHooks, Bindable c.result) ↔
      (∀ p ∈ schema.contract.props, PropBindable p) ∧ HooksBindable schema v) := by
  refine ⟨?_, patternLine_eq, ?_⟩
  · obtain ⟨front, between, wiring, back, text⟩ := render_nextjs v
    refine ⟨front ++ v.importText ++ between, wiring, v.stateText ++ back, ?_⟩
    rw [text]
    simp only [String.append_assoc]
  have props : (∀ n ∈ v.patternNames, Bindable n) ↔
      ∀ p ∈ schema.contract.props, PropBindable p := by
    simp only [(patternNames_perm h).mem_iff, List.forall_mem_map, localName_bindable_iff,
      PropBindable]
  rw [← props]
  exact and_congr_right fun bindable => hooksBindable_iff h bindable

/-- A component with a prop and a hook that are called like a reserved word. -/
def defaulted : Schema where
  contract := {
    componentName := "Tag"
    props := [⟨"default", "boolean", false, "core", none⟩]
    events := [], variants := [], slots := [], accessibility := [], description := none }
  implementation := {
    type := "functional", forwardRef := false, refs := [], context := [], imports := []
    hooks := [⟨"useClass", []⟩] }
  state := { localState := [], contextState := [], effects := [], derivedState := [] }
  provenance := ⟨"Tag.tsx", ⟨2024, 1, 2, 3, 4, 5, 0, none⟩, ⟨[], []⟩, schemaVersion⟩

theorem names_bindable_iff_defaulted :
    ∃ v, ofSchema .standard defaulted = .ok v ∧ v.patternNames = ["default"] ∧
      v.callsText = "\n  // Custom hooks\n  const class = useClass();\n" ∧
      ¬((∀ n ∈ v.patternNames, Bindable n) ∧ ∀ c ∈ v.customHooks, Bindable c.result) := by
  have found : (ofSchema .standard defaulted).map (fun v => (v.patternNames, v.callsText)) =
      .ok (["default"], "\n  // Custom hooks\n  const class = useClass();\n") := by decide +kernel
  obtain ⟨v, h, parts⟩ := exists_of_map_eq_ok found
  obtain ⟨pattern, calls⟩ := Prod.mk.inj parts
  refine ⟨v, h, pattern, calls, ?_⟩
  intro all
  obtain ⟨props, -⟩ := (names_bindable_iff h).2.2.mp all
  have own : Bindable "default" := props _ List.mem_cons_self
  exact own.free (by decide)

end ComponentView

end PropForge
