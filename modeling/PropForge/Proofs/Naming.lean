import PropForge.Naming
import PropForge.Proofs.Text.Case

/-!
# Names that are made are identifiers

A prop is bound under its own name, or under its words run together:

* `separates_of_mem_splitOn`: no word holds what words are cut at;
* `isStrictIdentifier_localName`, `isIdentifier_localName`: what is made for a prop is an identifier,
  and so passes for one whatever the prop is bound under;
* `isCapitalized_pascalCase`: words that are run together with capitals begin with one.
-/

namespace PropForge

namespace Text

variable {separates : Char → Bool} {cs piece : List Char} {c : Char}

/-- No piece holds a separator. -/
theorem separates_of_mem_splitOn (mem : piece ∈ splitOn separates cs) (hc : c ∈ piece) :
    separates c = false := by
  induction cs generalizing piece with
  | nil =>
    rw [splitOn, List.mem_singleton] at mem
    subst mem
    cases hc
  | cons d rest ih =>
    rw [splitOn] at mem
    by_cases sep : separates d = true
    · rw [if_pos sep] at mem
      rcases List.mem_cons.mp mem with rfl | mem
      · cases hc
      · exact ih mem hc
    · rw [if_neg sep] at mem
      cases pieces : splitOn separates rest with
      | nil =>
        rw [pieces, List.mem_singleton] at mem
        rw [mem, List.mem_singleton] at hc
        rw [hc]
        exact Bool.eq_false_iff.mpr sep
      | cons first others =>
        rw [pieces] at ih mem
        rcases List.mem_cons.mp mem with rfl | mem
        · rcases List.mem_cons.mp hc with rfl | hc
          · exact Bool.eq_false_iff.mpr sep
          · exact ih List.mem_cons_self hc
        · exact ih (List.mem_cons_of_mem _ mem) hc

/-- A text without separators is one piece. -/
theorem splitOn_of_all (none : ∀ c ∈ cs, separates c = false) : splitOn separates cs = [cs] := by
  induction cs with
  | nil => rfl
  | cons c rest ih =>
    rw [List.forall_mem_cons] at none
    rw [splitOn, none.1, ih none.2]
    rfl

/-- Letters and digits are characters of ASCII. -/
theorem toNat_lt_of_isAlphanum (h : c.isAlphanum = true) : c.toNat < 128 := by
  rw [isAlphanum_iff] at h
  omega

/-- The upper case of a letter or digit is made of letters and digits. -/
theorem isAlphanum_of_mem_upperChar {d : Char} (h : c.isAlphanum = true) (mem : d ∈ upperChar c) :
    d.isAlphanum = true := by
  have ascii : ∀ n < 128, (Char.ofNat n).isAlphanum = true →
      (upperChar (Char.ofNat n)).all Char.isAlphanum = true := by decide
  have all := ascii c.toNat (toNat_lt_of_isAlphanum h)
  rw [Char.ofNat_toNat] at all
  exact List.all_eq_true.mp (all h) d mem

/-- The upper case of a letter or digit is one character, which is a capital letter or a digit. -/
theorem upperChar_of_isAlphanum (h : c.isAlphanum = true) :
    ∃ d, upperChar c = [d] ∧ (d.isUpper = true ∨ d.isDigit = true) := by
  have ascii : ∀ n < 128, (Char.ofNat n).isAlphanum = true →
      (Char.ofNat n).toUpper.isUpper = true ∨ (Char.ofNat n).toUpper.isDigit = true := by
    decide
  have bound := toNat_lt_of_isAlphanum h
  have small : c < '\u0080' := Char.lt_def.mpr (UInt32.lt_iff_toNat_lt.mpr bound)
  have upper := ascii c.toNat bound
  rw [Char.ofNat_toNat] at upper
  exact ⟨c.toUpper, if_pos small, upper h⟩

end Text

namespace Naming

/-- All characters of a text are letters or digits. -/
def IsPlain (s : String) : Prop := ∀ c ∈ s.toList, c.isAlphanum = true

theorem IsPlain.append {s t : String} (hs : IsPlain s) (ht : IsPlain t) : IsPlain (s ++ t) := by
  intro c hc
  rw [String.toList_append] at hc
  exact (List.mem_append.mp hc).elim (hs c) (ht c)

theorem IsPlain.upperFirst {s : String} (h : IsPlain s) : IsPlain (Text.upperFirst s) := by
  rw [Text.upperFirst]
  split
  · exact h
  · rename_i first rest chars
    intro c hc
    rw [String.toList_ofList] at hc
    rcases List.mem_append.mp hc with hc | hc
    · exact Text.isAlphanum_of_mem_upperChar (h first (by simp [chars])) hc
    · exact h c (by simp [chars, hc])

theorem isPlain_of_mem_words {s word : String} (mem : word ∈ words s) : IsPlain word := by
  obtain ⟨piece, hp, rfl⟩ := List.mem_map.mp mem
  intro c hc
  rw [String.toList_ofList] at hc
  have := Text.separates_of_mem_splitOn (List.mem_filter.mp hp).1 hc
  simpa using this

theorem isPlain_join {parts : List String} (h : ∀ s ∈ parts, IsPlain s) :
    IsPlain (String.join parts) := by
  induction parts with
  | nil => exact fun c hc => absurd hc (by simp)
  | cons s parts ih =>
    rw [String.join_cons]
    exact (h s List.mem_cons_self).append (ih fun t ht => h t (List.mem_cons_of_mem _ ht))

theorem isIdentifier_of_isStrictIdentifier {s : String}
    (h : isStrictIdentifier s.toList = true) : isIdentifier s = true :=
  Bool.or_eq_true_iff.mpr (.inl h)

/-- Without a line feed a text that passes for an identifier is one. -/
theorem isStrictIdentifier_of_notMem {s : String} (line : '\n' ∉ s.toList)
    (h : isIdentifier s = true) : isStrictIdentifier s.toList = true := by
  have last : s.toList.getLast? ≠ some '\n' := fun newline => line (List.mem_of_getLast? newline)
  rw [isIdentifier, dropFinalNewline, if_neg last, Bool.or_self] at h
  exact h

theorem IsPlain.isStrictIdentifier {s : String} (plain : IsPlain s) (h : isIdentifier s = true) :
    isStrictIdentifier s.toList = true :=
  isStrictIdentifier_of_notMem (fun newline => absurd (plain _ newline) (by decide)) h

/-- Nothing but the first character keeps letters and digits from being an identifier. -/
theorem isStrictIdentifier_underscore {s : String} (h : IsPlain s) :
    isStrictIdentifier ("_" ++ s).toList = true := by
  have chars : ("_" ++ s).toList = '_' :: s.toList := by rw [String.toList_append]; rfl
  rw [chars, Naming.isStrictIdentifier, Bool.and_eq_true]
  refine ⟨by decide, List.all_eq_true.mpr fun c hc => ?_⟩
  rw [isIdentifierPart, h c hc]
  rfl

/-- A name that is made for a prop is an identifier. -/
theorem isStrictIdentifier_localName {prop : String} (h : isIdentifier prop ≠ true) :
    isStrictIdentifier (localName prop).toList = true := by
  rw [localName, if_neg h]
  split
  · decide
  · rename_i word rest found
    have plain (t : String) (ht : t ∈ word :: rest) : IsPlain t :=
      isPlain_of_mem_words (found ▸ ht)
    have joined : IsPlain (word ++ String.join (rest.map Text.upperFirst)) := by
      refine (plain word List.mem_cons_self).append (isPlain_join fun s hs => ?_)
      obtain ⟨t, ht, rfl⟩ := List.mem_map.mp hs
      exact (plain t (List.mem_cons_of_mem _ ht)).upperFirst
    dsimp only
    split
    · rename_i identifier
      exact joined.isStrictIdentifier identifier
    · exact isStrictIdentifier_underscore joined

/-- **What a prop is bound under** passes for an identifier. -/
theorem isIdentifier_localName (prop : String) : isIdentifier (localName prop) = true := by
  by_cases own : isIdentifier prop = true
  · rw [localName, if_pos own]
    exact own
  · exact isIdentifier_of_isStrictIdentifier (isStrictIdentifier_localName own)

theorem localName_of_isIdentifier {prop : String} (h : isIdentifier prop = true) :
    localName prop = prop := if_pos h

section Characters

theorem isIdentifierPart_of_isIdentifierStart {c : Char} (h : isIdentifierStart c = true) :
    isIdentifierPart c = true := by
  simp only [isIdentifierStart, isIdentifierPart, Char.isAlphanum, Bool.or_eq_true] at h ⊢
  rcases h with (letter | underscore) | dollar
  · exact .inl (.inl (.inl letter))
  · exact .inl (.inr underscore)
  · exact .inr dollar

theorem isIdentifierPart_of_isStrictIdentifier {cs : List Char} (h : isStrictIdentifier cs = true)
    {c : Char} (hc : c ∈ cs) : isIdentifierPart c = true := by
  cases cs with
  | nil => cases hc
  | cons first rest =>
    rw [isStrictIdentifier, Bool.and_eq_true, List.all_eq_true] at h
    rcases List.mem_cons.mp hc with rfl | hc
    · exact isIdentifierPart_of_isIdentifierStart h.1
    · exact h.2 c hc

/-- The characters of identifiers, and the one that may follow them. -/
theorem isIdentifierPart_of_mem {s : String} (h : isIdentifier s = true) {c : Char}
    (hc : c ∈ s.toList) : isIdentifierPart c = true ∨ c = '\n' := by
  rcases Bool.or_eq_true_iff.mp h with h | h
  · exact .inl (isIdentifierPart_of_isStrictIdentifier h hc)
  · unfold dropFinalNewline at h
    split at h
    · rename_i last
      obtain ⟨front, text⟩ := List.getLast?_eq_some_iff.mp last
      rw [text, List.dropLast_concat] at h
      rw [text, List.mem_append] at hc
      rcases hc with hc | hc
      · exact .inl (isIdentifierPart_of_isStrictIdentifier h hc)
      · exact .inr (List.mem_singleton.mp hc)
    · exact .inl (isIdentifierPart_of_isStrictIdentifier h hc)

theorem not_isIdentifierStart_of_isDigit {c : Char} (h : c.isDigit = true) :
    isIdentifierStart c = false := by
  obtain ⟨d, hd, rfl⟩ := Number.eq_digitChar_of_isDigit h
  interval_cases d <;> rfl

/-- Digits behind a text make it no identifier, and keep it one. -/
theorem isStrictIdentifier_append_iff {cs ds : List Char} (digits : ∀ d ∈ ds, d.isDigit = true) :
    isStrictIdentifier (cs ++ ds) = true ↔ isStrictIdentifier cs = true := by
  have parts : ds.all isIdentifierPart = true := by
    refine List.all_eq_true.mpr fun d hd => ?_
    simp [isIdentifierPart, Char.isAlphanum, digits d hd]
  cases cs with
  | cons c cs => simp only [List.cons_append, isStrictIdentifier, List.all_append, parts,
      Bool.and_true]
  | nil =>
    cases ds with
    | nil => rfl
    | cons d ds =>
      have start := not_isIdentifierStart_of_isDigit (digits d List.mem_cons_self)
      simp [isStrictIdentifier, start]

end Characters

section Capitals

/-- A capital letter of ASCII, and then letters and digits. -/
def IsCapitalized (s : String) : Prop :=
  ∃ first rest, s = String.ofList (first :: rest) ∧ first.isUpper = true ∧
    ∀ c ∈ rest, c.isAlphanum = true

theorem IsCapitalized.append {s t : String} (h : IsCapitalized s) (plain : IsPlain t) :
    IsCapitalized (s ++ t) := by
  obtain ⟨first, rest, rfl, upper, alphanum⟩ := h
  refine ⟨first, rest ++ t.toList, ?_, upper, ?_⟩
  · rw [← List.cons_append, String.ofList_append, String.ofList_toList]
  · intro c hc
    rcases List.mem_append.mp hc with hc | hc
    · exact alphanum c hc
    · exact plain c hc

theorem IsCapitalized.isStrictIdentifier {s : String} (h : IsCapitalized s) :
    isStrictIdentifier s.toList = true := by
  obtain ⟨first, rest, rfl, upper, alphanum⟩ := h
  rw [String.toList_ofList, Naming.isStrictIdentifier, Bool.and_eq_true, List.all_eq_true]
  constructor
  · have letter : first.isAlpha = true := Bool.or_eq_true_iff.mpr (.inl upper)
    simp [isIdentifierStart, letter]
  · intro c hc
    simp [isIdentifierPart, alphanum c hc]

/-- What passes for an identifier begins as one, also if a line feed at its end is overlooked. -/
theorem isIdentifierStart_of_isIdentifier {first : Char} {rest : List Char}
    (h : isIdentifier (String.ofList (first :: rest)) = true) : isIdentifierStart first = true := by
  rw [isIdentifier, String.toList_ofList, Bool.or_eq_true] at h
  rcases h with h | h
  · rw [Naming.isStrictIdentifier, Bool.and_eq_true] at h
    exact h.1
  · unfold dropFinalNewline at h
    cases rest with
    | nil =>
      by_cases newline : first = '\n'
      · subst newline
        simp [Naming.isStrictIdentifier] at h
      · simpa [newline, Naming.isStrictIdentifier] using h
    | cons second rest =>
      split at h <;> simp only [List.dropLast_cons_cons, Naming.isStrictIdentifier,
        Bool.and_eq_true] at h <;> exact h.1

theorem ne_empty_of_mem_words {s word : String} (mem : word ∈ words s) : word ≠ "" := by
  obtain ⟨piece, hp, rfl⟩ := List.mem_map.mp mem
  have full := (List.mem_filter.mp hp).2
  intro empty
  rw [← String.toList_eq_nil_iff, String.toList_ofList] at empty
  simp [empty] at full

/-- A word with a capital is a capital letter or a digit with letters and digits behind it. -/
theorem upperFirst_of_isPlain {word : String} (plain : IsPlain word) (full : word ≠ "") :
    ∃ first rest, Text.upperFirst word = String.ofList (first :: rest) ∧
      (first.isUpper = true ∨ first.isDigit = true) ∧ ∀ c ∈ rest, c.isAlphanum = true := by
  have nonempty : word.toList ≠ [] := mt String.toList_eq_nil_iff.mp full
  obtain ⟨c, cs, chars⟩ := List.exists_cons_of_ne_nil nonempty
  have all : ∀ d ∈ c :: cs, d.isAlphanum = true := by
    intro d hd
    exact plain d (chars ▸ hd)
  obtain ⟨d, upper, kind⟩ := Text.upperChar_of_isAlphanum (all c List.mem_cons_self)
  refine ⟨d, cs, ?_, kind, fun e he => all e (List.mem_cons_of_mem _ he)⟩
  simp only [Text.upperFirst, chars, upper, List.singleton_append]

theorem isCapitalized_value : IsCapitalized "Value" := by
  refine ⟨'V', ['a', 'l', 'u', 'e'], by decide, by decide, ?_⟩
  simp [Char.isAlphanum]

/-- **Words in Pascal case** begin with a capital letter, and letters and digits follow. -/
theorem isCapitalized_pascalCase (s : String) : IsCapitalized (pascalCase s) := by
  unfold pascalCase
  have plain : IsPlain (String.join ((words s).map Text.upperFirst)) := by
    apply isPlain_join
    intro t ht
    obtain ⟨word, mem, rfl⟩ := List.mem_map.mp ht
    exact (isPlain_of_mem_words mem).upperFirst
  cases found : words s with
  | nil => exact isCapitalized_value
  | cons word others =>
    rw [found, List.map_cons, String.join_cons] at plain
    have mem : word ∈ words s := by simp [found]
    obtain ⟨first, rest, upper, kind, alphanum⟩ :=
      upperFirst_of_isPlain (isPlain_of_mem_words mem) (ne_empty_of_mem_words mem)
    rw [List.map_cons, String.join_cons]
    generalize String.join (others.map Text.upperFirst) = more at plain ⊢
    have chars : Text.upperFirst word ++ more = String.ofList (first :: (rest ++ more.toList)) := by
      rw [upper, ← List.cons_append, String.ofList_append, String.ofList_toList]
    have full : Text.upperFirst word ++ more ≠ "" := by
      intro empty
      rw [chars, ← String.toList_eq_nil_iff, String.toList_ofList] at empty
      cases empty
    simp only [if_neg full]
    split
    · -- a digit begins no identifier
      rename_i identifier
      refine ⟨first, rest ++ more.toList, chars, ?_, ?_⟩
      · rcases kind with capital | digit
        · exact capital
        · have start := isIdentifierStart_of_isIdentifier (chars ▸ identifier)
          rw [not_isIdentifierStart_of_isDigit digit] at start
          cases start
      · intro c hc
        apply plain
        rw [chars, String.toList_ofList]
        exact List.mem_cons_of_mem _ hc
    · exact isCapitalized_value.append plain

end Capitals

end Naming

end PropForge
