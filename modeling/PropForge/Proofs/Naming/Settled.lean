import PropForge.Proofs.Naming

/-!
# Names that are made again

A name is made of the words of a text, and nothing is left to be changed in it:

* `isIdentifier_iff`: what passes for an identifier is one, or one with a line feed behind it;
* `isStrictIdentifier_localName_iff`: what is bound under a name that is no identifier;
* `words_of_isPlain`: letters and digits alone are one word;
* `pascalCase_of_isCapitalized`: a name in Pascal case stays as it is;
* `names_settle`: which names are identifiers, and that no name changes if it is made again.
-/

namespace PropForge

theorem Text.isAlphanum_of_isUpper {c : Char} (h : c.isUpper = true) : c.isAlphanum = true := by
  have letter : c.isAlpha = true := Bool.or_eq_true_iff.mpr (.inl h)
  exact Bool.or_eq_true_iff.mpr (.inl letter)

/-- A capital letter is its own upper case. -/
theorem Text.upperChar_of_isUpper {c : Char} (h : c.isUpper = true) : upperChar c = [c] := by
  have ascii : ∀ n < 128, (Char.ofNat n).isUpper = true →
      upperChar (Char.ofNat n) = [Char.ofNat n] := by decide
  have same := ascii c.toNat (toNat_lt_of_isAlphanum (isAlphanum_of_isUpper h))
  rw [Char.ofNat_toNat] at same
  exact same h

namespace Naming

variable {s : String}

section Identifiers

/-- An identifier is on one line. -/
theorem not_isStrictIdentifier_newline (t : String) :
    isStrictIdentifier (t ++ "\n").toList ≠ true := by
  intro strict
  have mem : '\n' ∈ (t ++ "\n").toList := by simp
  have part := isIdentifierPart_of_isStrictIdentifier strict mem
  exact absurd part (by decide)

/-- **What passes for an identifier** is one, up to one line feed at its end. -/
theorem isIdentifier_iff : isIdentifier s = true ↔
    isStrictIdentifier s.toList = true ∨
      ∃ t : String, isStrictIdentifier t.toList = true ∧ s = t ++ "\n" := by
  constructor
  · intro h
    rcases Bool.or_eq_true_iff.mp h with strict | loose
    · exact .inl strict
    · unfold dropFinalNewline at loose
      split at loose
      · rename_i last
        obtain ⟨front, text⟩ := List.getLast?_eq_some_iff.mp last
        rw [text, List.dropLast_concat] at loose
        refine .inr ⟨String.ofList front, by simpa using loose, ?_⟩
        rw [← String.toList_inj, text]
        simp
      · exact .inl loose
  · rintro (strict | ⟨t, strict, rfl⟩)
    · exact isIdentifier_of_isStrictIdentifier strict
    · apply Bool.or_eq_true_iff.mpr
      right
      simpa [dropFinalNewline] using strict

/-- **A prop is bound under an identifier**, unless its own name is one with a line feed behind it. -/
theorem isStrictIdentifier_localName_iff : isStrictIdentifier (localName s).toList = true ↔
    ¬ ∃ t : String, isStrictIdentifier t.toList = true ∧ s = t ++ "\n" := by
  by_cases own : isIdentifier s = true
  · rw [localName_of_isIdentifier own]
    constructor
    · rintro strict ⟨t, -, rfl⟩
      exact not_isStrictIdentifier_newline t strict
    · intro other
      exact (isIdentifier_iff.mp own).resolve_right other
  · constructor
    · intro _ newline
      exact own (isIdentifier_iff.mpr (.inr newline))
    · intro _
      exact isStrictIdentifier_localName own

end Identifiers

section Words

/-- **One word** is a text of letters and digits alone. -/
theorem words_of_isPlain (plain : IsPlain s) (full : s ≠ "") : words s = [s] := by
  have nonempty : s.toList ≠ [] := mt String.toList_eq_nil_iff.mp full
  have whole : Text.splitOn (!·.isAlphanum) s.toList = [s.toList] := by
    apply Text.splitOn_of_all
    intro c hc
    simp [plain c hc]
  simp [words, Text.words, whole, nonempty]

theorem IsCapitalized.isPlain (h : IsCapitalized s) : IsPlain s := by
  obtain ⟨first, rest, rfl, upper, alphanum⟩ := h
  intro c hc
  rw [String.toList_ofList, List.mem_cons] at hc
  rcases hc with rfl | hc
  · exact Text.isAlphanum_of_isUpper upper
  · exact alphanum c hc

theorem IsCapitalized.ne_empty (h : IsCapitalized s) : s ≠ "" := by
  obtain ⟨first, rest, rfl, -, -⟩ := h
  rw [← String.toList_eq_nil_iff.ne]
  simp

theorem IsCapitalized.upperFirst (h : IsCapitalized s) : Text.upperFirst s = s := by
  obtain ⟨first, rest, rfl, upper, -⟩ := h
  rw [Text.upperFirst_ofList_cons, Text.upperChar_of_isUpper upper, List.singleton_append]

/-- **A name in Pascal case** is a word with a capital already. -/
theorem pascalCase_of_isCapitalized (h : IsCapitalized s) : pascalCase s = s := by
  have word : words s = [s] := words_of_isPlain h.isPlain h.ne_empty
  have identifier : isIdentifier s = true :=
    isIdentifier_of_isStrictIdentifier h.isStrictIdentifier
  simp [pascalCase, word, h.upperFirst, h.ne_empty, identifier]

end Words

/-- **Names that are made** of any text. In Pascal case it becomes an identifier of ASCII. As the local
name of a prop it becomes one too, unless it is an identifier with a line feed behind it, which is kept.
Neither of the two names changes if it is made again. -/
theorem names_settle (s : String) :
    isStrictIdentifier (pascalCase s).toList = true ∧
    pascalCase (pascalCase s) = pascalCase s ∧
    (isStrictIdentifier (localName s).toList = true ↔
      ¬ ∃ t : String, isStrictIdentifier t.toList = true ∧ s = t ++ "\n") ∧
    (∀ t : String, isStrictIdentifier t.toList = true → localName (t ++ "\n") = t ++ "\n") ∧
    localName (localName s) = localName s := by
  have capitalized : IsCapitalized (pascalCase s) := isCapitalized_pascalCase s
  refine ⟨capitalized.isStrictIdentifier, pascalCase_of_isCapitalized capitalized,
    isStrictIdentifier_localName_iff, ?kept, localName_of_isIdentifier (isIdentifier_localName s)⟩
  case kept =>
    intro t strict
    apply localName_of_isIdentifier
    exact isIdentifier_iff.mpr (.inr ⟨t, strict, rfl⟩)

/-- A digit begins no name, and a line feed at the end is overlooked in a prop's own. -/
example : (pascalCase "2 x", localName "2-x", localName "tab\n", localName "tab-\n") =
    ("Value2X", "_2X", "tab\n", "tab") := by decide +kernel

end Naming

end PropForge
