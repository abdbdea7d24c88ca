import PropForge.Extraction
import PropForge.Proofs.Component.Descriptions
import PropForge.Proofs.Naming
import PropForge.Proofs.TypeScript.StringToken

/-!
# Literals that are read and written again

The name of a prop and the value of a member of an enumeration may be string literals in the source.
What is kept of a literal is the text between its quotes as it is written there, and the generated files
have a literal that denotes this text:

* `toList_unquote_of_token`: the text that is kept of a literal;
* `keyDenotes_propKey_iff`: which string a key denotes;
* `literals_kept_iff`: which literals are written again with the string that they denote.
-/

namespace PropForge.Extraction

open TypeScript (Tree Source stringLength)
open TypeScript.StringLiteral (Denotes utf16)
open TypeScript.StringToken (Token ReadsToken IsQuote sourceCharacter? token_of_denotes
  stringLength_token)

variable {t : String} {value : List Nat}

section Reading

/-- A text between two equal quotes is what is read of it. -/
theorem toList_unquote {quote : Char} {inner : List Char} (isQuote : IsQuote quote)
    (shape : t.toList = quote :: (inner ++ [quote])) : (unquote t).toList = inner := by
  have known : (quote = '"' || quote = '\'' || quote = '\x60') = true := by
    rcases isQuote with rfl | rfl <;> rfl
  unfold unquote
  rw [shape]
  cases inner with
  | nil => simp [known]
  | cons c inner =>
    have last : (c :: inner ++ [quote]).getLast? = some quote := List.getLast?_concat
    have front : (c :: inner ++ [quote]).dropLast = c :: inner := List.dropLast_concat
    rw [List.cons_append] at last front
    simp [known, last, front]

/-- **What is kept of a literal** is the string that it denotes, unless there is a backslash in it; then
it is longer. -/
theorem toList_unquote_of_token (h : Token t value) :
    '\\' ∉ t.toList ∧ '\n' ∉ (unquote t).toList ∧ value = utf16 (unquote t).toList ∨
      '\\' ∈ t.toList ∧ '\\' ∈ (unquote t).toList ∧
        value.length < (utf16 (unquote t).toList).length := by
  obtain ⟨quote, inside, isQuote, shape, reads⟩ := h
  obtain ⟨inner, rfl, cases⟩ := reads.exists_inner
  have slash : '\\' ∈ t.toList ↔ '\\' ∈ inner := by
    have other : '\\' ≠ quote := by
      rintro rfl
      rcases isQuote with h | h <;> cases h
    simp [shape, other]
  rw [toList_unquote isQuote shape, slash]
  exact cases.imp_right fun h => ⟨h.1, h⟩

/-- The literal that is written for what is kept of a literal. -/
theorem denotes_literal_unquote_iff (h : Token t value) :
    Denotes (Naming.literal (unquote t)) value ↔ '\\' ∉ t.toList := by
  rw [denotes_literal_iff]
  rcases toList_unquote_of_token h with ⟨free, -, same⟩ | ⟨slash, -, longer⟩
  · exact iff_of_true same free
  · refine iff_of_false (fun same => ?_) (not_not_intro slash)
    rw [same] at longer
    exact absurd longer (Nat.lt_irrefl _)

end Reading

section Keys

/-- A key of a type denotes a string: an identifier its own name, and a literal what it denotes. -/
def KeyDenotes (key : String) (value : List Nat) : Prop :=
  Naming.isStrictIdentifier key.toList = true ∧ value = utf16 key.toList ∨ Denotes key value

/-- No literal is an identifier. -/
theorem not_denotes_of_isStrictIdentifier {key : String}
    (h : Naming.isStrictIdentifier key.toList = true) : ¬ Denotes key value := by
  rintro ⟨inner, shape, -⟩
  rw [shape] at h
  exact absurd (Naming.isIdentifierPart_of_isStrictIdentifier h List.mem_cons_self) (by decide)

theorem keyDenotes_literal_iff (name : String) :
    KeyDenotes (Naming.literal name) value ↔ value = utf16 name.toList := by
  have other : Naming.isStrictIdentifier (Naming.literal name).toList ≠ true := fun strict =>
    not_denotes_of_isStrictIdentifier strict ((denotes_literal_iff name).mpr rfl)
  rw [KeyDenotes, denotes_literal_iff]
  exact or_iff_right fun h => other h.1

/-- **The key** that is written for a name denotes it, if there is no line feed in it. -/
theorem keyDenotes_propKey_iff {name : String} (line : '\n' ∉ name.toList) :
    KeyDenotes (Naming.propKey name) value ↔ value = utf16 name.toList := by
  unfold Naming.propKey
  split
  · rename_i identifier
    have strict := Naming.isStrictIdentifier_of_notMem line identifier
    rw [KeyDenotes]
    exact (or_iff_left (not_denotes_of_isStrictIdentifier strict)).trans (and_iff_right strict)
  · exact keyDenotes_literal_iff name

/-- The key that is written for what is kept of a literal. -/
theorem keyDenotes_propKey_unquote_iff (h : Token t value) :
    KeyDenotes (Naming.propKey (unquote t)) value ↔ '\\' ∉ t.toList := by
  rcases toList_unquote_of_token h with ⟨free, line, same⟩ | ⟨slash, inside, longer⟩
  · rw [keyDenotes_propKey_iff line]
    exact iff_of_true same free
  · have other : Naming.isIdentifier (unquote t) ≠ true := fun identifier =>
      absurd (Naming.isIdentifierPart_of_mem identifier inside) (by decide)
    rw [Naming.propKey, if_neg other, keyDenotes_literal_iff, ← denotes_literal_iff]
    exact denotes_literal_unquote_iff h

end Keys

section Writing

/-- Each text of a list stands among the others. -/
theorem exists_of_mem_intercalate (separator : String) {s : String} {ss : List String}
    (mem : s ∈ ss) :
    ∃ front back, separator.intercalate ss = front ++ s ++ back := by
  obtain ⟨before, after, rfl⟩ := List.append_of_mem mem
  induction before with
  | nil =>
    cases after with
    | nil => exact ⟨"", "", by simp⟩
    | cons next after =>
      exact ⟨"", separator ++ separator.intercalate (next :: after), by
        rw [List.nil_append, String.intercalate_cons_cons, String.empty_append, String.append_assoc]⟩
  | cons first before ih =>
    obtain ⟨front, back, rest⟩ := ih (by simp)
    cases split : before ++ s :: after with
    | nil => simp at split
    | cons next others =>
      rw [split] at rest
      refine ⟨first ++ separator ++ front, back, ?_⟩
      rw [List.cons_append, split, String.intercalate_cons_cons, rest]
      simp only [String.append_assoc]

/-- The key of a member that is called by a literal. -/
theorem exists_propKey_unquote {tables : Classification} {source : Source}
    {member : Tree × List Tree} (name : childText source member.1 .name = t) :
    ∃ front back, (propSpec tables source member).memberText =
      front ++ Naming.propKey (unquote t) ++ back := by
  have own : (propSpec tables source member).name = unquote t := congrArg unquote name
  rw [PropSpec.memberText, own]
  generalize propSpec tables source member = p
  refine ⟨(if p.description.getD "" = "" then "" else
    "  " ++ descriptionComment (p.description.getD "") ++ "\n") ++ "  ",
    (if p.required then "" else "?") ++ ": " ++ p.type ++ ";\n", ?_⟩
  simp only [String.append_assoc]

/-- The value of a member of an enumeration that is given by a literal. -/
theorem exists_literal_unquote {source : Source} {enum body member given : Tree}
    (inside : enum.child? .body = some body) (mem : member ∈ body.parts)
    (assignment : member.kind = .enumAssignment) (value : member.child? .value = some given)
    (string : given.kind = .string) (text : source.slice given = t) :
    ∃ front back, (variantSpec source enum).aliasText =
      front ++ Naming.literal (unquote t) ++ back := by
  have own : enumValue source member = unquote t := by
    rw [enumValue, if_pos assignment, value]
    exact (if_pos string).trans (congrArg unquote text)
  have values : (variantSpec source enum).values = body.parts.map (enumValue source) := by
    rw [variantSpec, inside]
    rfl
  have among : Naming.literal (unquote t) ∈
      (variantSpec source enum).values.map Naming.literal := by
    rw [values, ← own]
    exact List.mem_map_of_mem (List.mem_map_of_mem mem)
  have full : (variantSpec source enum).values.isEmpty = false := by
    rw [values, List.isEmpty_map, List.isEmpty_eq_false_iff]
    exact List.ne_nil_of_mem mem
  obtain ⟨front, back, union⟩ := exists_of_mem_intercalate " | " among
  refine ⟨"export type " ++ (variantSpec source enum).name ++ " = " ++ front, back ++ ";\n", ?_⟩
  rw [VariantSpec.aliasText, full, if_neg Bool.false_ne_true, union]
  simp only [String.append_assoc]

end Writing

/-- **Literals of a source in what is written.** What is kept of a string literal is the text between
its quotes as it stands there. The key of a prop that is called by a literal, and the literal in the
type of a variant for a member that is given by one, denote this text, and so the string that the
literal of the source denotes if and only if no backslash is in it. -/
theorem literals_kept_iff (h : Token t value) :
    stringLength t.toList = t.length ∧
    Token (Naming.literal (unquote t)) (utf16 (unquote t).toList) ∧
    (Denotes (Naming.literal (unquote t)) value ↔ '\\' ∉ t.toList) ∧
    (KeyDenotes (Naming.propKey (unquote t)) value ↔ '\\' ∉ t.toList) ∧
    (∀ tables source member, childText source member.1 .name = t → ∃ front back,
      (propSpec tables source member).memberText =
        front ++ Naming.propKey (unquote t) ++ back) ∧
    ∀ source enum body member given, enum.child? .body = some body → member ∈ body.parts →
      member.kind = .enumAssignment → member.child? .value = some given → given.kind = .string →
      source.slice given = t → ∃ front back,
        (variantSpec source enum).aliasText = front ++ Naming.literal (unquote t) ++ back :=
  ⟨stringLength_token h, token_of_denotes ((denotes_literal_iff _).mpr rfl),
    denotes_literal_unquote_iff h, keyDenotes_propKey_unquote_iff h,
    fun _ _ _ => exists_propKey_unquote, fun _ _ _ _ _ => exists_literal_unquote⟩

/-- A literal with an escaped quotation mark is written with two escapes. -/
theorem literals_kept_iff_escaped :
    let t := "\"it\\\"s\""
    Token t (utf16 "it\"s".toList) ∧ Naming.literal (unquote t) = "\"it\\\\\\\"s\"" ∧
      ¬ Denotes (Naming.literal (unquote t)) (utf16 "it\"s".toList) := by
  intro t
  have last : ReadsToken '"' ['s', '"'] [0x73] :=
    .next (show sourceCharacter? '"' ['s', '"'] = some ([0x73], ['"']) by decide) .close
  have mark : ReadsToken '"' ['\\', '"', 's', '"'] [0x22, 0x73] :=
    .next (show sourceCharacter? '"' _ = some ([0x22], _) by decide) last
  have second : ReadsToken '"' ['t', '\\', '"', 's', '"'] [0x74, 0x22, 0x73] :=
    .next (show sourceCharacter? '"' _ = some ([0x74], _) by decide) mark
  have inner : ReadsToken '"' ['i', 't', '\\', '"', 's', '"'] [0x69, 0x74, 0x22, 0x73] :=
    .next (show sourceCharacter? '"' _ = some ([0x69], _) by decide) second
  have string : [0x69, 0x74, 0x22, 0x73] = utf16 "it\"s".toList := by
    simp [utf16, TypeScript.StringLiteral.units]
  have written : Naming.literal (unquote t) = "\"it\\\\\\\"s\"" := by
    rw [← String.toList_inj]
    simp [t, Naming.literal, unquote, Text.quoted, Text.quotedChar]
  have token : Token t (utf16 "it\"s".toList) := ⟨'"', _, .inl rfl, by decide, string ▸ inner⟩
  refine ⟨token, written, fun kept => ?_⟩
  exact (literals_kept_iff token).2.2.1.mp kept (by decide)

end PropForge.Extraction
