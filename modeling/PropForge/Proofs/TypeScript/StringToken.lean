import PropForge.Proofs.TypeScript.StringLiteral
import PropForge.TypeScript.Lexeme

/-!
# String literals of sources

A source may have its string literals between quotes of either kind, and with the escapes that strict
code does without: a unit by octal digits, and the digits above seven for themselves. The text between
the quotes is the string that is denoted, unless there is an escape in it:

* `takes_of_sourceEscape?`: how far an escape goes, and that it stands for no more than it takes;
* `token_of_denotes`: the literals of strict code are literals of a source;
* `ReadsToken.exists_inner`: the text of a literal, and the string that it denotes;
* `stringLength_token`: a literal is one lexeme.
-/

namespace PropForge.TypeScript.StringToken

open Number (isHexDigit ofDigits)
open StringLiteral

section Grammar

def isOctalDigit (c : Char) : Bool := '0' ≤ c && c ≤ '7'

/-- A unit by octal digits: up to three, or two if the first is above three. -/
def octalEscape (first : Char) (rest : List Char) : List Nat × List Char :=
  let ds := (rest.take (if first ≤ '3' then 2 else 1)).takeWhile isOctalDigit
  ([ofDigits 8 (first :: ds)], rest.drop ds.length)

/-- What stands behind a backslash in a source, with the units it stands for. -/
def sourceEscape? : List Char → Option (List Nat × List Char)
  | [] => none
  | c :: rest =>
    if isOctalDigit c then some (octalEscape c rest)
    else if c.isDigit then some (units c.toNat, rest)
    else escape? (c :: rest)

/-- One character of a literal in a source, with the units it stands for. -/
def sourceCharacter? (quote : Char) : List Char → Option (List Nat × List Char)
  | '\\' :: rest => sourceEscape? rest
  | cs => character? quote cs

/-- From inside a literal, units are read up to its end, which is the end of the text. -/
inductive ReadsToken (quote : Char) : List Char → List Nat → Prop where
  | close : ReadsToken quote [quote] []
  | next {cs mid : List Char} {us value : List Nat}
      (one : sourceCharacter? quote cs = some (us, mid)) (more : ReadsToken quote mid value) :
      ReadsToken quote cs (us ++ value)

/-- The quotes of string literals. -/
def IsQuote (c : Char) : Prop := c = '"' ∨ c = '\''

/-- A text is one string literal of a source, and denotes a string. -/
def Token (text : String) (value : List Nat) : Prop :=
  ∃ quote inner, IsQuote quote ∧ text.toList = quote :: inner ∧ ReadsToken quote inner value

end Grammar

section Escapes

variable {cs mid : List Char} {us : List Nat}

/-- The characters that an escape goes on with. -/
def continues (c : Char) : Bool := isHexDigit c || c = '\x7b' || c = '\x7d'

theorem length_units_pos (n : Nat) : 0 < (units n).length := List.length_pos_iff.mpr (units_ne_nil n)

theorem length_units_le (n : Nat) : (units n).length ≤ 2 := by
  unfold units
  split
  · exact Nat.le_succ 1
  · exact Nat.le_refl 2

theorem utf16_append (cs ds : List Char) : utf16 (cs ++ ds) = utf16 cs ++ utf16 ds :=
  List.flatMap_append

theorem length_le_utf16 (cs : List Char) : cs.length ≤ (utf16 cs).length := by
  induction cs with
  | nil => exact Nat.le_refl 0
  | cons c cs ih =>
    have one := length_units_pos c.toNat
    rw [utf16_cons, List.length_append, List.length_cons]
    omega

theorem continues_of_isHexDigit {c : Char} (h : isHexDigit c = true) : continues c = true := by
  simp [continues, h]

theorem all_continues {ds : List Char} (digits : ds.all isHexDigit = true) :
    ds.all continues = true :=
  List.all_eq_true.mpr fun c hc => continues_of_isHexDigit (List.all_eq_true.mp digits c hc)

theorem exists_of_hexEscape? {count : Nat} (h : hexEscape? count cs = some (us, mid)) :
    ∃ ds, cs = ds ++ mid ∧ ds.all isHexDigit = true ∧ us.length = 1 := by
  simp only [hexEscape?] at h
  split at h
  · rename_i digits
    cases h
    exact ⟨cs.take count, (List.take_append_drop count cs).symm, digits.2, rfl⟩
  · cases h

theorem exists_of_codePointEscape? (h : codePointEscape? cs = some (us, mid)) :
    ∃ ds, cs = ds ++ '\x7d' :: mid ∧ ds.all isHexDigit = true ∧ us.length ≤ 2 := by
  simp only [codePointEscape?] at h
  split at h
  · rename_i rest close
    split at h
    · cases h
      refine ⟨cs.takeWhile isHexDigit, ?_, List.all_takeWhile, length_units_le _⟩
      rw [← close, List.takeWhile_append_dropWhile]
    · cases h
  · cases h

theorem exists_of_unicodeEscape? (h : unicodeEscape? cs = some (us, mid)) :
    ∃ tail, cs = tail ++ mid ∧ tail.all continues = true ∧ us.length ≤ 1 + tail.length := by
  unfold unicodeEscape? at h
  split at h
  · obtain ⟨ds, rfl, digits, short⟩ := exists_of_codePointEscape? h
    refine ⟨'\x7b' :: (ds ++ ['\x7d']), by simp, ?_, ?_⟩
    · rw [List.all_cons, List.all_append, all_continues digits]
      rfl
    · simp only [List.length_cons, List.length_append, List.length_nil]
      omega
  · obtain ⟨ds, rfl, digits, one⟩ := exists_of_hexEscape? h
    exact ⟨ds, rfl, all_continues digits, by omega⟩

/-- What an escape takes of a text behind its backslash: the end of a line in two characters, or else a
character and those that go on with it, which have no fewer units than it stands for. -/
inductive Takes : List Char → List Nat → List Char → Prop where
  | lineEnd (mid : List Char) : Takes ('\r' :: '\n' :: mid) [] mid
  | other {c : Char} {tail mid : List Char} {us : List Nat} (more : tail.all continues = true)
      (alone : c = '\r' → (tail ++ mid).head? ≠ some '\n')
      (short : us.length ≤ (units c.toNat).length + tail.length) :
      Takes (c :: (tail ++ mid)) us mid

/-- An escape of one character. -/
theorem Takes.single {c : Char} (alone : c = '\r' → mid.head? ≠ some '\n')
    (short : us.length ≤ (units c.toNat).length) : Takes (c :: mid) us mid :=
  @Takes.other c [] mid us rfl alone short

theorem takes_of_escape? (h : escape? cs = some (us, mid)) : Takes cs us mid := by
  have single (c : Char) := length_units_pos c.toNat
  unfold escape? at h
  split at h
  · cases h
  · obtain ⟨ds, rfl, digits, one⟩ := exists_of_hexEscape? h
    have enough := single 'x'
    exact .other (all_continues digits) (fun ret => absurd ret (by decide)) (by omega)
  · obtain ⟨tail, rfl, more, short⟩ := exists_of_unicodeEscape? h
    have enough := single 'u'
    exact .other more (fun ret => absurd ret (by decide)) (by omega)
  · cases h
    exact .lineEnd mid
  · rename_i c rest _ _ apart
    have alone : c = '\r' → rest.head? ≠ some '\n' := by
      rintro rfl feed
      obtain ⟨after, rfl⟩ := List.head?_eq_some_iff.mp feed
      exact apart after rfl rfl
    split at h
    · cases h
      exact .single alone (Nat.zero_le _)
    · split at h
      · split at h
        · cases h
          exact .single alone (single c)
        · cases h
      · cases h
        refine .single alone ?_
        cases singleEscape? c with
        | none => exact Nat.le_refl _
        | some n => exact single c

theorem isDigit_of_isOctalDigit {c : Char} (h : isOctalDigit c = true) : c.isDigit = true := by
  rw [isOctalDigit, Bool.and_eq_true, decide_eq_true_eq, decide_eq_true_eq] at h
  rw [Char.isDigit, Bool.and_eq_true, decide_eq_true_eq, decide_eq_true_eq]
  exact ⟨h.1, Char.le_trans h.2 (by decide)⟩

theorem takes_octalEscape {c : Char} (octal : isOctalDigit c = true) (rest : List Char) :
    Takes (c :: rest) (octalEscape c rest).1 (octalEscape c rest).2 := by
  have enough := length_units_pos c.toNat
  have hex {d : Char} (h : isOctalDigit d = true) : isHexDigit d = true := by
    rw [isHexDigit, isDigit_of_isOctalDigit h]
    rfl
  let ds := (rest.take (if c ≤ '3' then 2 else 1)).takeWhile isOctalDigit
  have front : ds <+: rest := (List.takeWhile_prefix isOctalDigit).trans (List.take_prefix _ rest)
  have split : rest = ds ++ rest.drop ds.length := (List.prefix_iff_eq_append.mp front).symm
  have digits : ds.all isHexDigit = true := List.all_eq_true.mpr fun d hd =>
    hex (List.all_eq_true.mp List.all_takeWhile d hd)
  have taken : Takes (c :: (ds ++ rest.drop ds.length)) [ofDigits 8 (c :: ds)]
      (rest.drop ds.length) := by
    refine .other (all_continues digits) ?_ (by simp only [List.length_singleton]; omega)
    rintro rfl
    cases octal
  rwa [← split] at taken

/-- **An escape** stands for no more units than the characters that it takes behind its backslash. -/
theorem takes_of_sourceEscape? (h : sourceEscape? cs = some (us, mid)) : Takes cs us mid := by
  cases cs with
  | nil => cases h
  | cons c rest =>
    rw [sourceEscape?] at h
    split at h
    · rename_i octal
      cases h
      exact takes_octalEscape octal rest
    · split at h
      · rename_i digit
        cases h
        refine .single ?_ (Nat.le_refl _)
        rintro rfl
        cases digit
      · exact takes_of_escape? h

/-- Behind its backslash an escape has no fewer units than it stands for. -/
theorem Takes.exists_text (h : Takes cs us mid) :
    ∃ text, cs = text ++ mid ∧ us.length ≤ (utf16 text).length := by
  cases h with
  | lineEnd => exact ⟨['\r', '\n'], rfl, Nat.zero_le _⟩
  | @other c tail _ _ _ _ short =>
    refine ⟨c :: tail, rfl, ?_⟩
    have rest := length_le_utf16 tail
    rw [utf16_cons, List.length_append]
    omega

end Escapes

section Characters

variable {quote : Char} {cs mid : List Char} {us : List Nat}

/-- **One character** of a literal: itself, or an escape behind its backslash. -/
inductive Step (quote : Char) : List Char → List Nat → List Char → Prop where
  | plain {c : Char} (mid : List Char) (ends : c ≠ quote) (backslash : c ≠ '\\') (feed : c ≠ '\n')
      (ret : c ≠ '\r') : Step quote (c :: mid) (units c.toNat) mid
  | escape {rest mid : List Char} {us : List Nat} (takes : Takes rest us mid) :
      Step quote ('\\' :: rest) us mid

theorem step_of_sourceCharacter? (h : sourceCharacter? quote cs = some (us, mid)) :
    Step quote cs us mid := by
  unfold sourceCharacter? at h
  split at h
  · exact .escape (takes_of_sourceEscape? h)
  · rename_i apart
    unfold character? at h
    split at h
    · cases h
    · rename_i rest
      exact absurd rfl (apart rest)
    · rename_i c rest _
      split at h
      · cases h
      · rename_i other
        cases h
        rw [not_or, not_or] at other
        exact .plain mid other.1 (fun same => apart _ (by rw [same])) other.2.1 other.2.2

/-- One character has the units of its text, or it is an escape and has fewer. -/
theorem Step.exists_text (h : Step quote cs us mid) :
    ∃ text, cs = text ++ mid ∧
      ('\\' ∉ text ∧ '\n' ∉ text ∧ us = utf16 text ∨
        '\\' ∈ text ∧ us.length < (utf16 text).length) := by
  cases h with
  | @plain c _ _ backslash feed =>
    refine ⟨[c], rfl, .inl ⟨?_, ?_, (List.flatMap_singleton ..).symm⟩⟩
    · rw [List.mem_singleton]
      exact Ne.symm backslash
    · rw [List.mem_singleton]
      exact Ne.symm feed
  | escape takes =>
    obtain ⟨text, rfl, le⟩ := takes.exists_text
    refine ⟨'\\' :: text, rfl, .inr ⟨List.mem_cons_self, ?_⟩⟩
    have own := length_units_pos ('\\').toNat
    rw [utf16_cons, List.length_append]
    omega

/-- A character that ends neither the literal nor the line is one of the lexeme. -/
theorem stringTail_plain {c : Char} (ends : c ≠ quote) (backslash : c ≠ '\\') (feed : c ≠ '\n')
    (ret : c ≠ '\r') (mid : List Char) :
    stringTail quote (c :: mid) = (stringTail quote mid).map (· + 1) := by
  simp [stringTail, ends, backslash, feed, ret]

/-- A backslash takes the character behind it into the lexeme. -/
theorem stringTail_escape {c : Char} {rest : List Char}
    (alone : c = '\r' → rest.head? ≠ some '\n') :
    stringTail quote ('\\' :: c :: rest) = (stringTail quote rest).map (· + 2) := by
  rw [stringTail]
  rintro after rfl rfl
  exact alone rfl rfl

/-- What an escape goes on with is no end of a literal or a line. -/
theorem stringTail_append (isQuote : IsQuote quote) {tail : List Char}
    (more : tail.all continues = true) (mid : List Char) :
    stringTail quote (tail ++ mid) = (stringTail quote mid).map (· + tail.length) := by
  induction tail with
  | nil => simp
  | cons c tail ih =>
    rw [List.all_cons, Bool.and_eq_true] at more
    obtain ⟨one, more⟩ := more
    have ends : c ≠ quote := by
      rintro rfl
      rcases isQuote with rfl | rfl <;> cases one
    have backslash : c ≠ '\\' := by
      rintro rfl
      cases one
    have feed : c ≠ '\n' := by
      rintro rfl
      cases one
    have ret : c ≠ '\r' := by
      rintro rfl
      cases one
    rw [List.cons_append, stringTail_plain ends backslash feed ret, ih more, Option.map_map]
    rfl

/-- The lexeme goes on behind a character. -/
theorem Step.stringTail (isQuote : IsQuote quote) (h : Step quote cs us mid)
    (length : TypeScript.stringTail quote mid = some mid.length) :
    TypeScript.stringTail quote cs = some cs.length := by
  cases h with
  | plain _ ends backslash feed ret =>
    rw [stringTail_plain ends backslash feed ret, length]
    rfl
  | escape takes =>
    cases takes with
    | lineEnd =>
      rw [TypeScript.stringTail, length]
      rfl
    | @other c tail _ _ more alone =>
      rw [stringTail_escape alone, stringTail_append isQuote more, length]
      simp only [Option.map_some, List.length_cons, List.length_append]
      exact congrArg some (by omega)

end Characters

section Strict

variable {quote : Char} {cs mid : List Char} {us value : List Nat}

/-- In strict code the only digit behind a backslash is a zero that no other digit follows. -/
theorem exists_of_escape?_digit {c : Char} {rest : List Char} (digit : c.isDigit = true)
    (h : escape? (c :: rest) = some (us, mid)) :
    c = '0' ∧ (∀ d ∈ rest.head?, d.isDigit = false) ∧ us = [0] ∧ mid = rest := by
  have line : isLineTerminator c = false := by
    by_contra ends
    rw [Bool.not_eq_false, isLineTerminator] at ends
    simp only [Bool.or_eq_true, decide_eq_true_eq] at ends
    rcases ends with ((rfl | rfl) | rfl) | rfl <;> cases digit
  unfold escape? at h
  split at h
  · rename_i empty
    cases empty
  · rename_i same
    cases same
    cases digit
  · rename_i same
    cases same
    cases digit
  · rename_i same
    cases same
    cases digit
  · rename_i same
    cases same
    rw [line, if_neg Bool.false_ne_true, if_pos digit] at h
    split at h
    · rename_i zero
      cases h
      refine ⟨zero.1, fun d hd => ?_, rfl, rfl⟩
      by_contra other
      refine zero.2 ?_
      rw [Option.mem_def] at hd
      rw [hd]
      simpa using other
    · cases h

theorem sourceEscape?_of_escape? (h : escape? cs = some (us, mid)) :
    sourceEscape? cs = some (us, mid) := by
  cases cs with
  | nil => cases h
  | cons c rest =>
    by_cases digit : c.isDigit = true
    · obtain ⟨rfl, next, rfl, rfl⟩ := exists_of_escape?_digit digit h
      cases mid with
      | nil => rfl
      | cons d mid =>
        have stop : isOctalDigit d = false := by
          by_contra octal
          rw [Bool.not_eq_false] at octal
          exact absurd (isDigit_of_isOctalDigit octal) (by simp [next d rfl])
        have alone : ((d :: mid).take 2).takeWhile isOctalDigit = [] :=
          List.takeWhile_cons_of_neg (by rw [stop]; exact Bool.false_ne_true)
        have zero : octalEscape '0' (d :: mid) = ([0], d :: mid) := by
          rw [octalEscape, if_pos (by decide), alone]
          rfl
        exact congrArg some zero
    · have octal : isOctalDigit c = false := by
        by_contra octal
        rw [Bool.not_eq_false] at octal
        exact digit (isDigit_of_isOctalDigit octal)
      rw [sourceEscape?, octal, if_neg Bool.false_ne_true, if_neg digit, h]

theorem sourceCharacter?_of_character? (h : character? quote cs = some (us, mid)) :
    sourceCharacter? quote cs = some (us, mid) := by
  unfold sourceCharacter?
  split
  · exact sourceEscape?_of_escape? h
  · exact h

/-- **Literals of strict code** are literals of a source, with the same strings. -/
theorem token_of_denotes {text : String} (h : Denotes text value) : Token text value := by
  obtain ⟨inner, shape, reads⟩ := h
  refine ⟨'"', inner, .inl rfl, shape, ?_⟩
  clear shape
  generalize none : ([] : List Char) = rest at reads
  induction reads with
  | close => exact none ▸ .close
  | next one _ ih => exact .next (sourceCharacter?_of_character? one) (ih none)

end Strict

section Tokens

variable {quote : Char} {cs : List Char} {value : List Nat}

/-- **The text of a literal** is the string that it denotes, unless there is a backslash in it; then it
is longer. -/
theorem ReadsToken.exists_inner (h : ReadsToken quote cs value) :
    ∃ inner, cs = inner ++ [quote] ∧
      ('\\' ∉ inner ∧ '\n' ∉ inner ∧ value = utf16 inner ∨
        '\\' ∈ inner ∧ value.length < (utf16 inner).length) := by
  induction h with
  | close => exact ⟨[], rfl, .inl ⟨List.not_mem_nil, List.not_mem_nil, rfl⟩⟩
  | next one _ ih =>
    obtain ⟨inner, rfl, rest⟩ := ih
    obtain ⟨text, rfl, here⟩ := (step_of_sourceCharacter? one).exists_text
    refine ⟨text ++ inner, (List.append_assoc ..).symm, ?_⟩
    simp only [utf16_append, List.mem_append, List.length_append, not_or]
    rcases here with ⟨free, feed, rfl⟩ | ⟨slash, lt⟩
    · rcases rest with ⟨free', feed', rfl⟩ | ⟨slash, lt⟩
      · exact .inl ⟨⟨free, free'⟩, ⟨feed, feed'⟩, rfl⟩
      · exact .inr ⟨.inr slash, by omega⟩
    · have le : _ ≤ (utf16 inner).length :=
        rest.elim (fun h => (congrArg List.length h.2.2).le) (·.2.le)
      exact .inr ⟨.inl slash, by omega⟩

theorem ReadsToken.stringTail (isQuote : IsQuote quote) (h : ReadsToken quote cs value) :
    TypeScript.stringTail quote cs = some cs.length := by
  induction h with
  | close =>
    rcases isQuote with rfl | rfl <;> rfl
  | next one _ ih => exact (step_of_sourceCharacter? one).stringTail isQuote ih

/-- **A literal is one lexeme** of its source. -/
theorem stringLength_token {text : String} (h : Token text value) :
    stringLength text.toList = text.length := by
  obtain ⟨quote, inner, isQuote, shape, reads⟩ := h
  have either : (quote = '"' || quote = '\'') = true := by
    rcases isQuote with rfl | rfl <;> rfl
  rw [← String.length_toList, shape, stringLength, if_pos either, reads.stringTail isQuote]
  rfl

end Tokens

end PropForge.TypeScript.StringToken
