import PropForge.Proofs.Json.StringLiteral

/-!
# String literals of scripts

A string literal of ECMAScript denotes a sequence of 16-bit units. Its grammar is the one of strict
code from 2019 on: the separators of lines and paragraphs may stand in a literal as they are, the
other ends of lines may not, and no escape is octal.

* `utf16_injective`: texts are told apart by their units;
* `Denotes`: a text is one literal between double quotes, and which string it denotes;
* `Reads.unique`: what is read from a place is read in one way;
* `Spells`: a text that stands for some units wherever it stands in a literal;
* `spells_flatMap`: a text is spelled if each of its characters is;
* `Spells.denotes_iff`: between two quotes what is spelled is one literal.
-/

namespace PropForge.TypeScript.StringLiteral

open Number (isHexDigit ofDigits)

section Units

/-- The 16-bit units of a code point: itself, or the two halves of a surrogate pair. -/
def units (n : Nat) : List Nat :=
  if n < 0x10000 then [n]
  else [0xd800 + (n - 0x10000) / 0x400, 0xdc00 + (n - 0x10000) % 0x400]

/-- The string that a text is. -/
def utf16 (cs : List Char) : List Nat := cs.flatMap fun c => units c.toNat

theorem utf16_cons (c : Char) (cs : List Char) : utf16 (c :: cs) = units c.toNat ++ utf16 cs := rfl

theorem units_ne_nil (n : Nat) : units n ≠ [] := by
  unfold units
  split
  · exact List.cons_ne_nil _ _
  · exact List.cons_ne_nil _ _

/-- The first units of a string are those of one character, because half a pair is none. -/
theorem units_append_inj {c d : Char} {us us' : List Nat}
    (h : units c.toNat ++ us = units d.toNat ++ us') : c = d ∧ us = us' := by
  have hc := Text.not_surrogate c
  have hd := Text.not_surrogate d
  suffices same : c.toNat = d.toNat ∧ us = us' from ⟨Char.toNat_inj.mp same.1, same.2⟩
  unfold units at h
  split at h <;> split at h <;>
    simp only [List.cons_append, List.nil_append, List.cons.injEq] at h
  · exact h
  · omega
  · omega
  · exact ⟨by omega, h.2.2⟩

/-- **No two texts** are the same string. -/
theorem utf16_injective : Function.Injective utf16 := by
  intro cs ds h
  induction cs generalizing ds with
  | nil =>
    cases ds with
    | nil => rfl
    | cons d ds => exact absurd (List.append_eq_nil_iff.mp h.symm).1 (units_ne_nil _)
  | cons c cs ih =>
    cases ds with
    | nil => exact absurd (List.append_eq_nil_iff.mp h).1 (units_ne_nil _)
    | cons d ds =>
      obtain ⟨rfl, rest⟩ := units_append_inj h
      rw [ih rest]

end Units

section Grammar

def isLineTerminator (c : Char) : Bool :=
  c = '\n' || c = '\r' || c = '\u2028' || c = '\u2029'

/-- The unit of an escape that is one letter or mark. -/
def singleEscape? : Char → Option Nat
  | '\'' => some 0x27
  | '"' => some 0x22
  | '\\' => some 0x5c
  | 'b' => some 8
  | 'f' => some 0xc
  | 'n' => some 0xa
  | 'r' => some 0xd
  | 't' => some 9
  | 'v' => some 0xb
  | _ => none

/-- A unit by so many hexadecimal digits. -/
def hexEscape? (count : Nat) (cs : List Char) : Option (List Nat × List Char) :=
  let ds := cs.take count
  if ds.length = count ∧ ds.all isHexDigit then some ([ofDigits 16 ds], cs.drop count) else none

/-- A code point by digits up to a closing brace. -/
def codePointEscape? (cs : List Char) : Option (List Nat × List Char) :=
  let ds := cs.takeWhile isHexDigit
  match cs.dropWhile isHexDigit with
  | '\x7d' :: rest =>
    if ds ≠ [] ∧ ofDigits 16 ds ≤ 0x10ffff then some (units (ofDigits 16 ds), rest) else none
  | _ => none

/-- A code point between braces, or a unit by four digits. -/
def unicodeEscape? : List Char → Option (List Nat × List Char)
  | '\x7b' :: rest => codePointEscape? rest
  | cs => hexEscape? 4 cs

/-- What stands behind a backslash, with the units it stands for. The end of a line stands for none,
and a character that is no escape stands for itself. -/
def escape? : List Char → Option (List Nat × List Char)
  | [] => none
  | 'x' :: rest => hexEscape? 2 rest
  | 'u' :: rest => unicodeEscape? rest
  | '\r' :: '\n' :: rest => some ([], rest)
  | c :: rest =>
    if isLineTerminator c then some ([], rest)
    else if c.isDigit then
      if c = '0' ∧ ¬ rest.head?.any Char.isDigit then some ([0], rest) else none
    else some ((singleEscape? c).elim (units c.toNat) ([·]), rest)

/-- One character of a literal, with the units it stands for. -/
def character? (quote : Char) : List Char → Option (List Nat × List Char)
  | [] => none
  | '\\' :: rest => escape? rest
  | c :: rest => if c = quote ∨ c = '\n' ∨ c = '\r' then none else some (units c.toNat, rest)

/-- From inside a literal, units are read up to its end. -/
inductive Reads (quote : Char) : List Char → List Nat → List Char → Prop where
  | close (rest : List Char) : Reads quote (quote :: rest) [] rest
  | next {cs mid rest : List Char} {us value : List Nat}
      (one : character? quote cs = some (us, mid)) (more : Reads quote mid value rest) :
      Reads quote cs (us ++ value) rest

/-- A text is one string literal between double quotes, and denotes a string. -/
def Denotes (text : String) (value : List Nat) : Prop :=
  ∃ inner, text.toList = '"' :: inner ∧ Reads '"' inner value []

end Grammar

section Reading

variable {quote : Char} {cs mid rest : List Char} {us value : List Nat}

theorem character?_quote (plain : quote ≠ '\\') (rest : List Char) :
    character? quote (quote :: rest) = none := by
  unfold character?
  split <;> simp_all

theorem reads_quote_iff (plain : quote ≠ '\\') {after : List Char} :
    Reads quote (quote :: after) value rest ↔ value = [] ∧ rest = after := by
  constructor
  · intro h
    cases h with
    | close => exact ⟨rfl, rfl⟩
    | next one =>
      rw [character?_quote plain] at one
      cases one
  · rintro ⟨rfl, rfl⟩
    exact .close _

/-- **One character.** Where there is one, a literal goes on behind it. -/
theorem reads_iff_of_character? (plain : quote ≠ '\\') (one : character? quote cs = some (us, mid)) :
    Reads quote cs value rest ↔ ∃ more, value = us ++ more ∧ Reads quote mid more rest := by
  constructor
  · intro h
    cases h with
    | close =>
      rw [character?_quote plain] at one
      cases one
    | next again more =>
      rw [one] at again
      cases again
      exact ⟨_, rfl, more⟩
  · rintro ⟨more, rfl, h⟩
    exact .next one h

/-- **What is read** from a place is read in one way. -/
theorem Reads.unique (plain : quote ≠ '\\') {value' : List Nat} {rest' : List Char}
    (h : Reads quote cs value rest) (h' : Reads quote cs value' rest') :
    value = value' ∧ rest = rest' := by
  induction h generalizing value' with
  | close =>
    obtain ⟨rfl, rfl⟩ := (reads_quote_iff plain).mp h'
    exact ⟨rfl, rfl⟩
  | next one _ ih =>
    obtain ⟨more, rfl, tail⟩ := (reads_iff_of_character? plain one).mp h'
    obtain ⟨rfl, rfl⟩ := ih tail
    exact ⟨rfl, rfl⟩

end Reading

/-- A text stands for some units wherever it stands in a literal. -/
def Spells (quote : Char) (text : List Char) (us : List Nat) : Prop :=
  ∀ after value rest, Reads quote (text ++ after) value rest ↔
    ∃ more, value = us ++ more ∧ Reads quote after more rest

section Spelling

variable {quote : Char} {text : List Char} {us : List Nat}

theorem Spells.nil : Spells quote [] [] := by
  intro after value rest
  constructor
  · intro h
    exact ⟨value, rfl, h⟩
  · rintro ⟨more, rfl, h⟩
    exact h

theorem Spells.append {text' : List Char} {us' : List Nat} (h : Spells quote text us)
    (h' : Spells quote text' us') : Spells quote (text ++ text') (us ++ us') := by
  intro after value rest
  rw [List.append_assoc, h]
  constructor
  · rintro ⟨more, rfl, reads⟩
    obtain ⟨last, rfl, tail⟩ := (h' _ _ _).mp reads
    exact ⟨last, (List.append_assoc ..).symm, tail⟩
  · rintro ⟨more, rfl, reads⟩
    exact ⟨us' ++ more, List.append_assoc .., (h' _ _ _).mpr ⟨more, rfl, reads⟩⟩

/-- A text is spelled if each of its characters is. -/
theorem spells_flatMap {write : Char → List Char}
    (h : ∀ c, Spells quote (write c) (units c.toNat)) (cs : List Char) :
    Spells quote (cs.flatMap write) (utf16 cs) := by
  induction cs with
  | nil => exact .nil
  | cons c cs ih =>
    rw [List.flatMap_cons, utf16_cons]
    exact (h c).append ih

theorem spells_of_character? (plain : quote ≠ '\\')
    (one : ∀ after, character? quote (text ++ after) = some (us, after)) : Spells quote text us :=
  fun after _ _ => reads_iff_of_character? plain (one after)

/-- **A literal.** What is spelled is one literal between two quotes, and denotes what it spells. -/
theorem Spells.denotes_iff (h : Spells '"' text us) {value : List Nat} :
    Denotes (String.ofList ('"' :: (text ++ ['"']))) value ↔ value = us := by
  rw [Denotes, String.toList_ofList]
  constructor
  · rintro ⟨inner, eq, reads⟩
    cases eq
    obtain ⟨more, rfl, tail⟩ := (h _ _ _).mp reads
    obtain ⟨rfl, -⟩ := (reads_quote_iff (by decide)).mp tail
    exact List.append_nil us
  · rintro rfl
    exact ⟨_, rfl, (h _ _ _).mpr ⟨[], (List.append_nil value).symm, .close []⟩⟩

end Spelling

section Characters

variable {quote : Char}

/-- A character that ends neither the literal nor the line stands for itself. -/
theorem spells_plain {c : Char} (plain : quote ≠ '\\') (ends : c ≠ quote) (backslash : c ≠ '\\')
    (feed : c ≠ '\n') (ret : c ≠ '\r') : Spells quote [c] (units c.toNat) := by
  refine spells_of_character? plain fun after => ?_
  rw [List.singleton_append]
  unfold character?
  split <;> simp_all

/-- A letter or mark behind a backslash. -/
theorem spells_single {c : Char} {n : Nat} (plain : quote ≠ '\\') (h : singleEscape? c = some n) :
    Spells quote ['\\', c] [n] := by
  refine spells_of_character? plain fun after => ?_
  unfold singleEscape? at h
  split at h <;> cases h <;> rfl

/-- A digit is no brace, so that it is the first of four. -/
theorem unicodeEscape?_digit {c : Char} (digit : isHexDigit c = true) (rest : List Char) :
    unicodeEscape? (c :: rest) = hexEscape? 4 (c :: rest) := by
  have brace : c ≠ '\x7b' := by
    rintro rfl
    cases digit
  unfold unicodeEscape?
  split <;> simp_all

/-- A unit by its four digits. -/
theorem spells_unitEscape {n : Nat} (plain : quote ≠ '\\') (small : n < 0x10000) :
    Spells quote (Text.unitEscape n) [n] := by
  refine spells_of_character? plain fun after => ?_
  obtain ⟨a, b, c, d, escape, value⟩ := Json.unitEscape_eq small
  have digits : [a, b, c, d].all isHexDigit = true := by
    by_contra other
    rw [Json.hexValue?, if_neg other] at value
    cases value
  rw [Json.hexValue?, if_pos digits, Option.some.injEq] at value
  have first : isHexDigit a = true := List.all_eq_true.mp digits a List.mem_cons_self
  have four : hexEscape? 4 (a :: b :: c :: d :: after) = some ([n], after) := by
    rw [← value]
    exact if_pos ⟨rfl, digits⟩
  rw [escape, ← four, ← unicodeEscape?_digit first]
  rfl

end Characters

end PropForge.TypeScript.StringLiteral
