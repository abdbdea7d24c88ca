import PropForge.Number.Digits
import PropForge.Text.Escapes

/-!
# Character references

In an attribute of markup an ampersand may begin a reference, which stands for other characters by a
name or by a number. A text is written into an attribute with references in place of its ampersands
and double quotes:

* `decoded`: a text with its references replaced, however these are read;
* `Vocabulary.reading`: how HTML reads references in an attribute, by a table of names;
* `Vocabulary.reading_name`: a name of letters and digits is read up to the semicolon behind it;
* `quote_notMem_inAttribute`: what is written into an attribute does not end it;
* `decoded_inAttribute`: it is read back as the text, whatever the text looks like itself.
-/

namespace PropForge.Text

/-- What a reference stands for that begins behind an ampersand, and how many characters it takes. -/
abbrev Reading := List Char → Option (List Char × Nat)

/-- A text with its references replaced by what they stand for. Every other ampersand stands for
itself. -/
def decoded (reading : Reading) : List Char → List Char
  | [] => []
  | c :: rest =>
    if c = '&' then
      match reading rest with
      | some (value, length) => value ++ decoded reading (rest.drop length)
      | none => c :: decoded reading rest
    else c :: decoded reading rest
termination_by cs => cs.length
decreasing_by all_goals (simp only [List.length_cons, List.length_drop]; omega)

/-- What is read up to a character is all that stands before it. -/
theorem takeWhile_append_cons {p : Char → Bool} {front : List Char} {stop : Char}
    (inside : ∀ c ∈ front, p c = true) (outside : p stop ≠ true) (rest : List Char) :
    (front ++ stop :: rest).takeWhile p = front := by
  rw [List.takeWhile_append_of_pos inside, List.takeWhile_cons_of_neg outside, List.append_nil]

section Html

/-- Numbers that stand for characters other than the controls which have them. -/
def reassigned : List (Nat × Nat) :=
  [(0x80, 0x20ac), (0x82, 0x201a), (0x83, 0x192), (0x84, 0x201e), (0x85, 0x2026), (0x86, 0x2020),
    (0x87, 0x2021), (0x88, 0x2c6), (0x89, 0x2030), (0x8a, 0x160), (0x8b, 0x2039), (0x8c, 0x152),
    (0x8e, 0x17d), (0x91, 0x2018), (0x92, 0x2019), (0x93, 0x201c), (0x94, 0x201d), (0x95, 0x2022),
    (0x96, 0x2013), (0x97, 0x2014), (0x98, 0x2dc), (0x99, 0x2122), (0x9a, 0x161), (0x9b, 0x203a),
    (0x9c, 0x153), (0x9e, 0x17e), (0x9f, 0x178)]

/-- The character of a number. A number that no character may have stands for the replacement
character. -/
def numberedChar (n : Nat) : Char :=
  let n := (reassigned.lookup n).getD n
  if n ≠ 0 ∧ n.isValidChar then Char.ofNat n else '\ufffd'

/-- A reference by a number in decimal, or in hexadecimal behind an x. It may do without the semicolon
at its end. -/
def numbered? (cs : List Char) : Option (List Char × Nat) :=
  let (base, isDigit, mark) := match cs.head? with
    | some 'x' | some 'X' => (16, Number.isHexDigit, 1)
    | _ => (10, Char.isDigit, 0)
  let digits := (cs.drop mark).takeWhile isDigit
  let length := mark + digits.length
  if digits.isEmpty then none
  else some ([numberedChar (Number.ofDigits base digits)],
    if (cs.drop length).head? = some ';' then length + 1 else length)

/-- The names of references: what each stands for, and which of them are read without a semicolon
too. They are made of letters and digits. -/
structure Vocabulary where
  value? : List Char → Option (List Char)
  isOpen : List Char → Bool

/-- A reference by a name. One without a semicolon is none if a letter, a digit or an equals sign goes
on behind it, so that the parameters of an address keep their names. -/
def Vocabulary.named? (names : Vocabulary) (cs : List Char) : Option (List Char × Nat) :=
  let name := cs.takeWhile Char.isAlphanum
  match (cs.drop name.length).head? with
  | some ';' => (names.value? name).map (·, name.length + 1)
  | some '=' => none
  | _ => if names.isOpen name then (names.value? name).map (·, name.length) else none

/-- How HTML reads a reference in an attribute. -/
def Vocabulary.reading (names : Vocabulary) : Reading
  | '#' :: rest => (numbered? rest).map fun (value, length) => (value, length + 1)
  | cs => names.named? cs

/-- **A name** is read up to the semicolon behind it. -/
theorem Vocabulary.reading_name {names : Vocabulary} {name value : List Char}
    (plain : ∀ c ∈ name, c.isAlphanum = true) (found : names.value? name = some value)
    (rest : List Char) :
    names.reading (name ++ ';' :: rest) = some (value, name.length + 1) := by
  have word : (name ++ ';' :: rest).takeWhile Char.isAlphanum = name :=
    takeWhile_append_cons plain (by decide) rest
  have named : names.named? (name ++ ';' :: rest) = some (value, name.length + 1) := by
    simp [Vocabulary.named?, word, found]
  cases name with
  | nil => exact named
  | cons c name =>
    have letter : c ≠ '#' := by
      rintro rfl
      exact absurd (plain '#' List.mem_cons_self) (by decide)
    rw [← named, List.cons_append, Vocabulary.reading]
    simpa using letter

end Html

section Attributes

variable {reading : Reading} {c : Char}

theorem decoded_cons (other : c ≠ '&') (rest : List Char) :
    decoded reading (c :: rest) = c :: decoded reading rest := by
  rw [decoded, if_neg other]

theorem decoded_reference {value name rest : List Char}
    (read : reading (name ++ rest) = some (value, name.length)) :
    decoded reading ('&' :: (name ++ rest)) = value ++ decoded reading rest := by
  rw [decoded, if_pos rfl, read]
  simp

/-- **What is written into an attribute** does not end it. -/
theorem quote_notMem_inAttribute (cs : List Char) : '"' ∉ inAttribute cs := by
  intro mem
  obtain ⟨c, -, written⟩ := List.mem_flatMap.mp mem
  unfold attributeChar at written
  split at written
  · exact absurd written (by decide)
  · exact absurd written (by decide)
  · rename_i quote
    exact quote (List.mem_singleton.mp written).symm

/-- **A text is read back** from an attribute where its two references are read, even if it looks as if
it had references itself. -/
theorem decoded_inAttribute
    (amp : ∀ rest, reading ("amp;".toList ++ rest) = some (['&'], 4))
    (quot : ∀ rest, reading ("quot;".toList ++ rest) = some (['"'], 5)) (cs : List Char) :
    decoded reading (inAttribute cs) = cs := by
  induction cs with
  | nil => simp [inAttribute, decoded]
  | cons c cs ih =>
    rw [inAttribute, List.flatMap_cons]
    change decoded reading (attributeChar c ++ inAttribute cs) = c :: cs
    unfold attributeChar
    split
    · exact (decoded_reference (amp _)).trans (by rw [ih]; rfl)
    · exact (decoded_reference (quot _)).trans (by rw [ih]; rfl)
    · rename_i ampersand quote
      rw [List.singleton_append, decoded_cons ampersand, ih]

end Attributes

end PropForge.Text
