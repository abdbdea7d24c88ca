import PropForge.File.Tree
import PropForge.Proofs.Assoc
import PropForge.Proofs.Failure
import PropForge.Proofs.Json.NumberLiteral
import PropForge.Proofs.Json.StringLiteral
import PropForge.Proofs.Text.Blank

/-!
# Documents read back

* `wellFormed_of_parse`: what reading gives has numbers of the format, and each name once in an
  object;
* `readValue_write`: such a value is read back from its text;
* `parse_document`: so is a document, whose line breaks are all line feeds
  (`unifyBreaks_document`).
-/

namespace PropForge.Json

open Number (Binary64)
open Text (quoted)

/-- The values that texts can denote: numbers are of the format, and an object has each name
once. -/
inductive WellFormed : Json → Prop where
  | null : WellFormed null
  | bool (b : Bool) : WellFormed (bool b)
  | integer (n : Int) : WellFormed (integer n)
  | real {x : Binary64} (representable : x.Representable) : WellFormed (real x)
  | string (s : String) : WellFormed (string s)
  | array {items : List Json} (all : ∀ v ∈ items, WellFormed v) : WellFormed (array items)
  | object {fields : List (String × Json)} (once : (Assoc.keys fields).Nodup)
      (all : ∀ f ∈ fields, WellFormed f.2) : WellFormed (object fields)

section Space

theorem pastSpaces_append (spaces : List Char) (offset : Nat) {rest : List Char}
    (all : ∀ c ∈ spaces, isSpace c = true) (stop : ∀ c ∈ rest.head?, isSpace c = false) :
    (Cursor.mk (spaces ++ rest) offset).pastSpaces = ⟨rest, offset + spaces.length⟩ := by
  have run : (spaces ++ rest).takeWhile isSpace = spaces := by
    rw [List.takeWhile_append_of_pos all]
    cases rest with
    | nil => simp
    | cons c rest => simp [stop c rfl]
  simp only [Cursor.pastSpaces, Cursor.advance, run, List.drop_left]

theorem pastSpaces_of_stop {rest : List Char} {offset : Nat}
    (stop : ∀ c ∈ rest.head?, isSpace c = false) :
    (Cursor.mk rest offset).pastSpaces = ⟨rest, offset⟩ :=
  pastSpaces_append [] offset (fun _ h => by cases h) stop

theorem pastSpaces_newLine (level offset : Nat) (rest : List Char)
    (stop : ∀ c ∈ rest.head?, isSpace c = false) :
    ∃ after, (Cursor.mk (newLine level ++ rest) offset).pastSpaces = ⟨rest, after⟩ := by
  refine ⟨_, pastSpaces_append _ offset (fun c h => ?_) stop⟩
  rcases List.mem_cons.mp h with rfl | h
  · rfl
  · rw [List.eq_of_mem_replicate h]
    rfl

end Space

section Scalar

/-- What a value may start with: it is no space, no closing bracket and no byte order mark. -/
def opens (c : Char) : Bool := !isSpace c && c ≠ ']' && c ≠ '\ufeff'

theorem opens_of_isDigit {c : Char} (h : c.isDigit = true) : opens c = true := by
  obtain ⟨d, small, rfl⟩ := Number.eq_digitChar_of_isDigit h
  interval_cases d <;> rfl

theorem not_isSpace_of_opens {c : Char} (h : opens c = true) : isSpace c = false := by
  simp only [opens, Bool.and_eq_true, Bool.not_eq_true'] at h
  exact h.1.1

/-- A number starts with a digit, or with a minus sign and a digit. -/
theorem Denotes.head {cs : List Char} {v : Json} (h : Denotes cs v) :
    ∃ d tail, d.isDigit = true ∧ (cs = d :: tail ∨ cs = '-' :: d :: tail) := by
  obtain ⟨p, plain, rfl, -⟩ := h
  obtain ⟨d, ds, split⟩ := List.exists_cons_of_ne_nil plain.nonempty
  refine ⟨d, ds ++ (p.fractionText ++ p.exponentText), ?_, ?_⟩
  · exact plain.whole d (by rw [split]; exact List.mem_cons_self)
  · unfold NumberParts.text
    rw [split]
    cases p.negative
    · exact .inl rfl
    · exact .inr rfl

/-- No number begins with a word. -/
theorem noWord_of_denotes {cs : List Char} {v : Json} (h : Denotes cs v) (rest : List Char) :
    wordValues.find? (fun (w, _) => w.toList.isPrefixOf (cs ++ rest)) = none := by
  obtain ⟨d, tail, digit, rfl | rfl⟩ := h.head
  · obtain ⟨n, small, rfl⟩ := Number.eq_digitChar_of_isDigit digit
    interval_cases n <;> rfl
  · obtain ⟨n, small, rfl⟩ := Number.eq_digitChar_of_isDigit digit
    interval_cases n <;> rfl

theorem readScalar_number {cs rest : List Char} {v : Json} (h : Denotes cs v) (ends : Ends rest)
    (offset : Nat) : ∃ after, readScalar ⟨cs ++ rest, offset⟩ = .ok (v, ⟨rest, after⟩) := by
  unfold readScalar
  dsimp only
  rw [noWord_of_denotes h rest]
  obtain ⟨p, plain, rfl, rfl⟩ := h
  exact readNumber_text plain ends offset

/-- No word begins with another one. -/
theorem find?_word {w : String} {v : Json} (rest : List Char) (h : (w, v) ∈ wordValues) :
    wordValues.find? (fun (u, _) => u.toList.isPrefixOf (w.toList ++ rest)) = some (w, v) := by
  simp only [wordValues, List.mem_cons, Prod.mk.injEq, List.not_mem_nil, or_false] at h
  rcases h with ⟨rfl, rfl⟩ | ⟨rfl, rfl⟩ | ⟨rfl, rfl⟩ | ⟨rfl, rfl⟩ | ⟨rfl, rfl⟩ | ⟨rfl, rfl⟩ <;> rfl

theorem readScalar_word {w : String} {v : Json} (rest : List Char) (offset : Nat)
    (h : (w, v) ∈ wordValues) :
    ∃ after, readScalar ⟨w.toList ++ rest, offset⟩ = .ok (v, ⟨rest, after⟩) := by
  refine ⟨offset + w.length, ?_⟩
  unfold readScalar
  dsimp only
  rw [find?_word rest h]
  simp only [Cursor.advance, ← String.length_toList, List.drop_left]

/-- Values that are written without quotes and brackets. -/
def IsPlain : Json → Prop
  | string _ | array _ | object _ => False
  | _ => True

/-- What a plain value starts with. -/
def opensPlain (c : Char) : Bool := opens c && c ≠ '"' && c ≠ '[' && c ≠ '\x7b'

theorem opensPlain_of_isDigit {c : Char} (h : c.isDigit = true) : opensPlain c = true := by
  obtain ⟨d, small, rfl⟩ := Number.eq_digitChar_of_isDigit h
  interval_cases d <;> rfl

theorem Denotes.opensPlain {cs : List Char} {v : Json} (h : Denotes cs v) :
    ∃ c tail, cs = c :: tail ∧ opensPlain c = true := by
  obtain ⟨d, tail, digit, rfl | rfl⟩ := h.head
  · exact ⟨d, tail, rfl, opensPlain_of_isDigit digit⟩
  · exact ⟨'-', d :: tail, rfl, rfl⟩

/-- **Plain values**, as they are written: how they start and what they are read as. -/
theorem plain_write {v : Json} (h : WellFormed v) (plain : IsPlain v) (level : Nat) :
    (∃ c tail, write level v = c :: tail ∧ opensPlain c = true) ∧
      ∀ {rest : List Char} (offset : Nat), Ends rest →
        ∃ after, readScalar ⟨write level v ++ rest, offset⟩ = .ok (v, ⟨rest, after⟩) := by
  have word {w : String} {v : Json} (same : write level v = w.toList) (known : (w, v) ∈ wordValues)
      {rest : List Char} (offset : Nat) :
      ∃ after, readScalar ⟨write level v ++ rest, offset⟩ = .ok (v, ⟨rest, after⟩) := by
    rw [same]
    exact readScalar_word rest offset known
  have number {v : Json} (denotes : Denotes (write level v) v) :
      (∃ c tail, write level v = c :: tail ∧ opensPlain c = true) ∧
        ∀ {rest : List Char} (offset : Nat), Ends rest →
          ∃ after, readScalar ⟨write level v ++ rest, offset⟩ = .ok (v, ⟨rest, after⟩) :=
    ⟨denotes.opensPlain, fun offset ends => readScalar_number denotes ends offset⟩
  cases h with
  | null => exact ⟨⟨_, _, rfl, rfl⟩, fun o _ => word rfl (by simp [wordValues]) o⟩
  | bool b =>
    cases b
    · exact ⟨⟨_, _, rfl, rfl⟩, fun o _ => word rfl (by simp [wordValues]) o⟩
    · exact ⟨⟨_, _, rfl, rfl⟩, fun o _ => word rfl (by simp [wordValues]) o⟩
  | integer n => exact number (denotes_decimal n)
  | real representable =>
    cases representable with
    | finite negative whole => exact number (denotes_magnitudeText negative whole)
    | infinite negative =>
      cases negative
      · exact ⟨⟨_, _, rfl, rfl⟩, fun o _ => word (w := "Infinity") rfl (by simp [wordValues]) o⟩
      · exact ⟨⟨_, _, rfl, rfl⟩, fun o _ => word (w := "-Infinity") rfl (by simp [wordValues]) o⟩
    | nan => exact ⟨⟨_, _, rfl, rfl⟩, fun o _ => word rfl (by simp [wordValues]) o⟩
  | string s => exact plain.elim
  | array all => exact plain.elim
  | object once all => exact plain.elim

end Scalar

section Value

theorem opens_of_opensPlain {c : Char} (h : opensPlain c = true) : opens c = true := by
  simp only [opensPlain, Bool.and_eq_true] at h
  exact h.1.1.1

theorem write_opens {v : Json} (h : WellFormed v) (level : Nat) :
    ∃ c tail, write level v = c :: tail ∧ opens c = true := by
  by_cases plain : IsPlain v
  · obtain ⟨c, tail, same, first⟩ := (plain_write h plain level).1
    exact ⟨c, tail, same, opens_of_opensPlain first⟩
  · cases h with
    | string s => exact ⟨_, _, rfl, rfl⟩
    | array all =>
      rename_i items
      cases items <;> exact ⟨_, _, rfl, rfl⟩
    | object once all =>
      rename_i fields
      cases fields <;> exact ⟨_, _, rfl, rfl⟩
    | _ => exact absurd trivial plain

/-- No space comes in front of a value. -/
theorem not_space_of_write {v : Json} (h : WellFormed v) (level : Nat) (rest : List Char) :
    ∀ c ∈ (write level v ++ rest).head?, isSpace c = false := by
  obtain ⟨c, tail, same, first⟩ := write_opens h level
  intro d hd
  rw [same] at hd
  cases hd
  exact not_isSpace_of_opens first

/-- The value is read from its text at any level, with a step of fuel for each character. -/
def ReadsBack (v : Json) : Prop :=
  ∀ (level fuel offset : Nat) {rest : List Char}, (write level v).length ≤ fuel → Ends rest →
    ∃ after, readValue fuel ⟨write level v ++ rest, offset⟩ = .ok (v, ⟨rest, after⟩)

theorem readValue_of_opensPlain {c : Char} {cs : List Char} {fuel offset : Nat}
    (first : opensPlain c = true) :
    readValue (fuel + 1) ⟨c :: cs, offset⟩ = readScalar ⟨c :: cs, offset⟩ := by
  simp only [opensPlain, Bool.and_eq_true, decide_eq_true_eq] at first
  unfold readValue
  dsimp only
  split <;> simp_all

theorem readsBack_of_plain {v : Json} (h : WellFormed v) (plain : IsPlain v) : ReadsBack v := by
  intro level fuel offset rest enough ends
  obtain ⟨⟨c, tail, same, first⟩, read⟩ := plain_write h plain level
  obtain ⟨after, read⟩ := read offset ends
  refine ⟨after, ?_⟩
  rw [same] at enough
  obtain ⟨fuel, rfl⟩ : ∃ n, fuel = n + 1 := ⟨fuel - 1, by simp at enough; omega⟩
  rw [same, List.cons_append] at read ⊢
  rw [readValue_of_opensPlain first, read]

theorem readValue_quote {fuel offset : Nat} {rest : List Char} {s : String} {c : Cursor}
    (read : readString offset [] (offset + 1) rest = .ok (s, c)) :
    readValue (fuel + 1) ⟨'"' :: rest, offset⟩ = .ok (string s, c) := by
  rw [readValue]
  change Except.bind (readString offset [] (offset + 1) rest) _ = _
  rw [read]
  rfl

theorem readValue_bracket {fuel offset after : Nat} {rest tail : List Char} {c : Char}
    (spaces : (Cursor.mk rest (offset + 1)).pastSpaces = ⟨c :: tail, after⟩) (some : c ≠ ']') :
    readValue (fuel + 1) ⟨'[' :: rest, offset⟩ = readItems fuel [] ⟨c :: tail, after⟩ := by
  have inside : ((Cursor.mk ('[' :: rest) offset).advance 1).pastSpaces = _ := spaces
  rw [readValue]
  change (if ((Cursor.mk ('[' :: rest) offset).advance 1).pastSpaces.rest.head? = _ then _
    else readItems fuel [] ((Cursor.mk ('[' :: rest) offset).advance 1).pastSpaces) = _
  rw [inside, if_neg (by simpa using some)]

theorem readValue_brace {fuel offset after : Nat} {rest tail : List Char} {c : Char}
    (spaces : (Cursor.mk rest (offset + 1)).pastSpaces = ⟨c :: tail, after⟩) (some : c ≠ '\x7d') :
    readValue (fuel + 1) ⟨'\x7b' :: rest, offset⟩ = readFields fuel [] ⟨c :: tail, after⟩ := by
  have inside : ((Cursor.mk ('\x7b' :: rest) offset).advance 1).pastSpaces = _ := spaces
  rw [readValue]
  change (if ((Cursor.mk ('\x7b' :: rest) offset).advance 1).pastSpaces.rest.head? = _ then _
    else readFields fuel [] ((Cursor.mk ('\x7b' :: rest) offset).advance 1).pastSpaces) = _
  rw [inside, if_neg (by simpa using some)]

theorem readsBack_string (s : String) : ReadsBack (string s) := by
  intro level fuel offset rest enough ends
  obtain ⟨fuel, rfl⟩ : ∃ n, fuel = n + 1 := ⟨fuel - 1, by
    have : 0 < (write level (string s)).length := by simp [write, quoted]
    omega⟩
  obtain ⟨after, read⟩ := readString_quoted offset (offset + 1) s rest
  refine ⟨after, ?_⟩
  rw [quoted, List.cons_append, List.drop_one, List.tail_cons] at read
  rw [write, quoted, List.cons_append, readValue_quote read]

/-- What stands behind the last item of an array or the last field of an object. -/
theorem ends_newLine (level : Nat) (rest : List Char) : Ends (newLine level ++ rest) :=
  ⟨'\n', _, rfl, .inr rfl⟩

theorem ends_writeItems (level outer : Nat) (items : List Json) (rest : List Char) :
    Ends (writeItems level items ++ (newLine outer ++ rest)) := by
  cases items with
  | nil => exact ends_newLine outer rest
  | cons item items => exact ⟨',', _, rfl, .inl rfl⟩

/-- The items of an array, from the first one on. -/
theorem readItems_write {items : List Json} {item : Json} (level outer fuel offset : Nat)
    (rest : List Char) (done : List Json)
    (all : ∀ v ∈ item :: items, WellFormed v ∧ ReadsBack v)
    (enough : (write level item).length + (writeItems level items).length + 1 ≤ fuel) :
    ∃ after, readItems fuel done
        ⟨write level item ++ (writeItems level items ++ (newLine outer ++ ']' :: rest)), offset⟩ =
      .ok (array (done.reverse ++ item :: items), ⟨rest, after⟩) := by
  induction items generalizing item done offset fuel with
  | nil =>
    obtain ⟨fuel, rfl⟩ : ∃ n, fuel = n + 1 := ⟨fuel - 1, by omega⟩
    obtain ⟨after, read⟩ := (all item List.mem_cons_self).2 level fuel offset (by omega)
      (ends_newLine outer (']' :: rest))
    obtain ⟨last, space⟩ := pastSpaces_newLine outer after (']' :: rest)
      fun c h => by cases h; rfl
    rw [readItems, writeItems, List.nil_append, read]
    dsimp only [bind, Except.bind]
    rw [space]
    exact ⟨last + 1, by rw [List.reverse_cons]; rfl⟩
  | cons next items ih =>
    obtain ⟨fuel, rfl⟩ : ∃ n, fuel = n + 1 := ⟨fuel - 1, by omega⟩
    obtain ⟨after, read⟩ := (all item List.mem_cons_self).2 level fuel offset (by omega)
      (ends_writeItems level outer (next :: items) (']' :: rest))
    have follow := fun v hv => all v (List.mem_cons_of_mem item hv)
    obtain ⟨last, space⟩ := pastSpaces_newLine level (after + 1)
      (write level next ++ (writeItems level items ++ (newLine outer ++ ']' :: rest)))
      (not_space_of_write (follow next List.mem_cons_self).1 level _)
    have enough' : (write level next).length + (writeItems level items).length + 1 ≤ fuel := by
      simp only [writeItems, List.length_cons, List.length_append] at enough
      omega
    obtain ⟨final, more⟩ := ih fuel last (item :: done) follow enough'
    refine ⟨final, ?_⟩
    have comma : writeItems level (next :: items) ++ (newLine outer ++ ']' :: rest) =
        ',' :: (newLine level ++
          (write level next ++ (writeItems level items ++ (newLine outer ++ ']' :: rest)))) := by
      simp only [writeItems, List.cons_append, List.append_assoc]
    rw [comma] at read ⊢
    rw [readItems, read]
    dsimp only [bind, Except.bind]
    rw [pastSpaces_of_stop fun c h => by cases h; rfl]
    change readItems fuel (item :: done) (Cursor.mk (newLine level ++ _) (after + 1)).pastSpaces = _
    rw [space, more, List.reverse_cons, List.append_assoc]
    rfl

theorem readsBack_array {items : List Json} (all : ∀ v ∈ items, WellFormed v ∧ ReadsBack v) :
    ReadsBack (array items) := by
  intro level fuel offset rest enough ends
  obtain ⟨fuel, rfl⟩ : ∃ n, fuel = n + 1 := ⟨fuel - 1, by
    have : 0 < (write level (array items)).length := by cases items <;> simp [write]
    omega⟩
  cases items with
  | nil =>
    exact ⟨offset + 1 + 1, rfl⟩
  | cons item items =>
    have shape : write level (array (item :: items)) ++ rest =
        '[' :: (newLine (level + 1) ++ (write (level + 1) item ++
          (writeItems (level + 1) items ++ (newLine level ++ ']' :: rest)))) := by
      simp only [write, List.cons_append, List.append_assoc, List.nil_append]
    obtain ⟨c, tail, first, opens⟩ := write_opens (all item List.mem_cons_self).1 (level + 1)
    obtain ⟨after, space⟩ := pastSpaces_newLine (level + 1) (offset + 1)
      (write (level + 1) item ++
        (writeItems (level + 1) items ++ (newLine level ++ ']' :: rest)))
      (not_space_of_write (all item List.mem_cons_self).1 _ _)
    obtain ⟨last, read⟩ := readItems_write (level + 1) level fuel after rest [] all (by
        simp only [write, newLine, List.length_cons, List.length_append] at enough
        omega)
    refine ⟨last, ?_⟩
    rw [first, List.cons_append] at space read
    rw [shape, first, List.cons_append]
    rw [readValue_bracket space (by rintro rfl; cases opens), read]
    rfl

/-- One field: its name, its value, and what is done with what follows. -/
theorem readFields_field {fuel offset after colon start : Nat} {body tail rest spaces : List Char}
    {name : String} {v : Json} {done : List (String × Json)}
    (read : readString offset [] (offset + 1) body = .ok (name, ⟨':' :: tail, colon⟩))
    (space : (Cursor.mk tail (colon + 1)).pastSpaces = ⟨rest, start⟩)
    (value : readValue fuel ⟨rest, start⟩ = .ok (v, ⟨spaces, after⟩)) :
    readFields (fuel + 1) done ⟨'"' :: body, offset⟩ =
      match (Cursor.mk spaces after).pastSpaces.rest with
      | '\x7d' :: _ => .ok (object (Assoc.put name v done),
          (Cursor.mk spaces after).pastSpaces.advance 1)
      | ',' :: _ => readFields fuel (Assoc.put name v done)
          ((Cursor.mk spaces after).pastSpaces.advance 1).pastSpaces
      | _ => (Cursor.mk spaces after).pastSpaces.fail .expectingComma := by
  have stop : (Cursor.mk (':' :: tail) colon).pastSpaces = ⟨':' :: tail, colon⟩ :=
    pastSpaces_of_stop fun c h => by cases h; rfl
  rw [readFields]
  change Except.bind (readString offset [] (offset + 1) body) _ = _
  rw [read]
  dsimp only [Except.bind]
  rw [stop]
  change Except.bind (readValue fuel (Cursor.mk tail (colon + 1)).pastSpaces) _ = _
  rw [space, value]
  rfl

theorem readFields_one {v : Json} (h : WellFormed v) (readsBack : ReadsBack v) (name : String)
    (level fuel offset : Nat) (done : List (String × Json)) {follow : List Char}
    (enough : (write level v).length ≤ fuel) (ends : Ends follow) :
    ∃ after, readFields (fuel + 1) done
        ⟨quoted name.toList ++ ':' :: ' ' :: (write level v ++ follow), offset⟩ =
      match (Cursor.mk follow after).pastSpaces.rest with
      | '\x7d' :: _ => .ok (object (Assoc.put name v done),
          (Cursor.mk follow after).pastSpaces.advance 1)
      | ',' :: _ => readFields fuel (Assoc.put name v done)
          ((Cursor.mk follow after).pastSpaces.advance 1).pastSpaces
      | _ => (Cursor.mk follow after).pastSpaces.fail .expectingComma := by
  obtain ⟨colon, read⟩ := readString_quoted offset (offset + 1) name
    (':' :: ' ' :: (write level v ++ follow))
  have space := pastSpaces_append [' '] (colon + 1)
    (fun c h => by rw [List.mem_singleton.mp h]; rfl) (not_space_of_write h level follow)
  obtain ⟨after, value⟩ := readsBack level fuel _ enough ends
  refine ⟨after, ?_⟩
  rw [quoted, List.cons_append, List.drop_one, List.tail_cons] at read
  rw [quoted, List.cons_append]
  exact readFields_field read space value

theorem new_of_nodup {done fields : List (String × Json)} {name : String} {v : Json}
    (once : (Assoc.keys (done ++ (name, v) :: fields)).Nodup) : name ∉ Assoc.keys done := by
  rw [Assoc.keys, List.map_append, List.nodup_append] at once
  intro h
  exact once.2.2 name h name (by simp) rfl

/-- The fields of an object, from the first one on, with names that were not there before. -/
theorem readFields_write {fields : List (String × Json)} {name : String} {v : Json}
    (level outer fuel offset : Nat) (rest : List Char) (done : List (String × Json))
    (all : ∀ f ∈ (name, v) :: fields, WellFormed f.2 ∧ ReadsBack f.2)
    (once : (Assoc.keys (done ++ (name, v) :: fields)).Nodup)
    (enough : (write level v).length + (writeFields level fields).length + 1 ≤ fuel) :
    ∃ after, readFields fuel done ⟨quoted name.toList ++ ':' :: ' ' :: (write level v ++
        (writeFields level fields ++ (newLine outer ++ '\x7d' :: rest))), offset⟩ =
      .ok (object (done ++ (name, v) :: fields), ⟨rest, after⟩) := by
  obtain ⟨fuel, rfl⟩ : ∃ n, fuel = n + 1 := ⟨fuel - 1, by omega⟩
  induction fields generalizing name v done offset fuel with
  | nil =>
    obtain ⟨wellFormed, readsBack⟩ : WellFormed v ∧ ReadsBack v := all (name, v) List.mem_cons_self
    obtain ⟨after, read⟩ := readFields_one wellFormed readsBack name level fuel offset done
      (by omega) (ends_newLine outer ('\x7d' :: rest))
    obtain ⟨last, space⟩ := pastSpaces_newLine outer after ('\x7d' :: rest)
      fun c h => by cases h; rfl
    rw [writeFields, List.nil_append, read, space, Assoc.put_of_notMem v (new_of_nodup once)]
    exact ⟨last + 1, rfl⟩
  | cons next fields ih =>
    obtain ⟨wellFormed, readsBack⟩ : WellFormed v ∧ ReadsBack v := all (name, v) List.mem_cons_self
    obtain ⟨nextName, w⟩ := next
    have comma : writeFields level ((nextName, w) :: fields) ++ (newLine outer ++ '\x7d' :: rest) =
        ',' :: (newLine level ++ (quoted nextName.toList ++ ':' :: ' ' :: (write level w ++
          (writeFields level fields ++ (newLine outer ++ '\x7d' :: rest))))) := by
      simp only [writeFields, List.cons_append, List.append_assoc]
    have ends : Ends (writeFields level ((nextName, w) :: fields) ++
        (newLine outer ++ '\x7d' :: rest)) := ⟨',', _, comma, .inl rfl⟩
    obtain ⟨after, read⟩ := readFields_one wellFormed readsBack name level fuel offset done
      (by omega) ends
    obtain ⟨last, space⟩ := pastSpaces_newLine level (after + 1)
      (quoted nextName.toList ++ ':' :: ' ' :: (write level w ++
          (writeFields level fields ++ (newLine outer ++ '\x7d' :: rest))))
      fun c h => by cases h; rfl
    simp only [writeFields, List.length_cons, List.length_append] at enough
    obtain ⟨fuel, rfl⟩ : ∃ n, fuel = n + 1 := ⟨fuel - 1, by omega⟩
    obtain ⟨final, more⟩ := ih last (done ++ [(name, v)])
      (fun f hf => all f (List.mem_cons_of_mem _ hf))
      (by rw [List.append_assoc]; exact once) fuel (by omega)
    refine ⟨final, ?_⟩
    rw [comma] at read ⊢
    rw [read, pastSpaces_of_stop fun c h => by cases h; rfl]
    change readFields _ (Assoc.put name v done)
      (Cursor.mk (newLine level ++ _) (after + 1)).pastSpaces = _
    rw [space, Assoc.put_of_notMem v (new_of_nodup once), more, List.append_assoc]
    rfl

theorem readsBack_object {fields : List (String × Json)} (once : (Assoc.keys fields).Nodup)
    (all : ∀ f ∈ fields, WellFormed f.2 ∧ ReadsBack f.2) : ReadsBack (object fields) := by
  intro level fuel offset rest enough ends
  obtain ⟨fuel, rfl⟩ : ∃ n, fuel = n + 1 := ⟨fuel - 1, by
    have : 0 < (write level (object fields)).length := by cases fields <;> simp [write]
    omega⟩
  cases fields with
  | nil => exact ⟨offset + 1 + 1, rfl⟩
  | cons field fields =>
    obtain ⟨name, v⟩ := field
    have shape : write level (object ((name, v) :: fields)) ++ rest =
        '\x7b' :: (newLine (level + 1) ++ (quoted name.toList ++ ':' :: ' ' ::
          (write (level + 1) v ++
            (writeFields (level + 1) fields ++ (newLine level ++ '\x7d' :: rest))))) := by
      simp only [write, List.cons_append, List.append_assoc, List.nil_append]
    obtain ⟨after, space⟩ := pastSpaces_newLine (level + 1) (offset + 1)
      (quoted name.toList ++ ':' :: ' ' :: (write (level + 1) v ++
        (writeFields (level + 1) fields ++ (newLine level ++ '\x7d' :: rest))))
      fun c h => by cases h; rfl
    obtain ⟨last, read⟩ := readFields_write (level + 1) level fuel after rest [] all once (by
        simp only [write, newLine, List.length_cons, List.length_append] at enough
        omega)
    refine ⟨last, ?_⟩
    rw [quoted, List.cons_append] at space read
    rw [shape, quoted, List.cons_append, readValue_brace space (by decide), read]
    rfl

/-- **Values read back** from their text. -/
theorem readValue_write {v : Json} (h : WellFormed v) : ReadsBack v := by
  induction h with
  | null => exact readsBack_of_plain .null trivial
  | bool b => exact readsBack_of_plain (.bool b) trivial
  | integer n => exact readsBack_of_plain (.integer n) trivial
  | real representable => exact readsBack_of_plain (.real representable) trivial
  | string s => exact readsBack_string s
  | array all ih => exact readsBack_array fun v hv => ⟨all v hv, ih v hv⟩
  | object once all ih => exact readsBack_object once fun f hf => ⟨all f hf, ih f hf⟩

end Value

section Reading

theorem wellFormed_value (p : NumberParts) : WellFormed p.value := by
  unfold NumberParts.value
  dsimp only
  split
  · exact .integer _
  · exact .real (Binary64.representable_ofDecimal _ _ _)

theorem wellFormed_readScalar {c after : Cursor} {v : Json} (h : readScalar c = .ok (v, after)) :
    WellFormed v := by
  unfold readScalar at h
  split at h
  · rename_i w u found
    cases h
    have known := List.mem_of_find?_eq_some found
    simp only [wordValues, List.mem_cons, Prod.mk.injEq, List.not_mem_nil, or_false] at known
    obtain ⟨-, rfl⟩ | ⟨-, rfl⟩ | ⟨-, rfl⟩ | ⟨-, rfl⟩ | ⟨-, rfl⟩ | ⟨-, rfl⟩ := known
    · exact .null
    · exact .bool true
    · exact .bool false
    · exact .real .nan
    · exact .real (.infinite false)
    · exact .real (.infinite true)
  · unfold readNumber at h
    dsimp only at h
    split at h
    · cases h
    · cases h
      exact wellFormed_value _

/-- What is read of an object so far: each name once. -/
structure Gathered (done : List (String × Json)) : Prop where
  once : (Assoc.keys done).Nodup
  all : ∀ f ∈ done, WellFormed f.2

theorem gathered_nil : Gathered [] where
  once := by simp [Assoc.keys]
  all _ h := by cases h

theorem Gathered.put {done : List (String × Json)} (h : Gathered done) (name : String) {v : Json}
    (hv : WellFormed v) : Gathered (Assoc.put name v done) where
  once := Assoc.nodup_keys_put h.once
  all f hf := by
    rcases Assoc.mem_put hf with rfl | hf
    · exact hv
    · exact h.all f hf

/-- What the readers give is well formed, whatever they have gathered before. -/
theorem wellFormed_read (fuel : Nat) :
    (∀ {c after v}, readValue fuel c = .ok (v, after) → WellFormed v) ∧
    (∀ {done c after v}, (∀ w ∈ done, WellFormed w) →
      readItems fuel done c = .ok (v, after) → WellFormed v) ∧
    (∀ {done c after v}, Gathered done →
      readFields fuel done c = .ok (v, after) → WellFormed v) := by
  induction fuel with
  | zero =>
    refine ⟨fun h => ?_, fun _ h => ?_, fun _ h => ?_⟩
    · rw [readValue] at h; cases h
    · rw [readItems] at h; cases h
    · rw [readFields] at h; cases h
  | succ fuel ih =>
    obtain ⟨value, items, fields⟩ := ih
    refine ⟨fun {c after v} h => ?_, fun {done c after v} all h => ?_,
      fun {done c after v} gathered h => ?_⟩
    · rw [readValue] at h
      split at h
      · obtain ⟨⟨s, c⟩, -, h⟩ := exists_of_bind_eq_ok h
        cases h
        exact .string s
      · dsimp only at h
        split at h
        · cases h
          exact .array fun _ hv => by cases hv
        · exact items (fun _ hv => by cases hv) h
      · dsimp only at h
        split at h
        · cases h
          exact .object List.nodup_nil fun _ hv => by cases hv
        · exact fields gathered_nil h
      · exact wellFormed_readScalar h
    · rw [readItems] at h
      obtain ⟨⟨w, c⟩, read, h⟩ := exists_of_bind_eq_ok h
      have more : ∀ u ∈ w :: done, WellFormed u := by
        intro u hu
        rcases List.mem_cons.mp hu with rfl | hu
        · exact value read
        · exact all u hu
      dsimp only at h
      split at h
      · cases h
        exact .array fun u hu => more u (List.mem_reverse.mp hu)
      · exact items more h
      · cases h
    · rw [readFields] at h
      split at h
      · obtain ⟨⟨name, c⟩, -, h⟩ := exists_of_bind_eq_ok h
        dsimp only at h
        split at h
        · cases h
        · obtain ⟨⟨w, c⟩, read, h⟩ := exists_of_bind_eq_ok h
          have more := gathered.put name (value read)
          dsimp only at h
          split at h
          · cases h
            exact .object more.once more.all
          · exact fields more h
          · cases h
      · cases h

/-- **What a text denotes** is well formed. -/
theorem wellFormed_of_parse {text : List Char} {v : Json} (h : parse text = .ok v) :
    WellFormed v := by
  unfold parse at h
  split at h
  · cases h
  · obtain ⟨⟨w, c⟩, read, h⟩ := exists_of_bind_eq_ok h
    dsimp only at h
    split at h
    · cases h
      exact (wellFormed_read _).1 read
    · cases h

end Reading

section Document

/-- **Documents read back.** -/
theorem parse_document {v : Json} (h : WellFormed v) : parse (document v).toList = .ok v := by
  obtain ⟨c, tail, same, first⟩ := write_opens h 0
  have mark : (write 0 v ++ ['\n']).head? ≠ some '\ufeff' := by
    rw [same]
    rintro bad
    cases bad
    cases first
  obtain ⟨after, read⟩ := readValue_write h 0 (2 * (write 0 v ++ ['\n']).length + 2) 0
    (by simp; omega) ⟨'\n', [], rfl, .inr rfl⟩
  have front : (Cursor.mk (write 0 v ++ ['\n']) 0).pastSpaces = ⟨write 0 v ++ ['\n'], 0⟩ :=
    pastSpaces_of_stop (not_space_of_write h 0 ['\n'])
  rw [document, String.toList_ofList, parse, if_neg mark, front, read]
  rfl

/-- A document that something follows is none. -/
theorem parse_document_append {v : Json} (h : WellFormed v) {c : Char} {rest : List Char}
    (follows : isSpace c = false) :
    ∃ fault, parse ((document v).toList ++ c :: rest) = .error fault := by
  obtain ⟨first, tail, same, opens⟩ := write_opens h 0
  let text := write 0 v ++ '\n' :: c :: rest
  have mark : text.head? ≠ some '\ufeff' := by
    unfold text
    rw [same]
    rintro bad
    cases bad
    cases opens
  obtain ⟨after, read⟩ := readValue_write h 0 (2 * text.length + 2) 0 (by simp [text]; omega)
    ⟨'\n', c :: rest, rfl, .inr rfl⟩
  have front : (Cursor.mk text 0).pastSpaces = ⟨text, 0⟩ :=
    pastSpaces_of_stop (not_space_of_write h 0 _)
  obtain ⟨last, back⟩ : ∃ last, (Cursor.mk ('\n' :: c :: rest) after).pastSpaces = ⟨c :: rest, last⟩ :=
    pastSpaces_newLine 0 after (c :: rest) fun d hd => by cases hd; exact follows
  refine ⟨⟨.extraData, last⟩, ?_⟩
  have whole : (document v).toList ++ c :: rest = text := by simp [document, text]
  rw [whole, parse, if_neg mark, front, read]
  change (if (Cursor.mk ('\n' :: c :: rest) after).pastSpaces.rest.isEmpty then _ else
    (Cursor.mk ('\n' :: c :: rest) after).pastSpaces.fail .extraData) = _
  rw [back]
  rfl

/-- A literal holds no carriage return, because it is printable. -/
theorem return_notMem_quoted (cs : List Char) : '\r' ∉ quoted cs := fun h =>
  absurd (Text.isPrintable_of_mem_quoted h) (by decide)

theorem return_notMem_of_denotes {cs : List Char} {v : Json} (h : Denotes cs v) : '\r' ∉ cs := by
  obtain ⟨p, plain, rfl, -⟩ := h
  have none {ds : List Char} (all : AllDigits ds) : '\r' ∉ ds := fun h => by cases all _ h
  have whole := none plain.whole
  have fraction := none plain.fraction
  have exponent := none plain.exponent
  unfold NumberParts.text NumberParts.fractionText NumberParts.exponentText
  cases p.negative <;> cases p.negativeExponent <;> cases p.fraction.isEmpty <;>
    cases p.exponent.isEmpty <;> simp [whole, fraction, exponent]

theorem return_notMem_newLine (level : Nat) : '\r' ∉ newLine level := by
  simp [newLine]

theorem return_notMem_writeItems {items : List Json} (level : Nat)
    (all : ∀ v ∈ items, '\r' ∉ write level v) : '\r' ∉ writeItems level items := by
  induction items with
  | nil => simp [writeItems]
  | cons v items ih =>
    have one := all v List.mem_cons_self
    have more := ih fun u hu => all u (List.mem_cons_of_mem v hu)
    simp [writeItems, return_notMem_newLine, one, more]

theorem return_notMem_writeFields {fields : List (String × Json)} (level : Nat)
    (all : ∀ f ∈ fields, '\r' ∉ write level f.2) : '\r' ∉ writeFields level fields := by
  induction fields with
  | nil => simp [writeFields]
  | cons f fields ih =>
    have one := all f List.mem_cons_self
    have more := ih fun u hu => all u (List.mem_cons_of_mem f hu)
    simp [writeFields, return_notMem_newLine, return_notMem_quoted, one, more]

theorem return_notMem_write {v : Json} (h : WellFormed v) (level : Nat) :
    '\r' ∉ write level v := by
  induction h generalizing level with
  | null => rw [write]; decide
  | bool b => cases b <;> rw [write] <;> decide
  | integer n => exact return_notMem_of_denotes (denotes_decimal n)
  | real representable =>
    cases representable with
    | finite negative whole =>
      exact return_notMem_of_denotes (denotes_magnitudeText negative whole)
    | infinite negative => cases negative <;> rw [write] <;> decide
    | nan => rw [write]; decide
  | string s => exact return_notMem_quoted s.toList
  | array all ih =>
    rename_i items
    cases items with
    | nil => rw [write]; decide
    | cons v items =>
      have one := ih v List.mem_cons_self (level + 1)
      have more := return_notMem_writeItems (level + 1) fun u hu =>
        ih u (List.mem_cons_of_mem v hu) (level + 1)
      simp [write, return_notMem_newLine, one, more]
  | object once all ih =>
    rename_i fields
    cases fields with
    | nil => rw [write]; decide
    | cons f fields =>
      have one := ih f List.mem_cons_self (level + 1)
      have more := return_notMem_writeFields (level + 1) fun u hu =>
        ih u (List.mem_cons_of_mem f hu) (level + 1)
      simp [write, return_notMem_newLine, return_notMem_quoted, one, more]

theorem return_notMem_document {v : Json} (h : WellFormed v) : '\r' ∉ (document v).toList := by
  rw [document, String.toList_ofList]
  simp [return_notMem_write h 0]

/-- A document's line breaks are all line feeds already. -/
theorem unifyBreaks_document {v : Json} (h : WellFormed v) :
    Text.unifyBreaks (document v).toList = (document v).toList :=
  Text.unifyBreaks_of_notMem (return_notMem_document h)

/-- A file that holds a document has it for its text. -/
theorem readText_document {v : Json} (h : WellFormed v) :
    (Content.text (document v)).readText = .ok (document v) := by
  change Except.ok (String.ofList (Text.unifyBreaks (document v).toList)) = _
  rw [unifyBreaks_document h, String.ofList_toList]

/-- What a file holds is no document if something follows one there. -/
theorem readText_document_append {v : Json} (h : WellFormed v) {more : String} {c : Char}
    {rest : List Char} (begins : more.toList = c :: rest) (follows : isSpace c = false) :
    ∃ text fault, (Content.text (document v ++ more)).readText = .ok text ∧
      parse text.toList = .error fault := by
  have plain : '\r' ∉ [c] := by
    rw [List.mem_singleton]
    rintro rfl
    cases follows
  have same : Text.unifyBreaks (document v ++ more).toList =
      (document v).toList ++ c :: Text.unifyBreaks rest := by
    rw [String.toList_append, begins, Text.unifyBreaks_append (return_notMem_document h),
      ← List.singleton_append, Text.unifyBreaks_append plain]
    rfl
  obtain ⟨fault, bad⟩ := parse_document_append h follows
  refine ⟨_, fault, rfl, ?_⟩
  rw [String.toList_ofList, same, bad]

/-- What a file holds is no document if a text that starts with a digit follows one there. -/
theorem readText_document_digit {v : Json} (h : WellFormed v) {more : String}
    (digit : ∀ c ∈ more.toList.head?, c.isDigit = true) (some : more ≠ "") :
    ∃ text fault, (Content.text (document v ++ more)).readText = .ok text ∧
      parse text.toList = .error fault := by
  obtain ⟨c, rest, begins⟩ := List.exists_cons_of_ne_nil (mt String.toList_eq_nil_iff.mp some)
  have first : c.isDigit = true := digit c (by rw [begins]; rfl)
  exact readText_document_append h begins (not_isSpace_of_opens (opens_of_isDigit first))

end Document

end PropForge.Json
