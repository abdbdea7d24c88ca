import PropForge.Extraction
import PropForge.Proofs.Component.Descriptions
import PropForge.Proofs.Text.Blank

/-!
# Descriptions read again

A description is what a documentation comment says in its lines up to the first tag. The generated
files give it in a comment of one line. The stars at the front of a line count as part of the comment's
frame, and so does a star that the description itself begins with:

* `isDescription_of_commentDescription`: what is known of a description that a comment gives;
* `commentDescription_descriptionComment`: what the generated comment says;
* `description_read_back_iff`: which descriptions it gives back.
-/

namespace PropForge.Extraction

open Template (commentText onChars)
open Text (Trimmed strip lines isLineBreak commentEnd)
open TypeScript (commentLength blockCommentTail exists_of_blockCommentTail)

/-- A text on one line, without blanks around it and without a mark that ends a comment. -/
structure IsDescription (cs : List Char) : Prop where
  ne : cs ≠ []
  trimmed : Trimmed cs
  unbroken : ∀ c ∈ cs, isLineBreak c = false
  unended : ¬ commentEnd <:+: cs

section Lines

theorem IsDescription.append {cs ds : List Char} (h : IsDescription cs) (h' : IsDescription ds) :
    IsDescription (cs ++ ' ' :: ds) where
  ne := by simp
  trimmed := by
    constructor
    · intro c hc
      rw [List.head?_append_of_ne_nil _ h.ne] at hc
      exact h.trimmed.first c hc
    · intro c hc
      rw [List.getLast?_append_of_ne_nil _ (List.cons_ne_nil _ _),
        List.getLast?_cons_of_ne_nil h'.ne] at hc
      exact h'.trimmed.last c hc
  unbroken := by
    intro c hc
    rcases List.mem_append.mp hc with front | back
    · exact h.unbroken c front
    · rcases List.mem_cons.mp back with rfl | back
      · decide
      · exact h'.unbroken c back
  unended := by
    refine Text.not_commentEnd_infix_append h.unended ?_ (by simp)
    rw [Text.commentEnd_infix_cons, not_or]
    exact ⟨fun star => absurd star.1 (by decide), h'.unended⟩

/-- The lines of a description, joined, are one that begins like the first. -/
theorem isDescription_intercalate {w : List Char} {ws : List (List Char)}
    (h : ∀ l ∈ w :: ws, IsDescription l) :
    IsDescription ([' '].intercalate (w :: ws)) ∧
      ([' '].intercalate (w :: ws)).head? = w.head? := by
  induction ws generalizing w with
  | nil => simpa [List.intercalate] using h
  | cons u ws ih =>
    obtain ⟨first, later⟩ := List.forall_mem_cons.mp h
    rw [List.intercalate_cons_cons, List.append_assoc]
    exact ⟨first.append (ih later).1, List.head?_append_of_ne_nil _ first.ne⟩

theorem commentLine_isInfix (l : List Char) : commentLine l <:+: l :=
  (Text.strip_isInfix _).trans ((List.dropWhile_suffix _).isInfix.trans (Text.strip_isInfix l))

/-- A part of a comment before its end holds no end mark. -/
theorem body_unended {comment : List Char} (whole : commentLength comment = comment.length)
    (doc : "/**".toList.isPrefixOf comment = true) :
    ¬ commentEnd <:+: (comment.take (comment.length - 2)).drop 3 := by
  obtain ⟨rest, rfl⟩ := List.isPrefixOf_iff_prefix.mp doc
  have tail : blockCommentTail ('*' :: rest) = some (rest.length + 1) := by
    have size : ("/**".toList ++ rest).length = rest.length + 3 := by simp
    have shape : "/**".toList ++ rest = '/' :: '*' :: '*' :: rest := rfl
    rw [size, shape, commentLength] at whole
    cases found : blockCommentTail ('*' :: rest) with
    | none => simp [found] at whole
    | some n =>
      simp only [found] at whole
      exact congrArg some (Nat.add_right_cancel whole)
  obtain ⟨before, after, split, length, clean⟩ := exists_of_blockCommentTail tail
  have last : after = [] := by
    have total := congrArg List.length split
    simp only [List.length_cons, List.length_append, commentEnd, List.length_nil] at total
    exact List.eq_nil_of_length_eq_zero (by omega)
  subst last
  have body : (("/**".toList ++ rest).take (("/**".toList ++ rest).length - 2)).drop 3 =
      before.drop 1 := by
    have shape : "/**".toList ++ rest = ('/' :: '*' :: before) ++ commentEnd := by
      change '/' :: '*' :: '*' :: rest = _
      rw [split, List.append_nil]
      rfl
    rw [shape, List.length_append]
    exact congrArg (List.drop 3) (List.take_left ..)
  rw [body]
  exact fun inside => clean (inside.trans (List.drop_suffix 1 before).isInfix)

/-- What a comment says is made of its lines before the first tag. -/
theorem commentDescription_eq {comment : List Char} (doc : "/**".toList.isPrefixOf comment = true) :
    commentDescription comment =
      let spoken := ((lines ((comment.take (comment.length - 2)).drop 3)).map commentLine).takeWhile
        fun l => l.head? ≠ some '@'
      match spoken.filter (!·.isEmpty) with
      | [] => none
      | w :: ws => some (String.ofList ([' '].intercalate (w :: ws))) := by
  rw [commentDescription, if_pos doc]
  dsimp only
  generalize (List.takeWhile _ _ : List (List Char)).filter _ = ws
  cases ws with
  | nil => rfl
  | cons w ws =>
    rw [List.map_cons, List.isEmpty_cons, if_neg Bool.false_ne_true]
    refine congrArg some ?_
    rw [← String.toList_inj, String.toList_intercalate, String.toList_ofList, ← List.map_cons,
      List.map_map]
    simp [Function.comp_def]

/-- **A description** that a comment gives is on one line, has no blanks around it, ends no comment and
is no tag. -/
theorem isDescription_of_commentDescription {comment : List Char} {d : String}
    (whole : commentLength comment = comment.length) (h : commentDescription comment = some d) :
    IsDescription d.toList ∧ d.toList.head? ≠ some '@' := by
  by_cases doc : "/**".toList.isPrefixOf comment = true
  case neg =>
    rw [commentDescription, if_neg doc] at h
    cases h
  case pos =>
    have body := body_unended whole doc
    rw [commentDescription_eq doc] at h
    dsimp only at h
    split at h
    · cases h
    · rename_i w ws kept
      cases h
      have each : ∀ l ∈ w :: ws, IsDescription l ∧ l.head? ≠ some '@' := by
        intro l hl
        rw [← kept, List.mem_filter] at hl
        obtain ⟨spoken, full⟩ := hl
        have untagged := List.mem_takeWhile_imp spoken
        obtain ⟨line, mem, rfl⟩ := List.mem_map.mp ((List.takeWhile_prefix _).subset spoken)
        obtain ⟨part, unbroken⟩ := Text.mem_lines mem
        refine ⟨⟨by simpa using full, Text.trimmed_strip _, ?_, ?_⟩, by simpa using untagged⟩
        · exact fun c hc => unbroken c ((commentLine_isInfix line).subset hc)
        · exact fun inside => body (inside.trans ((commentLine_isInfix line).trans part))
      obtain ⟨joined, first⟩ := isDescription_intercalate fun l hl => (each l hl).1
      rw [String.toList_ofList, first]
      exact ⟨joined, (each w List.mem_cons_self).2⟩

end Lines

section Reading

variable {d : String}

/-- A description is written as it is. -/
theorem inComment_eq (h : IsDescription d.toList) : Text.inComment d.toList = d.toList := by
  refine Text.inComment_eq_self h.unended fun feed => ?_
  exact absurd (h.unbroken '\n' feed) (by decide)

/-- **The generated comment** says what follows the stars that its description begins with, if
anything does and if that is no tag. -/
theorem commentDescription_descriptionComment (h : IsDescription d.toList) :
    commentDescription (descriptionComment d).toList =
      let rest := strip (d.toList.dropWhile (· = '*'))
      if rest = [] ∨ rest.head? = some '@' then none else some (String.ofList rest) := by
  have doc : "/**".toList.isPrefixOf (descriptionComment d).toList = true := by
    rw [toList_descriptionComment]
    rfl
  have body : ((descriptionComment d).toList.take ((descriptionComment d).toList.length - 2)).drop 3 =
      ' ' :: (d.toList ++ [' ']) := by
    rw [toList_descriptionComment, inComment_eq h, List.length_append]
    exact congrArg (List.drop 3) (List.take_left ..)
  have one : lines (' ' :: (d.toList ++ [' '])) = [' ' :: (d.toList ++ [' '])] := by
    refine Text.lines_eq_singleton (List.cons_ne_nil _ _) fun c hc => ?_
    have blank : isLineBreak ' ' = false := by decide
    simp only [List.mem_cons, List.mem_append, List.not_mem_nil, or_false] at hc
    rcases hc with rfl | inside | rfl
    · exact blank
    · exact h.unbroken c inside
    · exact blank
  have line : commentLine (' ' :: (d.toList ++ [' '])) = strip (d.toList.dropWhile (· = '*')) := by
    rw [commentLine, Text.strip_between h.trimmed]
  rw [commentDescription_eq doc, body, one, List.map_singleton, line]
  dsimp only
  generalize strip (d.toList.dropWhile (· = '*')) = rest
  by_cases empty : rest = []
  · simp [empty]
  · by_cases tag : rest.head? = some '@' <;> simp [empty, tag, List.intercalate]

/-- The comment of a prop's description stands on the line before the prop. -/
theorem exists_of_described {p : PropSpec} (given : p.description = some d) (full : d ≠ "") :
    ∃ member, p.memberText = "  " ++ descriptionComment d ++ "\n" ++ member := by
  refine ⟨"  " ++ Naming.propKey p.name ++ (if p.required then "" else "?") ++ ": " ++ p.type ++
    ";\n", ?_⟩
  unfold PropSpec.memberText
  simp only [given, Option.getD_some, if_neg full, String.append_assoc]

/-- **Descriptions in generated comments.** A description that a documentation comment gives is written
as it is into one comment, on the line before its prop. This comment says the same again if and only if
the description does not begin with a star. -/
theorem description_read_back_iff {comment : List Char}
    (whole : commentLength comment = comment.length) (h : commentDescription comment = some d) :
    (∀ p : PropSpec, p.description = some d → ∃ member,
      p.memberText = "  " ++ descriptionComment d ++ "\n" ++ member) ∧
    descriptionComment d = "/** " ++ d ++ " */" ∧
    commentLength (descriptionComment d).toList = (descriptionComment d).length ∧
    (commentDescription (descriptionComment d).toList = some d ↔ d.toList.head? ≠ some '*') := by
  obtain ⟨form, untagged⟩ := isDescription_of_commentDescription whole h
  refine ⟨?placed, ?written, ?length, ?again⟩
  case placed =>
    intro p given
    refine exists_of_described given fun empty => ?_
    exact form.ne (by rw [empty]; rfl)
  case written =>
    rw [descriptionComment, commentText, onChars, inComment_eq form, String.ofList_toList]
  case length => simpa using commentLength_descriptionComment d []
  case again =>
    rw [commentDescription_descriptionComment form]
    dsimp only
    constructor
    · intro same star
      obtain ⟨cs, begins⟩ := List.head?_eq_some_iff.mp star
      split at same
      · cases same
      · -- what is read is shorter by the star at least
        have text : strip (d.toList.dropWhile (· = '*')) = d.toList := by
          have said := congrArg String.toList (Option.some.inj same)
          rwa [String.toList_ofList] at said
        have short := (Text.strip_isInfix (d.toList.dropWhile (· = '*'))).length_le
        have drop := (List.dropWhile_suffix (p := (· = '*')) (l := cs)).length_le
        rw [text, begins, List.dropWhile_cons_of_pos (by decide), List.length_cons] at short
        omega
    · intro plain
      have front : d.toList.dropWhile (· = '*') = d.toList := by
        cases text : d.toList with
        | nil => rfl
        | cons c cs =>
          rw [text] at plain
          exact List.dropWhile_cons_of_neg (by simpa using plain)
      rw [front, Text.strip_eq_self form.trimmed, if_neg (not_or.mpr ⟨form.ne, untagged⟩),
        String.ofList_toList]

theorem description_read_back_iff_tagged :
    let comment := "/**\n * Content of the card.\n * *Not* styled.\n * @default x\n */".toList
    let d := "Content of the card. *Not* styled."
    commentLength comment = comment.length ∧ commentDescription comment = some d ∧
      commentDescription (descriptionComment d).toList = some d := by
  intro comment d
  have whole : commentLength comment = comment.length := by decide +kernel
  have said : commentDescription comment = some d := by decide +kernel
  exact ⟨whole, said, (description_read_back_iff whole said).2.2.2.mpr (by decide)⟩

/-- A description that is a list loses the star of its first item. -/
theorem description_loses_star :
    let comment := "/**\n * * first\n * * second\n */".toList
    let d := "* first * second"
    commentLength comment = comment.length ∧ commentDescription comment = some d ∧
      commentDescription (descriptionComment d).toList = some "first * second" ∧
      commentDescription (descriptionComment d).toList ≠ some d := by
  decide +kernel

end Reading

end PropForge.Extraction
