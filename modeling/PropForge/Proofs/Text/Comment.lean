import Mathlib.Data.List.Infix
import PropForge.Text.Escapes
import PropForge.TypeScript.Lexeme

/-!
# Texts in block comments

A block comment runs up to the first mark that ends one, a star before a slash. A text is written into
it with a backslash between the two and on one line:

* `append_commentEnd_eq_iff`: an end mark behind a text without one is the only one;
* `blockCommentTail_append`, `exists_of_blockCommentTail`: where a comment ends;
* `notMem_inComment`, `inComment_ends_nothing`: what is written has no line feed and no end mark;
* `inComment_eq_self`: what has neither is written as it is.
-/

namespace PropForge

namespace Text

/-- The mark that ends a block comment. -/
def commentEnd : List Char := ['*', '/']

theorem commentEnd_infix_cons {c : Char} {cs : List Char} :
    commentEnd <:+: c :: cs ↔ (c = '*' ∧ cs.head? = some '/') ∨ commentEnd <:+: cs := by
  rw [List.infix_cons_iff]
  refine or_congr_left ?_
  unfold commentEnd
  rw [List.cons_prefix_cons]
  refine and_congr eq_comm ?_
  cases cs with
  | nil => simp
  | cons d rest => simp [List.cons_prefix_cons, eq_comm]

/-- No end mark comes about where two texts meet, unless the second begins with a slash. -/
theorem not_commentEnd_infix_append {cs tail : List Char} (h : ¬ commentEnd <:+: cs)
    (h' : ¬ commentEnd <:+: tail) (slash : tail.head? ≠ some '/') :
    ¬ commentEnd <:+: cs ++ tail := by
  induction cs with
  | nil => exact h'
  | cons c cs ih =>
    rw [commentEnd_infix_cons, not_or] at h
    rw [List.cons_append, commentEnd_infix_cons, not_or]
    refine ⟨?_, ih h.2⟩
    rintro ⟨rfl, found⟩
    cases cs with
    | nil => exact slash found
    | cons d cs => exact h.1 ⟨rfl, found⟩

theorem not_commentEnd_infix_append_star {cs : List Char} (h : ¬ commentEnd <:+: cs) :
    ¬ commentEnd <:+: cs ++ ['*'] :=
  not_commentEnd_infix_append h (by decide) (by decide)

/-- **The end mark** behind a text that holds none is the only one. -/
theorem append_commentEnd_eq_iff {cs before after : List Char} (h : ¬ commentEnd <:+: cs) :
    cs ++ commentEnd = before ++ commentEnd ++ after ↔ before = cs ∧ after = [] := by
  constructor
  · intro same
    rcases List.eq_nil_or_concat after with rfl | ⟨front, last, rfl⟩
    · rw [List.append_nil] at same
      exact ⟨(List.append_cancel_right same).symm, rfl⟩
    · -- the mark would stand before the last character, and so in the text or across its end
      have shorter : cs ++ ['*'] = before ++ commentEnd ++ front := by
        have marks : cs ++ ['*'] ++ ['/'] = before ++ commentEnd ++ front ++ [last] := by
          simpa [commentEnd] using same
        exact (List.append_inj' marks rfl).1
      exact absurd ⟨before, front, shorter.symm⟩ (not_commentEnd_infix_append_star h)
  · rintro ⟨rfl, rfl⟩
    rw [List.append_nil]

/-- A text begins with a slash if and only if what is written of it does. -/
theorem head?_inComment (cs : List Char) :
    (inComment cs).head? = some '/' ↔ cs.head? = some '/' := by
  fun_cases inComment cs with
  | case1 => rfl
  | case2 => exact iff_of_false (by simp) (by simp)
  | case3 => exact iff_of_false (by simp) (by simp)
  | case4 => rfl

theorem notMem_inComment (cs : List Char) : '\n' ∉ inComment cs := by
  fun_induction inComment cs with
  | case1 => exact List.not_mem_nil
  | case2 rest ih => simpa using ih
  | case3 rest ih => simpa using ih
  | case4 c rest _ feed ih =>
    rw [List.mem_cons, not_or]
    exact ⟨fun same => feed same.symm, ih⟩

/-- **No end mark** is in what is written. -/
theorem inComment_ends_nothing (cs : List Char) : ¬ commentEnd <:+: inComment cs := by
  fun_induction inComment cs with
  | case1 => decide
  | case2 rest ih => simpa [commentEnd_infix_cons] using ih
  | case3 rest ih => simpa [commentEnd_infix_cons] using ih
  | case4 c rest whole _ ih =>
    rw [commentEnd_infix_cons, head?_inComment, not_or]
    refine ⟨?_, ih⟩
    rintro ⟨rfl, slash⟩
    obtain ⟨more, rfl⟩ := List.head?_eq_some_iff.mp slash
    exact whole more rfl rfl

/-- What has no end mark and no line feed is written as it is. -/
theorem inComment_eq_self {cs : List Char} (h : ¬ commentEnd <:+: cs) (feed : '\n' ∉ cs) :
    inComment cs = cs := by
  fun_induction inComment cs with
  | case1 => rfl
  | case2 rest => exact absurd (commentEnd_infix_cons.mpr (.inl ⟨rfl, rfl⟩)) h
  | case3 rest => exact absurd List.mem_cons_self feed
  | case4 c rest _ _ ih =>
    rw [commentEnd_infix_cons, not_or] at h
    rw [List.mem_cons, not_or] at feed
    rw [ih h.2 feed.2]

end Text

namespace TypeScript

open Text (commentEnd commentEnd_infix_cons)

/-- **Where a comment ends**: behind the first end mark. -/
theorem blockCommentTail_append {before : List Char} (h : ¬ commentEnd <:+: before ++ ['*'])
    (after : List Char) :
    blockCommentTail (before ++ commentEnd ++ after) = some (before.length + 2) := by
  induction before with
  | nil => rfl
  | cons c before ih =>
    rw [List.cons_append, commentEnd_infix_cons, not_or] at h
    rw [List.cons_append, List.cons_append, blockCommentTail, ih h.2]
    · rfl
    · -- a mark across the first two characters is a mark in the text
      intro rest star slash
      refine h.1 ⟨star, ?_⟩
      cases before with
      | nil => exact absurd slash (by simp [commentEnd])
      | cons d before => exact congrArg List.head? slash

/-- A comment that ends holds no end mark but its last. -/
theorem exists_of_blockCommentTail {cs : List Char} {n : Nat} (h : blockCommentTail cs = some n) :
    ∃ before after, cs = before ++ commentEnd ++ after ∧ n = before.length + 2 ∧
      ¬ commentEnd <:+: before := by
  fun_induction blockCommentTail cs generalizing n with
  | case1 => cases h
  | case2 rest =>
    cases h
    exact ⟨[], rest, rfl, rfl, by decide⟩
  | case3 c rest whole ih =>
    obtain ⟨m, found, rfl⟩ := Option.map_eq_some_iff.mp h
    obtain ⟨before, after, rfl, rfl, none⟩ := ih found
    refine ⟨c :: before, after, rfl, rfl, ?_⟩
    rw [commentEnd_infix_cons, not_or]
    refine ⟨?_, none⟩
    rintro ⟨rfl, slash⟩
    obtain ⟨more, rfl⟩ := List.head?_eq_some_iff.mp slash
    exact whole _ rfl rfl

end TypeScript

end PropForge
