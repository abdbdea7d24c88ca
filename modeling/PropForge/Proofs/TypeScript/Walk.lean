import Mathlib.Data.List.Basic
import Mathlib.Order.Basic
import PropForge.TypeScript.Tree

/-!
# The walk through a tree

A node of a tree is at the end of a way from the root, which says at each step how many siblings are
passed. Ways in the order of words are nodes in the order of the source: a node comes before all that
is below it, and what is below one child before what is below the next:

* `mem_sites`: the walk comes to every node and to nothing else;
* `sites_inOrder`: it comes to them in the order of the source, to each once.
-/

namespace PropForge.TypeScript

namespace Tree

/-- The node at the end of a way. -/
def at? : List Nat → Tree → Option Tree
  | [], t => some t
  | i :: way, t => t.children[i]?.bind (at? way)

end Tree

/-- The way to a node, by its older siblings and those of the nodes above it. -/
def wayTo (before : List Tree) : List Frame → List Nat
  | [] => []
  | frame :: above => wayTo frame.before above ++ [before.length]

/-- The way from the root to a node. -/
def Site.way (s : Site) : List Nat := wayTo s.before s.above

namespace Tree

mutual

theorem mem_sitesBelow (t : Tree) (before : List Tree) (above : List Frame) (way : List Nat)
    (u : Tree) : (∃ s ∈ sitesBelow t before above, s.way = way ∧ s.tree = u) ↔
      ∃ below, way = wayTo before above ++ below ∧ at? below t = some u := by
  match t with
  | .node k r sp cs =>
    rw [sitesBelow, List.exists_mem_cons_iff, mem_childSites cs [] ⟨.node k r sp cs, before⟩ above]
    constructor
    · rintro (⟨rfl, rfl⟩ | ⟨i, below, rfl, there⟩)
      · exact ⟨[], (List.append_nil _).symm, rfl⟩
      · exact ⟨i :: below, by rw [List.length_nil, Nat.zero_add], there⟩
    · rintro ⟨below, rfl, there⟩
      cases below with
      | nil => exact .inl ⟨(List.append_nil _).symm, Option.some.inj there⟩
      | cons i below => exact .inr ⟨i, below, by rw [List.length_nil, Nat.zero_add], there⟩

theorem mem_childSites (cs before : List Tree) (frame : Frame) (above : List Frame)
    (way : List Nat) (u : Tree) :
    (∃ s ∈ childSites cs before (frame :: above), s.way = way ∧ s.tree = u) ↔
      ∃ i below, way = wayTo frame.before above ++ (before.length + i) :: below ∧
        cs[i]?.bind (at? below) = some u := by
  match cs with
  | [] =>
    rw [childSites]
    constructor
    · rintro ⟨s, mem, -⟩
      cases mem
    · rintro ⟨i, below, -, there⟩
      cases there
  | c :: rest =>
    rw [childSites]
    have first := mem_sitesBelow c before (frame :: above) way u
    have later := mem_childSites rest (c :: before) frame above way u
    constructor
    · rintro ⟨s, mem, place⟩
      rcases List.mem_append.mp mem with mem | mem
      · obtain ⟨below, rfl, there⟩ := first.mp ⟨s, mem, place⟩
        exact ⟨0, below, by rw [wayTo, List.append_assoc]; rfl, there⟩
      · obtain ⟨i, below, rfl, there⟩ := later.mp ⟨s, mem, place⟩
        exact ⟨i + 1, below, by rw [List.length_cons, Nat.add_assoc, Nat.add_comm 1], there⟩
    · rintro ⟨i, below, rfl, there⟩
      cases i with
      | zero =>
        obtain ⟨s, mem, place⟩ := first.mpr ⟨below, by rw [wayTo, List.append_assoc]; rfl, there⟩
        exact ⟨s, List.mem_append_left _ mem, place⟩
      | succ i =>
        obtain ⟨s, mem, place⟩ := later.mpr
          ⟨i, below, by rw [List.length_cons, Nat.add_assoc, Nat.add_comm 1], there⟩
        exact ⟨s, List.mem_append_right _ mem, place⟩

end

mutual

theorem sitesBelow_inOrder (t : Tree) (before : List Tree) (above : List Frame) :
    (sitesBelow t before above).Pairwise fun s s' => s.way < s'.way := by
  match t with
  | .node k r sp cs =>
    rw [sitesBelow, List.pairwise_cons]
    refine ⟨fun s mem => ?_, childSites_inOrder cs [] ⟨.node k r sp cs, before⟩ above⟩
    obtain ⟨i, below, way, -⟩ := (mem_childSites cs [] _ above _ _).mp ⟨s, mem, rfl, rfl⟩
    have longer : wayTo before above ++ [] < s.way :=
      way ▸ List.append_left_lt (List.nil_lt_cons _ below)
    rwa [List.append_nil] at longer

theorem childSites_inOrder (cs before : List Tree) (frame : Frame) (above : List Frame) :
    (childSites cs before (frame :: above)).Pairwise fun s s' => s.way < s'.way := by
  match cs with
  | [] => exact .nil
  | c :: rest =>
    rw [childSites, List.pairwise_append]
    refine ⟨sitesBelow_inOrder c before (frame :: above),
      childSites_inOrder rest (c :: before) frame above, fun s mem s' mem' => ?_⟩
    obtain ⟨q, way, -⟩ := (mem_sitesBelow c before (frame :: above) _ _).mp ⟨s, mem, rfl, rfl⟩
    obtain ⟨i, q', way', -⟩ :=
      (mem_childSites rest (c :: before) frame above _ _).mp ⟨s', mem', rfl, rfl⟩
    rw [way, way', wayTo, List.append_assoc, List.singleton_append]
    refine List.append_left_lt (List.cons_lt_cons_iff.mpr (.inl ?_))
    rw [List.length_cons]
    omega

end

/-- **The walk** comes to the nodes of the tree, and to nothing else. -/
theorem mem_sites {t u : Tree} {way : List Nat} :
    (∃ s ∈ t.sites, s.way = way ∧ s.tree = u) ↔ t.at? way = some u := by
  rw [sites, mem_sitesBelow, wayTo]
  constructor
  · rintro ⟨below, rfl, there⟩
    exact there
  · intro there
    exact ⟨way, rfl, there⟩

/-- **The order of the walk** is that of the source, and no node is visited twice. -/
theorem sites_inOrder (t : Tree) : t.sites.Pairwise fun s s' => s.way < s'.way :=
  sitesBelow_inOrder t [] []

end Tree

end PropForge.TypeScript
