import GramSieve.Proofs.Formula.Size
import Mathlib

namespace GramSieve.Formula

/-!
# The paths to the leaves of a formula

Operands may be shared, so a leaf can be met on many paths. Written out as a tree, a formula has one leaf
for each of them.

* `leafAt?` — the leaf at the end of a path.
* `leafPaths`, `mem_leafPaths`, `nodup_leafPaths` — all paths that lead to a leaf, each of them once.
* `length_leafPaths` — there are as many as the formula has leaves.
* `clauseCount_exact` — so the clauses of a formula are the paths, up to the largest count.
-/

variable {α : Type}

/-- The leaf at the end of a path. At every composite the path says which operand comes next. -/
def leafAt? : Formula α → List Nat → Option α
  | f, [] => f.leaf?
  | f, i :: path => f.operands[i]?.bind fun g => leafAt? g path

/-- The paths through some operands: the number of an operand, and then a path through it. -/
def operandPaths (parts : List (List (List Nat))) : List (List Nat) :=
  parts.zipIdx.flatMap fun part => part.1.map (part.2 :: ·)

/-- The paths that lead to a leaf. -/
def leafPaths : Formula α → List (List Nat) :=
  fold {
    const := fun _ => []
    leaf := fun _ => [[]]
    node := fun _ => operandPaths }

theorem leafPaths_node (kind : Connective) (key : UInt64) (fs : List (Formula α)) :
    leafPaths (.node kind key fs) = operandPaths (fs.map leafPaths) := by
  unfold leafPaths
  rw [fold, foldList_eq_map]

/-! ### Paths through operands -/

/-- A path below a composite starts with the index of an operand and goes on in it. -/
theorem mem_operandPaths {parts : List (List (List Nat))} {path : List Nat} :
    path ∈ operandPaths parts ↔
      ∃ i rest paths, path = i :: rest ∧ parts[i]? = some paths ∧ rest ∈ paths := by
  simp only [operandPaths, List.mem_flatMap, List.mem_map, Prod.exists, List.mem_zipIdx_iff_getElem?]
  constructor
  · rintro ⟨paths, i, hpaths, rest, hrest, rfl⟩
    exact ⟨i, rest, paths, rfl, hpaths, hrest⟩
  · rintro ⟨i, rest, paths, rfl, hpaths, hrest⟩
    exact ⟨paths, i, hpaths, rest, hrest, rfl⟩

/-- Paths below different operands differ in their first step. -/
theorem nodup_operandPaths {parts : List (List (List Nat))} (h : ∀ paths ∈ parts, paths.Nodup) :
    (operandPaths parts).Nodup := by
  refine List.nodup_flatMap.mpr ⟨?_, ?_⟩
  · rintro ⟨paths, i⟩ hmem
    have hpaths := List.mem_of_getElem? (List.mem_zipIdx_iff_getElem?.mp hmem)
    exact (h paths hpaths).map fun _ _ heq => List.tail_eq_of_cons_eq heq
  · -- Paths through two operands differ at their heads, which are the numbers of the operands.
    have hnumbers : (parts.zipIdx.map (·.2)).Nodup := by
      rw [List.zipIdx_map_snd]
      exact List.nodup_range'
    refine (List.pairwise_map.mp hnumbers).imp fun {a b} hne => ?_
    rintro path ha hb
    obtain ⟨rest, -, rfl⟩ := List.mem_map.mp ha
    obtain ⟨rest', -, heq⟩ := List.mem_map.mp hb
    exact hne (List.head_eq_of_cons_eq heq).symm

/-- So there are as many as below the operands together. -/
theorem length_operandPaths (parts : List (List (List Nat))) :
    (operandPaths parts).length = (parts.map List.length).sum := by
  rw [operandPaths, List.length_flatMap]
  simp only [List.length_map]
  have hparts : parts.zipIdx.map (fun part => part.1.length) =
      (parts.zipIdx.map Prod.fst).map List.length := by
    rw [List.map_map]
    rfl
  rw [hparts, List.zipIdx_map_fst]

/-! ### Paths through formulas -/

/-- The paths that are listed are those at whose end there is a leaf. -/
theorem mem_leafPaths (f : Formula α) (path : List Nat) :
    path ∈ leafPaths f ↔ (f.leafAt? path).isSome = true := by
  match f, path with
  | .const _, [] | .const _, _ :: _ => simp [leafPaths, fold, leafAt?, leaf?, operands]
  | .atom _ _, [] | .atom _ _, _ :: _ => simp [leafPaths, fold, leafAt?, leaf?, operands]
  | .node kind key fs, [] =>
    -- The empty path ends at the composite, and that is no leaf.
    rw [leafPaths_node, mem_operandPaths]
    simp [leafAt?, leaf?]
  | .node kind key fs, i :: rest =>
    rw [leafPaths_node, mem_operandPaths, leafAt?, operands]
    simp only [List.cons.injEq, List.getElem?_map, Option.map_eq_some_iff]
    constructor
    · rintro ⟨_, _, _, ⟨rfl, rfl⟩, ⟨g, hg, rfl⟩, hrest⟩
      rw [hg, Option.bind_some]
      exact (mem_leafPaths g rest).mp hrest
    · intro hsome
      obtain ⟨x, hx⟩ := Option.isSome_iff_exists.mp hsome
      obtain ⟨g, hg, hx⟩ := Option.bind_eq_some_iff.mp hx
      exact ⟨i, rest, _, ⟨rfl, rfl⟩, ⟨g, hg, rfl⟩,
        (mem_leafPaths g rest).mpr (Option.isSome_of_eq_some hx)⟩
termination_by path

/-- No path is listed twice, even where operands are shared. -/
theorem nodup_leafPaths (f : Formula α) : (leafPaths f).Nodup := by
  cases f with
  | const => exact .nil
  | atom => exact List.nodup_singleton _
  | node kind key fs =>
    rw [leafPaths_node]
    refine nodup_operandPaths fun paths hpaths => ?_
    obtain ⟨g, hg, rfl⟩ := List.mem_map.mp hpaths
    exact nodup_leafPaths g
termination_by f

variable [DecidableEq α]

/-- There are as many of them as leaves are counted. -/
theorem length_leafPaths (f : Formula α) : (leafPaths f).length = f.leafCount := by
  cases f with
  | const | atom => rfl
  | node kind key fs =>
    rw [leafPaths_node, length_operandPaths, leafCount_node, List.map_map]
    exact congrArg List.sum (List.map_congr_left fun g _ => length_leafPaths g)
termination_by f

/-- A formula has as many leaves as there are paths to a leaf. -/
theorem encard_leafPaths (f : Formula α) :
    {path | (f.leafAt? path).isSome = true}.encard = f.leafCount := by
  have hpaths : {path | (f.leafAt? path).isSome = true} = ((leafPaths f).toFinset : Set (List Nat)) := by
    ext path
    simp [mem_leafPaths]
  rw [hpaths, Set.encard_coe_eq_coe_finsetCard, List.toFinset_card_of_nodup (nodup_leafPaths f),
    length_leafPaths]

/-- **Clauses are paths to leaves.** However the operands of a formula are shared, its clauses are counted
as if it was written out as a tree: there is one for each path from the formula to a leaf. If there are
more than a machine word can count, the largest count stands for them. -/
theorem clauseCount_exact (f : Formula α) :
    (f.clauseCount : ℕ∞) = min {path | (f.leafAt? path).isSome = true}.encard ↑(UInt64.size - 1) := by
  rw [encard_leafPaths, clauseCount_eq_min]
  exact Nat.mono_cast.map_min

/-- The disjunction is an operand of two composites, so each of its leaves is at the end of two paths. -/
example :
    let shared : Formula Nat := composite .or [leaf 1, leaf 2]
    (composite .and [shared, composite .or [shared, leaf 3]]).clauseCount = 5 := by cbv

end GramSieve.Formula
