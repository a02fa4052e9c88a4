import GramSieve.Formula.Simplify
import GramSieve.Proofs.BinarySearch
import GramSieve.Proofs.Formula.Size

namespace GramSieve.Formula

/-!
# Reduced formulas

* `Reduced`, `Simple` — no constants below the root, and composites of several operands, none of which
  is a composite of the same connective.
* `Reduced.treeSize_lt` — a reduced formula is not larger than its leaves make it.
* `mem_parts_of_mem_common` — what is pulled out is an operand of all.
* `simple_join` — joining simple operands gives a simple formula.
* `factored_lt` — pulling out common parts leaves fewer leaves.
* `effort`, `effort_factored_lt` — the steps that a formula needs at most.

The steps of `simplify` are bounded by the effort of the formula. They suffice because every formula
that is simplified on the way needs less: an operand is smaller, and a formula that was factored has
fewer leaves, though it may have more composites than the one before it.
-/

/-! ### Reduced formulas -/

section Reduced

variable {α : Type}

mutual

/-- There are no constants, and every composite has several operands, none of which is a composite of
the same connective. -/
def Reduced : Formula α → Prop
  | .const _ => False
  | .atom _ _ => True
  | .node kind _ fs => 2 ≤ fs.length ∧ AllReduced kind fs

/-- Every formula of a list is reduced, and none is a composite of the given connective. -/
def AllReduced (kind : Connective) : List (Formula α) → Prop
  | [] => True
  | f :: fs => (f.kind? ≠ some kind ∧ f.Reduced) ∧ AllReduced kind fs

end

/-- A constant or a reduced formula. -/
def Simple (f : Formula α) : Prop := (∃ value, f = .const value) ∨ f.Reduced

variable {kind : Connective} {key : UInt64} {f : Formula α} {fs : List (Formula α)}

theorem allReduced_iff :
    AllReduced kind fs ↔ ∀ f ∈ fs, f.kind? ≠ some kind ∧ f.Reduced := by
  induction fs with
  | nil => simp [AllReduced]
  | cons f fs ih => rw [AllReduced, ih, List.forall_mem_cons]

/-- A reduced composite has several operands, which are reduced and of another kind. -/
theorem reduced_node : Reduced (.node kind key fs) ↔
    2 ≤ fs.length ∧ ∀ f ∈ fs, f.kind? ≠ some kind ∧ f.Reduced := by
  rw [Reduced, allReduced_iff]

/-- A leaf is reduced. -/
theorem reduced_of_leaf (hf : f.leaf?.isSome = true) : f.kind? = none ∧ f.Reduced := by
  cases f with
  | const | node => cases hf
  | atom => exact ⟨rfl, trivial⟩

/-- A reduced formula holds if all its leaves do. -/
theorem Reduced.holds {f : Formula α} (h : f.Reduced) : Holds (fun _ => true) f := by
  match f with
  | .const _ => exact h.elim
  | .atom _ _ => exact (holds_atom _ _).mpr rfl
  | .node kind key fs =>
    obtain ⟨hlength, hfs⟩ := reduced_node.mp h
    have hall : ∀ f ∈ fs, Holds (fun _ => true) f := fun f hf => Reduced.holds (hfs f hf).2
    rw [holds_node]
    cases kind with
    | and => exact hall
    | or =>
      obtain ⟨f, hf⟩ := List.exists_mem_of_length_pos (Nat.lt_of_lt_of_le Nat.two_pos hlength)
      exact ⟨f, hf, hall f hf⟩

/-- No reduced formula holds if none of its leaves does. -/
theorem Reduced.not_holds {f : Formula α} (h : f.Reduced) : ¬Holds (fun _ => false) f := by
  match f with
  | .const _ => exact h.elim
  | .atom _ _ => exact fun hholds => nomatch (holds_atom _ _).mp hholds
  | .node kind key fs =>
    obtain ⟨hlength, hfs⟩ := reduced_node.mp h
    have hnone : ∀ f ∈ fs, ¬Holds (fun _ => false) f := fun f hf => Reduced.not_holds (hfs f hf).2
    intro hholds
    have hne : ¬(kind = .and ∧ fs = []) := by
      rintro ⟨-, rfl⟩
      exact absurd hlength (Nat.not_succ_le_zero 1)
    obtain ⟨f, hf, hholds⟩ := exists_holds_operand hholds hne
    exact hnone f hf hholds

variable [DecidableEq α]

/-- A reduced formula has a leaf, since only constants have none. -/
theorem Reduced.leafCount_pos {f : Formula α} (h : f.Reduced) : 0 < f.leafCount := by
  match f with
  | .const _ => exact h.elim
  | .atom _ _ => exact Nat.one_pos
  | .node kind key fs =>
    obtain ⟨hlength, hfs⟩ := reduced_node.mp h
    obtain ⟨f, hf⟩ := List.exists_mem_of_length_pos (Nat.lt_of_lt_of_le Nat.two_pos hlength)
    rw [leafCount_node]
    exact Nat.lt_of_lt_of_le (Reduced.leafCount_pos (hfs f hf).2) (le_sum_map_of_mem hf)

/-- Where every formula is small compared to its leaves, so are all of them together. -/
theorem sum_treeSize_le (h : ∀ f ∈ fs, f.treeSize < 2 * f.leafCount) :
    (fs.map treeSize).sum + fs.length ≤ 2 * (fs.map leafCount).sum := by
  induction fs with
  | nil => exact Nat.le_refl 0
  | cons f fs ih =>
    obtain ⟨hf, hfs⟩ := List.forall_mem_cons.mp h
    have := ih hfs
    simp only [List.map_cons, List.sum_cons, List.length_cons]
    omega

/-- Composites of several operands are fewer than the leaves below them. -/
theorem Reduced.treeSize_lt {f : Formula α} (h : f.Reduced) : f.treeSize < 2 * f.leafCount := by
  match f with
  | .const _ => exact h.elim
  | .atom _ _ => exact Nat.one_lt_two
  | .node kind key fs =>
    obtain ⟨hlength, hfs⟩ := reduced_node.mp h
    have := sum_treeSize_le fun f hf => Reduced.treeSize_lt (hfs f hf).2
    rw [treeSize_node, leafCount_node]
    omega

end Reduced

/-! ### Parts -/

section Parts

variable {α : Type} {kind : Connective} {key : UInt64} {f p : Formula α} {fs : List (Formula α)}

/-- The parts of a reduced formula are reduced and not composites of the kind. -/
theorem Reduced.of_mem_parts (h : f.Reduced) (hp : p ∈ parts kind f) :
    p.kind? ≠ some kind ∧ p.Reduced := by
  unfold parts at hp
  split at hp
  · rename_i hkind
    cases f with
    | node k key fs =>
      cases Option.some.inj hkind
      exact (reduced_node.mp h).2 p hp
    | const | atom => cases hp
  · rename_i hkind
    cases List.mem_singleton.mp hp
    exact ⟨hkind, h⟩

variable [DecidableEq α]

/-- The operands of a composite have its leaves. -/
theorem sum_leafCount_operands (h : f.kind? = some kind) :
    (f.operands.map leafCount).sum = f.leafCount := by
  cases f with
  | node => exact (leafCount_node _ _ _).symm
  | const | atom => cases h

/-- The parts of a formula have its leaves, of whatever kind they are parts. -/
theorem sum_leafCount_parts (kind : Connective) (f : Formula α) :
    ((parts kind f).map leafCount).sum = f.leafCount := by
  unfold parts
  split
  · rename_i hkind
    exact sum_leafCount_operands hkind
  · exact Nat.add_zero _

/-- What flattening keeps of simple operands is reduced, and has no more leaves than they have. -/
theorem flatten_simple {kept : List (Formula α)} (h : flatten kind fs = .inr kept)
    (hfs : ∀ f ∈ fs, f.Simple) :
    (∀ p ∈ kept, p.kind? ≠ some kind ∧ p.Reduced) ∧
      (kept.map leafCount).sum ≤ (fs.map leafCount).sum := by
  fun_induction flatten kind fs generalizing kept with
  | case1 =>
    cases h
    exact ⟨nofun, Nat.le_refl 0⟩
  | case2 rest ih =>
    obtain ⟨hkept, hsum⟩ := ih h (List.forall_mem_cons.mp hfs).2
    exact ⟨hkept, hsum.trans (Nat.le_add_left _ _)⟩
  | case3 => cases h
  | case4 => cases h
  | case5 f rest hconst kept' hrest ih =>
    cases h
    obtain ⟨hf, hfs⟩ := List.forall_mem_cons.mp hfs
    obtain ⟨hkept, hsum⟩ := ih hrest hfs
    -- An operand that is kept is no constant, so it is reduced.
    have hreduced : f.Reduced := hf.resolve_left fun ⟨value, hvalue⟩ => hconst value hvalue
    refine ⟨List.forall_mem_append.mpr ⟨fun p hp => hreduced.of_mem_parts hp, hkept⟩, ?_⟩
    rw [List.map_append, List.sum_append, sum_leafCount_parts, List.map_cons, List.sum_cons]
    exact Nat.add_le_add_left hsum _

/-! ### Common parts -/

section Common

variable [Ord α] [Hinted α]

/-- The common parts are those of the first formula that are found in the others as well. -/
theorem common_cons (kind : Connective) (f : Formula α) (fs : List (Formula α)) :
    common kind (f :: fs) = (operandSet (parts kind f)).filter fun p =>
      fs.all fun g => containsSorted (parts kind g).toArray p := by
  have hfold : ∀ shared : List (Formula α),
      fs.foldl (fun shared g =>
        if shared.isEmpty then [] else shared.filter (containsSorted (parts kind g).toArray)) shared =
      shared.filter fun p => fs.all fun g => containsSorted (parts kind g).toArray p := by
    induction fs with
    | nil => exact fun shared => (List.filter_eq_self.mpr fun _ _ => rfl).symm
    | cons g fs ih =>
      intro shared
      rw [List.foldl_cons, ih]
      -- Once nothing is shared any more, the others are not searched.
      cases shared with
      | nil => rfl
      | cons p shared =>
        rw [if_neg (by simp), List.filter_filter]
        simp only [List.all_cons, Bool.and_comm]
  exact hfold _

/-- What is found in all formulas of a list is a part of all of them. -/
theorem mem_parts_of_mem_common (hp : p ∈ common kind fs) : ∀ f ∈ fs, p ∈ parts kind f := by
  cases fs with
  | nil => cases hp
  | cons f fs =>
    rw [common_cons, List.mem_filter, mem_operandSet, List.all_eq_true] at hp
    refine List.forall_mem_cons.mpr ⟨hp.1, fun g hg => ?_⟩
    exact List.mem_toArray.mp (mem_of_containsSorted (hp.2 g hg))

/-- Of what every formula of a list has, one copy is less than all of them together. -/
theorem sum_leafCount_common_lt (hlength : 2 ≤ fs.length) (hfs : ∀ f ∈ fs, f.Reduced)
    (hne : common kind fs ≠ []) :
    ((common kind fs).map leafCount).sum < (fs.map fun f =>
      (((parts kind f).filter (common kind fs).contains).map leafCount).sum).sum := by
  match fs with
  | f₁ :: f₂ :: rest =>
    generalize hshared : common kind (f₁ :: f₂ :: rest) = shared at hne
    have hmem : ∀ p ∈ shared, p ∈ parts kind f₁ ∧ p ∈ parts kind f₂ := by
      intro p hp
      have hall := mem_parts_of_mem_common (hshared ▸ hp)
      exact ⟨hall f₁ (.head _), hall f₂ (.tail _ (.head _))⟩
    -- The first formula has each shared part at least once, and the second one has at least one leaf
    -- among them. So together they have more.
    have hfirst : (shared.map leafCount).sum ≤
        (((parts kind f₁).filter shared.contains).map leafCount).sum := by
      have hsub : shared.Subperm (parts kind f₁) := by
        rw [← hshared, common_cons]
        exact List.filter_sublist.subperm.trans (operandSet_subperm _)
      have hself : shared.filter shared.contains = shared :=
        List.filter_eq_self.mpr fun p hp => List.contains_iff_mem.mpr hp
      have hfilter := hsub.filter shared.contains
      rw [hself] at hfilter
      exact sum_map_le_of_subperm leafCount hfilter
    have hsecond : 0 < (((parts kind f₂).filter shared.contains).map leafCount).sum := by
      obtain ⟨p, hp⟩ := List.exists_mem_of_ne_nil shared hne
      have hreduced := ((hfs f₂ (.tail _ (.head _))).of_mem_parts (hmem p hp).2).2
      refine Nat.lt_of_lt_of_le hreduced.leafCount_pos (le_sum_map_of_mem ?_)
      exact List.mem_filter.mpr ⟨(hmem p hp).2, List.contains_iff_mem.mpr hp⟩
    simp only [List.map_cons, List.sum_cons]
    omega

end Common

/-- What a formula has is what it shares and what it does not. -/
theorem sum_leafCount_shared (shared : List (Formula α)) (f : Formula α) :
    (((parts kind f).filter shared.contains).map leafCount).sum +
      (((parts kind f).filter (!shared.contains ·)).map leafCount).sum = f.leafCount := by
  rw [← sum_leafCount_parts kind f, ← List.sum_append, ← List.map_append]
  exact ((List.filter_append_perm _ _).map leafCount).sum_eq

/-! ### The steps a formula needs -/

/-- The steps that suffice to simplify a formula. -/
def effort (f : Formula α) : Nat := f.treeSize + 4 * (f.leafCount * f.leafCount)

/-- An operand needs less effort than the composite. -/
theorem effort_operand_lt (hf : f ∈ fs) : f.effort < (Formula.node kind key fs).effort := by
  have hsize : f.treeSize ≤ (fs.map treeSize).sum := le_sum_map_of_mem hf
  have hleaves : f.leafCount ≤ (fs.map leafCount).sum := le_sum_map_of_mem hf
  have := Nat.mul_le_mul hleaves hleaves
  simp only [effort, treeSize_node, leafCount_node]
  omega

end Parts

/-! ### Joining -/

variable {α : Type} [DecidableEq α] [Ord α] [Hinted α] {kind : Connective} {key : UInt64}
  {f g : Formula α} {fs gs : List (Formula α)}

/-- Joining drops the constants, takes operands of composites of the same kind up, and leaves no
composite of one operand. -/
theorem simple_join (hgs : ∀ g ∈ gs, g.Simple) : (join kind gs).Simple := by
  unfold join
  split
  · rename_i value _
    exact .inl ⟨value, rfl⟩
  · rename_i kept hkept
    -- Flattening leaves reduced operands of another kind. With none or one of them there is no
    -- composite.
    have hparts : ∀ p ∈ (composite kind kept).operands, p.kind? ≠ some kind ∧ p.Reduced :=
      fun p hp => (flatten_simple hkept hgs).1 p (mem_operandSet.mp hp)
    dsimp only
    split
    · exact .inl ⟨_, rfl⟩
    · rename_i single hsingle
      rw [hsingle] at hparts
      exact .inr (hparts single (List.mem_singleton_self single)).2
    · rename_i hnil hsingle
      refine .inr (reduced_node.mpr ⟨?_, hparts⟩)
      match hset : operandSet kept with
      | [] => exact absurd hset hnil
      | [p] => exact absurd hset (hsingle p)
      | p :: q :: ps => exact Nat.le_add_left 2 ps.length

/-- Joining operands adds no leaves. -/
theorem leafCount_join_le (hgs : ∀ g ∈ gs, g.Simple) :
    (join kind gs).leafCount ≤ (gs.map leafCount).sum := by
  unfold join
  split
  · exact Nat.zero_le _
  · rename_i kept hkept
    have hjoined : (composite kind kept).leafCount ≤ (gs.map leafCount).sum :=
      (leafCount_composite_le kind kept).trans (flatten_simple hkept hgs).2
    dsimp only
    split
    · exact Nat.zero_le _
    -- A single operand is one of those that are counted.
    · rename_i single hsingle
      refine le_trans ?_ hjoined
      refine le_trans (le_sum_map_of_mem ?_) (leafCount_node kind _ _).ge
      exact List.mem_of_mem_head? (congrArg List.head? hsingle)
    · exact hjoined

/-- What joining simple operands gives is reduced if it is a composite. -/
theorem reduced_join (hgs : ∀ g ∈ gs, g.Simple) (hkind : (join kind gs).kind? = some kind) :
    2 ≤ (join kind gs).operands.length ∧
      ∀ p ∈ (join kind gs).operands, p.kind? ≠ some kind ∧ p.Reduced := by
  have hsimple : (join kind gs).Simple := simple_join hgs
  generalize join kind gs = joined at hkind hsimple
  cases joined with
  | const | atom => cases hkind
  | node k key ps =>
    cases Option.some.inj hkind
    exact reduced_node.mp (hsimple.resolve_left nofun)

/-! ### Factoring -/

/-- What is left when the common parts are pulled out. -/
theorem eq_of_factor? (h : factor? kind fs = some g) : common kind.dual fs ≠ [] ∧
    g = composite kind.dual (common kind.dual fs ++ [composite kind (fs.map fun f =>
      composite kind.dual ((parts kind.dual f).filter (!(common kind.dual fs).contains ·)))]) := by
  unfold factor? at h
  dsimp only at h
  split at h
  · split at h
    · cases h
    · rename_i hne
      exact ⟨hne, (Option.some.inj h).symm⟩
  · cases h

/-- How large a factored formula is, if a composite is by `c` larger than its operands. -/
theorem size_factored_le (size : Formula α → Nat) (c : Nat)
    (hsize : ∀ kind fs, size (composite kind fs) ≤ (fs.map size).sum + c)
    (kind : Connective) (shared fs : List (Formula α)) (rest : Formula α → List (Formula α)) :
    size (composite kind.dual (shared ++ [composite kind (fs.map fun f =>
      composite kind.dual (rest f))])) ≤
      (shared.map size).sum + (fs.map fun f => ((rest f).map size).sum).sum + (fs.length + 2) * c := by
  -- One composite for each formula, one for the remainders, and one around what was pulled out.
  have hinner : (fs.map fun f => size (composite kind.dual (rest f))).sum ≤
      (fs.map fun f => ((rest f).map size).sum).sum + fs.length * c := by
    calc (fs.map fun f => size (composite kind.dual (rest f))).sum
      _ ≤ (fs.map fun f => ((rest f).map size).sum + c).sum :=
        List.sum_le_sum fun f _ => hsize _ _
      _ = (fs.map fun f => ((rest f).map size).sum).sum + fs.length * c := by
        rw [List.sum_map_add, List.map_const', List.sum_replicate_nat]
  have hremainders := hsize kind (fs.map fun f => composite kind.dual (rest f))
  have houter := hsize kind.dual (shared ++ [composite kind (fs.map fun f =>
    composite kind.dual (rest f))])
  rw [List.map_map] at hremainders
  rw [List.map_append, List.sum_append, List.map_singleton, List.sum_singleton] at houter
  simp only [Function.comp_def] at hremainders
  linarith

/-- Pulling out common parts leaves fewer leaves, and not too many composites. -/
theorem factored_lt (hlength : 2 ≤ fs.length) (hfs : ∀ f ∈ fs, f.Reduced)
    (h : factor? kind fs = some g) :
    g.leafCount < (fs.map leafCount).sum ∧ g.treeSize ≤ 3 * (fs.map leafCount).sum := by
  obtain ⟨hne, rfl⟩ := eq_of_factor? h
  have hshared := sum_leafCount_common_lt hlength hfs hne
  have hcommon : ∀ p ∈ common kind.dual fs, p.Reduced := by
    intro p hp
    obtain ⟨f, hf⟩ := List.exists_mem_of_length_pos (Nat.lt_of_lt_of_le Nat.two_pos hlength)
    exact ((hfs f hf).of_mem_parts (mem_parts_of_mem_common hp f hf)).2
  generalize common kind.dual fs = shared at hshared hcommon ⊢
  -- The leaves of all formulas are those they share, counted each time, and those they do not share.
  have hall : (fs.map leafCount).sum =
      (fs.map fun f => (((parts kind.dual f).filter shared.contains).map leafCount).sum).sum +
      (fs.map fun f => (((parts kind.dual f).filter (!shared.contains ·)).map leafCount).sum).sum := by
    rw [← List.sum_map_add]
    exact congrArg List.sum (List.map_congr_left fun f _ => (sum_leafCount_shared shared f).symm)
  have hleaves := size_factored_le leafCount 0 leafCount_composite_le kind shared fs
    fun f => (parts kind.dual f).filter (!shared.contains ·)
  have hsize := size_factored_le treeSize 1 treeSize_composite_le kind shared fs
    fun f => (parts kind.dual f).filter (!shared.contains ·)
  have hpulled := sum_treeSize_le fun p hp => (hcommon p hp).treeSize_lt
  have hleft : (fs.map fun f =>
        (((parts kind.dual f).filter (!shared.contains ·)).map treeSize).sum).sum ≤
      2 * (fs.map fun f =>
        (((parts kind.dual f).filter (!shared.contains ·)).map leafCount).sum).sum := by
    rw [← List.sum_map_mul_left]
    refine List.sum_le_sum fun f hf => ?_
    have hrest : ∀ p ∈ (parts kind.dual f).filter (!shared.contains ·), p.Reduced :=
      fun p hp => ((hfs f hf).of_mem_parts (List.mem_of_mem_filter hp)).2
    exact (Nat.le_add_right _ _).trans (sum_treeSize_le fun p hp => (hrest p hp).treeSize_lt)
  -- Every composite that was made goes with one of the formulas, which has a leaf of its own.
  have hmany : fs.length ≤ (fs.map leafCount).sum := by
    rw [← List.length_map leafCount]
    refine List.length_le_sum_of_one_le _ fun n hn => ?_
    obtain ⟨f, hf, rfl⟩ := List.mem_map.mp hn
    exact (hfs f hf).leafCount_pos
  omega

/-- A formula that was factored needs less than the composite it came from. -/
theorem effort_factored_lt (hlength : 2 ≤ fs.length) (hfs : ∀ f ∈ fs, f.Reduced)
    (h : factor? kind fs = some g) (hleaves : (fs.map leafCount).sum ≤ f.leafCount) :
    g.effort < f.effort := by
  obtain ⟨hfewer, hsize⟩ := factored_lt hlength hfs h
  have hpos := treeSize_pos f
  have hsquare := Nat.mul_le_mul hleaves hleaves
  generalize (fs.map leafCount).sum = leaves at *
  -- A leaf less makes the square smaller by more than what the composites can make up for.
  obtain ⟨n, rfl⟩ : ∃ n, leaves = n + 1 := ⟨leaves - 1, by omega⟩
  have hless := Nat.mul_le_mul (Nat.le_of_lt_succ hfewer) (Nat.le_of_lt_succ hfewer)
  unfold effort
  nlinarith

end GramSieve.Formula
