import GramSieve.Proofs.Formula.Order
import GramSieve.Proofs.Formula.Recursion
import GramSieve.Proofs.Formula.Subformulas

namespace GramSieve.Formula

/-!
# Simplified formulas are normal forms

* `NormalOperands`, `Normal` — composites that cannot be written more simply, at every depth.
* `mem_common` — the search in ascending operands finds every operand that all formulas share.
* `Canonical` — every composite has its operands as a set, and nothing can be factored out of them.
* `Canonical.ascending_parts` — so the operands that are searched do ascend.
* `simplifies_canonical` — every step of a simplification keeps this.
* `simplify_eq_self` — a formula that is simple and canonical is its own simplified form.
* `simplify_normal` — a simplified formula is a normal form, and simplifying it again changes nothing.

That the operands are distinct, that a set of them is found again as it was, and that halving the
operands overlooks none of them, rests on the order of formulas being total. The order of the values of
the leaves has to be total for that.
-/

/-! ### Normal forms -/

section Normal

variable {α : Type}

/-- The operands of a composite that cannot be written more simply: there are several, no two the same,
no constants, no composites of the same connective, and if there are composites of the other one, then
the operands do not all have a part in common. -/
structure NormalOperands (kind : Connective) (fs : List (Formula α)) : Prop where
  several : 2 ≤ fs.length
  distinct : fs.Nodup
  noConstant : ∀ value, .const value ∉ fs
  alternating : ∀ f ∈ fs, f.kind? ≠ some kind
  nothingShared : (∃ f ∈ fs, f.kind? = some kind.dual) → ¬∃ p, ∀ f ∈ fs, p ∈ parts kind.dual f

/-- A constant, a leaf, or a composite that has normal operands, as all composites below it have. -/
def Normal (f : Formula α) : Prop :=
  ∀ kind key fs, .node kind key fs ∈ f.subformulas → NormalOperands kind fs

variable {kind : Connective} {key : UInt64} {f g : Formula α} {fs : List (Formula α)}

/-- All that is within a reduced formula is reduced. -/
theorem Reduced.of_mem_subformulas {f : Formula α} (hf : f.Reduced) (hg : g ∈ f.subformulas) :
    g.Reduced := by
  match f with
  | .const _ => exact hf.elim
  | .atom _ _ => rwa [List.mem_singleton.mp hg]
  | .node kind key fs =>
    obtain rfl | ⟨f, hmem, hg⟩ := mem_subformulas_node.mp hg
    · exact hf
    · exact Reduced.of_mem_subformulas ((reduced_node.mp hf).2 f hmem).2 hg

/-- A composite within a simple formula is reduced: if the formula is a constant there is none. -/
theorem Simple.reduced_node (hf : f.Simple) (hnode : .node kind key fs ∈ f.subformulas) :
    (Formula.node kind key fs).Reduced := by
  obtain ⟨value, rfl⟩ | hf := hf
  · cases List.mem_singleton.mp hnode
  · exact hf.of_mem_subformulas hnode

/-- What is left after flattening was a part of one of the operands. -/
theorem exists_mem_parts_of_flatten {kept : List (Formula α)} (h : flatten kind fs = .inr kept) :
    ∀ p ∈ kept, ∃ f ∈ fs, p ∈ parts kind f := by
  -- A constant that does not matter is dropped; one that decides leaves nothing to keep.
  fun_induction flatten kind fs generalizing kept with
  | case1 =>
    cases h
    simp
  | case2 rest ih =>
    intro p hp
    obtain ⟨f, hf, hp⟩ := ih h p hp
    exact ⟨f, .tail _ hf, hp⟩
  | case3 => cases h
  | case4 => cases h
  | case5 f rest _ kept' hrest ih =>
    cases h
    intro p hp
    obtain hp | hp := List.mem_append.mp hp
    · exact ⟨f, .head _, hp⟩
    · obtain ⟨g, hg, hp⟩ := ih hrest p hp
      exact ⟨g, .tail _ hg, hp⟩

/-- Operands that are no constants and no composites of the same kind stay as they are. -/
theorem flatten_eq_self (hfs : ∀ f ∈ fs, f.kind? ≠ some kind ∧ f.Reduced) :
    flatten kind fs = .inr fs := by
  induction fs with
  | nil => rfl
  | cons f fs ih =>
    obtain ⟨⟨hkind, hf⟩, hrest⟩ := List.forall_mem_cons.mp hfs
    have hparts : parts kind f = [f] := if_neg hkind
    have hconst (value : Bool) : f ≠ .const value := by
      rintro rfl
      exact hf
    rw [flatten.eq_3 kind f fs hconst, ih hrest, hparts]
    rfl

variable [DecidableEq α] [Ord α] [Hinted α] [Std.TransOrd α] [Std.LawfulEqOrd α]

/-- Where the parts of all formulas ascend, the search for common parts misses none. -/
theorem mem_common {p : Formula α} (hne : fs ≠ []) (hsorted : ∀ f ∈ fs, Ascending (parts kind f)) :
    p ∈ common kind fs ↔ ∀ f ∈ fs, p ∈ parts kind f := by
  refine ⟨mem_parts_of_mem_common, fun hall => ?_⟩
  cases fs with
  | nil => exact absurd rfl hne
  | cons f fs =>
    obtain ⟨hf, hfs⟩ := List.forall_mem_cons.mp hall
    rw [common_cons, List.mem_filter, mem_operandSet, List.all_eq_true]
    refine ⟨hf, fun g hg => ?_⟩
    have hle := (hsorted g (.tail _ hg)).imp Ordering.isLE_of_eq_lt
    exact (containsSorted_iff hle).mpr (List.mem_toArray.mpr (hfs g hg))

/-- Where nothing is factored, operands with composites of the other connective share no part. -/
theorem nothingShared_of_factor? (hne : fs ≠ []) (hsorted : ∀ f ∈ fs, Ascending (parts kind.dual f))
    (hnone : factor? kind fs = none) (hdual : ∃ f ∈ fs, f.kind? = some kind.dual) :
    ¬∃ p, ∀ f ∈ fs, p ∈ parts kind.dual f := by
  rintro ⟨p, hp⟩
  have hmem := (mem_common hne hsorted).mpr hp
  have hany : (fs.any fun f => f.kind? = some kind.dual) = true := by simpa using hdual
  unfold factor? at hnone
  dsimp only at hnone
  rw [if_pos hany] at hnone
  split at hnone
  · rename_i hnil
    rw [hnil] at hmem
    cases hmem
  · cases hnone

end Normal

/-! ### Canonical formulas -/

variable {α : Type} [DecidableEq α] [Ord α] [Hinted α] {kind : Connective} {key : UInt64}
  {f g p : Formula α} {fs gs : List (Formula α)}

/-- Every composite is made of its operands as `composite` does it, and has nothing to factor. -/
def Canonical (f : Formula α) : Prop :=
  ∀ kind key fs, .node kind key fs ∈ f.subformulas →
    composite kind fs = .node kind key fs ∧ factor? kind fs = none

/-- Constants and leaves are canonical. -/
theorem canonical_of_kind?_eq_none (hf : f.kind? = none) : f.Canonical := by
  intro kind key fs hnode
  rw [← (mem_subformulas_of_kind?_eq_none hf).mp hnode] at hf
  cases hf

/-- A composite is canonical if its operands are, they are in order, and nothing is to be factored
out. -/
theorem canonical_node : (Formula.node kind key fs).Canonical ↔
    (composite kind fs = .node kind key fs ∧ factor? kind fs = none) ∧ ∀ f ∈ fs, f.Canonical := by
  constructor
  · intro h
    exact ⟨h kind key fs (self_mem_subformulas _),
      fun f hf k l gs hnode => h k l gs (mem_subformulas_of_mem hf hnode)⟩
  · rintro ⟨hself, hfs⟩ k l gs hnode
    obtain heq | ⟨f, hf, hnode⟩ := mem_subformulas_node.mp hnode
    · cases heq
      exact hself
    · exact hfs f hf k l gs hnode

/-- What is within a canonical formula is canonical. -/
theorem Canonical.of_mem_subformulas (hf : f.Canonical) (hg : g ∈ f.subformulas) : g.Canonical :=
  fun kind key fs hnode => hf kind key fs (mem_subformulas_trans hnode hg)

/-- The parts of a canonical formula are canonical. -/
theorem Canonical.of_mem_parts (hf : f.Canonical) (hp : p ∈ parts kind f) : p.Canonical := by
  unfold parts at hp
  split at hp
  · cases f with
    | const | atom => cases hp
    | node => exact (canonical_node.mp hf).2 p hp
  · rwa [List.mem_singleton.mp hp]

section Lawful

variable [Std.TransOrd α] [Std.LawfulEqOrd α]

/-- Canonical operands are joined to a canonical formula, if nothing can be factored out of it. -/
theorem canonical_join (hgs : ∀ g ∈ gs, g.Canonical)
    (hnone : (join kind gs).kind? = some kind → factor? kind (join kind gs).operands = none) :
    (join kind gs).Canonical := by
  unfold join at hnone ⊢
  split at hnone
  · exact canonical_of_kind?_eq_none rfl
  · rename_i kept hkept
    -- What is joined were parts of canonical operands, whose parts are canonical themselves.
    have hcanonical : ∀ p ∈ operandSet kept, p.Canonical := by
      intro p hp
      obtain ⟨g, hg, hp⟩ := exists_mem_parts_of_flatten hkept p (mem_operandSet.mp hp)
      exact (hgs g hg).of_mem_parts hp
    dsimp only at hnone ⊢
    split at hnone
    · exact canonical_of_kind?_eq_none rfl
    · rename_i single hsingle
      rw [operands_composite] at hsingle
      exact hcanonical single (hsingle ▸ List.mem_singleton_self single)
    · refine canonical_node.mpr ⟨⟨?_, hnone rfl⟩, hcanonical⟩
      exact composite_congr kind fun _ => mem_operandSet

/-- Every step of a simplification gives canonical formulas. -/
theorem simplifies_canonical : Simplifies fun _ g : Formula α => g.Canonical where
  same _ hf := canonical_of_kind?_eq_none hf
  joined _ _ _ _ hgs _ hnone := canonical_join (forall_mem_of_forall₂ hgs fun _ _ hg => hg) hnone
  factored _ _ _ _ _ _ _ _ _ hg := hg

theorem canonical_simplify (f : Formula α) : (simplify f).Canonical :=
  (simplify_induction simplifies_canonical f).kept

end Lawful

/-! ### Simplifying once more -/

/-- Joining the operands of a composite that is reduced and canonical gives the composite. -/
theorem join_eq_self (hreduced : (Formula.node kind key fs).Reduced)
    (hself : composite kind fs = .node kind key fs) : join kind fs = .node kind key fs := by
  obtain ⟨hlength, hfs⟩ := reduced_node.mp hreduced
  simp only [join, flatten_eq_self hfs, hself, operands]
  match fs with
  | f :: g :: fs => rfl

theorem simplify_of_kind?_eq_none (hf : f.kind? = none) : simplify f = f :=
  (Yields.same hf).eq_simplify.symm

/-- What is simple and canonical is its own simplified form. -/
theorem simplify_eq_self {f : Formula α} (hsimple : f.Simple) (hcanonical : f.Canonical) :
    simplify f = f := by
  match f with
  | .const _ | .atom _ _ => exact simplify_of_kind?_eq_none rfl
  | .node kind key fs =>
    have hreduced : (Formula.node kind key fs).Reduced := hsimple.resolve_left nofun
    obtain ⟨⟨hself, hnone⟩, hfs⟩ := canonical_node.mp hcanonical
    -- By induction the operands are their own simplified forms, and joining them gives the composite
    -- again.
    have hoperands : fs.map simplify = fs := by
      refine (List.map_congr_left fun f hf => ?_).trans (List.map_id fs)
      exact simplify_eq_self (.inr ((reduced_node.mp hreduced).2 f hf).2) (hfs f hf)
    have hjoin : join kind fs = .node kind key fs := join_eq_self hreduced hself
    have hfactored : factored? kind fs = none := by
      refine factored?_eq_none fun _ => ?_
      rw [hjoin]
      exact hnone
    rw [simplify_node, hoperands, hfactored]
    exact hjoin

/-! ### Normal forms of all formulas -/

variable [Std.TransOrd α] [Std.LawfulEqOrd α]

/-- The parts of a canonical formula ascend, as the operands of every composite in it do. -/
theorem Canonical.ascending_parts (hf : f.Canonical) (kind : Connective) : Ascending (parts kind f) := by
  unfold parts
  split
  · cases f with
    | const | atom => exact .nil
    | node k key fs =>
      have hset : operandSet fs = fs := congrArg operands (canonical_node.mp hf).1.1
      rw [operands, ← hset]
      exact ascending_operandSet fs
  · exact List.pairwise_singleton _ f

/-- What is simple and canonical is a normal form. -/
theorem Simple.normal (hsimple : f.Simple) (hcanonical : f.Canonical) : f.Normal := by
  intro kind key fs hnode
  obtain ⟨hlength, hfs⟩ := Formula.reduced_node.mp (hsimple.reduced_node hnode)
  obtain ⟨⟨hself, hnone⟩, hoperands⟩ := canonical_node.mp (hcanonical.of_mem_subformulas hnode)
  have hset : operandSet fs = fs := congrArg operands hself
  refine ⟨hlength, ?_, ?_, fun f hf => (hfs f hf).1, ?_⟩
  · rw [← hset]
    exact nodup_operandSet fs
  · exact fun value hmem => (hfs _ hmem).2
  · -- Operands that are composites have their own operands in order, so no common part was missed.
    exact nothingShared_of_factor? (List.ne_nil_of_length_pos (by omega))
      (fun f hf => (hoperands f hf).ascending_parts kind.dual) hnone

/-- **Simplified formulas are normal forms.** A simplified formula is a constant, a leaf, or a composite
in which every composite has several distinct operands, none of them a constant or a composite of the
same connective, and in which nothing is left to factor. Simplifying it again changes nothing. -/
theorem simplify_normal (f : Formula α) :
    (simplify f).Normal ∧ simplify (simplify f) = simplify f :=
  ⟨(simple_simplify f).normal (canonical_simplify f),
    simplify_eq_self (simple_simplify f) (canonical_simplify f)⟩

/-- A disjunction of conjunctions that share a leaf, one of them with a constant. -/
theorem simplify_normal_shared :
    let f : Formula Nat := composite .or [composite .and [leaf 1, leaf 2, leaf 3],
      composite .and [leaf 1, leaf 4], composite .and [leaf 1, .const true, leaf 5]]
    Std.TransOrd Nat ∧ Std.LawfulEqOrd Nat ∧
      (simplify f).Normal ∧ simplify (simplify f) = simplify f :=
  ⟨inferInstance, inferInstance, simplify_normal _⟩

end GramSieve.Formula
