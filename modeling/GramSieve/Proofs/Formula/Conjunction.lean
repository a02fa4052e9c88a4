import GramSieve.Proofs.Formula.NormalForm

namespace GramSieve.Formula

/-!
# Simplified conjunctions of leaves

* `simplify_singleton` — a composite of one operand is simplified to that operand.
* `conjunction` — leaves joined by `and`; which leaves there are decides what it is
  (`conjunction_congr`).
* `conjuncts`, `mem_conjuncts_conjunction` — the leaves of a conjunction.
* `simplify_and` — a composite of what is simplified to conjunctions is simplified to the conjunction of
  all their leaves.
-/

variable {α : Type} [DecidableEq α] [Ord α] [Hinted α] {kind : Connective} {f g : Formula α}
  {fs gs kept kept' : List (Formula α)}

/-! ### Joining -/

theorem operandSet_singleton (f : Formula α) : operandSet [f] = [f] := by
  unfold operandSet
  rw [List.mergeSort_singleton]
  rfl

theorem operandSet_nil : operandSet ([] : List (Formula α)) = [] := by
  unfold operandSet
  rw [List.mergeSort_nil]
  rfl

/-- A formula that is no composite of the connective is all there is to join. -/
theorem join_singleton (hf : f.kind? ≠ some kind) : join kind [f] = f := by
  have hparts : parts kind f = [f] := if_neg hf
  have hoperand (hconst : ∀ value, f ≠ .const value) : join kind [f] = f := by
    have hflatten : flatten kind [f] = .inr [f] := by
      rw [flatten.eq_3 kind f [] hconst, hparts]
      rfl
    simp only [join, hflatten, operands_composite, operandSet_singleton]
  cases f with
  | const value =>
    -- A unit is dropped, which leaves nothing, and any other constant decides.
    by_cases hunit : value = kind.unit
    · have hflatten : flatten kind [.const value] = (.inr [] : Bool ⊕ List (Formula α)) := by
        rw [flatten, if_pos hunit]
        rfl
      simp only [join, hflatten, operands_composite, operandSet_nil]
      rw [hunit]
    · have hflatten : flatten kind [.const value] = (.inl value : Bool ⊕ List (Formula α)) := by
        rw [flatten, if_neg hunit]
      simp only [join, hflatten]
  | atom =>
    apply hoperand
    intro value heq
    cases heq
  | node =>
    apply hoperand
    intro value heq
    cases heq

/-- A composite of one operand is simplified to what the operand is, unless that is a composite of the
same kind. -/
theorem simplify_singleton (hf : (simplify f).kind? ≠ some kind) :
    simplify (composite kind [f]) = simplify f := by
  have hjoin := join_singleton hf
  have hnone : factored? kind [simplify f] = none := by
    refine factored?_eq_none fun hkind => ?_
    rw [hjoin] at hkind
    exact absurd hkind hf
  unfold composite
  rw [simplify_node, operandSet_singleton, List.map_singleton, hnone]
  exact hjoin

/-- What is joined is a set. -/
theorem join_congr [Std.TransOrd α] [Std.LawfulEqOrd α] (hfs : flatten kind fs = .inr kept)
    (hgs : flatten kind gs = .inr kept') (h : ∀ f, f ∈ kept ↔ f ∈ kept') :
    join kind fs = join kind gs := by
  simp only [join, hfs, hgs, composite_congr kind h]

/-! ### Conjunctions -/

section Conjunctions

variable [Keyed α] {us vs values : List α}

/-- Leaves joined by `and`: true of none, the leaf of one, a composite of several. -/
def conjunction (values : List α) : Formula α := join .and (values.map leaf)

/-- The operands of a conjunction, which has none if it is true. -/
def conjuncts (f : Formula α) : List (Formula α) := if f = .const true then [] else parts .and f

omit [DecidableEq α] [Ord α] [Hinted α] in
/-- In a list of leaves there is nothing to flatten. -/
theorem flatten_leaves (values : List α) :
    flatten .and (values.map leaf) = .inr (values.map leaf) := by
  refine flatten_eq_self fun f hf => ?_
  obtain ⟨v, -, rfl⟩ := List.mem_map.mp hf
  exact ⟨nofun, trivial⟩

/-- A conjunction of nothing holds. -/
theorem conjunction_nil : conjunction ([] : List α) = .const true := by
  simp only [conjunction, List.map_nil, join, flatten, operands_composite, operandSet_nil]
  rfl

/-- The operands of a conjunction of leaves are leaves. -/
theorem exists_of_mem_operandSet (hf : f ∈ operandSet (values.map leaf)) : ∃ v, f = leaf v := by
  obtain ⟨v, -, rfl⟩ := List.mem_map.mp (mem_operandSet.mp hf)
  exact ⟨v, rfl⟩

/-- A conjunction is true, a leaf, or a composite of leaves, and so it is clear what it consists of. -/
theorem conjunction_cases (values : List α) :
    (conjunction values = .const true ∧ operandSet (values.map leaf) = []) ∨
      (∃ v, conjunction values = leaf v ∧ operandSet (values.map leaf) = [leaf v]) ∨
        ∃ key, conjunction values = .node .and key (operandSet (values.map leaf)) := by
  simp only [conjunction, join, flatten_leaves, operands_composite]
  split
  · rename_i hnil
    exact .inl ⟨rfl, hnil⟩
  · rename_i single hsingle
    obtain ⟨v, rfl⟩ := exists_of_mem_operandSet (hsingle ▸ List.mem_singleton_self single)
    exact .inr (.inl ⟨v, rfl, hsingle⟩)
  · exact .inr (.inr ⟨_, rfl⟩)

/-- A conjunction is no disjunction, however few operands it has. -/
theorem kind?_conjunction_ne (values : List α) : (conjunction values).kind? ≠ some .or := by
  rcases conjunction_cases values with ⟨htrue, -⟩ | ⟨v, hleaf, -⟩ | ⟨key, hnode⟩
  · simp [htrue, kind?]
  · simp [hleaf, leaf, kind?]
  · simp [hnode, kind?]

/-- What a conjunction of leaves requires are just these leaves. -/
theorem mem_conjuncts_conjunction : f ∈ (conjunction values).conjuncts ↔ f ∈ values.map leaf := by
  have hset : (conjunction values).conjuncts = operandSet (values.map leaf) := by
    rcases conjunction_cases values with ⟨htrue, hset⟩ | ⟨v, hleaf, hset⟩ | ⟨key, hnode⟩
    · simp [htrue, hset, conjuncts]
    · simp [hleaf, hset, conjuncts, parts, leaf, kind?]
    · simp [hnode, conjuncts, parts, kind?, operands]
  rw [hset, mem_operandSet]

/-- Conjunctions give their leaves when they are joined. -/
theorem flatten_conjunctions (hgs : ∀ g ∈ gs, ∃ vs, g = conjunction vs) :
    flatten .and gs = .inr (gs.flatMap conjuncts) := by
  induction gs with
  | nil => rfl
  | cons g gs ih =>
    obtain ⟨⟨vs, hg⟩, hgs⟩ := List.forall_mem_cons.mp hgs
    -- A conjunction is a constant only if it is empty, and then flattening drops it. In all other
    -- cases its conjuncts are kept.
    have hkept (hconst : ∀ value, g ≠ .const value) :
        flatten .and (g :: gs) = .inr ((g :: gs).flatMap conjuncts) := by
      rw [flatten.eq_3 .and g gs hconst, ih hgs, List.flatMap_cons, conjuncts,
        if_neg (hconst true)]
    rcases conjunction_cases vs with ⟨htrue, -⟩ | ⟨v, hleaf, -⟩ | ⟨key, hnode⟩
    · rw [hg, htrue, flatten, if_pos (show true = Connective.and.unit from rfl), ih hgs,
        List.flatMap_cons, conjuncts, if_pos rfl, List.nil_append]
    · apply hkept
      intro value
      simp [hg, hleaf, leaf]
    · apply hkept
      intro value
      simp [hg, hnode]

/-- A leaf is a conjunction of one. -/
theorem simplify_leaf (v : α) : simplify (leaf v) = conjunction [v] := by
  rw [simplify_of_kind?_eq_none rfl]
  exact (join_singleton (f := leaf v) nofun).symm

variable [Std.TransOrd α] [Std.LawfulEqOrd α]

/-- A conjunction depends on the set of its leaves only. -/
theorem conjunction_congr (h : ∀ v, v ∈ us ↔ v ∈ vs) : conjunction us = conjunction vs := by
  refine join_congr (flatten_leaves us) (flatten_leaves vs) fun f => ?_
  simp only [List.mem_map, h]

/-- Conjunctions as the simplified operands of a composite. -/
theorem simplify_and (hfs : ∀ f ∈ fs, ∃ vs, simplify f = conjunction vs)
    (hvalues : ∀ g, (∃ f ∈ fs, g ∈ (simplify f).conjuncts) ↔ g ∈ values.map leaf) :
    simplify (composite .and fs) = conjunction values := by
  have hgs : ∀ g ∈ (operandSet fs).map simplify, ∃ vs, g = conjunction vs := by
    intro g hg
    obtain ⟨f, hf, rfl⟩ := List.mem_map.mp hg
    exact hfs f (mem_operandSet.mp hf)
  have hjoin : join .and ((operandSet fs).map simplify) = conjunction values := by
    refine join_congr (flatten_conjunctions hgs) (flatten_leaves values) fun g => ?_
    rw [← hvalues]
    simp only [List.mem_flatMap, List.mem_map, mem_operandSet, exists_exists_and_eq_and]
  -- Conjuncts are leaves, which are no disjunctions, so there is nothing to pull out.
  have hnone : factored? .and ((operandSet fs).map simplify) = none := by
    refine factored?_eq_none fun hkind => factor?_eq_none_of_leaves fun g hg => ?_
    rw [hjoin] at hkind hg
    rcases conjunction_cases values with ⟨htrue, -⟩ | ⟨v, hleaf, -⟩ | ⟨key, hnode⟩
    · simp [htrue, kind?] at hkind
    · simp [hleaf, leaf, kind?] at hkind
    · rw [hnode] at hg
      obtain ⟨v, rfl⟩ := exists_of_mem_operandSet hg
      rfl
  unfold composite
  rw [simplify_node, hnone]
  exact hjoin

/-- The leaves of two conjunctions. -/
theorem simplify_and_pair (hf : simplify f = conjunction us) (hg : simplify g = conjunction vs) :
    simplify (composite .and [f, g]) = conjunction (us ++ vs) := by
  refine simplify_and ?_ fun h => ?_
  · intro h hh
    rcases List.mem_pair.mp hh with rfl | rfl
    · exact ⟨us, hf⟩
    · exact ⟨vs, hg⟩
  · simp [hf, hg, mem_conjuncts_conjunction]

/-- Simplifying a composite of leaves gives their conjunction. -/
theorem simplify_leaves (values : List α) :
    simplify (composite .and (values.map leaf)) = conjunction values := by
  refine simplify_and ?_ fun g => ?_
  · intro f hf
    obtain ⟨v, -, rfl⟩ := List.mem_map.mp hf
    exact ⟨[v], simplify_leaf v⟩
  · simp [simplify_leaf, mem_conjuncts_conjunction, eq_comm]

end Conjunctions

end GramSieve.Formula
