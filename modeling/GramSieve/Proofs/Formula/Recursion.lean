import GramSieve.Proofs.Formula.Walk

namespace GramSieve.Formula

/-!
# Simplification as a recursion

* `factored?` — what is simplified next, once the simplified operands of a composite are joined.
* `Yields` — simplification without a memo and without a bound on its steps.
* `simplify_node` — the simplified form of a composite, given those of its operands.
* `Asks`, `wellFounded_asks` — the formulas that the recursion goes on to; none of its descents is
  endless.
* `simplify_shrinks` — no formula gets more leaves, and each that was factored has lost some.

A memo only keeps what the recursion yields, and the bound on the steps is never met. So the formula
that `simplify` gives is the one that the recursion yields, and the recursion yields no other.
-/

/-- A relation that gives every member of a list one result gives the list the list of the results. -/
theorem eq_map_of_forall₂ {β γ : Type} {R : β → γ → Prop} {result : β → γ} {xs : List β} {ys : List γ}
    (h : List.Forall₂ R xs ys) (hresult : ∀ x ∈ xs, ∀ y, R x y → y = result x) :
    ys = xs.map result := by
  induction h with
  | nil => rfl
  | cons hone _ ih =>
    obtain ⟨hx, hxs⟩ := List.forall_mem_cons.mp hresult
    rw [hx _ hone, ih hxs, List.map_cons]

variable {α : Type} [DecidableEq α] [Ord α] [Hinted α] {kind : Connective} {key : UInt64}
  {f g g' : Formula α} {fs gs : List (Formula α)}

/-- What is simplified once more after simplified operands were joined to a composite of `kind`: what
is left of them when their common parts are pulled out. -/
def factored? (kind : Connective) (gs : List (Formula α)) : Option (Formula α) :=
  if (join kind gs).kind? = some kind then factor? kind (join kind gs).operands else none

/-- There is something to simplify next only if the joined operands are a composite with common parts. -/
theorem factored?_eq_some : factored? kind gs = some f ↔
    (join kind gs).kind? = some kind ∧ factor? kind (join kind gs).operands = some f :=
  Option.ite_none_right_eq_some

/-- Otherwise the joined operands are the result. -/
theorem factored?_eq_none (h : (join kind gs).kind? = some kind →
    factor? kind (join kind gs).operands = none) : factored? kind gs = none := by
  unfold factored?
  split
  · rename_i hkind
    exact h hkind
  · rfl

/-- Nothing can be factored if there are only leaves. -/
theorem factor?_eq_none_of_leaves (hfs : ∀ f ∈ fs, f.kind? = none) : factor? kind fs = none := by
  have hany : ¬(fs.any fun f => f.kind? = some kind.dual) = true := by
    rw [List.any_eq_true]
    rintro ⟨f, hf, hkind⟩
    rw [hfs f hf] at hkind
    cases of_decide_eq_true hkind
  exact if_neg hany

/-- The recursion of a simplification. -/
inductive Yields : Formula α → Formula α → Prop
  | same {f : Formula α} (h : f.kind? = none) : Yields f f
  | joined {kind : Connective} {key : UInt64} {fs gs : List (Formula α)}
      (hfs : List.Forall₂ Yields fs gs) (hnone : factored? kind gs = none) :
      Yields (.node kind key fs) (join kind gs)
  | factored {kind : Connective} {key : UInt64} {fs gs : List (Formula α)} {f g : Formula α}
      (hfs : List.Forall₂ Yields fs gs) (hfactored : factored? kind gs = some f) (hf : Yields f g) :
      Yields (.node kind key fs) g

/-- Each way in which simplification ends is one in which the recursion ends. -/
theorem simplifies_yields : Simplifies (Yields (α := α)) where
  same _ hf := .same hf
  joined _ _ _ _ hfs _ hnone := .joined hfs (factored?_eq_none hnone)
  factored _ _ _ _ _ _ hfs hkind hfactor hg := .factored hfs (factored?_eq_some.mpr ⟨hkind, hfactor⟩) hg

/-- The recursion yields what the walk with its memo finds. -/
theorem yields_simplify (f : Formula α) : Yields f (simplify f) :=
  (simplify_induction simplifies_yields f).kept

/-- All operands are simplified to something simple with no more leaves. -/
theorem forall₂_simplifiesTo (fs : List (Formula α)) :
    List.Forall₂ (SimplifiesTo fun _ _ => True) fs (fs.map simplify) :=
  List.forall₂_map_right_iff.mpr (List.forall₂_same.mpr fun f _ =>
    simplify_induction simplifies_true f)

/-- What is factored needs less than the composite. -/
theorem effort_factored?_lt (key : UInt64) (h : factored? kind (fs.map simplify) = some g) :
    g.effort < (Formula.node kind key fs).effort := by
  obtain ⟨hkind, hfactor⟩ := factored?_eq_some.mp h
  exact (SimplifiesTo.factored simplifies_true (forall₂_simplifiesTo fs) hkind hfactor).1

/-- The result for a composite comes from results for its operands, joined and perhaps factored. -/
theorem Yields.exists_operands (h : Yields (.node kind key fs) g) :
    ∃ gs, List.Forall₂ Yields fs gs ∧
      ((factored? kind gs = none ∧ g = join kind gs) ∨ ∃ f, factored? kind gs = some f ∧ Yields f g) := by
  cases h with
  | same hf => cases hf
  | joined hfs hnone => exact ⟨_, hfs, .inl ⟨hnone, rfl⟩⟩
  | factored hfs hfactored hf => exact ⟨_, hfs, .inr ⟨_, hfactored, hf⟩⟩

/-- The recursion yields nothing else. -/
theorem Yields.eq_simplify (h : Yields f g) : g = simplify f := by
  induction hn : f.effort using Nat.strong_induction_on generalizing f g with
  | _ n ih =>
    subst hn
    have hwalk := yields_simplify f
    generalize simplify f = g' at hwalk
    cases f with
    | const | atom =>
      cases h
      cases hwalk
      rfl
    | node kind key fs =>
      have hoperands {gs : List (Formula α)} (hgs : List.Forall₂ Yields fs gs) :
          gs = fs.map simplify :=
        eq_map_of_forall₂ hgs fun f hf g hg => ih _ (effort_operand_lt hf) hg rfl
      obtain ⟨gs, hgs, h⟩ := h.exists_operands
      obtain ⟨gs', hgs', hwalk⟩ := hwalk.exists_operands
      cases hoperands hgs
      cases hoperands hgs'
      -- The simplified operands are the same, so both are joined, or both are factored.
      obtain ⟨hnone, rfl⟩ | ⟨f, hfactored, hf⟩ := h
      · obtain ⟨-, rfl⟩ | ⟨f', hfactored, -⟩ := hwalk
        · rfl
        · cases hnone.symm.trans hfactored
      · obtain ⟨hnone, -⟩ | ⟨f', hfactored', hf'⟩ := hwalk
        · cases hnone.symm.trans hfactored
        · cases hfactored.symm.trans hfactored'
          have hless := effort_factored?_lt key hfactored
          rw [ih _ hless hf rfl, ih _ hless hf' rfl]

/-- **The recursion of a simplification**: the operands are simplified and joined, and what can be
factored is simplified once more. -/
theorem simplify_node (kind : Connective) (key : UInt64) (fs : List (Formula α)) :
    simplify (.node kind key fs) = match factored? kind (fs.map simplify) with
      | some factored => simplify factored
      | none => join kind (fs.map simplify) := by
  have hfs : List.Forall₂ Yields fs (fs.map simplify) :=
    List.forall₂_map_right_iff.mpr (List.forall₂_same.mpr fun f _ => yields_simplify f)
  split
  · rename_i factored hfactored
    exact (Yields.factored hfs hfactored (yields_simplify factored)).eq_simplify.symm
  · rename_i hnone
    exact (Yields.joined hfs hnone).eq_simplify.symm

/-! ### The recursion ends -/

/-- Simplifying the second formula asks for the simplified form of the first one. -/
inductive Asks : Formula α → Formula α → Prop
  | operand {kind : Connective} {key : UInt64} {fs : List (Formula α)} {f : Formula α} (h : f ∈ fs) :
      Asks f (.node kind key fs)
  | factored {kind : Connective} {key : UInt64} {fs : List (Formula α)} {f : Formula α}
      (h : factored? kind (fs.map simplify) = some f) : Asks f (.node kind key fs)

/-- What the recursion goes on to needs less effort. -/
theorem Asks.effort_lt (h : Asks g f) : g.effort < f.effort := by
  cases h with
  | operand hmem => exact effort_operand_lt hmem
  | factored hfactored => exact effort_factored?_lt _ hfactored

/-- The recursion ends for every formula. -/
theorem wellFounded_asks : WellFounded (Asks (α := α)) :=
  Subrelation.wf Asks.effort_lt (measure effort).wf

/-- What was factored has fewer leaves than the composite it comes from. -/
theorem leafCount_factored?_lt (h : factored? kind (fs.map simplify) = some g) :
    g.leafCount < (join kind (fs.map simplify)).leafCount := by
  obtain ⟨hkind, hfactor⟩ := factored?_eq_some.mp h
  have hsimple : ∀ g ∈ fs.map simplify, g.Simple := simple_of_forall₂ (forall₂_simplifiesTo fs)
  obtain ⟨hlength, hreduced⟩ := reduced_join hsimple hkind
  rw [← sum_leafCount_operands hkind]
  exact (factored_lt hlength (fun p hp => (hreduced p hp).2) hfactor).1

/-- **Simplification ends, and no formula gets larger.** The recursion has no endless descent, and
`simplify` gives what the recursion yields. Each time common parts are pulled out, what is simplified
once more has fewer leaves than the composite that it replaces. So a simplified formula has at most
the leaves of the formula as a tree, and its query at most as many clauses. -/
theorem simplify_shrinks :
    WellFounded (Asks (α := α)) ∧
      (∀ (kind : Connective) (key : UInt64) (fs : List (Formula α)),
        simplify (.node kind key fs) = match factored? kind (fs.map simplify) with
          | some factored => simplify factored
          | none => join kind (fs.map simplify)) ∧
      (∀ (kind : Connective) (fs : List (Formula α)) (factored : Formula α),
        factored? kind (fs.map simplify) = some factored →
          factored.leafCount < (join kind (fs.map simplify)).leafCount) ∧
      ∀ f : Formula α, (simplify f).leafCount ≤ f.leafCount ∧
        (simplify f).clauseCount ≤ f.clauseCount := by
  refine ⟨wellFounded_asks, simplify_node, fun kind fs factored => leafCount_factored?_lt,
    fun f => ⟨leafCount_simplify_le f, ?_⟩⟩
  rw [clauseCount_eq_min, clauseCount_eq_min]
  exact min_le_min_right maxCount (leafCount_simplify_le f)

end GramSieve.Formula
