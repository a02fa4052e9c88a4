import GramSieve.Proofs.Formula.Reduction

namespace GramSieve.Formula

/-!
# The walk of a simplification

* `Finds`, `mapM_finds` — a step of a walk that keeps a memo, and steps in a row.
* `Simplifies` — what every step of a simplification keeps: joining and factoring.
* `simplifyMemo_finds` — the invariant of the walk; no formula needs more steps than its effort.
* `simplify_induction` — what every step keeps holds of a formula and its simplified form.
* `simple_simplify`, `leafCount_simplify_le` — a simplified formula is simple and has no more leaves.
-/

variable {α : Type} [DecidableEq α] {kind : Connective} {key : UInt64} {f g : Formula α}
  {fs gs : List (Formula α)}

/-! ### Steps with a memo -/

/-- A step of a walk gives a formula that stands in `P` to `f` and leaves a memo of such formulas. -/
def Finds (P : Formula α → Formula α → Prop) (f : Formula α)
    (step : StateM (Simplified α) (Formula α)) : Prop :=
  ∀ memo : Simplified α, memo.All P → P f (step.run memo).1 ∧ (step.run memo).2.All P

variable {P : Formula α → Formula α → Prop} {step : StateM (Simplified α) (Formula α)}

/-- Going through operands finds a result for each of them. -/
theorem mapM_finds {walk : Formula α → StateM (Simplified α) (Formula α)}
    (hwalk : ∀ f ∈ fs, Finds P f (walk f)) (memo : Simplified α) (hmemo : memo.All P) :
    List.Forall₂ P fs ((fs.mapM walk).run memo).1 ∧ ((fs.mapM walk).run memo).2.All P := by
  induction fs generalizing memo with
  | nil => exact ⟨.nil, hmemo⟩
  | cons f fs ih =>
    obtain ⟨hf, hfs⟩ := List.forall_mem_cons.mp hwalk
    obtain ⟨hone, hmemo⟩ := hf memo hmemo
    obtain ⟨hrest, hmemo⟩ := ih hfs _ hmemo
    rw [List.mapM_cons]
    exact ⟨.cons hone hrest, hmemo⟩

/-- A step that finds a result can be followed by one that works with it. -/
theorem Finds.bind {next : Formula α → StateM (Simplified α) (Formula α)} (hstep : Finds P g step)
    (hnext : ∀ result, P g result → Finds P f (next result)) : Finds P f (step >>= next) := by
  intro memo hmemo
  obtain ⟨hresult, hmemo⟩ := hstep memo hmemo
  exact hnext _ hresult _ hmemo

/-- The last step: a result is noted, and `f` itself is given back if it is the result. -/
theorem finds_note (h : P f g) :
    Finds P f (do
      modify (·.insert f (if g = f then f else g))
      return if g = f then f else g) := by
  have hresult : (if g = f then f else g) = g := by
    split
    · rename_i hsame
      exact hsame.symm
    · rfl
  intro memo hmemo
  rw [hresult]
  exact ⟨h, hmemo.insert h⟩

/-! ### Simplified forms -/

variable {R : Formula α → Formula α → Prop}

/-- A simplified form of `f` is simple, has no more leaves, and what every step keeps holds of it. -/
structure SimplifiesTo (R : Formula α → Formula α → Prop) (f g : Formula α) : Prop where
  kept : R f g
  simple : g.Simple
  leafCount_le : g.leafCount ≤ f.leafCount

/-- Simplifying every operand adds no leaves to all of them together. -/
theorem sum_leafCount_le_of_forall₂ (h : List.Forall₂ (SimplifiesTo R) fs gs) :
    (gs.map leafCount).sum ≤ (fs.map leafCount).sum := by
  induction h with
  | nil => exact Nat.le_refl _
  | cons hone _ ih => exact Nat.add_le_add hone.leafCount_le ih

theorem forall_mem_of_forall₂ {β γ : Type} {R : β → γ → Prop} {P : γ → Prop} {xs : List β}
    {ys : List γ} (h : List.Forall₂ R xs ys) (hR : ∀ x y, R x y → P y) : ∀ y ∈ ys, P y := by
  induction h with
  | nil => exact nofun
  | cons hone _ ih => exact List.forall_mem_cons.mpr ⟨hR _ _ hone, ih⟩

theorem simple_of_forall₂ (h : List.Forall₂ (SimplifiesTo R) fs gs) : ∀ g ∈ gs, g.Simple :=
  forall_mem_of_forall₂ h fun _ _ hg => hg.simple

variable [Ord α] [Hinted α]

/-- What every step of a simplification keeps: formulas that are no composites stay, simplified
operands are joined, and what is factored is simplified again. -/
structure Simplifies (R : Formula α → Formula α → Prop) : Prop where
  same : ∀ f, f.kind? = none → R f f
  joined : ∀ kind key fs gs, List.Forall₂ R fs gs → (∀ g ∈ gs, g.Simple) →
    ((join kind gs).kind? = some kind → factor? kind (join kind gs).operands = none) →
    R (.node kind key fs) (join kind gs)
  factored : ∀ kind key fs gs f g, List.Forall₂ R fs gs → (join kind gs).kind? = some kind →
    factor? kind (join kind gs).operands = some f → R f g → R (.node kind key fs) g

/-- A formula without operands is simplified to itself. -/
theorem SimplifiesTo.same (hR : Simplifies R) (hf : f.kind? = none) : SimplifiesTo R f f where
  kept := hR.same f hf
  simple := by
    cases f with
    | const value => exact .inl ⟨value, rfl⟩
    | atom => exact .inr trivial
    | node => cases hf
  leafCount_le := Nat.le_refl _

/-- Joining the simplified operands of a composite, if nothing is factored afterwards. -/
theorem SimplifiesTo.joined (hR : Simplifies R) (h : List.Forall₂ (SimplifiesTo R) fs gs)
    (hnone : (join kind gs).kind? = some kind → factor? kind (join kind gs).operands = none) :
    SimplifiesTo R (.node kind key fs) (join kind gs) where
  kept := hR.joined kind key fs gs (h.imp fun _ _ => kept) (simple_of_forall₂ h) hnone
  simple := simple_join (simple_of_forall₂ h)
  leafCount_le := by
    rw [leafCount_node]
    exact (leafCount_join_le (simple_of_forall₂ h)).trans (sum_leafCount_le_of_forall₂ h)

/-- What is factored out of the joined operands needs less than the composite, and its simplified
form is one of the composite. -/
theorem SimplifiesTo.factored (hR : Simplifies R) (h : List.Forall₂ (SimplifiesTo R) fs gs)
    (hkind : (join kind gs).kind? = some kind)
    (hfactor : factor? kind (join kind gs).operands = some f) :
    f.effort < (Formula.node kind key fs).effort ∧
      ∀ g, SimplifiesTo R f g → SimplifiesTo R (.node kind key fs) g := by
  obtain ⟨hlength, hreduced⟩ := reduced_join (simple_of_forall₂ h) hkind
  have hleaves : ((join kind gs).operands.map leafCount).sum ≤ (Formula.node kind key fs).leafCount := by
    rw [sum_leafCount_operands hkind, leafCount_node]
    exact (leafCount_join_le (simple_of_forall₂ h)).trans (sum_leafCount_le_of_forall₂ h)
  have hless := (factored_lt hlength (fun p hp => (hreduced p hp).2) hfactor).1
  refine ⟨effort_factored_lt hlength (fun p hp => (hreduced p hp).2) hfactor hleaves, fun g hg => ?_⟩
  exact {
    kept := hR.factored kind key fs gs f g (h.imp fun _ _ => kept) hkind hfactor hg.kept
    simple := hg.simple
    leafCount_le := hg.leafCount_le.trans (hless.le.trans hleaves) }

/-- With as many steps as the effort of a formula, simplification ends, and whatever holds of each of
its steps holds of the whole. -/
theorem simplifyMemo_finds (hR : Simplifies R) (fuel : Nat) (f : Formula α) (hfuel : f.effort ≤ fuel) :
    Finds (SimplifiesTo R) f (simplifyMemo fuel f) := by
  induction fuel generalizing f with
  | zero =>
    have hpos := treeSize_pos f
    unfold effort at hfuel
    omega
  | succ fuel ih =>
    intro memo hmemo
    cases f with
    | const | atom => exact ⟨.same hR rfl, hmemo⟩
    | node kind key fs =>
      have hoperands : ∀ f ∈ fs, Finds (SimplifiesTo R) f (simplifyMemo fuel f) := fun f hf =>
        ih f (Nat.le_of_lt_succ ((effort_operand_lt hf).trans_le hfuel))
      -- What the operands leave in the memo is used for what follows.
      obtain ⟨hfs, hmemo'⟩ := mapM_finds hoperands memo hmemo
      rw [simplifyMemo]
      simp only [StateT.run_bind, StateT.run_get, pure_bind]
      cases hknown : memo[Formula.node kind key fs]? with
      | some known => exact ⟨hmemo _ _ hknown, hmemo⟩
      | none =>
        simp only [StateT.run_bind]
        generalize (fs.mapM (simplifyMemo fuel)).run memo = operands at hfs hmemo' ⊢
        refine (?_ : Finds (SimplifiesTo R) (Formula.node kind key fs) _) operands.2 hmemo'
        split
        · rename_i factored hfactored
          split at hfactored
          · rename_i hkind
            obtain ⟨heffort, hnode⟩ := SimplifiesTo.factored hR hfs hkind hfactored
            have hless := Nat.le_of_lt_succ (heffort.trans_le hfuel)
            exact (ih factored hless).bind fun result hresult => finds_note (hnode result hresult)
          · cases hfactored
        · rename_i hnone
          refine finds_note (.joined hR hfs fun hkind => ?_)
          rwa [if_pos hkind] at hnone

/-- What every step of a simplification keeps holds of a formula and its simplified form. -/
theorem simplify_induction (hR : Simplifies R) (f : Formula α) : SimplifiesTo R f (simplify f) :=
  (simplifyMemo_finds hR _ f (Nat.le_refl _) ∅ (Memo.all_empty _)).1

/-- Nothing has to be shown of the steps if nothing is asked of the result. -/
theorem simplifies_true : Simplifies fun _ _ : Formula α => True where
  same _ _ := trivial
  joined _ _ _ _ _ _ _ := trivial
  factored _ _ _ _ _ _ _ _ _ _ := trivial

/-- A simplified formula is a constant or reduced. -/
theorem simple_simplify (f : Formula α) : (simplify f).Simple :=
  (simplify_induction simplifies_true f).simple

/-- Simplifying does not add leaves. -/
theorem leafCount_simplify_le (f : Formula α) : (simplify f).leafCount ≤ f.leafCount :=
  (simplify_induction simplifies_true f).leafCount_le

end GramSieve.Formula
