import GramSieve.Proofs.Formula.Walk

namespace GramSieve.Formula

/-!
# Simplification keeps the truth

* `holds_join` — joining simplified operands keeps the truth, whether they are flattened, decided by
  a constant or left alone.
* `holds_factored` — pulling out common parts keeps the truth, by the distributive law of the two
  connectives; an empty remainder stands for the unit of its connective.
* `simplifies_holds` — so every step of a simplification keeps the truth.
* `evaluate_simplify` — a formula and its simplified form have the same truth value.
-/

variable {α : Type} {truth : α → Bool}

/-! ### Parts and flattening -/

/-- A composite holds if its connective joins its operands. -/
theorem joins_operands {kind : Connective} {f : Formula α} (h : f.kind? = some kind) :
    kind.Joins (Holds truth) f.operands ↔ Holds truth f := by
  cases f with
  | node k key fs =>
    cases Option.some.inj h
    exact (holds_node kind key fs).symm
  | const | atom => simp [kind?] at h

/-- A formula holds if the connective joins its parts. -/
theorem joins_parts (kind : Connective) (f : Formula α) :
    kind.Joins (Holds truth) (parts kind f) ↔ Holds truth f := by
  unfold parts
  split
  · rename_i h
    exact joins_operands h
  · exact kind.joins_singleton f

/-- If an operand decides the composite by itself, it is the constant that does so. -/
theorem flatten_eq_inl {kind : Connective} {fs : List (Formula α)} {value : Bool}
    (h : flatten kind fs = .inl value) : value ≠ kind.unit ∧ .const value ∈ fs := by
  fun_induction flatten kind fs with
  | case1 => cases h
  | case2 rest ih => exact ⟨(ih h).1, .tail _ (ih h).2⟩
  | case3 value' rest hne =>
    cases h
    exact ⟨hne, .head _⟩
  | case4 f rest _ value' hrest ih =>
    cases h
    exact ⟨(ih hrest).1, .tail _ (ih hrest).2⟩
  | case5 => cases h

/-- What flattening drops are constants that do not matter. -/
theorem joins_of_flatten {kind : Connective} {fs kept : List (Formula α)}
    (h : flatten kind fs = .inr kept) :
    kind.Joins (Holds truth) kept ↔ kind.Joins (Holds truth) fs := by
  fun_induction flatten kind fs generalizing kept with
  | case1 =>
    cases h
    exact Iff.rfl
  | case2 rest ih => exact (ih h).trans (kind.joins_cons_of_unit (holds_const _) rest).symm
  | case3 => cases h
  | case4 => cases h
  | case5 f rest _ kept' hrest ih =>
    cases h
    have hf : kind.Joins (Holds truth) (parts kind f) ↔ kind.Joins (Holds truth) [f] :=
      (joins_parts kind f).trans (kind.joins_singleton f).symm
    exact kind.joins_append_congr hf (ih hrest)

/-- Formulas of the same truth are joined to formulas of the same truth. -/
theorem joins_of_forall₂ {fs gs : List (Formula α)} (kind : Connective)
    (h : List.Forall₂ (fun f g => Holds truth g ↔ Holds truth f) fs gs) :
    kind.Joins (Holds truth) gs ↔ kind.Joins (Holds truth) fs := by
  induction h with
  | nil => exact Iff.rfl
  | @cons f g fs gs hone _ ih =>
    have hone : kind.Joins (Holds truth) [g] ↔ kind.Joins (Holds truth) [f] := by
      simpa only [Connective.joins_singleton] using hone
    exact kind.joins_append_congr hone ih

variable [DecidableEq α] [Ord α] [Hinted α]

/-! ### Joining and factoring -/

/-- Joining operands keeps the truth. -/
theorem holds_join (kind : Connective) (fs : List (Formula α)) :
    Holds truth (join kind fs) ↔ kind.Joins (Holds truth) fs := by
  unfold join
  split
  · rename_i value h
    obtain ⟨hvalue, hmem⟩ := flatten_eq_inl h
    rw [holds_const, Connective.joins_of_decided (holds_const value) hvalue hmem]
  · rename_i kept h
    have hset : kind.Joins (Holds truth) (composite kind kept).operands ↔
        kind.Joins (Holds truth) fs := by
      rw [operands_composite, kind.joins_congr_mem fun _ => mem_operandSet]
      exact joins_of_flatten h
    -- A composite of no operand or of one is replaced by its unit or by the operand.
    dsimp only
    split
    · rename_i hnil
      rw [holds_const, ← hset, hnil, kind.joins_nil]
    · rename_i single hsingle
      rw [← hset, hsingle, kind.joins_singleton]
    · rw [holds_composite]
      exact joins_of_flatten h

/-- The distributive law: what all formulas share can be asked for once, and of each formula only
what it does not share. -/
theorem joins_remainders (kind : Connective) {fs shared : List (Formula α)}
    (hshared : ∀ p ∈ shared, ∀ f ∈ fs, p ∈ parts kind.dual f) :
    kind.dual.Joins (Holds truth) (shared ++ [composite kind (fs.map fun f =>
      composite kind.dual ((parts kind.dual f).filter (!shared.contains ·)))]) ↔
    kind.Joins (Holds truth) fs := by
  have hremainder (p f : Formula α) :
      p ∈ (parts kind.dual f).filter (!shared.contains ·) ↔ p ∈ parts kind.dual f ∧ p ∉ shared := by
    rw [List.mem_filter, Bool.not_eq_true', ← Bool.not_eq_true, List.contains_iff_mem]
  have hparts (f : Formula α) : kind.dual.Joins (Holds truth) (parts kind.dual f) ↔ Holds truth f :=
    joins_parts kind.dual f
  cases kind with
  | and =>
    simp only [Connective.dual, Connective.joins_or, Connective.joins_and, Connective.joins_map,
      holds_composite, List.mem_append, List.mem_singleton, or_and_right, exists_or,
      exists_eq_left] at hremainder hparts hshared ⊢
    simp only [hremainder]
    -- A part that makes a formula true is shared, or it is in the remainder of the formula.
    constructor
    · rintro (⟨p, hp, htrue⟩ | hrest) f hf
      · exact (hparts f).mp ⟨p, hshared p hp f hf, htrue⟩
      · obtain ⟨p, ⟨hp, _⟩, htrue⟩ := hrest f hf
        exact (hparts f).mp ⟨p, hp, htrue⟩
    · intro hall
      by_cases hsome : ∃ p ∈ shared, Holds truth p
      · exact .inl hsome
      · refine .inr fun f hf => ?_
        obtain ⟨p, hp, htrue⟩ := (hparts f).mpr (hall f hf)
        exact ⟨p, ⟨hp, fun hs => hsome ⟨p, hs, htrue⟩⟩, htrue⟩
  | or =>
    simp only [Connective.dual, Connective.joins_or, Connective.joins_and, Connective.joins_map,
      holds_composite, List.forall_mem_append, List.forall_mem_singleton]
      at hremainder hparts hshared ⊢
    simp only [hremainder]
    constructor
    · rintro ⟨hall, f, hf, hrest⟩
      refine ⟨f, hf, (hparts f).mp fun p hp => ?_⟩
      by_cases hs : p ∈ shared
      · exact hall p hs
      · exact hrest p ⟨hp, hs⟩
    · rintro ⟨f, hf, htrue⟩
      have hall := (hparts f).mpr htrue
      exact ⟨fun p hp => hall p (hshared p hp f hf), f, hf, fun p hp => hall p hp.1⟩

/-- Pulling out the common parts keeps the truth. -/
theorem holds_factored {kind : Connective} {fs : List (Formula α)} {g : Formula α}
    (h : factor? kind fs = some g) : Holds truth g ↔ kind.Joins (Holds truth) fs := by
  obtain ⟨-, rfl⟩ := eq_of_factor? h
  rw [holds_composite]
  exact joins_remainders kind fun p hp => mem_parts_of_mem_common hp

/-! ### The walk -/

/-- Every step of a simplification keeps the truth. -/
theorem simplifies_holds : Simplifies fun f g : Formula α => Holds truth g ↔ Holds truth f where
  same _ _ := Iff.rfl
  joined kind key fs gs hfs _ _ := by
    rw [holds_join, holds_node]
    exact joins_of_forall₂ kind hfs
  factored kind key fs gs f g hfs hkind hfactor hg := by
    rw [hg, holds_factored hfactor, joins_operands hkind, holds_join, holds_node]
    exact joins_of_forall₂ kind hfs

/-- A simplified formula holds where the formula does. -/
theorem holds_simplify (f : Formula α) : Holds truth (simplify f) ↔ Holds truth f :=
  (simplify_induction simplifies_holds f).kept

/-- **Simplification keeps the meaning.** Under every truth assignment to the leaves a formula and
its simplified form have the same truth value, whatever operands it shares. -/
theorem evaluate_simplify (truth : α → Bool) (f : Formula α) :
    (simplify f).evaluate truth = f.evaluate truth := by
  rw [Bool.eq_iff_iff, evaluate_iff, evaluate_iff]
  exact holds_simplify f

end GramSieve.Formula
