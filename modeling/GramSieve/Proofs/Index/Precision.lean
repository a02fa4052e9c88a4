import GramSieve.Proofs.Index.Pruning

/-!
# Budgets and precision

* `Formula.fit?`, `Formula.exists_fit?_of_le` — what a budget leaves of a formula; a larger one leaves
  something as strong.
* `Planner.planFormula_of_reduced` — a search looks up what the budget leaves.
* `Planner.exists_formula_of_plan` — what is required does not depend on the budget.
* `Planner.plan_precise` — with a larger budget, an accelerated search stays one and looks at no more
  documents.
-/

namespace GramSieve

open Gram

variable {field : String} {f g : Formula String} {m m' : Nat}

/-! ### Formulas -/

namespace Formula

/-- What is left of a formula within a budget: the formula itself, or else the disjunction of its
leaves. -/
def fit? (limit : Nat) (f : Formula String) : Option (Formula String) :=
  if f.clauseCount ≤ limit then some f
  else if f.disjunction limit = .const true ∨ limit < (f.disjunction limit).clauseCount then none
  else some (f.disjunction limit)

/-- A larger budget leaves something as strong. -/
theorem exists_fit?_of_le (hle : m ≤ m') (h : f.fit? m = some g) :
    ∃ g', f.fit? m' = some g' ∧ ∀ truth, g'.Holds truth → g.Holds truth := by
  unfold fit? at h ⊢
  by_cases hf : f.clauseCount ≤ m
  · rw [if_pos hf] at h
    rw [if_pos (Nat.le_trans hf hle)]
    cases h
    exact ⟨f, rfl, fun _ => id⟩
  · rw [if_neg hf] at h
    split at h
    · cases h
    · rename_i hfits
      obtain ⟨hconst, hcount⟩ := not_or.mp hfits
      cases h
      have hsame := disjunction_of_le hle hconst
      by_cases hf' : f.clauseCount ≤ m'
      · -- There is room for the formula itself, which is stronger.
        rw [if_pos hf']
        exact ⟨f, rfl, fun _ => holds_disjunction m⟩
      · rw [if_neg hf', hsame, if_neg (not_or.mpr ⟨hconst, by omega⟩)]
        exact ⟨_, rfl, fun _ => id⟩

end Formula

/-- The query of a weaker formula is weaker. -/
theorem Query.holds_normalize_ofFormula_mono {has : String → String → Prop}
    (hweaker : ∀ truth, f.Holds truth → g.Holds truth) (h : (ofFormula field f).normalize.Holds has) :
    (ofFormula field g).normalize.Holds has := by
  classical
  have htruth (t : String) : decide (has field t) = true ↔ has field t := decide_eq_true_iff
  rw [holds_normalize, holds_ofFormula htruth] at h ⊢
  exact hweaker _ h

/-! ### Plans -/

namespace Planner

variable {p : Planner} {plan : Plan} {q : Query}

/-- A search looks up what the budget leaves of a reduced formula. -/
theorem planFormula_of_reduced (hf : f.Reduced) : p.planFormula field f =
    match f.fit? p.settings.maxGramClauses with
    | some g => .ok (.accelerated (Query.ofFormula field g).normalize)
    | none => p.giveUp (.overClauseBudget f.clauseCount p.settings.maxGramClauses) := by
  have haccelerated {g : Formula String} (hg : g.Reduced) :
      Plan.ofQuery (Query.ofFormula field g).normalize =
        .accelerated (Query.ofFormula field g).normalize :=
    Plan.ofQuery_of_normal (Query.normal_ofFormula hg)
  unfold planFormula Formula.fit?
  simp only
  split
  · cases hf
  · cases hf
  -- A formula that fits is kept as it is, and else its disjunction is tried.
  · by_cases hcount : f.clauseCount ≤ p.settings.maxGramClauses
    · rw [if_pos hcount, if_pos hcount, haccelerated hf]
    · rw [if_neg hcount, if_neg hcount]
      split
      · rename_i htrue
        rw [if_pos (.inl htrue)]
      · rename_i hconst
        rw [haccelerated (Formula.reduced_disjunction hf hconst)]
        split
        · rename_i hover
          rw [if_pos (.inr hover)]
        · rename_i hfits
          rw [if_neg (not_or.mpr ⟨hconst, hfits⟩)]

/-- Only the constant that never holds makes a plan without matches. -/
theorem ne_noMatch_of_reduced (hf : f.Reduced) : p.planFormula field f ≠ .ok .noMatch := by
  rw [planFormula_of_reduced hf]
  split
  · exact nofun
  · exact fun h => nomatch (eq_unaccelerated_of_giveUp h).2

/-- Unless every document is looked at, something is required, and it does not depend on the budget. -/
theorem exists_formula_of_plan (h : (p.withBudget m).plan = .ok plan) (hplan : plan ≠ .unaccelerated) :
    ∃ field f, Formula.Simple f ∧
      ∀ limit, (p.withBudget limit).plan = (p.withBudget limit).planFormula field f := by
  have hregex := regex_isEmpty_of_plan h
  obtain ⟨hvalid, r, hr, h⟩ := plan_ok h
  split at h
  · exact absurd (eq_unaccelerated_of_giveUp h).2 hplan
  · rename_i field hfield
    obtain ⟨f, hf, -⟩ := h
    exact ⟨field.name, f.simplify, Formula.simple_simplify f,
      fun limit => plan_of_required hregex hvalid hr hfield hf⟩

/-- Nothing can match with any budget if nothing can with one. -/
theorem plan_noMatch (h : (p.withBudget m).plan = .ok .noMatch) (limit : Nat) :
    (p.withBudget limit).plan = .ok .noMatch := by
  obtain ⟨field, f, hsimple, hplan⟩ := exists_formula_of_plan h nofun
  rw [hplan] at h ⊢
  rcases hsimple with ⟨value, rfl⟩ | hreduced
  · cases value with
    | true => exact nomatch (eq_unaccelerated_of_giveUp h).2
    | false => rfl
  · exact absurd h (ne_noMatch_of_reduced hreduced)

/-- With a larger budget, the query is as strong. -/
theorem exists_stronger (hle : m ≤ m') (h : (p.withBudget m).plan = .ok (.accelerated q)) :
    ∃ q', (p.withBudget m').plan = .ok (.accelerated q') ∧ ∀ has, q'.Holds has → q.Holds has := by
  obtain ⟨field, f, hsimple, hplan⟩ := exists_formula_of_plan h nofun
  rw [hplan] at h ⊢
  rcases hsimple with ⟨value, rfl⟩ | hreduced
  -- Constants are not looked up, so the plan would not be an accelerated one.
  · cases value with
    | true => exact nomatch (eq_unaccelerated_of_giveUp h).2
    | false => cases h
  · rw [planFormula_of_reduced hreduced] at h ⊢
    split at h
    · rename_i g hg
      cases h
      obtain ⟨g', hg', hstronger⟩ := Formula.exists_fit?_of_le hle hg
      refine ⟨(Query.ofFormula field g').normalize, ?_, fun has hholds => ?_⟩
      · simp only [withBudget, hg']
      · exact Query.holds_normalize_ofFormula_mono hstronger hholds
    · exact nomatch (eq_unaccelerated_of_giveUp h).2

/-- **A larger budget never loses precision.** A search that is accelerated stays so with a larger budget
for the clauses of its query, and then finds no more documents in any segment to look at. That nothing
can match is found out with every budget. -/
theorem plan_precise (p : Planner) (hle : m ≤ m') :
    (∀ q, (p.withBudget m).plan = .ok (.accelerated q) →
      ∃ q', (p.withBudget m').plan = .ok (.accelerated q') ∧
        ∀ s : Segment, s.Built → ∀ doc, doc ∈ s.evaluate q' → doc ∈ s.evaluate q) ∧
      ((p.withBudget m).plan = .ok .noMatch ↔ (p.withBudget m').plan = .ok .noMatch) := by
  refine ⟨fun q hq => ?_, fun h => plan_noMatch h m', fun h => plan_noMatch h m⟩
  obtain ⟨q', hq', hstronger⟩ := exists_stronger hle hq
  refine ⟨q', hq', fun s hs doc hdoc => ?_⟩
  rw [hs.bounded.mem_evaluate] at hdoc ⊢
  exact ⟨hdoc.1, hstronger _ hdoc.2⟩

end Planner

namespace TwoOfThree

open Formula

/-- The formula of the three pairs is reduced. -/
theorem reduced_pairs : pairs.Reduced := by
  have hsimple : pairs.Simple := simplify_requirement ▸ simple_simplify _
  refine hsimple.resolve_left ?_
  rintro ⟨value, hvalue⟩
  cases hvalue

/-- Three clauses are not enough for the pairs, but for their letters. -/
theorem disjunction_pairs : pairs.disjunction 3 = composite .or [leaf "a", leaf "b", leaf "c"] := by
  have hleaves : pairs.distinctLeaves = [leaf "a", leaf "b", leaf "c"] := by cbv
  rw [disjunction_eq_ofLeaves reduced_pairs.not_isTrivial (by rw [hleaves]; decide), hleaves]
  rfl

/-- With room for three clauses it is weakened to its single leaves. -/
theorem plan_threeClauses :
    (planner.withBudget 3).plan = .ok (.accelerated (.terms "grams" ["a", "b", "c"])) := by
  have hmany : pairs.clauseCount = 6 := by cbv
  have hfit : pairs.fit? 3 = some (composite .or [leaf "a", leaf "b", leaf "c"]) := by
    rw [fit?, if_neg (by rw [hmany]; decide), disjunction_pairs, if_neg]
    have hfew : (composite .or [leaf "a", leaf "b", leaf "c"] : Formula String).clauseCount = 3 := by cbv
    rw [hfew]
    simp [composite]
  have hlimit : (planner.withBudget 3).settings.maxGramClauses = 3 := rfl
  rw [plan_withBudget, Planner.planFormula_of_reduced reduced_pairs, hlimit, hfit]
  cbv

end TwoOfThree

/-- With three clauses a document needs one of the letters, and with six it needs two of them. -/
theorem Planner.plan_precise_twoOfThree :
    let few : Query := .terms "grams" ["a", "b", "c"]
    3 ≤ 6 ∧ (TwoOfThree.planner.withBudget 3).plan = .ok (.accelerated few) ∧
      (TwoOfThree.planner.withBudget 6).plan = .ok (.accelerated TwoOfThree.query) ∧
      ∀ s : Segment, s.Built → ∀ doc, doc ∈ s.evaluate TwoOfThree.query → doc ∈ s.evaluate few := by
  intro few
  have hle : 3 ≤ 6 := by decide
  obtain ⟨q', hq', hfewer⟩ := (plan_precise TwoOfThree.planner hle).1 few TwoOfThree.plan_threeClauses
  have hplan : (TwoOfThree.planner.withBudget 6).plan = .ok (.accelerated TwoOfThree.query) :=
    TwoOfThree.plan_planner
  cases hplan.symm.trans hq'
  exact ⟨hle, TwoOfThree.plan_threeClauses, hplan, hfewer⟩

end GramSieve
