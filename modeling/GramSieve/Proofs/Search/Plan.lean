import GramSieve.Proofs.Automaton.Subset
import GramSieve.Proofs.Formula.Disjunction
import GramSieve.Proofs.Gram.Necessity
import GramSieve.Proofs.Query.Meaning
import GramSieve.Proofs.Regex.WellFormed
import GramSieve.Proofs.Regex.Literal
import GramSieve.Search.Plan

/-!
# Plans look at every document that matches

* `Plan.Covers` — a plan looks at a document with given terms.
* `Planner.holds_required` — a document with the terms of a match has what is required.
* `Planner.covers_planFormula` — a document with what is required is covered.
* `Planner.plan_ok` — what a plan is made from.
* `Planner.covers_plan` — hence the plan covers every document with the terms of a match.
* `Planner.covers_replan` — planning again for a part of the index covers what the query finds.
-/

namespace GramSieve

open Automaton Gram

variable {has : String → String → Prop} {truth : String → Bool}

/-- The plan looks at a document where `has field term` tells which terms it has. -/
def Plan.Covers (plan : Plan) (has : String → String → Prop) : Prop :=
  match plan with
  | .unaccelerated => True
  | .accelerated q => q.Holds has
  | .noMatch => False

/-- The plan for a query covers what the query holds of, also where that is everything and nothing is
looked up. -/
theorem Plan.covers_ofQuery (q : Query) : (Plan.ofQuery q).Covers has ↔ q.Holds has := by
  unfold Plan.ofQuery
  split
  · exact ⟨fun _ => (Query.holds_const true).mpr rfl, fun _ => trivial⟩
  · exact ⟨nofun, fun h => nomatch (Query.holds_const false).mp h⟩
  · exact Iff.rfl

/-! ### Literals -/

/-- The first distinct terms are terms. -/
theorem Gram.mem_of_mem_takeDistinct {count : Nat} {seen : Std.HashSet String} {ts : List String}
    {t : String} (h : t ∈ takeDistinct count seen ts) : t ∈ ts := by
  fun_induction takeDistinct count seen ts with
  | case1 | case2 => cases h
  | case3 seen u ts n _ ih => exact .tail _ (ih h)
  | case4 seen u ts n _ ih =>
    obtain _ | ⟨_, h⟩ := h
    · exact .head _
    · exact .tail _ (ih h)

/-- The formula of a literal requires none but its terms. -/
theorem Gram.holds_literalRequirement {b : Bounds} {analyzer : Analyzer} {literal : String}
    (h : ∀ t ∈ analyzer literal, truth t = true) :
    (literalRequirement b analyzer literal).Holds truth := by
  unfold literalRequirement
  rw [Formula.holds_composite, Connective.joins_map]
  intro t ht
  exact (Formula.holds_leaf t).mpr (h t (mem_of_mem_takeDistinct ht))

namespace Planner

variable {p : Planner} {plan : Plan}

/-- Only looking at every document is left when acceleration is given up. -/
theorem covers_giveUp {reason : Downgrade} (h : p.giveUp reason = .ok plan) : plan.Covers has := by
  unfold giveUp at h
  split at h
  · cases h
  · cases h
    trivial

/-- What is required holds if the terms of the match hold, and those of its grams. -/
theorem holds_required {analyzer : Analyzer} {r : Regex} {f : Formula String} {part : List Char}
    (h : p.required analyzer r = .ok f) (hr : r.WellBounded) (hpart : part ∈ r.language)
    (hterms : ∀ t ∈ analyzer (String.ofList part), truth t = true)
    (hgrams : HasGrams p.settings.gramSize analyzer truth part) : f.Holds truth := by
  unfold required at h
  simp only at h
  split at h
  · rename_i literal hliteral
    cases h
    -- The match is the literal itself, so its own terms are those that are asked for.
    rw [Regex.language_of_literalText? hliteral] at hpart
    cases hpart
    exact holds_literalRequirement hterms
  split at h
  · cases h
    exact (Formula.holds_const true).mpr rfl
  split at h
  · cases h
  · rename_i dfa hdfa
    exact holds_requiredGrams (Regex.ok_of_mapError h) ((Dfa.accepts_iff hr hdfa part).mpr hpart)
      hgrams

/-- A plan for a formula covers what the formula holds of, also if it had to be weakened. -/
theorem covers_planFormula {field : String} {f : Formula String}
    (htruth : ∀ t, truth t = true ↔ has field t) (h : p.planFormula field f = .ok plan)
    (hf : f.Holds truth) : plan.Covers has := by
  have haccelerated {g : Formula String} (hg : g.Holds truth) :
      (Plan.ofQuery (Query.ofFormula field g).normalize).Covers has := by
    rw [Plan.covers_ofQuery, Query.holds_normalize, Query.holds_ofFormula htruth]
    exact hg
  unfold planFormula at h
  simp only at h
  split at h
  · exact covers_giveUp h
  · cases (Formula.holds_const false).mp hf
  split at h
  · cases h
    exact haccelerated hf
  -- The disjunction is weaker, so it holds as well.
  have hweaker := Formula.holds_disjunction p.settings.maxGramClauses hf
  split at h
  · exact covers_giveUp h
  split at h
  · exact covers_giveUp h
  · cases h
    exact haccelerated hweaker

/-- With a field, the plan is made from what is required of its terms. -/
theorem plan_of_required {field : AnalyzedField} {r : Regex} {f : Formula String}
    (hregex : p.regex.isEmpty = false) (hvalid : p.settings.validate = .ok ())
    (hr : Regex.compile p.regex p.settings.fold = .ok r) (hfield : p.field = some field)
    (hf : p.required field.analyzer r = .ok f) : p.plan = p.planFormula field.name f.simplify := by
  simp only [plan, hregex, hvalid, hr, hfield, hf, ok_bind]
  rfl

/-- What is required by an automaton. -/
theorem required_of_ofRegex {analyzer : Analyzer} {r : Regex} {dfa : Dfa} {f : Formula String}
    (hliteral : r.literalText? = none) (hstates : p.settings.maxStatesTraced ≠ 0)
    (hdfa : Dfa.ofRegex r p.settings.maxDeterminizedStates = .ok dfa)
    (hf : requiredGrams p.settings.bounds analyzer dfa = .ok f) : p.required analyzer r = .ok f := by
  unfold required
  simp only [hliteral, hdfa, hf]
  exact if_neg hstates

/-- A literal needs no automaton: its plan asks for the grams of the literal. -/
theorem plan_of_literalText? {field : AnalyzedField} {r : Regex} {literal : List Char}
    (hregex : p.regex ≠ "") (hvalid : p.settings.validate = .ok ())
    (hr : Regex.compile p.regex p.settings.fold = .ok r) (hfield : p.field = some field)
    (hliteral : r.literalText? = some literal) :
    p.plan = p.planFormula field.name
      (literalRequirement p.settings.bounds field.analyzer (String.ofList literal)).simplify := by
  refine plan_of_required (by simpa using hregex) hvalid hr hfield ?_
  simp only [required, hliteral]

/-- There is no plan for an empty expression. -/
theorem regex_isEmpty_of_plan (h : p.plan = .ok plan) : p.regex.isEmpty = false := by
  by_contra hempty
  unfold Planner.plan at h
  rw [if_pos (Bool.not_eq_false _ ▸ hempty)] at h
  cases h

/-- A plan is made for a pattern that compiles, with settings that are allowed, from what is required
of the terms of a field or, without a field, by giving up. -/
theorem plan_ok (h : p.plan = .ok plan) :
    p.settings.validate = .ok () ∧ ∃ r, Regex.compile p.regex p.settings.fold = .ok r ∧
      match p.field with
      | none => p.giveUp .noGramField = .ok plan
      | some field => ∃ f, p.required field.analyzer r = .ok f ∧
          p.planFormula field.name f.simplify = .ok plan := by
  unfold Planner.plan at h
  -- The checks come in this order: empty expressions, settings, then the syntax.
  by_cases hempty : p.regex.isEmpty
  · rw [if_pos hempty] at h
    cases h
  rw [if_neg hempty] at h
  obtain ⟨⟨⟩, hvalid, h⟩ := ok_of_bind h
  obtain ⟨r, hr, h⟩ := ok_of_bind h
  refine ⟨hvalid, r, hr, ?_⟩
  cases hfield : p.field with
  | none =>
    rw [hfield] at h
    exact h
  | some field =>
    rw [hfield] at h
    exact ok_of_bind h

/-- The plan covers every document with the terms of a match. -/
theorem covers_plan (h : p.plan = .ok plan) :
    ∃ r, Regex.compile p.regex p.settings.fold = .ok r ∧
      ∀ (has : String → String → Prop), ∀ part ∈ r.language,
        (∀ field, p.field = some field →
          (∀ t ∈ field.analyzer (String.ofList part), has field.name t) ∧
          ∀ gram, gram.length = p.settings.gramSize → gram <:+: part →
            ∀ t ∈ field.analyzer (String.ofList gram), has field.name t) →
        plan.Covers has := by
  classical
  obtain ⟨-, r, hr, h⟩ := plan_ok h
  refine ⟨r, hr, fun has part hpart hfields => ?_⟩
  split at h
  · exact covers_giveUp h
  · rename_i field hfield
    obtain ⟨hterms, hgrams⟩ := hfields field hfield
    obtain ⟨f, hf, h⟩ := h
    -- The document decides which terms are true.
    have htruth : ∀ t, decide (has field.name t) = true ↔ has field.name t :=
      fun t => decide_eq_true_iff
    refine covers_planFormula htruth h ((Formula.holds_simplify f).mpr ?_)
    refine holds_required hf (Regex.wellBounded_of_compile hr) hpart ?_ ?_
    · exact fun t ht => (htruth t).mpr (hterms t ht)
    · exact fun gram hlength hgram t ht => (htruth t).mpr (hgrams gram hlength hgram t ht)

/-- Planning again for a query covers what the query holds of. -/
theorem covers_replan {q : Query} (h : p.replan q = .ok plan) (hq : q.Holds has) :
    plan.Covers has := by
  unfold replan at h
  split at h
  · exact covers_giveUp h
  · cases (Query.holds_const false).mp hq
  · cases h
    exact hq

end Planner

end GramSieve
