import GramSieve.Proofs.Query.NormalForm
import GramSieve.Proofs.Search.Plan

/-!
# Plans within the budget

* `Query.normal_ofFormula` — the query of a reduced formula has a normal form, and no constant.
* `Planner.Planned` — what a plan for a formula can be.
* `Planner.planned_of_planFormula`, `Planner.planned_of_plan` — a plan is one of these.
* `Planner.plan_within_budget` — a query that accelerates a search has some clauses, but no more than
  the settings allow, and no plan gives up acceleration if the settings refuse it.
* `Planner.withBudget` — the search with another budget.
-/

namespace GramSieve

open Automaton Gram

variable {field : String} {f : Formula String}

/-- The query of a reduced formula does not become constant: it holds where all terms are, and not
where there are none. -/
theorem Query.normal_ofFormula (hf : f.Reduced) : (ofFormula field f).normalize.Normal := by
  have hholds : ∀ value : Bool, (ofFormula field f).normalize.Holds (fun _ _ => value = true) ↔
      f.Holds fun _ => value := by
    intro value
    rw [holds_normalize]
    exact holds_ofFormula (fun _ => Iff.rfl) f
  refine (canonical_normalize _).resolve_left ?_
  rintro ⟨value, hconst⟩
  rw [hconst] at hholds
  cases value with
  | true => exact hf.not_holds ((hholds false).mp ((holds_const true).mpr rfl))
  | false => exact nomatch (holds_const false).mp ((hholds true).mpr hf.holds)

/-- The normal form does not have more clauses than the formula, if a machine word can count them. -/
theorem Query.clauseCount_normalize_ofFormula_le {limit : Nat} (hlimit : limit < Formula.maxCount)
    (h : f.clauseCount ≤ limit) : (ofFormula field f).normalize.clauseCount ≤ limit := by
  have hnormal := clauseCount_normalize_le (ofFormula field f)
  rw [clauseCount_ofFormula] at hnormal
  rw [Formula.clauseCount_eq_min] at h
  omega

/-- A normal query is not trivial, so it is looked up. -/
theorem Plan.ofQuery_of_normal {q : Query} (h : q.Normal) : Plan.ofQuery q = .accelerated q := by
  cases q with
  | const value => exact absurd h Query.not_normal_const
  | term | terms | node => rfl

namespace Planner

variable {p : Planner} {plan : Plan}

/-- What a plan for a formula can be: it gives up if that is not refused, it skips everything for
the constant that never holds, and otherwise it looks up some terms, which are no more than allowed. -/
inductive Planned (p : Planner) (f : Formula String) : Plan → Prop
  | unaccelerated (h : p.settings.rejectUnaccelerated = false) : Planned p f .unaccelerated
  | noMatch (h : f = .const false) : Planned p f .noMatch
  | accelerated (q : Query) (hnormal : q.Normal)
      (hclauses : p.settings.maxGramClauses < Formula.maxCount →
        q.clauseCount ≤ p.settings.maxGramClauses) : Planned p f (.accelerated q)

/-- Giving up is only possible if the settings do not refuse it. -/
theorem eq_unaccelerated_of_giveUp {reason : Downgrade} (h : p.giveUp reason = .ok plan) :
    p.settings.rejectUnaccelerated = false ∧ plan = .unaccelerated := by
  unfold giveUp at h
  split at h
  · cases h
  · rename_i hallowed
    exact ⟨Bool.not_eq_true _ ▸ hallowed, (Except.ok.inj h).symm⟩

/-- So giving up is one of the plans that there can be. -/
theorem planned_of_giveUp {reason : Downgrade} (h : p.giveUp reason = .ok plan) :
    Planned p f plan := by
  obtain ⟨hallowed, rfl⟩ := eq_unaccelerated_of_giveUp h
  exact .unaccelerated hallowed

/-- A reduced formula within the budget accelerates the search. -/
theorem planned_ofQuery {g : Formula String} (hg : g.Reduced)
    (hclauses : g.clauseCount ≤ p.settings.maxGramClauses) :
    Planned p f (Plan.ofQuery (Query.ofFormula field g).normalize) := by
  have hnormal : (Query.ofFormula field g).normalize.Normal := Query.normal_ofFormula hg
  rw [Plan.ofQuery_of_normal hnormal]
  exact .accelerated _ hnormal fun hlimit => Query.clauseCount_normalize_ofFormula_le hlimit hclauses

/-- A plan for a simple formula is one of these, in each of the ways in which the formula is made to
fit. -/
theorem planned_of_planFormula (hf : f.Simple) (h : p.planFormula field f = .ok plan) :
    Planned p f plan := by
  unfold planFormula at h
  simp only at h
  split at h
  · exact planned_of_giveUp h
  · cases h
    exact .noMatch rfl
  · rename_i htrue hfalse
    -- Both constants have been dealt with.
    have hreduced : f.Reduced := by
      refine hf.resolve_left ?_
      rintro ⟨_ | _, rfl⟩
      · exact hfalse rfl
      · exact htrue rfl
    split at h
    · rename_i hclauses
      cases h
      exact planned_ofQuery hreduced hclauses
    split at h
    · exact planned_of_giveUp h
    · rename_i hconst
      split at h
      · exact planned_of_giveUp h
      · rename_i hclauses
        cases h
        exact planned_ofQuery (Formula.reduced_disjunction hreduced hconst) (Nat.le_of_not_lt hclauses)

/-- Every plan is a plan for some formula. -/
theorem planned_of_plan (h : p.plan = .ok plan) : ∃ f, Planned p f plan := by
  obtain ⟨-, r, -, h⟩ := plan_ok h
  split at h
  · exact ⟨.const true, planned_of_giveUp h⟩
  · obtain ⟨f, -, h⟩ := h
    exact ⟨_, planned_of_planFormula (Formula.simple_simplify f) h⟩

/-- Only normal queries accelerate a search. -/
theorem normal_of_plan {q : Query} (h : p.plan = .ok (.accelerated q)) : q.Normal := by
  obtain ⟨f, hplanned⟩ := planned_of_plan h
  cases hplanned
  assumption

/-- **Accelerated searches stay within their budget.** A query that accelerates a search looks up at
least one term, and no more than the settings allow; it has no constants, and every composite in it
has several operands. If the settings refuse to look at every document, no plan does. -/
theorem plan_within_budget (hlimit : p.settings.maxGramClauses < Formula.maxCount)
    (h : p.plan = .ok plan) :
    (∀ q, plan = .accelerated q →
      1 ≤ q.clauseCount ∧ q.clauseCount ≤ p.settings.maxGramClauses ∧ q.Normal) ∧
      (p.settings.rejectUnaccelerated = true → plan ≠ .unaccelerated) := by
  obtain ⟨f, hplanned⟩ := planned_of_plan h
  cases hplanned with
  | unaccelerated hallowed =>
    refine ⟨nofun, fun hreject => ?_⟩
    rw [hallowed] at hreject
    cases hreject
  | noMatch => exact ⟨nofun, nofun⟩
  | accelerated q hnormal hclauses =>
    refine ⟨fun q' hq => ?_, nofun⟩
    cases hq
    exact ⟨hnormal.clauseCount_pos, hclauses hlimit, hnormal⟩

/-! ### Another budget -/

/-- The search with another budget. -/
def withBudget (p : Planner) (limit : Nat) : Planner :=
  { p with settings := { p.settings with maxGramClauses := limit } }

end Planner

/-! ### A small plan -/

namespace TwoOfThree

open Formula

/-- The characters of a text. -/
def analyzer : GramAnalyzer := { gramSize := 1 }

/-- Settings that allow six clauses, and nothing to fall back to. -/
def settings : Settings :=
  { gramSize := 1, maxStatesTraced := 8, maxDeterminizedStates := 8, maxGramClauses := 6,
    caseSensitive := true, rejectUnaccelerated := true }

/-- A search for two of three letters by single characters. -/
def planner : Planner :=
  { regex := "ab|bc|ca", settings, field := some ⟨"grams", analyzer.analyze⟩ }

/-- The expression that is searched for. -/
def regex : Regex := .alternation [.literal [97, 98], .literal [98, 99], .literal [99, 97]]

/-- Its automaton. -/
def dfa : Dfa :=
  ⟨#[⟨#[⟨97, 97, 1⟩, ⟨98, 98, 2⟩, ⟨99, 99, 3⟩], false⟩, ⟨#[⟨98, 98, 4⟩], false⟩,
    ⟨#[⟨99, 99, 4⟩], false⟩, ⟨#[⟨97, 97, 4⟩], false⟩, ⟨#[], true⟩]⟩

/-- The automaton with the characters that it reads as grams. -/
def graph : GramGraph :=
  ⟨#[⟨[⟨some 0, 1⟩, ⟨some 1, 2⟩, ⟨some 2, 3⟩], false⟩, ⟨[⟨some 1, 4⟩], false⟩,
    ⟨[⟨some 2, 4⟩], false⟩, ⟨[⟨some 0, 4⟩], false⟩, ⟨[], true⟩], #[['a'], ['b'], ['c']]⟩

/-- One letter, and then another one. -/
def letters (t u : String) : Formula String :=
  composite .and [leaf t, composite .or [composite .and [leaf u, .const true]]]

/-- What is required: each of the three letters stands in two of the pairs. -/
def pairs : Formula String :=
  composite .or [composite .and [leaf "a", leaf "b"], composite .and [leaf "b", leaf "c"],
    composite .and [leaf "c", leaf "a"]]

/-- The query for the pairs. -/
def query : Query :=
  .node .or [.node .and [.term "grams" "a", .term "grams" "b"],
    .node .and [.term "grams" "a", .term "grams" "c"], .node .and [.term "grams" "b", .term "grams" "c"]]

/-- What the graph of the expression requires are the three pairs. -/
theorem simplify_requirement : simplify (graph.requirement analyzer.analyze) = pairs := by
  have hrequirement : graph.requirement analyzer.analyze =
      composite .or [letters "a" "b", letters "b" "c", letters "c" "a"] := by cbv
  rw [hrequirement]
  cbv

/-- Whatever the budget is, the pairs are what is required. -/
theorem plan_withBudget (limit : Nat) :
    (planner.withBudget limit).plan = (planner.withBudget limit).planFormula "grams" pairs := by
  have hcompile : Regex.compile "ab|bc|ca" none = .ok regex := by cbv
  have hregex : Regex.compile (planner.withBudget limit).regex
      (planner.withBudget limit).settings.fold = .ok regex := hcompile
  have hfield : (planner.withBudget limit).field = some ⟨"grams", analyzer.analyze⟩ := rfl
  have hdfa : Dfa.ofRegex regex 8 = .ok dfa := by cbv
  have hgraph : GramGraph.ofDfa settings.bounds dfa = .ok graph := by cbv
  have hgrams : requiredGrams settings.bounds analyzer.analyze dfa =
      .ok (graph.requirement analyzer.analyze) := by
    rw [requiredGrams, if_neg (by decide), hgraph]
    rfl
  have hrequired := Planner.required_of_ofRegex (p := planner.withBudget limit)
    (show regex.literalText? = none by cbv) (show 8 ≠ 0 by decide) hdfa hgrams
  rw [Planner.plan_of_required (by rfl) (by rfl) hregex hfield hrequired, simplify_requirement]

/-- With room for six clauses the pairs stay as they are. -/
theorem plan_planner : planner.plan = .ok (.accelerated query) := by
  refine (plan_withBudget 6).trans ?_
  cbv

end TwoOfThree

/-- Six clauses are just enough to ask for two of three letters. -/
theorem Planner.plan_within_budget_twoOfThree :
    (TwoOfThree.settings.maxGramClauses < Formula.maxCount ∧
      TwoOfThree.planner.plan = .ok (.accelerated TwoOfThree.query)) ∧
    1 ≤ TwoOfThree.query.clauseCount ∧ TwoOfThree.query.clauseCount ≤ 6 ∧ TwoOfThree.query.Normal := by
  have hlimit : TwoOfThree.settings.maxGramClauses < Formula.maxCount := by decide
  have hbudget := plan_within_budget (p := TwoOfThree.planner) hlimit TwoOfThree.plan_planner
  exact ⟨⟨hlimit, TwoOfThree.plan_planner⟩, hbudget.1 TwoOfThree.query rfl⟩

end GramSieve
