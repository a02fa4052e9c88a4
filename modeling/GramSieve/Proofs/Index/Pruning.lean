import GramSieve.Proofs.Index.Search
import GramSieve.Proofs.Query.NormalForm
import GramSieve.Proofs.Search.Budget

/-!
# Planning again for a segment

* `Segment.Built` — a segment made by adding documents; its postings know its own documents only.
* `Segment.mentions_prune_subperm` — a pruned query mentions only terms that the segment has.
* `Segment.prune_ne_true` — a normal query does not become trivial.
* `CompiledQuery.planFor_exact` — so an accelerated plan stays one or skips the segment, and finds
  the same documents.
-/

namespace GramSieve

namespace Segment

variable {s : Segment} {q : Query}

/-! ### Segments that documents were added to -/

/-- A segment made by adding documents, each with a schema of its own. -/
inductive Built : Segment → Prop
  | empty : Built {}
  | add {s : Segment} (schema : Schema) (d : Document) (hs : Built s) : Built (s.add schema d)

/-- A segment that was built has postings of its own documents only. -/
theorem Built.bounded (hs : s.Built) : s.Bounded := by
  induction hs with
  | empty => exact (indexes_empty {}).bounded
  | @add s schema d _ ih =>
    intro field t doc h
    rw [size_add]
    obtain hold | ⟨rfl, -⟩ := has_add.mp h
    · exact Nat.lt_succ_of_lt (ih field t doc hold)
    · exact Nat.lt_succ_self _

/-! ### Pruned queries -/

/-- Only terms that the segment has are left, and none is mentioned more often than before. -/
theorem mentions_prune_subperm (q : Query) :
    (s.prune q).mentions.Subperm (q.mentions.filter fun x => s.hasTerm x.1 x.2) := by
  match q with
  | .const value =>
    rw [prune]
    refine (Query.mentions_normalize_subperm _).trans ?_
    rw [Query.mentions_const]
    exact List.nil_subperm
  | .term field t =>
    rw [prune]
    refine (Query.mentions_normalize_subperm _).trans ?_
    split
    · rename_i hterm
      have hkept : [(field, t)].filter (fun x => s.hasTerm x.1 x.2) = [(field, t)] :=
        List.filter_eq_self.mpr (List.forall_mem_singleton.mpr hterm)
      rw [Query.mentions_term, hkept]
    · rw [Query.mentions_const]
      exact List.nil_subperm
  | .terms field ts =>
    rw [prune]
    refine (Query.mentions_normalize_subperm _).trans ?_
    rw [Query.mentions_terms, Query.mentions_terms, List.filter_map]
    exact .refl _
  | .node kind qs =>
    rw [prune]
    refine (Query.mentions_normalize_subperm _).trans ?_
    rw [Query.mentions_node, pruneList_eq_map, Query.mentions_node, List.filter_flatMap]
    exact Query.mentions_flatMap_subperm fun q _ => mentions_prune_subperm q

/-- Pruning adds no clauses. -/
theorem clauseCount_prune_le (q : Query) : (s.prune q).clauseCount ≤ q.clauseCount :=
  Query.clauseCount_le_of_subperm ((mentions_prune_subperm q).trans List.filter_sublist.subperm)

/-- A pruned query asks for terms of the segment only. -/
theorem hasTerm_of_mem_mentions_prune {x : String × String} (hx : x ∈ (s.prune q).mentions) :
    s.hasTerm x.1 x.2 = true :=
  (List.mem_filter.mp ((mentions_prune_subperm q).subset hx)).2

/-- A normal query does not hold where there are no terms, so it does not become trivial. -/
theorem prune_ne_true (hq : q.Normal) : s.prune q ≠ .const true := by
  intro htrue
  have hholds : (s.prune q).Holds fun _ _ => False := by
    rw [htrue]
    exact (Query.holds_const true).mpr rfl
  exact hq.not_holds ((holds_prune_of_hasTerm (fun _ _ => False.elim) q).mp hholds)

end Segment

namespace CompiledQuery

variable {c : CompiledQuery} {q : Query} {s : Segment}

/-- Planning again for a segment skips it if nothing is left of a normal query, and otherwise looks up
what is left. -/
theorem planFor_of_normal (hplan : c.plan = .accelerated q) (hq : q.Normal) :
    (c.planFor s = .ok .noMatch ∧ s.prune q = .const false) ∨
      c.planFor s = .ok (.accelerated (s.prune q)) := by
  have hnot : s.prune q ≠ .const true := Segment.prune_ne_true hq
  have hplanFor : c.planFor s = c.query.planner.replan (s.prune q) := by
    unfold planFor
    rw [hplan]
  rw [hplanFor]
  cases hpruned : s.prune q with
  | const value =>
    cases value with
    | true => exact absurd hpruned hnot
    | false => exact .inl ⟨rfl, rfl⟩
  | term | terms | node => exact .inr rfl

end CompiledQuery

/-- **Planning again for a segment is exact.** An accelerated query is planned again without the terms
that no document of the segment has. The new plan skips the segment, and then the query finds nothing
there, or it is accelerated by a query that finds the same documents, has no more clauses and mentions
only terms of the segment. It never fails, and it never looks at every document. -/
theorem CompiledQuery.planFor_exact {q : RegexQuery} {schema : Schema} {c : CompiledQuery}
    {query : Query} {s : Segment} (hc : q.compile schema = .ok c)
    (hplan : c.plan = .accelerated query) (hs : s.Built) :
    (c.planFor s = .ok .noMatch ∧ ∀ doc, doc ∉ s.evaluate query) ∨
      ∃ query', c.planFor s = .ok (.accelerated query') ∧
        (∀ doc, doc ∈ s.evaluate query' ↔ doc ∈ s.evaluate query) ∧
        query'.clauseCount ≤ query.clauseCount ∧
        ∀ x ∈ query'.mentions, s.hasTerm x.1 x.2 = true := by
  obtain ⟨-, field, hplanned, -⟩ := RegexQuery.compile_ok hc
  have hnormal : query.Normal := Planner.normal_of_plan (hplan ▸ hplanned)
  -- Both plans have the pruned query, which holds of the same documents.
  have hsame (doc : Nat) : doc ∈ s.evaluate (s.prune query) ↔ doc ∈ s.evaluate query := by
    rw [hs.bounded.mem_evaluate, hs.bounded.mem_evaluate, Segment.holds_prune]
  rcases planFor_of_normal (s := s) hplan hnormal with ⟨hplanFor, hpruned⟩ | hplanFor
  · refine .inl ⟨hplanFor, fun doc hdoc => ?_⟩
    rw [← hsame, hs.bounded.mem_evaluate, hpruned, Query.holds_const] at hdoc
    exact nomatch hdoc.2
  · exact .inr ⟨s.prune query, hplanFor, hsame, Segment.clauseCount_prune_le query,
      fun _ => Segment.hasTerm_of_mem_mentions_prune⟩

/-! ### A small search -/

namespace AbPair

open Gram

/-- The pairs of characters of a text. -/
def analyzer : GramAnalyzer := { gramSize := 2 }

/-- Settings that allow a single clause, and nothing to fall back to. -/
def settings : Settings :=
  { gramSize := 2, maxGramClauses := 1, caseSensitive := true, rejectUnaccelerated := true }

/-- A search for `ab` by pairs of characters. -/
def planner : Planner :=
  { regex := "ab", settings, field := some ⟨"grams", analyzer.analyze⟩ }

/-- The only pair of `ab`. -/
def query : Query := .term "grams" "ab"

/-- The plan looks up the only term that there is. -/
theorem plan_planner : planner.plan = .ok (.accelerated query) := by
  have hregex : Regex.compile "ab" none = .ok (.literal [0x61, 0x62]) := by cbv
  have hliteral : Regex.literalText? (.literal [0x61, 0x62]) = some ['a', 'b'] := by cbv
  have hterms : analyzer.analyze (String.ofList ['a', 'b']) = ["ab"] := by cbv
  have hrequirement : literalRequirement settings.bounds analyzer.analyze
      (String.ofList ['a', 'b']) = .composite .and [.leaf "ab"] := by
    rw [literalRequirement, hterms]
    simp [takeDistinct, settings, Settings.bounds]
  refine (Planner.plan_of_literalText? (by decide) rfl hregex rfl hliteral).trans ?_
  refine (congrArg (fun f => planner.planFormula "grams" f.simplify) hrequirement).trans ?_
  cbv

end AbPair

/-- A segment with `bc`, but without `ab`, need not be searched for `ab`. -/
theorem CompiledQuery.planFor_exact_ab :
    let schema : Schema := { gramFields := [⟨"grams", "body", AbPair.analyzer⟩] }
    let q : RegexQuery :=
      { field := "body", regex := "ab", gramField := some "grams", settings := AbPair.settings }
    let c : CompiledQuery := ⟨q, .accelerated AbPair.query⟩
    let s : Segment := Segment.add {} schema ⟨[("body", ["bc"])]⟩
    (q.compile schema = .ok c ∧ s.Built) ∧
      c.planFor s = .ok .noMatch ∧ ∀ doc, doc ∉ s.evaluate AbPair.query := by
  intro schema q c s
  have hc : q.compile schema = .ok c := by
    show (do
      let plan ← AbPair.planner.plan
      return ({ query := q, plan } : CompiledQuery)) = _
    rw [AbPair.plan_planner]
    rfl
  have hs : s.Built := .add schema _ .empty
  have hterms : Segment.termsOf ⟨"grams", "body", AbPair.analyzer⟩ ⟨[("body", ["bc"])]⟩ = ["bc"] := by
    cbv
  have hpostings : s.postings["grams"]? = some (Postings.add {} 0 ["bc"]) := by
    simp [s, Segment.add, Segment.size, schema, hterms]
  -- The segment has the pair `bc` only, so the query is pruned to nothing.
  have hab : s.hasTerm "grams" "ab" = false := by
    simp [Segment.hasTerm, hpostings, Postings.add, Postings.addTerm, Postings.contains,
      Std.HashMap.mem_alter]
  have hplanFor : c.planFor s = .ok .noMatch := by
    simp [c, AbPair.query, planFor, Segment.prune, hab, Query.normalize, Planner.replan]
  refine ⟨⟨hc, hs⟩, ?_⟩
  rcases planFor_exact hc rfl hs with hnone | ⟨query', hquery', -⟩
  · exact hnone
  · rw [hplanFor] at hquery'
    cases hquery'

end GramSieve
