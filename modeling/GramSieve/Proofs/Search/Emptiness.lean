import GramSieve.Proofs.Automaton.Liveness
import GramSieve.Proofs.Gram.Emptiness
import GramSieve.Proofs.Search.Plan

/-!
# Searches for nothing

* `Formula.simplify_eq_false` — a formula that holds nowhere is simplified to the constant.
* `Planner.not_holds_required` — nothing is required of no text.
* `Planner.noMatch_iff_language_empty` — a plan skips everything if and only if the language of the
  expression is empty.
-/

namespace GramSieve

open Automaton Gram

/-- A formula that does not even hold where all its leaves do is simplified to a constant. -/
theorem Formula.simplify_eq_false {α : Type} [DecidableEq α] [Ord α] [Hinted α] {f : Formula α}
    (h : ¬f.Holds fun _ => true) : f.simplify = .const false := by
  rw [← holds_simplify] at h
  obtain ⟨value, hvalue⟩ | hreduced := simple_simplify f
  · rw [hvalue, holds_const, Bool.not_eq_true] at h
    rw [hvalue, h]
  · exact absurd hreduced.holds h

namespace Planner

variable {p : Planner} {plan : Plan}

/-- Settings with grams of length zero are refused. -/
theorem gramSize_ne_zero_of_validate {s : Settings} (h : s.validate = .ok ()) : s.gramSize ≠ 0 := by
  intro hzero
  unfold Settings.validate at h
  rw [if_pos hzero] at h
  cases h

/-- What is required of the texts of an empty language does not hold. -/
theorem not_holds_required {analyzer : Analyzer} {r : Regex} {f : Formula String}
    {truth : String → Bool} (h : p.required analyzer r = .ok f) (hsize : p.settings.gramSize ≠ 0)
    (hstates : 0 < p.settings.maxStatesTraced) (hr : r.WellBounded) (hpopulated : r.Populated)
    (hempty : ∀ w, w ∉ r.language) : ¬f.Holds truth := by
  unfold required at h
  simp only at h
  split at h
  · -- A literal is a text of its language.
    rename_i literal hliteral
    have hlanguage := Regex.language_of_literalText? hliteral
    exact absurd (hlanguage ▸ rfl) (hempty literal)
  have hne : p.settings.bounds.maxStatesTraced ≠ 0 := Nat.ne_of_gt hstates
  rw [if_neg hne] at h
  split at h
  · cases h
  · rename_i dfa hdfa
    exact not_holds_requiredGrams (Regex.ok_of_mapError h) hne hsize fun state hstate =>
      Dfa.isAccept_eq_false_of_reached hr hpopulated hdfa hempty hstate

/-- **Only searches for nothing are skipped.** With a gram field, and with some states to trace, the
plan of an expression whose classes hold characters is that nothing can match if and only if the
language of the expression is empty. -/
theorem noMatch_iff_language_empty {field : AnalyzedField} (hfield : p.field = some field)
    (hstates : 0 < p.settings.maxStatesTraced) (h : p.plan = .ok plan) :
    ∃ r, Regex.compile p.regex p.settings.fold = .ok r ∧
      (r.Populated → (plan = .noMatch ↔ ∀ w, w ∉ r.language)) := by
  obtain ⟨r, hr, hcovers⟩ := covers_plan h
  refine ⟨r, hr, fun hpopulated => ⟨?_, fun hempty => ?_⟩⟩
  · rintro rfl w hw
    -- A plan that skips everything does not even cover a document with all terms.
    exact hcovers (fun _ _ => True) w hw fun _ _ =>
      ⟨fun _ _ => trivial, fun _ _ _ _ _ => trivial⟩
  · obtain ⟨hvalid, r', hr', h⟩ := plan_ok h
    obtain rfl : r = r' := Except.ok.inj (hr.symm.trans hr')
    rw [hfield] at h
    obtain ⟨f, hf, h⟩ := h
    have hfalse : f.simplify = .const false := Formula.simplify_eq_false
      (not_holds_required hf (gramSize_ne_zero_of_validate hvalid) hstates
        (Regex.wellBounded_of_compile hr) hpopulated hempty)
    rw [hfalse] at h
    exact (Except.ok.inj h).symm

/-- No character is both an `a` and a `b`. -/
theorem noMatch_iff_language_empty_impossible :
    let analyzer : GramAnalyzer := { gramSize := 3, lowercase := some .root }
    let field : AnalyzedField := ⟨"grams", analyzer.analyze⟩
    let p : Planner := { regex := "[a&&b]+", settings := {}, field := some field }
    (p.field = some field ∧ 0 < p.settings.maxStatesTraced ∧ p.plan = .ok .noMatch) ∧
      ∃ r, Regex.compile "[a&&b]+" (some .lowercase) = .ok r ∧ r.Populated ∧
        ∀ w, w ∉ r.language := by
  intro analyzer field p
  have hplan : p.plan = .ok .noMatch := by cbv
  have hregex : Regex.compile "[a&&b]+" (some .lowercase) =
      .ok (.repetition 1 none true .never) := by cbv
  obtain ⟨r, hr, hiff⟩ := noMatch_iff_language_empty (p := p) rfl (by decide) hplan
  obtain rfl := Except.ok.inj (hr.symm.trans hregex)
  have hpopulated : Regex.Populated (.repetition 1 none true .never) := by
    simp [Regex.Populated, Regex.never]
  exact ⟨⟨rfl, by decide, hplan⟩, _, hregex, hpopulated, (hiff hpopulated).mp rfl⟩

end Planner

end GramSieve
