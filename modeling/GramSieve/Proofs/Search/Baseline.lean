import GramSieve.Proofs.Regex.Unanchored
import GramSieve.Proofs.Search.Recheck

/-!
# The fast scans and the whole-value match

The baseline matches a value as a whole, with any text before and behind a match. The fast
strategies scan the value from every place instead, and fold it as they go.

* `Rechecker.compile_baseline_accepts` — the automaton of the baseline accepts the texts with a match.
* `Rechecker.recheck_eq_baseline` — both ways find the same values.
-/

namespace GramSieve.Rechecker

open Automaton

variable {regex : String} {s : Settings} {dfa : Dfa}

/-- The automaton of the baseline accepts exactly the texts with a match inside. -/
theorem compile_baseline_accepts (h : compile regex s .baseline = .ok dfa) :
    ∃ r, Regex.compile regex s.fold = .ok r ∧
      ∀ text, dfa.accepts text = true ↔ r.MatchesIn text := by
  obtain ⟨r, hr, hdfa⟩ := ok_of_bind h
  have hformed : r.WellFormed := Regex.wellFormed_of_compile hr
  have hbounded : r.unanchored.WellBounded := (Regex.wellFormed_unanchored hformed).wellBounded
  refine ⟨r, hr, fun text => ?_⟩
  rw [Dfa.accepts_iff hbounded (Regex.ok_of_mapError hdfa), Regex.mem_language_unanchored hformed]
  rfl

/-- The baseline reads a value as the settings fold it. -/
theorem matchesValue_baseline (value : String) :
    (withStrategy regex s .baseline).matchesValue dfa value = dfa.accepts (s.foldText value) := rfl

/-- **The fast strategies agree with the baseline.** For every pattern, every settings and every list
of values: where both rechecks succeed they give the same answer, and that is whether the automaton
of the pattern with any text around accepts one of the folded values as a whole. -/
theorem recheck_eq_baseline {values : List String} {found found' : Bool}
    (h : (ofSettings regex s).recheck values = .ok found)
    (h' : (withStrategy regex s .baseline).recheck values = .ok found') :
    found = found' ∧ ∃ dfa, compile regex s .baseline = .ok dfa ∧
      (found = true ↔ ∃ v ∈ values, dfa.accepts (s.foldText v) = true) := by
  obtain ⟨r, hr, hfound⟩ := recheck_ofSettings h
  obtain ⟨dfa, hdfa, h'⟩ := ok_of_bind h'
  have hfound' : found' = true ↔ ∃ v ∈ values, dfa.accepts (s.foldText v) = true := by
    cases h'
    simp only [List.any_eq_true, matchesValue_baseline]
  -- Both compile the pattern with the same fold, so they look for the same language.
  obtain ⟨r', hr', haccepts⟩ := compile_baseline_accepts hdfa
  have hrr : r = r' := Except.ok.inj (hr.symm.trans hr')
  subst hrr
  have hiff : found = true ↔ ∃ v ∈ values, dfa.accepts (s.foldText v) = true := by
    simp only [hfound, haccepts]
  exact ⟨Bool.eq_iff_iff.mpr (hiff.trans hfound'.symm), dfa, hdfa, hiff⟩

/-- In Turkish, `I[^x]` is found in the second value, an `I` before a line end. -/
theorem recheck_eq_baseline_turkish :
    let s : Settings := { locale := .turkish }
    let regex := "I[^x]"
    let values := ["i", "xI\n"]
    (ofSettings regex s).recheck values = .ok true ∧
      (withStrategy regex s .baseline).recheck values = .ok true ∧
      ∃ dfa, compile regex s .baseline = .ok dfa ∧
        ∃ v ∈ values, dfa.accepts (s.foldText v) = true := by
  intro s regex values
  have h : (ofSettings regex s).recheck values = .ok true := by cbv
  have h' : (withStrategy regex s .baseline).recheck values = .ok true := by cbv
  obtain ⟨-, dfa, hdfa, hiff⟩ := recheck_eq_baseline h h'
  exact ⟨h, h', dfa, hdfa, hiff.mp rfl⟩

end GramSieve.Rechecker
