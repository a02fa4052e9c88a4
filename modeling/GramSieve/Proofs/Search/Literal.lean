import GramSieve.Proofs.Regex.Escaping
import GramSieve.Proofs.Search.Recheck
import GramSieve.Proofs.Text.PairRules

/-!
# Searching a text for itself

The literals of a pattern are folded character by character, and the values of some languages are
lowercased as a whole. A text that is searched for literally is found in itself exactly if both give
the same.

* `Rechecker.matchesIn_escapeText` — an escaped text is found where its folded characters are.
* `Rechecker.finds_itself_iff` — a text is found in itself unless a rule for two characters applies
  somewhere in it.
-/

namespace GramSieve.Rechecker

open Pattern Text

variable {s : Settings}

/-- An escaped text is found exactly where its folded characters stand in a row. -/
theorem matchesIn_escapeText {text : String} {r : Regex} (hcase : s.caseSensitive = false)
    (hr : Regex.compile (escapeText text) s.fold = .ok r) (value : List Char) :
    r.MatchesIn value ↔ text.toList.map s.locale.charFold.fold <:+: value := by
  have hfold : s.fold = some s.locale.charFold := by simp [Settings.fold, hcase]
  rw [hfold, Regex.compile_escapeText] at hr
  cases hr
  simp only [Regex.MatchesIn, Option.elim_some, Regex.language_ofText]
  constructor
  · rintro ⟨part, hinfix, rfl⟩
    exact hinfix
  · intro hinfix
    exact ⟨_, hinfix, rfl⟩

/-- **A literal finds itself.** For every language and every text, where the automaton of the escaped
text is made within its bound: the recheck of the text itself succeeds, and it reports a match
exactly if no rule for two characters applies in the text. -/
theorem finds_itself_iff {text : String} {dfa : Automaton.Dfa} (hcase : s.caseSensitive = false)
    (hdfa : (ofSettings (escapeText text) s).automaton.get = .ok dfa) :
    ∃ found, (ofSettings (escapeText text) s).recheck [text] = .ok found ∧
      (found = true ↔ ¬s.locale.UsesPairRule text.toList) := by
  obtain ⟨found, hfound⟩ :
      ∃ found, (ofSettings (escapeText text) s).recheck [text] = .ok found := by
    rw [recheck, hdfa, ok_bind]
    exact ⟨_, rfl⟩
  refine ⟨found, hfound, ?_⟩
  obtain ⟨r, hr, hiff⟩ := recheck_ofSettings hfound
  have hvalue : s.foldText text = s.locale.lowercaseChars text.toList := by
    simp [Settings.foldText, hcase]
  rw [hiff]
  simp only [List.mem_singleton, exists_eq_left, matchesIn_escapeText hcase hr, hvalue,
    ← Locale.lowercaseChars_eq_map_iff]
  -- The folded characters are all of the lowercase form or no part of it.
  constructor
  · exact Locale.lowercaseChars_eq_map_of_infix
  · intro h
    rw [h]

/-- In Irish, `Nathair (nimhe)` finds itself, with the parentheses escaped. -/
theorem finds_itself_iff_nathair :
    let s : Settings := { locale := .irish }
    let text := "Nathair (nimhe)"
    (s.caseSensitive = false ∧ ∃ dfa, (ofSettings (escapeText text) s).automaton.get = .ok dfa) ∧
      (ofSettings (escapeText text) s).recheck [text] = .ok true ∧
      ¬s.locale.UsesPairRule text.toList := by
  intro s text
  have hescape : escapeText text = "Nathair \\(nimhe\\)" := by decide +kernel
  have hrecheck : (ofSettings (escapeText text) s).recheck [text] = .ok true := by
    rw [hescape]
    cbv
  obtain ⟨dfa, hdfa, -⟩ := ok_of_bind hrecheck
  obtain ⟨found, hfound, hiff⟩ := finds_itself_iff (s := s) rfl hdfa
  cases hrecheck.symm.trans hfound
  exact ⟨⟨rfl, dfa, hdfa⟩, hrecheck, hiff.mp rfl⟩

/-- In Irish, `nAthair` does not find itself: as a value it is lowercased to `n-athair`, as a literal
it is folded to `nathair`. -/
theorem not_finds_itself_nAthair :
    let s : Settings := { locale := .irish }
    (ofSettings (escapeText "nAthair") s).recheck ["nAthair"] = .ok false := by
  intro s
  have hescape : escapeText "nAthair" = "nAthair" := by decide +kernel
  rw [hescape]
  cbv

end GramSieve.Rechecker
