import GramSieve.Proofs.Automaton.Subset
import GramSieve.Proofs.Regex.WellFormed
import GramSieve.Proofs.Search.FoldedText
import GramSieve.Search.Recheck

/-!
# What a recheck finds

* `Dfa.containsMatch_iff`, `Dfa.containsMatch_exact` — the scan of a text finds every accepted part of
  it.
* `Regex.MatchesIn` — an expression matches a part of a text.
* `Rechecker.recheck_ofSettings` — a recheck finds the values with a match of the expression.
-/

namespace GramSieve

open Automaton

namespace Automaton.Dfa

variable {dfa : Dfa} {fold : Char → Char} {text : List Char}

/-- From one state on, a scan finds out whether some start of the text that is not empty is accepted.
It stops at the first one. -/
theorem acceptsStart_iff {state : Nat} :
    dfa.acceptsStart fold state text = true ↔
      ∃ part, part ≠ [] ∧ part <+: text.map fold ∧ dfa.acceptsFrom state part = true := by
  induction text generalizing state with
  | nil =>
    refine ⟨nofun, ?_⟩
    rintro ⟨part, hne, hprefix, -⟩
    exact absurd (List.prefix_nil.mp hprefix) hne
  | cons c text ih =>
    rw [acceptsStart, List.map_cons]
    constructor
    · intro h
      split at h
      · cases h
      · rename_i next hstep
        obtain haccept | h := Bool.or_eq_true_iff.mp h
        · refine ⟨[fold c], List.cons_ne_nil _ _, ⟨text.map fold, rfl⟩, ?_⟩
          rw [acceptsFrom, hstep]
          exact haccept
        · obtain ⟨part, -, hprefix, haccepts⟩ := ih.mp h
          refine ⟨fold c :: part, List.cons_ne_nil _ _, List.cons_prefix_cons.mpr ⟨rfl, hprefix⟩, ?_⟩
          rw [acceptsFrom, hstep]
          exact haccepts
    · rintro ⟨part, hne, hprefix, haccepts⟩
      cases part with
      | nil => exact absurd rfl hne
      | cons d part =>
        obtain ⟨rfl, hrest⟩ := List.cons_prefix_cons.mp hprefix
        rw [acceptsFrom] at haccepts
        cases hstep : dfa.step? state (fold c) with
        | none =>
          rw [hstep] at haccepts
          cases haccepts
        | some next =>
          rw [hstep] at haccepts
          simp only
          rw [Bool.or_eq_true_iff]
          -- The part ends with this character, or it goes on behind it.
          by_cases hpart : part = []
          · subst hpart
            exact .inl haccepts
          · exact .inr (ih.mpr ⟨part, hpart, hrest, haccepts⟩)

/-- Starting again at each character, it finds out whether some part that is not empty is accepted. -/
theorem containsMatch_go_iff :
    containsMatch.go dfa fold text = true ↔
      ∃ part, part ≠ [] ∧ part <:+: text.map fold ∧ dfa.accepts part = true := by
  induction text with
  | nil =>
    refine ⟨nofun, ?_⟩
    rintro ⟨part, hne, hinfix, -⟩
    exact absurd (List.infix_nil.mp hinfix) hne
  | cons c text ih =>
    rw [containsMatch.go, Bool.or_eq_true_iff, acceptsStart_iff, ih]
    simp only [List.map_cons, List.infix_cons_iff, or_and_right, and_or_left, exists_or, accepts]

/-- The scan finds every accepted part of the folded text, the empty one included. -/
theorem containsMatch_iff :
    dfa.containsMatch fold text = true ↔
      ∃ part, part <:+: text.map fold ∧ dfa.accepts part = true := by
  rw [containsMatch, Bool.or_eq_true_iff, containsMatch_go_iff]
  constructor
  · rintro (haccept | ⟨part, -, h⟩)
    · exact ⟨[], List.nil_infix, haccept⟩
    · exact ⟨part, h⟩
  · rintro ⟨part, h⟩
    by_cases hpart : part = []
    · subst hpart
      exact .inl h.2
    · exact .inr ⟨part, hpart, h⟩

/-- **The scan of a text is exact.** It succeeds if and only if the automaton accepts what stands between
two positions of the text, which may be the same, when every character is folded. -/
theorem containsMatch_exact (dfa : Dfa) (fold : Char → Char) (text : String) :
    dfa.containsMatch fold text.toList = true ↔
      ∃ i j, i ≤ j ∧ j ≤ text.length ∧
        dfa.accepts ((text.toList.map fold).extract i j) = true := by
  rw [containsMatch_iff]
  constructor
  · rintro ⟨part, ⟨before, behind, hsplit⟩, haccepts⟩
    have hlength : before.length + part.length + behind.length = text.length := by
      rw [← List.length_append, ← List.length_append, hsplit, List.length_map, String.length_toList]
    refine ⟨before.length, before.length + part.length, by omega, by omega, ?_⟩
    have hpart : (text.toList.map fold).extract before.length (before.length + part.length) = part := by
      rw [List.extract_eq_take_drop, ← hsplit, Nat.add_sub_cancel_left, List.append_assoc,
        List.drop_left, List.take_left]
    rwa [hpart]
  · rintro ⟨i, j, -, -, haccepts⟩
    refine ⟨_, ?_, haccepts⟩
    rw [List.extract_eq_take_drop]
    exact (List.take_prefix _ _).isInfix.trans (List.drop_suffix _ _).isInfix

end Automaton.Dfa

/-- An expression matches a part of a text, which may be empty. -/
def Regex.MatchesIn (r : Regex) (text : List Char) : Prop := ∃ part, part <:+: text ∧ part ∈ r.language

namespace Rechecker

variable {regex : String} {s : Settings}

/-- The fastest strategy folds the pattern as the settings do. -/
theorem patternFold_select :
    patternFold (.select s.caseSensitive s.locale) s = s.fold ∧
      RecheckStrategy.select s.caseSensitive s.locale ≠ .baseline := by
  unfold RecheckStrategy.select Settings.fold
  cases s.caseSensitive with
  | true => exact ⟨rfl, nofun⟩
  | false =>
    cases hlocale : s.locale <;>
      simp [patternFold, hlocale, Text.Locale.needsPrefolding, Text.Locale.charFold]

/-- A value matches if a part of its folded text is accepted. The empty part is looked at first. -/
theorem matchesValue_ofSettings {dfa : Dfa} {value : String} :
    (ofSettings regex s).matchesValue dfa value = true ↔
      ∃ part, part <:+: s.foldText value ∧ dfa.accepts part = true := by
  unfold ofSettings withStrategy matchesValue Settings.foldText RecheckStrategy.select
  cases s.caseSensitive with
  | true => simp [Dfa.containsMatch_iff]
  | false =>
    cases s.locale <;>
      simp [Dfa.containsMatch_iff, Text.Locale.needsPrefolding, Text.Locale.lowercaseChars]

/-- A recheck that succeeds tells whether some value has a match. -/
theorem recheck_ofSettings {values : List String} {found : Bool}
    (h : (ofSettings regex s).recheck values = .ok found) :
    ∃ r, Regex.compile regex s.fold = .ok r ∧
      (found = true ↔ ∃ v ∈ values, r.MatchesIn (s.foldText v)) := by
  obtain ⟨hfold, hstrategy⟩ := patternFold_select (s := s)
  obtain ⟨dfa, hdfa, h⟩ := ok_of_bind h
  -- The rechecker compiles the pattern anew, with the fold of its strategy.
  replace hdfa : compile regex s (.select s.caseSensitive s.locale) = .ok dfa := hdfa
  obtain ⟨r, hr, hdfa⟩ := ok_of_bind hdfa
  simp only [if_neg hstrategy] at hdfa
  rw [hfold] at hr
  refine ⟨r, hr, ?_⟩
  cases h
  have haccepts := Dfa.accepts_iff (Regex.wellBounded_of_compile hr) (Regex.ok_of_mapError hdfa)
  simp only [List.any_eq_true, matchesValue_ofSettings, haccepts, Regex.MatchesIn]

end Rechecker

end GramSieve
