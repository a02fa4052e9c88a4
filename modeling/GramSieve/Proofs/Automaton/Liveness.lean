import GramSieve.Proofs.Automaton.Ranges
import GramSieve.Proofs.Automaton.Subset

namespace GramSieve.Automaton

/-!
# Dead ends

* `Dfa.exists_acceptsAfter_of_reached` — what a reached set of states accepts stands at the end of what
  the start accepts, if every range of the automaton holds a character.
* `Dfa.exists_mem_language_of_reached` — what is accepted from a reached state on is the end of a text
  of the language.

A transition of a deterministic automaton may hold no character at all, only surrogates. It comes from
ranges that hold characters, though, and those lead at least as far.
-/

namespace Dfa

variable {dfa : Dfa}

/-- A set of states that a transition leads to accepts nothing that does not stand at the end of what
the start accepts. -/
theorem exists_acceptsAfter_of_reached {nfa : Nfa} {sets : Array (List Nat)}
    (hpopulated : Nfa.EveryRange (fun r => ∃ c : Char, r.contains c.toNat) nfa.states)
    (hall : ExploredBelow nfa sets sets.size dfa.states)
    (hstart : sets[start]? = some (nfa.closure nfa.linkCount [nfa.start])) {state : Nat}
    (h : dfa.Reached state) : ∃ seeds, sets[state]? = some (nfa.closure nfa.linkCount seeds) ∧
      ∀ text, nfa.AcceptsAfter seeds text → ∃ before, nfa.AcceptsAfter [nfa.start] (before ++ text) := by
  induction h with
  | start => exact ⟨[nfa.start], hstart, fun text htext => ⟨[], htext⟩⟩
  | @next state t _ ht ih =>
    obtain ⟨seeds, hset, hseeds⟩ := ih
    obtain ⟨explored, hstate, hexplored⟩ := hall state (Array.getElem?_eq_some_iff.mp hset).1 _ hset
    obtain ⟨last, hswept⟩ := hexplored.swept
    have hswept := hswept last (Nat.le_refl last)
    have hmem : t ∈ explored.transitions.toList.reverse := by
      rw [transitions, hstate] at ht
      exact List.mem_reverse.mpr (Array.mem_toList_iff.mpr ht)
    obtain ⟨targets, -, hnext, htargets⟩ :=
      hswept.sound t hmem t.lo (Nat.le_refl _) (hswept.proper t hmem).1
    refine ⟨targets, hnext, ?_⟩
    rintro text ⟨q, hq, n, path⟩
    -- The transition comes from a range that leads on to `q`, and this range holds a character.
    obtain ⟨p, hp, s, hs, hranges, rfl⟩ := (htargets q).mp hq
    obtain ⟨r, hr, -⟩ := List.any_eq_true.mp hranges
    obtain ⟨c, hc⟩ := hpopulated s (Array.mem_of_getElem? hs) r hr
    have hleads : nfa.Leads (nfa.closure nfa.linkCount seeds) c.toNat s.next :=
      ⟨p, hp, s, hs, List.any_eq_true.mpr ⟨r, hr, hc⟩, rfl⟩
    obtain ⟨before, hbefore⟩ := hseeds _ (Nfa.acceptsAfter_of_leads hleads path)
    exact ⟨before ++ [c], by rwa [List.append_assoc, List.singleton_append]⟩

/-- What is accepted from a reached state on is the end of a text of the language. -/
theorem exists_mem_language_of_reached {r : Regex} {limit state : Nat} {text : List Char}
    (hr : r.WellBounded) (hpopulated : r.Populated) (h : ofRegex r limit = .ok dfa)
    (hstate : dfa.Reached state) (haccepts : dfa.acceptsFrom state text = true) :
    ∃ before, before ++ text ∈ r.language := by
  have hlanguage := accepts_iff hr h
  obtain ⟨nfa, hnfa, h⟩ := ok_of_bind h
  obtain ⟨sets, -, -, hall, hstart⟩ := exploredBelow_of_ofNfa h
  have hsingle (c : Char) : ∃ d : Char, (CodeRange.single c.toNat).contains d.toNat :=
    ⟨c, by simp [CodeRange.contains, CodeRange.single]⟩
  obtain ⟨seeds, hset, hseeds⟩ := exists_acceptsAfter_of_reached
    (Nfa.everyRange_of_ofRegex hsingle hpopulated.everyRange hnfa) hall hstart hstate
  obtain ⟨before, hbefore⟩ := hseeds text ((acceptsFrom_iff hall text hset).mp haccepts)
  refine ⟨before, (hlanguage _).mp ?_⟩
  exact (acceptsFrom_iff hall _ hstart).mpr hbefore

/-- No state that is reached accepts if the language is empty. -/
theorem isAccept_eq_false_of_reached {r : Regex} {limit state : Nat} (hr : r.WellBounded)
    (hpopulated : r.Populated) (h : ofRegex r limit = .ok dfa) (hempty : ∀ w, w ∉ r.language)
    (hstate : dfa.Reached state) : dfa.isAccept state = false := by
  rw [Bool.eq_false_iff]
  intro haccepts
  have hend : dfa.acceptsFrom state [] = true := haccepts
  obtain ⟨before, hmem⟩ := exists_mem_language_of_reached hr hpopulated h hstate hend
  exact hempty _ hmem

end Dfa

end GramSieve.Automaton
