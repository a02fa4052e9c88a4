import GramSieve.Automaton.Dfa
import GramSieve.Proofs.BinarySearch

namespace GramSieve.Automaton

/-!
# How a deterministic automaton reads

* `Dfa.exists_transition` — a step takes a transition that holds the character.
* `Dfa.exists_step` — if the transitions are ascending, the search misses none.
* `Dfa.Reached` — the states that transitions lead to.
-/

namespace Dfa

variable {dfa : Dfa} {state : Nat} {c : Char}

/-- A step takes a transition that holds the character. -/
theorem exists_transition {next : Nat} (h : dfa.step? state c = some next) :
    ∃ t ∈ dfa.transitions state, t.lo ≤ c.toNat ∧ c.toNat ≤ t.hi ∧ t.target = next := by
  unfold step? at h
  simp only at h
  split at h
  · rename_i t ht
    split at h
    · rename_i hlo
      have hlt := (Array.getElem?_eq_some_iff.mp ht).1
      have htest := test_firstIndex hlt
      simp only [ht, Option.any_some, decide_eq_true_eq] at htest
      exact ⟨t, Array.mem_of_getElem? ht, hlo, htest, Option.some.inj h⟩
    · cases h
  · cases h

/-- If the transitions are ascending, one that holds the character is not missed. -/
theorem exists_step {t : Transition}
    (hsorted : (dfa.transitions state).toList.Pairwise fun a b => a.hi < b.lo)
    (hproper : ∀ t ∈ dfa.transitions state, t.lo ≤ t.hi) (ht : t ∈ dfa.transitions state)
    (hlo : t.lo ≤ c.toNat) (hhi : c.toNat ≤ t.hi) : ∃ next, dfa.step? state c = some next := by
  obtain ⟨k, hk, rfl⟩ := Array.getElem_of_mem ht
  generalize hts : dfa.transitions state = ts at *
  have hbefore {i j : Nat} (hij : i < j) (hj : j < ts.size) : ts[i].hi < ts[j].lo :=
    List.pairwise_iff_getElem.mp hsorted i j (by simp; omega) (by simpa) hij
  have hmono (i j : Nat) (hij : i ≤ j) (hj : j < ts.size)
      (hi : ts[i]?.any fun t => decide (c.toNat ≤ t.hi)) :
      ts[j]?.any fun t => decide (c.toNat ≤ t.hi) := by
    obtain rfl | hij := Nat.eq_or_lt_of_le hij
    · exact hi
    · have := hbefore hij hj
      have := hproper _ (Array.getElem_mem hj)
      simp only [Array.getElem?_eq_getElem (show i < ts.size by omega), Array.getElem?_eq_getElem hj,
        Option.any_some, decide_eq_true_eq] at hi ⊢
      omega
  have hle := firstIndex_le_of_test hmono (Nat.zero_le k) hk (by simpa [hk] using hhi)
  unfold step?
  simp only [hts]
  generalize hfound : firstIndex _ 0 ts.size = i at hle
  have hi : i < ts.size := by omega
  -- No earlier transition reaches up to the character, as it would end before this one starts.
  have heq : i = k := by
    refine Nat.le_antisymm hle (Nat.le_of_not_lt fun hlt => ?_)
    have htest := test_firstIndex (hfound ▸ hi)
    rw [hfound] at htest
    simp only [Array.getElem?_eq_getElem hi, Option.any_some, decide_eq_true_eq] at htest
    have := hbefore hlt hk
    omega
  subst heq
  exact ⟨ts[i].target, by rw [Array.getElem?_eq_getElem hi]; exact if_pos hlo⟩

/-- The states that transitions lead to from the start, whether they hold characters or not. -/
inductive Reached (dfa : Dfa) : Nat → Prop
  | start : Reached dfa start
  | next {state : Nat} {t : Transition} (h : Reached dfa state) (ht : t ∈ dfa.transitions state) :
      Reached dfa t.target

end Dfa

end GramSieve.Automaton
