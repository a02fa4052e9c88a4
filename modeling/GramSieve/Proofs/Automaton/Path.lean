import GramSieve.Automaton.Nfa

namespace GramSieve.Automaton.Nfa

/-!
# Paths of a nondeterministic automaton

* `Path` — a walk from state to state, counted in steps, with the text that it reads.
* `Path.leave` — the first step of a path that leaves a known state.
* `Path.append` — paths one behind the other.
* `Accepts` — the texts read on the way from the start to the accepting state.

Steps are counted because a path through a loop is only shorter, not of a shorter text, once a turn
of the loop is taken away.
-/

/-- A path of `steps` steps from one state to another that reads a text. -/
inductive Path (states : Array NfaState) : Nat → Nat → List Char → Nat → Prop
  | here (p : Nat) : Path states 0 p [] p
  | skip {steps p q t : Nat} {w : List Char} {s : NfaState} (hs : states[p]? = some s)
      (hq : q ∈ s.epsilons) (path : Path states steps q w t) : Path states (steps + 1) p w t
  | read {steps p t : Nat} {c : Char} {w : List Char} {s : NfaState} (hs : states[p]? = some s)
      (hc : s.ranges.contains c.toNat) (path : Path states steps s.next w t) :
      Path states (steps + 1) p (c :: w) t

variable {states : Array NfaState}

/-- A path from a state to another one starts with a step of that state. -/
theorem Path.leave {n p t : Nat} {w : List Char} {s : NfaState} (path : Path states n p w t)
    (hs : states[p]? = some s) (hne : t ≠ p) :
    (∃ m < n, ∃ q ∈ s.epsilons, Path states m q w t) ∨
      ∃ m < n, ∃ c v, w = c :: v ∧ s.ranges.contains c.toNat ∧ Path states m s.next v t := by
  cases path with
  | here => exact absurd rfl hne
  | skip hs' hq path =>
    cases hs.symm.trans hs'
    exact .inl ⟨_, Nat.lt_succ_self _, _, hq, path⟩
  | read hs' hc path =>
    cases hs.symm.trans hs'
    exact .inr ⟨_, Nat.lt_succ_self _, _, _, rfl, hc, path⟩

/-- No path leads out of a state without transitions. -/
theorem Path.of_blank {n p t : Nat} {w : List Char} (path : Path states n p w t)
    (hp : states[p]? = some {}) : w = [] ∧ t = p := by
  by_cases hne : t = p
  · subst hne
    cases path with
    | here => exact ⟨rfl, rfl⟩
    | skip hs hq =>
      cases hp.symm.trans hs
      cases hq
    | read hs hc =>
      cases hp.symm.trans hs
      cases hc
  · obtain ⟨_, _, _, hq, _⟩ | ⟨_, _, _, _, _, hc, _⟩ := path.leave hp hne
    · cases hq
    · cases hc

/-- A path from where another one ends reads its text behind the text of that one. -/
theorem Path.append {m n p q t : Nat} {u v : List Char} (first : Path states m p u q)
    (second : Path states n q v t) : ∃ k, Path states k p (u ++ v) t := by
  induction first with
  | here => exact ⟨n, second⟩
  | skip hs hq _ ih =>
    obtain ⟨k, path⟩ := ih second
    exact ⟨k + 1, .skip hs hq path⟩
  | read hs hc _ ih =>
    obtain ⟨k, path⟩ := ih second
    exact ⟨k + 1, .read hs hc path⟩

/-- The automaton accepts a text. -/
def Accepts (nfa : Nfa) (text : List Char) : Prop :=
  ∃ n, Path nfa.states n nfa.start text nfa.accept

end GramSieve.Automaton.Nfa
