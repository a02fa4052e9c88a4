import GramSieve.Regex.Basic
import GramSieve.Text.Utf8

namespace GramSieve.Automaton

/-!
# Nondeterministic automata

* `Nfa` — an automaton whose states read a range of code points or move on without reading.
* `Nfa.ofRegex` — the automaton of a regular expression. Counted repetitions are copied out, so the
  number of states is bounded.
-/

open Text

/-- An automaton grew beyond `limit` states. -/
structure TooManyStates where
  limit : Nat
  deriving DecidableEq, Repr, Inhabited

/-- The wording of the bound. -/
def TooManyStates.message (e : TooManyStates) : String := s!"automaton exceeds {e.limit} states"

/-- A state: a code point in one of `ranges` leads to `next`, and the states of `epsilons` are
reached without reading. -/
structure NfaState where
  ranges : CodeSet := []
  next : Nat := 0
  epsilons : List Nat := []
  deriving Repr, Inhabited

/-- An automaton with one start and one accepting state. -/
structure Nfa where
  states : Array NfaState
  start : Nat
  accept : Nat
  deriving Repr, Inhabited

/-- The part of an automaton that matches a part of an expression, from `first` to `last`. -/
structure Fragment where
  first : Nat
  last : Nat
  deriving DecidableEq, Repr, Inhabited

namespace Nfa

/-- Adds states to an automaton, or fails when there are too many. -/
abbrev Builder := StateT (Array NfaState) (Except TooManyStates)

/-- Adds a state without transitions. -/
def add (limit : Nat) : Builder Nat := fun states =>
  if limit ≤ states.size then .error { limit } else .ok (states.size, states.push {})

/-- Lets `source` move on to `target` without reading. -/
def link (source target : Nat) : Builder Unit := fun states =>
  .ok ((), states.modify source fun s => { s with epsilons := target :: s.epsilons })

/-- Lets `source` read a code point of `ranges` and move on to `target`. -/
def read (source : Nat) (ranges : CodeSet) (target : Nat) : Builder Unit := fun states =>
  .ok ((), states.modify source fun s => { s with ranges, next := target })

/-- A chain of states from `last` on that reads `text`. -/
def buildText (limit last : Nat) : List Char → Builder Nat
  | [] => pure last
  | c :: rest => do
    let next ← add limit
    read last [CodeRange.single c.toNat] next
    buildText limit next rest

/-- Copies of a fragment behind `last`, one after the other. -/
def buildCopies (fragment : Builder Fragment) (last : Nat) : Nat → Builder Nat
  | 0 => pure last
  | count + 1 => do
    let f ← fragment
    link last f.first
    buildCopies fragment f.last count

/-- Copies of a fragment behind `last`, before each of which one may leave to `exit`. -/
def buildOptional (fragment : Builder Fragment) (exit last : Nat) : Nat → Builder Nat
  | 0 => pure last
  | count + 1 => do
    let f ← fragment
    link last exit
    link last f.first
    buildOptional fragment exit f.last count

/-- A fragment that repeats another one. -/
def buildRepetition (limit : Nat) (fragment : Builder Fragment) (min : Nat) (max : Option Nat) :
    Builder Fragment := do
  let first ← add limit
  let last ← buildCopies fragment first min
  let exit ← add limit
  match max with
  | none =>
    let f ← fragment
    link last f.first
    link f.last f.first
    link f.last exit
    link last exit
  | some max =>
    let last ← buildOptional fragment exit last (max - min)
    link last exit
  return ⟨first, exit⟩

mutual

/-- The fragment of an expression. -/
def build (limit : Nat) : Regex → Builder Fragment
  | .empty | .look _ => do
    let state ← add limit
    return ⟨state, state⟩
  | .literal bytes => do
    let first ← add limit
    return ⟨first, ← buildText limit first (Utf8.decodeLossy bytes)⟩
  | .oneOf _ set => do
    let first ← add limit
    let last ← add limit
    read first set last
    return ⟨first, last⟩
  | .capture _ _ r => build limit r
  | .repetition min max _ r => buildRepetition limit (build limit r) min max
  | .concat rs => do
    let first ← add limit
    return ⟨first, ← buildSequence limit first rs⟩
  | .alternation rs => do
    let first ← add limit
    let last ← add limit
    buildBranches limit first last rs
    return ⟨first, last⟩

/-- The fragments of expressions in sequence behind `last`. -/
def buildSequence (limit last : Nat) : List Regex → Builder Nat
  | [] => pure last
  | r :: rs => do
    let f ← build limit r
    link last f.first
    buildSequence limit f.last rs

/-- The fragments of expressions between `first` and `last`, side by side. -/
def buildBranches (limit first last : Nat) : List Regex → Builder Unit
  | [] => pure ()
  | r :: rs => do
    let f ← build limit r
    link first f.first
    link f.last last
    buildBranches limit first last rs

end

/-- The automaton of an expression, with at most `limit` states. -/
def ofRegex (r : Regex) (limit : Nat) : Except TooManyStates Nfa := do
  let (f, states) ← (build limit r).run #[]
  return { states, start := f.first, accept := f.last }

end Nfa

end GramSieve.Automaton
