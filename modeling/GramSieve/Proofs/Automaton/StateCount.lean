import GramSieve.Automaton.Nfa
import GramSieve.Proofs.Guarded

namespace GramSieve

/-!
# How many states the automaton of an expression has

* `Regex.stateCount` — the states of the automaton of an expression, with counted repetitions copied
  out.
* `Nfa.Takes` — a builder adds a fixed number of states, whatever the limit is, if there is room.
* `Nfa.takes_build` — the builder of an expression takes as many as the expression has.
* `Nfa.exists_eq_ofRegex` — the limit decides whether there is an automaton, and not which one.
-/

open Text

namespace Regex

/-- How many copies of its body a repetition is made of. An open one loops in a copy of its own. -/
def copies (min : Nat) : Option Nat → Nat
  | none => min + 1
  | some max => min + (max - min)

mutual

/-- How many states the automaton of an expression has. -/
def stateCount : Regex → Nat
  | .empty | .look _ => 1
  | .literal bytes => (Utf8.decodeLossy bytes).length + 1
  | .oneOf _ _ => 2
  | .capture _ _ r => r.stateCount
  | .repetition min max _ r => copies min max * r.stateCount + 2
  | .concat rs => stateCountAll rs + 1
  | .alternation rs => stateCountAll rs + 2

/-- How many states the automata of some expressions have together. -/
def stateCountAll : List Regex → Nat
  | [] => 0
  | r :: rs => r.stateCount + stateCountAll rs

end

end Regex

namespace Automaton.Nfa

variable {β γ : Type} {m n : Nat}

/-- With any limit a step gives the same and adds `count` states, unless there is no room for them. -/
def Takes (count : Nat) (step : Nat → Builder β) : Prop :=
  ∀ s, ∃ result : β × Array NfaState, result.2.size = s.size + count ∧
    Guarded TooManyStates.mk (·.2.size) s.size (step · s) result

theorem Takes.of_eq {step : Nat → Builder β} (h : Takes m step) (heq : m = n) : Takes n step :=
  heq ▸ h

theorem takes_pure (b : β) : Takes 0 fun _ => pure b :=
  fun s => ⟨(b, s), rfl, guarded_ok _ _ (b, s)⟩

/-- Steps in a row take what they take together. -/
theorem Takes.bind {step : Nat → Builder β} {next : Nat → β → Builder γ} (hstep : Takes m step)
    (hnext : ∀ b, Takes n (next · b)) : Takes (m + n) fun limit => step limit >>= next limit := by
  intro s
  obtain ⟨⟨b, s'⟩, hsize, hfirst⟩ := hstep s
  obtain ⟨result, hsize', hrest⟩ := hnext b s'
  refine ⟨result, ?_, hfirst.bind _ hrest⟩
  rw [hsize', hsize, Nat.add_assoc]

theorem takes_add : Takes 1 add := fun s =>
  ⟨(s.size, s.push {}), Array.size_push _, guarded_add (Array.size_push _)⟩

/-- A step that only changes states takes none. -/
theorem takes_modify {step : Builder Unit} {source : Nat} {change : NfaState → NfaState}
    (hstep : ∀ s, step s = .ok ((), s.modify source change)) : Takes 0 fun _ => step := by
  intro s
  refine ⟨((), s.modify source change), Array.size_modify, ?_⟩
  have h := guarded_ok TooManyStates.mk (fun b : Unit × Array NfaState => b.2.size)
    ((), s.modify source change)
  rwa [← hstep, Array.size_modify] at h

theorem takes_link (source target : Nat) : Takes 0 fun _ => link source target :=
  takes_modify fun _ => rfl

theorem takes_read (source : Nat) (set : CodeSet) (target : Nat) :
    Takes 0 fun _ => read source set target :=
  takes_modify fun _ => rfl

/-- A text takes one state for each of its characters. -/
theorem takes_buildText (last : Nat) (text : List Char) :
    Takes text.length (buildText · last text) := by
  induction text generalizing last with
  | nil => exact takes_pure last
  | cons c rest ih =>
    simp only [buildText]
    have h := takes_add.bind fun next =>
      (takes_read last [CodeRange.single c.toNat] next).bind fun _ => ih next
    rwa [Nat.zero_add, Nat.add_comm] at h

section Repetition

variable {fragment : Nat → Builder Fragment}

/-- Copies take what the fragment takes, each time. -/
theorem takes_buildCopies (hfragment : Takes n fragment) (last count : Nat) :
    Takes (count * n) fun limit => buildCopies (fragment limit) last count := by
  induction count generalizing last with
  | zero =>
    rw [Nat.zero_mul]
    exact takes_pure last
  | succ count ih =>
    simp only [buildCopies]
    have h := hfragment.bind fun f => (takes_link last f.first).bind fun _ => ih f.last
    rwa [Nat.zero_add, Nat.add_comm, ← Nat.succ_mul] at h

/-- The exits of copies that may be left out are shared, so these take no more. -/
theorem takes_buildOptional (hfragment : Takes n fragment) (exit last count : Nat) :
    Takes (count * n) fun limit => buildOptional (fragment limit) exit last count := by
  induction count generalizing last with
  | zero =>
    rw [Nat.zero_mul]
    exact takes_pure last
  | succ count ih =>
    simp only [buildOptional]
    have h := hfragment.bind fun f => (takes_link last exit).bind fun _ =>
      (takes_link last f.first).bind fun _ => ih f.last
    rwa [Nat.zero_add, Nat.zero_add, Nat.add_comm, ← Nat.succ_mul] at h

/-- A repetition takes its copies and a state at each end. -/
theorem takes_buildRepetition (hfragment : Takes n fragment) (min : Nat) (max : Option Nat) :
    Takes (Regex.copies min max * n + 2)
      fun limit => buildRepetition limit (fragment limit) min max := by
  simp only [buildRepetition]
  cases max with
  | none =>
    -- One copy more than is asked for, which the loop goes through.
    have h := takes_add.bind fun first => (takes_buildCopies hfragment first min).bind fun last =>
      takes_add.bind fun exit => hfragment.bind fun f => (takes_link last f.first).bind fun _ =>
        (takes_link f.last f.first).bind fun _ => (takes_link f.last exit).bind fun _ =>
          (takes_link last exit).bind fun _ => takes_pure (Fragment.mk first exit)
    rw [Regex.copies, Nat.succ_mul]
    exact h.of_eq (by omega)
  | some max =>
    have h := takes_add.bind fun first => (takes_buildCopies hfragment first min).bind fun last =>
      takes_add.bind fun exit => (takes_buildOptional hfragment exit last (max - min)).bind fun last =>
        (takes_link last exit).bind fun _ => takes_pure (Fragment.mk first exit)
    rw [Regex.copies, Nat.add_mul]
    exact h.of_eq (by omega)

end Repetition

mutual

/-- The builder of an expression takes as many states as the expression has. -/
theorem takes_build (r : Regex) : Takes r.stateCount (build · r) := by
  cases r with
  | empty | look _ =>
    simp only [build]
    exact takes_add.bind fun state => takes_pure (Fragment.mk state state)
  | literal bytes =>
    simp only [build]
    have h := takes_add.bind fun first => (takes_buildText first (Utf8.decodeLossy bytes)).bind
      fun last => takes_pure (Fragment.mk first last)
    -- The first state comes on top of those of the text.
    rwa [Nat.add_zero, Nat.add_comm] at h
  | oneOf _ set =>
    simp only [build]
    exact takes_add.bind fun first => takes_add.bind fun last =>
      (takes_read first set last).bind fun _ => takes_pure (Fragment.mk first last)
  | repetition min max _ r =>
    simp only [build]
    exact takes_buildRepetition (takes_build r) min max
  | capture _ _ r =>
    simp only [build]
    exact takes_build r
  | concat rs =>
    simp only [build]
    have h := takes_add.bind fun first => (takes_buildSequence first rs).bind fun last =>
      takes_pure (Fragment.mk first last)
    rwa [Nat.add_zero, Nat.add_comm] at h
  | alternation rs =>
    simp only [build]
    have h := takes_add.bind fun first => takes_add.bind fun last =>
      (takes_buildBranches first last rs).bind fun _ => takes_pure (Fragment.mk first last)
    rwa [Nat.add_zero, ← Nat.add_assoc, Nat.add_comm] at h

/-- Parts of a sequence are built one behind the other, with nothing in between. -/
theorem takes_buildSequence (last : Nat) (rs : List Regex) :
    Takes (Regex.stateCountAll rs) (buildSequence · last rs) := by
  cases rs with
  | nil =>
    simp only [buildSequence]
    exact takes_pure last
  | cons r rs =>
    simp only [buildSequence]
    have h := (takes_build r).bind fun f => (takes_link last f.first).bind fun _ =>
      takes_buildSequence f.last rs
    rwa [Nat.zero_add] at h

/-- Branches of a choice are built side by side and take the sum of what they take alone. -/
theorem takes_buildBranches (first last : Nat) (rs : List Regex) :
    Takes (Regex.stateCountAll rs) (buildBranches · first last rs) := by
  cases rs with
  | nil =>
    simp only [buildBranches]
    exact takes_pure ()
  | cons r rs =>
    simp only [buildBranches]
    have h := (takes_build r).bind fun f => (takes_link first f.first).bind fun _ =>
      (takes_link f.last last).bind fun _ => takes_buildBranches first last rs
    rwa [Nat.zero_add, Nat.zero_add] at h

end

/-- There is one automaton of an expression, and every limit that it fits into allows it. -/
theorem exists_eq_ofRegex (r : Regex) : ∃ nfa : Nfa, nfa.states.size = r.stateCount ∧
    ∀ limit, ofRegex r limit = if limit < r.stateCount then .error ⟨limit⟩ else .ok nfa := by
  obtain ⟨⟨f, states⟩, hsize, hbuild⟩ := takes_build r #[]
  rw [Array.size_empty, Nat.zero_add] at hsize
  refine ⟨⟨states, f.first, f.last⟩, hsize, fun limit => ?_⟩
  have hlimit : build limit r #[] = _ := hbuild.eq limit (Nat.zero_le limit)
  rw [ofRegex, StateT.run, hlimit, hsize]
  split
  · rfl
  · rfl

end Automaton.Nfa

end GramSieve
