import GramSieve.Proofs.Automaton.Thompson

namespace GramSieve

/-!
# The ranges of an automaton

* `Regex.EveryRange`, `Nfa.EveryRange` — every range of an expression or of an automaton has a property.
* `Nfa.everyRange_of_ofRegex` — the automaton of an expression has no other ranges than those of its
  classes and those of single characters.
* `Regex.Populated.everyRange` — the classes of an expression hold characters.
* `Regex.WithinUnicode` — the classes of an expression hold code points only.
-/

namespace Regex

mutual

/-- Every range of every class has a property. -/
def EveryRange (P : CodeRange → Prop) : Regex → Prop
  | .oneOf _ set => ∀ r ∈ set, P r
  | .repetition _ _ _ r => r.EveryRange P
  | .capture _ _ r => r.EveryRange P
  | .concat rs => AllEveryRange P rs
  | .alternation rs => AllEveryRange P rs
  | _ => True

/-- Every range of every class in a list of expressions has a property. -/
def AllEveryRange (P : CodeRange → Prop) : List Regex → Prop
  | [] => True
  | r :: rs => r.EveryRange P ∧ AllEveryRange P rs

end

/-- No class goes beyond the last code point. -/
def WithinUnicode (r : Regex) : Prop := r.EveryRange fun range => range.hi ≤ Alphabet.unicode.max

mutual

/-- In an expression without empty classes every range holds a character. -/
theorem Populated.everyRange {r : Regex} (h : r.Populated) :
    r.EveryRange fun range => ∃ c : Char, range.contains c.toNat := by
  cases r with
  | empty | literal | look => trivial
  | oneOf alphabet set => exact h
  | repetition min max greedy r => exact Populated.everyRange (r := r) h
  | capture index name r => exact Populated.everyRange (r := r) h
  | concat rs =>
    have hrs : AllPopulated rs := h
    exact AllPopulated.allEveryRange hrs
  | alternation rs =>
    have hrs : AllPopulated rs := h
    exact AllPopulated.allEveryRange hrs

theorem AllPopulated.allEveryRange {rs : List Regex} (h : AllPopulated rs) :
    AllEveryRange (fun range => ∃ c : Char, range.contains c.toNat) rs := by
  cases rs with
  | nil => trivial
  | cons r rs => exact ⟨Populated.everyRange h.1, AllPopulated.allEveryRange h.2⟩

end

end Regex

/-! ### Building -/

namespace Automaton.Nfa

/-- Every range of every state has a property. -/
def EveryRange (P : CodeRange → Prop) (states : Array NfaState) : Prop :=
  ∀ s ∈ states, ∀ r ∈ s.ranges, P r

/-- A step of a builder adds no ranges without the property. -/
def KeepsRanges (P : CodeRange → Prop) {β : Type} (step : Builder β) : Prop :=
  ∀ s b s', step s = .ok (b, s') → EveryRange P s → EveryRange P s'

variable {P : CodeRange → Prop} {limit : Nat} {β γ : Type}

theorem keepsRanges_pure (b : β) : KeepsRanges P (pure b) := by
  intro s c s' h hs
  obtain ⟨-, rfl⟩ := pure_ok h
  exact hs

theorem KeepsRanges.bind {step : Builder β} {next : β → Builder γ} (hstep : KeepsRanges P step)
    (hnext : ∀ b, KeepsRanges P (next b)) : KeepsRanges P (step >>= next) := by
  intro s c s'' h hs
  obtain ⟨b, s', hb, h⟩ := bind_ok h
  exact hnext b s' c s'' h (hstep s b s' hb hs)

/-- A new state reads nothing yet. -/
theorem keepsRanges_add : KeepsRanges P (add limit) := by
  intro s n s' h hs
  obtain ⟨-, rfl⟩ := add_ok h
  intro state hstate
  obtain hstate | rfl := Array.mem_push.mp hstate
  · exact hs state hstate
  · exact nofun

/-- Changing a state keeps the ranges of the others. -/
theorem EveryRange.modify {s : Array NfaState} {f : NfaState → NfaState} (hs : EveryRange P s)
    (source : Nat) (hf : ∀ state, (∀ r ∈ state.ranges, P r) → ∀ r ∈ (f state).ranges, P r) :
    EveryRange P (s.modify source f) := by
  intro state hstate
  obtain ⟨i, hi, rfl⟩ := Array.getElem_of_mem hstate
  rw [Array.getElem_modify]
  split
  · exact hf _ (hs _ (Array.getElem_mem _))
  · exact hs _ (Array.getElem_mem _)

theorem keepsRanges_link (source target : Nat) : KeepsRanges P (link source target) := by
  intro s u s' h hs
  rw [link_ok h]
  exact hs.modify source fun _ hstate => hstate

/-- A state that reads a class has the ranges of that class. -/
theorem keepsRanges_read (source target : Nat) {set : CodeSet} (hset : ∀ r ∈ set, P r) :
    KeepsRanges P (read source set target) := by
  intro s u s' h hs
  rw [read_ok h]
  exact hs.modify source fun _ _ => hset

/-- The states for a text read single characters. -/
theorem keepsRanges_buildText (hsingle : ∀ c : Char, P (.single c.toNat)) (last : Nat)
    (text : List Char) : KeepsRanges P (buildText limit last text) := by
  induction text generalizing last with
  | nil => exact keepsRanges_pure last
  | cons c rest ih =>
    have hset : ∀ r ∈ [CodeRange.single c.toNat], P r := List.forall_mem_singleton.mpr (hsingle c)
    rw [buildText]
    exact keepsRanges_add.bind fun next =>
      (keepsRanges_read last next hset).bind fun _ => ih next

/-- Copies of a fragment have no ranges but those of the fragment. -/
theorem keepsRanges_buildCopies {fragment : Builder Fragment} (hfragment : KeepsRanges P fragment)
    (last count : Nat) : KeepsRanges P (buildCopies fragment last count) := by
  induction count generalizing last with
  | zero => exact keepsRanges_pure last
  | succ count ih =>
    rw [buildCopies]
    exact hfragment.bind fun f => (keepsRanges_link _ _).bind fun _ => ih f.last

/-- Neither have copies that may be left out. -/
theorem keepsRanges_buildOptional {fragment : Builder Fragment} (hfragment : KeepsRanges P fragment)
    (exit last count : Nat) : KeepsRanges P (buildOptional fragment exit last count) := by
  induction count generalizing last with
  | zero => exact keepsRanges_pure last
  | succ count ih =>
    rw [buildOptional]
    exact hfragment.bind fun f => (keepsRanges_link _ _).bind fun _ =>
      (keepsRanges_link _ _).bind fun _ => ih f.last

/-- Nor has a repetition, whatever its bounds are. -/
theorem keepsRanges_buildRepetition {fragment : Builder Fragment} (hfragment : KeepsRanges P fragment)
    (min : Nat) (max : Option Nat) : KeepsRanges P (buildRepetition limit fragment min max) := by
  rw [buildRepetition]
  refine keepsRanges_add.bind fun first => ?_
  refine (keepsRanges_buildCopies hfragment first min).bind fun last => ?_
  refine keepsRanges_add.bind fun exit => ?_
  cases max with
  | none =>
    exact hfragment.bind fun f => (keepsRanges_link _ _).bind fun _ => (keepsRanges_link _ _).bind
      fun _ => (keepsRanges_link _ _).bind fun _ => (keepsRanges_link _ _).bind
      fun _ => keepsRanges_pure _
  | some max =>
    exact (keepsRanges_buildOptional hfragment exit last _).bind fun _ =>
      (keepsRanges_link _ _).bind fun _ => keepsRanges_pure _

mutual

/-- The states that are built for an expression have ranges of its classes, and single characters for
its literals. -/
theorem keepsRanges_build (hsingle : ∀ c : Char, P (.single c.toNat)) (r : Regex)
    (hr : r.EveryRange P) : KeepsRanges P (build limit r) := by
  -- Blank states have no ranges. Ranges come in where a class or a character is read.
  cases r with
  | empty | look _ =>
    rw [build]
    exact keepsRanges_add.bind fun _ => keepsRanges_pure _
  | literal bytes =>
    rw [build]
    exact keepsRanges_add.bind fun first => (keepsRanges_buildText hsingle first _).bind
      fun _ => keepsRanges_pure _
  | oneOf _ set =>
    rw [Regex.EveryRange] at hr
    rw [build]
    exact keepsRanges_add.bind fun first => keepsRanges_add.bind fun last =>
      (keepsRanges_read first last hr).bind fun _ => keepsRanges_pure _
  | repetition min max _ r =>
    rw [Regex.EveryRange] at hr
    rw [build]
    exact keepsRanges_buildRepetition (keepsRanges_build hsingle r hr) min max
  | capture _ _ r =>
    rw [Regex.EveryRange] at hr
    rw [build]
    exact keepsRanges_build hsingle r hr
  | concat rs =>
    rw [Regex.EveryRange] at hr
    rw [build]
    exact keepsRanges_add.bind fun first => (keepsRanges_buildSequence hsingle rs hr first).bind
      fun _ => keepsRanges_pure _
  | alternation rs =>
    rw [Regex.EveryRange] at hr
    rw [build]
    exact keepsRanges_add.bind fun first => keepsRanges_add.bind fun last =>
      (keepsRanges_buildBranches hsingle rs hr first last).bind fun _ => keepsRanges_pure _

/-- The same holds of the states for a sequence. -/
theorem keepsRanges_buildSequence (hsingle : ∀ c : Char, P (.single c.toNat)) (rs : List Regex)
    (hrs : Regex.AllEveryRange P rs) (last : Nat) : KeepsRanges P (buildSequence limit last rs) := by
  cases rs with
  | nil =>
    rw [buildSequence]
    exact keepsRanges_pure last
  | cons r rs =>
    rw [Regex.AllEveryRange] at hrs
    rw [buildSequence]
    exact (keepsRanges_build hsingle r hrs.1).bind fun f => (keepsRanges_link _ _).bind fun _ =>
      keepsRanges_buildSequence hsingle rs hrs.2 f.last

/-- The same holds of the states for the branches of a choice. -/
theorem keepsRanges_buildBranches (hsingle : ∀ c : Char, P (.single c.toNat)) (rs : List Regex)
    (hrs : Regex.AllEveryRange P rs) (first last : Nat) :
    KeepsRanges P (buildBranches limit first last rs) := by
  cases rs with
  | nil =>
    rw [buildBranches]
    exact keepsRanges_pure ()
  | cons r rs =>
    rw [Regex.AllEveryRange] at hrs
    rw [buildBranches]
    exact (keepsRanges_build hsingle r hrs.1).bind fun f => (keepsRanges_link _ _).bind fun _ =>
      (keepsRanges_link _ _).bind fun _ => keepsRanges_buildBranches hsingle rs hrs.2 first last

end

/-- What holds of the ranges of single characters and of the classes of an expression holds of all
ranges of its automaton. -/
theorem everyRange_of_ofRegex {r : Regex} {nfa : Nfa} (hsingle : ∀ c : Char, P (.single c.toNat))
    (hr : r.EveryRange P) (h : ofRegex r limit = .ok nfa) : EveryRange P nfa.states := by
  obtain ⟨⟨f, states⟩, hbuild, h⟩ := ok_of_bind h
  cases h
  exact keepsRanges_build hsingle r hr #[] f states hbuild nofun

end Automaton.Nfa

end GramSieve
