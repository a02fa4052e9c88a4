import GramSieve.Proofs.Automaton.Path
import GramSieve.Proofs.Basic
import GramSieve.Proofs.Regex.Language

namespace GramSieve.Automaton.Nfa

/-!
# Segments of an automaton

While an automaton is built, a part of it leads from a `source` to a `target` through states that are
new. More states are added later and the target gets transitions, so what a segment reads is stated
for every automaton that continues it.

* `Segment`, `Chain` — the part between two states reads the texts of a language; a chain may be empty.
* `Chain.trans` — parts one behind the other read the product of their languages.
* `Chain.link` — a blank state in front of a part.
* `segment_read` — a transition that reads one character.
* `Built` — the segment of a fragment, all of whose states are new.
-/

/-! ### Segments -/

/-- The states that a segment may change: its source and those that are new. -/
def Touched (before after source i : Nat) : Prop := i = source ∨ before ≤ i ∧ i < after

/-- The automaton has the transitions of a segment; those of its target are open. -/
def Continues (states after : Array NfaState) (before source target : Nat) : Prop :=
  ∀ i, Touched before after.size source i → i ≠ target → states[i]? = after[i]?

/-- From `source` to `target` the texts of `l` are read, and there is no other way out of what was
added. The target has no transitions yet. -/
structure Segment (before : Array NfaState) (source target : Nat) (after : Array NfaState)
    (l : Language Char) : Prop where
  source_lt : source < after.size
  size_le : before.size ≤ after.size
  kept : ∀ i < before.size, i ≠ source → after[i]? = before[i]?
  blank : after[target]? = some {}
  complete : ∀ states, Continues states after before.size source target →
    ∀ w ∈ l, ∃ n, Path states n source w target
  sound : ∀ states, Continues states after before.size source target → ∀ n w t,
    (Touched before.size after.size source t → t = target) → Path states n source w t →
    ∃ u ∈ l, ∃ v, u ++ v = w ∧ ∃ m ≤ n, Path states m target v t

/-- A segment whose target is its source or new. -/
structure Chain (before : Array NfaState) (source target : Nat) (after : Array NfaState)
    (l : Language Char) : Prop extends Segment before source target after l where
  target_touched : Touched before.size after.size source target

/-- The chain of a fragment, with a source that is new. -/
structure Built (before : Array NfaState) (f : Fragment) (after : Array NfaState)
    (l : Language Char) : Prop extends Chain before f.first f.last after l where
  first_new : before.size ≤ f.first

variable {before middle after states : Array NfaState} {a b c : Nat} {l l' : Language Char}

/-- The last state of a fragment is new as well. -/
theorem Built.last_new {f : Fragment} (h : Built before f after l) : before.size ≤ f.last := by
  have hnew := h.first_new
  have htarget := h.target_touched
  unfold Touched at htarget
  omega

theorem lt_size_of_getElem? {s : NfaState} (h : before[a]? = some s) : a < before.size :=
  (Array.getElem?_eq_some_iff.mp h).1

/-- Changing a state shows at its own number. -/
theorem getElem?_modify_self {s : NfaState} (f : NfaState → NfaState) (h : before[a]? = some s) :
    (before.modify a f)[a]? = some (f s) := by
  rw [Array.getElem?_modify, if_pos rfl, h]
  rfl

/-- It shows at no other number. -/
theorem getElem?_modify_ne {i : Nat} (f : NfaState → NfaState) (h : i ≠ a) :
    (before.modify a f)[i]? = before[i]? := by
  rw [Array.getElem?_modify, if_neg h.symm]

/-- A new state leaves those before it as they are. -/
theorem getElem?_push_of_lt {i : Nat} (h : i < before.size) :
    (before.push {})[i]? = before[i]? := by
  have hi := Array.getElem?_eq_getElem h
  rw [getElem?_push_of_getElem? hi, hi]

/-- A blank state reads nothing on the way to itself. -/
theorem Chain.refl (h : before[a]? = some {}) : Chain before a a before 1 where
  source_lt := lt_size_of_getElem? h
  size_le := Nat.le_refl _
  kept _ _ _ := rfl
  blank := h
  complete _ _ _ hw := ⟨0, hw ▸ .here a⟩
  sound _ _ n w _ _ path := ⟨[], rfl, w, rfl, n, Nat.le_refl n, path⟩
  target_touched := .inl rfl

/-- Segments one behind the other. -/
theorem Chain.trans (first : Chain before a b middle l) (second : Chain middle b c after l') :
    Chain before a c after (l * l') := by
  have hle := Nat.le_trans first.size_le second.size_le
  have hfirst := first.size_le
  have hsecond := second.size_le
  have ha := first.source_lt
  have hb := first.target_touched
  have hc := second.target_touched
  unfold Touched at hb hc
  have continues (states) (h : Continues states after before.size a c) :
      Continues states middle before.size a b ∧ Continues states after middle.size b c := by
    constructor
    · -- What the first segment added is kept by the second one, but for the state between them.
      intro i hi hne
      rw [h i (by unfold Touched at *; omega) (by unfold Touched at *; omega)]
      exact second.kept i (by unfold Touched at *; omega) hne
    · intro i hi hne
      exact h i (by unfold Touched at *; omega) hne
  refine ⟨⟨by omega, hle, ?_, second.blank, ?_, ?_⟩, by unfold Touched; omega⟩
  · intro i hi hne
    rw [second.kept i (by omega) (by omega), first.kept i hi hne]
  · -- A text of the product is read by the first segment up to `b`, and on by the second one.
    intro states h w hw
    obtain ⟨u, hu, v, hv, rfl⟩ := Language.mem_mul.mp hw
    obtain ⟨_, hfirst⟩ := first.complete states (continues states h).1 u hu
    obtain ⟨_, hsecond⟩ := second.complete states (continues states h).2 v hv
    exact hfirst.append hsecond
  · -- A path out of the first segment has to pass `b`, and from there it has to pass `c`.
    intro states h n w t ht path
    obtain ⟨u, hu, v, rfl, m, hm, path⟩ := first.sound states (continues states h).1 n w t
      (by unfold Touched at *; omega) path
    obtain ⟨u', hu', v', rfl, m', hm', path⟩ := second.sound states (continues states h).2 m v t
      (by unfold Touched at *; omega) path
    exact ⟨u ++ u', Language.append_mem_mul hu hu', v', List.append_assoc .., m',
      Nat.le_trans hm' hm, path⟩

/-- A segment to or from a state that was just added, as a segment from before that. -/
theorem Segment.of_push (h : Segment (before.push {}) a b after l)
    (_hnew : a = before.size ∨ b = before.size) : Segment before a b after l := by
  have hsize := h.size_le
  rw [Array.size_push] at hsize
  -- The state that was pushed is one of the ends, so no more states are touched than before.
  have hcontinues (states) (hc : Continues states after before.size a b) :
      Continues states after (before.push {}).size a b := by
    intro i hi hne
    exact hc i (by unfold Touched at *; rw [Array.size_push] at hi; omega) hne
  refine ⟨h.source_lt, by omega, ?_, h.blank, ?_, ?_⟩
  · intro i hi hne
    rw [h.kept i (by rw [Array.size_push]; omega) hne, getElem?_push_of_lt hi]
  · exact fun states hc w hw => h.complete states (hcontinues states hc) w hw
  · intro states hc n w t ht path
    refine h.sound states (hcontinues states hc) n w t ?_ path
    intro hi
    exact ht (by unfold Touched at *; rw [Array.size_push] at hi; omega)

/-- A chain whose first state is new is a chain from the end of what was there. -/
theorem Chain.of_push_source (h : Chain (before.push {}) a b after l) (hnew : a = before.size) :
    Chain before a b after l where
  toSegment := h.toSegment.of_push (.inl hnew)
  target_touched := by
    have ht := h.target_touched
    unfold Touched at *
    rw [Array.size_push] at ht
    omega

/-- A segment whose last state is new touches no state that was there, apart from its first one. -/
theorem Segment.of_push_target (h : Segment (before.push {}) a b after l)
    (hnew : b = before.size) : Chain before a b after l where
  toSegment := h.of_push (.inr hnew)
  target_touched := by
    have hb := lt_size_of_getElem? h.blank
    unfold Touched
    omega

/-- A state that was blank and now reads the characters of a set. -/
theorem segment_read (ha : before[a]? = some {}) (set : CodeSet) :
    Chain before a before.size
      ((before.push {}).modify a fun s => { s with ranges := set, next := before.size })
      set.language := by
  have hlt := lt_size_of_getElem? ha
  have hsource : (before.push {})[a]? = some {} := by rw [getElem?_push_of_lt hlt, ha]
  have hread := getElem?_modify_self (fun s => { s with ranges := set, next := before.size }) hsource
  refine Segment.of_push_target ⟨by simp; omega, by simp, ?_, ?_, ?_, ?_⟩ rfl
  · intro i _ hne
    exact getElem?_modify_ne _ hne
  · rw [getElem?_modify_ne _ (by omega), Array.getElem?_push_size]
  · rintro states h w ⟨c, hc, rfl⟩
    exact ⟨1, .read ((h a (.inl rfl) (by omega)).trans hread) hc (.here _)⟩
  · intro states h n w t ht path
    -- The path ends outside of the segment, so it leaves `a`, and reading is the only way.
    have hne : t ≠ a := fun heq => by have := ht (.inl heq); omega
    obtain ⟨_, _, _, hq, _⟩ | ⟨m, hm, c, v, rfl, hc, path⟩ :=
      path.leave ((h a (.inl rfl) (by omega)).trans hread) hne
    · cases hq
    · exact ⟨[c], ⟨c, hc, rfl⟩, v, rfl, m, hm.le, path⟩

/-- A blank state that moves on to a segment of new states. -/
theorem Chain.link (ha : before[a]? = some {}) (h : Chain before b c after l)
    (hb : before.size ≤ b) :
    Chain before a c (after.modify a fun s => { s with epsilons := b :: s.epsilons }) l := by
  have hlt := lt_size_of_getElem? ha
  have hsize := h.size_le
  have hblt := h.source_lt
  have hc : before.size ≤ c ∧ c < after.size := by
    have := h.target_touched
    unfold Touched at *
    omega
  -- The segment was built around the blank state and did not touch it.
  have hsource : after[a]? = some {} := by rw [h.kept a hlt (by omega), ha]
  have hlink := getElem?_modify_self (fun s => { s with epsilons := b :: s.epsilons }) hsource
  have hcontinues (states) (hs : Continues states
      (after.modify a fun s => { s with epsilons := b :: s.epsilons }) before.size a c) :
      Continues states after before.size b c := by
    intro i hi hne
    have hia : i ≠ a := by unfold Touched at *; omega
    rw [hs i (by unfold Touched at *; rw [Array.size_modify]; omega) hne, getElem?_modify_ne _ hia]
  refine ⟨⟨by rw [Array.size_modify]; omega, by rw [Array.size_modify]; omega, ?_, ?_, ?_, ?_⟩,
    by unfold Touched; rw [Array.size_modify]; omega⟩
  · intro i hi hne
    rw [getElem?_modify_ne _ hne, h.kept i hi (by omega)]
  · rw [getElem?_modify_ne _ (by omega), h.blank]
  · intro states hs w hw
    obtain ⟨n, path⟩ := h.complete states (hcontinues states hs) w hw
    exact ⟨n + 1, .skip ((hs a (.inl rfl) (by omega)).trans hlink) (.head _) path⟩
  · intro states hs n w t ht path
    have hne : t ≠ a := fun heq => by have := ht (.inl heq); omega
    obtain ⟨m, hm, q, hq, path⟩ | ⟨_, _, _, _, _, hc, _⟩ :=
      path.leave ((hs a (.inl rfl) (by omega)).trans hlink) hne
    · obtain rfl := List.mem_singleton.mp hq
      obtain ⟨u, hu, v, hw, m', hm', path⟩ := h.sound states (hcontinues states hs) m w t
        (by unfold Touched at *; rw [Array.size_modify] at ht; omega) path
      exact ⟨u, hu, v, hw, m', by omega, path⟩
    · cases hc

end GramSieve.Automaton.Nfa
