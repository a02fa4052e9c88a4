import GramSieve.Automaton.Dfa
import GramSieve.Proofs.Automaton.Path
import GramSieve.Proofs.BinarySearch
import GramSieve.Proofs.Pending

namespace GramSieve.Automaton.Nfa

/-!
# Closures

* `Reaches` — one state is reached from another without reading.
* `mem_visit`, `mem_closure` — a closure holds what matters among the states that are reached.
* `pairwise_closure`, `containsSorted_closure` — the states of a closure are in order, and so a binary
  search finds them.
* `closure_eq_of_mem_iff` — closures that hold the same states are the same.
* `acceptsAfter_nil`, `acceptsAfter_cons` — a text that is read from some states on is read from what
  matters in their closure on.

The fuel of a visit lasts: each turn takes a state from the stack, and a state puts the targets of its
moves there only once.
-/

/-- The states that are reached from a state in one move without reading. -/
def moves (nfa : Nfa) (s : Nat) : List Nat := (nfa.states[s]?.map (·.epsilons)).getD []

/-- The state `q` is reached from `p` without reading. -/
def Reaches (nfa : Nfa) (p q : Nat) : Prop := ∃ n, Path nfa.states n p [] q

/-- The text leads from one of the states to the accepting one. -/
def AcceptsAfter (nfa : Nfa) (seeds : List Nat) (text : List Char) : Prop :=
  ∃ q ∈ seeds, ∃ n, Path nfa.states n q text nfa.accept

variable {nfa : Nfa}

theorem Reaches.refl (p : Nat) : nfa.Reaches p p := ⟨0, .here p⟩

/-- The moves of a state are the targets that it reaches without reading, if it is there at all. -/
theorem mem_moves {p q : Nat} : q ∈ nfa.moves p ↔ ∃ s, nfa.states[p]? = some s ∧ q ∈ s.epsilons := by
  unfold moves
  cases nfa.states[p]? with
  | none => simp
  | some s => simp

/-- A move in front of a way that reads nothing gives another one. -/
theorem Reaches.head {p q t : Nat} (hq : q ∈ nfa.moves p) (h : nfa.Reaches q t) :
    nfa.Reaches p t := by
  obtain ⟨s, hs, hq⟩ := mem_moves.mp hq
  obtain ⟨n, path⟩ := h
  exact ⟨n + 1, .skip hs hq path⟩

/-- What is reached from a set of states that no move leaves is in that set. -/
theorem Reaches.mem_of_closed {p q : Nat} {S : Nat → Prop} (h : nfa.Reaches p q)
    (hclosed : ∀ s, S s → ∀ t ∈ nfa.moves s, S t) (hp : S p) : S q := by
  obtain ⟨n, path⟩ := h
  generalize hw : ([] : List Char) = w at path
  induction path with
  | here => exact hp
  | skip hs hq _ ih => exact ih (hclosed _ hp _ (mem_moves.mpr ⟨_, hs, hq⟩)) hw
  | read => cases hw

/-! ### The visit of a stack -/

/-- How many moves lead out of the states that were not seen yet. -/
def unseen (nfa : Nfa) (seen : Std.HashSet Nat) : Nat :=
  pending nfa.states.size (fun s => (nfa.moves s).length) seen.contains

/-- Before a visit, every move of the automaton is still ahead. -/
theorem unseen_empty : nfa.unseen ∅ = nfa.linkCount := by
  have hmoves : (List.range nfa.states.size).map (fun s => (nfa.moves s).length) =
      nfa.states.toList.map (·.epsilons.length) := by
    refine List.ext_getElem (by simp) fun i hi _ => ?_
    have hi : i < nfa.states.size := by simpa using hi
    simp [moves, hi]
  rw [unseen, pending_none (by simp), hmoves, linkCount, ← Array.foldl_toList, List.foldl_map]

/-- Seeing a new state takes its moves off what is ahead, which pays for putting them on the stack. -/
theorem unseen_insert {seen : Std.HashSet Nat} {s : Nat} (hs : s ∉ seen) :
    nfa.unseen (seen.insert s) + (nfa.moves s).length = nfa.unseen seen := by
  refine pending_meet ?_ ?_ ?_
  · rwa [← Bool.not_eq_true, Std.HashSet.contains_iff_mem]
  · intro t
    rw [Std.HashSet.contains_insert, Bool.beq_comm]
  · intro hle
    simp [moves, hle]

/-- When the stack is empty, what was found is all that is reached. -/
theorem mem_of_visited {seen : Std.HashSet Nat} {important : List Nat}
    (hmoves : ∀ s ∈ seen, ∀ t ∈ nfa.moves s, t ∈ seen)
    (himportant : ∀ s, s ∈ important ↔ s ∈ seen ∧ nfa.isImportant s) (x : Nat) :
    x ∈ important ↔ nfa.isImportant x ∧ ∃ q ∈ seen, nfa.Reaches q x := by
  rw [himportant]
  constructor
  · rintro ⟨hx, himp⟩
    exact ⟨himp, x, hx, .refl x⟩
  · rintro ⟨himp, q, hq, hreach⟩
    exact ⟨hreach.mem_of_closed hmoves hq, himp⟩

/-- A visit finds what matters among the states reached from the stack and from those seen, if no
move has yet led out of the states that were seen to others than those of the stack. -/
theorem mem_visit {fuel : Nat} {stack : List Nat} {seen : Std.HashSet Nat} {important : List Nat}
    (hfuel : stack.length + nfa.unseen seen ≤ fuel)
    (hmoves : ∀ s ∈ seen, ∀ t ∈ nfa.moves s, t ∈ seen ∨ t ∈ stack)
    (himportant : ∀ s, s ∈ important ↔ s ∈ seen ∧ nfa.isImportant s) (x : Nat) :
    x ∈ nfa.visit fuel stack seen important ↔
      nfa.isImportant x ∧ ∃ q, (q ∈ seen ∨ q ∈ stack) ∧ nfa.Reaches q x := by
  induction fuel generalizing stack seen important with
  | zero =>
    obtain rfl : stack = [] := List.length_eq_zero_iff.mp (by omega)
    rw [visit]
    simpa using mem_of_visited (by simpa using hmoves) himportant x
  | succ fuel ih =>
    cases stack with
    | nil =>
      rw [visit]
      · simpa using mem_of_visited (by simpa using hmoves) himportant x
      · exact nofun
    | cons s stack =>
      rw [List.length_cons] at hfuel
      rw [visit]
      by_cases hs : s ∈ seen
      · rw [if_pos (Std.HashSet.contains_iff_mem.mpr hs), ih (by omega) ?_ himportant]
        · have hcovered (q : Nat) : q ∈ seen ∨ q ∈ stack ↔ q ∈ seen ∨ q ∈ s :: stack := by
            grind
          simp only [hcovered]
        · grind
      · -- The moves of a new state go to the stack, and from then on they count as seen.
        rw [if_neg (fun h => hs (Std.HashSet.contains_iff_mem.mp h))]
        have hunseen : nfa.unseen (seen.insert s) + (nfa.moves s).length = nfa.unseen seen :=
          unseen_insert hs
        rw [show (nfa.states[s]?.map (·.epsilons)).getD [] = nfa.moves s from rfl,
          ih (by rw [List.length_append]; omega) ?_ ?_]
        · refine and_congr_right fun _ => ⟨?_, ?_⟩
          · rintro ⟨q, hq, hreach⟩
            rw [Std.HashSet.mem_insert, beq_iff_eq, List.mem_append] at hq
            obtain (rfl | hq) | hq | hq := hq
            · exact ⟨s, .inr (.head _), hreach⟩
            · exact ⟨q, .inl hq, hreach⟩
            · exact ⟨s, .inr (.head _), .head hq hreach⟩
            · exact ⟨q, .inr (.tail _ hq), hreach⟩
          · rintro ⟨q, hq, hreach⟩
            refine ⟨q, ?_, hreach⟩
            rw [Std.HashSet.mem_insert, beq_iff_eq, List.mem_append]
            grind
        · intro t ht u hu
          rw [Std.HashSet.mem_insert, beq_iff_eq] at ht ⊢
          rw [List.mem_append]
          obtain rfl | ht := ht
          · exact .inr (.inl hu)
          · have := hmoves t ht u hu
            grind
        · intro t
          rw [Std.HashSet.mem_insert, beq_iff_eq]
          split <;> grind

/-- The closure of some states holds what matters among the states reached from them. -/
theorem mem_closure {seeds : List Nat} {x : Nat} :
    x ∈ nfa.closure nfa.linkCount seeds ↔ nfa.isImportant x ∧ ∃ q ∈ seeds, nfa.Reaches q x := by
  rw [closure, List.mem_mergeSort, mem_visit (by rw [unseen_empty]; omega) (by simp) (by simp)]
  simp

/-- A visit finds no state twice. -/
theorem nodup_visit {fuel : Nat} {stack : List Nat} {seen : Std.HashSet Nat} {important : List Nat}
    (hseen : ∀ s ∈ important, s ∈ seen) (h : important.Nodup) :
    (nfa.visit fuel stack seen important).Nodup := by
  fun_induction visit nfa fuel stack seen important with
  | case1 => exact h
  | case2 => exact h
  | case3 _ _ _ _ _ _ ih => exact ih hseen h
  | case4 _ s _ seen important hs _ ih =>
    -- Only a state that was not seen yet is added, and all that were added have been seen.
    have hnew : s ∉ important := fun hmem => hs (Std.HashSet.contains_iff_mem.mpr (hseen s hmem))
    have hkept : ∀ t ∈ important, t ∈ seen.insert s :=
      fun t ht => Std.HashSet.mem_insert.mpr (.inr (hseen t ht))
    refine ih ?_ ?_
    · split
      · exact List.forall_mem_cons.mpr ⟨Std.HashSet.mem_insert_self, hkept⟩
      · exact hkept
    · split
      · exact List.nodup_cons.mpr ⟨hnew, h⟩
      · exact h

/-- The states of a closure are in order. -/
theorem pairwise_closure (nfa : Nfa) (links : Nat) (seeds : List Nat) :
    (nfa.closure links seeds).Pairwise (· ≤ ·) := by
  refine (List.pairwise_mergeSort ?_ ?_ _).imp of_decide_eq_true
  · intro a b c hab hbc
    exact decide_eq_true (Nat.le_trans (of_decide_eq_true hab) (of_decide_eq_true hbc))
  · intro a b
    simpa using Nat.le_total a b

/-- So a binary search finds what a closure holds. -/
theorem containsSorted_closure {links s : Nat} {seeds : List Nat} :
    containsSorted (nfa.closure links seeds).toArray s = true ↔ s ∈ nfa.closure links seeds := by
  rw [containsSorted_iff, List.mem_toArray]
  exact (nfa.pairwise_closure links seeds).imp Nat.isLE_compare.mpr

/-- A closure is in order and without repetitions, so that it is known by the states that it holds. -/
theorem closure_eq_of_mem_iff {links : Nat} {seeds seeds' : List Nat}
    (h : ∀ x, x ∈ nfa.closure links seeds ↔ x ∈ nfa.closure links seeds') :
    nfa.closure links seeds = nfa.closure links seeds' := by
  have hnodup (seeds : List Nat) : (nfa.closure links seeds).Nodup :=
    (List.mergeSort_perm ..).nodup_iff.mpr (nodup_visit nofun .nil)
  exact List.Perm.eq_of_pairwise (fun a b _ _ => Nat.le_antisymm) (nfa.pairwise_closure links seeds)
    (nfa.pairwise_closure links seeds')
    ((List.perm_ext_iff_of_nodup (hnodup seeds) (hnodup seeds')).mpr h)

/-! ### Texts -/

/-- The first character of a path is read in a state that is reached without reading. -/
theorem Path.first_read {n p t : Nat} {c : Char} {w : List Char}
    (path : Path nfa.states n p (c :: w) t) :
    ∃ q s, nfa.Reaches p q ∧ nfa.states[q]? = some s ∧ s.ranges.contains c.toNat ∧
      ∃ m, Path nfa.states m s.next w t := by
  generalize hv : c :: w = v at path
  induction path with
  | here => cases hv
  | skip hs hq _ ih =>
    obtain ⟨q, s, hreach, hrest⟩ := ih hv
    exact ⟨q, s, .head (mem_moves.mpr ⟨_, hs, hq⟩) hreach, hrest⟩
  | read hs hc path =>
    cases hv
    exact ⟨_, _, .refl _, hs, hc, _, path⟩

/-- Some states accept the empty text if the accepting state is in their closure. -/
theorem acceptsAfter_nil {seeds : List Nat} :
    nfa.AcceptsAfter seeds [] ↔ nfa.accept ∈ nfa.closure nfa.linkCount seeds := by
  have himportant : nfa.isImportant nfa.accept := by simp [isImportant]
  rw [mem_closure]
  exact ⟨fun h => ⟨himportant, h⟩, fun h => h.2⟩

/-- The states that are reached by reading a character in one of some states. -/
def Leads (nfa : Nfa) (set : List Nat) (n target : Nat) : Prop :=
  ∃ q ∈ set, ∃ s, nfa.states[q]? = some s ∧ s.ranges.contains n ∧ s.next = target

/-- A character that is read in the closure of some states comes in front of what is accepted there. -/
theorem acceptsAfter_of_leads {seeds : List Nat} {c : Char} {w : List Char} {t n : Nat}
    (h : nfa.Leads (nfa.closure nfa.linkCount seeds) c.toNat t)
    (path : Path nfa.states n t w nfa.accept) : nfa.AcceptsAfter seeds (c :: w) := by
  obtain ⟨q, hq, s, hs, hc, rfl⟩ := h
  obtain ⟨-, p, hp, m, first⟩ := mem_closure.mp hq
  obtain ⟨k, path⟩ := first.append (.read hs hc path)
  exact ⟨p, hp, k, path⟩

/-- Some states accept a text of one more character if the states that their closure leads to accept
the rest. -/
theorem acceptsAfter_cons {seeds targets : List Nat} {c : Char} {w : List Char}
    (htargets : ∀ t, t ∈ targets ↔ nfa.Leads (nfa.closure nfa.linkCount seeds) c.toNat t) :
    nfa.AcceptsAfter seeds (c :: w) ↔ nfa.AcceptsAfter targets w := by
  constructor
  · rintro ⟨p, hp, n, path⟩
    obtain ⟨q, s, hreach, hs, hc, m, path⟩ := path.first_read
    -- A state that reads a character matters, so the closure has not dropped it.
    have himportant : nfa.isImportant q := by
      have hne : s.ranges ≠ [] := by
        rintro hnil
        rw [hnil] at hc
        cases hc
      simp [isImportant, hs, hne]
    refine ⟨s.next, (htargets _).mpr ⟨q, mem_closure.mpr ⟨himportant, p, hp, hreach⟩, s, hs, hc, rfl⟩,
      m, path⟩
  · rintro ⟨t, ht, n, path⟩
    exact acceptsAfter_of_leads ((htargets t).mp ht) path

end GramSieve.Automaton.Nfa
