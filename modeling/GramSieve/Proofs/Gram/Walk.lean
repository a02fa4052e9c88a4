import GramSieve.Gram.Components
import Mathlib.Data.List.Nodup
import Mathlib.Logic.Function.Basic
import Mathlib.Order.Nat

namespace GramSieve.Gram

/-!
# The books of a walk

* `Walk.number_enter`, `Walk.lowLink_lower`, `Walk.close_eq` — what the parts of a step write down.
* `Walk.run_keeps`, `Walk.calls_run` — a run keeps what every step keeps, and it ends with no open call.
* `Walk.Entered.run` — what was entered stays so.
* `Walk.Books` — what a walk notes of its nodes agrees with its stack and its components.
* `Walk.Books.enter`, `Walk.Books.lower`, `Walk.Books.close` — it stays so.
-/

open Function

variable {g : Successors}

/-- Writing an entry of an array changes the function of its entries at one place. -/
theorem getD_setIfInBounds {α : Type} {xs : Array α} {v : Nat} (hv : v < xs.size) (x d : α) :
    ((xs.setIfInBounds v x).getD · d) = update (xs.getD · d) v x := by
  funext u
  by_cases hu : u = v
  · subst hu
    simp [hv]
  · simp [update_of_ne hu, Ne.symm hu]

namespace Walk

/-- A node was entered. -/
def Entered (w : Walk) (v : Nat) : Prop := ∃ i, w.index[v]? = some (some i)

/-- How many nodes were entered before a node. -/
def number (w : Walk) (v : Nat) : Nat := (w.index.getD v none).getD 0

/-- The nodes that were entered and not left. -/
def active (w : Walk) : List Nat := w.calls.map Call.node

variable {w : Walk} {u v : Nat}

theorem Entered.getElem? (h : w.Entered v) : w.index[v]? = some (some (w.number v)) := by
  obtain ⟨i, hi⟩ := h
  simp [hi, number]

/-- Entering a node enters no other. -/
theorem entered_enter (hv : v < w.index.size) : (w.enter g v).Entered u ↔ u = v ∨ w.Entered u := by
  unfold Entered enter
  by_cases hu : u = v
  · subst hu
    simp [hv]
  · simp [Ne.symm hu, hu]

/-- It gets the next number. -/
theorem number_enter (hv : v < w.index.size) :
    (w.enter g v).number = update w.number v w.next := by
  funext u
  have hset := congrFun (getD_setIfInBounds hv (some w.next) none) u
  show ((w.index.setIfInBounds v (some w.next)).getD u none).getD 0 = _
  rw [hset]
  by_cases hu : u = v
  · subst hu
    simp
  · simp [update_of_ne hu, number]

/-- Its own number is the lowest that it reaches so far. -/
theorem lowLink_enter (hv : v < w.low.size) :
    (w.enter g v).lowLink = update w.lowLink v w.next :=
  getD_setIfInBounds hv w.next 0

/-- Lowering a low link takes the smaller of both numbers. -/
theorem lowLink_lower {n : Nat} (hv : v < w.low.size) :
    (w.lower v n).lowLink = update w.lowLink v (min (w.lowLink v) n) := by
  funext u
  unfold lowLink lower
  by_cases hu : u = v
  · subst hu
    simp [hv, Array.getElem_modify]
  · rw [update_of_ne hu]
    simp [Array.getElem?_modify, Ne.symm hu]

/-! ### Running a walk -/

/-- What every step keeps, a run keeps. -/
theorem run_keeps {P : Walk → Prop} (hstep : ∀ w, P w → P (w.step g)) (h : P w) : P (w.run g) := by
  induction w using Walk.run.induct g with
  | case1 w hdone => rwa [run, if_pos hdone]
  | case2 w hopen ih =>
    rw [run, if_neg hopen]
    exact ih (hstep w h)

/-- The walk ends when no call is left. -/
theorem calls_run (g : Successors) (w : Walk) : (w.run g).calls = [] := by
  induction w using Walk.run.induct g with
  | case1 w hdone => rwa [run, if_pos hdone]
  | case2 w hopen ih => rwa [run, if_neg hopen]

/-- A node stays entered when another one is entered. -/
theorem Entered.enter (h : w.Entered u) : (w.enter g v).Entered u := by
  obtain ⟨i, hi⟩ := h
  by_cases huv : u = v
  · subst huv
    exact (entered_enter (Array.getElem?_eq_some_iff.mp hi).1).mpr (.inl rfl)
  · exact ⟨i, by rw [Walk.enter, Array.getElem?_setIfInBounds_ne (Ne.symm huv), hi]⟩

/-- What was entered stays so. -/
theorem Entered.step (h : w.Entered u) : (w.step g).Entered u := by
  unfold Walk.step
  split
  · exact h
  · unfold look
    split
    · exact Entered.enter h
    · split <;> exact h
    · exact h
  · unfold Entered
    rw [index_leave]
    exact h

theorem Entered.run (h : w.Entered u) : (w.run g).Entered u :=
  run_keeps (P := fun w => w.Entered u) (fun _ => Entered.step) h

/-! ### The books of a walk -/

/-- What a walk notes of its nodes agrees with its stack and its components. -/
structure Books (g : Successors) (w : Walk) : Prop where
  size_index : w.index.size = g.size
  size_low : w.low.size = g.size
  entered_iff : ∀ v, w.Entered v ↔ v ∈ w.stack ∨ v ∈ w.found.flatten
  onStack_iff : ∀ v, w.onStack.getD v false = true ↔ v ∈ w.stack
  size_onStack : w.onStack.size = g.size
  nodup : (w.stack ++ w.found.flatten).Nodup
  number_lt : ∀ v ∈ w.stack, w.number v < w.next

/-- Before the walk the books are empty. -/
theorem books_start (g : Successors) : (start g.size).Books g := by
  have honStack (v : Nat) : (Array.replicate g.size false).getD v false = false := by
    rw [Array.getD_eq_getD_getElem?, Array.getElem?_replicate]
    split <;> rfl
  constructor <;> simp only [start, honStack]
  all_goals simp [Entered, Array.getElem?_replicate]

namespace Books

/-- Only nodes of the graph are entered. -/
theorem lt_size (h : w.Books g) (hv : w.Entered v) : v < g.size := by
  obtain ⟨i, hi⟩ := hv
  rw [← h.size_index]
  exact (Array.getElem?_eq_some_iff.mp hi).1

theorem entered_of_mem (h : w.Books g) (hv : v ∈ w.stack) : w.Entered v :=
  (h.entered_iff v).mpr (.inl hv)

/-- Entering a new node of the graph keeps the books. -/
theorem enter (h : w.Books g) (hv : v < g.size) (hnew : ¬w.Entered v) : (w.enter g v).Books g := by
  have hindex : v < w.index.size := h.size_index ▸ hv
  have honStack : v < w.onStack.size := h.size_onStack ▸ hv
  have hnot := hnew
  rw [h.entered_iff, ← List.mem_append] at hnot
  refine ⟨?_, ?_, fun u => ?_, fun u => ?_, ?_, List.nodup_cons.mpr ⟨hnot, h.nodup⟩, fun u hu => ?_⟩
  · exact Array.size_setIfInBounds.trans h.size_index
  · exact Array.size_setIfInBounds.trans h.size_low
  -- Entered is what is on the stack or in a component, and `v` is on the stack now.
  · rw [entered_enter hindex, h.entered_iff]
    show _ ↔ u ∈ v :: w.stack ∨ u ∈ w.found.flatten
    rw [List.mem_cons, or_assoc]
  · show (w.onStack.setIfInBounds v true).getD u false = true ↔ u ∈ v :: w.stack
    rw [congrFun (getD_setIfInBounds honStack true false) u, List.mem_cons, ← h.onStack_iff]
    by_cases huv : u = v
    · simp [huv]
    · simp [huv]
  · exact Array.size_setIfInBounds.trans h.size_onStack
  -- The number of `v` is the next one; all others are smaller.
  · show (w.enter g v).number u < w.next + 1
    rw [number_enter hindex]
    obtain rfl | hu := List.mem_cons.mp hu
    · rw [update_self]
      exact Nat.lt_succ_self _
    · have hne : u ≠ v := fun heq => hnew (heq ▸ h.entered_of_mem hu)
      rw [update_of_ne hne]
      exact Nat.lt_succ_of_lt (h.number_lt u hu)

theorem withCalls (h : w.Books g) (calls : List Call) : Books g { w with calls } :=
  ⟨h.size_index, h.size_low, h.entered_iff, h.onStack_iff, h.size_onStack, h.nodup, h.number_lt⟩

theorem lower (h : w.Books g) (v n : Nat) : (w.lower v n).Books g :=
  ⟨h.size_index, Array.size_modify.trans h.size_low, h.entered_iff, h.onStack_iff, h.size_onStack,
    h.nodup, h.number_lt⟩

end Books

/-- A component is cut off the stack down to its root. -/
theorem cut_append {above below : List Nat} (hv : v ∉ above) :
    cut v (above ++ v :: below) = (above ++ [v], below) := by
  induction above with
  | nil => simp [cut]
  | cons u above ih =>
    rw [List.mem_cons, not_or] at hv
    simp [cut, Ne.symm hv.1, ih hv.2]

/-- Taking nodes off the stack leaves their entries where they are. -/
theorem size_foldl_setIfInBounds (vs : List Nat) (xs : Array Bool) :
    (vs.foldl (·.setIfInBounds · false) xs).size = xs.size := by
  induction vs generalizing xs with
  | nil => rfl
  | cons v vs ih => rw [List.foldl_cons, ih, Array.size_setIfInBounds]

/-- They no longer count as on the stack, and all others count as before. -/
theorem getD_foldl_setIfInBounds (vs : List Nat) (xs : Array Bool) :
    (vs.foldl (·.setIfInBounds · false) xs).getD u false = true ↔
      xs.getD u false = true ∧ u ∉ vs := by
  induction vs generalizing xs with
  | nil => simp
  | cons v vs ih =>
    have hset : (xs.setIfInBounds v false).getD u false = true ↔
        xs.getD u false = true ∧ u ≠ v := by
      by_cases huv : u = v
      · subst huv
        by_cases hu : u < xs.size <;> simp [hu]
      · simp [huv, Ne.symm huv]
    rw [List.foldl_cons, ih, hset, List.mem_cons, not_or, and_assoc]

/-- Closing the component of a root takes off the stack what is above it, and the root. -/
theorem close_eq {above below : List Nat} (hstack : w.stack = above ++ v :: below) (hv : v ∉ above) :
    w.close v = { w with
      onStack := (above ++ [v]).foldl (·.setIfInBounds · false) w.onStack
      stack := below
      found := (above ++ [v]) :: w.found } := by
  unfold close
  rw [hstack, cut_append hv]

/-- It keeps the books. -/
theorem Books.close (h : w.Books g) {above below : List Nat} (hstack : w.stack = above ++ v :: below)
    (hv : v ∉ above) : (w.close v).Books g := by
  have hsplit : w.stack = (above ++ [v]) ++ below := by rw [hstack, List.append_cons]
  have hnodup := h.nodup
  rw [hsplit] at hnodup
  rw [close_eq hstack hv]
  -- No node is on the stack twice, so what stays there is not in the component.
  have hdisjoint {u : Nat} (hu : u ∈ below) : u ∉ above ++ [v] := fun hcut =>
    (List.nodup_append.mp (List.nodup_append.mp hnodup).1).2.2 u hcut u hu rfl
  refine ⟨h.size_index, h.size_low, fun u => ?_, fun u => ?_,
    (size_foldl_setIfInBounds _ _).trans h.size_onStack, ?_,
    fun u hu => h.number_lt u (hsplit ▸ List.mem_append_right _ hu)⟩
  · show w.Entered u ↔ u ∈ below ∨ u ∈ (above ++ [v]) ++ w.found.flatten
    rw [h.entered_iff, hsplit, List.mem_append, List.mem_append (s := above ++ [v]), or_assoc]
    exact or_left_comm
  · show ((above ++ [v]).foldl (·.setIfInBounds · false) w.onStack).getD u false = true ↔ u ∈ below
    rw [getD_foldl_setIfInBounds, h.onStack_iff, hsplit, List.mem_append]
    exact ⟨fun hu => hu.1.resolve_left hu.2, fun hu => ⟨.inr hu, hdisjoint hu⟩⟩
  · show (below ++ ((above ++ [v]) ++ w.found.flatten)).Nodup
    rw [← List.append_assoc]
    exact (List.perm_append_comm.append_right _).nodup hnodup

end Walk

end GramSieve.Gram
