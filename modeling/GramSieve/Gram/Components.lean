namespace GramSieve.Gram

/-!
# Strongly connected components

Two nodes of a graph are in one component if each is reached from the other.

* `Call`, `Walk` — a depth-first walk, with its calls on a stack of its own.
* `Walk.step` — looks at one successor of the node of the last call, or leaves the node.
* `Walk.run` — goes on until every call is done.
* `components` — the components, each after those that it leads to.

A node stays on the stack until its component is found. Its low link is the index of a node on the stack
that it is known to lead to. A node that leads to none entered before it, as its low link tells when it
is left, is the first one of its component, and the rest of the component is what lies above it.
-/

/-- A graph: the successors of every node. -/
abbrev Successors := Array (List Nat)

/-- A node that was entered and not left, and the successors it has not looked at. -/
structure Call where
  node : Nat
  ahead : List Nat
  deriving DecidableEq, Repr, Inhabited

/-- A depth-first walk. The stack, the calls and the components have the latest one in front. -/
structure Walk where
  /-- How many nodes were entered before a node, if it was entered. -/
  index : Array (Option Nat)
  low : Array Nat
  onStack : Array Bool
  stack : List Nat := []
  calls : List Call := []
  next : Nat := 0
  found : List (List Nat) := []
  deriving Repr, Inhabited

namespace Walk

/-- Before any of `n` nodes is entered. -/
def start (n : Nat) : Walk where
  index := Array.replicate n none
  low := Array.replicate n 0
  onStack := Array.replicate n false

/-- Enters a node. -/
def enter (g : Successors) (v : Nat) (w : Walk) : Walk :=
  { w with
    index := w.index.setIfInBounds v (some w.next)
    low := w.low.setIfInBounds v w.next
    onStack := w.onStack.setIfInBounds v true
    stack := v :: w.stack
    calls := ⟨v, g.getD v []⟩ :: w.calls
    next := w.next + 1 }

/-- The low link of a node. -/
def lowLink (w : Walk) (v : Nat) : Nat := w.low.getD v 0

/-- Lowers the low link of a node, unless it is as low already. -/
def lower (v n : Nat) (w : Walk) : Walk := { w with low := w.low.modify v (min · n) }

/-- Looks at a successor of a node. -/
def look (g : Successors) (v target : Nat) (w : Walk) : Walk :=
  match w.index[target]? with
  | some none => w.enter g target
  | some (some i) => if w.onStack.getD target false then w.lower v i else w
  | none => w

/-- The part of a stack down to a node, and the rest. -/
def cut (v : Nat) : List Nat → List Nat × List Nat
  | [] => ([], [])
  | u :: stack => if u = v then ([u], stack) else ((cut v stack).1.cons u, (cut v stack).2)

/-- Makes a component of the part of the stack down to a node. -/
def close (v : Nat) (w : Walk) : Walk :=
  let (component, stack) := cut v w.stack
  { w with
    onStack := component.foldl (·.setIfInBounds · false) w.onStack
    stack
    found := component :: w.found }

/-- Hands the low link of a node to the node of the last call. -/
def propagate (v : Nat) (w : Walk) : Walk :=
  match w.calls with
  | parent :: _ => w.lower parent.node (w.lowLink v)
  | [] => w

/-- Leaves a node whose call is done. -/
def leave (v : Nat) (w : Walk) : Walk :=
  let w := w.propagate v
  if w.index.getD v none = some (w.lowLink v) then w.close v else w

/-- One step of the last call. -/
def step (g : Successors) (w : Walk) : Walk :=
  match w.calls with
  | [] => w
  | ⟨v, target :: ahead⟩ :: calls => look g v target { w with calls := ⟨v, ahead⟩ :: calls }
  | ⟨v, []⟩ :: calls => leave v { w with calls }

/-! ### The walk ends -/

/-- What some calls have ahead of them. -/
def pending : List Call → Nat
  | [] => 0
  | call :: calls => call.ahead.length + 1 + pending calls

@[simp] theorem index_propagate (v : Nat) (w : Walk) : (w.propagate v).index = w.index := by
  unfold propagate
  split <;> rfl

@[simp] theorem calls_propagate (v : Nat) (w : Walk) : (w.propagate v).calls = w.calls := by
  unfold propagate
  split <;> rfl

@[simp] theorem index_leave (v : Nat) (w : Walk) : (w.leave v).index = w.index := by
  show (if _ then (w.propagate v).close v else w.propagate v).index = w.index
  split <;> exact index_propagate v w

@[simp] theorem calls_leave (v : Nat) (w : Walk) : (w.leave v).calls = w.calls := by
  show (if _ then (w.propagate v).close v else w.propagate v).calls = w.calls
  split <;> exact calls_propagate v w

/-- A node is entered once. -/
theorem count_enter_lt (g : Successors) {v : Nat} {w : Walk} (hv : w.index[v]? = some none) :
    (w.enter g v).index.count none < w.index.count none := by
  obtain ⟨hlt, hnone⟩ := Array.getElem?_eq_some_iff.mp hv
  have hpos : 0 < w.index.count none := by
    rw [Array.count_pos_iff]
    exact hnone ▸ Array.getElem_mem hlt
  have hset : (w.enter g v).index = w.index.set v (some w.next) hlt := by
    simp [enter, Array.setIfInBounds, hlt]
  have hself : ((none : Option Nat) == none) = true := rfl
  have hother : ¬(some w.next == none) = true := Bool.false_ne_true
  rw [hset, Array.count_set, hnone, if_pos hself, if_neg hother]
  exact Nat.sub_lt hpos Nat.one_pos

/-- A step enters a node that is new, or it does something that was ahead of a call. -/
theorem step_decreases (g : Successors) {w : Walk} (h : w.calls ≠ []) :
    Prod.Lex (· < ·) (· < ·) ((w.step g).index.count none, pending (w.step g).calls)
      (w.index.count none, pending w.calls) := by
  unfold step
  split
  · contradiction
  · rename_i v target ahead calls hcalls
    have hless : pending (⟨v, ahead⟩ :: calls) < pending w.calls := by
      rw [hcalls]
      show _ < ahead.length + 1 + 1 + pending calls
      exact Nat.add_lt_add_right (Nat.lt_succ_self _) _
    unfold look
    split
    · rename_i hnew
      exact .left _ _ (count_enter_lt g (w := { w with calls := _ }) hnew)
    · split
      · exact .right _ hless
      · exact .right _ hless
    · exact .right _ hless
  · rename_i v calls hcalls
    rw [index_leave, calls_leave, hcalls]
    exact .right _ (Nat.lt_add_of_pos_left (Nat.succ_pos _))

/-- Goes on until every call is done. -/
def run (g : Successors) (w : Walk) : Walk := if w.calls = [] then w else run g (w.step g)
termination_by (w.index.count none, pending w.calls)
decreasing_by exact step_decreases g ‹_›

/-- Walks from a node, unless it was entered before. -/
def visit (g : Successors) (w : Walk) (v : Nat) : Walk :=
  if w.index.getD v none = none then run g (w.enter g v) else w

end Walk

/-- The components of a graph. No edge leads from a component to a later one. -/
def components (g : Successors) : List (List Nat) :=
  ((List.range g.size).foldl (Walk.visit g) (.start g.size)).found.reverse

end GramSieve.Gram
