import GramSieve.Automaton.Nfa
import GramSieve.BinarySearch
import Std.Data.HashMap
import Std.Data.HashSet
import Std.Data.TreeMap

namespace GramSieve.Automaton

/-!
# Deterministic automata

* `Dfa`, `Dfa.step?`, `Dfa.accepts` — an automaton over code points and how it reads.
* `Nfa.closure` — the states that are reached without reading.
* `Sweep` — the ranges that leave a set of states, found by sweeping over their boundaries.
* `Dfa.ofRegex` — the subset construction for a regular expression.
-/

/-- A transition: a code point from `lo` to `hi` leads to the state `target`. -/
structure Transition where
  lo : Nat
  hi : Nat
  target : Nat
  deriving DecidableEq, Repr, Inhabited

/-- How many code points a transition accepts. -/
def Transition.width (t : Transition) : Nat := t.hi - t.lo + 1

/-- A state with its transitions, ascending and disjoint. -/
structure DfaState where
  transitions : Array Transition := #[]
  accept : Bool := false
  deriving Repr, Inhabited

/-- An automaton that starts in state 0. A missing transition rejects. -/
structure Dfa where
  states : Array DfaState
  deriving Repr, Inhabited

namespace Dfa

/-- The start state. -/
def start : Nat := 0

/-- The transitions of a state. -/
def transitions (dfa : Dfa) (state : Nat) : Array Transition :=
  (dfa.states[state]?.map (·.transitions)).getD #[]

/-- Whether a state accepts. -/
def isAccept (dfa : Dfa) (state : Nat) : Bool := dfa.states[state]?.any (·.accept)

/-- How many states there are. -/
def size (dfa : Dfa) : Nat := dfa.states.size

/-- The state that `c` leads to, found by a binary search over the upper ends. -/
def step? (dfa : Dfa) (state : Nat) (c : Char) : Option Nat :=
  let ts := dfa.transitions state
  let n := c.toNat
  let i := firstIndex (fun i => ts[i]?.any fun t => n ≤ t.hi) 0 ts.size
  match ts[i]? with
  | some t => if t.lo ≤ n then some t.target else none
  | none => none

/-- Whether the text is accepted from a state on. -/
def acceptsFrom (dfa : Dfa) (state : Nat) : List Char → Bool
  | [] => dfa.isAccept state
  | c :: rest =>
    match dfa.step? state c with
    | some next => dfa.acceptsFrom next rest
    | none => false

/-- Whether the whole text is accepted. -/
def accepts (dfa : Dfa) (text : List Char) : Bool := dfa.acceptsFrom start text

end Dfa

/-! ### Closures -/

namespace Nfa

/-- Whether a state matters in a closure: it reads something, or it accepts. -/
def isImportant (nfa : Nfa) (s : Nat) : Bool :=
  s == nfa.accept || nfa.states[s]?.any (!·.ranges.isEmpty)

/-- Visits the states of a stack and all states reached from them without reading. The fuel bounds
the states taken from the stack. -/
def visit (nfa : Nfa) : Nat → List Nat → Std.HashSet Nat → List Nat → List Nat
  | 0, _, _, important => important
  | _, [], _, important => important
  | fuel + 1, s :: stack, seen, important =>
    if seen.contains s then nfa.visit fuel stack seen important
    else
      let epsilons := (nfa.states[s]?.map (·.epsilons)).getD []
      nfa.visit fuel (epsilons ++ stack) (seen.insert s)
        (if nfa.isImportant s then s :: important else important)

/-- How many moves without reading there are. -/
def linkCount (nfa : Nfa) : Nat := nfa.states.foldl (fun n s => n + s.epsilons.length) 0

/-- The states that matter among `seeds` and those reached from them without reading, ascending.
Each move is followed at most once, so `links`, the number of all moves, bounds the visits. -/
def closure (nfa : Nfa) (links : Nat) (seeds : List Nat) : List Nat :=
  (nfa.visit (links + seeds.length) seeds ∅ []).mergeSort (· ≤ ·)

end Nfa

/-! ### Subset construction -/

/-- An end of a range: from `point` on, the range that leads to `target` is open or no longer so. -/
structure Boundary where
  point : Nat
  opens : Bool
  target : Nat
  deriving DecidableEq, Repr, Inhabited

namespace Boundary

/-- The order of boundaries: by point, ends before starts, then by target. -/
def le (a b : Boundary) : Bool :=
  a.point < b.point || (a.point == b.point &&
    ((!a.opens && b.opens) || (a.opens == b.opens && a.target ≤ b.target)))

end Boundary

/-- The boundaries of all ranges that leave a set of states, ascending. -/
def Nfa.boundaries (nfa : Nfa) (set : List Nat) : List Boundary :=
  let ofState (s : Nat) : List Boundary :=
    match nfa.states[s]? with
    | none => []
    | some state => state.ranges.flatMap fun r =>
        [⟨r.lo, true, state.next⟩, ⟨r.hi + 1, false, state.next⟩]
  (set.flatMap ofState).mergeSort Boundary.le

/-- How many open ranges lead to each target. -/
abbrev OpenTargets := Std.TreeMap Nat Nat

/-- The open targets behind a boundary. -/
def OpenTargets.cross (active : OpenTargets) (b : Boundary) : OpenTargets :=
  active.alter b.target fun count =>
    match b.opens, count with
    | true, count => some (count.getD 0 + 1)
    | false, some (count + 2) => some (count + 1)
    | false, _ => none

/-- The sets of states found so far, by number, and the number of each. -/
structure Subsets where
  sets : Array (List Nat) := #[]
  numbers : Std.HashMap (List Nat) Nat := ∅
  deriving Inhabited

/-- The number of a set, which is added if it is new and there are fewer than `limit`. -/
def Subsets.intern (found : Subsets) (limit : Nat) (set : List Nat) :
    Except TooManyStates (Nat × Subsets) :=
  match found.numbers[set]? with
  | some number => .ok (number, found)
  | none =>
    let number := found.sets.size
    if limit ≤ number then .error { limit }
    else .ok (number, ⟨found.sets.push set, found.numbers.insert set number⟩)

/-- A sweep over the boundaries of a set of states. -/
structure Sweep where
  found : Subsets
  active : OpenTargets := ∅
  /-- The numbers of the sets that lists of open targets lead to. -/
  known : Std.HashMap (List Nat) Nat := ∅
  /-- The transitions found so far, last one first. -/
  transitions : List Transition := []

namespace Sweep

/-- The number of the set of states that a list of targets leads to. -/
def target (nfa : Nfa) (links limit : Nat) (sweep : Sweep) (key : List Nat) :
    Except TooManyStates (Nat × Sweep) :=
  match sweep.known[key]? with
  | some number => .ok (number, sweep)
  | none => do
    let (number, found) ← sweep.found.intern limit (nfa.closure links key)
    return (number, { sweep with found, known := sweep.known.insert key number })

/-- Adds a transition, which continues the one before it if it touches it and leads to the same
state. -/
def push (t : Transition) : List Transition → List Transition
  | last :: before =>
    if last.target = t.target && last.hi + 1 = t.lo then { last with hi := t.hi } :: before
    else t :: last :: before
  | [] => [t]

/-- The transition for the code points between two neighbouring boundary points. -/
def between (nfa : Nfa) (links limit lo stop : Nat) (sweep : Sweep) :
    Except TooManyStates Sweep :=
  if sweep.active.isEmpty then .ok sweep
  else do
    let (target, sweep) ← sweep.target nfa links limit sweep.active.keys
    return { sweep with transitions := push ⟨lo, stop - 1, target⟩ sweep.transitions }

/-- Crosses the boundaries one by one; between two points the open targets decide. -/
def run (nfa : Nfa) (links limit : Nat) (sweep : Sweep) : List Boundary →
    Except TooManyStates Sweep
  | [] => .ok sweep
  | [b] => .ok { sweep with active := sweep.active.cross b }
  | b :: next :: rest => do
    let sweep := { sweep with active := sweep.active.cross b }
    if b.point = next.point then run nfa links limit sweep (next :: rest)
    else run nfa links limit (← sweep.between nfa links limit b.point next.point) (next :: rest)

end Sweep

namespace Dfa

/-- Finds the transitions of the sets from number `next` on, and the sets they lead to. At most
`limit` sets are ever found, which bounds the rounds. The sets ascend, so the accepting state is looked
for by a binary search. -/
def explore (nfa : Nfa) (links limit : Nat) : Nat → Nat → Subsets → Array DfaState →
    Except TooManyStates (Array DfaState)
  | 0, _, _, states => .ok states
  | fuel + 1, next, found, states =>
    match found.sets[next]? with
    | none => .ok states
    | some set => do
      let sweep ← Sweep.run nfa links limit { found } (nfa.boundaries set)
      let state := ⟨sweep.transitions.reverse.toArray, containsSorted set.toArray nfa.accept⟩
      explore nfa links limit fuel (next + 1) sweep.found (states.push state)

/-- The subset construction, with at most `limit` states. -/
def ofNfa (nfa : Nfa) (limit : Nat) : Except TooManyStates Dfa := do
  let links := nfa.linkCount
  let (_, found) ← Subsets.intern {} limit (nfa.closure links [nfa.start])
  return { states := ← explore nfa links limit limit 0 found #[] }

/-- The greatest number of states that can be asked for. -/
def maxLimit : Nat := UInt64.size - 1

/-- How many states the nondeterministic automaton may have. -/
def nfaLimit (limit : Nat) : Nat := max (min (8 * limit) maxLimit) 1024

/-- The automaton of a regular expression, with at most `limit` states. -/
def ofRegex (r : Regex) (limit : Nat) : Except TooManyStates Dfa := do
  ofNfa (← Nfa.ofRegex r (nfaLimit limit)) limit

end Dfa

end GramSieve.Automaton
