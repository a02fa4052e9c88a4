import GramSieve.Automaton.Dfa
import GramSieve.Gram.Analyzer

namespace GramSieve.Gram

/-!
# The graph of the grams that an automaton reads

* `Bounds` — how far the automaton is unfolded.
* `Place` — a state of the automaton with the window of characters read last.
* `GramEdge.ascending` — the edges of a place, each of them once.
* `GramGraph` — the places with the grams that are read between them.
* `GramGraph.ofDfa` — the breadth-first unfolding of an automaton.
-/

open Automaton

/-- How far an automaton is unfolded. -/
structure Bounds where
  gramSize : Nat := 3
  /-- The widest transition whose characters are told apart. -/
  maxExpand : Nat := 4
  maxStatesTraced : Nat := 10000
  maxGrams : Nat := 100
  deriving DecidableEq, Repr, Inhabited

/-- The unfolding has more places than allowed. -/
structure TooComplexToTrace where
  maxStatesTraced : Nat
  deriving DecidableEq, Repr, Inhabited

/-- The wording of the error. -/
def TooComplexToTrace.message (e : TooComplexToTrace) : String :=
  s!"n-gram extraction traced more than {e.maxStatesTraced} states"

/-- A state, and the characters read last, fewer than make a gram. -/
structure Place where
  state : Nat
  window : List Char
  deriving DecidableEq, Repr, Inhabited

instance : Hashable Place := ⟨fun p => mixHash (hash p.state) (hash (String.ofList p.window))⟩

/-- An edge to the place with the number `target`; it carries the number of a gram if one is
completed. -/
structure GramEdge where
  gram : Option Nat
  target : Nat
  deriving DecidableEq, Repr, Inhabited

/-- The order of edges: those without a gram come first, then the number of the gram and that of the
place decide. -/
def GramEdge.le (a b : GramEdge) : Bool :=
  match a.gram, b.gram with
  | none, none => a.target ≤ b.target
  | none, some _ => true
  | some _, none => false
  | some m, some n => m < n || (m == n && a.target ≤ b.target)

/-- Edges in ascending order, each of them once. -/
def GramEdge.ascending (edges : List GramEdge) : List GramEdge :=
  (edges.mergeSort GramEdge.le).eraseReps

/-- A place with the edges that leave it. -/
structure GramNode where
  edges : List GramEdge
  accepting : Bool
  deriving Repr, Inhabited

/-- The unfolding, from the place with number 0 on. -/
structure GramGraph where
  nodes : Array GramNode
  grams : Array (List Char)
  deriving Repr, Inhabited

namespace GramGraph

/-- The numbers of the places that edges lead to from a place. -/
def targets (g : GramGraph) (node : Nat) : List Nat :=
  (g.nodes[node]?.map fun n => n.edges.map (·.target)).getD []

/-! ### Unfolding -/

/-- What is known during the unfolding. The places are numbered as they are found. -/
structure Frontier where
  places : Array Place := #[]
  numbers : Std.HashMap Place Nat := ∅
  grams : Array (List Char) := #[]
  gramNumbers : Std.HashMap String Nat := ∅

/-- The number of a place, which may be a new one. -/
def Frontier.visit (limit : Nat) (place : Place) (f : Frontier) :
    Except TooComplexToTrace (Nat × Frontier) :=
  match f.numbers[place]? with
  | some n => .ok (n, f)
  | none =>
    let n := f.places.size
    if limit ≤ n then .error ⟨limit⟩
    else .ok (n, { f with places := f.places.push place, numbers := f.numbers.insert place n })

/-- The number of a gram. A new one only gets a number while there are few. -/
def Frontier.record (maxGrams : Nat) (gram : List Char) (f : Frontier) : Option Nat × Frontier :=
  let text := String.ofList gram
  match f.gramNumbers[text]? with
  | some n => (some n, f)
  | none =>
    let n := f.grams.size
    if maxGrams ≤ n then (none, f)
    else (some n, { f with grams := f.grams.push gram, gramNumbers := f.gramNumbers.insert text n })

/-- The edges found so far of one place, with what is known. -/
abbrev Found := List GramEdge × Frontier

/-- Adds the edge for a character that leads from a window to a state. -/
def readChar (b : Bounds) (window : List Char) (state : Nat) (found : Found) (c : Char) :
    Except TooComplexToTrace Found := do
  let (edges, f) := found
  let longer := window ++ [c]
  if longer.length = b.gramSize then
    let (gram, f) := f.record b.maxGrams longer
    let (target, f) ← f.visit b.maxStatesTraced ⟨state, longer.tail⟩
    return (⟨gram, target⟩ :: edges, f)
  else
    let (target, f) ← f.visit b.maxStatesTraced ⟨state, longer⟩
    return (⟨none, target⟩ :: edges, f)

/-- The characters of a transition. -/
def charsOf (t : Transition) : List Char :=
  ((List.range' t.lo t.width).filter Nat.isValidChar).map Char.ofNat

/-- Adds the edges for a transition. Through a wide one, what was read before is forgotten. -/
def readTransition (b : Bounds) (window : List Char) (found : Found) (t : Transition) :
    Except TooComplexToTrace Found := do
  if b.maxExpand < t.width then
    let (edges, f) := found
    let (target, f) ← f.visit b.maxStatesTraced ⟨t.target, []⟩
    return (⟨none, target⟩ :: edges, f)
  else (charsOf t).foldlM (readChar b window t.target) found

/-- Finds the edges of the places in the order of their numbers, until all have theirs. Nothing is
read past an accepting state. -/
def unfold (b : Bounds) (dfa : Dfa) :
    Nat → Array GramNode → Frontier → Except TooComplexToTrace GramGraph
  | 0, nodes, f => .ok ⟨nodes, f.grams⟩
  | fuel + 1, nodes, f =>
    match f.places[nodes.size]? with
    | none => .ok ⟨nodes, f.grams⟩
    | some place => do
      if dfa.isAccept place.state then
        unfold b dfa fuel (nodes.push ⟨[], true⟩) f
      else
        let (edges, f) ←
          (dfa.transitions place.state).toList.foldlM (readTransition b place.window) ([], f)
        unfold b dfa fuel (nodes.push ⟨GramEdge.ascending edges, false⟩) f

/-- The unfolding of an automaton. -/
def ofDfa (b : Bounds) (dfa : Dfa) : Except TooComplexToTrace GramGraph := do
  let (_, f) ← Frontier.visit b.maxStatesTraced ⟨Dfa.start, []⟩ {}
  unfold b dfa b.maxStatesTraced #[] f

end GramGraph

end GramSieve.Gram
