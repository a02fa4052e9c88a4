import GramSieve.Proofs.Gram.Discovery

namespace GramSieve.Gram.GramGraph

/-!
# The unfolding of an automaton

* `Follows` — an edge keeps up with a character that the automaton reads.
* `Unfolds`, `unfolds_of_ofDfa` — the nodes of the graph do what the states of the automaton do, and
  there are none for states that are not reached.

What is kept of the text may be forgotten at any edge, and a gram need not be recorded. Only what an
edge does claim has to be in the text. What a graph requires is necessary for this reason alone, whatever
the order of the places and grams is.
-/

open Automaton

/-- An edge for a character that leads to a state: the window of its target is the end of the text
read so far, and so is the gram that the edge carries. -/
def Follows (b : Bounds) (places : Array Place) (grams : Array (List Char)) (window : List Char)
    (c : Char) (state : Nat) (e : GramEdge) : Prop :=
  (∃ p, places[e.target]? = some p ∧ p.state = state ∧ p.window <:+ window ++ [c]) ∧
    ∀ n, e.gram = some n →
      ∃ gram, grams[n]? = some gram ∧ gram.length = b.gramSize ∧ gram <:+ window ++ [c]

/-- A node of the graph does at least what the automaton does at a place. -/
structure NodeUnfolds (b : Bounds) (dfa : Dfa) (places : Array Place) (grams : Array (List Char))
    (place : Place) (node : GramNode) : Prop where
  accepting : node.accepting = dfa.isAccept place.state
  known : ∀ e ∈ node.edges, e.target < places.size
  follows : node.accepting = false → ∀ c next, dfa.step? place.state c = some next →
    ∃ e ∈ node.edges, Follows b places grams place.window c next e

/-- The nodes of the graph are those of the places, the first of which is the start. -/
structure Unfolds (b : Bounds) (dfa : Dfa) (places : Array Place) (g : GramGraph) : Prop where
  start : places[0]? = some ⟨Dfa.start, []⟩
  size_eq : g.nodes.size = places.size
  reached : ∀ (n : Nat) (place : Place), places[n]? = some place → dfa.Reached place.state
  node : ∀ (n : Nat) (place : Place), places[n]? = some place →
    ∃ node, g.nodes[n]? = some node ∧ NodeUnfolds b dfa places g.grams place node

variable {b : Bounds} {dfa : Dfa} {places : Array Place} {grams : Array (List Char)} {place : Place}
  {node : GramNode} {e : GramEdge} {g : GramGraph} {window : List Char} {t : Transition} {c : Char}

/-- The edge for a character follows its transition. -/
theorem EdgeFor.follows (h : EdgeFor places grams (.through b window t c) e) :
    Follows b places grams window c t.target e := by
  refine ⟨⟨_, h.target, Reading.state_through, Reading.window_through_suffix⟩, fun n hn => ?_⟩
  obtain ⟨gram, hread, hget⟩ := (h.gram n).mp hn
  obtain ⟨hlength, rfl⟩ := Reading.gram_of_through hread
  exact ⟨_, hget, hlength, List.suffix_rfl⟩

/-- The node of a place has an edge for each character that its state reads, unless it accepts. -/
theorem NodeFor.unfolds (h : NodeFor b dfa places grams place node) :
    NodeUnfolds b dfa places grams place node where
  accepting := h.accepting
  known e he := by
    obtain ⟨r, -, hedge⟩ := h.edges.exists_reading e he
    exact (Array.getElem?_eq_some_iff.mp hedge.target).1
  follows hreject c next hstep := by
    obtain ⟨t, -, -, -, rfl, e, he, hedge⟩ := h.exists_edge_of_step hreject hstep
    exact ⟨e, he, hedge.follows⟩

/-- The places are at states that are reached from the start. -/
theorem BreadthFirst.reached (h : BreadthFirst b dfa places) {n : Nat}
    (hplace : places[n]? = some place) : dfa.Reached place.state := by
  refine h.induct (P := fun place => dfa.Reached place.state) .start ?_ hplace
  intro place hreached r hr
  obtain ⟨-, t, ht, c, -, rfl⟩ := Place.mem_readings_iff.mp hr
  rw [Reading.state_through]
  exact hreached.next ht

/-- So a graph that was discovered unfolds its automaton. -/
theorem Discovery.unfolds (h : Discovery b dfa places g) : Unfolds b dfa places g where
  start := h.breadthFirst.start
  size_eq := h.size_eq
  reached _ _ := h.breadthFirst.reached
  node n place hplace := by
    obtain ⟨node, hnode, hfor⟩ := h.node n place hplace
    exact ⟨node, hnode, hfor.unfolds⟩

/-- The graph of an automaton does at least what the automaton does. -/
theorem unfolds_of_ofDfa (h : ofDfa b dfa = .ok g) : ∃ places, Unfolds b dfa places g := by
  obtain ⟨places, hdiscovery⟩ := discovery_of_ofDfa h
  exact ⟨places, hdiscovery.unfolds⟩

end GramSieve.Gram.GramGraph
