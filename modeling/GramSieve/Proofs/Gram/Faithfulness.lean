import GramSieve.Proofs.Gram.Discovery
import Mathlib

namespace GramSieve.Gram

/-!
# Faithful unfoldings

* `GramGraph.length_window_lt` — a window is shorter than a gram.
* `GramGraph.Keeps`, `GramGraph.keeps_of_edgeFor` — the edge for a character forgets nothing that the
  bounds let it keep.
* `GramGraph.Faithful`, `GramGraph.ofDfa_faithful` — a graph does what its automaton does, within the
  bounds.
-/

open Automaton

namespace GramGraph

variable {b : Bounds} {dfa : Dfa} {places : Array Place} {g : GramGraph}

/-- A window is always shorter than a gram. -/
theorem length_window_lt (hsize : 1 ≤ b.gramSize) (h : BreadthFirst b dfa places) {n : Nat}
    {place : Place} (hplace : places[n]? = some place) : place.window.length < b.gramSize := by
  refine h.induct (P := fun place => place.window.length < b.gramSize) hsize ?_ hplace
  intro place hwindow r hr
  obtain ⟨-, t, -, c, -, rfl⟩ := Place.mem_readings_iff.mp hr
  unfold Reading.through
  split
  · exact hsize
  · rw [Reading.place_ofChar hwindow]
    show ((place.window ++ [c]).rtake (b.gramSize - 1)).length < b.gramSize
    rw [List.rtake, List.length_drop]
    omega

/-! ### Faithful graphs -/

/-- The edge for a character that is read through a transition behind a window. Its place has the end of
what was read, one character less than a gram, if the transition is narrow, and nothing otherwise. It
carries a number if the transition is narrow and the character completes a gram that is kept, and the
number is that of the gram. -/
structure Keeps (b : Bounds) (places : Array Place) (kept : List (List Char)) (window : List Char)
    (t : Transition) (c : Char) (e : GramEdge) : Prop where
  target : places[e.target]? = some ⟨t.target,
    if t.width ≤ b.maxExpand then (window ++ [c]).rtake (b.gramSize - 1) else []⟩
  gram : ∀ n, e.gram = some n ↔ t.width ≤ b.maxExpand ∧ (window ++ [c]).length = b.gramSize ∧
    kept[n]? = some (window ++ [c])

/-- An edge for a character that was read leads where the automaton goes on, keeps the last characters
as its window, and has the gram that they complete if it was among the first ones. -/
theorem keeps_of_edgeFor {grams : Array (List Char)} {window : List Char} {t : Transition} {c : Char}
    {e : GramEdge} (hwindow : window.length < b.gramSize)
    (h : EdgeFor places grams (.through b window t c) e) :
    Keeps b places grams.toList window t c e := by
  unfold Reading.through at h
  by_cases hwide : b.maxExpand < t.width
  -- A transition that is too wide forgets the window and completes no gram.
  · rw [if_pos hwide] at h
    have hnarrow : ¬ t.width ≤ b.maxExpand := Nat.not_le_of_lt hwide
    constructor
    · rw [if_neg hnarrow]
      exact h.target
    · intro n
      rw [h.gram]
      simp [hnarrow]
  · rw [if_neg hwide] at h
    have hnarrow : t.width ≤ b.maxExpand := Nat.le_of_not_lt hwide
    constructor
    · rw [if_pos hnarrow, ← Reading.place_ofChar hwindow]
      exact h.target
    · intro n
      rw [h.gram, Array.getElem?_toList]
      simp only [Reading.gram_ofChar, hnarrow, true_and]
      constructor
      · rintro ⟨_, ⟨hlength, rfl⟩, hget⟩
        exact ⟨hlength, hget⟩
      · rintro ⟨hlength, hget⟩
        exact ⟨_, ⟨hlength, rfl⟩, hget⟩

/-- What a graph tells about its automaton, where `kept` are the grams that have numbers. Every step of
the automaton has its edge, and every edge is that of a character and a transition and is there once. -/
structure Faithful (b : Bounds) (dfa : Dfa) (places : Array Place) (kept : List (List Char))
    (g : GramGraph) : Prop where
  start : places[0]? = some ⟨Dfa.start, []⟩
  size_eq : g.nodes.size = places.size
  nodup : places.toList.Nodup
  window : ∀ place ∈ places, place.window.length ≤ b.gramSize - 1
  accepting : ∀ (n : Nat) place node, places[n]? = some place → g.nodes[n]? = some node →
    (node.accepting = true ↔ dfa.isAccept place.state = true) ∧
      (node.accepting = true → node.edges = [])
  step : ∀ (n : Nat) place node, places[n]? = some place → g.nodes[n]? = some node →
    node.accepting = false → ∀ c next, dfa.step? place.state c = some next →
      ∃ t ∈ dfa.transitions place.state, t.lo ≤ c.toNat ∧ c.toNat ≤ t.hi ∧ t.target = next ∧
        ∃ e ∈ node.edges, Keeps b places kept place.window t c e
  edge : ∀ (n : Nat) place node, places[n]? = some place → g.nodes[n]? = some node →
    ∀ e ∈ node.edges, ∃ t ∈ dfa.transitions place.state, ∃ c,
      (t.width ≤ b.maxExpand → c ∈ charsOf t) ∧ Keeps b places kept place.window t c e
  nodup_edges : ∀ node ∈ g.nodes, node.edges.Nodup

/-- A graph that was discovered has the edges of its places and no others. -/
theorem Discovery.faithful (hsize : 1 ≤ b.gramSize) (h : Discovery b dfa places g) :
    Faithful b dfa places g.grams.toList g := by
  have hnodeFor {n : Nat} {place : Place} {node : GramNode} (hplace : places[n]? = some place)
      (hnode : g.nodes[n]? = some node) : NodeFor b dfa places g.grams place node := by
    obtain ⟨node', hnode', hfor⟩ := h.node n place hplace
    obtain rfl := Option.some.inj (hnode.symm.trans hnode')
    exact hfor
  refine ⟨h.breadthFirst.start, h.size_eq, h.breadthFirst.nodup, ?_, ?_, ?_, ?_, ?_⟩
  · intro place hplace
    obtain ⟨n, hn, rfl⟩ := Array.getElem_of_mem hplace
    have hlt := length_window_lt hsize h.breadthFirst (Array.getElem?_eq_getElem hn)
    exact Nat.le_sub_one_of_lt hlt
  · intro n place node hplace hnode
    have hfor := hnodeFor hplace hnode
    refine ⟨by rw [hfor.accepting], fun haccepting => ?_⟩
    have hedges := hfor.edges
    -- Nothing is read at a place that accepts.
    rw [Place.readings, if_pos (hfor.accepting ▸ haccepting)] at hedges
    exact hedges.eq_nil
  · intro n place node hplace hnode haccepting c next hstep
    have hwindow := length_window_lt hsize h.breadthFirst hplace
    obtain ⟨t, ht, hlo, hhi, htarget, e, he, hedge⟩ :=
      (hnodeFor hplace hnode).exists_edge_of_step haccepting hstep
    exact ⟨t, ht, hlo, hhi, htarget, e, he, keeps_of_edgeFor hwindow hedge⟩
  · intro n place node hplace hnode e he
    have hwindow := length_window_lt hsize h.breadthFirst hplace
    -- Every edge belongs to a reading, and a reading to a character of a transition.
    obtain ⟨r, hr, hedge⟩ := (hnodeFor hplace hnode).edges.exists_reading e he
    obtain ⟨-, t, ht, c, hc, rfl⟩ := Place.mem_readings_iff.mp hr
    exact ⟨t, ht, c, hc, keeps_of_edgeFor hwindow hedge⟩
  · intro node hnode
    obtain ⟨n, hn, rfl⟩ := Array.getElem_of_mem hnode
    have hplace := Array.getElem?_eq_getElem (h.size_eq ▸ hn)
    exact (hnodeFor hplace (Array.getElem?_eq_getElem hn)).nodup

/-- **Unfoldings are faithful.** Whenever an automaton is small enough to be unfolded, the graph has a
node for each place in the order of discovery, breadth first, and the numbers are those of the first grams
in this order, as many as allowed. The nodes accept as the states of the automaton do, and each step of the
automaton has an edge that keeps as much of what was read as the bounds allow. -/
theorem ofDfa_faithful (hsize : 1 ≤ b.gramSize) (h : ofDfa b dfa = .ok g) :
    ∃ places, BreadthFirst b dfa places ∧
      g.grams.toList = (discoveredGrams b dfa places).take b.maxGrams ∧
      Faithful b dfa places ((discoveredGrams b dfa places).take b.maxGrams) g := by
  obtain ⟨places, hdiscovery⟩ := discovery_of_ofDfa h
  refine ⟨places, hdiscovery.breadthFirst, hdiscovery.grams, ?_⟩
  rw [← hdiscovery.grams]
  exact hdiscovery.faithful hsize

/-- `ab` or `aab`, then a wide transition and a `c`, with room for one gram. -/
theorem ofDfa_faithful_with_one_gram :
    let b : Bounds := { gramSize := 2, maxExpand := 1, maxStatesTraced := 8, maxGrams := 1 }
    let dfa : Dfa := ⟨#[⟨#[⟨97, 97, 1⟩], false⟩, ⟨#[⟨97, 97, 2⟩, ⟨98, 98, 3⟩], false⟩,
      ⟨#[⟨98, 98, 3⟩], false⟩, ⟨#[⟨48, 57, 4⟩], false⟩, ⟨#[⟨99, 99, 5⟩], false⟩, ⟨#[], true⟩]⟩
    let g : GramGraph := ⟨#[⟨[⟨none, 1⟩], false⟩, ⟨[⟨none, 3⟩, ⟨some 0, 2⟩], false⟩,
      ⟨[⟨none, 3⟩], false⟩, ⟨[⟨none, 4⟩], false⟩, ⟨[⟨none, 5⟩], false⟩, ⟨[], true⟩],
      #[['a', 'a']]⟩
    1 ≤ b.gramSize ∧ ofDfa b dfa = .ok g ∧ ∃ places, BreadthFirst b dfa places ∧
      Faithful b dfa places ((discoveredGrams b dfa places).take b.maxGrams) g := by
  intro b dfa g
  have hsize : 1 ≤ b.gramSize := by decide
  have h : ofDfa b dfa = .ok g := by cbv
  obtain ⟨places, hfirst, -, hfaithful⟩ := ofDfa_faithful hsize h
  exact ⟨hsize, h, places, hfirst, hfaithful⟩

end GramGraph

end GramSieve.Gram
