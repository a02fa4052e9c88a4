import GramSieve.Proofs.Automaton.Literal
import GramSieve.Proofs.Gram.Faithfulness
import GramSieve.Proofs.Gram.Requirement
import GramSieve.Proofs.Gram.Windows

namespace GramSieve.Gram

/-!
# Unfolding an automaton that spells a text

* `Place.readings_of_spells` — one character is read at each place, until the automaton accepts.
* `windows_read` — reading a character moves the window on.
* `GramGraph.Spelling`, `Spelling.next` — the places stand in the order of the text.
* `GramGraph.Spelling.discoveredGrams_eq` — so the grams are discovered in the order of the text.
* `GramGraph.Spelled`, `GramGraph.Spelling.exists_spelled` — the graph is a line of nodes whose edges carry
  the grams of the text that are kept.
-/

open Automaton

variable {b : Bounds} {dfa : Dfa} {place : Place} {c : Char} {text rest : List Char}

/-! ### Reading the characters of a text -/

/-- At the end of the text there is nothing more to read. -/
theorem Place.readings_of_spells_nil (h : dfa.Spells place.state []) : place.readings b dfa = [] := by
  cases h with
  | done haccept => exact if_pos haccept

/-- One character is read at a place where some text is still to come. -/
theorem Place.readings_of_spells (hexpand : 1 ≤ b.maxExpand) (h : dfa.Spells place.state (c :: rest)) :
    ∃ next, place.readings b dfa = [.ofChar b place.window next c] ∧ dfa.Spells next rest := by
  cases h with
  | @step _ next _ _ hreject htransitions h =>
    refine ⟨next, ?_, h⟩
    have hnarrow : ¬ b.maxExpand < Transition.width ⟨c.toNat, c.toNat, next⟩ := by
      have hwidth : Transition.width ⟨c.toNat, c.toNat, next⟩ = 1 := by simp [Transition.width]
      omega
    unfold readings
    rw [hreject, htransitions]
    simp only [Bool.false_eq_true, if_false, List.flatMap_singleton]
    rw [Reading.ofTransition, if_neg hnarrow, GramGraph.charsOf_single]
    rfl

/-! ### Windows -/

/-- Reading a character gives the next window of a text, if it is complete, and moves on. -/
theorem windows_read (b : Bounds) (window : List Char) (state : Nat) (c : Char) (rest : List Char) :
    windows b.gramSize (window ++ c :: rest) =
      (Reading.ofChar b window state c).gram.toList ++
        windows b.gramSize ((Reading.ofChar b window state c).place.window ++ rest) := by
  rw [List.append_cons]
  unfold Reading.ofChar
  split
  · rename_i hlength
    -- The window and the character are a gram, and what goes on without its first character is the
    -- rest.
    cases hlonger : window ++ [c] with
    | nil => simp at hlonger
    | cons d tail =>
      rw [hlonger] at hlength
      have htake : (d :: (tail ++ rest)).take b.gramSize = d :: tail := by
        rw [← List.cons_append]
        exact List.take_left' hlength
      rw [List.cons_append, windows, htake]
      exact if_neg (by omega)
  · rfl

namespace GramGraph

variable {places : Array Place} {g : GramGraph} {n : Nat} {r : Reading}

/-- A place stands in front of those with larger numbers. -/
theorem drop_eq_cons (hplace : places[n]? = some place) :
    places.toList.drop n = place :: places.toList.drop (n + 1) := by
  obtain ⟨hn, rfl⟩ := Array.getElem?_eq_some_iff.mp hplace
  rw [List.drop_eq_getElem_cons (by simpa using hn), Array.getElem_toList]

theorem filterMap_gram_singleton (r : Reading) : [r].filterMap (·.gram) = r.gram.toList := by
  cases hgram : r.gram with
  | none => simp [hgram]
  | some gram => simp [hgram]

/-! ### The order of the places -/

/-- The places of an automaton that spells a text, in the order of their discovery. -/
structure Spelling (b : Bounds) (dfa : Dfa) (text : List Char) (places : Array Place) : Prop where
  size : 1 ≤ b.gramSize
  expand : 1 ≤ b.maxExpand
  breadthFirst : BreadthFirst b dfa places
  spells : dfa.Spells Dfa.start text

namespace Spelling

variable (h : Spelling b dfa text places)
include h

/-- Every place has some rest of the text ahead. -/
theorem exists_spells (hplace : places[n]? = some place) : ∃ u, dfa.Spells place.state u := by
  refine h.breadthFirst.induct (P := fun place => ∃ u, dfa.Spells place.state u) ⟨text, h.spells⟩ ?_
    hplace
  rintro place ⟨u, hu⟩ r hr
  cases u with
  | nil =>
    rw [Place.readings_of_spells_nil hu] at hr
    cases hr
  | cons c u =>
    obtain ⟨next, hreadings, hnext⟩ := Place.readings_of_spells h.expand hu
    rw [hreadings] at hr
    obtain rfl := List.mem_singleton.mp hr
    rw [Reading.state_ofChar]
    exact ⟨u, hnext⟩

/-- At most one thing is read at a place. -/
theorem readings_unique {r' : Reading} (hplace : places[n]? = some place)
    (hr : r ∈ place.readings b dfa) (hr' : r' ∈ place.readings b dfa) : r = r' := by
  obtain ⟨u, hu⟩ := h.exists_spells hplace
  cases u with
  | nil =>
    rw [Place.readings_of_spells_nil hu] at hr
    cases hr
  | cons c u =>
    obtain ⟨next, hreadings, -⟩ := Place.readings_of_spells h.expand hu
    rw [hreadings] at hr hr'
    rw [List.mem_singleton.mp hr, List.mem_singleton.mp hr']

/-- A place was read at the one before it. -/
theorem read_before (hplace : places[n + 1]? = some place) :
    ∃ before, places[n]? = some before ∧ ∃ r ∈ before.readings b dfa, r.place = place := by
  induction n using Nat.strong_induction_on generalizing place with
  | h n ih =>
    obtain ⟨m, hm, before, hbefore, r, hr, rfl⟩ := h.breadthFirst.earlier n place hplace
    rcases Nat.eq_or_lt_of_le hm with rfl | hlt
    · exact ⟨before, hbefore, r, hr, rfl⟩
    · -- What is read at an earlier place comes right behind it, and no place is there twice.
      have hsize := (Array.getElem?_eq_some_iff.mp hplace).1
      have hnext := Array.getElem?_eq_getElem (show m + 1 < places.size by omega)
      obtain ⟨before', hbefore', r', hr', hread⟩ := ih m hlt hnext
      obtain rfl := Option.some.inj (hbefore.symm.trans hbefore')
      obtain rfl := h.readings_unique hbefore hr hr'
      rw [← hread] at hnext
      have heq := eq_of_getElem?_eq_some h.breadthFirst.nodup hplace hnext
      omega

/-- The places stand in the order of the text. -/
theorem exists_spells_length (hplace : places[n]? = some place) :
    ∃ u, dfa.Spells place.state u ∧ u.length + n = text.length := by
  induction n generalizing place with
  | zero =>
    rw [h.breadthFirst.start] at hplace
    cases hplace
    exact ⟨text, h.spells, rfl⟩
  | succ n ih =>
    -- The place before has one character more ahead, and reads it.
    obtain ⟨before, hbefore, r, hr, rfl⟩ := h.read_before hplace
    obtain ⟨u, hu, hlength⟩ := ih hbefore
    cases u with
    | nil =>
      rw [Place.readings_of_spells_nil hu] at hr
      cases hr
    | cons c u =>
      obtain ⟨next, hreadings, hnext⟩ := Place.readings_of_spells h.expand hu
      rw [hreadings] at hr
      obtain rfl := List.mem_singleton.mp hr
      rw [Reading.state_ofChar]
      rw [List.length_cons] at hlength
      exact ⟨u, hnext, by omega⟩

/-- What is read at a place comes right behind it. -/
theorem next (hplace : places[n]? = some place) (hr : r ∈ place.readings b dfa) :
    places[n + 1]? = some r.place := by
  have hmem : r.place ∈ places.toList := by
    rw [h.breadthFirst.found, List.mem_eraseDups]
    refine .tail _ (List.mem_map_of_mem (List.mem_flatMap.mpr ⟨place, ?_, hr⟩))
    exact Array.mem_toList_iff.mpr (Array.mem_of_getElem? hplace)
  obtain ⟨m, hm⟩ := List.mem_iff_getElem?.mp hmem
  rw [Array.getElem?_toList] at hm
  obtain ⟨u, hu, hlength⟩ := h.exists_spells_length hplace
  obtain ⟨v, hv, hlength'⟩ := h.exists_spells_length hm
  -- It spells the text but for one more character, and so its number is one more.
  cases u with
  | nil =>
    rw [Place.readings_of_spells_nil hu] at hr
    cases hr
  | cons c u =>
    obtain ⟨next, hreadings, hnext⟩ := Place.readings_of_spells h.expand hu
    rw [hreadings] at hr
    obtain rfl := List.mem_singleton.mp hr
    rw [Reading.state_ofChar] at hv
    obtain rfl := hv.unique hnext
    rw [List.length_cons] at hlength
    obtain rfl : m = n + 1 := by omega
    exact hm

/-- From a place on, the grams are read in the order of the text. -/
theorem grams_eq (u : List Char) (hplace : places[n]? = some place)
    (hu : dfa.Spells place.state u) :
    (readingsOf b dfa (places.toList.drop n)).filterMap (·.gram) =
      windows b.gramSize (place.window ++ u) := by
  induction u generalizing n place with
  | nil =>
    -- With nothing left to read there is no place behind this one.
    have hlast : places.toList.drop (n + 1) = [] := by
      rw [List.drop_eq_nil_iff, Array.length_toList]
      by_contra hlt
      have hnext := Array.getElem?_eq_getElem (Nat.lt_of_not_le hlt)
      obtain ⟨before, hbefore, r, hr, -⟩ := h.read_before hnext
      obtain rfl := Option.some.inj (hplace.symm.trans hbefore)
      rw [Place.readings_of_spells_nil hu] at hr
      cases hr
    have hwindow := length_window_lt h.size h.breadthFirst hplace
    rw [drop_eq_cons hplace, hlast, List.append_nil, windows_of_short hwindow, readingsOf,
      List.flatMap_singleton, Place.readings_of_spells_nil hu, List.filterMap_nil]
  | cons c u ih =>
    obtain ⟨next, hreadings, hnext⟩ := Place.readings_of_spells h.expand hu
    have hbehind := h.next hplace (hreadings ▸ List.mem_singleton_self _)
    have hrest := ih hbehind (by rwa [Reading.state_ofChar])
    rw [drop_eq_cons hplace, readingsOf, List.flatMap_cons, List.filterMap_append, hreadings,
      windows_read b place.window next c u, ← hrest, filterMap_gram_singleton]
    rfl

/-- The grams that are discovered on the way are those of the text, in order and without repetitions. -/
theorem discoveredGrams_eq : discoveredGrams b dfa places = (windows b.gramSize text).eraseDups := by
  have hgrams := h.grams_eq text h.breadthFirst.start h.spells
  rw [List.drop_zero, List.nil_append] at hgrams
  rw [discoveredGrams, hgrams]

end Spelling

/-! ### The nodes -/

/-- From a node on the graph is a line: each node has one edge, which carries a gram or none, but for the
last one, which accepts. -/
inductive Spelled (g : GramGraph) : Nat → List (Option (List Char)) → Prop
  | done {n : Nat} {node : GramNode} (hnode : g.nodes[n]? = some node)
      (haccepting : node.accepting = true) (hedges : node.edges = []) : Spelled g n []
  | step {n : Nat} {node : GramNode} {e : GramEdge} {carried : List (Option (List Char))}
      (hnode : g.nodes[n]? = some node) (hreject : node.accepting = false)
      (hedges : node.edges = [e]) (h : Spelled g e.target carried) :
      Spelled g n (g.gram? e :: carried)

/-- What is read from a place on is given by the place. -/
theorem Spelled.unique {us vs : List (Option (List Char))} (hu : g.Spelled n us)
    (hv : g.Spelled n vs) : us = vs := by
  induction hu generalizing vs with
  | done hnode haccepting hedges =>
    cases hv with
    | done => rfl
    | step hnode' hreject =>
      cases hnode.symm.trans hnode'
      cases haccepting.symm.trans hreject
  | step hnode hreject hedges _ ih =>
    cases hv with
    | done hnode' haccepting =>
      cases hnode.symm.trans hnode'
      cases haccepting.symm.trans hreject
    | step hnode' _ hedges' h =>
      cases hnode.symm.trans hnode'
      cases hedges.symm.trans hedges'
      rw [ih h]

/-- An edge for a reading carries the gram that is read, if it is kept. -/
theorem gram?_of_edgeFor {e : GramEdge} (h : EdgeFor places g.grams r e) {gram : List Char} :
    g.gram? e = some gram ↔ r.gram = some gram ∧ gram ∈ g.grams := by
  unfold gram?
  rw [Option.bind_eq_some_iff]
  constructor
  · rintro ⟨n, hn, hget⟩
    obtain ⟨gram', hgram', hget'⟩ := (h.gram n).mp hn
    obtain rfl := Option.some.inj (hget.symm.trans hget')
    exact ⟨hgram', Array.mem_of_getElem? hget⟩
  · rintro ⟨hread, hmem⟩
    obtain ⟨n, hn, rfl⟩ := Array.getElem_of_mem hmem
    have hget := Array.getElem?_eq_getElem hn
    exact ⟨n, (h.gram n).mpr ⟨_, hread, hget⟩, hget⟩

/-- There is no other edge for a reading. -/
theorem EdgeFor.unique {grams : Array (List Char)} {e e' : GramEdge} (hnodup : places.toList.Nodup)
    (h : EdgeFor places grams r e) (h' : EdgeFor places grams r e') : e = e' := by
  have htarget : e.target = e'.target := eq_of_getElem?_eq_some hnodup h.target h'.target
  have hgram : e.gram = e'.gram := by
    ext n
    rw [h.gram, h'.gram]
  cases e
  cases e'
  simp only [GramEdge.mk.injEq]
  exact ⟨hgram, htarget⟩

/-- If one thing is read at a place, its node has one edge. -/
theorem NodeFor.exists_edge {grams : Array (List Char)} {node : GramNode}
    (hnodup : places.toList.Nodup) (h : NodeFor b dfa places grams place node)
    (hreadings : place.readings b dfa = [r]) : ∃ e, node.edges = [e] ∧ EdgeFor places grams r e := by
  obtain ⟨e, he, hedge⟩ := h.edges.exists_edge r (hreadings ▸ List.mem_singleton_self r)
  refine ⟨e, ?_, hedge⟩
  -- All edges belong to the only reading, and no edge is there twice.
  have hsame (e') (he' : e' ∈ node.edges) : e' = e := by
    obtain ⟨r', hr', hedge'⟩ := h.edges.exists_reading e' he'
    rw [hreadings] at hr'
    obtain rfl := List.mem_singleton.mp hr'
    exact hedge'.unique hnodup hedge
  have hedges := h.nodup
  generalize node.edges = edges at he hsame hedges
  cases edges with
  | nil => cases he
  | cons a edges =>
    rw [hsame a (.head _)] at hedges ⊢
    cases edges with
    | nil => rfl
    | cons a' edges =>
      rw [hsame a' (.tail _ (.head _))] at hedges
      exact absurd (List.mem_cons_self) (List.nodup_cons.mp hedges).1

/-- The graph is a line whose edges carry the grams of the text that are kept. -/
theorem Spelling.exists_spelled (h : Spelling b dfa text places) (hg : Discovery b dfa places g)
    (u : List Char) (hplace : places[n]? = some place) (hu : dfa.Spells place.state u) :
    ∃ carried, g.Spelled n carried ∧ ∀ gram, some gram ∈ carried ↔
      gram ∈ windows b.gramSize (place.window ++ u) ∧ gram ∈ g.grams := by
  obtain ⟨node, hnode, hfor⟩ := hg.node n place hplace
  induction u generalizing n place node with
  | nil =>
    have hwindow := length_window_lt h.size h.breadthFirst hplace
    have hedges := hfor.edges
    rw [Place.readings_of_spells_nil hu] at hedges
    cases hu with
    | done haccept =>
      refine ⟨[], .done hnode (hfor.accepting.trans haccept) hedges.eq_nil, fun gram => ?_⟩
      simp [windows_of_short hwindow]
  | cons c u ih =>
    obtain ⟨next, hreadings, hnext⟩ := Place.readings_of_spells h.expand hu
    obtain ⟨e, hedges, hedge⟩ := hfor.exists_edge h.breadthFirst.nodup hreadings
    obtain ⟨node', hnode', hfor'⟩ := hg.node _ _ hedge.target
    -- The edge has the gram that the character completes, and the rest of the path the grams behind
    -- it.
    obtain ⟨carried, hspelled, hcarried⟩ :=
      ih hedge.target (by rwa [Reading.state_ofChar]) node' hnode' hfor'
    have hreject : node.accepting = false := by
      rw [hfor.accepting]
      cases hu with
      | step hreject => exact hreject
    refine ⟨g.gram? e :: carried, .step hnode hreject hedges hspelled, fun gram => ?_⟩
    rw [windows_read b place.window next c u, List.mem_cons, hcarried, eq_comm,
      gram?_of_edgeFor hedge, List.mem_append, Option.mem_toList, or_and_right]

end GramGraph

end GramSieve.Gram
