import GramSieve.Proofs.Gram.Literal
import GramSieve.Proofs.Gram.PathRequirement
import GramSieve.Proofs.Gram.TraceBound

namespace GramSieve.Gram

/-!
# Room for more grams

* `GramGraph.BreadthFirst.unique` — the places are found in one order only, however many grams are kept.
* `GramGraph.Forgets` — a graph has the nodes and edges of another one, but carries fewer grams.
* `GramGraph.Forgets.leads` — so what leads to an accepting place in the other graph does so in it.
* `GramGraph.Discovery.forgets` — which is the case for graphs with room for fewer grams.
* `requiredGrams_weakens` — with room for more grams, more is required.
-/

open Automaton Formula

namespace GramGraph

variable {b : Bounds} {dfa : Dfa} {places places' : Array Place} {g g' : GramGraph}

/-! ### The order of the places -/

/-- The start, and what is new among what is read at the first places. -/
def foundFrom (b : Bounds) (dfa : Dfa) (first : List Place) : List Place :=
  (⟨Dfa.start, []⟩ :: (readingsOf b dfa first).map (·.place)).eraseDups

/-- What is read from one of the first places is found from them. -/
theorem mem_foundFrom {first : List Place} {before : Place} {r : Reading} (hbefore : before ∈ first)
    (hr : r ∈ before.readings b dfa) : r.place ∈ foundFrom b dfa first :=
  List.mem_eraseDups.mpr (.tail _ (List.mem_map_of_mem (List.mem_flatMap.mpr ⟨before, hbefore, hr⟩)))

/-- What is found from the first places comes first in the order. -/
theorem BreadthFirst.getElem?_of_foundFrom (h : BreadthFirst b dfa places) {n i : Nat} {place : Place}
    (hplace : (foundFrom b dfa (places.toList.take n))[i]? = some place) : places[i]? = some place := by
  have hsplit : readingsOf b dfa places.toList =
      readingsOf b dfa (places.toList.take n) ++ readingsOf b dfa (places.toList.drop n) := by
    rw [readingsOf, readingsOf, readingsOf, ← List.flatMap_append, List.take_append_drop]
  rw [← Array.getElem?_toList, h.found, hsplit, List.map_append, ← List.cons_append]
  exact (getElem?_eraseDups_append (List.mem_eraseDups.mp (List.mem_of_getElem? hplace))).mpr hplace

/-- If the places are the same so far, the next one is. -/
theorem BreadthFirst.next_eq (h : BreadthFirst b dfa places) (h' : BreadthFirst b dfa places') {n : Nat}
    (hsame : ∀ m < n, places[m]? = places'[m]?) {place : Place} (hplace : places[n]? = some place) :
    places'[n]? = some place := by
  cases n with
  | zero => rw [h'.start, ← h.start, hplace]
  | succ n =>
    obtain ⟨m, hm, before, hbefore, r, hr, rfl⟩ := h.earlier n place hplace
    have htake : places.toList.take (n + 1) = places'.toList.take (n + 1) := by
      refine List.ext_getElem? fun i => ?_
      rw [List.getElem?_take, List.getElem?_take]
      split
      · rename_i hi
        rw [Array.getElem?_toList, Array.getElem?_toList, hsame i hi]
      · rfl
    have hmem : before ∈ places.toList.take (n + 1) := by
      refine List.mem_of_getElem? (i := m) ?_
      rw [List.getElem?_take_of_lt (Nat.lt_succ_of_le hm), Array.getElem?_toList, hbefore]
    -- The next place is found from the places so far, in both orders.
    obtain ⟨i, hi⟩ := List.mem_iff_getElem?.mp (mem_foundFrom hmem hr)
    have hfirst := h.getElem?_of_foundFrom hi
    rw [htake] at hi
    rw [eq_of_getElem?_eq_some h.nodup hfirst hplace] at hi
    exact h'.getElem?_of_foundFrom hi

/-- There is only one order. -/
theorem BreadthFirst.unique (h : BreadthFirst b dfa places) (h' : BreadthFirst b dfa places') :
    places = places' := by
  refine Array.ext_getElem? fun n => ?_
  induction n using Nat.strong_induction_on with
  | h n ih =>
    exact Option.ext fun place => ⟨h.next_eq h' ih, h'.next_eq h fun m hm => (ih m hm).symm⟩

/-! ### Graphs with fewer grams -/

/-- The graph has the nodes and edges of the other one, but an edge may carry no gram where that of the
other one does. -/
structure Forgets (g g' : GramGraph) : Prop where
  node : ∀ (n : Nat) node', g'.nodes[n]? = some node' → ∃ node, g.nodes[n]? = some node ∧
    node.accepting = node'.accepting ∧ ∀ e' ∈ node'.edges, ∃ e ∈ node.edges, e.target = e'.target ∧
      ∀ gram, g.gram? e = some gram → g'.gram? e' = some gram

/-- A path has a path next to it through the same places. -/
theorem Forgets.exists_path (h : Forgets g g') {n m : Nat} {steps' : List (Nat × GramEdge)}
    (hpath : g'.Path n steps' m) : ∃ steps, g.Path n steps m ∧ ∀ step ∈ steps, ∃ step' ∈ steps',
      step'.1 = step.1 ∧ step'.2.target = step.2.target ∧
        ∀ gram, g.gram? step.2 = some gram → g'.gram? step'.2 = some gram := by
  induction hpath with
  | nil => exact ⟨[], .nil, nofun⟩
  | cons hnode he _ ih =>
    obtain ⟨node, hnode, -, hedges⟩ := h.node _ _ hnode
    obtain ⟨e, he, htarget, hgram⟩ := hedges _ he
    obtain ⟨steps, hpath, hsteps⟩ := ih
    refine ⟨_, .cons hnode he (htarget ▸ hpath), List.forall_mem_cons.mpr ⟨?_, fun step hstep => ?_⟩⟩
    · exact ⟨_, .head _, rfl, htarget.symm, hgram⟩
    · obtain ⟨step', hstep', hsame⟩ := hsteps step hstep
      exact ⟨step', .tail _ hstep', hsame⟩

/-- Forgetting grams keeps what is connected. -/
theorem Forgets.connected (h : Forgets g g') {n m : Nat} (hconnected : g'.Connected n m) :
    g.Connected n m := by
  obtain ⟨⟨_, hforth⟩, _, hback⟩ := hconnected
  obtain ⟨steps, hforth, -⟩ := h.exists_path hforth
  obtain ⟨back, hback, -⟩ := h.exists_path hback
  exact ⟨⟨steps, hforth⟩, back, hback⟩

/-- Where less is carried, less is required. -/
theorem Forgets.leads {analyzer : Analyzer} {truth : String → Bool} (h : Forgets g g') {n : Nat}
    (hleads : g'.Leads analyzer truth n) : g.Leads analyzer truth n := by
  obtain ⟨steps', m, node', hpath, hnode', haccepting, hholds⟩ := hleads
  obtain ⟨node, hnode, hsame, -⟩ := h.node m node' hnode'
  obtain ⟨steps, hpath, hsteps⟩ := h.exists_path hpath
  refine ⟨steps, m, node, hpath, hnode, hsame.trans haccepting, fun step hstep hnot gram hgram => ?_⟩
  obtain ⟨step', hstep', hsource, htarget, hcarries⟩ := hsteps step hstep
  refine hholds step' hstep' ?_ gram (hcarries gram hgram)
  rw [hsource, htarget]
  exact fun hconnected => hnot (h.connected hconnected)

/-- With room for more grams, the graph is the same but for the grams that are carried. -/
theorem Discovery.forgets {k k' : Nat} (hle : k ≤ k')
    (h : Discovery { b with maxGrams := k } dfa places g)
    (h' : Discovery { b with maxGrams := k' } dfa places' g') : Forgets g g' := by
  have hfirst : BreadthFirst b dfa places := ⟨h.breadthFirst.found, h.breadthFirst.earlier⟩
  obtain rfl := hfirst.unique ⟨h'.breadthFirst.found, h'.breadthFirst.earlier⟩
  have hgrams : ∀ gram ∈ g.grams, gram ∈ g'.grams := by
    intro gram hgram
    rw [← Array.mem_toList_iff, h.grams] at hgram
    rw [← Array.mem_toList_iff, h'.grams]
    exact (List.take_prefix_take_left hle).subset hgram
  refine ⟨fun n node' hnode' => ?_⟩
  have hlt : n < places.size := h'.size_eq ▸ (Array.getElem?_eq_some_iff.mp hnode').1
  have hplace := Array.getElem?_eq_getElem hlt
  obtain ⟨node, hnode, hfor⟩ := h.node n _ hplace
  obtain ⟨same, hsame, hfor'⟩ := h'.node n _ hplace
  obtain rfl := Option.some.inj (hnode'.symm.trans hsame)
  refine ⟨node, hnode, hfor.accepting.trans hfor'.accepting.symm, fun e' he' => ?_⟩
  -- The reading behind an edge has an edge in the other graph as well, to the same place.
  obtain ⟨r, hr, hedge'⟩ := hfor'.edges.exists_reading e' he'
  obtain ⟨e, he, hedge⟩ := hfor.edges.exists_edge r hr
  refine ⟨e, he, eq_of_getElem?_eq_some hfirst.nodup hedge.target hedge'.target, fun gram hgram => ?_⟩
  obtain ⟨hread, hmem⟩ := (gram?_of_edgeFor hedge).mp hgram
  exact (gram?_of_edgeFor hedge').mpr ⟨hread, hgrams gram hmem⟩

/-- Whether there is a graph does not depend on the room for grams. -/
theorem exists_ofDfa_with {k : Nat} (k' : Nat) (hsize : 1 ≤ b.gramSize)
    (h : ofDfa { b with maxGrams := k } dfa = .ok g) :
    ∃ g', ofDfa { b with maxGrams := k' } dfa = .ok g' := by
  obtain ⟨g, hnodes, hg⟩ := exists_eq_ofDfa (b := { b with maxGrams := k }) hsize dfa
  obtain ⟨g', hnodes', hg'⟩ := exists_eq_ofDfa (b := { b with maxGrams := k' }) hsize dfa
  -- Both have a node for each place that is reached, and the rule does not know of grams.
  rw [setOf_traced_with] at hnodes hnodes'
  have hsame : g.nodes.size = g'.nodes.size := Nat.cast_inj.mp (hnodes.symm.trans hnodes')
  have heq := hg b.maxStatesTraced
  refine ⟨g', (hg' b.maxStatesTraced).trans (if_neg fun hlt => ?_)⟩
  rw [hsame, if_pos hlt, h] at heq
  cases heq

end GramGraph

variable {b : Bounds} {analyzer : Analyzer} {dfa : Dfa} {k k' : Nat}

/-- Whether there is a formula does not depend on how many grams are kept. -/
theorem exists_requiredGrams_with {f : Formula String}
    (h : requiredGrams { b with maxGrams := k } analyzer dfa = .ok f) :
    ∃ f', requiredGrams { b with maxGrams := k' } analyzer dfa = .ok f' := by
  by_cases hnone : b.maxStatesTraced = 0 ∨ b.gramSize = 0
  · exact ⟨_, if_pos hnone⟩
  · obtain ⟨g, hg, -⟩ := exists_graph_of_requiredGrams (b := { b with maxGrams := k }) hnone h
    obtain ⟨g', hg'⟩ := GramGraph.exists_ofDfa_with k' (by omega) hg
    refine ⟨g'.requirement analyzer, ?_⟩
    rw [requiredGrams, if_neg hnone, hg']
    rfl

/-- With more grams kept, the formula requires no less. -/
theorem holds_requiredGrams_of_le {f f' : Formula String} {truth : String → Bool} (hle : k ≤ k')
    (h : requiredGrams { b with maxGrams := k } analyzer dfa = .ok f)
    (h' : requiredGrams { b with maxGrams := k' } analyzer dfa = .ok f') (hholds : Holds truth f') :
    Holds truth f := by
  by_cases hnone : b.maxStatesTraced = 0 ∨ b.gramSize = 0
  · rw [requiredGrams, if_pos hnone] at h
    cases h
    exact (holds_const true).mpr rfl
  · obtain ⟨g, hg, rfl⟩ := exists_graph_of_requiredGrams (b := { b with maxGrams := k }) hnone h
    obtain ⟨g', hg', rfl⟩ := exists_graph_of_requiredGrams (b := { b with maxGrams := k' }) hnone h'
    obtain ⟨places, hdiscovery⟩ := GramGraph.discovery_of_ofDfa hg
    obtain ⟨places', hdiscovery'⟩ := GramGraph.discovery_of_ofDfa hg'
    rw [GramGraph.holds_requirement hdiscovery'.unfolds.pos hdiscovery'.unfolds.target_lt] at hholds
    rw [GramGraph.holds_requirement hdiscovery.unfolds.pos hdiscovery.unfolds.target_lt]
    exact (hdiscovery.forgets hle hdiscovery').leads hholds

/-- The same holds of the formula for a literal, which is a formula for its automaton. -/
theorem holds_literalRequirement_of_le {literal : String} {truth : String → Bool} (hle : k ≤ k')
    (hholds : Holds truth (literalRequirement { b with maxGrams := k' } analyzer literal)) :
    Holds truth (literalRequirement { b with maxGrams := k } analyzer literal) := by
  rw [literalRequirement, takeDistinct_eq, holds_composite] at hholds ⊢
  rw [Connective.joins_map] at hholds ⊢
  exact fun t ht => hholds t ((List.take_prefix_take_left hle).subset ht)

/-- **Room for more grams never weakens what is required.** Whether there is a formula does not depend
on how many grams are allowed. The formula with more of them only holds where that with fewer does, and so
it is for literals. -/
theorem requiredGrams_weakens (b : Bounds) (analyzer : Analyzer) (dfa : Dfa) (hle : k ≤ k') :
    ((∃ f, requiredGrams { b with maxGrams := k } analyzer dfa = .ok f) ↔
      ∃ f', requiredGrams { b with maxGrams := k' } analyzer dfa = .ok f') ∧
    (∀ f f', requiredGrams { b with maxGrams := k } analyzer dfa = .ok f →
      requiredGrams { b with maxGrams := k' } analyzer dfa = .ok f' →
        ∀ truth, f'.evaluate truth = true → f.evaluate truth = true) ∧
    ∀ literal truth,
      (literalRequirement { b with maxGrams := k' } analyzer literal).evaluate truth = true →
        (literalRequirement { b with maxGrams := k } analyzer literal).evaluate truth = true := by
  refine ⟨⟨?_, ?_⟩, ?_, ?_⟩
  · rintro ⟨f, hf⟩
    exact exists_requiredGrams_with hf
  · rintro ⟨f', hf'⟩
    exact exists_requiredGrams_with hf'
  · intro f f' hf hf' truth hholds
    rw [evaluate_iff] at hholds ⊢
    exact holds_requiredGrams_of_le hle hf hf' hholds
  · intro literal truth hholds
    rw [evaluate_iff] at hholds ⊢
    exact holds_literalRequirement_of_le hle hholds

/-- The text `abc`, with room for `ab` only and with room for `bc` as well. -/
theorem requiredGrams_weakens_to_one :
    let b : Bounds := { gramSize := 2 }
    let analyzer : Analyzer := fun t => [t]
    let dfa : Dfa := ⟨#[⟨#[⟨97, 97, 1⟩], false⟩, ⟨#[⟨98, 98, 2⟩], false⟩, ⟨#[⟨99, 99, 3⟩], false⟩,
      ⟨#[], true⟩]⟩
    let g : GramGraph := ⟨#[⟨[⟨none, 1⟩], false⟩, ⟨[⟨some 0, 2⟩], false⟩, ⟨[⟨none, 3⟩], false⟩,
      ⟨[], true⟩], #[['a', 'b']]⟩
    let g' : GramGraph := ⟨#[⟨[⟨none, 1⟩], false⟩, ⟨[⟨some 0, 2⟩], false⟩, ⟨[⟨some 1, 3⟩], false⟩,
      ⟨[], true⟩], #[['a', 'b'], ['b', 'c']]⟩
    1 ≤ 2 ∧ requiredGrams { b with maxGrams := 1 } analyzer dfa = .ok (g.requirement analyzer) ∧
      requiredGrams { b with maxGrams := 2 } analyzer dfa = .ok (g'.requirement analyzer) ∧
        ∀ truth, (g'.requirement analyzer).evaluate truth = true →
          (g.requirement analyzer).evaluate truth = true := by
  intro b analyzer dfa g g'
  have hle : 1 ≤ 2 := by decide
  -- With one gram kept, the edge that completes `bc` carries none.
  have hg : GramGraph.ofDfa { b with maxGrams := 1 } dfa = .ok g := by cbv
  have hg' : GramGraph.ofDfa { b with maxGrams := 2 } dfa = .ok g' := by cbv
  have hf : requiredGrams { b with maxGrams := 1 } analyzer dfa = .ok (g.requirement analyzer) := by
    rw [requiredGrams, if_neg (by decide), hg]
    rfl
  have hf' : requiredGrams { b with maxGrams := 2 } analyzer dfa = .ok (g'.requirement analyzer) := by
    rw [requiredGrams, if_neg (by decide), hg']
    rfl
  obtain ⟨-, hweakens, -⟩ := requiredGrams_weakens b analyzer dfa hle
  exact ⟨hle, hf, hf', hweakens _ _ hf hf'⟩

end GramSieve.Gram
