import GramSieve.Gram.Requirement
import GramSieve.Proofs.Formula.Truth
import GramSieve.Proofs.Gram.Components
import Mathlib

namespace GramSieve.Gram

/-!
# The requirements of the places of a graph

* `holds_gramFormula` — the formula of a gram.
* `GramGraph.KnownOf` — what is known after some components were found.
* `GramGraph.KnownOf.number_iff` — the number of a component tells its places from all others.
* `GramGraph.KnownOf.holds_componentRequirement` — the formula of a component, by its exits, all of which
  lead to places whose requirement is known.
* `GramGraph.requirement_induct` — induction over the components: what holds of the requirement of each
  component holds of the requirement of the first place.
* `exists_graph_of_requiredGrams` — the formula of an automaton is the requirement of its graph.
-/

open Automaton Formula

variable {analyzer : Analyzer} {truth : String → Bool}

/-- The formula of a gram holds if all its terms are there. -/
theorem holds_gramFormula (gram : List Char) :
    Holds truth (gramFormula analyzer gram) ↔
      ∀ t ∈ analyzer (String.ofList gram), truth t = true := by
  unfold gramFormula
  split
  · rename_i heq
    rw [heq]
    exact iff_of_true ((holds_const true).mpr rfl) nofun
  · rename_i single heq
    rw [heq, holds_leaf, List.forall_mem_singleton]
  · rw [holds_composite]
    exact List.forall_mem_map.trans (forall₂_congr fun t _ => holds_leaf t)

@[simp] theorem Known.formulas_number (known : Known) (index : Nat) (component : List Nat) :
    (known.number index component).formulas = known.formulas := rfl

namespace GramGraph

variable {g : GramGraph} {grams : Array (Formula String)}

/-! ### One component -/

/-- The gram that an edge carries. -/
def gram? (g : GramGraph) (e : GramEdge) : Option (List Char) := e.gram.bind (g.grams[·]?)

/-- The formula of an edge is that of its gram. -/
theorem bind_gramFormula (e : GramEdge) :
    (e.gram.bind fun n => (g.grams.map (gramFormula analyzer))[n]?) =
      (g.gram? e).map (gramFormula analyzer) := by
  simp only [gram?, Array.getElem?_map, Option.map_bind]
  rfl

/-- An edge requires the terms of its gram, and nothing if it has no gram. -/
theorem holds_edge (e : GramEdge) :
    Holds truth ((e.gram.bind fun n => (g.grams.map (gramFormula analyzer))[n]?).getD (.const true)) ↔
      ∀ gram, g.gram? e = some gram → ∀ t ∈ analyzer (String.ofList gram), truth t = true := by
  rw [bind_gramFormula]
  cases g.gram? e with
  | none => exact iff_of_true ((holds_const true).mpr rfl) nofun
  | some gram =>
    rw [Option.map_some, Option.getD_some, holds_gramFormula]
    exact ⟨fun h _ heq => Option.some.inj heq ▸ h, fun h => h gram rfl⟩

/-- An exit of a component is an edge of one of its places to a place that is not numbered as its own. -/
theorem mem_exits {known : Known} {index : Nat} {nodes : List GramNode} {e : GramEdge} :
    e ∈ exits known index nodes ↔
      ∃ node ∈ nodes, e ∈ node.edges ∧ known.numbers.getD e.target none ≠ some index := by
  unfold exits
  simp only [List.mem_flatMap, List.mem_filter, decide_eq_true_eq]

/-- The requirement of a component holds if a text may end in it, or if one of its exits leads to
a place whose requirement holds, or is not known. -/
theorem holds_componentRequirement {known : Known} {index : Nat} {component : List Nat} :
    Holds truth (g.componentRequirement grams known index component) ↔
      ∃ n ∈ component, ∃ node, g.nodes[n]? = some node ∧ (node.accepting = true ∨
        ∃ e ∈ node.edges, (known.number index component).numbers.getD e.target none ≠ some index ∧
          Holds truth ((e.gram.bind fun n => grams[n]?).getD (.const true)) ∧
          Holds truth ((known.formulas.getD e.target none).getD (.const true))) := by
  have hnodes {node : GramNode} :
      node ∈ component.filterMap (g.nodes[·]?) ↔ ∃ n ∈ component, g.nodes[n]? = some node :=
    List.mem_filterMap
  unfold componentRequirement
  simp only
  split
  -- If a place accepts, nothing is required, and there is such a place.
  · rename_i haccepting
    obtain ⟨node, hnode, haccepting⟩ := List.any_eq_true.mp haccepting
    obtain ⟨n, hn, hnode⟩ := hnodes.mp hnode
    exact iff_of_true ((holds_const true).mpr rfl) ⟨n, hn, node, hnode, .inl haccepting⟩
  · rename_i hnone
    -- Otherwise the formula is the choice between all exits.
    rw [holds_composite, Connective.joins_map, Connective.joins_or]
    simp only [holds_composite, Connective.joins_and_pair]
    constructor
    · rintro ⟨e, he, hholds⟩
      obtain ⟨node, hnode, he, hexit⟩ := mem_exits.mp he
      obtain ⟨n, hn, hnode⟩ := hnodes.mp hnode
      exact ⟨n, hn, node, hnode, .inr ⟨e, he, hexit, hholds⟩⟩
    · rintro ⟨n, hn, node, hnode, haccepting | ⟨e, he, hexit, hholds⟩⟩
      · exact absurd (List.any_eq_true.mpr ⟨node, hnodes.mpr ⟨n, hn, hnode⟩, haccepting⟩) hnone
      · exact ⟨e, mem_exits.mpr ⟨node, hnodes.mpr ⟨n, hn, hnode⟩, he, hexit⟩, hholds⟩

/-! ### The graph of the targets -/

/-- The places with their successors. -/
abbrev successors (g : GramGraph) : Successors := Array.ofFn fun v : Fin g.nodes.size => g.targets v

/-- The graph that the components are found in leads from each place to its targets. -/
theorem getD_targets (g : GramGraph) (n : Nat) :
    g.successors.getD n [] = g.targets n := by
  by_cases hn : n < g.nodes.size
  · simp [hn]
  · simp [hn, targets]

/-- The target of an edge is a target of its place. -/
theorem mem_targets {n : Nat} {node : GramNode} (hnode : g.nodes[n]? = some node) {e : GramEdge}
    (he : e ∈ node.edges) : e.target ∈ g.targets n := by
  rw [targets, hnode]
  exact List.mem_map_of_mem he

/-- If every edge leads to a place, the components are found in a proper graph. -/
theorem within_successors (hwithin : ∀ n, ∀ m ∈ g.targets n, m < g.nodes.size) :
    ∀ n, ∀ m ∈ g.successors.getD n [], m < g.successors.size := by
  intro n m hm
  rw [getD_targets] at hm
  rw [Array.size_ofFn]
  exact hwithin n m hm

/-! ### All components -/

/-- What is known after some components were found: a formula with some property for each of their
places. The numbers that were given are those of the components. -/
structure KnownOf (g : GramGraph) (P : Nat → Formula String → Prop) (found : List (List Nat))
    (known : Known) : Prop where
  size_numbers : known.numbers.size = g.nodes.size
  size_formulas : known.formulas.size = g.nodes.size
  number_lt : ∀ n i, known.numbers.getD n none = some i → i < found.length
  of_mem : ∀ n ∈ found.flatten, n < g.nodes.size → ∃ f, known.formulas.getD n none = some f ∧ P n f

variable {P : Nat → Formula String → Prop} {component : List Nat} {found : List (List Nat)}
  {known : Known}

/-- Setting values for a component adds no places. -/
theorem size_setAll {β : Type} (component : List Nat) (value : β) (values : Array (Option β)) :
    (Known.setAll component value values).size = values.size := by
  unfold Known.setAll
  induction component generalizing values with
  | nil => rfl
  | cons n component ih => rw [List.foldl_cons, ih, Array.size_setIfInBounds]

/-- Each place of the component has the value from then on, and all others have what they had. -/
theorem getD_setAll {β : Type} (component : List Nat) (value : β) (values : Array (Option β))
    (n : Nat) : (Known.setAll component value values).getD n none =
      if n ∈ component ∧ n < values.size then some value else values.getD n none := by
  unfold Known.setAll
  induction component generalizing values with
  | nil => simp
  | cons m component ih =>
    rw [List.foldl_cons, ih, Array.size_setIfInBounds]
    simp only [Array.getD_eq_getD_getElem?, Array.getElem?_setIfInBounds]
    grind

/-- At the start nothing is known, and nothing was found. -/
theorem knownOf_start (g : GramGraph) (P : Nat → Formula String → Prop) :
    KnownOf g P [] (.start g.nodes.size) where
  size_numbers := Array.size_replicate
  size_formulas := Array.size_replicate
  number_lt n i hi := by
    by_cases hn : n < g.nodes.size <;> simp [Known.start, hn] at hi
  of_mem := nofun

/-- The next component is the one with the next number. -/
theorem KnownOf.number_iff (h : KnownOf g P found known) {m : Nat} (hm : m < g.nodes.size) :
    (known.number found.length component).numbers.getD m none = some found.length ↔ m ∈ component := by
  show (Known.setAll component found.length known.numbers).getD m none = _ ↔ _
  rw [getD_setAll, h.size_numbers]
  by_cases hmem : m ∈ component
  · exact iff_of_true (if_pos ⟨hmem, hm⟩) hmem
  · rw [if_neg fun h => hmem h.1]
    exact iff_of_false (fun heq => Nat.lt_irrefl _ (h.number_lt m _ heq)) hmem

/-- One more component is known. -/
theorem KnownOf.add {f : Formula String} (h : KnownOf g P found known) (hf : ∀ n ∈ component, P n f) :
    KnownOf g P (component :: found) ((known.number found.length component).require f component) where
  size_numbers := (size_setAll component found.length known.numbers).trans h.size_numbers
  size_formulas := (size_setAll component f known.formulas).trans h.size_formulas
  number_lt n i hi := by
    have hi : (Known.setAll component found.length known.numbers).getD n none = some i := hi
    rw [getD_setAll] at hi
    split at hi
    · cases hi
      exact Nat.lt_succ_self _
    · exact Nat.lt_succ_of_lt (h.number_lt n i hi)
  of_mem n hn hlt := by
    show ∃ f', (Known.setAll component f known.formulas).getD n none = some f' ∧ P n f'
    rw [getD_setAll, h.size_formulas]
    -- A place of the new component has its formula; one of an earlier component keeps what it had.
    by_cases hmem : n ∈ component
    · exact ⟨f, if_pos ⟨hmem, hlt⟩, hf n hmem⟩
    · rw [if_neg fun h => hmem h.1]
      exact h.of_mem n ((List.mem_append.mp hn).resolve_left hmem) hlt

/-- An edge of a component stays in it, or it leads to a place of which something is known. -/
theorem KnownOf.target (hwithin : ∀ n, ∀ m ∈ g.targets n, m < g.nodes.size)
    (h : KnownOf g P found known) (hsettled : Settled g.successors (component :: found)) {n m : Nat}
    (hn : n ∈ component) (hm : m ∈ g.targets n) :
    m ∈ component ∨ m ∈ found.flatten ∧ ∃ f, known.formulas.getD m none = some f ∧ P m f := by
  cases hsettled with
  | cons _ hedges =>
    obtain ⟨c, hc, hmem⟩ := hedges n hn m (by rwa [getD_targets])
    obtain _ | ⟨_, hc⟩ := hc
    · exact .inl hmem
    · have hmem := List.mem_flatten.mpr ⟨c, hc, hmem⟩
      exact .inr ⟨hmem, h.of_mem m hmem (hwithin n m hm)⟩

/-- The requirement of the next component holds if a text may end in it, or if one of its edges leads out
of it to a place whose requirement holds. That is always known, since the components that an exit can
lead to come first. -/
theorem KnownOf.holds_componentRequirement (hwithin : ∀ n, ∀ m ∈ g.targets n, m < g.nodes.size)
    (h : KnownOf g P found known) (hsettled : Settled g.successors (component :: found)) :
    Holds truth (g.componentRequirement grams known found.length component) ↔
      ∃ n ∈ component, ∃ node, g.nodes[n]? = some node ∧ (node.accepting = true ∨
        ∃ e ∈ node.edges, e.target ∉ component ∧
          Holds truth ((e.gram.bind fun n => grams[n]?).getD (.const true)) ∧
          ∃ f, known.formulas.getD e.target none = some f ∧ P e.target f ∧ Holds truth f) := by
  rw [GramGraph.holds_componentRequirement]
  refine exists_congr fun n => and_congr_right fun hn => exists_congr fun node =>
    and_congr_right fun hnode => or_congr_right (exists_congr fun e => and_congr_right fun he => ?_)
  have htarget := mem_targets hnode he
  rw [ne_eq, h.number_iff (hwithin n _ htarget)]
  refine and_congr_right fun hexit => and_congr_right fun _ => ?_
  -- The place behind an exit was found before, so its requirement is known.
  obtain ⟨-, f, hf, hP⟩ := (h.target hwithin hsettled hn htarget).resolve_left hexit
  rw [hf, Option.getD_some]
  exact ⟨fun hholds => ⟨f, rfl, hP, hholds⟩, fun ⟨_, heq, _, hholds⟩ => Option.some.inj heq ▸ hholds⟩

/-- What is known in the end, if the requirement of each component has the property for the places of
the component. -/
theorem knownOf_requirements (hwithin : ∀ n, ∀ m ∈ g.targets n, m < g.nodes.size)
    (hstep : ∀ component found known, Settled g.successors (component :: found) →
      StronglyConnected g.successors (component :: found) → KnownOf g P found known →
      ∀ n ∈ component, P n (g.componentRequirement grams known found.length component)) :
    KnownOf g P (components g.successors).reverse (g.requirements grams) := by
  have hsettled := components_settled (within_successors hwithin)
  have hstrong := components_stronglyConnected (within_successors hwithin)
  unfold requirements
  -- The loop goes through the components in the order in which they settle.
  generalize components g.successors = order at hsettled hstrong
  induction order using List.reverseRecOn with
  | nil => exact knownOf_start g P
  | append_singleton order component ih =>
    rw [List.reverse_append, List.reverse_singleton, List.singleton_append] at hsettled hstrong ⊢
    have hknown := ih hsettled.of_cons hstrong.of_cons
    have hadd := hknown.add (hstep _ _ _ hsettled hstrong hknown)
    rw [List.zipIdx_append, List.foldl_append]
    rw [List.length_reverse] at hadd
    simpa [GramGraph.require] using hadd

/-- Induction over the components. -/
theorem requirement_induct (hne : 0 < g.nodes.size)
    (hwithin : ∀ n, ∀ m ∈ g.targets n, m < g.nodes.size)
    (hstep : ∀ component found known, Settled g.successors (component :: found) →
      StronglyConnected g.successors (component :: found) → KnownOf g P found known →
      ∀ n ∈ component,
        P n (g.componentRequirement (g.grams.map (gramFormula analyzer)) known found.length component)) :
    P 0 (g.requirement analyzer) := by
  have hknown := knownOf_requirements hwithin hstep
  obtain ⟨component, hcomponent, hmem⟩ :=
    exists_mem_components (within_successors hwithin) (by rwa [Array.size_ofFn])
  obtain ⟨f, hf, hP⟩ := hknown.of_mem 0
    (List.mem_flatten.mpr ⟨component, List.mem_reverse.mpr hcomponent, hmem⟩) hne
  rwa [requirement, hf]

end GramGraph

/-- If a walk is asked for, there is only a formula where there was room for the graph. -/
theorem exists_graph_of_requiredGrams {b : Bounds} {dfa : Automaton.Dfa} {f : Formula String}
    (hwalk : ¬(b.maxStatesTraced = 0 ∨ b.gramSize = 0)) (h : requiredGrams b analyzer dfa = .ok f) :
    ∃ g, GramGraph.ofDfa b dfa = .ok g ∧ g.requirement analyzer = f := by
  rw [requiredGrams, if_neg hwalk] at h
  cases hg : GramGraph.ofDfa b dfa with
  | error e =>
    rw [hg] at h
    cases h
  | ok g =>
    rw [hg] at h
    cases h
    exact ⟨g, rfl, rfl⟩

end GramSieve.Gram
