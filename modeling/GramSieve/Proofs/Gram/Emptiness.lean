import GramSieve.Proofs.Gram.Necessity

namespace GramSieve.Gram

/-!
# Nothing is required of no text

* `GramGraph.not_holds_componentRequirement` — without accepting places no exit of a component leads
  anywhere.
* `GramGraph.not_holds_requirement` — so the first place has a requirement, and it does not hold.
* `not_holds_requiredGrams` — the formula of an automaton that never accepts does not hold.

That the components are gone through from the sinks on matters here. An exit to a place of which nothing
is known yet would require nothing, and the formula would hold.
-/

open Automaton Formula

variable {b : Bounds} {analyzer : Analyzer} {truth : String → Bool} {dfa : Dfa}

namespace GramGraph

variable {g : GramGraph} {grams : Array (Formula String)} {places : Array Place}

/-- An exit asks for what the place behind it requires, so a component without accepting places requires
what does not hold, if that is so for the components found before. -/
theorem not_holds_componentRequirement {component : List Nat} {found : List (List Nat)} {known : Known}
    (hwithin : ∀ n, ∀ m ∈ g.targets n, m < g.nodes.size)
    (hsettled : Settled g.successors (component :: found))
    (hnone : ∀ node ∈ g.nodes, node.accepting = false)
    (hknown : KnownOf g (fun _ f => ¬Holds truth f) found known) :
    ¬Holds truth (g.componentRequirement grams known found.length component) := by
  rw [hknown.holds_componentRequirement hwithin hsettled]
  rintro ⟨n, -, node, hnode, haccepting | ⟨e, -, -, -, f, -, hf, hholds⟩⟩
  · rw [hnone node (Array.mem_of_getElem? hnode)] at haccepting
    cases haccepting
  · exact hf hholds

/-- Without accepting places the requirement of the graph does not hold. -/
theorem not_holds_requirement (hg : Unfolds b dfa places g)
    (hnone : ∀ node ∈ g.nodes, node.accepting = false) :
    ¬Holds truth (g.requirement analyzer) := by
  exact requirement_induct (P := fun _ f => ¬Holds truth f) hg.pos hg.target_lt
    fun _ _ _ hsettled _ hknown _ _ =>
      not_holds_componentRequirement hg.target_lt hsettled hnone hknown

end GramGraph

/-- What an automaton requires does not hold if it reaches no state that accepts. -/
theorem not_holds_requiredGrams {f : Formula String} (h : requiredGrams b analyzer dfa = .ok f)
    (hstates : b.maxStatesTraced ≠ 0) (hsize : b.gramSize ≠ 0)
    (hdead : ∀ state, dfa.Reached state → dfa.isAccept state = false) : ¬Holds truth f := by
  obtain ⟨g, hg, rfl⟩ := exists_graph_of_requiredGrams (not_or.mpr ⟨hstates, hsize⟩) h
  obtain ⟨places, hunfolds⟩ := GramGraph.unfolds_of_ofDfa hg
  -- A place accepts only if its state does, and its state is reached.
  refine GramGraph.not_holds_requirement hunfolds fun node hnode => ?_
  obtain ⟨n, hn, rfl⟩ := Array.getElem_of_mem hnode
  rw [hunfolds.size_eq] at hn
  have hplace := Array.getElem?_eq_getElem hn
  obtain ⟨node, hnode', hnodeUnfolds⟩ := hunfolds.node n _ hplace
  rw [← Option.some.inj (hnode'.symm.trans (Array.getElem?_eq_getElem _)), hnodeUnfolds.accepting]
  exact hdead _ (hunfolds.reached n _ hplace)

end GramSieve.Gram
