import GramSieve.Proofs.Gram.Requirement
import GramSieve.Proofs.Gram.Unfolding
import GramSieve.Proofs.Gram.Windows

namespace GramSieve.Gram

/-!
# Required grams are necessary

* `HasGrams` — all terms of the grams of a text hold.
* `GramGraph.Necessary` — a formula that holds for every text accepted from a place on.
* `GramGraph.necessary_component` — a component, by induction along a run: the run ends in an
  accepting place of the component, or it leaves the component through one of the exits.
* `GramGraph.requirement_necessary` — the first place, by induction over the components.
* `requiredGrams_necessary` — the formula of an automaton.
-/

open Automaton Formula

/-- All terms of the grams of a text hold. -/
def HasGrams (size : Nat) (analyzer : Analyzer) (truth : String → Bool) (text : List Char) : Prop :=
  ∀ gram, gram.length = size → gram <:+: text → ∀ t ∈ analyzer (String.ofList gram), truth t = true

variable {b : Bounds} {analyzer : Analyzer} {truth : String → Bool} {dfa : Dfa}

/-- A part of a text has no grams but those of the text. -/
theorem HasGrams.mono {size : Nat} {text part : List Char} (h : HasGrams size analyzer truth text)
    (hpart : part <:+: text) : HasGrams size analyzer truth part :=
  fun gram hlength hgram => h gram hlength (hgram.trans hpart)

namespace GramGraph

variable {g : GramGraph} {places : Array Place}

/-- The formula holds for every text accepted from the place on, if the grams of that text and of
the window in front of it hold. -/
def Necessary (b : Bounds) (analyzer : Analyzer) (truth : String → Bool) (dfa : Dfa) (place : Place)
    (f : Formula String) : Prop :=
  ∀ text, dfa.acceptsFrom place.state text = true →
    HasGrams b.gramSize analyzer truth (place.window ++ text) → Holds truth f

/-- Edges lead to nodes of the graph. -/
theorem Unfolds.target_lt (hg : Unfolds b dfa places g) :
    ∀ n, ∀ m ∈ g.targets n, m < g.nodes.size := by
  intro n m hm
  unfold targets at hm
  cases hnode : g.nodes[n]? with
  | none => simp [hnode] at hm
  | some node =>
    have hlt := (Array.getElem?_eq_some_iff.mp hnode).1
    rw [hg.size_eq] at hlt ⊢
    obtain ⟨node', hnode', hunfolds⟩ := hg.node n _ (Array.getElem?_eq_getElem hlt)
    cases hnode.symm.trans hnode'
    simp only [hnode, Option.map_some, Option.getD_some] at hm
    obtain ⟨e, he, rfl⟩ := List.mem_map.mp hm
    exact hunfolds.known e he

theorem Unfolds.pos (hg : Unfolds b dfa places g) : 0 < g.nodes.size := by
  rw [hg.size_eq]
  exact (Array.getElem?_eq_some_iff.mp hg.start).1

/-- The requirement of a component is necessary for all its places, if what is known of the components
found before is necessary. -/
theorem necessary_component {component : List Nat} {found : List (List Nat)} {known : Known}
    (hg : Unfolds b dfa places g) (hsettled : Settled g.successors (component :: found))
    (hknown : KnownOf g (fun n f =>
      ∀ place, places[n]? = some place → Necessary b analyzer truth dfa place f) found known)
    {n : Nat} (hn : n ∈ component) {place : Place} (hplace : places[n]? = some place) :
    Necessary b analyzer truth dfa place
      (g.componentRequirement (g.grams.map (gramFormula analyzer)) known found.length component) := by
  intro text haccepts hgrams
  rw [hknown.holds_componentRequirement hg.target_lt hsettled]
  induction text generalizing n place with
  | nil =>
    obtain ⟨node, hnode, hunfolds⟩ := hg.node n place hplace
    exact ⟨n, hn, node, hnode, .inl (hunfolds.accepting.trans haccepts)⟩
  | cons c text ih =>
    obtain ⟨node, hnode, hunfolds⟩ := hg.node n place hplace
    cases haccepting : node.accepting with
    | true => exact ⟨n, hn, node, hnode, .inl haccepting⟩
    | false =>
      rw [Dfa.acceptsFrom] at haccepts
      split at haccepts
      · rename_i next hstep
        obtain ⟨e, he, ⟨p, hp, rfl, hwindow⟩, hgram⟩ := hunfolds.follows haccepting c next hstep
        rw [← List.singleton_append, ← List.append_assoc] at hgrams
        -- The window of the next place ends where the text read so far ends.
        have hsuffix : p.window ++ text <:+ place.window ++ [c] ++ text := by
          obtain ⟨front, hfront⟩ := hwindow
          exact ⟨front, by rw [← List.append_assoc, hfront]⟩
        have hrest := hgrams.mono hsuffix.isInfix
        by_cases hexit : e.target ∈ component
        · -- The run stays in the component.
          exact ih hexit hp haccepts hrest
        · -- The run may leave the component here, with the gram of the edge.
          obtain ⟨-, f, hf, hnecessary⟩ :=
            (hknown.target hg.target_lt hsettled hn (mem_targets hnode he)).resolve_left hexit
          refine ⟨n, hn, node, hnode, .inr ⟨e, he, hexit, ?_, f, hf, hnecessary,
            hnecessary p hp text haccepts hrest⟩⟩
          refine (holds_edge e).mpr fun gram hget => ?_
          obtain ⟨m, hedge, hget⟩ := Option.bind_eq_some_iff.mp hget
          obtain ⟨gram', hget', hlength, hsuffix⟩ := hgram m hedge
          obtain rfl := Option.some.inj (hget.symm.trans hget')
          exact hgrams gram hlength (hsuffix.isInfix.trans (List.prefix_append _ _).isInfix)
      · cases haccepts

/-- The requirement of the first place is necessary. -/
theorem requirement_necessary (hg : Unfolds b dfa places g) :
    Necessary b analyzer truth dfa ⟨Dfa.start, []⟩ (g.requirement analyzer) := by
  have hplaces : ∀ place, places[0]? = some place →
      Necessary b analyzer truth dfa place (g.requirement analyzer) := by
    refine requirement_induct (P := fun n f =>
      ∀ place, places[n]? = some place → Necessary b analyzer truth dfa place f)
      hg.pos hg.target_lt fun component found known hsettled _ hknown n hn place hplace => ?_
    exact necessary_component hg hsettled hknown hn hplace
  exact hplaces _ hg.start

end GramGraph

/-- The formula of an automaton holds for every text that it accepts, if the terms of its grams are
there. -/
theorem holds_requiredGrams {f : Formula String} (h : requiredGrams b analyzer dfa = .ok f)
    {text : List Char} (haccepts : dfa.accepts text = true)
    (hgrams : HasGrams b.gramSize analyzer truth text) : Holds truth f := by
  by_cases hwalk : b.maxStatesTraced = 0 ∨ b.gramSize = 0
  · rw [requiredGrams, if_pos hwalk] at h
    cases h
    exact (holds_const true).mpr rfl
  · obtain ⟨g, hg, rfl⟩ := exists_graph_of_requiredGrams hwalk h
    obtain ⟨places, hunfolds⟩ := GramGraph.unfolds_of_ofDfa hg
    exact GramGraph.requirement_necessary hunfolds text haccepts hgrams

/-- **Required grams are necessary.** Whatever the bounds are, the formula of an automaton is true for
every text that the automaton accepts, once all terms that the analyzer makes of the grams of the text
are true. -/
theorem requiredGrams_necessary {f : Formula String} (h : requiredGrams b analyzer dfa = .ok f)
    {text : String} (haccepts : dfa.accepts text.toList = true)
    (hgrams : ∀ gram, gram.length = b.gramSize → gram <:+: text.toList →
      ∀ t ∈ analyzer (String.ofList gram), truth t = true) :
    f.evaluate truth = true :=
  (evaluate_iff f).mpr (holds_requiredGrams h haccepts hgrams)

/-- One `a`, some `b`s in a loop and a `c`. -/
theorem requiredGrams_necessary_loop :
    let b : Bounds := { gramSize := 2 }
    let analyzer : Analyzer := fun t => [t]
    let dfa : Dfa := ⟨#[⟨#[⟨97, 97, 1⟩], false⟩, ⟨#[⟨98, 98, 2⟩], false⟩,
      ⟨#[⟨98, 98, 2⟩, ⟨99, 99, 3⟩], false⟩, ⟨#[], true⟩]⟩
    let truth (t : String) : Bool := ["ab", "bb", "bc"].contains t
    ∃ f, requiredGrams b analyzer dfa = .ok f ∧ dfa.accepts "abbc".toList = true ∧
      (∀ gram, gram.length = b.gramSize → gram <:+: "abbc".toList →
        ∀ t ∈ analyzer (String.ofList gram), truth t = true) ∧
      f.evaluate truth = true := by
  intro b analyzer dfa truth
  -- The automaton reads `ab`, then `b` any number of times, then `c`; its graph has a loop at the
  -- second place.
  have hok : (GramGraph.ofDfa b dfa).isOk = true := by cbv
  have haccepts : dfa.accepts "abbc".toList = true := by cbv
  have hgrams : ∀ gram, gram.length = b.gramSize → gram <:+: "abbc".toList →
      ∀ t ∈ analyzer (String.ofList gram), truth t = true := by
    intro gram hlength hinfix t ht
    have hmem := (mem_windows (show 0 < b.gramSize by decide)).mpr ⟨hlength, hinfix⟩
    have hwindows : windows b.gramSize "abbc".toList = [['a', 'b'], ['b', 'b'], ['b', 'c']] := by
      cbv
    rw [hwindows] at hmem
    rw [List.mem_singleton.mp ht]
    simp only [List.mem_cons, List.not_mem_nil, or_false] at hmem
    obtain rfl | rfl | rfl := hmem <;> decide
  cases hg : GramGraph.ofDfa b dfa with
  | error e =>
    rw [hg] at hok
    cases hok
  | ok g =>
    have h : requiredGrams b analyzer dfa = .ok (g.requirement analyzer) := by
      rw [requiredGrams, if_neg (by decide), hg]
      rfl
    exact ⟨_, h, haccepts, hgrams, requiredGrams_necessary h haccepts hgrams⟩

end GramSieve.Gram
