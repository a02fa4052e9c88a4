import GramSieve.Proofs.Formula.Conjunction
import GramSieve.Proofs.Gram.Necessity
import GramSieve.Proofs.Gram.Spelling

namespace GramSieve.Gram

/-!
# The requirement of a literal

* `takeDistinct_eq` — the first distinct terms are those that are new in the list of terms.
* `simplify_gramFormula` — the formula of a gram is the conjunction of its terms.
* `GramGraph.Spelled.eq_of_reaches` — a line has no loops, so its components are single nodes.
* `GramGraph.simplify_requirement` — the requirement of a line is the conjunction of what it carries.
* `requiredGrams_literal` — a literal requires the same whether its automaton is unfolded or not.
-/

open Automaton Formula

variable {b : Bounds} {analyzer : Analyzer} {text : List Char}

/-! ### Distinct terms -/

/-- Taking distinct values one by one gives the first ones that are new. -/
theorem takeDistinct_eq (count : Nat) (seen : Std.HashSet String) (ts : List String) :
    takeDistinct count seen ts = (ts.filter (· ∉ seen)).eraseDups.take count := by
  fun_induction takeDistinct count seen ts with
  | case1 => simp
  | case2 => simp
  | case3 seen t ts n hseen ih => rw [ih, List.filter_cons_of_neg (by simpa using hseen)]
  | case4 seen t ts n hseen ih =>
    rw [ih, List.filter_cons_of_pos (by simpa using hseen), List.eraseDups_cons, List.filter_filter,
      List.take_succ_cons]
    -- What is new behind a term is what was new, but for this term.
    have hnew (u : String) : decide (u ∉ seen.insert t) = (!(u == t) && decide (u ∉ seen)) := by
      have hmem : u ∈ seen.insert t ↔ u = t ∨ u ∈ seen := by
        rw [Std.HashSet.mem_insert, beq_iff_eq, eq_comm]
      rw [Bool.eq_iff_iff, decide_eq_true_iff, hmem]
      simp
    simp only [hnew]

/-! ### Formulas -/

/-- The formula of a gram is the conjunction of its terms. -/
theorem simplify_gramFormula (gram : List Char) :
    simplify (gramFormula analyzer gram) = conjunction (analyzer (String.ofList gram)) := by
  unfold gramFormula
  split
  · rename_i heq
    rw [heq, simplify_of_kind?_eq_none rfl, conjunction_nil]
  · rename_i single heq
    rw [heq, simplify_leaf]
  · exact simplify_leaves _

/-- The terms of the grams that are carried. -/
def carriedTerms (analyzer : Analyzer) (carried : List (Option (List Char))) : List String :=
  carried.flatMap fun gram? => (gram?.map fun gram => analyzer (String.ofList gram)).getD []

/-- The formula of an edge is that of its gram, or nothing if it has none. -/
theorem simplify_carried (analyzer : Analyzer) (gram? : Option (List Char)) :
    simplify ((gram?.map (gramFormula analyzer)).getD (.const true)) =
      conjunction ((gram?.map fun gram => analyzer (String.ofList gram)).getD []) := by
  cases gram? with
  | none =>
    rw [Option.map_none, Option.getD_none, simplify_of_kind?_eq_none rfl, Option.map_none,
      Option.getD_none, conjunction_nil]
  | some gram => exact simplify_gramFormula gram

namespace GramGraph

variable {g : GramGraph} {n m : Nat} {carried : List (Option (List Char))}

/-! ### Components of a line -/

/-- A node that is reached carries less. -/
theorem Spelled.of_reaches (h : g.Spelled n carried) (hreach : g.successors.Reaches n m) :
    m = n ∨ ∃ rest, g.Spelled m rest ∧ rest.length < carried.length := by
  induction hreach with
  | refl => exact .inl rfl
  | @tail m next _ hedge ih =>
    right
    -- The rest gets shorter with each edge that is taken.
    have hm : ∃ rest, g.Spelled m rest ∧ rest.length ≤ carried.length := by
      rcases ih with rfl | ⟨rest, hrest, hlt⟩
      · exact ⟨carried, h, Nat.le_refl _⟩
      · exact ⟨rest, hrest, hlt.le⟩
    obtain ⟨rest, hrest, hle⟩ := hm
    have hedge : next ∈ g.targets m := by
      rw [← getD_targets]
      exact hedge
    cases hrest with
    | @done _ node hnode _ hedges =>
      simp [targets, hnode, hedges] at hedge
    | @step _ node e rest hnode hreject hedges hnext =>
      obtain rfl : next = e.target := by
        simpa [targets, hnode, hedges] using hedge
      rw [List.length_cons] at hle
      exact ⟨rest, hnext, hle⟩

/-- A line has no way back. -/
theorem Spelled.eq_of_reaches (h : g.Spelled n carried) (hforth : g.successors.Reaches n m)
    (hback : g.successors.Reaches m n) : m = n := by
  rcases h.of_reaches hforth with heq | ⟨rest, hrest, hlt⟩
  · exact heq
  · rcases hrest.of_reaches hback with heq | ⟨carried', hcarried', hlt'⟩
    · exact heq.symm
    · cases h.unique hcarried'
      omega

/-! ### The requirement of a line -/

variable {known : Known} {component : List Nat} {found : List (List Nat)} {index : Nat}

/-- A component of one node, which has one edge, an exit. -/
theorem componentRequirement_of_edge {grams : Array (Formula String)} {e : GramEdge} {node : GramNode}
    {f : Formula String} (hcomponent : ∀ m, m ∈ component ↔ m = n) (hnode : g.nodes[n]? = some node)
    (hreject : node.accepting = false) (hedges : node.edges = [e])
    (hexit : (known.number index component).numbers.getD e.target none ≠ some index)
    (hknown : known.formulas.getD e.target none = some f) :
    g.componentRequirement grams known index component =
      composite .or [composite .and [(e.gram.bind fun n => grams[n]?).getD (.const true), f]] := by
  have hnodes (node') : node' ∈ component.filterMap (g.nodes[·]?) ↔ node' = node := by
    simp only [List.mem_filterMap, hcomponent, exists_eq_left, hnode, Option.some.injEq]
    exact eq_comm
  have haccepting : ¬(component.filterMap (g.nodes[·]?)).any (·.accepting) = true := by
    rw [List.any_eq_true]
    rintro ⟨node', hmem, haccepting⟩
    obtain rfl := (hnodes node').mp hmem
    exact absurd haccepting (by simp [hreject])
  -- The only edge of the only place leads out of the component, so it is the only exit.
  have hexits (e') : e' ∈ exits (known.number index component) index
      (component.filterMap (g.nodes[·]?)) ↔ e' = e := by
    simp only [mem_exits, hnodes, exists_eq_left, hedges, List.mem_singleton]
    exact and_iff_left_of_imp fun heq => heq ▸ hexit
  unfold componentRequirement
  simp only
  rw [if_neg haccepting]
  refine composite_congr .or fun f' => ?_
  simp only [List.mem_map, hexits, exists_eq_left, Known.formulas_number, hknown, Option.getD_some,
    List.mem_singleton]
  exact eq_comm

/-- Nothing is required where a text may end. -/
theorem componentRequirement_of_accepting {grams : Array (Formula String)} {node : GramNode}
    (hn : n ∈ component) (hnode : g.nodes[n]? = some node) (haccepting : node.accepting = true) :
    g.componentRequirement grams known index component = .const true := by
  unfold componentRequirement
  exact if_pos (List.any_eq_true.mpr ⟨node, List.mem_filterMap.mpr ⟨n, hn, hnode⟩, haccepting⟩)

/-- The requirement of a component of a line is the conjunction of what is carried behind it, if that
is so for what is known. -/
theorem Spelled.simplify_componentRequirement (h : g.Spelled n carried)
    (hwithin : ∀ n, ∀ m ∈ g.targets n, m < g.nodes.size)
    (hsettled : Settled g.successors (component :: found))
    (hstrong : StronglyConnected g.successors (component :: found))
    (hknown : KnownOf g (fun n f => ∀ carried, g.Spelled n carried →
      simplify f = conjunction (carriedTerms analyzer carried)) found known) (hn : n ∈ component) :
    simplify (g.componentRequirement (g.grams.map (gramFormula analyzer)) known found.length component) =
      conjunction (carriedTerms analyzer carried) := by
  have hcomponent (m) : m ∈ component ↔ m = n := by
    constructor
    · intro hm
      exact h.eq_of_reaches (hstrong.reaches component (.head _) n hn m hm)
        (hstrong.reaches component (.head _) m hm n hn)
    · rintro rfl
      exact hn
  have hline := h
  cases h with
  | done hnode haccepting =>
    rw [componentRequirement_of_accepting hn hnode haccepting, simplify_of_kind?_eq_none rfl]
    exact conjunction_nil.symm
  | @step _ node e rest hnode hreject hedges hrest =>
    have he : e.target ∈ g.targets n := mem_targets hnode (hedges ▸ List.mem_singleton_self e)
    have hexit : e.target ∉ component := by
      -- The edge would lead back to its node, but behind the edge less is carried.
      intro hmem
      rw [(hcomponent _).mp hmem] at hrest
      exact absurd (hrest.unique hline) List.ne_cons_self
    obtain ⟨-, f, hf, hsimplify⟩ := (hknown.target hwithin hsettled hn he).resolve_left hexit
    have hnumber := mt (hknown.number_iff (hwithin n _ he)).mp hexit
    have hpair := simplify_and_pair (simplify_carried analyzer (g.gram? e)) (hsimplify rest hrest)
    rw [← bind_gramFormula] at hpair
    rw [componentRequirement_of_edge hcomponent hnode hreject hedges hnumber hf, simplify_singleton,
      hpair]
    · rfl
    · rw [hpair]
      exact kind?_conjunction_ne _

/-- The requirement of a line is the conjunction of what it carries. -/
theorem simplify_requirement (hne : 0 < g.nodes.size)
    (hwithin : ∀ n, ∀ m ∈ g.targets n, m < g.nodes.size) (h : g.Spelled 0 carried) :
    simplify (g.requirement analyzer) = conjunction (carriedTerms analyzer carried) := by
  refine requirement_induct (P := fun n f => ∀ carried, g.Spelled n carried →
    simplify f = conjunction (carriedTerms analyzer carried)) hne hwithin ?_ carried h
  intro component found known hsettled hstrong hknown n hn carried h
  exact h.simplify_componentRequirement hwithin hsettled hstrong hknown hn

end GramGraph

/-! ### The terms of a literal -/

/-- The terms that are carried along a path are those of its grams. -/
theorem mem_carriedTerms {carried : List (Option (List Char))} {t : String} :
    t ∈ carriedTerms analyzer carried ↔
      ∃ gram, some gram ∈ carried ∧ t ∈ analyzer (String.ofList gram) := by
  unfold carriedTerms
  rw [List.mem_flatMap]
  constructor
  · rintro ⟨_ | gram, hgram, ht⟩
    · cases ht
    · exact ⟨gram, hgram, ht⟩
  · rintro ⟨gram, hgram, ht⟩
    exact ⟨some gram, hgram, ht⟩

/-- The grams of a literal that are required: the first distinct windows. -/
def literalGrams (b : Bounds) (text : List Char) : List (List Char) :=
  (windows b.gramSize text).eraseDups.take b.maxGrams

/-- Simplified, the formula of a literal is the conjunction of its first grams. -/
theorem simplify_literalRequirement (hsize : 1 ≤ b.gramSize) (text : List Char) :
    simplify (literalRequirement b (GramAnalyzer.analyze { gramSize := b.gramSize })
        (String.ofList text)) =
      conjunction ((literalGrams b text).map String.ofList) := by
  have hterms : GramAnalyzer.analyze { gramSize := b.gramSize } (String.ofList text) =
      (windows b.gramSize text).map String.ofList := by
    show extractGrams b.gramSize (String.ofList text) = _
    rw [extractGrams, if_neg (by omega), String.toList_ofList]
  have hall : ((windows b.gramSize text).map String.ofList).filter
      (· ∉ (∅ : Std.HashSet String)) = (windows b.gramSize text).map String.ofList := by
    simp
  rw [literalRequirement, simplify_leaves, hterms, takeDistinct_eq, hall,
    eraseDups_map (fun _ _ => String.ofList_injective), literalGrams, List.map_take]

/-- The requirement of an automaton that spells a text. -/
theorem GramGraph.Spelling.simplify_requirement {dfa : Dfa} {places : Array Place} {g : GramGraph}
    (h : Spelling b dfa text places) (hg : Discovery b dfa places g) :
    simplify (g.requirement (GramAnalyzer.analyze { gramSize := b.gramSize })) =
      conjunction ((literalGrams b text).map String.ofList) := by
  obtain ⟨carried, hspelled, hcarried⟩ := h.exists_spelled hg text h.breadthFirst.start h.spells
  have hgrams (gram) : gram ∈ g.grams ↔ gram ∈ literalGrams b text := by
    rw [← Array.mem_toList_iff, hg.grams, h.discoveredGrams_eq, literalGrams]
  -- The path has the grams that were kept of the text; as a set these are the first ones without
  -- repetitions.
  rw [GramGraph.simplify_requirement hg.unfolds.pos hg.unfolds.target_lt hspelled]
  refine conjunction_congr fun t => ?_
  have hwindow {gram} (hgram : gram ∈ literalGrams b text) : gram ∈ windows b.gramSize text :=
    List.mem_eraseDups.mp (List.mem_of_mem_take hgram)
  have hterms {gram} (hgram : gram ∈ windows b.gramSize text) :
      GramAnalyzer.analyze { gramSize := b.gramSize } (String.ofList gram) = [String.ofList gram] :=
    extractGrams_of_length h.size ((mem_windows h.size).mp hgram).1
  rw [mem_carriedTerms, List.mem_map]
  constructor
  · rintro ⟨gram, hgram, ht⟩
    obtain ⟨hmem, hkept⟩ := (hcarried gram).mp hgram
    rw [hterms hmem, List.mem_singleton] at ht
    exact ⟨gram, (hgrams gram).mp hkept, ht.symm⟩
  · rintro ⟨gram, hgram, rfl⟩
    refine ⟨gram, (hcarried gram).mpr ⟨hwindow hgram, (hgrams gram).mpr hgram⟩, ?_⟩
    rw [hterms (hwindow hgram)]
    exact List.mem_singleton_self _

/-- **A literal requires the same, whether its automaton is unfolded or not.** An expression that is a text
matches that text only; and once its automaton is built and unfolded, what is required is, simplified,
the first distinct grams of the text, as if no automaton had been built. -/
theorem requiredGrams_literal {r : Regex} (hliteral : r.literalText? = some text)
    (hsize : 1 ≤ b.gramSize) (hexpand : 1 ≤ b.maxExpand) (hstates : 1 ≤ b.maxStatesTraced) :
    r.language = {text} ∧ ∀ limit dfa f, Dfa.ofRegex r limit = .ok dfa →
      requiredGrams b (GramAnalyzer.analyze { gramSize := b.gramSize }) dfa = .ok f →
        simplify f = simplify (literalRequirement b
          (GramAnalyzer.analyze { gramSize := b.gramSize }) (String.ofList text)) := by
  refine ⟨Regex.language_of_literalText? hliteral, fun limit dfa f hdfa hf => ?_⟩
  obtain ⟨g, hg, rfl⟩ := exists_graph_of_requiredGrams (by omega) hf
  obtain ⟨places, hdiscovery⟩ := GramGraph.discovery_of_ofDfa hg
  have hspelling : GramGraph.Spelling b dfa text places :=
    ⟨hsize, hexpand, hdiscovery.breadthFirst, Dfa.spells_of_ofRegex hliteral hdfa⟩
  rw [hspelling.simplify_requirement hdiscovery, simplify_literalRequirement hsize]

/-- `ab` twice, the second time in a group, with room for one gram. -/
theorem requiredGrams_literal_twice :
    let b : Bounds := { gramSize := 2, maxExpand := 1, maxStatesTraced := 8, maxGrams := 1 }
    let analyzer := GramAnalyzer.analyze { gramSize := b.gramSize }
    let r : Regex := .concat [.literal [97, 98], .capture 1 none (.literal [97, 98])]
    let dfa : Dfa := ⟨#[⟨#[⟨97, 97, 1⟩], false⟩, ⟨#[⟨98, 98, 2⟩], false⟩, ⟨#[⟨97, 97, 3⟩], false⟩,
      ⟨#[⟨98, 98, 4⟩], false⟩, ⟨#[], true⟩]⟩
    let g : GramGraph := ⟨#[⟨[⟨none, 1⟩], false⟩, ⟨[⟨some 0, 2⟩], false⟩, ⟨[⟨none, 3⟩], false⟩,
      ⟨[⟨some 0, 4⟩], false⟩, ⟨[], true⟩], #[['a', 'b']]⟩
    r.literalText? = some ['a', 'b', 'a', 'b'] ∧ 1 ≤ b.gramSize ∧ 1 ≤ b.maxExpand ∧
      1 ≤ b.maxStatesTraced ∧ r.language = {['a', 'b', 'a', 'b']} ∧ Dfa.ofRegex r 8 = .ok dfa ∧
        requiredGrams b analyzer dfa = .ok (g.requirement analyzer) ∧
          simplify (g.requirement analyzer) =
            simplify (literalRequirement b analyzer (String.ofList ['a', 'b', 'a', 'b'])) ∧
          simplify (g.requirement analyzer) = .leaf "ab" := by
  intro b analyzer r dfa g
  have hliteral : r.literalText? = some ['a', 'b', 'a', 'b'] := by cbv
  have hdfa : Dfa.ofRegex r 8 = .ok dfa := by cbv
  have hg : GramGraph.ofDfa b dfa = .ok g := by cbv
  have hf : requiredGrams b analyzer dfa = .ok (g.requirement analyzer) := by
    rw [requiredGrams, if_neg (by decide), hg]
    rfl
  obtain ⟨hlanguage, hsame⟩ :=
    requiredGrams_literal (b := b) hliteral (by decide) (by decide) (by decide)
  have hsimplify := hsame 8 dfa _ hdfa hf
  -- The grams of `abab` are `ab`, `ba` and `ab` again; only the first is kept.
  have hgrams : literalGrams b ['a', 'b', 'a', 'b'] = [['a', 'b']] := by cbv
  have hleaf : simplify (literalRequirement b analyzer (String.ofList ['a', 'b', 'a', 'b'])) =
      .leaf "ab" := by
    rw [simplify_literalRequirement (by decide), hgrams]
    exact (simplify_leaf "ab").symm.trans (simplify_of_kind?_eq_none rfl)
  exact ⟨hliteral, by decide, by decide, by decide, hlanguage, hdfa, hf, hsimplify,
    hsimplify.trans hleaf⟩

end GramSieve.Gram
