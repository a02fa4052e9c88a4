import GramSieve.Proofs.Gram.Requirement

namespace GramSieve.Gram

/-!
# What a graph requires of its paths

* `GramGraph.Path` — a path, with the edges that it takes.
* `GramGraph.Connected` — places with paths from one to the other in both directions, which is what a
  component is made of.
* `GramGraph.Leads` — a place from which a path leads to an accepting one, where the terms hold of the
  grams that are read between components.
* `GramGraph.holds_iff_leads`, `GramGraph.holds_requirement` — a component, by its exits, and then the
  whole graph.
* `GramGraph.requirement_exact` — the requirement of a graph holds iff the first place leads to an
  accepting one.
-/

open Automaton Formula Relation

namespace GramGraph

variable {g : GramGraph} {analyzer : Analyzer} {truth : String → Bool}

/-! ### Paths -/

/-- A path between two places: the edges that it takes, each with the place that it leaves. -/
inductive Path (g : GramGraph) : Nat → List (Nat × GramEdge) → Nat → Prop
  | nil {n : Nat} : Path g n [] n
  | cons {n m : Nat} {node : GramNode} {e : GramEdge} {steps : List (Nat × GramEdge)}
      (hnode : g.nodes[n]? = some node) (he : e ∈ node.edges) (h : Path g e.target steps m) :
      Path g n ((n, e) :: steps) m

/-- Two places with paths in both directions: they lie in one strongly connected component. -/
def Connected (g : GramGraph) (n m : Nat) : Prop :=
  (∃ steps, g.Path n steps m) ∧ ∃ steps, g.Path m steps n

/-- Paths one behind the other are a path. -/
theorem Path.append {n m k : Nat} {front back : List (Nat × GramEdge)} (h : g.Path n front m)
    (h' : g.Path m back k) : g.Path n (front ++ back) k := by
  induction h with
  | nil => exact h'
  | cons hnode he _ ih => exact .cons hnode he (ih h')

/-- The edges of the graph that the components are found in are those of the places. -/
theorem edge_successors (n m : Nat) : g.successors.Edge n m ↔
    ∃ node, g.nodes[n]? = some node ∧ ∃ e ∈ node.edges, e.target = m := by
  rw [Successors.Edge, getD_targets, targets]
  cases g.nodes[n]? <;> simp

/-- So one place is reached from another there if there is a path between them. -/
theorem reaches_successors (n m : Nat) :
    g.successors.Reaches n m ↔ ∃ steps, g.Path n steps m := by
  constructor
  · intro h
    induction h using ReflTransGen.head_induction_on with
    | refl => exact ⟨[], .nil⟩
    | head hedge _ ih =>
      obtain ⟨node, hnode, e, he, rfl⟩ := (edge_successors _ _).mp hedge
      obtain ⟨steps, hpath⟩ := ih
      exact ⟨_, .cons hnode he hpath⟩
  · rintro ⟨steps, hpath⟩
    induction hpath with
    | nil => exact .refl
    | cons hnode he _ ih => exact .head ((edge_successors _ _).mpr ⟨_, hnode, _, he, rfl⟩) ih

/-- A path that can be gone back stays in one component. -/
theorem Path.connected {n m : Nat} {steps back : List (Nat × GramEdge)} (h : g.Path n steps m)
    (hback : g.Path m back n) : ∀ step ∈ steps, g.Connected step.1 step.2.target := by
  induction h generalizing back with
  | nil => nofun
  | cons hnode he h ih =>
    refine List.forall_mem_cons.mpr
      ⟨⟨⟨_, .cons hnode he .nil⟩, _, h.append hback⟩, ih (hback.append (.cons hnode he .nil))⟩

/-! ### Paths to accepting places -/

/-- From the place a path leads to an accepting one, and the terms hold of each gram that is read on
the path between two components. -/
def Leads (g : GramGraph) (analyzer : Analyzer) (truth : String → Bool) (n : Nat) : Prop :=
  ∃ steps m node, g.Path n steps m ∧ g.nodes[m]? = some node ∧ node.accepting = true ∧
    ∀ step ∈ steps, ¬g.Connected step.1 step.2.target → ∀ gram, g.gram? step.2 = some gram →
      ∀ t ∈ analyzer (String.ofList gram), truth t = true

/-- Within a component the way is free. -/
theorem Leads.of_connected {n m : Nat} (h : g.Leads analyzer truth m) (hnm : g.Connected n m) :
    g.Leads analyzer truth n := by
  obtain ⟨steps, k, node, hpath, hnode, haccepting, hholds⟩ := h
  obtain ⟨⟨front, hfront⟩, back, hback⟩ := hnm
  refine ⟨front ++ steps, k, node, hfront.append hpath, hnode, haccepting, fun step hstep hnot => ?_⟩
  obtain hstep | hstep := List.mem_append.mp hstep
  · exact absurd (hfront.connected hback step hstep) hnot
  · exact hholds step hstep hnot

/-- The requirement of a component holds iff its places lead to an accepting place, if that is so for
the components found before. -/
theorem holds_iff_leads {component : List Nat} {found : List (List Nat)}
    {known : Known} (hwithin : ∀ n, ∀ m ∈ g.targets n, m < g.nodes.size)
    (hsettled : Settled g.successors (component :: found))
    (hstrong : StronglyConnected g.successors (component :: found))
    (hknown : KnownOf g (fun n f => Holds truth f ↔ g.Leads analyzer truth n) found known)
    {n : Nat} (hn : n ∈ component) :
    Holds truth (g.componentRequirement (g.grams.map (gramFormula analyzer)) known found.length
        component) ↔ g.Leads analyzer truth n := by
  have hconnected {n m : Nat} (hn : n ∈ component) (hm : m ∈ component) : g.Connected n m := by
    have hreaches := hstrong.reaches component (.head _)
    exact ⟨(reaches_successors n m).mp (hreaches n hn m hm),
      (reaches_successors m n).mp (hreaches m hm n hn)⟩
  have hapart {m : Nat} (hm : m ∈ component) : m ∉ found.flatten := fun hm' =>
    (List.nodup_append.mp hstrong.nodup).2.2 m hm m hm' rfl
  rw [hknown.holds_componentRequirement hwithin hsettled]
  constructor
  · rintro ⟨m, hm, node, hnode, haccepting | ⟨e, he, -, hgram, f, -, hiff, hholds⟩⟩
    · exact .of_connected ⟨[], m, node, .nil, hnode, haccepting, nofun⟩ (hconnected hn hm)
    · -- The path goes through the component to the exit, and on from its target.
      refine .of_connected ?_ (hconnected hn hm)
      obtain ⟨steps, k, last, hpath, hlast, haccepting, hsteps⟩ := hiff.mp hholds
      exact ⟨_, k, last, .cons hnode he hpath, hlast, haccepting,
        List.forall_mem_cons.mpr ⟨fun _ => (holds_edge e).mp hgram, hsteps⟩⟩
  · rintro ⟨steps, k, last, hpath, hlast, haccepting, hsteps⟩
    induction hpath with
    | nil => exact ⟨_, hn, last, hlast, .inl haccepting⟩
    | @cons n k node e steps hnode he hpath ih =>
      obtain ⟨hstep, hsteps⟩ := List.forall_mem_cons.mp hsteps
      by_cases hexit : e.target ∈ component
      · -- The path stays in the component.
        exact ih hexit hlast hsteps
      · -- The path leaves the component here, and there is no way back.
        obtain ⟨hmem, f, hf, hiff⟩ :=
          (hknown.target hwithin hsettled hn (mem_targets hnode he)).resolve_left hexit
        have hnot : ¬g.Connected n e.target := fun hback =>
          hapart hn (hsettled.of_cons.mem_of_reaches hmem ((reaches_successors _ _).mpr hback.2))
        exact ⟨n, hn, node, hnode, .inr ⟨e, he, hexit, (holds_edge e).mpr (hstep hnot), f, hf, hiff,
          hiff.mpr ⟨steps, k, last, hpath, hlast, haccepting, hsteps⟩⟩⟩

/-- The requirement of a graph holds iff the first place leads to an accepting one. -/
theorem holds_requirement (hne : 0 < g.nodes.size)
    (hwithin : ∀ n, ∀ m ∈ g.targets n, m < g.nodes.size) :
    Holds truth (g.requirement analyzer) ↔ g.Leads analyzer truth 0 :=
  requirement_induct (P := fun n f => Holds truth f ↔ g.Leads analyzer truth n) hne hwithin
    fun _ _ _ hsettled hstrong hknown _ hn => holds_iff_leads hwithin hsettled hstrong hknown hn

/-- **The requirement of a graph is exact.** It is true iff a path leads from the first place to an
accepting one such that for each of its edges between two components all terms of the gram that the
edge carries are true. -/
theorem requirement_exact (hne : 0 < g.nodes.size)
    (hwithin : ∀ n, ∀ m ∈ g.targets n, m < g.nodes.size) :
    (g.requirement analyzer).evaluate truth = true ↔
      ∃ steps m node, g.Path 0 steps m ∧ g.nodes[m]? = some node ∧ node.accepting = true ∧
        ∀ step ∈ steps, ¬g.Connected step.1 step.2.target → ∀ gram, g.gram? step.2 = some gram →
          ∀ t ∈ analyzer (String.ofList gram), truth t = true := by
  rw [evaluate_iff]
  exact holds_requirement hne hwithin

/-- Two places in a loop and an exit to an accepting place: the gram of the exit is all that a path has
to have. -/
theorem requirement_exact_loop :
    let g : GramGraph := ⟨#[⟨[⟨some 0, 1⟩], false⟩, ⟨[⟨some 1, 0⟩, ⟨some 2, 2⟩], false⟩, ⟨[], true⟩],
      #[['a', 'b'], ['b', 'a'], ['b', 'c']]⟩
    let analyzer : Analyzer := fun t => [t]
    0 < g.nodes.size ∧ (∀ n, ∀ m ∈ g.targets n, m < g.nodes.size) ∧
      ∀ truth : String → Bool, truth "bc" = true ↔
        ∃ steps m node, g.Path 0 steps m ∧ g.nodes[m]? = some node ∧ node.accepting = true ∧
          ∀ step ∈ steps, ¬g.Connected step.1 step.2.target → ∀ gram, g.gram? step.2 = some gram →
            ∀ t ∈ analyzer (String.ofList gram), truth t = true := by
  intro g analyzer
  have hne : 0 < g.nodes.size := by decide
  have hwithin : ∀ n, ∀ m ∈ g.targets n, m < g.nodes.size := by
    intro n
    match n with
    | 0 | 1 | 2 => decide
    | n + 3 => simp [g, targets]
  -- Between the first two places there is a way back, so only the gram of the last edge is required.
  have hrequirement : g.requirement analyzer =
      .composite .or [.composite .and [.leaf "bc", .const true]] := by cbv
  refine ⟨hne, hwithin, fun truth => ?_⟩
  rw [← requirement_exact hne hwithin, hrequirement, evaluate_iff]
  simp

end GramGraph

end GramSieve.Gram
