import GramSieve.Gram.Components
import Mathlib.Logic.Relation

namespace GramSieve.Gram

/-!
# Components of a graph

Components are kept with the one found last in front.

* `Successors.Edge`, `Successors.Reaches` — the edges of a graph, and the ways along them.
* `Settled` — no edge leads from a component to one that is found later.
* `Settled.mem_of_reaches` — so no way does either.
* `StronglyConnected` — components without common nodes; those of one component reach each other.
* `Settled.exists_component` — nodes that reach each other are in one component.
-/

open Relation

/-- An edge of a graph. -/
def Successors.Edge (g : Successors) (u v : Nat) : Prop := v ∈ g.getD u []

/-- A node is reached from another one along edges. -/
def Successors.Reaches (g : Successors) : Nat → Nat → Prop := ReflTransGen g.Edge

/-- Every edge of a component leads into it or into one that was found before it. -/
inductive Settled (g : Successors) : List (List Nat) → Prop
  | nil : Settled g []
  | cons {component : List Nat} {found : List (List Nat)} (h : Settled g found)
      (hedges : ∀ v ∈ component, ∀ w ∈ g.getD v [], ∃ c ∈ component :: found, w ∈ c) :
      Settled g (component :: found)

/-- Components that have no node in common, and whose nodes reach each other. -/
structure StronglyConnected (g : Successors) (found : List (List Nat)) : Prop where
  nodup : found.flatten.Nodup
  reaches : ∀ component ∈ found, ∀ u ∈ component, ∀ v ∈ component, g.Reaches u v

variable {g : Successors} {component : List Nat} {found : List (List Nat)}

/-- Components that were found before one more are strongly connected, too. -/
theorem StronglyConnected.of_cons (h : StronglyConnected g (component :: found)) :
    StronglyConnected g found :=
  ⟨(List.nodup_append.mp h.nodup).2.1, fun c hc => h.reaches c (.tail _ hc)⟩

/-- They were settled before it was found. -/
theorem Settled.of_cons (h : Settled g (component :: found)) : Settled g found := by
  cases h with
  | cons h _ => exact h

/-- No edge leaves the components that were found. -/
theorem Settled.mem_of_edge (h : Settled g found) {u w : Nat} (hu : u ∈ found.flatten)
    (huw : g.Edge u w) : w ∈ found.flatten := by
  induction h with
  | nil => cases hu
  | cons _ hedges ih =>
    rw [List.flatten_cons, List.mem_append] at hu
    obtain hu | hu := hu
    · exact List.mem_flatten.mpr (hedges u hu w huw)
    · exact List.mem_append_right _ (ih hu)

/-- What is reached from a component is in it or in one that was found before. -/
theorem Settled.mem_of_reaches (h : Settled g found) {u w : Nat} (hu : u ∈ found.flatten)
    (huw : g.Reaches u w) : w ∈ found.flatten := by
  induction huw with
  | refl => exact hu
  | tail _ hedge ih => exact h.mem_of_edge ih hedge

/-- Nodes that reach each other are in one component. -/
theorem Settled.exists_component (h : Settled g found) {u v : Nat} (hu : u ∈ found.flatten)
    (huv : g.Reaches u v) (hvu : g.Reaches v u) : ∃ c ∈ found, u ∈ c ∧ v ∈ c := by
  induction found with
  | nil => cases hu
  | cons component found ih =>
    by_cases hbefore : u ∈ found.flatten
    · obtain ⟨c, hc, hmem⟩ := ih h.of_cons hbefore
      exact ⟨c, .tail _ hc, hmem⟩
    · -- Neither node is in a component that was found before, as it would lead to the other one there.
      have hv : v ∉ found.flatten := fun hv => hbefore (h.of_cons.mem_of_reaches hv hvu)
      have hfirst {w : Nat} (hw : w ∈ (component :: found).flatten) (hnot : w ∉ found.flatten) :
          w ∈ component :=
        (List.mem_append.mp hw).resolve_right hnot
      exact ⟨component, .head _, hfirst hu hbefore, hfirst (h.mem_of_reaches hu huv) hv⟩

/-- No edge leads from a component to one that was found after it. -/
theorem Settled.pairwise (h : Settled g found) (hnodup : found.flatten.Nodup) :
    found.reverse.Pairwise fun c d => ∀ u ∈ c, ∀ v ∈ d, ¬g.Edge u v := by
  rw [List.pairwise_reverse]
  induction found with
  | nil => exact .nil
  | cons component found ih =>
    obtain ⟨-, hrest, hdisjoint⟩ := List.nodup_append.mp hnodup
    refine .cons (fun c hc u hu v hv huv => ?_) (ih h.of_cons hrest)
    have hmem := h.of_cons.mem_of_edge (List.mem_flatten_of_mem hc hu) huv
    exact hdisjoint v hv v hmem rfl

end GramSieve.Gram
