import GramSieve.Formula.Basic
import GramSieve.Gram.Components
import GramSieve.Gram.Graph
import Std.Data.HashSet

namespace GramSieve.Gram

/-!
# The grams that every accepted text must have

* `gramFormula` — the terms of a gram.
* `GramGraph.componentRequirement` — what the places of a component require, by its exits.
* `GramGraph.requirement` — what a text on a path to an accepting place must have.
* `requiredGrams` — what every text that an automaton accepts must have.
* `literalRequirement` — what every text around a literal must have.

Within a component of the graph any place can be left through any exit, so all its places require
the same. The grams read on the way through a component are not required, which makes the formula
weaker but keeps it necessary.
-/

open Automaton Formula

/-- The terms of a gram, all of which a text with the gram has. -/
def gramFormula (analyzer : Analyzer) (gram : List Char) : Formula String :=
  match analyzer (String.ofList gram) with
  | [] => .const true
  | [single] => .leaf single
  | several => .composite .and (several.map .leaf)

/-- What is known of the places after some components: the number of the component that a place is in,
and what the places of that component require. -/
structure Known where
  numbers : Array (Option Nat)
  formulas : Array (Option (Formula String))

namespace Known

/-- Nothing is known of `size` places. -/
def start (size : Nat) : Known := ⟨.replicate size none, .replicate size none⟩

/-- The places of a component are given a value. -/
def setAll {β : Type} (component : List Nat) (value : β) (values : Array (Option β)) :
    Array (Option β) :=
  component.foldl (fun values v => values.setIfInBounds v (some value)) values

/-- The places of a component get its number. -/
def number (known : Known) (index : Nat) (component : List Nat) : Known :=
  { known with numbers := setAll component index known.numbers }

/-- What the places of a component require is known. -/
def require (known : Known) (formula : Formula String) (component : List Nat) : Known :=
  { known with formulas := setAll component formula known.formulas }

end Known

namespace GramGraph

/-- The exits of some places of a component: their edges to places that do not have its number. -/
def exits (known : Known) (index : Nat) (nodes : List GramNode) : List GramEdge :=
  nodes.flatMap fun node =>
    node.edges.filter fun e => known.numbers.getD e.target none ≠ some index

/-- What the places of a component require: one of its exits, with the gram that is read there and what
the place behind it requires, which is nothing as long as that is not known. Where a text may end,
nothing is required. The places get the number of the component first, which tells its exits from its
other edges. -/
def componentRequirement (g : GramGraph) (grams : Array (Formula String)) (known : Known)
    (index : Nat) (component : List Nat) : Formula String :=
  let known := known.number index component
  let nodes := component.filterMap fun v => g.nodes[v]?
  if nodes.any (·.accepting) then .const true
  else
    .composite .or <| (exits known index nodes).map fun e =>
      .composite .and [(e.gram.bind fun n => grams[n]?).getD (.const true),
        (known.formulas.getD e.target none).getD (.const true)]

/-- One more component is known. -/
def require (g : GramGraph) (grams : Array (Formula String)) (known : Known) (index : Nat)
    (component : List Nat) : Known :=
  (known.number index component).require (g.componentRequirement grams known index component) component

/-- What the places require, one component after the other. -/
def requirements (g : GramGraph) (grams : Array (Formula String)) : Known :=
  (components (Array.ofFn fun v : Fin g.nodes.size => g.targets v)).zipIdx.foldl
    (fun known (component, index) => g.require grams known index component) (.start g.nodes.size)

/-- What the first place requires. -/
def requirement (analyzer : Analyzer) (g : GramGraph) : Formula String :=
  ((g.requirements (g.grams.map (gramFormula analyzer))).formulas.getD 0 none).getD (.const true)

end GramGraph

/-- What every text that an automaton accepts must have. Nothing is known without a walk. -/
def requiredGrams (b : Bounds) (analyzer : Analyzer) (dfa : Dfa) :
    Except TooComplexToTrace (Formula String) :=
  if b.maxStatesTraced = 0 ∨ b.gramSize = 0 then .ok (.const true)
  else (GramGraph.ofDfa b dfa).map (GramGraph.requirement analyzer)

/-- The first `count` distinct terms that are not in `seen`. -/
def takeDistinct (count : Nat) (seen : Std.HashSet String) : List String → List String
  | [] => []
  | t :: ts =>
    match count with
    | 0 => []
    | n + 1 =>
      if t ∈ seen then takeDistinct (n + 1) seen ts
      else t :: takeDistinct n (seen.insert t) ts

/-- The first terms of a literal, all of which every text around it has. -/
def literalRequirement (b : Bounds) (analyzer : Analyzer) (literal : String) : Formula String :=
  .composite .and ((takeDistinct b.maxGrams ∅ (analyzer literal)).map .leaf)

end GramSieve.Gram
