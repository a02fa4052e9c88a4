import GramSieve.Formula.Basic
import Std.Data.HashMap

namespace GramSieve

/-!
# Reading formulas bottom-up

* `Interpretation`, `Formula.fold` — what a formula stands for, given what its parts stand for.
* `Formula.foldShared` — the same, but every shared composite is read once.
* `Formula.treeSize`, `Formula.leafCount` — the size of a formula written out as a tree.
* `Formula.clauseCount` — the number of leaves, as far as a machine word can count them.
* `Formula.Holds`, `Formula.evaluate` — the truth of a formula.
-/

/-- What the three forms of a formula stand for. -/
structure Interpretation (α β : Type) where
  const : Bool → β
  leaf : α → β
  node : Connective → List β → β

namespace Formula

variable {α β : Type}

mutual

/-- What a formula stands for. -/
def fold (i : Interpretation α β) : Formula α → β
  | .const value => i.const value
  | .atom _ value => i.leaf value
  | .node kind _ operands => i.node kind (foldList i operands)

/-- What some operands stand for. -/
def foldList (i : Interpretation α β) : List (Formula α) → List β
  | [] => []
  | f :: fs => fold i f :: foldList i fs

end

/-- What the composites that were read so far stand for. -/
abbrev Memo (α β : Type) [DecidableEq α] := Std.HashMap (Formula α) β

mutual

/-- What a formula stands for; composites in the memo are not read again. -/
def foldMemo [DecidableEq α] (i : Interpretation α β) (f : Formula α) (memo : Memo α β) :
    β × Memo α β :=
  match f with
  | .const value => (i.const value, memo)
  | .atom _ value => (i.leaf value, memo)
  | .node kind _ operands =>
    match memo[f]? with
    | some known => (known, memo)
    | none =>
      let (parts, memo) := foldListMemo i operands memo
      let result := i.node kind parts
      (result, memo.insert f result)

/-- What some operands stand for, one after the other. -/
def foldListMemo [DecidableEq α] (i : Interpretation α β) (fs : List (Formula α))
    (memo : Memo α β) : List β × Memo α β :=
  match fs with
  | [] => ([], memo)
  | f :: fs =>
    let (part, memo) := foldMemo i f memo
    let (parts, memo) := foldListMemo i fs memo
    (part :: parts, memo)

end

/-- What a formula stands for, reading every shared composite once. -/
def foldShared [DecidableEq α] (i : Interpretation α β) (f : Formula α) : β := (foldMemo i f ∅).1

/-! ### Counting -/

/-- Counts every constant, leaf and composite. -/
def sizes : Interpretation α Nat where
  const _ := 1
  leaf _ := 1
  node _ parts := parts.foldr (· + ·) 1

/-- Counts the leaves. -/
def leafCounts : Interpretation α Nat where
  const _ := 0
  leaf _ := 1
  node _ parts := parts.foldr (· + ·) 0

/-- The largest count of a machine word. -/
def maxCount : Nat := UInt64.size - 1

/-- A sum that stops at the largest count. -/
def cappedSum (counts : List Nat) : Nat := counts.foldl (fun sum n => min maxCount (sum + n)) 0

/-- Counts the leaves, up to the largest count. -/
def clauseCounts : Interpretation α Nat where
  const _ := 0
  leaf _ := 1
  node _ parts := cappedSum parts

/-- The number of nodes of the formula as a tree. -/
def treeSize [DecidableEq α] (f : Formula α) : Nat := f.foldShared sizes

/-- The number of leaves of the formula as a tree. -/
def leafCount [DecidableEq α] (f : Formula α) : Nat := f.foldShared leafCounts

/-- The number of clauses of a query for the formula: its leaves, once for every path to them. -/
def clauseCount [DecidableEq α] (f : Formula α) : Nat := f.foldShared clauseCounts

/-! ### Truth -/

/-- The truth of a formula where the leaves in `truth` hold. -/
def truthOf (truth : α → Bool) : Interpretation α Bool where
  const value := value
  leaf := truth
  node kind parts := match kind with
    | .and => parts.all id
    | .or => parts.any id

/-- The truth of a formula, given that of its leaves. -/
def evaluate [DecidableEq α] (truth : α → Bool) (f : Formula α) : Bool :=
  f.foldShared (truthOf truth)

/-- The formula holds where the leaves in `truth` hold. -/
def Holds (truth : α → Bool) (f : Formula α) : Prop := f.fold (truthOf truth) = true

end Formula

end GramSieve
