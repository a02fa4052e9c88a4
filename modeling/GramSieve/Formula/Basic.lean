namespace GramSieve

/-!
# Formulas without negation

* `Connective`, `Formula` — conjunctions and disjunctions of constants and leaves.
* `Keyed`, `Formula.key` — a number per formula that tells most formulas apart at once.
* `Formula.decEq` — equality, quick on shared and on differing formulas.
* `Hinted`, `Formula.compare` — a total order: constants, leaves, conjunctions, disjunctions; within these
  a hint decides first, if there is one.
* `Formula.leaf`, `Formula.composite` — how formulas are made. The operands of a composite are a
  set, so they are kept in ascending order and without repetition.

Formulas may share operands. A formula written out as a tree can be far larger than in memory, so
whatever visits one has to keep what it found for the operands it has seen.
-/

/-- What joins the operands of a composite. -/
inductive Connective where
  | and
  | or
  deriving DecidableEq, Repr, Inhabited

namespace Connective

/-- The other connective. -/
def dual : Connective → Connective
  | and => or
  | or => and

/-- The truth value of a composite without operands. -/
def unit : Connective → Bool
  | and => true
  | or => false

/-- The name of a connective. -/
def name : Connective → String
  | and => "And"
  | or => "Or"

end Connective

/-- A formula. The keys are those that `leaf` and `composite` compute. -/
inductive Formula (α : Type) where
  | const (value : Bool)
  | atom (key : UInt64) (value : α)
  | node (kind : Connective) (key : UInt64) (operands : List (Formula α))
  deriving Inhabited

/-- Values with a key that tells most of them apart. -/
class Keyed (α : Type) where
  key : α → UInt64

/-- Joins a key to what went before it. -/
def mixKeys (before key : UInt64) : UInt64 :=
  (((before <<< 5) ||| (before >>> 59)) ^^^ key) * 0x517cc1b727220a95

instance : Keyed Nat := ⟨Nat.toUInt64⟩

instance : Keyed String := ⟨fun s => s.toList.foldl (fun key c => mixKeys key c.val.toUInt64) 2⟩

/-- A hint for the order of formulas, which may be their key. Where the hints of two formulas differ, it
does not matter what is in them. -/
class Hinted (α : Type) where
  hint : Formula α → UInt64

/-- Unless there is a hint, only what is in formulas decides. -/
instance (priority := low) {α : Type} : Hinted α := ⟨fun _ => 0⟩

namespace Formula

variable {α : Type}

/-- The key of a formula. -/
def key : Formula α → UInt64
  | .const true => 0x6a09e667f3bcc908
  | .const false => 0x9e3779b97f4a7c15
  | .atom key _ => key
  | .node _ key _ => key

instance : Hashable (Formula α) := ⟨key⟩

/-! ### Equality -/

mutual

/-- Equality. The keys are compared before the operands. -/
protected def decEq [DecidableEq α] (a b : Formula α) : Decidable (a = b) :=
  withPtrEqDecEq a b fun _ =>
    match a, b with
    | .const x, .const y => decidable_of_iff (x = y) (by simp)
    | .atom k x, .atom l y => decidable_of_iff (k = l ∧ x = y) (by simp)
    | .node c k xs, .node d l ys =>
      if h : c = d ∧ k = l then
        match Formula.decEqList xs ys with
        | isTrue e => isTrue (by rw [h.1, h.2, e])
        | isFalse e => isFalse fun same => by cases same; exact e rfl
      else isFalse fun same => by cases same; exact h ⟨rfl, rfl⟩
    | .const _, .atom _ _ | .const _, .node _ _ _ | .atom _ _, .const _ | .atom _ _, .node _ _ _
    | .node _ _ _, .const _ | .node _ _ _, .atom _ _ => isFalse nofun

/-- Equality of lists of operands. -/
protected def decEqList [DecidableEq α] : (xs ys : List (Formula α)) → Decidable (xs = ys)
  | [], [] => isTrue rfl
  | [], _ :: _ | _ :: _, [] => isFalse nofun
  | x :: xs, y :: ys =>
    match Formula.decEq x y with
    | isFalse e => isFalse fun same => by cases same; exact e rfl
    | isTrue e =>
      match Formula.decEqList xs ys with
      | isFalse f => isFalse fun same => by cases same; exact f rfl
      | isTrue f => isTrue (by rw [e, f])

end

instance [DecidableEq α] : DecidableEq (Formula α) := Formula.decEq

/-! ### Order -/

/-- Where the kinds of formulas stand in the order. -/
def rank : Formula α → Nat
  | .const false => 0
  | .const true => 1
  | .atom _ _ => 2
  | .node .and _ _ => 3
  | .node .or _ _ => 4

mutual

/-- The order: by rank, then by hint, and then by value or by the lists of operands. -/
protected def compare [DecidableEq α] [Ord α] [Hinted α] (a b : Formula α) : Ordering :=
  if a = b then .eq else
    (Ord.compare a.rank b.rank).then <| (Ord.compare (Hinted.hint a) (Hinted.hint b)).then <|
      match a, b with
      | .atom k x, .atom l y => (Ord.compare x y).then (Ord.compare k l)
      | .node _ k xs, .node _ l ys => (Formula.compareList xs ys).then (Ord.compare k l)
      | _, _ => .eq

/-- The order of lists of operands, by the first operands that differ; a shorter list is less. -/
protected def compareList [DecidableEq α] [Ord α] [Hinted α] : (xs ys : List (Formula α)) → Ordering
  | [], [] => .eq
  | [], _ :: _ => .lt
  | _ :: _, [] => .gt
  | x :: xs, y :: ys => (Formula.compare x y).then (Formula.compareList xs ys)

end

instance [DecidableEq α] [Ord α] [Hinted α] : Ord (Formula α) := ⟨Formula.compare⟩

/-! ### Making and looking at formulas -/

/-- The formula of a single value. -/
def leaf [Keyed α] (value : α) : Formula α := .atom (Keyed.key value) value

/-- The same operands as a set: ascending, and each once. -/
def operandSet [DecidableEq α] [Ord α] [Hinted α] (operands : List (Formula α)) : List (Formula α) :=
  (operands.mergeSort fun a b => (Formula.compare a b).isLE).eraseReps

/-- A composite of some operands. Nothing is simplified, but the operands become a set. -/
def composite [DecidableEq α] [Ord α] [Hinted α] (kind : Connective)
    (operands : List (Formula α)) : Formula α :=
  let set := operandSet operands
  let seed : UInt64 := match kind with | .and => 3 | .or => 4
  .node kind (set.foldl (fun key f => mixKeys key f.key) seed) set

/-- The connective of a composite. -/
def kind? : Formula α → Option Connective
  | .node kind _ _ => some kind
  | _ => none

/-- The operands of a composite; every other formula has none. -/
def operands : Formula α → List (Formula α)
  | .node _ _ operands => operands
  | _ => []

/-- The value of a leaf. -/
def leaf? : Formula α → Option α
  | .atom _ value => some value
  | _ => none

end Formula

end GramSieve
