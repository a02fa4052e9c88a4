import GramSieve.Query.Basic

namespace GramSieve.Query

/-!
# The order of queries

* `Query.compare` — constants, terms, lists of terms, conjunctions, disjunctions.
* `Query.sorted` — a query with its operands and its lists of terms in ascending order.
-/

/-- Where the kinds of queries stand in the order. -/
def rank : Query → Nat
  | .const true => 0
  | .const false => 1
  | .term _ _ => 2
  | .terms _ _ => 3
  | .node .and _ => 4
  | .node .or _ => 5

mutual

/-- The order: by rank, then by field and terms or by the lists of operands. -/
protected def compare (a b : Query) : Ordering :=
  (Ord.compare a.rank b.rank).then <|
    match a, b with
    | .term f t, .term g u => (Ord.compare f g).then (Ord.compare t u)
    | .terms f ts, .terms g us => (Ord.compare f g).then (Ord.compare ts us)
    | .node _ qs, .node _ rs => Query.compareList qs rs
    | _, _ => .eq

/-- The order of lists of operands, by the first operands that differ; a shorter list is less. -/
protected def compareList : (qs rs : List Query) → Ordering
  | [], [] => .eq
  | [], _ :: _ => .lt
  | _ :: _, [] => .gt
  | q :: qs, r :: rs => (Query.compare q r).then (Query.compareList qs rs)

end

instance : Ord Query := ⟨Query.compare⟩

mutual

/-- The query with everything in ascending order. -/
def sorted : Query → Query
  | .terms field ts => .terms field (ts.mergeSort fun a b => decide (a ≤ b))
  | .node kind operands =>
    .node kind ((sortedList operands).mergeSort fun a b => (Query.compare a b).isLE)
  | q => q

/-- Some operands, each with everything in ascending order. -/
def sortedList : List Query → List Query
  | [] => []
  | q :: qs => sorted q :: sortedList qs

end

end GramSieve.Query
