namespace GramSieve

/-!
# Binary search

* `firstIndex` — where an ascending test starts to hold.
* `containsSorted` — whether a value is among ascending values.
-/

/-- The least index from `lo` on, below `hi`, at which an ascending test holds, or `hi`. -/
def firstIndex (test : Nat → Bool) (lo hi : Nat) : Nat :=
  if h : lo < hi then
    let mid := (lo + hi) / 2
    if test mid then firstIndex test lo mid else firstIndex test (mid + 1) hi
  else lo
termination_by hi - lo

/-- Whether a value is among ascending ones. It is only looked for where it has to be, which is where
the first value stands that is not less. -/
def containsSorted {α : Type} [DecidableEq α] [Ord α] (xs : Array α) (x : α) : Bool :=
  xs[firstIndex (fun i => xs[i]?.any fun y => (compare x y).isLE) 0 xs.size]? = some x

end GramSieve
