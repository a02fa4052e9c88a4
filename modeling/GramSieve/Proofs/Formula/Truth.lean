import GramSieve.Formula.Fold
import Mathlib.Data.List.Chain
import Std.Data.HashMap.Lemmas

namespace GramSieve

/-!
# The truth of formulas

* `Connective.Joins` — what a connective asks of a list of operands.
* `Formula.holds_node`, `Formula.holds_composite` — a composite holds if its connective joins its
  operands; `composite` sorts them and drops repetitions, which no connective can tell.
* `eraseReps_cons_cons` — how repetitions are dropped; the members stay, no two neighbours are the
  same, and so a sorted list becomes strictly ascending (`pairwise_eraseReps`).
* `Formula.foldShared_eq_fold` — reading shared composites once gives what reading the tree gives.
* `Formula.evaluate_iff` — hence `evaluate` decides `Holds`.
-/

/-! ### Connectives -/

/-- What a connective asks of its operands: all of them, or some of them. -/
def Connective.Joins {β : Type} (kind : Connective) (P : β → Prop) (operands : List β) : Prop :=
  match kind with
  | .and => ∀ x ∈ operands, P x
  | .or => ∃ x ∈ operands, P x

namespace Connective

variable {β γ : Type} {P Q : β → Prop}

@[simp] theorem joins_and (operands : List β) : and.Joins P operands ↔ ∀ x ∈ operands, P x :=
  Iff.rfl

@[simp] theorem joins_or (operands : List β) : or.Joins P operands ↔ ∃ x ∈ operands, P x := Iff.rfl

/-- Only the set of operands matters. -/
theorem joins_congr_mem (kind : Connective) {xs ys : List β} (h : ∀ x, x ∈ xs ↔ x ∈ ys) :
    kind.Joins P xs ↔ kind.Joins P ys := by
  cases kind <;> simp [h]

/-- A connective joins what holds of its operands, so equivalent properties are joined alike. -/
theorem joins_congr (kind : Connective) {xs : List β} (h : ∀ x ∈ xs, P x ↔ Q x) :
    kind.Joins P xs ↔ kind.Joins Q xs := by
  cases kind
  · exact forall₂_congr h
  · exact exists_congr fun x => and_congr_right (h x)

/-- Joining mapped operands joins a property of their images. -/
@[simp] theorem joins_map (kind : Connective) {P : γ → Prop} (f : β → γ) (xs : List β) :
    kind.Joins P (xs.map f) ↔ kind.Joins (fun x => P (f x)) xs := by
  cases kind
  · exact List.forall_mem_map
  · simp only [joins_or, List.mem_map, exists_exists_and_eq_and]

/-- Two groups of operands may be exchanged for others one by one. -/
theorem joins_append_congr (kind : Connective) {P : β → Prop} {Q : γ → Prop} {xs ys : List β}
    {xs' ys' : List γ} (hx : kind.Joins P xs ↔ kind.Joins Q xs')
    (hy : kind.Joins P ys ↔ kind.Joins Q ys') :
    kind.Joins P (xs ++ ys) ↔ kind.Joins Q (xs' ++ ys') := by
  cases kind
  · simp only [joins_and, List.forall_mem_append] at *
    exact and_congr hx hy
  · simp only [joins_or, List.mem_append, or_and_right, exists_or] at *
    exact or_congr hx hy

@[simp] theorem joins_nil (kind : Connective) : kind.Joins P [] ↔ kind.unit = true := by
  cases kind <;> simp [unit]

@[simp] theorem joins_singleton (kind : Connective) (x : β) : kind.Joins P [x] ↔ P x := by
  cases kind <;> simp

theorem joins_and_pair (x y : β) : and.Joins P [x, y] ↔ P x ∧ P y := by simp

/-- An operand that is no unit decides the composite, whatever the others are. -/
theorem joins_of_decided {kind : Connective} {value : Bool} {xs : List β} {x : β}
    (hx : P x ↔ value = true) (hvalue : value ≠ kind.unit) (hmem : x ∈ xs) :
    kind.Joins P xs ↔ value = true := by
  cases kind <;> cases value
  · exact ⟨fun h => hx.mp (h x hmem), nofun⟩
  · exact absurd rfl hvalue
  · exact absurd rfl hvalue
  · exact ⟨fun _ => rfl, fun _ => ⟨x, hmem, hx.mpr rfl⟩⟩

/-- An operand that is as good as the unit does not matter. -/
theorem joins_cons_of_unit {kind : Connective} {x : β} (hx : P x ↔ kind.unit = true)
    (xs : List β) : kind.Joins P (x :: xs) ↔ kind.Joins P xs := by
  cases kind <;> simp [hx, unit]

end Connective

/-! ### Operands as a set -/

section Repetitions

variable {β : Type} [DecidableEq β]

/-- Of two equal neighbours one is dropped. -/
theorem eraseReps_cons_cons (a b : β) (xs : List β) :
    (a :: b :: xs).eraseReps =
      if a = b then (b :: xs).eraseReps else a :: (b :: xs).eraseReps := by
  -- The loop keeps what it has found in reverse.
  have loop (as : List β) : ∀ (a : β) (acc : List β),
      List.eraseRepsBy.loop (· == ·) a as acc =
        acc.reverse ++ List.eraseRepsBy.loop (· == ·) a as [] := by
    induction as with
    | nil => simp [List.eraseRepsBy.loop]
    | cons b bs ih =>
      intro a acc
      rw [List.eraseRepsBy.loop.eq_def, List.eraseRepsBy.loop.eq_def (· == ·) a (b :: bs) []]
      by_cases h : a = b
      · simp only [beq_iff_eq.mpr h]
        exact ih a acc
      · simp only [beq_eq_false_iff_ne.mpr h]
        rw [ih b (a :: acc), ih b [a]]
        simp
  unfold List.eraseReps List.eraseRepsBy
  simp only
  rw [List.eraseRepsBy.loop.eq_def]
  by_cases h : a = b
  · subst h
    simp
  · simp only [beq_eq_false_iff_ne.mpr h, if_neg h]
    rw [loop]
    rfl

/-- Erasing repetitions keeps the order. -/
theorem eraseReps_sublist (xs : List β) : xs.eraseReps.Sublist xs := by
  induction xs with
  | nil => exact .slnil
  | cons a xs ih =>
    cases xs with
    | nil => exact .refl [a]
    | cons b xs =>
      rw [eraseReps_cons_cons]
      split
      · exact ih.cons a
      · exact ih.cons_cons a

/-- It keeps the first value, too. -/
theorem head?_eraseReps (xs : List β) : xs.eraseReps.head? = xs.head? := by
  induction xs with
  | nil => rfl
  | cons a xs ih =>
    cases xs with
    | nil => rfl
    | cons b xs =>
      rw [eraseReps_cons_cons]
      split
      · rename_i h
        rw [ih, h]
        rfl
      · rfl

/-- No two neighbours are the same. -/
theorem isChain_eraseReps (xs : List β) : xs.eraseReps.IsChain (· ≠ ·) := by
  induction xs with
  | nil => exact .nil
  | cons a xs ih =>
    cases xs with
    | nil => exact .singleton a
    | cons b xs =>
      rw [eraseReps_cons_cons]
      split
      · exact ih
      · rename_i h
        refine List.isChain_cons.mpr ⟨?_, ih⟩
        intro y hy
        -- What comes behind `a` starts with `b`, and that differs from `a`.
        rw [head?_eraseReps] at hy
        cases hy
        exact h

/-- Without repetitions an order is strict. -/
theorem pairwise_eraseReps {le lt : β → β → Prop} [Trans lt lt lt]
    (hlt : ∀ a b, le a b → a ≠ b → lt a b) {xs : List β} (h : xs.Pairwise le) :
    xs.eraseReps.Pairwise lt := by
  have hle : xs.eraseReps.IsChain le := (h.sublist (eraseReps_sublist xs)).isChain
  have hne := isChain_eraseReps xs
  generalize xs.eraseReps = kept at hle hne
  rw [← List.isChain_iff_pairwise]
  induction kept with
  | nil => exact .nil
  | cons a kept ih =>
    obtain ⟨hhead, hle⟩ := List.isChain_cons.mp hle
    obtain ⟨hhead', hne⟩ := List.isChain_cons.mp hne
    exact List.isChain_cons.mpr ⟨fun b hb => hlt a b (hhead b hb) (hhead' b hb), ih hle hne⟩

/-- Where no two neighbours are the same, there is nothing to drop. -/
theorem eraseReps_of_isChain {xs : List β} (h : xs.IsChain (· ≠ ·)) : xs.eraseReps = xs := by
  induction xs with
  | nil => rfl
  | cons a xs ih =>
    cases xs with
    | nil => rfl
    | cons b xs =>
      obtain ⟨hne, hrest⟩ := List.isChain_cons_cons.mp h
      rw [eraseReps_cons_cons, if_neg hne, ih hrest]

/-- Dropping repetitions keeps the members. -/
theorem mem_eraseReps {x : β} {xs : List β} : x ∈ xs.eraseReps ↔ x ∈ xs := by
  induction xs with
  | nil => rfl
  | cons a xs ih =>
    cases xs with
    | nil => rfl
    | cons b xs =>
      rw [eraseReps_cons_cons]
      split
      · rename_i h
        rw [ih, h]
        simp
      · rw [List.mem_cons, ih, List.mem_cons (l := b :: xs)]

end Repetitions

namespace Formula

variable {α β : Type}

/-- Leaves of different values differ. -/
theorem leaf_inj [Keyed α] {x y : α} : leaf x = leaf y ↔ x = y := by
  constructor
  · intro h
    have hvalue : some x = some y := congrArg leaf? h
    exact Option.some.inj hvalue
  · exact congrArg leaf

/-- Sorting and erasing repetitions loses no operand. -/
theorem mem_operandSet [DecidableEq α] [Ord α] [Hinted α] {f : Formula α} {fs : List (Formula α)} :
    f ∈ operandSet fs ↔ f ∈ fs := by
  rw [operandSet, mem_eraseReps, List.mem_mergeSort]

@[simp] theorem operands_composite [DecidableEq α] [Ord α] [Hinted α] (kind : Connective)
    (fs : List (Formula α)) : (composite kind fs).operands = operandSet fs := rfl

/-! ### Shared composites -/

/-- The operands are folded one by one. -/
theorem foldList_eq_map (i : Interpretation α β) (fs : List (Formula α)) :
    foldList i fs = fs.map (fold i) := by
  induction fs with
  | nil => rfl
  | cons f fs ih => rw [foldList, ih, List.map_cons]

/-- What a memo knows of its formulas is right by `P`. -/
def Memo.All [DecidableEq α] (P : Formula α → β → Prop) (memo : Memo α β) : Prop :=
  ∀ f b, memo[f]? = some b → P f b

/-- A memo without entries has no wrong ones. -/
theorem Memo.all_empty [DecidableEq α] (P : Formula α → β → Prop) :
    Memo.All P (∅ : Memo α β) := by
  intro f b h
  simp at h

/-- An entry that is right may be added. -/
theorem Memo.All.insert [DecidableEq α] {P : Formula α → β → Prop} {memo : Memo α β}
    (h : memo.All P) {f : Formula α} {b : β} (hb : P f b) : Memo.All P (memo.insert f b) := by
  intro f' b' h'
  rw [Std.HashMap.getElem?_insert] at h'
  split at h'
  · rename_i same
    rw [← eq_of_beq same, ← Option.some.inj h']
    exact hb
  · exact h f' b' h'

/-- What a memo of `foldMemo` knows is what the formulas stand for. -/
abbrev Memo.Sound [DecidableEq α] (i : Interpretation α β) (memo : Memo α β) : Prop :=
  memo.All fun f b => b = fold i f

mutual

/-- With a memo that is right, folding gives what it gives without one, and the memo stays right. -/
theorem foldMemo_spec [DecidableEq α] (i : Interpretation α β) (f : Formula α) (memo : Memo α β)
    (h : memo.Sound i) :
    (foldMemo i f memo).1 = fold i f ∧ (foldMemo i f memo).2.Sound i := by
  match f with
  | .const value => exact ⟨by rw [foldMemo, fold], by rw [foldMemo]; exact h⟩
  | .atom key value => exact ⟨by rw [foldMemo, fold], by rw [foldMemo]; exact h⟩
  | .node kind key operands =>
    obtain ⟨hparts, hmemo⟩ := foldListMemo_spec i operands memo h
    have hresult : i.node kind (foldListMemo i operands memo).1 =
        fold i (.node kind key operands) := by rw [fold, hparts]
    rw [foldMemo]
    cases hknown : memo[Formula.node kind key operands]? with
    | some known => exact ⟨h _ _ hknown, h⟩
    | none =>
      exact ⟨hresult, hmemo.insert hresult⟩

/-- The same holds of operands that are folded one after the other and share the memo. -/
theorem foldListMemo_spec [DecidableEq α] (i : Interpretation α β) (fs : List (Formula α))
    (memo : Memo α β) (h : memo.Sound i) :
    (foldListMemo i fs memo).1 = foldList i fs ∧ (foldListMemo i fs memo).2.Sound i := by
  match fs with
  | [] => exact ⟨by rw [foldListMemo, foldList], by rw [foldListMemo]; exact h⟩
  | f :: fs =>
    obtain ⟨hpart, hmemo⟩ := foldMemo_spec i f memo h
    obtain ⟨hparts, hmemo⟩ := foldListMemo_spec i fs _ hmemo
    rw [foldListMemo, foldList, ← hpart, ← hparts]
    exact ⟨rfl, hmemo⟩

end

/-- Reading every shared composite once gives what reading the whole tree gives. -/
theorem foldShared_eq_fold [DecidableEq α] (i : Interpretation α β) (f : Formula α) :
    f.foldShared i = f.fold i :=
  (foldMemo_spec i f ∅ (Memo.all_empty _)).1

/-! ### Truth -/

section Truth

variable {truth : α → Bool}

@[simp] theorem holds_const (value : Bool) : Holds truth (.const value) ↔ value = true := by
  rw [Holds, fold, truthOf]

@[simp] theorem holds_atom (key : UInt64) (x : α) : Holds truth (.atom key x) ↔ truth x = true := by
  rw [Holds, fold, truthOf]

@[simp] theorem holds_leaf [Keyed α] (x : α) : Holds truth (leaf x) ↔ truth x = true :=
  holds_atom _ x

@[simp] theorem holds_node (kind : Connective) (key : UInt64) (fs : List (Formula α)) :
    Holds truth (.node kind key fs) ↔ kind.Joins (Holds truth) fs := by
  rw [Holds, fold, foldList_eq_map]
  cases kind <;> simp [truthOf, Holds]

/-- Where a composite with operands holds, so does one of them. -/
theorem exists_holds_operand {kind : Connective} {key : UInt64} {fs : List (Formula α)}
    (h : Holds truth (.node kind key fs)) (hne : ¬(kind = .and ∧ fs = [])) :
    ∃ f ∈ fs, Holds truth f := by
  rw [holds_node] at h
  cases kind with
  | or => exact h
  | and =>
    obtain ⟨f, hf⟩ := List.exists_mem_of_ne_nil fs fun hnil => hne ⟨rfl, hnil⟩
    exact ⟨f, hf, h f hf⟩

/-- Sorting the operands and erasing repetitions does not change when a composite holds. -/
@[simp] theorem holds_composite [DecidableEq α] [Ord α] [Hinted α] (kind : Connective)
    (fs : List (Formula α)) : Holds truth (composite kind fs) ↔ kind.Joins (Holds truth) fs := by
  refine (holds_node kind _ _).trans ?_
  exact kind.joins_congr_mem fun _ => mem_operandSet

/-- `evaluate` decides truth. -/
theorem evaluate_iff [DecidableEq α] (f : Formula α) :
    f.evaluate truth = true ↔ Holds truth f := by
  rw [evaluate, foldShared_eq_fold, Holds]

end Truth

end Formula

end GramSieve
