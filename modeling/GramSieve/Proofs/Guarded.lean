import GramSieve.Proofs.Basic
import Mathlib.Data.Set.Card

namespace GramSieve

/-!
# Limits that only guard

A walk stops with an error once it has found more than a limit allows. Such a limit should decide
whether there is a result, and never which one.

* `Guarded` — with any limit a step gives the same result, unless the limit does not allow it.
* `guarded_ok`, `guarded_add` — a step that adds nothing, and one that adds one thing.
* `Guarded.bind`, `exists_guarded_foldlM` — steps in a row are guarded if each of them is.
* `exists_guarded_walk` — a walk that can only find so much is guarded if each of its turns is.
* `Numbers.size_le`, `encard_eq_size` — how much there is in an array without repetitions.
-/

universe u

variable {ε β γ : Type u} {error : Nat → ε} {size : β → Nat} {size' : γ → Nat} {before : Nat}
  {result : β} {result' : γ}

/-- A step goes on from what has the size `before`. With any limit that allows this much it gives the
same result, unless the result is too large. -/
structure Guarded (error : Nat → ε) (size : β → Nat) (before : Nat) (step : Nat → Except ε β)
    (result : β) : Prop where
  le : before ≤ size result
  eq : ∀ limit, before ≤ limit →
    step limit = if limit < size result then .error (error limit) else .ok result

/-- A step that adds nothing needs no limit. -/
theorem guarded_ok (error : Nat → ε) (size : β → Nat) (b : β) :
    Guarded error size (size b) (fun _ => .ok b) b where
  le := Nat.le_refl _
  eq _ hlimit := (if_neg (Nat.not_lt_of_le hlimit)).symm

/-- A step that adds one thing looks at the limit first. -/
theorem guarded_add (hsize : size result = before + 1) : Guarded error size before
    (fun limit => if limit ≤ before then .error (error limit) else .ok result) result where
  le := hsize ▸ Nat.le_succ before
  eq limit _ := by simp only [hsize, Nat.lt_add_one_iff]

/-- A step that does the same with every limit that matters is guarded as well. -/
theorem Guarded.congr {step step' : Nat → Except ε β} (h : Guarded error size before step result)
    (heq : ∀ limit, before ≤ limit → step' limit = step limit) :
    Guarded error size before step' result where
  le := h.le
  eq limit hlimit := (heq limit hlimit).trans (h.eq limit hlimit)

/-- The next step goes on from the result of the first. -/
theorem Guarded.bind {step : Nat → Except ε β} (h : Guarded error size before step result)
    (next : Nat → β → Except ε γ)
    (hnext : Guarded error size' (size result) (next · result) result') :
    Guarded error size' before (fun limit => step limit >>= next limit) result' where
  le := Nat.le_trans h.le hnext.le
  eq limit hlimit := by
    rw [h.eq limit hlimit]
    by_cases hroom : limit < size result
    · rw [if_pos hroom, if_pos (Nat.lt_of_lt_of_le hroom hnext.le)]
      rfl
    · rw [if_neg hroom, ok_bind]
      exact hnext.eq limit (Nat.le_of_not_lt hroom)

/-- What is done with the result in the end changes no sizes. -/
theorem Guarded.map {step : Nat → Except ε β} (h : Guarded error size before step result)
    (size' : γ → Nat) (f : β → γ) (hsize : size' (f result) = size result) :
    Guarded error size' before (fun limit => step limit >>= fun b => .ok (f b)) (f result) :=
  h.bind _ (hsize ▸ guarded_ok error size' (f result))

/-- A step for each member of a list, if every step is guarded and keeps an invariant. -/
theorem exists_guarded_foldlM {α : Type u} {P : β → Prop} (size : β → Nat)
    (step : Nat → β → α → Except ε β) (xs : List α) (hstep : ∀ b, P b → ∀ x ∈ xs, ∃ result, P result ∧
      Guarded error size (size b) (fun limit => step limit b x) result) {b : β} (hb : P b) :
    ∃ result, P result ∧
      Guarded error size (size b) (fun limit => xs.foldlM (step limit) b) result := by
  induction xs generalizing b with
  | nil => exact ⟨b, hb, guarded_ok error size b⟩
  | cons x xs ih =>
    obtain ⟨next, hnext, hfirst⟩ := hstep b hb x (.head _)
    obtain ⟨result, hresult, hrest⟩ := ih (fun b hb y hy => hstep b hb y (.tail _ hy)) hnext
    simp only [List.foldlM_cons]
    exact ⟨result, hresult, hfirst.bind _ hrest⟩

/-- A walk takes one turn for each thing that was found, and finds more on the way. There is not more
to find than `bound`, so that it ends. -/
theorem exists_guarded_walk {σ : Type u} {P : σ → Prop} (walk : Nat → σ → Except ε γ)
    (found turns : σ → Nat) (bound : Nat)
    (hbound : ∀ s, P s → turns s ≤ found s ∧ found s ≤ bound)
    (hdone : ∀ s, P s → turns s = found s →
      ∃ result, Guarded error size' (found s) (walk · s) result)
    (hturn : ∀ s, P s → turns s < found s → ∃ next step, P next ∧ turns next = turns s + 1 ∧
      Guarded error found (found s) step next ∧
        ∀ limit, found s ≤ limit → walk limit s = step limit >>= walk limit)
    {s : σ} (hs : P s) : ∃ result, Guarded error size' (found s) (walk · s) result := by
  obtain ⟨hle, hfound⟩ := hbound s hs
  rcases Nat.eq_or_lt_of_le hle with heq | hlt
  · exact hdone s hs heq
  · obtain ⟨next, step, hnext, hturns, hstep, heq⟩ := hturn s hs hlt
    obtain ⟨result, hrest⟩ := exists_guarded_walk walk found turns bound hbound hdone hturn hnext
    exact ⟨result, (hstep.bind walk hrest).congr heq⟩
termination_by bound - turns s

/-! ### How much there is -/

section Card

variable {δ : Type} {xs : Array δ} {S : Set δ}

/-- An array without repetitions that holds what a set holds is as large as the set. -/
theorem encard_eq_size (h : xs.toList.Nodup) (hmem : ∀ x, x ∈ xs ↔ x ∈ S) : S.encard = xs.size := by
  classical
  have hcoe : S = (xs.toList.toFinset : Set δ) := by
    ext x
    rw [List.coe_toFinset, Set.mem_ofPred_eq, Array.mem_toList_iff, hmem]
  rw [hcoe, Set.encard_coe_eq_coe_finsetCard, List.toFinset_card_of_nodup h, Array.length_toList]

/-- There are at most as many numbers as there are things to number. -/
theorem Numbers.size_le {number : δ → Option Nat} (h : Numbers number xs) (hS : S.Finite)
    (hmem : ∀ x ∈ xs, x ∈ S) : xs.size ≤ S.ncard := by
  have hcard := encard_eq_size (S := {x | x ∈ xs}) h.nodup fun _ => Iff.rfl
  have hncard : ({x | x ∈ xs} : Set δ).ncard = xs.size := by
    rw [Set.ncard, hcard, ENat.toNat_natCast]
  rw [← hncard]
  exact Set.ncard_le_ncard hmem hS

end Card

end GramSieve
