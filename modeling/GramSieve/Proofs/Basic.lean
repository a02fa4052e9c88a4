namespace GramSieve

/-!
# Facts about steps that may fail, about arrays that grow, and about characters

* `ok_bind` — a step that succeeds hands its result to the next one.
* `ok_of_bind`, `ok_of_map` — if steps in a row succeed, each of them does.
* `getElem?_push_of_getElem?` — what is in an array stays where it is when more is added.
* `eq_of_getElem?_eq_some` — what is in an array without repetitions has one place.
* `Numbers`, `Numbers.push` — the members of an array have their places as numbers.
* `toNat_ofNat_of_isValidChar` — the code point of a character gives it back.
-/

universe u v

theorem ok_bind {ε : Type u} {α β : Type v} (a : α) (f : α → Except ε β) :
    (Except.ok a >>= f) = f a := rfl

/-- Two steps in a row succeed only if both of them do. -/
theorem ok_of_bind {ε : Type u} {α β : Type v} {x : Except ε α} {f : α → Except ε β} {b : β}
    (h : (x >>= f) = .ok b) : ∃ a, x = .ok a ∧ f a = .ok b := by
  cases x with
  | error e => cases h
  | ok a => exact ⟨a, rfl, h⟩

/-- What is made of a result was made of one. -/
theorem ok_of_map {ε : Type u} {α β : Type v} {x : Except ε α} {f : α → β} {b : β}
    (h : x.map f = .ok b) : ∃ a, x = .ok a ∧ f a = b := by
  cases x with
  | error e => cases h
  | ok a => exact ⟨a, rfl, Except.ok.inj h⟩

/-- What is in an array stays at its index when something is added behind it. -/
theorem getElem?_push_of_getElem? {α : Type u} {xs : Array α} {x y : α} {n : Nat}
    (h : xs[n]? = some x) : (xs.push y)[n]? = some x := by
  have hlt := (Array.getElem?_eq_some_iff.mp h).1
  rw [Array.getElem?_push_lt hlt, ← Array.getElem?_eq_getElem hlt, h]

/-- Without repetitions, a member has one place only. -/
theorem eq_of_getElem?_eq_some {α : Type u} {xs : Array α} {x : α} {n m : Nat} (h : xs.toList.Nodup)
    (hn : xs[n]? = some x) (hm : xs[m]? = some x) : n = m := by
  refine (List.getElem?_inj ?_ h).mp ?_
  · rw [Array.length_toList]
    exact (Array.getElem?_eq_some_iff.mp hn).1
  · rw [Array.getElem?_toList, Array.getElem?_toList, hn, hm]

theorem toNat_ofNat_of_isValidChar {n : Nat} (h : n.isValidChar) : (Char.ofNat n).toNat = n := by
  rw [Char.ofNat, dif_pos h]
  rfl

/-! ### Numbers -/

/-- Each member of an array has its number, and nothing else has one. -/
def Numbers {β : Type} (number : β → Option Nat) (xs : Array β) : Prop :=
  ∀ x n, number x = some n ↔ xs[n]? = some x

section Numbers

variable {β : Type} {number number' : β → Option Nat} {xs : Array β} {x : β}

/-- What has no number is not among the values. -/
theorem Numbers.not_mem (h : Numbers number xs) (hx : number x = none) : x ∉ xs.toList := by
  intro hmem
  obtain ⟨n, hn⟩ := List.mem_iff_getElem?.mp hmem
  rw [Array.getElem?_toList] at hn
  rw [(h x n).mpr hn] at hx
  cases hx

/-- A member that was there twice would have two numbers. -/
theorem Numbers.nodup (h : Numbers number xs) : xs.toList.Nodup := by
  have hnumber {i : Nat} (hi : i < xs.toList.length) : number xs.toList[i] = some i := by
    rw [h, ← Array.getElem?_toList]
    exact List.getElem?_eq_getElem hi
  refine List.pairwise_iff_getElem.mpr fun i j hi hj hlt heq => ?_
  have hsame := hnumber hi
  rw [heq, hnumber hj] at hsame
  exact Nat.ne_of_gt hlt (Option.some.inj hsame)

/-- A new value has the index behind all others, and no other index. -/
theorem getElem?_push_eq_some_self {n : Nat} (hx : x ∉ xs.toList) :
    (xs.push x)[n]? = some x ↔ n = xs.size := by
  rw [Array.getElem?_push]
  by_cases hn : n = xs.size
  · simp [hn]
  · have hold : xs[n]? ≠ some x := fun hget =>
      hx (Array.mem_toList_iff.mpr (Array.mem_of_getElem? hget))
    simp [hn, hold]

/-- The next number goes to the new member. -/
theorem Numbers.push [DecidableEq β] (h : Numbers number xs) (hx : number x = none)
    (hnumber' : ∀ y, number' y = if x = y then some xs.size else number y) :
    Numbers number' (xs.push x) := by
  intro y n
  rw [hnumber']
  by_cases hxy : x = y
  · subst hxy
    rw [if_pos rfl, getElem?_push_eq_some_self (h.not_mem hx), Option.some.injEq, eq_comm]
  · rw [if_neg hxy, h, Array.getElem?_push]
    by_cases hn : n = xs.size
    · simp [hn, hxy]
    · simp [hn]

end Numbers

end GramSieve
