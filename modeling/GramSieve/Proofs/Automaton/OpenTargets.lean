import GramSieve.Proofs.Automaton.Closure

namespace GramSieve.Automaton

/-!
# The open targets of a sweep

* `Nfa.arrows`, `Nfa.leads_iff_arrow` — the ranges that leave a set of states and where they lead.
* `opened`, `closed` — how often a target is opened and closed in a list of boundaries.
* `closed_le_opened` — in no part of a sorted list are there more ends than starts.
* `OpenTargets.Tracks`, `OpenTargets.Tracks.cross` — the open targets count the starts without an end.
* `Nfa.leads_iff_opened` — between two boundary points a code point leads to what is open there.
-/

/-- The ranges that leave a set of states, with the states they lead to. -/
def Nfa.arrows (nfa : Nfa) (set : List Nat) : List (CodeRange × Nat) :=
  set.flatMap fun s =>
    match nfa.states[s]? with
    | none => []
    | some state => state.ranges.map (·, state.next)

/-- The boundaries of a range. -/
def ends (arrow : CodeRange × Nat) : List Boundary :=
  [⟨arrow.1.lo, true, arrow.2⟩, ⟨arrow.1.hi + 1, false, arrow.2⟩]

/-- How often a list of boundaries opens a target. -/
def opened (target : Nat) (bs : List Boundary) : Nat :=
  bs.countP fun b => b.opens && b.target == target

/-- How often a list of boundaries closes a target. -/
def closed (target : Nat) (bs : List Boundary) : Nat :=
  bs.countP fun b => !b.opens && b.target == target

variable {nfa : Nfa} {set : List Nat}

/-- A code point leads to a target if one of the arrows of the states has it in its range. -/
theorem Nfa.leads_iff_arrow {n target : Nat} :
    nfa.Leads set n target ↔ ∃ a ∈ nfa.arrows set, a.1.contains n ∧ a.2 = target := by
  constructor
  · rintro ⟨q, hq, s, hs, hc, rfl⟩
    obtain ⟨r, hr, hc⟩ := List.any_eq_true.mp hc
    refine ⟨(r, s.next), List.mem_flatMap.mpr ⟨q, hq, ?_⟩, hc, rfl⟩
    rw [hs]
    exact List.mem_map_of_mem hr
  · rintro ⟨a, ha, hc, rfl⟩
    obtain ⟨q, hq, ha⟩ := List.mem_flatMap.mp ha
    cases hs : nfa.states[q]? with
    | none => simp [hs] at ha
    | some s =>
      rw [hs] at ha
      obtain ⟨r, hr, rfl⟩ := List.mem_map.mp ha
      exact ⟨q, hq, s, hs, List.any_eq_true.mpr ⟨r, hr, hc⟩, rfl⟩

/-! ### Sorted boundaries -/

/-- Boundaries are ordered by their place, closing ones first, and then by their target. -/
theorem Boundary.le_iff {a b : Boundary} :
    a.le b ↔ a.point < b.point ∨ a.point = b.point ∧
      (a.opens = false ∧ b.opens = true ∨ a.opens = b.opens ∧ a.target ≤ b.target) := by
  simp [Boundary.le]

theorem Boundary.le_trans {a b c : Boundary} (hab : a.le b) (hbc : b.le c) : a.le c := by
  rw [Boundary.le_iff] at *
  grind

theorem Boundary.le_total (a b : Boundary) : a.le b || b.le a := by
  rw [Bool.or_eq_true, Boundary.le_iff, Boundary.le_iff]
  grind

/-- Later boundaries do not stand further left. -/
theorem Boundary.point_le_of_le {a b : Boundary} (h : a.le b) : a.point ≤ b.point := by
  rw [Boundary.le_iff] at h
  omega

/-- The boundaries are swept over in order. -/
theorem boundaries_sorted : (nfa.boundaries set).Pairwise (·.le ·) :=
  @List.pairwise_mergeSort _ Boundary.le (fun _ _ _ => Boundary.le_trans) Boundary.le_total _

/-- They are the two ends of each arrow, no end left out and none taken twice. -/
theorem boundaries_perm : (nfa.boundaries set).Perm ((nfa.arrows set).flatMap ends) := by
  refine (List.mergeSort_perm _ _).trans (.of_eq ?_)
  rw [Nfa.arrows, List.flatMap_assoc]
  refine List.flatMap_congr fun s _ => ?_
  cases nfa.states[s]? with
  | none => rfl
  | some state => rw [List.flatMap_map]; rfl

/-- What was passed does not lie behind a boundary, and what is ahead not before it. -/
theorem points_of_split {done rest : List Boundary} {b : Boundary}
    (h : nfa.boundaries set = done ++ b :: rest) :
    (∀ x ∈ done, x.point ≤ b.point) ∧ ∀ x ∈ rest, b.point ≤ x.point := by
  have hsorted : (nfa.boundaries set).Pairwise (·.le ·) := boundaries_sorted
  rw [h, List.pairwise_append, List.pairwise_cons] at hsorted
  exact ⟨fun x hx => Boundary.point_le_of_le (hsorted.2.2 x hx b (.head _)),
    fun x hx => Boundary.point_le_of_le (hsorted.2.1.1 x hx)⟩

/-- What is read lies between a boundary and another. -/
theorem Nfa.Leads.exists_boundaries {n target : Nat} (h : nfa.Leads set n target) :
    (∃ b ∈ nfa.boundaries set, b.point ≤ n) ∧ ∃ b ∈ nfa.boundaries set, n < b.point := by
  obtain ⟨a, ha, hn, -⟩ := Nfa.leads_iff_arrow.mp h
  simp only [CodeRange.contains, Bool.and_eq_true, decide_eq_true_eq] at hn
  have hmem (b) (hb : b ∈ ends a) : b ∈ nfa.boundaries set :=
    boundaries_perm.mem_iff.mpr (List.mem_flatMap.mpr ⟨a, ha, hb⟩)
  exact ⟨⟨_, hmem _ (.head _), hn.1⟩, ⟨_, hmem _ (.tail _ (.head _)), Nat.lt_succ_of_le hn.2⟩⟩

/-! ### Counting -/

/-- Starts of ranges are counted by the ranges. -/
theorem countP_opens (p : Boundary → Bool) (target : Nat) (arrows : List (CodeRange × Nat)) :
    (arrows.flatMap ends).countP (fun b => b.opens && b.target == target && p b) =
      arrows.countP fun a => a.2 == target && p ⟨a.1.lo, true, a.2⟩ := by
  induction arrows with
  | nil => rfl
  | cons a arrows ih =>
    rw [List.flatMap_cons, List.countP_append, ih, List.countP_cons]
    simp [ends, List.countP_cons, Nat.add_comm]

/-- Ends of ranges are counted by the ranges. -/
theorem countP_closes (p : Boundary → Bool) (target : Nat) (arrows : List (CodeRange × Nat)) :
    (arrows.flatMap ends).countP (fun b => !b.opens && b.target == target && p b) =
      arrows.countP fun a => a.2 == target && p ⟨a.1.hi + 1, false, a.2⟩ := by
  induction arrows with
  | nil => rfl
  | cons a arrows ih =>
    rw [List.flatMap_cons, List.countP_append, ih, List.countP_cons]
    simp [ends, List.countP_cons, Nat.add_comm]

/-- A test that holds of what was passed and fails for what is ahead counts what was passed. -/
theorem countP_passed {p q : Boundary → Bool} {done rest : List Boundary}
    (hdone : ∀ b ∈ done, q b) (hrest : ∀ b ∈ rest, q b = false) :
    (done ++ rest).countP (fun b => p b && q b) = done.countP p := by
  have hahead : rest.countP (fun b => p b && q b) = 0 := by
    rw [List.countP_eq_zero]
    intro b hb
    simp [hrest b hb]
  rw [List.countP_append, hahead, Nat.add_zero]
  exact List.countP_congr fun b hb => by simp [hdone b hb]

/-- A code point is in a range that starts at it or before it and does not end before it. -/
theorem exists_contains_iff {n target : Nat} {arrows : List (CodeRange × Nat)} :
    (∃ a ∈ arrows, a.1.contains n ∧ a.2 = target) ↔
      (arrows.countP fun a => a.2 == target && decide (a.1.hi + 1 ≤ n)) <
        arrows.countP fun a => a.2 == target && decide (a.1.lo ≤ n) := by
  induction arrows with
  | nil => simp
  | cons a arrows ih =>
    -- An arrow has ended at a point only if it has started there before, so fewer have ended than
    -- started.
    have hle : arrows.countP (fun a => a.2 == target && decide (a.1.hi + 1 ≤ n)) ≤
        arrows.countP fun a => a.2 == target && decide (a.1.lo ≤ n) := by
      refine List.countP_mono_left fun a _ ha => ?_
      have := a.1.lo_le_hi
      simp only [Bool.and_eq_true, decide_eq_true_eq] at ha ⊢
      exact ⟨ha.1, by omega⟩
    have hlohi := a.1.lo_le_hi
    simp only [List.mem_cons, exists_eq_or_imp, List.countP_cons]
    rw [ih, CodeRange.contains]
    grind

/-- In no part of the boundaries that was passed are there more ends than starts. -/
theorem closed_le_opened {done rest : List Boundary} (h : nfa.boundaries set = done ++ rest)
    (target : Nat) : closed target done ≤ opened target done := by
  obtain rfl | ⟨before, b, rfl⟩ := List.eq_nil_or_concat done
  · rfl
  rw [List.concat_eq_append] at *
  have hsorted : (nfa.boundaries set).Pairwise (·.le ·) := boundaries_sorted
  rw [h, List.pairwise_append] at hsorted
  obtain ⟨hdone, -, hrest⟩ := hsorted
  have hlast (x) (hx : x ∈ before ++ [b]) : x.le b := by
    obtain hx | hx := List.mem_append.mp hx
    · exact (List.pairwise_append.mp hdone).2.2 x hx b (.head _)
    · rw [List.mem_singleton.mp hx, Boundary.le_iff]
      simp
  -- A range that ends at `b` or before it starts before `b`, so its start was passed.
  calc closed target (before ++ [b])
      ≤ (nfa.boundaries set).countP fun x => !x.opens && x.target == target && x.le b := by
        rw [h, List.countP_append]
        refine Nat.le_add_right_of_le (List.countP_mono_left fun x hx hclose => ?_)
        rw [hclose, hlast x hx]
        rfl
    _ = (nfa.arrows set).countP fun a =>
          a.2 == target && Boundary.le ⟨a.1.hi + 1, false, a.2⟩ b := by
        rw [boundaries_perm.countP_eq, countP_closes]
    _ ≤ (nfa.arrows set).countP fun a =>
          a.2 == target && !b.le ⟨a.1.lo, true, a.2⟩ := by
        refine List.countP_mono_left fun a _ ha => ?_
        rw [Bool.and_eq_true] at ha ⊢
        refine ⟨ha.1, ?_⟩
        rw [Bool.not_eq_true', Bool.eq_false_iff]
        intro hb
        have := Boundary.point_le_of_le (Boundary.le_trans ha.2 hb)
        have := a.1.lo_le_hi
        simp only at *
        omega
    _ = (nfa.boundaries set).countP fun x => x.opens && x.target == target && !b.le x := by
        rw [boundaries_perm.countP_eq, countP_opens _ target]
    _ ≤ opened target (before ++ [b]) := by
        have hahead :
            (rest.countP fun x => x.opens && x.target == target && !b.le x) = 0 := by
          rw [List.countP_eq_zero]
          intro x hx
          simp [hrest b (by simp) x hx]
        rw [h, List.countP_append, hahead, Nat.add_zero]
        refine List.countP_mono_left fun x _ hx => ?_
        rw [Bool.and_eq_true] at hx
        exact hx.1

/-- Between two boundary points a code point leads to the targets with more starts than ends. -/
theorem Nfa.leads_iff_opened {done rest : List Boundary} {n : Nat}
    (h : nfa.boundaries set = done ++ rest) (hdone : ∀ b ∈ done, b.point ≤ n)
    (hrest : ∀ b ∈ rest, n < b.point) (target : Nat) :
    nfa.Leads set n target ↔ closed target done < opened target done := by
  have hopened : opened target done =
      (nfa.arrows set).countP fun a => a.2 == target && decide (a.1.lo ≤ n) := by
    rw [← countP_opens (fun b => decide (b.point ≤ n)), ← boundaries_perm.countP_eq, h]
    exact (countP_passed (by simpa using hdone) (by simpa using hrest)).symm
  have hclosed : closed target done =
      (nfa.arrows set).countP fun a => a.2 == target && decide (a.1.hi + 1 ≤ n) := by
    rw [← countP_closes (fun b => decide (b.point ≤ n)), ← boundaries_perm.countP_eq, h]
    exact (countP_passed (by simpa using hdone) (by simpa using hrest)).symm
  rw [leads_iff_arrow, hopened, hclosed, exists_contains_iff]

/-! ### The open targets -/

/-- The open targets count the starts of each target that have no end yet. -/
def OpenTargets.Tracks (active : OpenTargets) (done : List Boundary) : Prop :=
  ∀ target, active[target]? =
    if opened target done ≤ closed target done then none
    else some (opened target done - closed target done)

/-- Crossing a boundary keeps the count of the arrows that are open at each target. A target is not
closed more often than it was opened, since an arrow opens before it closes. -/
theorem OpenTargets.Tracks.cross {nfa : Nfa} {set : List Nat} {active : OpenTargets}
    {done rest : List Boundary} {b : Boundary} (h : active.Tracks done) (hsplit : nfa.boundaries set = done ++ b :: rest) :
    (active.cross b).Tracks (done ++ [b]) := by
  intro target
  have hbefore := closed_le_opened hsplit target
  rw [← List.singleton_append, ← List.append_assoc] at hsplit
  have hafter := closed_le_opened hsplit target
  have htarget := h target
  have hopened : opened target (done ++ [b]) =
      opened target done + if b.opens && b.target == target then 1 else 0 := by
    simp [opened, List.countP_append, List.countP_cons]
  have hclosed : closed target (done ++ [b]) =
      closed target done + if !b.opens && b.target == target then 1 else 0 := by
    simp [closed, List.countP_append, List.countP_cons]
  rw [OpenTargets.cross, Std.TreeMap.getElem?_alter, hopened, hclosed]
  by_cases hb : b.target = target
  · rw [if_pos (by simp [hb]), hb, htarget]
    cases hopens : b.opens with
    | true => grind
    | false =>
      -- The end of a range comes after its start, so the target is open.
      obtain ⟨k, hk⟩ : ∃ k, opened target done = closed target done + 1 + k :=
        Nat.exists_eq_add_of_le (by simp [hopens, hb] at hopened hclosed; omega)
      rw [if_neg (by omega), show opened target done - closed target done = k + 1 by omega]
      cases k <;> simp <;> omega
  · rw [if_neg (by simpa [compare_eq_iff_eq] using hb), htarget]
    grind

/-- A target is among the open ones while more arrows to it were opened than closed. -/
theorem OpenTargets.Tracks.mem_keys {active : OpenTargets} {done : List Boundary}
    (h : active.Tracks done) {target : Nat} :
    target ∈ active.keys ↔ closed target done < opened target done := by
  rw [Std.TreeMap.mem_keys, Std.TreeMap.mem_iff_isSome_getElem?, h target]
  split <;> simp <;> omega

end GramSieve.Automaton
