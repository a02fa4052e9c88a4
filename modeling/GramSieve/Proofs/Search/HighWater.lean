import GramSieve.Proofs.Search.Timeout
import Mathlib

/-!
# The high-water mark of a clock

A deadline remembers the longest time that a clock has shown since the first check, wherever the clock
goes after that.

* `Deadline.check_of_running` — what a check leaves behind while there is time.
* `Deadline.observed` — the readings that count: all up to the first one that is too late.
* `Deadline.Follows` — what a deadline knows after some checks.
* `Deadline.Follows.check_over`, `Deadline.Follows.check_inTime` — one more check keeps this, whether the
  time is over or not.
* `Deadline.follows_after` — so it is true after any number of checks.
* `Deadline.follows_clock` — when the time is over, and how much of it has passed.
-/

namespace GramSieve.Deadline

variable {d : Deadline} {budget n now : Nat} {readings : Nat → Nat}

/-! ### One check -/

/-- What a check leaves behind while there is time. -/
theorem check_of_running (hrunning : d.isExpired = false) (hbudget : 0 < d.budget) :
    (d.check now).2 =
      { budget := d.budget
        started := some (d.started.getD now)
        elapsed := max d.elapsed (now - d.started.getD now)
        isExpired := decide (d.budget < max d.elapsed (now - d.started.getD now)) } := by
  unfold check
  rw [if_neg (by simp [hrunning]), if_neg (Nat.ne_of_gt hbudget)]
  dsimp only
  split
  · rename_i hover
    simp [hover]
  · rename_i hover
    simp [hover, hrunning]

/-- No time is taken back. -/
theorem elapsed_le_check (d : Deadline) (now : Nat) : d.elapsed ≤ (d.check now).2.elapsed := by
  unfold check
  split
  · exact Nat.le_refl _
  · split
    · exact Nat.le_refl _
    · dsimp only
      split <;> exact Nat.le_max_left _ _

/-! ### Any number of checks -/

/-- The time is over after some checks if one of them said so. -/
theorem isExpired_after_iff (hrunning : d.isExpired = false) :
    (d.after readings n).isExpired = true ↔ ∃ i < n, d.statusAt readings i = .expired := by
  induction n with
  | zero => simp [after, hrunning]
  | succ n ih =>
    rw [isExpired_after_succ]
    constructor
    · exact fun h => ⟨n, Nat.lt_succ_self n, h⟩
    · rintro ⟨i, hi, hexpired⟩
      rcases Nat.lt_succ_iff_lt_or_eq.mp hi with hlt | rfl
      · rw [statusAt, check_of_isExpired (ih.mpr ⟨i, hlt, hexpired⟩)]
      · exact hexpired

/-- Of the first `n` readings, those up to the first one that is too late. Behind that one the clock is
not looked at. -/
def observed (budget : Nat) (readings : Nat → Nat) (n : Nat) : Finset Nat :=
  (Finset.range n).filter fun j => ∀ i < j, readings i ≤ readings 0 + budget

/-- Behind a reading that was too late no other counts. -/
theorem observed_succ_of_over (h : ∃ i < n, readings 0 + budget < readings i) :
    observed budget readings (n + 1) = observed budget readings n := by
  obtain ⟨i, hi, hover⟩ := h
  rw [observed, Finset.range_add_one, Finset.filter_insert, if_neg]
  · rfl
  · exact fun hall => Nat.not_le_of_lt hover (hall i hi)

/-- As long as none was, the next one counts. -/
theorem observed_succ_of_inTime (h : ∀ i < n, readings i ≤ readings 0 + budget) :
    observed budget readings (n + 1) = insert n (observed budget readings n) := by
  rw [observed, Finset.range_add_one, Finset.filter_insert, if_pos h]
  rfl

/-- What a deadline knows after the first `n` readings. -/
structure Follows (budget : Nat) (readings : Nat → Nat) (n : Nat) (d : Deadline) : Prop where
  budget_eq : d.budget = budget
  started : d.started = if n = 0 then none else some (readings 0)
  elapsed : d.elapsed = (observed budget readings n).sup fun j => readings j - readings 0
  isExpired : d.isExpired = true ↔ ∃ i < n, readings 0 + budget < readings i

/-- Before the first reading the clock has not started. -/
theorem follows_zero (budget : Nat) (readings : Nat → Nat) :
    Follows budget readings 0 { budget } where
  budget_eq := rfl
  started := rfl
  elapsed := rfl
  isExpired := by simp

/-- As long as there is time, no more than the budget has passed. -/
theorem Follows.elapsed_le (h : Follows budget readings n d)
    (htime : ∀ i < n, readings i ≤ readings 0 + budget) : d.elapsed ≤ budget := by
  rw [h.elapsed]
  refine Finset.sup_le fun j hj => ?_
  have hlt : j < n := Finset.mem_range.mp (Finset.mem_filter.mp hj).1
  have := htime j hlt
  omega

/-- Time runs from the first reading. -/
theorem Follows.getD_started (h : Follows budget readings n d) :
    d.started.getD (readings n) = readings 0 := by
  rw [h.started]
  split
  · rename_i hzero
    rw [hzero, Option.getD_none]
  · rfl

/-- When the time is over, nothing changes any more. -/
theorem Follows.check_over (h : Follows budget readings n d)
    (hover : ∃ i < n, readings 0 + budget < readings i) :
    Follows budget readings (n + 1) (d.check (readings n)).2 := by
  have hexpired := h.isExpired.mpr hover
  rw [check_of_isExpired hexpired]
  obtain ⟨i, hi, hlate⟩ := hover
  exact {
    budget_eq := h.budget_eq
    started := by rw [h.started, if_neg (by omega), if_neg (by omega)]
    elapsed := by rw [h.elapsed, observed_succ_of_over ⟨i, hi, hlate⟩]
    isExpired := iff_of_true hexpired ⟨i, Nat.lt_succ_of_lt hi, hlate⟩ }

/-- As long as there is time, one more reading is taken into account. -/
theorem Follows.check_inTime (h : Follows budget readings n d) (hbudget : 0 < budget)
    (htime : ∀ i < n, readings i ≤ readings 0 + budget) :
    Follows budget readings (n + 1) (d.check (readings n)).2 := by
  have hrunning : d.isExpired = false := by
    rw [← Bool.not_eq_true, h.isExpired]
    rintro ⟨i, hi, hlate⟩
    exact absurd (htime i hi) (Nat.not_le_of_lt hlate)
  have hle := h.elapsed_le htime
  rw [check_of_running hrunning (h.budget_eq ▸ hbudget), h.getD_started, h.budget_eq]
  exact {
    budget_eq := rfl
    started := rfl
    elapsed := by
      dsimp only
      rw [h.elapsed, observed_succ_of_inTime htime, Finset.sup_insert, max_comm]
    isExpired := by
      -- What passed before is no more than the budget, so the new reading decides.
      rw [decide_eq_true_iff, lt_max_iff, or_iff_right (Nat.not_lt_of_le hle)]
      constructor
      · exact fun hlate => ⟨n, Nat.lt_succ_self n, by omega⟩
      · rintro ⟨i, hi, hlate⟩
        rcases Nat.lt_succ_iff_lt_or_eq.mp hi with hlt | rfl
        · exact absurd (htime i hlt) (Nat.not_le_of_lt hlate)
        · omega }

/-- One more check goes on like this. -/
theorem Follows.check (h : Follows budget readings n d) (hbudget : 0 < budget) :
    Follows budget readings (n + 1) (d.check (readings n)).2 := by
  by_cases hover : ∃ i < n, readings 0 + budget < readings i
  · exact h.check_over hover
  · refine h.check_inTime hbudget fun i hi => Nat.le_of_not_lt fun hlate => ?_
    exact hover ⟨i, hi, hlate⟩

/-- After any number of readings a deadline knows what it should. -/
theorem follows_after (hbudget : 0 < budget) (readings : Nat → Nat) (n : Nat) :
    Follows budget readings n (({ budget } : Deadline).after readings n) := by
  induction n with
  | zero => exact follows_zero budget readings
  | succ n ih => exact ih.check hbudget

/-- **Deadlines follow the high-water mark of the clock.** Whatever a clock shows at the checks of a
deadline, in any order, a check says that the time is over exactly if some reading so far is later than the
first one by more than the budget. The time that has passed is the longest time since the first reading
that a reading up to the first late one has shown, or zero if the clock only went backwards. It never gets
shorter, and the time is over exactly if some check has said so. Without a budget there is always time, and
none ever passes. -/
theorem follows_clock (budget : Nat) (readings : Nat → Nat) :
    let d : Deadline := { budget }
    (0 < budget → ∀ n,
      (d.statusAt readings n = .expired ↔ ∃ i ≤ n, readings 0 + budget < readings i) ∧
      (d.after readings (n + 1)).elapsed =
        (observed budget readings (n + 1)).sup fun j => readings j - readings 0) ∧
    (budget = 0 → ∀ n, d.statusAt readings n = .running ∧ (d.after readings n).elapsed = 0) ∧
    ∀ n, (d.after readings n).elapsed ≤ (d.after readings (n + 1)).elapsed ∧
      ((d.after readings n).isExpired = true ↔ ∃ i < n, d.statusAt readings i = .expired) := by
  intro d
  refine ⟨fun hbudget n => ?_, fun hbudget n => ?_, fun n => ⟨elapsed_le_check _ _, ?_⟩⟩
  · have hfollows := follows_after hbudget readings (n + 1)
    refine ⟨?_, hfollows.elapsed⟩
    rw [← isExpired_after_succ, hfollows.isExpired]
    simp only [Nat.lt_succ_iff]
  -- A budget of zero is no limit.
  · have hunlimited : d.Unlimited := ⟨hbudget, rfl⟩
    rw [statusAt, hunlimited.after, hunlimited.check]
    exact ⟨rfl, rfl⟩
  · exact isExpired_after_iff rfl

/-- The clock is set back and then goes on until the time is over. What it shows later does not count. -/
theorem follows_clock_setBack :
    let d : Deadline := { budget := 100 }
    let readings : Nat → Nat := fun n => [1000, 1050, 900, 1101, 2000].getD n 0
    0 < 100 ∧ d.statusAt readings 2 ≠ .expired ∧ d.statusAt readings 4 = .expired ∧
      (d.after readings 5).elapsed = 101 := by
  intro d readings
  have hbudget : 0 < 100 := by decide
  have hclock := (follows_clock 100 readings).1 hbudget
  exact ⟨hbudget, (hclock 2).1.not.mpr (by decide), (hclock 4).1.mpr (by decide),
    (hclock 4).2.trans (by decide)⟩

end GramSieve.Deadline
