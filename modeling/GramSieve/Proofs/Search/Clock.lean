import GramSieve.Search.Deadline

/-!
# Actions that only read a clock

* `Yields` — an action reads a clock some times and then gives a value, whatever the clock shows.
* `Yields.pure`, `Yields.read`, `Yields.bind` — how actions are put together.
* `Deadline.check_of_isExpired`, `Deadline.Unlimited` — a deadline that has expired, and one
  that never does.
-/

namespace GramSieve

variable {m : Type → Type} [Monad m] {α β : Type}

/-- Reads a clock so many times. -/
def readTimes (clock : m Nat) : Nat → m Unit
  | 0 => pure ()
  | n + 1 => do
    let _ ← clock
    readTimes clock n

/-- An action reads a clock some times and then gives a value with a property. What the clock shows
makes no difference. -/
def Yields (clock : m Nat) (action : m α) (Q : α → Prop) : Prop :=
  ∃ n a, action = (do readTimes clock n; return a) ∧ Q a

namespace Yields

variable {clock : m Nat} {P : α → Prop} {Q : β → Prop}

/-- A weaker property holds as well. -/
theorem imp {action : m α} {P' : α → Prop} (h : Yields clock action P) (himp : ∀ a, P a → P' a) :
    Yields clock action P' := by
  obtain ⟨n, a, heq, ha⟩ := h
  exact ⟨n, a, heq, himp a ha⟩

variable [LawfulMonad m]

theorem pure {a : α} (h : P a) : Yields clock (pure a) P :=
  ⟨0, a, by rw [readTimes, pure_bind], h⟩

/-- What the clock shows is not used. -/
theorem read {next : Nat → m α} (hconst : ∀ now, next now = next 0) (h : Yields clock (next 0) P) :
    Yields clock (clock >>= next) P := by
  obtain ⟨n, a, heq, ha⟩ := h
  refine ⟨n + 1, a, ?_, ha⟩
  rw [readTimes, bind_assoc, ← heq]
  exact bind_congr hconst

/-- Readings one after the other are readings. -/
theorem readTimes_add (clock : m Nat) (k n : Nat) :
    (do readTimes clock k; readTimes clock n) = readTimes clock (k + n) := by
  induction k with
  | zero => rw [readTimes, pure_bind, Nat.zero_add]
  | succ k ih => rw [Nat.add_right_comm, readTimes, readTimes, bind_assoc, ih]

/-- A step can be followed by one that yields something for each of its results. -/
theorem bind {action : m α} {next : α → m β} (h : Yields clock action P)
    (hnext : ∀ a, P a → Yields clock (next a) Q) : Yields clock (action >>= next) Q := by
  obtain ⟨k, a, rfl, ha⟩ := h
  obtain ⟨n, b, hb, hQ⟩ := hnext a ha
  refine ⟨k + n, b, ?_, hQ⟩
  rw [bind_assoc, ← readTimes_add, bind_assoc]
  simp only [pure_bind, hb]

end Yields

/-- Time that is over is not given back. -/
theorem Deadline.check_of_isExpired {d : Deadline} (h : d.isExpired = true) (now : Nat) :
    d.check now = (.expired, d) := by
  unfold check
  rw [if_pos h]

/-- The deadline never expires. -/
structure Deadline.Unlimited (d : Deadline) : Prop where
  budget : d.budget = 0
  isExpired : d.isExpired = false

/-- Without a limit the time is never over, and nothing is noted. -/
theorem Deadline.Unlimited.check {d : Deadline} (h : d.Unlimited) (now : Nat) :
    d.check now = (.running, d) := by
  simp [Deadline.check, h.budget, h.isExpired]

end GramSieve
