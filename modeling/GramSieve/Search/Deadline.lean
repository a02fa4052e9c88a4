namespace GramSieve

/-!
# Deadlines

* `Deadline` — a budget of time and what is left of it.
* `Deadline.check` — asks whether time is left, given what a clock shows.

Time runs from the first check. A clock that is set back takes no time back, and what has expired
stays expired.
-/

/-- Whether there is time left. -/
inductive DeadlineStatus where
  | running
  | expired
  deriving DecidableEq, Repr, Inhabited

/-- A budget of milliseconds, without a limit if it is 0. -/
structure Deadline where
  budget : Nat
  /-- The reading of the first check. -/
  started : Option Nat := none
  /-- The longest time since the first check that a clock has shown. -/
  elapsed : Nat := 0
  isExpired : Bool := false
  deriving DecidableEq, Repr, Inhabited

namespace Deadline

/-- Whether there is time left when the clock shows `now`. -/
def check (d : Deadline) (now : Nat) : DeadlineStatus × Deadline :=
  if d.isExpired then (.expired, d)
  else if d.budget = 0 then (.running, d)
  else
    let started := d.started.getD now
    let elapsed := max d.elapsed (now - started)
    if d.budget < elapsed then
      (.expired, { d with started := some started, elapsed, isExpired := true })
    else (.running, { d with started := some started, elapsed })

end Deadline

end GramSieve
