import GramSieve.Proofs.Search.Clock
import GramSieve.Search.Execution

/-!
# Runs with a limit of time

* `ticking` — a clock that shows given readings, one after the other.
* `Deadline.statusAt` — what a check of a deadline says that is made with such a clock.
* `Deadline.Grants` — how many checks are made until one says that the time is over.
* `Search.Checks` — what a run leaves behind that checks candidates until the time is over.
* `Search.Searched` — what comes of such a run if the values of every document can be loaded.
* `Search.searched_confirmAll`, `Search.searched_run` — this comes of checking candidates, and of
  running a plan.
-/

namespace GramSieve

/-- A clock that shows given readings. The state is the number of readings so far. -/
def ticking (readings : Nat → Nat) : StateM Nat Nat :=
  modifyGet fun n => (readings n, n + 1)

/-- The second of two runs goes on where the first one stopped. -/
theorem run_bind {α β : Type} (first : StateM Nat α) (next : α → StateM Nat β) (n : Nat) :
    (first >>= next).run n = (next (first.run n).1).run (first.run n).2 :=
  rfl

theorem run_ticking_bind {α : Type} (readings : Nat → Nat) (next : Nat → StateM Nat α) (n : Nat) :
    (ticking readings >>= next).run n = (next (readings n)).run (n + 1) :=
  rfl

/-! ### Deadlines -/

namespace Deadline

variable {d : Deadline} {readings : Nat → Nat} {now n total total' k : Nat}

/-- A check says that the time is over if it is over after the check. -/
theorem isExpired_check : (d.check now).2.isExpired = true ↔ (d.check now).1 = .expired := by
  unfold check
  split
  · simpa
  · rename_i hrunning
    split
    · simpa using hrunning
    · dsimp only
      split
      · simp
      · simpa using hrunning

/-- The first check is always in time. -/
theorem check_fresh (budget now : Nat) : (({ budget } : Deadline).check now).1 = .running := by
  unfold check
  by_cases hbudget : budget = 0 <;> simp [hbudget]

/-- The deadline after so many checks with the given readings. -/
def after (d : Deadline) (readings : Nat → Nat) : Nat → Deadline
  | 0 => d
  | n + 1 => ((d.after readings n).check (readings n)).2

/-- What a check says that so many others were made before. -/
def statusAt (d : Deadline) (readings : Nat → Nat) (n : Nat) : DeadlineStatus :=
  ((d.after readings n).check (readings n)).1

theorem isExpired_after_succ :
    (d.after readings (n + 1)).isExpired = true ↔ d.statusAt readings n = .expired :=
  isExpired_check

/-- Of `total` checks that are wanted after `n` others, those are made that come before the first
one that says that the time is over, and `k` of them say that there is time left. -/
structure Grants (d : Deadline) (readings : Nat → Nat) (n total k : Nat) : Prop where
  le : k ≤ total
  running (i : Nat) : n ≤ i → i < n + k → d.statusAt readings i = .running
  expired : k < total → d.statusAt readings (n + k) = .expired

/-- No check is wanted, and none is made. -/
theorem Grants.none : d.Grants readings n 0 0 where
  le := Nat.le_refl 0
  running i hle hlt := by omega
  expired h := absurd h (Nat.lt_irrefl 0)

/-- One check is wanted and made, but it says that the time is over. -/
theorem Grants.over (h : d.statusAt readings n = .expired) : d.Grants readings n 1 0 where
  le := Nat.zero_le 1
  running i hle hlt := by omega
  expired _ := h

/-- One check is wanted and made in time. -/
theorem Grants.inTime (h : d.statusAt readings n = .running) : d.Grants readings n 1 1 where
  le := Nat.le_refl 1
  running i hle hlt := by
    obtain rfl : i = n := by omega
    exact h
  expired h := absurd h (Nat.lt_irrefl 1)

/-- More checks are wanted after all of them were in time. -/
theorem Grants.append (h : d.Grants readings n total total)
    (hrest : d.Grants readings (n + total) total' k) :
    d.Grants readings n (total + total') (total + k) where
  le := Nat.add_le_add_left hrest.le total
  running i hle hlt := by
    rcases Nat.lt_or_ge i (n + total) with hfirst | hsecond
    · exact h.running i hle hfirst
    · exact hrest.running i hsecond (by omega)
  expired hlt := by
    rw [← Nat.add_assoc]
    exact hrest.expired (by omega)

/-- More checks are wanted after the time was over. -/
theorem Grants.append_over (h : d.Grants readings n total k) (hlt : k < total) :
    d.Grants readings n (total + total') k where
  le := Nat.le_add_right_of_le h.le
  running := h.running
  expired _ := h.expired hlt

/-- The first of the checks is in time. -/
theorem Grants.pos_of_fresh {budget : Nat} (h : ({ budget } : Deadline).Grants readings 0 total k)
    (htotal : 0 < total) : 0 < k := by
  refine Nat.pos_of_ne_zero fun hzero => ?_
  have hexpired := h.expired (hzero ▸ htotal)
  rw [hzero] at hexpired
  exact nomatch hexpired.symm.trans (check_fresh budget (readings 0))

/-- Checks do not change a deadline that never expires. -/
theorem Unlimited.after (hd : d.Unlimited) (readings : Nat → Nat) (n : Nat) :
    d.after readings n = d := by
  induction n with
  | zero => rfl
  | succ n ih => rw [Deadline.after, ih, hd.check]

/-- All checks are made if none of them says that the time is over. -/
theorem Grants.eq_of_unlimited (h : d.Grants readings n total k) (hd : d.Unlimited) : k = total := by
  refine Nat.le_antisymm h.le (Nat.le_of_not_lt fun hlt => ?_)
  have hexpired := h.expired hlt
  rw [statusAt, hd.after, hd.check] at hexpired
  exact nomatch hexpired

end Deadline

namespace Search

/-- The values of a document can be loaded, and one of them has a match. -/
def finds (search : Search) (segment : Segment) (doc : Nat) : Bool :=
  match search.load search.field segment doc with
  | .error _ => false
  | .ok values => search.rechecker.recheck values matches .ok true

/-- What a run leaves behind that has `total` candidates, of which it has still to count `counted`,
and that checks them until the time is over. Its first check has the reading with the number `n`, and
it has checked `k` candidates in time. -/
structure Checks (d : Deadline) (readings : Nat → Nat) (n : Nat) (p : Progress)
    (total counted k : Nat) (p' : Progress) (n' : Nat) : Prop where
  grants : d.Grants readings n total k
  /-- The clock is read once more if there is a candidate for which there is no time. -/
  reads : n' = n + min (k + 1) total
  deadline : p'.deadline = d.after readings n'
  rechecked : p'.stats.rechecked = p.stats.rechecked + k
  timedOut : p'.stats.timedOut = (p.stats.timedOut || decide (k < total))
  candidates : k = total → p'.stats.candidates = p.stats.candidates + counted

/-- What comes of checking candidates until the time is over, if their values can be loaded: either
`k` of them are checked and the hits are those with a match, or there is no automaton to check the
first one with. -/
inductive Searched {α β : Type} (search : Search) (d : Deadline) (readings : Nat → Nat) (n : Nat)
    (p : Progress) (candidates : List α) (counted : Nat) (isHit : α → Bool) (address : α → β) :
    (Except SearchError (List β) × Progress) × Nat → Prop
  | ok {k : Nat} {hits : List β} {p' : Progress} {n' : Nat}
      (hits_eq : hits = ((candidates.take k).filter isHit).map address)
      (checks : Checks d readings n p candidates.length counted k p' n')
      (automaton : 0 < k → ∃ dfa, search.rechecker.automaton.get = .ok dfa) :
      Searched search d readings n p candidates counted isHit address ((.ok hits, p'), n')
  | error {e : SearchError} {p' : Progress} {n' : Nat} (nonempty : candidates ≠ [])
      (automaton : search.rechecker.automaton.get = .error e) :
      Searched search d readings n p candidates counted isHit address ((.error e, p'), n')

variable {search : Search} {segment : Segment} {d : Deadline} {readings : Nat → Nat}
variable {p p' p'' : Progress} {doc now n n' n'' total total' counted counted' k : Nat}

/-- Without candidates nothing changes. -/
theorem Checks.none (hp : p.deadline = d.after readings n) : Checks d readings n p 0 0 0 p n where
  grants := .none
  reads := rfl
  deadline := hp
  rechecked := rfl
  timedOut := by simp
  candidates _ := rfl

/-- What is counted in a run that starts with nothing counted. -/
theorem Checks.stats (h : Checks d readings n { deadline := d } total counted k p' n') :
    p'.stats.rechecked = k ∧ p'.stats.timedOut = decide (k < total) ∧
      (k = total → p'.stats.candidates = counted) := by
  have hrechecked := h.rechecked
  have htimedOut := h.timedOut
  have hcandidates := h.candidates
  simp only [Nat.zero_add, Bool.false_or] at hrechecked htimedOut hcandidates
  exact ⟨hrechecked, htimedOut, hcandidates⟩

/-- The time is over after a run that had no time for some candidate. -/
theorem Checks.isExpired_iff (h : Checks d readings n p total counted k p' n')
    (hp : p.deadline = d.after readings n) (hrunning : p.deadline.isExpired = false) :
    p'.deadline.isExpired = true ↔ k < total := by
  have hle := h.grants.le
  have hn' := h.reads
  rw [h.deadline]
  constructor
  · intro hexpired
    refine Nat.lt_of_not_le fun hge => ?_
    cases k with
    | zero =>
      obtain rfl : n' = n := by omega
      rw [← hp, hrunning] at hexpired
      exact Bool.false_ne_true hexpired
    | succ k =>
      -- The last check was in time.
      obtain rfl : n' = n + k + 1 := by omega
      rw [Deadline.isExpired_after_succ, h.grants.running _ (by omega) (by omega)] at hexpired
      exact nomatch hexpired
  · intro hlt
    obtain rfl : n' = n + k + 1 := by omega
    exact Deadline.isExpired_after_succ.mpr (h.grants.expired hlt)

/-- After candidates that were all checked in time, the next ones are checked. -/
theorem Checks.append (h : Checks d readings n p total counted total p' n')
    (hrest : Checks d readings n' p' total' counted' k p'' n'') :
    Checks d readings n p (total + total') (counted + counted') (total + k) p'' n'' := by
  have hle := hrest.grants.le
  have hn' : n' = n + total := by
    rw [h.reads, Nat.min_eq_right (Nat.le_succ total)]
  subst hn'
  exact {
    grants := h.grants.append hrest.grants
    reads := by
      have := hrest.reads
      omega
    deadline := hrest.deadline
    rechecked := by rw [hrest.rechecked, h.rechecked, Nat.add_assoc]
    timedOut := by simp [hrest.timedOut, h.timedOut]
    candidates heq := by rw [hrest.candidates (by omega), h.candidates rfl, Nat.add_assoc] }

/-- After the time was over, no more candidates are checked. -/
theorem Checks.append_over (h : Checks d readings n p total counted k p' n') (hlt : k < total) :
    Checks d readings n p (total + total') counted' k p' n' where
  grants := h.grants.append_over hlt
  reads := by
    have := h.reads
    omega
  deadline := h.deadline
  rechecked := h.rechecked
  timedOut := by simp [h.timedOut, hlt, Nat.lt_add_right total' hlt]
  candidates heq := by omega

/-- More candidates are checked after all of the first ones were checked in time. -/
theorem Checks.searched_append {α β : Type} {isHit : α → Bool} {address : α → β} {first rest : List α}
    {out : (Except SearchError (List β) × Progress) × Nat}
    (hfirst : Checks d readings n p first.length counted first.length p' n')
    (hautomaton : first ≠ [] → ∃ dfa, search.rechecker.automaton.get = .ok dfa)
    (hrest : Searched search d readings n' p' rest counted' isHit address out) :
    Searched search d readings n p (first ++ rest) (counted + counted') isHit address
      ((out.1.1.map ((first.filter isHit).map address ++ ·), out.1.2), out.2) := by
  cases hrest with
  | error hne he => exact .error (List.append_ne_nil_of_right_ne_nil first hne) he
  | @ok k _ _ _ hits hchecks hready =>
    refine .ok (k := first.length + k) ?_ (List.length_append ▸ hfirst.append hchecks) fun hpos => ?_
    · rw [hits, List.take_length_add_append, List.filter_append, List.map_append]
    · cases first with
      | nil => exact hready (by simpa using hpos)
      | cons a as => exact hautomaton (List.cons_ne_nil a as)

/-- More candidates are not checked after the time was over. -/
theorem Checks.searched_over {α β : Type} {isHit : α → Bool} {address : α → β} {first rest : List α}
    (hfirst : Checks d readings n p first.length counted k p' n') (hlt : k < first.length)
    (hautomaton : 0 < k → ∃ dfa, search.rechecker.automaton.get = .ok dfa) :
    Searched search d readings n p (first ++ rest) counted' isHit address
      ((.ok (((first.take k).filter isHit).map address), p'), n') := by
  refine .ok (k := k) ?_ (List.length_append ▸ hfirst.append_over hlt) hautomaton
  rw [List.take_append_of_le_length (Nat.le_of_lt hlt)]

/-- The candidates may be counted before they are checked. -/
theorem Searched.count {α β : Type} {isHit : α → Bool} {address : α → β} {candidates : List α}
    {out : (Except SearchError (List β) × Progress) × Nat}
    (h : Searched search d readings n p' candidates 0 isHit address out)
    (hrechecked : p'.stats.rechecked = p.stats.rechecked)
    (htimedOut : p'.stats.timedOut = p.stats.timedOut)
    (hcandidates : p'.stats.candidates = p.stats.candidates + counted) :
    Searched search d readings n p candidates counted isHit address out := by
  cases h with
  | error hne he => exact .error hne he
  | ok hits hchecks hready =>
    refine .ok hits ?_ hready
    exact { hchecks with
      rechecked := hrechecked ▸ hchecks.rechecked
      timedOut := htimedOut ▸ hchecks.timedOut
      candidates heq := (hchecks.candidates heq).trans hcandidates }

/-- Without a limit of time all candidates are checked, if there is an automaton to check them with. -/
theorem Searched.ok_of_unlimited {α β : Type} {isHit : α → Bool} {address : α → β}
    {candidates : List α} {out : (Except SearchError (List β) × Progress) × Nat}
    (h : Searched search d readings n p candidates counted isHit address out) (hd : d.Unlimited)
    (hautomaton : candidates ≠ [] → ∃ dfa, search.rechecker.automaton.get = .ok dfa) :
    ∃ p' n', out = ((.ok ((candidates.filter isHit).map address), p'), n') ∧
      Checks d readings n p candidates.length counted candidates.length p' n' := by
  cases h with
  | error hne he =>
    obtain ⟨dfa, hdfa⟩ := hautomaton hne
    exact nomatch hdfa.symm.trans he
  | ok hits hchecks =>
    obtain rfl := hchecks.grants.eq_of_unlimited hd
    rw [List.take_length] at hits
    exact ⟨_, _, hits ▸ rfl, hchecks⟩

/-- Candidates may be given by what is checked of them. -/
theorem Searched.image {α β γ δ : Type} {isHit : α → Bool} {address : α → β} {address' : γ → δ}
    {candidates : List γ} {out : (Except SearchError (List δ) × Progress) × Nat} (f : γ → α) (g : δ → β)
    (hg : ∀ x, g (address' x) = address (f x))
    (h : Searched search d readings n p candidates counted (isHit ∘ f) address' out) :
    Searched search d readings n p (candidates.map f) counted isHit address
      ((out.1.1.map (List.map g), out.1.2), out.2) := by
  cases h with
  | error hne he => exact .error (by simpa using hne) he
  | @ok k _ _ _ hits hchecks hready =>
    refine .ok (k := k) ?_ (List.length_map f ▸ hchecks) hready
    rw [hits, ← List.map_take, List.filter_map, List.map_map, List.map_map]
    exact List.map_congr_left fun x _ => hg x

/-! ### Checking candidates -/

section Confirm

variable (hp : p.deadline = d.after readings n)

include hp

/-- The state of a search and its deadline agree on the next reading. -/
theorem check_deadline :
    p.deadline.check (readings n) = (d.statusAt readings n, d.after readings (n + 1)) := by
  rw [hp]
  rfl

/-- There is no time to check a candidate. -/
theorem confirm_over (h : d.statusAt readings n = .expired) :
    ∃ p', search.confirm segment doc (readings n) p = (.ok .timedOut, p') ∧
      Checks d readings n p 1 0 0 p' (n + 1) := by
  refine ⟨{ deadline := d.after readings (n + 1), stats := { p.stats with timedOut := true } }, ?_, ?_⟩
  · unfold confirm
    rw [check_deadline hp, h]
  · exact {
      grants := .over h
      reads := rfl
      deadline := rfl
      rechecked := rfl
      timedOut := by simp
      candidates := nofun }

variable {values : List String} (h : d.statusAt readings n = .running)
  (hload : search.load search.field segment doc = .ok values)

include h hload

/-- Without an automaton no candidate can be checked. -/
theorem confirm_error {e : SearchError} (hautomaton : search.rechecker.automaton.get = .error e) :
    ∃ p', search.confirm segment doc (readings n) p = (.error e, p') := by
  have hrecheck : search.rechecker.recheck values = .error e := by
    unfold Rechecker.recheck
    rw [hautomaton]
    rfl
  unfold confirm
  simp only [check_deadline hp, h, hload, hrecheck]
  exact ⟨_, rfl⟩

/-- A candidate is checked in time. -/
theorem confirm_ok {dfa : Automaton.Dfa} (hautomaton : search.rechecker.automaton.get = .ok dfa) :
    ∃ p', search.confirm segment doc (readings n) p =
        (.ok (if search.finds segment doc then .found else .notFound), p') ∧
      Checks d readings n p 1 0 1 p' (n + 1) := by
  obtain ⟨found, hrecheck⟩ : ∃ found, search.rechecker.recheck values = .ok found := by
    unfold Rechecker.recheck
    rw [hautomaton]
    exact ⟨_, rfl⟩
  have hfinds : search.finds segment doc = found := by
    unfold finds
    cases found <;> simp [hload, hrecheck]
  rw [hfinds]
  unfold confirm
  simp only [check_deadline hp, h, hload, hrecheck]
  -- Whether there is a match only shows in the number of matches.
  have hchecks (matched : Nat) : Checks d readings n p 1 0 1
      { deadline := d.after readings (n + 1),
        stats := { p.stats with rechecked := p.stats.rechecked + 1, matched } } (n + 1) := {
    grants := .inTime h
    reads := rfl
    deadline := rfl
    rechecked := rfl
    timedOut := by simp
    candidates _ := rfl }
  cases found with
  | false => exact ⟨_, rfl, hchecks p.stats.matched⟩
  | true => exact ⟨_, rfl, hchecks (p.stats.matched + 1)⟩

end Confirm

/-- The candidates of a segment are checked until the time is over. -/
theorem searched_confirmAll (hload : ∀ doc, ∃ values, search.load search.field segment doc = .ok values)
    (hp : p.deadline = d.after readings n) (docs : List Nat) :
    Searched search d readings n p docs 0 (search.finds segment) id
      ((search.confirmAll (ticking readings) segment docs p).run n) := by
  induction docs generalizing p n with
  | nil => exact .ok (k := 0) rfl (.none hp) nofun
  | cons doc docs ih =>
    rw [confirmAll, run_ticking_bind]
    have hlength : (doc :: docs).length = 1 + docs.length := Nat.add_comm _ _
    cases hstatus : d.statusAt readings n with
    | expired =>
      -- Behind a check that is too late no candidate is looked at.
      obtain ⟨p', hconfirm, hchecks⟩ :
          ∃ p', search.confirm segment doc (readings n) p = (.ok .timedOut, p') ∧ _ :=
        confirm_over hp hstatus
      rw [hconfirm]
      exact .ok (k := 0) rfl (hlength ▸ hchecks.append_over Nat.one_pos) nofun
    | running =>
      obtain ⟨values, hvalues⟩ := hload doc
      cases hautomaton : search.rechecker.automaton.get with
      | error e =>
        obtain ⟨p', hconfirm⟩ := confirm_error hp hstatus hvalues hautomaton
        rw [hconfirm]
        exact .error (List.cons_ne_nil doc docs) hautomaton
      | ok dfa =>
        obtain ⟨p', hconfirm, hchecks⟩ := confirm_ok hp hstatus hvalues hautomaton
        rw [hconfirm]
        -- This candidate was checked in time, and the others follow from there.
        have hfirst : Checks d readings n p [doc].length 0 [doc].length p' (n + 1) := hchecks
        have hall := hfirst.searched_append (fun _ => ⟨dfa, hautomaton⟩) (ih hchecks.deadline)
        cases hfinds : search.finds segment doc with
        | false =>
          rw [List.filter_cons_of_neg (by simp [hfinds])] at hall
          show Searched search d readings n p (doc :: docs) 0 (search.finds segment) id
            ((search.confirmAll (ticking readings) segment docs p').run (n + 1))
          generalize (search.confirmAll (ticking readings) segment docs p').run (n + 1) = out at hall ⊢
          obtain ⟨⟨result, p''⟩, n''⟩ := out
          cases result <;> exact hall
        | true =>
          rw [List.filter_cons_of_pos hfinds] at hall
          exact hall

/-- The candidates of a plan are checked until the time is over. -/
theorem searched_run (plan : Plan)
    (hload : ∀ doc, ∃ values, search.load search.field segment doc = .ok values)
    (hp : p.deadline = d.after readings n) (hrunning : p.deadline.isExpired = false) :
    Searched search d readings n p (plan.candidates segment).toList
      (plan.candidates segment).toList.length (search.finds segment) id
      ((search.run (ticking readings) plan segment p).run n) := by
  unfold run
  split
  · refine .ok (k := 0) rfl ?_ nofun
    exact { Checks.none hp with }
  · rw [if_neg (by simp [hrunning])]
    refine .count (searched_confirmAll hload ?_ _) rfl rfl rfl
    exact hp

end Search

end GramSieve
