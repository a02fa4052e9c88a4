import GramSieve.Proofs.Basic
import GramSieve.Proofs.Search.Timeout
import Mathlib

/-!
# What a search counts

The counts of a search are kept while candidates are checked, and a check may end early: the time is
over, or the values of a document cannot be loaded. They agree with each other all the same.

* `SearchStats.Le` — no count is less than before.
* `Progress.Checked` — what checking candidates adds to the counts.
* `Search.step_confirm`, `Search.checked_confirmAll` — one candidate, and those of a segment.
* `Progress.Accounts` — how the counts after some runs belong to those before, and to what was found.
* `Search.accounts_run`, `Search.accounts_runAll` — one run over a segment, and any number of them.
* `Search.counters_consistent` — so the counts of a search are consistent after every run.
-/

namespace GramSieve

/-- No count is less than before. -/
structure SearchStats.Le (a b : SearchStats) : Prop where
  segmentsSearched : a.segmentsSearched ≤ b.segmentsSearched
  segmentsSkipped : a.segmentsSkipped ≤ b.segmentsSkipped
  candidates : a.candidates ≤ b.candidates
  rechecked : a.rechecked ≤ b.rechecked
  matched : a.matched ≤ b.matched

theorem SearchStats.Le.refl (a : SearchStats) : a.Le a :=
  ⟨Nat.le_refl _, Nat.le_refl _, Nat.le_refl _, Nat.le_refl _, Nat.le_refl _⟩

/-- Counters that grow twice have grown. -/
theorem SearchStats.Le.trans {a b c : SearchStats} (h : a.Le b) (h' : b.Le c) : a.Le c where
  segmentsSearched := Nat.le_trans h.segmentsSearched h'.segmentsSearched
  segmentsSkipped := Nat.le_trans h.segmentsSkipped h'.segmentsSkipped
  candidates := Nat.le_trans h.candidates h'.candidates
  rechecked := Nat.le_trans h.rechecked h'.rechecked
  matched := Nat.le_trans h.matched h'.matched

namespace Progress

/-- That the time is over is counted as soon as it is noticed. -/
def Timely (p : Progress) : Prop := p.stats.timedOut = p.deadline.isExpired

/-- From one state of a search to another, `checked` candidates were checked, and `found` of them had
a match. -/
structure Checked (p : Progress) (checked found : Nat) (p' : Progress) : Prop where
  stats : p'.stats = { p.stats with
    rechecked := p.stats.rechecked + checked
    matched := p.stats.matched + found
    timedOut := p'.stats.timedOut }
  found_le : found ≤ checked
  timely : p.Timely → p'.Timely
  isExpired : p.deadline.isExpired = true → p'.deadline.isExpired = true

variable {p p' p'' : Progress} {checked checked' found found' : Nat}

/-- If nothing was checked, nothing was found. -/
theorem Checked.refl (p : Progress) : p.Checked 0 0 p where
  stats := rfl
  found_le := Nat.le_refl 0
  timely h := h
  isExpired h := h

/-- What is checked one after the other adds up. -/
theorem Checked.trans (h : p.Checked checked found p') (h' : p'.Checked checked' found' p'') :
    p.Checked (checked + checked') (found + found') p'' where
  stats := by
    rw [h'.stats, h.stats]
    simp only [Nat.add_assoc]
  found_le := Nat.add_le_add h.found_le h'.found_le
  timely hp := h'.timely (h.timely hp)
  isExpired hp := h'.isExpired (h.isExpired hp)

end Progress

namespace Search

variable {search : Search} {segment : Segment} {p p' p'' : Progress} {doc now : Nat}

/-! ### Checking candidates -/

/-- What checking a candidate can come to: a candidate that was looked at is counted, with a match or
without. -/
inductive Step (p : Progress) : Except SearchError Confirmation × Progress → Prop
  | late {p' : Progress} (h : p.Checked 0 0 p') (hlate : p'.deadline.isExpired = true) :
      Step p (.ok .timedOut, p')
  | error {e : SearchError} {checked : Nat} {p' : Progress} (hle : checked ≤ 1)
      (h : p.Checked checked 0 p') : Step p (.error e, p')
  | notFound {p' : Progress} (h : p.Checked 1 0 p') : Step p (.ok .notFound, p')
  | found {p' : Progress} (h : p.Checked 1 1 p') : Step p (.ok .found, p')

/-- Looking at one candidate counts it as checked at most once, and as found only if it was checked. -/
theorem step_confirm (search : Search) (segment : Segment) (doc now : Nat) (p : Progress) :
    Step p (search.confirm segment doc now p) := by
  have hexpired : (p.deadline.check now).2.isExpired = true ↔ (p.deadline.check now).1 = .expired :=
    Deadline.isExpired_check
  have hlate : p.deadline.isExpired = true → (p.deadline.check now).1 = .expired := fun h => by
    rw [Deadline.check_of_isExpired h]
  unfold confirm
  generalize p.deadline.check now = check at hexpired hlate
  obtain ⟨status, deadline⟩ := check
  cases status with
  | expired =>
    have hd : deadline.isExpired = true := hexpired.mpr rfl
    exact .late ⟨rfl, Nat.le_refl 0, fun _ => hd.symm, fun _ => hd⟩ hd
  | running =>
    have hrunning : deadline.isExpired = false := by
      rw [← Bool.not_eq_true, hexpired]
      simp
    have hbefore : p.deadline.isExpired = false := by
      rw [← Bool.not_eq_true]
      intro h
      cases hlate h
    -- The time was not over before and is not over now.
    have hchecked (checked found : Nat) (hle : found ≤ checked) : p.Checked checked found
        { deadline, stats := { p.stats with
          rechecked := p.stats.rechecked + checked, matched := p.stats.matched + found } } :=
      ⟨rfl, hle, fun h => (h.trans hbefore).trans hrunning.symm, fun h => by simp [hbefore] at h⟩
    simp only
    split
    · exact .error (Nat.zero_le 1) (hchecked 0 0 (Nat.le_refl 0))
    · split
      · exact .error (Nat.le_refl 1) (hchecked 1 0 (Nat.zero_le 1))
      · exact .notFound (hchecked 1 0 (Nat.zero_le 1))
      · exact .found (hchecked 1 1 (Nat.le_refl 1))

/-- A document whose values cannot be loaded is not counted. -/
theorem confirm_loadError (search : Search) {fault : LoadFault}
    (h : search.load search.field segment doc = .error fault)
    (hrunning : (search.confirm segment doc now p).1 ≠ .ok .timedOut) :
    (search.confirm segment doc now p).1 = .error (.fieldLoad search.field doc fault) ∧
      (search.confirm segment doc now p).2.stats = p.stats := by
  unfold confirm at hrunning ⊢
  split
  · rename_i heq
    rw [heq] at hrunning
    exact absurd rfl hrunning
  · simp [h]

variable {readings : Nat → Nat} {n : Nat}

/-- Checking the candidates of a segment counts those that were looked at. If nothing went wrong, what
is found is counted, and all were looked at unless the time is over. -/
theorem checked_confirmAll (search : Search) (segment : Segment) (readings : Nat → Nat)
    (docs : List Nat) (p : Progress) (n : Nat) :
    let out := ((search.confirmAll (ticking readings) segment docs p).run n).1
    ∃ checked found, checked ≤ docs.length ∧ p.Checked checked found out.2 ∧
      ∀ hits, out.1 = .ok hits → found = hits.length ∧
        (out.2.deadline.isExpired = false → checked = docs.length) := by
  induction docs generalizing p n with
  | nil =>
    refine ⟨0, 0, Nat.le_refl 0, .refl p, fun hits h => ?_⟩
    cases h
    exact ⟨rfl, fun _ => rfl⟩
  | cons doc docs ih =>
    have hstep := step_confirm search segment doc (readings n) p
    rw [confirmAll, run_ticking_bind]
    generalize search.confirm segment doc (readings n) p = out at hstep
    cases hstep with
    | late h hlate =>
      refine ⟨0, 0, Nat.zero_le _, h, fun hits hhits => ?_⟩
      cases hhits
      refine ⟨rfl, fun hrunning => ?_⟩
      exact absurd (hlate.symm.trans hrunning) (by decide)
    | error hle h =>
      refine ⟨_, 0, Nat.le_trans hle (Nat.le_add_left 1 _), h, fun hits hhits => ?_⟩
      cases hhits
    | @notFound p' h =>
      obtain ⟨checked, found, hle, hrest, hok⟩ := ih p' (n + 1)
      have hlength : 1 + checked ≤ (doc :: docs).length := by
        rw [List.length_cons]
        omega
      refine ⟨1 + checked, 0 + found, hlength, h.trans hrest, fun hits hhits => ?_⟩
      obtain ⟨hfound, hall⟩ := hok hits hhits
      refine ⟨by rw [hfound, Nat.zero_add], fun hrunning => ?_⟩
      rw [hall hrunning, List.length_cons, Nat.add_comm]
    | @found p' h =>
      obtain ⟨checked, found, hle, hrest, hok⟩ := ih p' (n + 1)
      have hlength : 1 + checked ≤ (doc :: docs).length := by
        rw [List.length_cons]
        omega
      refine ⟨1 + checked, 1 + found, hlength, h.trans hrest, fun hits hhits => ?_⟩
      -- The document is put before what is found behind it.
      obtain ⟨rest, hresult, rfl⟩ := ok_of_map hhits
      obtain ⟨hfound, hall⟩ := hok rest hresult
      refine ⟨by rw [hfound, List.length_cons, Nat.add_comm], fun hrunning => ?_⟩
      rw [hall hrunning, List.length_cons, Nat.add_comm]

end Search

/-! ### Runs over segments -/

namespace Progress

/-- How the counts after some runs belong to those before: for every run a segment is searched or
skipped, or the time was over before. What was checked was a candidate, and what was found was checked.
If nothing went wrong, the counts are those of what the runs have found. -/
structure Accounts (p : Progress) (results : List (Except SearchError (List Nat))) (p' : Progress) :
    Prop where
  le : p.stats.Le p'.stats
  segments : p'.stats.segmentsSearched + p'.stats.segmentsSkipped ≤
    p.stats.segmentsSearched + p.stats.segmentsSkipped + results.length
  matched_le : p'.stats.matched + p.stats.rechecked ≤ p.stats.matched + p'.stats.rechecked
  rechecked_le : p'.stats.rechecked + p.stats.candidates ≤ p.stats.rechecked + p'.stats.candidates
  timely : p.Timely → p'.Timely
  isExpired : p.deadline.isExpired = true → p'.deadline.isExpired = true
  ok (found : List (List Nat)) : results = found.map .ok →
    p'.stats.matched = p.stats.matched + found.flatten.length ∧
      (p'.deadline.isExpired = false →
        p'.stats.rechecked + p.stats.candidates = p.stats.rechecked + p'.stats.candidates)

variable {p p' p'' : Progress} {results results' : List (Except SearchError (List Nat))}

/-- Without runs nothing is counted. -/
theorem Accounts.refl (p : Progress) : p.Accounts [] p where
  le := .refl _
  segments := Nat.le_refl _
  matched_le := Nat.le_refl _
  rechecked_le := Nat.le_refl _
  timely h := h
  isExpired h := h
  ok found hfound := by
    obtain rfl := List.map_eq_nil_iff.mp hfound.symm
    exact ⟨rfl, fun _ => rfl⟩

/-- The accounts of runs one after the other add up. -/
theorem Accounts.trans (h : p.Accounts results p') (h' : p'.Accounts results' p'') :
    p.Accounts (results ++ results') p'' where
  le := h.le.trans h'.le
  segments := by
    have := h.segments
    have := h'.segments
    rw [List.length_append]
    omega
  matched_le := by
    have := h.matched_le
    have := h'.matched_le
    omega
  rechecked_le := by
    have := h.rechecked_le
    have := h'.rechecked_le
    omega
  timely hp := h'.timely (h.timely hp)
  isExpired hp := h'.isExpired (h.isExpired hp)
  ok found hfound := by
    obtain ⟨first, rest, rfl, hfirst, hrest⟩ := List.append_eq_map_iff.mp hfound
    obtain ⟨hmatched, hall⟩ := h.ok first hfirst.symm
    obtain ⟨hmatched', hall'⟩ := h'.ok rest hrest.symm
    refine ⟨?_, fun hrunning => ?_⟩
    · rw [hmatched', hmatched, List.flatten_append, List.length_append, Nat.add_assoc]
    · -- If there is time left in the end, there was time left in between.
      have hbetween : p'.deadline.isExpired = false := by
        rw [← Bool.not_eq_true]
        intro hexpired
        exact absurd ((h'.isExpired hexpired).symm.trans hrunning) (by decide)
      have := hall hbetween
      have := hall' hrunning
      omega

/-- The counts after a run that counts a segment at most once, and counts its candidates before they are
checked. -/
theorem Checked.accounts (searched skipped total : Nat) {checked found : Nat}
    {result : Except SearchError (List Nat)} (hsegment : searched + skipped ≤ 1)
    (h : ({ p with stats := { p.stats with
      segmentsSearched := p.stats.segmentsSearched + searched
      segmentsSkipped := p.stats.segmentsSkipped + skipped
      candidates := p.stats.candidates + total } } : Progress).Checked checked found p')
    (hle : checked ≤ total)
    (hok : ∀ hits, result = .ok hits → found = hits.length ∧
      (p'.deadline.isExpired = false → checked = total)) : p.Accounts [result] p' := by
  have hfound := h.found_le
  constructor
  -- Every counter is what it was and what this run adds.
  · constructor <;> rw [h.stats] <;> simp
  · rw [h.stats]
    simp only [List.length_singleton]
    omega
  · rw [h.stats]
    simp only
    omega
  · rw [h.stats]
    simp only
    omega
  · exact h.timely
  · exact h.isExpired
  · intro found' hfound'
    obtain ⟨hits, rfl, hresult⟩ := List.map_eq_singleton_iff.mp hfound'.symm
    obtain ⟨rfl, hall⟩ := hok hits hresult.symm
    rw [h.stats]
    refine ⟨by simp, fun hrunning => ?_⟩
    rw [hall hrunning]
    simp only
    omega

end Progress

namespace Search

/-- A run over a segment: its plan, and what loading the values of a document comes to at that time. -/
structure SegmentRun where
  plan : Plan
  segment : Segment
  load : Loader

variable {m : Type → Type} [Monad m]

/-- Runs one after the other, which share the counts and the time. A run that fails does not keep the
next ones from being made. -/
def runAll (search : Search) (clock : m Nat) :
    List SegmentRun → Progress → m (List (Except SearchError (List Nat)) × Progress)
  | [], p => return ([], p)
  | r :: runs, p => do
    let (result, p) ← { search with load := r.load }.run clock r.plan r.segment p
    let (results, p) ← search.runAll clock runs p
    return (result :: results, p)

/-- One run over a segment, whether it skips the segment, comes too late, or checks its candidates. -/
theorem accounts_run (search : Search) (readings : Nat → Nat) (plan : Plan) (segment : Segment)
    (p : Progress) (n : Nat) :
    let out := ((search.run (ticking readings) plan segment p).run n).1
    p.Accounts [out.1] out.2 := by
  have hnothing (hits : List Nat) (h : (.ok [] : Except SearchError (List Nat)) = .ok hits) :
      0 = hits.length := by
    cases h
    rfl
  unfold run
  split
  -- A plan without matches skips the segment, and when the time is over nothing is done.
  · exact Progress.Checked.accounts 0 1 0 (Nat.le_refl 1)
      (.refl _) (Nat.le_refl 0) fun hits h => ⟨hnothing hits h, fun _ => rfl⟩
  · split
    · exact Progress.Checked.accounts 0 0 0 (Nat.zero_le 1)
        (.refl _) (Nat.le_refl 0) fun hits h => ⟨hnothing hits h, fun _ => rfl⟩
    · obtain ⟨checked, found, hle, hchecked, hok⟩ :=
        checked_confirmAll search segment readings (plan.candidates segment).toList _ n
      exact Progress.Checked.accounts 1 0 _ (Nat.le_refl 1) hchecked hle hok

/-- So the accounts of any number of runs are right. -/
theorem accounts_runAll (search : Search) (readings : Nat → Nat) (runs : List SegmentRun)
    (p : Progress) (n : Nat) :
    let out := ((search.runAll (ticking readings) runs p).run n).1
    p.Accounts out.1 out.2 ∧ out.1.length = runs.length := by
  induction runs generalizing p n with
  | nil => exact ⟨.refl p, rfl⟩
  | cons r runs ih =>
    have hrun := accounts_run { search with load := r.load } readings r.plan r.segment p n
    rw [runAll, run_bind]
    generalize (({ search with load := r.load } : Search).run (ticking readings) r.plan r.segment
      p).run n = out at hrun
    obtain ⟨⟨result, p'⟩, n'⟩ := out
    obtain ⟨hrest, hlength⟩ := ih p' n'
    exact ⟨hrun.trans hrest, congrArg Nat.succ hlength⟩

/-- More runs go on where the first ones stopped. -/
theorem runAll_append (search : Search) (readings : Nat → Nat) (runs more : List SegmentRun)
    (p : Progress) (n : Nat) :
    let out := (search.runAll (ticking readings) runs p).run n
    let rest := (search.runAll (ticking readings) more out.1.2).run out.2
    (search.runAll (ticking readings) (runs ++ more) p).run n =
      ((out.1.1 ++ rest.1.1, rest.1.2), rest.2) := by
  induction runs generalizing p n with
  | nil => rfl
  | cons r runs ih =>
    rw [List.cons_append]
    simp only [runAll, run_bind]
    generalize (({ search with load := r.load } : Search).run (ticking readings) r.plan r.segment
      p).run n = out
    obtain ⟨⟨result, p'⟩, n'⟩ := out
    have h := ih p' n'
    simp only at h ⊢
    rw [h]
    rfl

/-- **The counts of a search are consistent after every run.** No count ever decreases. What was found
was checked, and what was checked was a candidate. There are no more segments counted than runs, and it is
counted that the time was over exactly if it was. As long as nothing goes wrong, all that is found is
counted, and every candidate is checked unless the time is over. A document whose values cannot be loaded
changes no count. -/
theorem counters_consistent (search : Search) (readings : Nat → Nat) (budget : Nat)
    (runs more : List SegmentRun) :
    let start : Progress := { deadline := { budget } }
    let out := ((search.runAll (ticking readings) runs start).run 0).1
    let p := out.2
    let later := ((search.runAll (ticking readings) (runs ++ more) start).run 0).1.2
    p.stats.Le later.stats ∧
      p.stats.matched ≤ p.stats.rechecked ∧ p.stats.rechecked ≤ p.stats.candidates ∧
      p.stats.segmentsSearched + p.stats.segmentsSkipped ≤ runs.length ∧
      p.stats.timedOut = p.deadline.isExpired ∧
      (∀ found : List (List Nat), out.1 = found.map .ok → p.stats.matched = found.flatten.length ∧
        (p.deadline.isExpired = false → p.stats.rechecked = p.stats.candidates)) ∧
      ∀ (load : Loader) (segment : Segment) (doc now : Nat) (fault : LoadFault) (q : Progress),
        load search.field segment doc = .error fault →
        let confirmed := { search with load }.confirm segment doc now q
        confirmed.1 ≠ .ok .timedOut →
          confirmed.1 = .error (.fieldLoad search.field doc fault) ∧ confirmed.2.stats = q.stats := by
  intro start out p later
  obtain ⟨haccounts, hlength⟩ := accounts_runAll search readings runs start 0
  have hlater : ∃ results, p.Accounts results later := by
    have hmore := (accounts_runAll search readings more p
      ((search.runAll (ticking readings) runs start).run 0).2).1
    show ∃ results, p.Accounts results
      ((search.runAll (ticking readings) (runs ++ more) start).run 0).1.2
    rw [runAll_append]
    exact ⟨_, hmore⟩
  obtain ⟨_, hlater⟩ := hlater
  refine ⟨hlater.le, ?_, ?_, ?_, haccounts.timely rfl, fun found hfound => ?_, ?_⟩
  · -- Nothing was counted in the beginning.
    have h : p.stats.matched + 0 ≤ 0 + p.stats.rechecked := haccounts.matched_le
    omega
  · have h : p.stats.rechecked + 0 ≤ 0 + p.stats.candidates := haccounts.rechecked_le
    omega
  · have h : p.stats.segmentsSearched + p.stats.segmentsSkipped ≤ 0 + 0 + out.1.length :=
      haccounts.segments
    have hruns : out.1.length = runs.length := hlength
    omega
  · obtain ⟨hmatched, hall⟩ := haccounts.ok found hfound
    have hnone : start.stats.matched = 0 := rfl
    rw [hnone, Nat.zero_add] at hmatched
    refine ⟨hmatched, fun hrunning => ?_⟩
    have h : p.stats.rechecked + 0 = 0 + p.stats.candidates := hall hrunning
    omega
  · intro load segment doc now fault q hload confirmed hrunning
    exact confirm_loadError { search with load } hload hrunning

/-- A segment is searched and another run skips it. After that, a document that is gone is not
counted. -/
theorem counters_consistent_missingDocument :
    let search : Search := ⟨"body", Loader.stored, Rechecker.ofSettings "a" {}⟩
    let segment : Segment := ["ab", "b"].foldl (fun s text => s.add {} ⟨[("body", [text])]⟩) {}
    let missing : Loader := fun _ _ _ => .error .notFound
    let runs : List SegmentRun :=
      [⟨.unaccelerated, segment, Loader.stored⟩, ⟨.noMatch, segment, missing⟩]
    let p : Progress :=
      { deadline := { budget := 5, started := some 0, elapsed := 1 }
        stats := { segmentsSearched := 1, segmentsSkipped := 1, candidates := 2, rechecked := 2,
                   matched := 1 } }
    let confirmed := { search with load := missing }.confirm segment 0 2 p
    (((search.runAll (ticking id) runs { deadline := { budget := 5 } }).run 0).1 =
        ([[0], []].map .ok, p) ∧
      p.deadline.isExpired = false ∧ missing "body" segment 0 = .error .notFound ∧
      confirmed.1 ≠ .ok .timedOut) ∧
      p.stats.matched = [[0], []].flatten.length ∧ p.stats.rechecked = p.stats.candidates ∧
      confirmed.1 = .error (.fieldLoad "body" 0 .notFound) ∧ confirmed.2.stats = p.stats := by
  intro search segment missing runs p confirmed
  -- One segment is searched, the other one skipped, so its loader is never asked.
  have hout : ((search.runAll (ticking id) runs { deadline := { budget := 5 } }).run 0).1 =
      ([[0], []].map .ok, p) := by cbv
  have herror : confirmed.1 = .error (.fieldLoad "body" 0 .notFound) := rfl
  have hstatus : confirmed.1 ≠ .ok .timedOut := by simp [herror]
  have hconsistent := counters_consistent search id 5 runs []
  simp only at hconsistent
  rw [hout] at hconsistent
  obtain ⟨-, -, -, -, -, hok, hload⟩ := hconsistent
  obtain ⟨hmatched, hall⟩ := hok _ rfl
  exact ⟨⟨hout, rfl, rfl, hstatus⟩, hmatched, hall rfl, hload missing segment 0 2 .notFound p rfl hstatus⟩

end Search

end GramSieve
