import GramSieve.Proofs.Index.Pruning
import GramSieve.Proofs.Search.Timeout

/-!
# Searches with a limit of time

* `RegexQuery.withoutTimeout`, `CompiledQuery.withoutTimeout` — the same without a limit of time.
* `CompiledQuery.candidatesFrom` — the documents of some segments that a search may have to check.
* `Shard.searched_searchFrom` — these are checked one after the other until the time is over.
* `Shard.search_prefix_of_timeout` — so a search that runs out of time finds the first hits.
-/

namespace GramSieve

/-! ### Queries without a limit of time -/

/-- The same query without a limit of time. -/
def RegexQuery.withoutTimeout (q : RegexQuery) : RegexQuery :=
  { q with settings := { q.settings with timeoutMs := 0 } }

namespace CompiledQuery

variable {q : RegexQuery} {schema : Schema} {c : CompiledQuery} {segment : Segment}

/-- The same plan without a limit of time. -/
def withoutTimeout (c : CompiledQuery) : CompiledQuery :=
  { c with query := c.query.withoutTimeout }

/-- The limit of time makes no difference to the plan. -/
theorem compile_withoutTimeout (h : q.compile schema = .ok c) :
    q.withoutTimeout.compile schema = .ok c.withoutTimeout := by
  obtain ⟨_, hvalidate, h⟩ := ok_of_bind h
  obtain ⟨field, hfield, h⟩ := ok_of_bind h
  obtain ⟨plan, hplan, h⟩ := ok_of_bind h
  cases h
  show (do
    q.settings.validate
    let field ← q.gramField.mapM (q.analyzedField schema)
    return ({ query := q.withoutTimeout, plan := ← (q.planner field).plan } : CompiledQuery)) = _
  rw [hvalidate, ok_bind, hfield, ok_bind, hplan]
  rfl

/-- Planning again for a segment does not fail. -/
theorem planFor_ok (h : q.compile schema = .ok c) (segment : Segment) :
    ∃ plan, c.planFor segment = .ok plan := by
  obtain ⟨-, field, hplan, -⟩ := RegexQuery.compile_ok h
  cases hcplan : c.plan with
  | accelerated query =>
    rcases planFor_of_normal (s := segment) hcplan (Planner.normal_of_plan (hcplan ▸ hplan)) with
      ⟨hplanFor, -⟩ | hplanFor
    · exact ⟨_, hplanFor⟩
    · exact ⟨_, hplanFor⟩
  | unaccelerated | noMatch =>
    refine ⟨c.plan, ?_⟩
    unfold planFor
    rw [hcplan]

/-- The documents that a search has to check in a segment with the given number. -/
def candidatesAt (c : CompiledQuery) (shard number : Nat) (segment : Segment) :
    List (DocAddress × Segment) :=
  match c.planFor segment with
  | .error _ => []
  | .ok plan => (plan.candidates segment).toList.map fun doc => (⟨shard, number, doc⟩, segment)

/-- The documents that it has to check in some segments, the first of which has the given number. -/
def candidatesFrom (c : CompiledQuery) (shard : Nat) :
    Nat → List Segment → List (DocAddress × Segment)
  | _, [] => []
  | number, segment :: segments =>
    c.candidatesAt shard number segment ++ c.candidatesFrom shard (number + 1) segments

/-- The candidates do not depend on the timeout. -/
theorem candidatesFrom_withoutTimeout (c : CompiledQuery) (shard number : Nat)
    (segments : List Segment) :
    c.withoutTimeout.candidatesFrom shard number segments = c.candidatesFrom shard number segments := by
  induction segments generalizing number with
  | nil => rfl
  | cons segment segments ih =>
    have hfirst : c.withoutTimeout.candidatesAt shard number segment =
        c.candidatesAt shard number segment := rfl
    rw [candidatesFrom, candidatesFrom, ih, hfirst]

end CompiledQuery

/-! ### Runs over segments -/

section Runs

open Search

variable {c : CompiledQuery} {search : Search} {segment : Segment} {d : Deadline}
variable {readings : Nat → Nat} {p : Progress} {n : Nat} (shard number : Nat)

/-- Whether a candidate is a hit. -/
def Search.isHit (search : Search) (candidate : DocAddress × Segment) : Bool :=
  search.finds candidate.2 candidate.1.doc

/-- If the values of all documents can be loaded, the search of a segment goes through its candidates
until the clock stops it. -/
theorem CompiledQuery.searched_run (hplan : ∃ plan, c.planFor segment = .ok plan)
    (hload : ∀ doc, ∃ values, search.load search.field segment doc = .ok values)
    (hp : p.deadline = d.after readings n) (hrunning : p.deadline.isExpired = false) :
    let out := (c.run search (ticking readings) segment p).run n
    Searched search d readings n p (c.candidatesAt shard number segment)
      (c.candidatesAt shard number segment).length search.isHit Prod.fst
      ((out.1.1.map (List.map (⟨shard, number, ·⟩)), out.1.2), out.2) := by
  obtain ⟨plan, hplan⟩ := hplan
  unfold CompiledQuery.run CompiledQuery.candidatesAt
  rw [hplan]
  dsimp only
  rw [List.length_map]
  exact (Search.searched_run plan hload hp hrunning).image _ _ fun _ => rfl

/-- Once the time is up, no segment is searched any more. -/
theorem Shard.searchFrom_of_isExpired {m : Type → Type} [Monad m] {clock : m Nat}
    (h : p.deadline.isExpired = true) (segments : List Segment) :
    searchFrom c search clock shard number segments p = pure (.ok [], p) := by
  cases segments with
  | nil => rfl
  | cons segment segments => rw [searchFrom, if_pos h]

/-- The candidates of some segments are checked one after the other until the time is over. -/
theorem Shard.searched_searchFrom (hplan : ∀ segment, ∃ plan, c.planFor segment = .ok plan)
    (hload : ∀ segment doc, ∃ values, search.load search.field segment doc = .ok values)
    (hp : p.deadline = d.after readings n) (hrunning : p.deadline.isExpired = false)
    (segments : List Segment) :
    Searched search d readings n p (c.candidatesFrom shard number segments)
      (c.candidatesFrom shard number segments).length search.isHit Prod.fst
      ((searchFrom c search (ticking readings) shard number segments p).run n) := by
  induction segments generalizing number p n with
  | nil => exact .ok (k := 0) rfl (.none hp) nofun
  | cons segment segments ih =>
    have hfirst := CompiledQuery.searched_run shard number (hplan segment) (hload segment) hp hrunning
    rw [searchFrom, if_neg (by simp [hrunning])]
    let first := c.candidatesAt shard number segment
    let rest := c.candidatesFrom shard (number + 1) segments
    rw [run_bind]
    generalize (c.run search (ticking readings) segment p).run n = out at hfirst ⊢
    obtain ⟨⟨result, p'⟩, n'⟩ := out
    cases result with
    | error e =>
      cases hfirst with
      | error hne he => exact .error (List.append_ne_nil_of_left_ne_nil hne rest) he
    | ok docs =>
      cases hfirst with
      | @ok k _ _ _ hhits hchecks hready =>
        have hover := hchecks.isExpired_iff hp hrunning
        obtain hlt | rfl := Nat.lt_or_eq_of_le hchecks.grants.le
        · -- The time is over, so nothing is found in the other segments.
          dsimp only
          rw [searchFrom_of_isExpired shard (number + 1) (hover.mpr hlt), pure_bind]
          show Searched search d readings n p (first ++ rest) (first ++ rest).length search.isHit
            Prod.fst ((.ok (docs.map (⟨shard, number, ·⟩) ++ []), p'), n')
          rw [List.append_nil, hhits]
          exact hchecks.searched_over hlt hready
        · have hrest := ih (number + 1) hchecks.deadline (by simpa using hover)
          have hall := hchecks.searched_append (fun hne => hready (List.length_pos_iff.mpr hne)) hrest
          rw [List.take_length] at hhits
          rw [← hhits, ← List.length_append] at hall
          exact hall

end Runs

/-- The candidates of a shard are checked one after the other until the time is over. -/
theorem Shard.searched_search {q : RegexQuery} {schema : Schema} {c : CompiledQuery} {load : Loader}
    (hc : q.compile schema = .ok c)
    (hload : ∀ field segment doc, ∃ values, load field segment doc = .ok values) (s : Shard)
    (shard : Nat) (readings : Nat → Nat) :
    (c.search load).Searched c.start.deadline readings 0 c.start
      (c.candidatesFrom shard 0 s.segments.toList)
      (c.candidatesFrom shard 0 s.segments.toList).length (c.search load).isHit Prod.fst
      ((searchFrom c (c.search load) (ticking readings) shard 0 s.segments.toList c.start).run 0) :=
  searched_searchFrom shard 0 (CompiledQuery.planFor_ok hc) (hload _) rfl rfl _

/-- The search of a shard is that of its segments from the first one on. -/
theorem Shard.run_search (s : Shard) (c : CompiledQuery) (search : Search) (shard n : Nat)
    (readings : Nat → Nat) :
    (s.search c search (ticking readings) shard).run n =
      let out := (searchFrom c search (ticking readings) shard 0 s.segments.toList c.start).run n
      (out.1.1.map (⟨·, out.1.2.stats⟩), out.2) :=
  rfl

/-- **A search that runs out of time finds the first hits.** If a search succeeds and the values of
all documents can be loaded, then the search without a limit of time succeeds too, and it starts with
the same hits, whatever the clocks show. It finds the same if the statistics do not say that the time
was over. If they do, fewer candidates were checked than there are without a limit, and the check that
was made after these was the first one that said that the time was over, and the last one. -/
theorem Shard.search_prefix_of_timeout {q : RegexQuery} {schema : Schema} {c : CompiledQuery}
    {load : Loader} (hc : q.compile schema = .ok c)
    (hload : ∀ field segment doc, ∃ values, load field segment doc = .ok values)
    (s : Shard) (shard : Nat) (readings readings' : Nat → Nat) {found : SearchResults} {reads : Nat}
    (h : (s.search c (c.search load) (ticking readings) shard).run 0 = (.ok found, reads)) :
    ∃ c' full reads', q.withoutTimeout.compile schema = .ok c' ∧
      (s.search c' (c'.search load) (ticking readings') shard).run 0 = (.ok full, reads') ∧
      found.hits <+: full.hits ∧
      (found.stats.timedOut = false → found.hits = full.hits) ∧
      (found.stats.timedOut = true →
        found.stats.rechecked < full.stats.candidates ∧
        full.stats.rechecked = full.stats.candidates ∧
        reads = found.stats.rechecked + 1 ∧
        c.start.deadline.statusAt readings found.stats.rechecked = .expired ∧
        ∀ i < found.stats.rechecked, c.start.deadline.statusAt readings i = .running) := by
  have hc' := CompiledQuery.compile_withoutTimeout hc
  have hbounded := searched_search hc hload s shard readings
  have hunbounded := searched_search hc' hload s shard readings'
  rw [CompiledQuery.candidatesFrom_withoutTimeout] at hunbounded
  generalize c.candidatesFrom shard 0 s.segments.toList = candidates at hbounded hunbounded
  rw [run_search] at h
  generalize (searchFrom c (c.search load) (ticking readings) shard 0 s.segments.toList c.start).run 0
    = out at h hbounded
  cases hbounded with
  | error => cases h
  | @ok k _ p n hhits hchecks hready =>
    cases h
    -- The first check is in time, so the automaton was used if there are candidates.
    obtain ⟨p', n', hfull, hchecks'⟩ := hunbounded.ok_of_unlimited ⟨rfl, rfl⟩ fun hne =>
      hready (hchecks.grants.pos_of_fresh (List.length_pos_iff.mpr hne))
    have hrun' := run_search s c.withoutTimeout (c.withoutTimeout.search load) shard 0 readings'
    rw [hfull] at hrun'
    obtain ⟨hrechecked, htimedOut, -⟩ := hchecks.stats
    obtain ⟨hrechecked', -, hcandidates'⟩ := hchecks'.stats
    refine ⟨c.withoutTimeout, _, n', hc', hrun', ?_, fun hinTime => ?_, fun hover => ?_⟩
    · rw [hhits]
      exact ((List.take_prefix k candidates).filter _).map Prod.fst
    · have hge : candidates.length ≤ k := by simpa [htimedOut] using hinTime
      rw [hhits, List.take_of_length_le hge]
      rfl
    · have hlt : k < candidates.length := by simpa [htimedOut] using hover
      have hreads : n = k + 1 := by
        have := hchecks.reads
        omega
      show p.stats.rechecked < p'.stats.candidates ∧ p'.stats.rechecked = p'.stats.candidates ∧ _
      rw [hrechecked, hrechecked', hcandidates' rfl]
      refine ⟨hlt, rfl, hreads, ?_, fun i hi => ?_⟩
      · simpa using hchecks.grants.expired hlt
      · exact hchecks.grants.running i (Nat.zero_le i) (by omega)

/-- A clock that is set back between the first two checks takes no time. The third check is too late
for the documents of the second segment. -/
theorem Shard.search_prefix_of_timeout_setBack :
    let q : RegexQuery := { field := "body", regex := "a", settings := { timeoutMs := 1 } }
    let c : CompiledQuery := ⟨q, .unaccelerated⟩
    let docs : List Document := ["ab", "b", "a", "xa"].map fun text => ⟨[("body", [text])]⟩
    let s : Shard := docs.foldl (·.add {} ·) { capacity := 2 }
    let readings (n : Nat) : Nat := [7, 3, 9].getD n 0
    let found : SearchResults :=
      { hits := [⟨0, 0, 0⟩]
        stats := { segmentsSearched := 2, candidates := 4, rechecked := 2, matched := 1,
                   timedOut := true } }
    (q.compile {} = .ok c ∧
      (∀ field segment doc, ∃ values, Loader.stored field segment doc = .ok values) ∧
      (s.search c (c.search Loader.stored) (ticking readings) 0).run 0 = (.ok found, 3)) ∧
      ∃ c' full reads, q.withoutTimeout.compile {} = .ok c' ∧
        (s.search c' (c'.search Loader.stored) (ticking readings) 0).run 0 = (.ok full, reads) ∧
        found.hits <+: full.hits ∧ 2 < full.stats.candidates := by
  intro q c docs s readings found
  have hc : q.compile {} = .ok c := by cbv
  have hload (field : String) (segment : Segment) (doc : Nat) :
      ∃ values, Loader.stored field segment doc = .ok values := ⟨_, rfl⟩
  -- The clock is set back after the first reading; the third one is more than a millisecond after
  -- that, so the third candidate is not checked.
  have hfound : (s.search c (c.search Loader.stored) (ticking readings) 0).run 0 = (.ok found, 3) := by
    cbv
  obtain ⟨c', full, reads, hc', hfull, hprefix, -, htimedOut⟩ :=
    search_prefix_of_timeout hc hload s 0 readings readings hfound
  exact ⟨⟨hc, hload, hfound⟩, c', full, reads, hc', hfull, hprefix, (htimedOut rfl).1⟩

end GramSieve
