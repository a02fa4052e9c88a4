import GramSieve.Index.Segment
import GramSieve.Search.Deadline
import GramSieve.Search.Plan
import GramSieve.Search.Recheck

namespace GramSieve

/-!
# Running a plan over segments

A plan first picks candidates, and then the values of every candidate are loaded and checked.

* `Loader` — where the values of a document come from.
* `SearchStats`, `Progress` — what a run has done so far, and the time it has left.
* `Search.confirm` — checks one candidate.
* `Search.run` — both phases over one segment, with a clock that is read before every check.
-/

/-- Loads the values of a field of a document. -/
abbrev Loader := String → Segment → Nat → Except LoadFault (List String)

/-- Loads the values that a segment stores. -/
def Loader.stored : Loader := fun field segment doc => .ok ((segment.stored? field doc).getD [])

/-- What a run has done. -/
structure SearchStats where
  segmentsSearched : Nat := 0
  /-- Segments where nothing can match. -/
  segmentsSkipped : Nat := 0
  /-- Documents that the first phase found. -/
  candidates : Nat := 0
  /-- Documents whose values were loaded and checked. -/
  rechecked : Nat := 0
  matched : Nat := 0
  /-- Whether the run stopped early. -/
  timedOut : Bool := false
  deriving DecidableEq, Repr, Inhabited

/-- What two runs have done together. -/
def SearchStats.merge (a b : SearchStats) : SearchStats where
  segmentsSearched := a.segmentsSearched + b.segmentsSearched
  segmentsSkipped := a.segmentsSkipped + b.segmentsSkipped
  candidates := a.candidates + b.candidates
  rechecked := a.rechecked + b.rechecked
  matched := a.matched + b.matched
  timedOut := a.timedOut || b.timedOut

/-- What a run has done, and the time it has left. -/
structure Progress where
  deadline : Deadline
  stats : SearchStats := {}
  deriving DecidableEq, Repr, Inhabited

/-- What came of checking a candidate. -/
inductive Confirmation where
  | found
  | notFound
  /-- There was no time left to check it. -/
  | timedOut
  deriving DecidableEq, Repr, Inhabited

/-- The candidates of a plan. -/
def Plan.candidates (plan : Plan) (segment : Segment) : DocSet :=
  match plan with
  | .accelerated q => segment.evaluate q
  | .unaccelerated => segment.all
  | .noMatch => ∅

/-- What is searched for, and where the values come from. -/
structure Search where
  field : String
  load : Loader
  rechecker : Rechecker

namespace Search

/-- Checks a candidate when the clock shows `now`. A value that cannot be loaded ends the search. -/
def confirm (search : Search) (segment : Segment) (doc : Nat) (now : Nat) (p : Progress) :
    Except SearchError Confirmation × Progress :=
  match p.deadline.check now with
  | (.expired, deadline) => (.ok .timedOut, { deadline, stats := { p.stats with timedOut := true } })
  | (.running, deadline) =>
    match search.load search.field segment doc with
    | .error fault => (.error (.fieldLoad search.field doc fault), { p with deadline })
    | .ok values =>
      let stats := { p.stats with rechecked := p.stats.rechecked + 1 }
      match search.rechecker.recheck values with
      | .error e => (.error e, { deadline, stats })
      | .ok false => (.ok .notFound, { deadline, stats })
      | .ok true => (.ok .found, { deadline, stats := { stats with matched := stats.matched + 1 } })

/-- The cost of loading the values of a document, which is more than that of most checks. -/
def loadCost : Nat := 10000

/-- What checking a candidate costs compared to other searches. -/
def cost (search : Search) : Except SearchError Nat :=
  search.rechecker.cost.map (loadCost + ·)

variable {m : Type → Type} [Monad m]

/-- The candidates that match, up to the first one for which there is no time left. -/
def confirmAll (search : Search) (clock : m Nat) (segment : Segment) :
    List Nat → Progress → m (Except SearchError (List Nat) × Progress)
  | [], p => return (.ok [], p)
  | doc :: docs, p => do
    match search.confirm segment doc (← clock) p with
    | (.error e, p) => return (.error e, p)
    | (.ok .timedOut, p) => return (.ok [], p)
    | (.ok .notFound, p) => search.confirmAll clock segment docs p
    | (.ok .found, p) =>
      let (hits, p) ← search.confirmAll clock segment docs p
      return (hits.map (doc :: ·), p)

/-- The documents of a segment that match, in ascending order. -/
def run (search : Search) (clock : m Nat) (plan : Plan) (segment : Segment) (p : Progress) :
    m (Except SearchError (List Nat) × Progress) :=
  match plan with
  | .noMatch =>
    let stats := { p.stats with segmentsSkipped := p.stats.segmentsSkipped + 1 }
    return (.ok [], { p with stats })
  | _ =>
    if p.deadline.isExpired then return (.ok [], p)
    else
      let candidates := (plan.candidates segment).toList
      let stats := { p.stats with
        segmentsSearched := p.stats.segmentsSearched + 1
        candidates := p.stats.candidates + candidates.length }
      search.confirmAll clock segment candidates { p with stats }

end Search

end GramSieve
