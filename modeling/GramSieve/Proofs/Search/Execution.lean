import GramSieve.Proofs.Basic
import GramSieve.Proofs.Search.Clock
import GramSieve.Search.Execution
import Std.Data.TreeSet.Lemmas

/-!
# Runs without a limit of time

* `Search.Answers` — what a recheck says of the stored values of a document.
* `Search.Confirmed` — the documents among some candidates whose values have a match.
* `Search.yields_confirmAll`, `Search.yields_run` — these are what a run finds.
-/

namespace GramSieve

/-- What comes of a run without a limit of time: another one can go on, and if it succeeds, its
result has a property. -/
structure Outcome {α : Type} (Q : α → Prop) (out : Except SearchError α × Progress) : Prop where
  unlimited : out.2.deadline.Unlimited
  result : ∀ a, out.1 = .ok a → Q a

theorem Outcome.error {α : Type} {Q : α → Prop} {e : SearchError} {p : Progress}
    (hp : p.deadline.Unlimited) : Outcome Q (.error e, p) :=
  ⟨hp, nofun⟩

theorem Outcome.ok {α : Type} {Q : α → Prop} {a : α} {p : Progress} (hp : p.deadline.Unlimited)
    (h : Q a) : Outcome Q (.ok a, p) :=
  ⟨hp, fun _ heq => Except.ok.inj heq ▸ h⟩

namespace Search

/-- A recheck of what is stored of a document says whether there is a match. -/
def Answers (search : Search) (segment : Segment) (doc : Nat) (found : Bool) : Prop :=
  search.rechecker.recheck ((segment.stored? search.field doc).getD []) = .ok found

/-- The hits are the candidates with a match, in the same order. -/
structure Confirmed (search : Search) (segment : Segment) (candidates hits : List Nat) : Prop where
  sublist : hits.Sublist candidates
  answers : ∀ doc ∈ candidates, ∃ found, search.Answers segment doc found
  mem_iff {doc : Nat} : doc ∈ hits ↔ doc ∈ candidates ∧ search.Answers segment doc true

variable {search : Search} {segment : Segment} {p : Progress} {doc : Nat}

/-- Without candidates there are no hits. -/
theorem Confirmed.nil : search.Confirmed segment [] [] where
  sublist := .slnil
  answers := List.forall_mem_nil _
  mem_iff := by simp

/-- A candidate with a match is the first hit. -/
theorem Confirmed.found {docs hits : List Nat} (h : search.Confirmed segment docs hits)
    (hdoc : search.Answers segment doc true) :
    search.Confirmed segment (doc :: docs) (doc :: hits) where
  sublist := h.sublist.cons_cons doc
  answers := List.forall_mem_cons.mpr ⟨⟨true, hdoc⟩, h.answers⟩
  mem_iff {doc'} := by
    rw [List.mem_cons, List.mem_cons, h.mem_iff, or_and_right]
    refine or_congr_left (and_iff_left_of_imp ?_).symm
    rintro rfl
    exact hdoc

/-- A candidate without one is no hit. -/
theorem Confirmed.notFound {docs hits : List Nat} (h : search.Confirmed segment docs hits)
    (hdoc : search.Answers segment doc false) : search.Confirmed segment (doc :: docs) hits where
  sublist := h.sublist.cons doc
  answers := List.forall_mem_cons.mpr ⟨⟨false, hdoc⟩, h.answers⟩
  mem_iff {doc'} := by
    rw [h.mem_iff, List.mem_cons, or_and_right]
    refine (or_iff_right ?_).symm
    -- The candidate that was dropped cannot have had a match.
    rintro ⟨rfl, htrue⟩
    exact absurd (Except.ok.inj (hdoc.symm.trans htrue)) (by decide)

/-! ### Checking candidates -/

/-- Without a limit of time a check is the same at any time. -/
theorem confirm_eq (hp : p.deadline.Unlimited) (now : Nat) :
    search.confirm segment doc now p = search.confirm segment doc 0 p := by
  unfold confirm
  rw [hp.check, hp.check]

/-- While there is time, a candidate is a hit if the recheck of its values says so. -/
theorem outcome_confirm (segment : Segment) (doc : Nat) (hload : search.load = Loader.stored)
    (hp : p.deadline.Unlimited) :
    Outcome (fun confirmation => ∃ found, search.Answers segment doc found ∧
      confirmation = if found then .found else .notFound) (search.confirm segment doc 0 p) := by
  unfold confirm Answers
  rw [hp.check, hload]
  simp only [Loader.stored]
  split
  · exact .error hp
  · rename_i hrecheck
    exact .ok hp ⟨false, hrecheck, rfl⟩
  · rename_i hrecheck
    exact .ok hp ⟨true, hrecheck, rfl⟩

variable {m : Type → Type} [Monad m] [LawfulMonad m] {clock : m Nat}

/-- So going through the candidates gives those with a match. -/
theorem yields_confirmAll (hload : search.load = Loader.stored) (hp : p.deadline.Unlimited)
    (docs : List Nat) :
    Yields clock (search.confirmAll clock segment docs p)
      (Outcome (search.Confirmed segment docs)) := by
  induction docs generalizing p with
  | nil => exact .pure (.ok hp .nil)
  | cons doc docs ih =>
    rw [confirmAll]
    -- The clock is read before every candidate, but what it says does not matter.
    refine .read (fun now => by rw [confirm_eq hp now]) ?_
    obtain ⟨hrest, hresult⟩ := outcome_confirm segment doc hload hp
    generalize search.confirm segment doc 0 p = out at hrest hresult
    obtain ⟨result, p'⟩ := out
    cases result with
    | error e => exact .pure (.error hrest)
    | ok confirmation =>
      obtain ⟨found, hfound, rfl⟩ := hresult confirmation rfl
      cases found with
      | false =>
        refine (ih hrest).imp fun out hout => ⟨hout.unlimited, fun hits h => ?_⟩
        exact (hout.result hits h).notFound hfound
      | true =>
        refine .bind (ih hrest) fun out hout => ?_
        obtain ⟨result, p''⟩ := out
        cases result with
        | error e => exact .pure (.error hout.unlimited)
        | ok hits => exact .pure (.ok hout.unlimited ((hout.result hits rfl).found hfound))

/-- The candidates of a plan are checked in ascending order. -/
theorem yields_run (hload : search.load = Loader.stored) (hp : p.deadline.Unlimited) (plan : Plan) :
    Yields clock (search.run clock plan segment p)
      (Outcome (search.Confirmed segment (plan.candidates segment).toList)) := by
  unfold run
  split
  · exact .pure (.ok hp .nil)
  · rw [if_neg (by simp [hp.isExpired])]
    apply yields_confirmAll hload
    exact hp

/-- Candidates are gone through in the order of their numbers. -/
theorem pairwise_candidates (segment : Segment) (plan : Plan) :
    (plan.candidates segment).toList.Pairwise (· < ·) := by
  refine Std.TreeSet.ordered_toList.imp fun h => ?_
  exact Nat.compare_eq_lt.mp h

end Search

end GramSieve
