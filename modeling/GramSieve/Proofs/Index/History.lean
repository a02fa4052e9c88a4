import GramSieve.Proofs.Guarded
import GramSieve.Proofs.Index.Postings

namespace GramSieve.Postings

/-!
# Postings after any documents were added

Documents come in any order, and the terms of one document may come in several turns.

* `ofHistory` — the postings after some turns, each with a document and some of its terms.
* `has_ofHistory` — a document has the terms that came with it in some turn.
* `Filled`, `filled_ofHistory` — every term that is known has a document.
* `encard_filled` — so the terms that some document has are those that are counted.
* `ofHistory_exact` — looking up, intersection, union and count in terms of the turns.
-/

/-- The postings after some turns. -/
def ofHistory (history : List (Nat × List String)) : Postings :=
  history.foldl (fun p turn => p.add turn.1 turn.2) {}

/-- A document was added with a term in some turn. -/
def Added (history : List (Nat × List String)) (term : String) (doc : Nat) : Prop :=
  ∃ terms, (doc, terms) ∈ history ∧ term ∈ terms

variable {p : Postings} {term : String} {doc : Nat} {history : List (Nat × List String)}

/-- A document has the terms that it had before and those that were added for it since. -/
theorem has_foldl_add : (history.foldl (fun p turn => p.add turn.1 turn.2) p).Has term doc ↔
    p.Has term doc ∨ Added history term doc := by
  induction history generalizing p with
  | nil => simp [Added]
  | cons turn history ih =>
    obtain ⟨doc', terms⟩ := turn
    have hadded : Added ((doc', terms) :: history) term doc ↔
        (term ∈ terms ∧ doc = doc') ∨ Added history term doc := by
      simp only [Added, List.mem_cons, Prod.mk.injEq, or_and_right, exists_or, and_assoc,
        exists_and_left, exists_eq_left]
      rw [and_comm (a := doc = doc')]
    rw [List.foldl_cons, ih, has_add, hadded, or_assoc]

/-- Postings made by a history have what was added in it. -/
theorem has_ofHistory : (ofHistory history).Has term doc ↔ Added history term doc :=
  has_foldl_add.trans (or_iff_right not_has_empty)

/-! ### Terms without documents -/

/-- Every term that is known has a document. -/
def Filled (p : Postings) : Prop := ∀ term, p.contains term = true → ∃ doc, p.Has term doc

theorem filled_empty : Filled {} := by
  intro term h
  simp [contains] at h

/-- Adding a term for a document makes no empty set. -/
theorem Filled.addTerm (h : p.Filled) (doc : Nat) (term : String) : (p.addTerm doc term).Filled := by
  intro other hother
  by_cases heq : other = term
  · exact ⟨doc, has_addTerm.mpr (.inr ⟨heq, rfl⟩)⟩
  · -- Another term is known only if it was known before.
    have hknown : p.contains other = true := by
      have hne : (term == other) = false := beq_eq_false_iff_ne.mpr (Ne.symm heq)
      simpa [contains, Postings.addTerm, Std.HashMap.contains_alter, hne] using hother
    obtain ⟨doc', hhas⟩ := h other hknown
    exact ⟨doc', has_addTerm.mpr (.inl hhas)⟩

/-- Nor does adding many terms. -/
theorem Filled.add (h : p.Filled) (doc : Nat) (terms : List String) : (p.add doc terms).Filled := by
  unfold Postings.add
  induction terms generalizing p with
  | nil => exact h
  | cons term terms ih => exact ih (h.addTerm doc term)

/-- So there are no empty sets after any history. -/
theorem filled_ofHistory (history : List (Nat × List String)) : (ofHistory history).Filled := by
  suffices ∀ p : Postings, p.Filled → (history.foldl (fun p turn => p.add turn.1 turn.2) p).Filled from
    this {} filled_empty
  induction history with
  | nil => exact fun _ h => h
  | cons turn history ih => exact fun p h => ih _ (h.add turn.1 turn.2)

theorem Filled.contains_iff (h : p.Filled) : p.contains term = true ↔ ∃ doc, p.Has term doc :=
  ⟨h term, fun ⟨_, hhas⟩ => contains_of_has hhas⟩

theorem Filled.find?_eq_none_iff (h : p.Filled) : p.find? term = none ↔ ¬∃ doc, p.Has term doc := by
  rw [← h.contains_iff, contains, Std.HashMap.contains_eq_isSome_getElem?, ← find?]
  simp

/-- The terms that are counted are those that some document has. -/
theorem encard_filled (h : p.Filled) : {term | ∃ doc, p.Has term doc}.encard = p.termCount := by
  rw [termCount, ← Std.HashMap.length_keys, ← List.size_toArray]
  refine encard_eq_size Std.HashMap.nodup_keys fun term => ?_
  rw [List.mem_toArray, Std.HashMap.mem_keys, ← Std.HashMap.contains_iff_mem]
  exact h.contains_iff

/-! ### In terms of the turns -/

/-- **Postings are sets of documents.** Whatever the turns were, a term has the documents that were
added with it, and the term is unknown if there are none. The intersection of some terms has the
documents that were added with all of them, in one turn or in several, and it is empty for no terms. The
union has the documents that were added with some of them. The count is that of the terms that a document
was added with. -/
theorem ofHistory_exact (history : List (Nat × List String)) :
    (∀ term, (ofHistory history).find? term = none ↔ ¬∃ doc, Added history term doc) ∧
    (∀ term, (ofHistory history).contains term = false ↔ ¬∃ doc, Added history term doc) ∧
    (∀ term doc, doc ∈ ((ofHistory history).find? term).getD ∅ ↔ Added history term doc) ∧
    (∀ terms doc, doc ∈ (ofHistory history).intersect terms ↔
      terms ≠ [] ∧ ∀ term ∈ terms, Added history term doc) ∧
    (∀ terms doc, doc ∈ (ofHistory history).union terms ↔ ∃ term ∈ terms, Added history term doc) ∧
    {term | ∃ doc, Added history term doc}.encard = (ofHistory history).termCount := by
  have hfilled := filled_ofHistory history
  simp only [← has_ofHistory]
  refine ⟨fun term => hfilled.find?_eq_none_iff, fun term => ?_, fun term doc => ?_,
    fun terms doc => mem_intersect, fun terms doc => mem_union, encard_filled hfilled⟩
  · show _ ↔ ¬_
    rw [← hfilled.contains_iff, Bool.not_eq_true]
  · exact has_iff_mem_getD.symm

end GramSieve.Postings
