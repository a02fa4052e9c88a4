import GramSieve.Proofs.Index.Pruning

/-!
# Translated and normalized queries

A segment answers queries only, so a formula is translated into a query, and queries are normalized.

* `Segment.ofHistory` — the segment of documents that were added with schemas of their own.
* `Segment.has_ofHistory` — it knows of every document the terms that its schema gave it.
* `Segment.mem_evaluate_ofFormula` — the query of a formula finds the documents for which the formula is
  true, and looks up every leaf.
* `Query.normalize_faithful` — the normal form of a query finds the same documents, is normal or a
  constant, has no more clauses and is its own normal form.
-/

namespace GramSieve

/-- Whether a document has a term in a gram field. -/
def Schema.hasTerm (schema : Schema) (d : Document) (field term : String) : Bool :=
  schema.gramFields.any fun f => f.name == field && (Segment.termsOf f d).contains term

/-- Whether a document has a term can be computed from its values. -/
theorem Schema.hasTerm_iff {schema : Schema} {d : Document} {field term : String} :
    schema.hasTerm d field term = true ↔ schema.Has d field term := by
  simp [hasTerm, Has]

namespace Segment

/-! ### Segments with a history -/

/-- The segment that some documents make, added one after the other, each with a schema of its own. -/
def ofHistory (history : List (Schema × Document)) : Segment :=
  history.foldl (fun s added => s.add added.1 added.2) {}

/-- The last addition of a history is done last. -/
theorem ofHistory_concat (history : List (Schema × Document)) (schema : Schema) (d : Document) :
    ofHistory (history ++ [(schema, d)]) = (ofHistory history).add schema d :=
  List.foldl_concat ..

/-- A segment has one document for each addition. -/
theorem size_ofHistory (history : List (Schema × Document)) :
    (ofHistory history).size = history.length := by
  -- Documents are added at the end, so a history is taken apart from there.
  induction history using List.reverseRecOn with
  | nil => rfl
  | append_singleton history added ih =>
    rw [ofHistory_concat, size_add, ih, List.length_append, List.length_singleton]

/-- The segments that documents were added to are those with a history. -/
theorem built_iff_ofHistory {s : Segment} : s.Built ↔ ∃ history, ofHistory history = s := by
  constructor
  · intro hs
    induction hs with
    | empty => exact ⟨[], rfl⟩
    | add schema d _ ih =>
      obtain ⟨history, rfl⟩ := ih
      exact ⟨history ++ [(schema, d)], ofHistory_concat history schema d⟩
  · rintro ⟨history, rfl⟩
    induction history using List.reverseRecOn with
    | nil => exact .empty
    | append_singleton history added ih =>
      rw [ofHistory_concat]
      exact .add added.1 added.2 ih

/-- Its postings are those of its own documents. -/
theorem bounded_ofHistory (history : List (Schema × Document)) : (ofHistory history).Bounded :=
  (built_iff_ofHistory.mpr ⟨history, rfl⟩).bounded

/-- A segment knows of every document the terms that its schema gave it. -/
theorem has_ofHistory {history : List (Schema × Document)} {field term : String} {doc : Nat} :
    (ofHistory history).Has field term doc ↔
      ∃ added, history[doc]? = some added ∧ added.1.Has added.2 field term := by
  induction history using List.reverseRecOn with
  | nil => exact (indexes_empty {}).has.trans (by simp)
  | append_singleton history added ih =>
    rw [ofHistory_concat, has_add, ih, size_ofHistory, exists_getElem?_concat]

/-! ### Queries of formulas -/

/-- The query of a formula holds of a document if the formula is true of it. -/
theorem holds_ofFormula_iff {history : List (Schema × Document)} {doc : Nat} {schema : Schema}
    {d : Document} (hadded : history[doc]? = some (schema, d)) (field : String) (f : Formula String) :
    (Query.ofFormula field f).Holds (fun field t => (ofHistory history).Has field t doc) ↔
      f.evaluate (schema.hasTerm d field) = true := by
  rw [Formula.evaluate_iff]
  refine Query.holds_ofFormula (fun t => ?_) f
  rw [Schema.hasTerm_iff, has_ofHistory, hadded]
  simp

/-- **Formulas are translated faithfully.** Whatever documents were added to a segment, with whatever
schemas, the query of a formula over the terms of a field finds exactly the documents for which the
formula is true, where a leaf is true if it is a term of the document in that field. The query looks up as
many terms as the formula has leaves when it is written out as a tree. -/
theorem mem_evaluate_ofFormula (history : List (Schema × Document)) (field : String)
    (f : Formula String) :
    (∀ doc, doc ∈ (ofHistory history).evaluate (.ofFormula field f) ↔
      ∃ schema d, history[doc]? = some (schema, d) ∧
        f.evaluate (schema.hasTerm d field) = true) ∧
    (Query.ofFormula field f).clauseCount = f.fold Formula.leafCounts := by
  constructor
  · intro doc
    rw [(bounded_ofHistory history).mem_evaluate, size_ofHistory]
    constructor
    · rintro ⟨hlt, hholds⟩
      have hadded := List.getElem?_eq_getElem hlt
      exact ⟨_, _, hadded, (holds_ofFormula_iff hadded field f).mp hholds⟩
    · rintro ⟨schema, d, hadded, htrue⟩
      have hlt := (List.getElem?_eq_some_iff.mp hadded).1
      exact ⟨hlt, (holds_ofFormula_iff hadded field f).mpr htrue⟩
  · rw [Query.clauseCount_ofFormula]
    exact Formula.foldShared_eq_fold _ f

end Segment

/-! ### Normal forms -/

/-- **Normalizing is faithful and gives normal queries.** Every segment finds the same documents for the
normal form of a query. It is a constant, or it has no constants at all, every composite has two operands
or more, none of which is a composite of the same connective, and every list of terms has two terms or
more, in strictly ascending order. It has no more clauses than the query, and normalizing it again changes
nothing. -/
theorem Query.normalize_faithful (q : Query) :
    (∀ history doc, doc ∈ (Segment.ofHistory history).evaluate q.normalize ↔
      doc ∈ (Segment.ofHistory history).evaluate q) ∧
    ((∃ value, q.normalize = .const value) ∨ q.normalize.Normal) ∧
    q.normalize.clauseCount ≤ q.clauseCount ∧
    q.normalize.normalize = q.normalize := by
  refine ⟨fun history doc => ?_, canonical_normalize q, clauseCount_normalize_le q,
    normalize_normalize q⟩
  have hbounded := Segment.bounded_ofHistory history
  rw [hbounded.mem_evaluate, hbounded.mem_evaluate, holds_normalize]

end GramSieve
