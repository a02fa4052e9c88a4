import GramSieve.Index.Document
import GramSieve.Index.Postings
import GramSieve.Query.Basic

namespace GramSieve

/-!
# Segments

* `Segment` — some documents with the terms of their gram fields.
* `Segment.add` — adds a document, which gets the next number.
* `Segment.stored?` — the stored values of a document.
* `Segment.evaluate` — the documents that a query finds.
* `Segment.prune` — the query without the terms that no document has.
-/

/-- Some documents with the terms of their gram fields. -/
structure Segment where
  postings : Std.HashMap String Postings := ∅
  documents : Array Document := #[]

namespace Segment

/-- The number of documents. -/
def size (s : Segment) : Nat := s.documents.size

/-- The terms of a gram field of a document. -/
def termsOf (f : GramField) (d : Document) : List String :=
  (d.values f.source).flatMap f.analyzer.analyze

/-- Adds a document. Its fields that are not stored are gone after that. -/
def add (s : Segment) (schema : Schema) (d : Document) : Segment :=
  let doc := s.size
  { postings := schema.gramFields.foldl (fun postings f =>
      postings.alter f.name fun old => some ((old.getD {}).add doc (termsOf f d))) s.postings
    documents := s.documents.push (d.restrict schema.isStored) }

/-- The stored values of a field, if there is such a document. -/
def stored? (s : Segment) (field : String) (doc : Nat) : Option (List String) :=
  s.documents[doc]?.map fun d => d.values field

/-- Whether some document has a term in a field. -/
def hasTerm (s : Segment) (field term : String) : Bool :=
  s.postings[field]?.any fun p => p.contains term

/-! ### Queries -/

/-- All documents. -/
def all (s : Segment) : DocSet := .ofList (List.range s.size)

/-- The field and the terms of queries that are all for a single term of one field. -/
def sameFieldTerms? : List Query → Option (String × List String)
  | [.term field t] => some (field, [t])
  | .term field t :: qs =>
    match sameFieldTerms? qs with
    | some (f, ts) => if f = field then some (field, t :: ts) else none
    | none => none
  | _ => none

mutual

/-- The documents that a query finds. -/
def evaluate (s : Segment) : Query → DocSet
  | .const value => if value then s.all else ∅
  | .term field t => (s.postings[field]?.bind fun p => p.find? t).getD ∅
  | .terms field ts => (s.postings[field]?.map fun p => p.union ts).getD ∅
  | .node .and qs =>
    match sameFieldTerms? qs with
    | some (field, ts) => (s.postings[field]?.map fun p => p.intersect ts).getD ∅
    | none => s.evaluateAll qs
  | .node .or qs => s.evaluateSome qs

/-- The documents that all of some queries find. -/
def evaluateAll (s : Segment) : List Query → DocSet
  | [] => s.all
  | q :: qs => s.narrow (s.evaluate q) qs

/-- The documents of a set that all of some queries find. -/
def narrow (s : Segment) (found : DocSet) : List Query → DocSet
  | [] => found
  | q :: qs => if found.isEmpty then found else s.narrow (found.filter (s.evaluate q).contains) qs

/-- The documents that some of the queries find. -/
def evaluateSome (s : Segment) : List Query → DocSet
  | [] => ∅
  | q :: qs => s.evaluate q ∪ s.evaluateSome qs

end

mutual

/-- A query without its terms that no document has. What is left of every part of it is brought into
normal form. -/
def prune (s : Segment) (q : Query) : Query :=
  let kept : Query := match q with
    | .const value => .const value
    | .term field t => if s.hasTerm field t then .term field t else .const false
    | .terms field ts => .terms field (ts.filter (s.hasTerm field))
    | .node kind qs => .node kind (s.pruneList qs)
  kept.normalize

/-- The same for some operands. -/
def pruneList (s : Segment) : List Query → List Query
  | [] => []
  | q :: qs => s.prune q :: s.pruneList qs

end

end Segment

end GramSieve
