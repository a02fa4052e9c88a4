import Std.Data.HashMap
import Std.Data.TreeSet

namespace GramSieve

/-!
# Postings

* `DocSet` — a set of document numbers, in ascending order.
* `Postings` — the documents of every term.
* `Postings.add` — adds the terms of a document.
* `Postings.intersect`, `Postings.union` — the documents with all or with some of the terms.
-/

/-- A set of document numbers. -/
abbrev DocSet := Std.TreeSet Nat

/-- The documents of every term. A term without documents has no entry. -/
structure Postings where
  docs : Std.HashMap String DocSet := ∅

namespace Postings

/-- Adds a term of a document. -/
def addTerm (p : Postings) (doc : Nat) (term : String) : Postings :=
  ⟨p.docs.alter term fun set => some ((set.getD ∅).insert doc)⟩

/-- Adds the terms of a document. -/
def add (p : Postings) (doc : Nat) (terms : List String) : Postings :=
  terms.foldl (fun p term => p.addTerm doc term) p

/-- The documents with a term, if there are any. -/
def find? (p : Postings) (term : String) : Option DocSet := p.docs[term]?

/-- Whether some document has a term. -/
def contains (p : Postings) (term : String) : Bool := p.docs.contains term

/-- The number of distinct terms. -/
def termCount (p : Postings) : Nat := p.docs.size

/-- The documents in all of some sets; there are none in no sets. The smallest set goes first, and
nothing more is looked at once no document is left. -/
def intersectSets (sets : List DocSet) : DocSet :=
  match sets.mergeSort fun a b => decide (a.size ≤ b.size) with
  | [] => ∅
  | smallest :: others =>
    others.foldl (fun left set => if left.isEmpty then left else left.filter set.contains) smallest

/-- The documents with all of some terms; there are none with no terms. -/
def intersect (p : Postings) (terms : List String) : DocSet :=
  match terms.mapM p.find? with
  | some sets => intersectSets sets
  | none => ∅

/-- The documents with some of the terms. -/
def union (p : Postings) (terms : List String) : DocSet :=
  terms.foldl (fun found term =>
    match p.find? term with
    | some set => found ∪ set
    | none => found) ∅

end Postings

end GramSieve
