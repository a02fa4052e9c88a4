import GramSieve.Search.RegexQuery

namespace GramSieve

/-!
# The index

* `Shard` — segments that are filled one after the other and searched by one run.
* `Index` — shards that get the documents in turn.
* `Index.add`, `Index.stored?` — adds a document, and finds what is stored of it.
* `Index.search` — the documents that match a query.
-/

/-- The place of a document. -/
structure DocAddress where
  shard : Nat
  segment : Nat
  doc : Nat
  deriving DecidableEq, Repr, Inhabited

/-- How an index spreads its documents. -/
structure IndexOptions where
  shards : Nat := 4
  /-- A segment with this many documents is full. -/
  maxDocsPerSegment : Nat := 10000
  deriving DecidableEq, Repr, Inhabited

/-- What a search finds. -/
structure SearchResults where
  hits : List DocAddress := []
  stats : SearchStats := {}
  deriving DecidableEq, Repr, Inhabited

/-- Segments that are filled one after the other. -/
structure Shard where
  segments : Array Segment := #[]
  /-- How many documents a segment takes, at least one. -/
  capacity : Nat
  capacity_pos : 0 < capacity := by omega

namespace Shard

/-- The number of documents. -/
def size (s : Shard) : Nat := s.segments.foldl (fun n segment => n + segment.size) 0

/-- The segment and the number that the next document gets. -/
def nextPlace (s : Shard) : Nat × Nat :=
  match s.segments.back? with
  | some last => if last.size < s.capacity then (s.segments.size - 1, last.size)
    else (s.segments.size, 0)
  | none => (0, 0)

/-- Adds a document, in a new segment if the last one is full. -/
def add (s : Shard) (schema : Schema) (d : Document) : Shard :=
  let segment := s.nextPlace.1
  let segments := if segment < s.segments.size then s.segments else s.segments.push {}
  { s with segments := segments.modify segment fun old => old.add schema d }

variable {m : Type → Type} [Monad m]

/-- Searches segments, the first of which has the given number, until the time is over. -/
def searchFrom (c : CompiledQuery) (search : Search) (clock : m Nat) (shard : Nat) :
    Nat → List Segment → Progress → m (Except SearchError (List DocAddress) × Progress)
  | _, [], p => return (.ok [], p)
  | number, segment :: segments, p => do
    if p.deadline.isExpired then return (.ok [], p)
    match ← c.run search clock segment p with
    | (.error e, p) => return (.error e, p)
    | (.ok docs, p) =>
      let (more, p) ← searchFrom c search clock shard (number + 1) segments p
      return (more.map (docs.map (⟨shard, number, ·⟩) ++ ·), p)

/-- Searches the segments of the shard with the given number. -/
def search (s : Shard) (c : CompiledQuery) (search : Search) (clock : m Nat) (shard : Nat) :
    m (Except SearchError SearchResults) := do
  let (hits, p) ← searchFrom c search clock shard 0 s.segments.toList c.start
  return hits.map (⟨·, p.stats⟩)

end Shard

/-- Shards that get the documents in turn. -/
structure Index where
  schema : Schema
  shards : Array Shard
  /-- The shard that gets the next document. -/
  next : Nat := 0

namespace Index

/-- An index without documents. It has at least one shard, and segments take at least one
document. -/
def empty (schema : Schema) (options : IndexOptions) : Index where
  schema
  shards := Array.replicate (max options.shards 1) { capacity := max options.maxDocsPerSegment 1 }

/-- The number of documents. -/
def size (index : Index) : Nat := index.shards.foldl (fun n shard => n + shard.size) 0

/-- Adds a document, and tells its place. -/
def add (index : Index) (d : Document) : DocAddress × Index :=
  let shard := index.next
  let place := (index.shards[shard]?.map Shard.nextPlace).getD (0, 0)
  (⟨shard, place.1, place.2⟩,
    { index with
      shards := index.shards.modify shard fun old => old.add index.schema d
      next := (shard + 1) % index.shards.size })

/-- The segment with the given numbers. -/
def segment? (index : Index) (shard segment : Nat) : Option Segment := do
  (← index.shards[shard]?).segments[segment]?

/-- The stored values of a field, if there is a document at the address. -/
def stored? (index : Index) (a : DocAddress) (field : String) : Option (List String) := do
  (← index.segment? a.shard a.segment).stored? field a.doc

variable {m : Type → Type} [Monad m]

/-- Searches shards, the first of which has the given number, and puts together what they find. -/
def searchShards (c : CompiledQuery) (search : Search) (clock : m Nat) :
    Nat → List Shard → SearchResults → m (Except SearchError SearchResults)
  | _, [], found => return .ok found
  | number, shard :: shards, found => do
    match ← shard.search c search clock number with
    | .error e => return .error e
    | .ok r =>
      searchShards c search clock (number + 1) shards
        ⟨found.hits ++ r.hits, found.stats.merge r.stats⟩

/-- The documents that match a query that is planned, in ascending order. -/
def searchCompiled (index : Index) (c : CompiledQuery) (load : Loader) (clock : m Nat) :
    m (Except SearchError SearchResults) :=
  searchShards c (c.search load) clock 0 index.shards.toList {}

/-- The documents that match a query, in ascending order. -/
def search (index : Index) (q : RegexQuery) (load : Loader) (clock : m Nat) :
    m (Except SearchError SearchResults) :=
  match q.compile index.schema with
  | .error e => return .error e
  | .ok c => index.searchCompiled c load clock

end Index

end GramSieve
