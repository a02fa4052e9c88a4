import GramSieve.Index.Basic
import GramSieve.Proofs.Index.Segment

/-!
# Where the documents of an index are

* `Contents` — the documents of every segment, in the order of their numbers.
* `Shard.Holds`, `Index.Holds` — a shard or an index has the documents of some contents.
* `Index.Holds.add` — adding a document puts it behind the others of the segment of its address.
* `Index.addAll` — adds some documents and tells their addresses.
* `Index.holds_addAll` — an index has the documents that were added, at the addresses that were told.
-/

namespace GramSieve

/-! ### Shards -/

namespace Shard

/-- The segments of a shard, and the new one if the next document needs it. -/
def withRoom (s : Shard) : Array Segment :=
  if s.nextPlace.1 < s.segments.size then s.segments else s.segments.push {}

/-- A document is added to the segment of the next place. -/
theorem add_segments (s : Shard) (schema : Schema) (d : Document) :
    (s.add schema d).segments = s.withRoom.modify s.nextPlace.1 fun old => old.add schema d := rfl

/-- Making room may add a segment. -/
theorem size_le_withRoom (s : Shard) : s.segments.size ≤ s.withRoom.size := by
  unfold withRoom
  split
  · exact Nat.le_refl _
  · rw [Array.size_push]
    exact Nat.le_succ _

/-- The next document goes behind those of the last segment, or it is the first one of a new
segment. -/
theorem nextPlace_cases (s : Shard) :
    (∃ last, s.segments.back? = some last ∧ s.nextPlace = (s.segments.size - 1, last.size)) ∨
      s.nextPlace = (s.segments.size, 0) := by
  unfold nextPlace
  split
  · rename_i last hlast
    split
    · exact .inl ⟨last, hlast, rfl⟩
    · exact .inr rfl
  · rename_i hnone
    rw [Array.back?_eq_none_iff.mp hnone]
    exact .inr rfl

/-- Once there is room, the next place is in a segment that exists. -/
theorem nextPlace_lt (s : Shard) : s.nextPlace.1 < s.withRoom.size := by
  unfold withRoom
  split
  · assumption
  · rename_i hge
    rw [Array.size_push]
    rcases s.nextPlace_cases with ⟨last, -, hplace⟩ | hplace
    · rw [hplace]
      show s.segments.size - 1 < s.segments.size + 1
      omega
    · rw [hplace]
      exact Nat.lt_succ_self _

/-- The segments of a shard have some documents, and there are no others. -/
structure Holds (s : Shard) (schema : Schema) (contents : Nat → List Document) : Prop where
  indexes {n : Nat} {segment : Segment} : s.segments[n]? = some segment →
    segment.Indexes schema (contents n)
  beyond {n : Nat} : s.segments.size ≤ n → contents n = []

namespace Holds

variable {s : Shard} {schema : Schema} {contents : Nat → List Document}

/-- A document is placed behind the others of its segment, which is the last one or a new one. -/
theorem nextPlace (hs : s.Holds schema contents) :
    s.nextPlace.2 = (contents s.nextPlace.1).length := by
  rcases s.nextPlace_cases with ⟨last, hlast, hplace⟩ | hplace
  · rw [Array.back?_eq_getElem?] at hlast
    rw [hplace]
    exact (hs.indexes hlast).size_eq
  · -- The segment behind the last one is still empty.
    rw [hplace]
    show 0 = (contents s.segments.size).length
    rw [hs.beyond (Nat.le_refl _), List.length_nil]

/-- A segment that was added to make room has no documents yet, and none were expected in it. -/
theorem indexes_withRoom (hs : s.Holds schema contents) {n : Nat} {segment : Segment}
    (h : s.withRoom[n]? = some segment) : segment.Indexes schema (contents n) := by
  unfold withRoom at h
  split at h
  · exact hs.indexes h
  · -- The segment that was pushed has no documents, and none are asked for there.
    rw [Array.getElem?_push] at h
    split at h
    · rename_i hn
      cases h
      rw [hs.beyond (Nat.le_of_eq hn.symm)]
      exact Segment.indexes_empty schema
    · exact hs.indexes h

/-- A shard holds the document that is added at the place that it was given, and all others where they
were. -/
theorem add (hs : s.Holds schema contents) (d : Document) :
    (s.add schema d).Holds schema fun n =>
      if n = s.nextPlace.1 then contents n ++ [d] else contents n where
  indexes {n segment} h := by
    rw [add_segments, Array.getElem?_modify] at h
    split at h
    · rename_i heq
      obtain ⟨old, hold, rfl⟩ := Option.map_eq_some_iff.mp h
      rw [if_pos heq.symm]
      exact (hs.indexes_withRoom hold).add d
    · rename_i hne
      rw [if_neg (Ne.symm hne)]
      exact hs.indexes_withRoom h
  -- The next place has room, so no segment is added behind it.
  beyond {n} hn := by
    rw [add_segments, Array.size_modify] at hn
    have hlt := s.nextPlace_lt
    have hle := s.size_le_withRoom
    rw [if_neg (by omega)]
    exact hs.beyond (by omega)

end Holds

end Shard

/-! ### Indexes -/

/-- The documents of the segments of all shards. -/
abbrev Contents := Nat → Nat → List Document

/-- The document with an address. -/
def Contents.at? (contents : Contents) (a : DocAddress) : Option Document :=
  (contents a.shard a.segment)[a.doc]?

/-- A document behind the others of one segment. -/
def Contents.append (contents : Contents) (shard segment : Nat) (d : Document) : Contents :=
  fun i n => if i = shard ∧ n = segment then contents i n ++ [d] else contents i n

/-- One more document is found at its own address, and all others where they were. -/
theorem Contents.at?_append {contents : Contents} {shard segment : Nat} {d d' : Document}
    {a : DocAddress} :
    (contents.append shard segment d).at? a = some d' ↔ contents.at? a = some d' ∨
      a = ⟨shard, segment, (contents shard segment).length⟩ ∧ d' = d := by
  obtain ⟨i, n, k⟩ := a
  unfold Contents.at? Contents.append
  by_cases hplace : i = shard ∧ n = segment
  · obtain ⟨rfl, rfl⟩ := hplace
    simp only [and_self, if_true, DocAddress.mk.injEq, true_and]
    rw [List.getElem?_append]
    split
    · rename_i hlt
      simp [Nat.ne_of_lt hlt]
    · rename_i hge
      rw [List.getElem?_eq_none (Nat.le_of_not_lt hge)]
      -- Behind the old documents there is only the new one.
      by_cases hk : k = (contents i n).length
      · simp [hk, eq_comm]
      · have : k - (contents i n).length ≠ 0 := by omega
        simp [hk, this]
  · simp only [hplace, if_false, DocAddress.mk.injEq, ← and_assoc, false_and, or_false]

/-- The shards of an index have some documents, and there are no others. -/
structure Index.Holds (index : Index) (contents : Contents) : Prop where
  shards {i : Nat} {shard : Shard} : index.shards[i]? = some shard →
    shard.Holds index.schema (contents i)
  beyond {i : Nat} (n : Nat) : index.shards.size ≤ i → contents i n = []
  next_lt : index.next < index.shards.size

namespace Index

variable {index : Index} {contents : Contents}

/-- An empty index holds nothing. -/
theorem holds_empty (schema : Schema) (options : IndexOptions) :
    (Index.empty schema options).Holds fun _ _ => [] where
  shards {i shard} h := by
    unfold Index.empty at h
    rw [Array.getElem?_replicate] at h
    split at h
    · cases h
      exact ⟨fun hsegment => by simp at hsegment, fun _ => rfl⟩
    · cases h
  beyond _ _ := rfl
  next_lt := by
    unfold Index.empty
    rw [Array.size_replicate]
    exact Nat.lt_of_lt_of_le Nat.one_pos (Nat.le_max_right _ _)

/-- A document gets the next number of its segment. -/
theorem Holds.add (h : index.Holds contents) (d : Document) :
    ∃ shard segment, (index.add d).1 = ⟨shard, segment, (contents shard segment).length⟩ ∧
      (index.add d).2.Holds (contents.append shard segment d) := by
  obtain ⟨shard, hshard⟩ : ∃ shard, index.shards[index.next]? = some shard :=
    ⟨_, Array.getElem?_eq_getElem h.next_lt⟩
  have hholds := h.shards hshard
  refine ⟨index.next, shard.nextPlace.1, ?_, ?_, ?_, ?_⟩
  · unfold Index.add
    simp only
    rw [hshard, Option.map_some, Option.getD_some, ← hholds.nextPlace]
  · -- The shard whose turn it is has one document more, and the others are as they were.
    intro i shard' hshard'
    unfold Index.add at hshard' ⊢
    simp only [Array.getElem?_modify] at hshard'
    simp only
    unfold Contents.append
    split at hshard'
    · rename_i hi
      subst hi
      rw [hshard] at hshard'
      cases hshard'
      simp only [true_and]
      exact hholds.add d
    · rename_i hi
      simp only [Ne.symm hi, false_and, if_false]
      exact h.shards hshard'
  · intro i n hi
    unfold Index.add at hi
    simp only [Array.size_modify] at hi
    have hlt := h.next_lt
    unfold Contents.append
    rw [if_neg (by omega)]
    exact h.beyond n hi
  · unfold Index.add
    simp only [Array.size_modify]
    exact Nat.mod_lt _ (Nat.zero_lt_of_lt h.next_lt)

/-- Adds some documents, and tells their addresses. -/
def addAll (index : Index) : List Document → List DocAddress × Index
  | [] => ([], index)
  | d :: docs =>
    let (a, index) := index.add d
    let (rest, index) := index.addAll docs
    (a :: rest, index)

/-- Adding documents keeps the schema. -/
theorem schema_addAll (docs : List Document) : (index.addAll docs).2.schema = index.schema := by
  induction docs generalizing index with
  | nil => rfl
  | cons d docs ih => exact ih

/-- What an index has after some documents were added: what it had, and these at their addresses. -/
theorem holds_addAll (h : index.Holds contents) (docs : List Document) :
    ∃ contents', (index.addAll docs).2.Holds contents' ∧ ∀ a d,
      contents'.at? a = some d ↔ contents.at? a = some d ∨ (a, d) ∈ (index.addAll docs).1.zip docs := by
  induction docs generalizing index contents with
  | nil => exact ⟨contents, h, by simp [addAll]⟩
  | cons d docs ih =>
    obtain ⟨shard, segment, haddress, hadd⟩ := h.add d
    obtain ⟨contents', hholds, hat⟩ := ih hadd
    refine ⟨contents', hholds, fun a d' => ?_⟩
    rw [hat, Contents.at?_append, ← haddress, or_assoc]
    simp only [addAll, List.zip_cons_cons, List.mem_cons, Prod.mk.injEq]

end Index

end GramSieve
