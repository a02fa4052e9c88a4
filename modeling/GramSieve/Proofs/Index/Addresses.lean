import GramSieve.Proofs.Index.Placement
import Mathlib

/-!
# The addresses of documents

Documents are dealt out to the shards in turn, and every shard fills its segments one after the
other. So the address of a document is known from its number alone.

* `IndexOptions.addressOf` — the address of the document with a number.
* `Shard.nextPlace_add` — one document more in a shard moves its next place on by one.
* `dealt`, `Index.Dealt` — how many documents the shards have got, and how far they are filled.
* `Index.Dealt.add`, `Index.Dealt.addAll` — adding documents keeps this.
* `Index.addresses_kept` — every document gets its own address, and is found there from then on.
-/

namespace GramSieve

/-- The address of the document with a number, counted from the first one that was added. -/
def IndexOptions.addressOf (options : IndexOptions) (k : Nat) : DocAddress :=
  let shards := max options.shards 1
  let capacity := max options.maxDocsPerSegment 1
  { shard := k % shards, segment := k / shards / capacity, doc := k / shards % capacity }

/-- An address tells the number of its document. -/
theorem IndexOptions.addressOf_injective (options : IndexOptions) :
    Function.Injective options.addressOf := by
  intro j k h
  simp only [addressOf, DocAddress.mk.injEq] at h
  obtain ⟨hshard, hsegment, hdoc⟩ := h
  have hturn : j / max options.shards 1 = k / max options.shards 1 := by
    rw [← Nat.div_add_mod (j / _) (max options.maxDocsPerSegment 1), hsegment, hdoc, Nat.div_add_mod]
  rw [← Nat.div_add_mod j (max options.shards 1), hshard, hturn, Nat.div_add_mod]

/-! ### Sizes -/

/-- Changing one member of a list changes a sum over its members by as much. -/
theorem sum_map_modify {α : Type} {weight : α → Nat} {change : α → α} {n : Nat}
    (hchange : ∀ x, weight (change x) = weight x + n) {xs : List α} {i : Nat} (hi : i < xs.length) :
    ((xs.modify i change).map weight).sum = (xs.map weight).sum + n := by
  induction xs generalizing i with
  | nil => exact absurd hi (Nat.not_lt_zero i)
  | cons x xs ih =>
    cases i with
    | zero =>
      simp only [List.modify_zero_cons, List.map_cons, List.sum_cons, hchange]
      omega
    | succ i =>
      simp only [List.modify_succ_cons, List.map_cons, List.sum_cons, ih (Nat.lt_of_succ_lt_succ hi)]
      omega

theorem foldl_add_eq_sum {α : Type} {weight : α → Nat} (xs : Array α) :
    xs.foldl (fun n x => n + weight x) 0 = (xs.toList.map weight).sum := by
  rw [← Array.foldl_toList, List.sum_eq_foldl_nat, List.foldl_map]

namespace Shard

variable {s : Shard} {schema : Schema} {d : Document}

/-- The segment that the next document goes to becomes the last one of the shard. -/
theorem back?_add (s : Shard) (schema : Schema) (d : Document) :
    ∃ segment, (s.add schema d).segments.back? = some segment ∧
      segment.size = s.nextPlace.2 + 1 ∧ (s.add schema d).segments.size = s.nextPlace.1 + 1 := by
  have hgrown (segment : Segment) : (segment.add schema d).size = segment.size + 1 :=
    Array.size_push _
  rw [add_segments, withRoom, Array.back?_eq_getElem?, Array.getElem?_modify, Array.size_modify]
  rcases s.nextPlace_cases with ⟨last, hlast, hplace⟩ | hplace
  · -- The last segment has room.
    rw [Array.back?_eq_getElem?] at hlast
    have hlt := (Array.getElem?_eq_some_iff.mp hlast).1
    rw [hplace, if_pos hlt, if_pos rfl, hlast]
    exact ⟨last.add schema d, rfl, hgrown last, by show s.segments.size = _ - 1 + 1; omega⟩
  · rw [hplace, if_neg (Nat.lt_irrefl _), Array.size_push, Nat.add_sub_cancel, if_pos rfl,
      Array.getElem?_push_size]
    exact ⟨({} : Segment).add schema d, rfl, hgrown {}, rfl⟩

/-- One document more moves the next place on by one. -/
theorem nextPlace_add : (s.add schema d).nextPlace =
    if s.nextPlace.2 + 1 < s.capacity then (s.nextPlace.1, s.nextPlace.2 + 1)
    else (s.nextPlace.1 + 1, 0) := by
  obtain ⟨last, hlast, hsize, hsegments⟩ := back?_add s schema d
  have hcapacity : (s.add schema d).capacity = s.capacity := rfl
  unfold nextPlace
  rw [hlast]
  show (if last.size < _ then _ else _) = _
  rw [hcapacity, hsize, hsegments, Nat.add_sub_cancel]
  rfl

/-- A shard grows by the document that is added. -/
theorem size_add : (s.add schema d).size = s.size + 1 := by
  have hgrown (segment : Segment) : (segment.add schema d).size = segment.size + 1 :=
    Array.size_push _
  have hroom : (s.withRoom.toList.map Segment.size).sum = s.size := by
    unfold withRoom size
    rw [foldl_add_eq_sum]
    split
    · rfl
    · -- The segment that was pushed has no documents.
      rw [Array.toList_push, List.map_append, List.sum_append]
      rfl
  unfold size
  rw [foldl_add_eq_sum, add_segments, Array.toList_modify,
    sum_map_modify hgrown (by simpa using s.nextPlace_lt), hroom]
  rfl

/-- A shard that got so many documents has filled its segments one after the other. -/
def FilledTo (s : Shard) (count : Nat) : Prop :=
  s.nextPlace = (count / s.capacity, count % s.capacity)

/-- An empty shard is filled in order. -/
theorem filledTo_empty (capacity : Nat) (h : 0 < capacity) :
    ({ capacity, capacity_pos := h } : Shard).FilledTo 0 := by
  show (0, 0) = (0 / capacity, 0 % capacity)
  rw [Nat.zero_div, Nat.zero_mod]

/-- It stays so: the next document goes to the last segment, or to a new one if that is full. -/
theorem FilledTo.add {count : Nat} (hs : s.FilledTo count) : (s.add schema d).FilledTo (count + 1) := by
  have hcapacity : (s.add schema d).capacity = s.capacity := rfl
  have hpos := s.capacity_pos
  have hlt := Nat.mod_lt count hpos
  have hcount := Nat.mod_add_div count s.capacity
  unfold FilledTo at hs ⊢
  rw [nextPlace_add, hcapacity, hs]
  show (if count % s.capacity + 1 < s.capacity then _ else _) = _
  split
  · rename_i hroom
    obtain ⟨hdiv, hmod⟩ := (Nat.div_mod_unique hpos).mpr
      ⟨show count % s.capacity + 1 + s.capacity * (count / s.capacity) = count + 1 by omega, hroom⟩
    rw [hdiv, hmod]
  · -- The segment is full, and the next document starts another one.
    rename_i hfull
    obtain ⟨hdiv, hmod⟩ := (Nat.div_mod_unique hpos).mpr
      ⟨show 0 + s.capacity * (count / s.capacity + 1) = count + 1 by rw [Nat.mul_succ]; omega, hpos⟩
    rw [hdiv, hmod]

end Shard

/-! ### Turns -/

/-- How many of the first `k` documents a shard gets if some shards get them in turn. -/
def dealt (shards shard k : Nat) : Nat := (k + (shards - 1 - shard)) / shards

section Turns

variable {shards shard k : Nat}

/-- Before the first document is dealt, no shard has got one. -/
theorem dealt_zero (h : shard < shards) : dealt shards shard 0 = 0 :=
  Nat.div_eq_of_lt (by omega)

/-- A shard whose turn it is got one document in each of the rounds before. -/
theorem dealt_turn (h : 0 < shards) : dealt shards (k % shards) k = k / shards := by
  have hlt := Nat.mod_lt k h
  have hk := Nat.mod_add_div k shards
  refine ((Nat.div_mod_unique h).mpr ⟨?_, Nat.sub_one_lt_of_lt h⟩).1
  omega

/-- The next document goes to the shard whose turn it is. -/
theorem dealt_succ (h : shard < shards) :
    dealt shards shard (k + 1) = dealt shards shard k + if shard = k % shards then 1 else 0 := by
  have hlt := Nat.mod_lt k (Nat.zero_lt_of_lt h)
  have hk := Nat.mod_add_div k shards
  unfold dealt
  rw [Nat.add_right_comm, Nat.succ_div]
  congr 1
  refine if_congr ?_ rfl rfl
  -- The number of what is left to the end of the round is a multiple exactly at the shard's turn.
  rw [show k + (shards - 1 - shard) + 1 = shards * (k / shards) + (k % shards + (shards - shard)) by
    omega, Nat.dvd_add_right (Nat.dvd_mul_right _ _)]
  constructor
  · rintro ⟨rounds, hrounds⟩
    have hne : rounds ≠ 0 := by
      rintro rfl
      omega
    have hlt2 : rounds < 2 :=
      Nat.lt_of_mul_lt_mul_left (show shards * rounds < shards * 2 by omega)
    obtain rfl : rounds = 1 := by omega
    omega
  · rintro rfl
    exact ⟨1, by omega⟩

end Turns

namespace Index

variable {index : Index} {options : IndexOptions} {k : Nat}

/-- The shards of an index got so many documents in turn, and have filled their segments with them. -/
structure Dealt (index : Index) (options : IndexOptions) (k : Nat) : Prop where
  size_shards : index.shards.size = max options.shards 1
  next : index.next = k % max options.shards 1
  size : index.size = k
  shards {i : Nat} {shard : Shard} : index.shards[i]? = some shard →
    shard.capacity = max options.maxDocsPerSegment 1 ∧
      shard.FilledTo (dealt (max options.shards 1) i k)

/-- An empty index has dealt nothing. -/
theorem dealt_empty (schema : Schema) (options : IndexOptions) :
    (Index.empty schema options).Dealt options 0 where
  size_shards := Array.size_replicate
  next := (Nat.zero_mod _).symm
  size := by
    unfold Index.empty size
    rw [foldl_add_eq_sum, Array.toList_replicate, List.map_replicate, List.sum_replicate]
    exact Nat.mul_zero _
  shards {i shard} h := by
    unfold Index.empty at h
    rw [Array.getElem?_replicate] at h
    split at h
    · rename_i hi
      cases h
      rw [dealt_zero hi]
      exact ⟨rfl, Shard.filledTo_empty _ _⟩
    · cases h

/-- The shard whose turn it is exists, since there is at least one. -/
theorem Dealt.next_lt (h : index.Dealt options k) : index.next < index.shards.size := by
  rw [h.next, h.size_shards]
  exact Nat.mod_lt k (Nat.le_max_right _ _)

/-- The next document gets the address of its number. -/
theorem Dealt.address (h : index.Dealt options k) (d : Document) :
    (index.add d).1 = options.addressOf k := by
  obtain ⟨shard, hshard⟩ : ∃ shard, index.shards[index.next]? = some shard :=
    ⟨_, Array.getElem?_eq_getElem h.next_lt⟩
  obtain ⟨hcapacity, hfilled⟩ := h.shards hshard
  have hpos : 0 < max options.shards 1 := Nat.le_max_right _ _
  rw [Shard.FilledTo, hcapacity, h.next, dealt_turn hpos] at hfilled
  have hplace : (index.shards[index.next]?.map Shard.nextPlace).getD (0, 0) = shard.nextPlace := by
    rw [hshard]
    rfl
  show DocAddress.mk index.next _ _ = _
  rw [hplace, hfilled, h.next]
  rfl

/-- Dealing one more document keeps the turns. -/
theorem Dealt.add (h : index.Dealt options k) (d : Document) :
    (index.add d).2.Dealt options (k + 1) where
  size_shards := by
    unfold Index.add
    rw [Array.size_modify, h.size_shards]
  next := by
    show (index.next + 1) % index.shards.size = _
    rw [h.size_shards, h.next, Nat.mod_add_mod]
  size := by
    rw [← h.size]
    unfold Index.add Index.size
    rw [foldl_add_eq_sum, foldl_add_eq_sum, Array.toList_modify,
      sum_map_modify (fun _ => Shard.size_add) (by simpa using h.next_lt)]
  shards {i shard} hshard := by
    have hi : i < max options.shards 1 := by
      have hlt := (Array.getElem?_eq_some_iff.mp hshard).1
      unfold Index.add at hlt
      rwa [Array.size_modify, h.size_shards] at hlt
    unfold Index.add at hshard
    rw [Array.getElem?_modify] at hshard
    rw [dealt_succ hi, ← h.next]
    split at hshard
    · -- The shard whose turn it is gets the document.
      rename_i heq
      obtain ⟨old, hold, rfl⟩ := Option.map_eq_some_iff.mp hshard
      obtain ⟨hcapacity, hfilled⟩ := h.shards hold
      rw [if_pos heq.symm]
      exact ⟨hcapacity, hfilled.add⟩
    · rename_i hne
      rw [if_neg (Ne.symm hne)]
      exact h.shards hshard

/-- So documents that are added one after the other get the next addresses in turn. -/
theorem Dealt.addAll (h : index.Dealt options k) (docs : List Document) :
    (index.addAll docs).1 = (List.range' k docs.length).map options.addressOf ∧
      (index.addAll docs).2.Dealt options (k + docs.length) := by
  induction docs generalizing index k with
  | nil => exact ⟨rfl, h⟩
  | cons d docs ih =>
    obtain ⟨haddresses, hdealt⟩ := ih (h.add d)
    constructor
    · show (index.add d).1 :: ((index.add d).2.addAll docs).1 = _
      rw [h.address, haddresses]
      rfl
    · rw [List.length_cons, Nat.add_comm docs.length, ← Nat.add_assoc]
      exact hdealt

/-! ### What is found at an address -/

/-- What is stored at an address is what is kept of the document that has it. -/
theorem Holds.stored?_eq {contents : Contents} (h : index.Holds contents) (a : DocAddress)
    (field : String) : index.stored? a field =
      (contents.at? a).map fun d => if index.schema.isStored field then d.values field else [] := by
  unfold Index.stored? segment? Contents.at?
  -- Where there is no shard or no segment, no document is expected either.
  cases hshard : index.shards[a.shard]? with
  | none =>
    rw [h.beyond _ (Array.getElem?_eq_none_iff.mp hshard)]
    rfl
  | some shard =>
    have hholds := h.shards hshard
    simp only [Option.bind_eq_bind, Option.bind_some]
    cases hsegment : shard.segments[a.segment]? with
    | none =>
      rw [hholds.beyond (Array.getElem?_eq_none_iff.mp hsegment)]
      rfl
    | some segment => exact (hholds.indexes hsegment).stored?_eq field

/-- **Every document gets its own address and keeps it.** Documents are dealt out to the shards in
turn, and each shard fills one segment after the other. The stored values of a document are found at
its address, whatever is added later, and nothing is found at an address that no document got. -/
theorem addresses_kept (schema : Schema) (options : IndexOptions) (docs more : List Document) :
    let first := (Index.empty schema options).addAll docs
    let last := first.2.addAll more
    first.1 = (List.range docs.length).map options.addressOf ∧ first.1.Nodup ∧
      first.2.size = docs.length ∧
      (∀ (k : Nat) (hk : k < docs.length) (field : String),
        last.2.stored? (options.addressOf k) field =
          some (if schema.isStored field then docs[k].values field else [])) ∧
      ∀ a, a ∉ first.1 → a ∉ last.1 → ∀ field, last.2.stored? a field = none := by
  intro first last
  obtain ⟨haddresses, hdealt⟩ := (dealt_empty schema options).addAll docs
  rw [← List.range_eq_range'] at haddresses
  rw [Nat.zero_add] at hdealt
  -- What the index holds after each of the two additions, address by address.
  obtain ⟨contents, hholds, hfirst⟩ := holds_addAll (holds_empty schema options) docs
  obtain ⟨contents', hholds', hlast⟩ := holds_addAll hholds more
  have hschema : last.2.schema = schema := by
    rw [schema_addAll, schema_addAll]
    rfl
  have hstored := hholds'.stored?_eq
  rw [hschema] at hstored
  refine ⟨haddresses, ?_, hdealt.size, fun k hk field => ?_, fun a hnot hnot' field => ?_⟩
  · rw [haddresses]
    exact List.Nodup.map options.addressOf_injective List.nodup_range
  · have hfound : contents'.at? (options.addressOf k) = some docs[k] := by
      refine (hlast _ _).mpr (.inl ((hfirst _ _).mpr (.inr ?_)))
      rw [haddresses]
      refine List.mem_of_getElem? (i := k) ?_
      rw [List.getElem?_zip_eq_some, List.getElem?_map, List.getElem?_range hk]
      exact ⟨rfl, List.getElem?_eq_getElem hk⟩
    rw [hstored, hfound]
    rfl
  · have hnone : contents'.at? a = none := by
      rw [Option.eq_none_iff_forall_ne_some]
      intro d hd
      -- What is stored at an address was added there, first or last.
      rcases (hlast a d).mp hd with hold | hnew
      · rcases (hfirst a d).mp hold with hempty | hzip
        · cases hempty
        · exact hnot (List.of_mem_zip hzip).1
      · exact hnot' (List.of_mem_zip hnew).1
    rw [hstored, hnone]
    rfl

/-- The third document starts a new segment of the only shard, and stays there. -/
theorem addresses_kept_thirdDocument :
    let options : IndexOptions := { shards := 0, maxDocsPerSegment := 2 }
    let docs : List Document := [⟨[("body", ["a"])]⟩, ⟨[("body", ["b"])]⟩, ⟨[("body", ["c", "d"])]⟩]
    let first := (Index.empty { unstored := ["path"] } options).addAll docs
    let last := first.2.addAll [⟨[("body", ["e"])]⟩]
    (2 < docs.length ∧ ⟨0, 0, 2⟩ ∉ first.1 ∧ ⟨0, 0, 2⟩ ∉ last.1) ∧
      options.addressOf 2 = ⟨0, 1, 0⟩ ∧ last.2.stored? ⟨0, 1, 0⟩ "body" = some ["c", "d"] ∧
      last.2.stored? ⟨0, 0, 2⟩ "body" = none := by
  intro options docs first last
  obtain ⟨-, -, -, hkept, hother⟩ :=
    addresses_kept { unstored := ["path"] } options docs [⟨[("body", ["e"])]⟩]
  have hfirst : ⟨0, 0, 2⟩ ∉ first.1 := by decide +kernel
  have hlast : ⟨0, 0, 2⟩ ∉ last.1 := by decide +kernel
  have hshort : 2 < docs.length := by decide
  have h := hkept 2 hshort "body"
  have haddress : options.addressOf 2 = ⟨0, 1, 0⟩ := by decide
  rw [haddress] at h
  exact ⟨⟨hshort, hfirst, hlast⟩, haddress, h, hother _ hfirst hlast "body"⟩

end Index

end GramSieve
