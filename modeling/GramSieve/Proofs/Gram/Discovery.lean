import GramSieve.Proofs.Automaton.Reading
import GramSieve.Proofs.Basic
import GramSieve.Proofs.Formula.Truth
import GramSieve.Proofs.Gram.Readings

namespace GramSieve.Gram

/-!
# What an unfolding discovers

* `eraseDups_concat`, `nodup_eraseDups`, `eraseDups_map`, `getElem?_eraseDups_append` — lists of what is
  new.
* `GramEdge.nodup_ascending` — the edges of a place do not repeat.
* `Frontier.Knows`, `GramGraph.follow_knows` — what is known is what is new in the readings so far.
* `GramGraph.EdgeFor`, `GramGraph.EdgeFor.stable` — what an edge says about its reading stays right.
* `GramGraph.unfold_succ` — a turn adds the node of a place.
* `GramGraph.BreadthFirst`, `GramGraph.Discovery`, `GramGraph.discovery_of_ofDfa` — the places and grams
  in the order of their discovery, and the edges between them.
* `GramGraph.BreadthFirst.induct` — what every reading keeps holds of all places.
-/

open Automaton

/-! ### What is new in a list -/

section Repetitions

variable {β : Type} [BEq β] [LawfulBEq β] {x : β} {xs ys : List β} {n : Nat}

/-- One more value at the end is kept if it is new. -/
theorem eraseDups_concat (xs : List β) (x : β) :
    (xs ++ [x]).eraseDups = if x ∈ xs then xs.eraseDups else xs.eraseDups ++ [x] := by
  rw [List.eraseDups_append]
  by_cases hx : x ∈ xs
  · simp [List.removeAll, hx]
  · simp [List.removeAll, hx, List.eraseDups_cons]

/-- Values without repetitions are distinct. -/
theorem nodup_eraseDups (xs : List β) : xs.eraseDups.Nodup := by
  induction xs using List.reverseRecOn with
  | nil => simp
  | append_singleton xs x ih =>
    rw [eraseDups_concat]
    split
    · exact ih
    · rename_i hx
      refine List.nodup_append.mpr ⟨ih, by simp, ?_⟩
      rintro a ha b hb rfl
      rw [List.mem_singleton.mp hb, List.mem_eraseDups] at ha
      exact hx ha

/-- What is told apart is new at the same time. -/
theorem eraseDups_map {γ : Type} [BEq γ] [LawfulBEq γ] {f : β → γ} (hf : Function.Injective f)
    (xs : List β) : (xs.map f).eraseDups = xs.eraseDups.map f := by
  induction xs using List.reverseRecOn with
  | nil => rfl
  | append_singleton xs x ih =>
    rw [List.map_append, List.map_singleton, eraseDups_concat, eraseDups_concat, ih]
    by_cases hx : x ∈ xs
    · rw [if_pos hx, if_pos (List.mem_map_of_mem hx)]
    · have hfx : f x ∉ xs.map f := by
        rwa [List.mem_map_of_injective hf]
      rw [if_neg hx, if_neg hfx, List.map_append, List.map_singleton]

/-- What comes later does not move what is there. -/
theorem getElem?_eraseDups_append (hx : x ∈ xs) :
    (xs ++ ys).eraseDups[n]? = some x ↔ xs.eraseDups[n]? = some x := by
  rw [List.eraseDups_append, List.getElem?_append]
  split
  · rfl
  · rename_i hn
    rw [List.getElem?_eq_none (Nat.le_of_not_lt hn)]
    refine ⟨fun h => ?_, nofun⟩
    have hmem := List.mem_of_getElem? h
    rw [List.mem_eraseDups, List.removeAll, List.mem_filter] at hmem
    simp [hx] at hmem

/-- What was among the first values is there with the same number when more values follow. -/
theorem getElem?_take_eraseDups_append {m : Nat} (hx : x ∈ xs) :
    ((xs ++ ys).eraseDups.take m)[n]? = some x ↔ (xs.eraseDups.take m)[n]? = some x := by
  rw [List.getElem?_take, List.getElem?_take]
  split
  · exact getElem?_eraseDups_append hx
  · rfl

/-- The first ones stay the same once there are enough. -/
theorem take_eraseDups_concat {m : Nat} (h : m ≤ xs.eraseDups.length) :
    (xs ++ [x]).eraseDups.take m = xs.eraseDups.take m := by
  rw [eraseDups_concat]
  split
  · rfl
  · exact List.take_append_of_le_length h

end Repetitions

/-! ### The order of edges -/

namespace GramEdge

theorem le_trans (a b c : GramEdge) (hab : a.le b = true) (hbc : b.le c = true) :
    a.le c = true := by
  obtain ⟨gram, target⟩ := a
  obtain ⟨gram', target'⟩ := b
  obtain ⟨gram'', target''⟩ := c
  cases gram <;> cases gram' <;> cases gram'' <;> simp [le] at *
  all_goals omega

theorem le_total (a b : GramEdge) : (a.le b || b.le a) = true := by
  obtain ⟨gram, target⟩ := a
  obtain ⟨gram', target'⟩ := b
  cases gram <;> cases gram' <;> simp [le]
  all_goals omega

theorem le_antisymm (a b : GramEdge) (hab : a.le b = true) (hba : b.le a = true) : a = b := by
  obtain ⟨gram, target⟩ := a
  obtain ⟨gram', target'⟩ := b
  cases gram <;> cases gram' <;> simp [le] at *
  all_goals omega

theorem mem_ascending {e : GramEdge} {edges : List GramEdge} : e ∈ ascending edges ↔ e ∈ edges := by
  rw [ascending, mem_eraseReps, List.mem_mergeSort]

/-- No edge is there twice. -/
theorem nodup_ascending (edges : List GramEdge) : (ascending edges).Nodup := by
  let lt (a b : GramEdge) : Prop := a.le b = true ∧ a ≠ b
  have htrans : Trans lt lt lt := by
    refine ⟨fun {a b c} hab hbc => ⟨le_trans a b c hab.1 hbc.1, ?_⟩⟩
    rintro rfl
    exact hab.2 (le_antisymm a b hab.1 hbc.1)
  have hsorted := List.pairwise_mergeSort le_trans le_total edges
  have hstrict : (ascending edges).Pairwise lt :=
    pairwise_eraseReps (fun _ _ hle hne => ⟨hle, hne⟩) hsorted
  exact hstrict.imp And.right

end GramEdge

namespace GramGraph

variable {b : Bounds} {dfa : Dfa} {rs new : List Reading} {r : Reading} {f f' : Frontier}
  {found found' : Found}

/-- An edge for a reading: it leads to the number of the place, and carries that of the gram if the gram
has one. -/
structure EdgeFor (places : Array Place) (grams : Array (List Char)) (r : Reading)
    (e : GramEdge) : Prop where
  target : places[e.target]? = some r.place
  gram : ∀ n, e.gram = some n ↔ ∃ gram, r.gram = some gram ∧ grams[n]? = some gram

/-- The edges are those for the readings. -/
structure EdgesFor (places : Array Place) (grams : Array (List Char)) (rs : List Reading)
    (edges : List GramEdge) : Prop where
  exists_edge : ∀ r ∈ rs, ∃ e ∈ edges, EdgeFor places grams r e
  exists_reading : ∀ e ∈ edges, ∃ r ∈ rs, EdgeFor places grams r e

/-! ### What is known -/

namespace Frontier

/-- The places are numbered in the order in which they were found. -/
structure KnowsPlaces (limit : Nat) (visited : List Place) (f : Frontier) : Prop where
  places : f.places.toList = visited.eraseDups
  numbers : Numbers (fun place => f.numbers[place]?) f.places
  size_le : f.places.size ≤ limit

/-- The first grams are numbered in the order in which they were read. -/
structure KnowsGrams (maxGrams : Nat) (read : List (List Char)) (f : Frontier) : Prop where
  grams : f.grams.toList = read.eraseDups.take maxGrams
  numbers : Numbers (fun gram => f.gramNumbers[String.ofList gram]?) f.grams

/-- A place that is looked up has its number from then on, and one more place was visited. -/
theorem visit_knows {limit n : Nat} {visited : List Place} {place : Place}
    (hf : f.KnowsPlaces limit visited) (h : f.visit limit place = .ok (n, f')) :
    f'.KnowsPlaces limit (visited ++ [place]) ∧ f'.places[n]? = some place ∧
      f'.grams = f.grams ∧ f'.gramNumbers = f.gramNumbers := by
  unfold visit at h
  split at h
  · rename_i m hm
    cases h
    have hget := (hf.numbers place n).mp hm
    have hmem : place ∈ visited := by
      rw [← List.mem_eraseDups, ← hf.places]
      exact Array.mem_toList_iff.mpr (Array.mem_of_getElem? hget)
    -- The place was visited before and has its number from then.
    refine ⟨⟨?_, hf.numbers, hf.size_le⟩, hget, rfl, rfl⟩
    rw [eraseDups_concat, if_pos hmem, hf.places]
  · rename_i hnone
    simp only at h
    split at h
    · cases h
    · rename_i hlt
      cases h
      have hnew : place ∉ visited := by
        rw [← List.mem_eraseDups, ← hf.places]
        exact hf.numbers.not_mem hnone
      -- The place is new and comes behind all others.
      refine ⟨⟨?_, ?_, ?_⟩, Array.getElem?_push_size, rfl, rfl⟩
      · rw [eraseDups_concat, if_neg hnew, Array.toList_push, hf.places]
      · apply hf.numbers.push hnone
        intro p
        simp only [Std.HashMap.getElem?_insert, beq_iff_eq]
      · rw [Array.size_push]
        omega

/-- Once there are as many grams as allowed, a new one has no number and never gets one. -/
theorem record_knows {maxGrams : Nat} {read : List (List Char)}
    (hf : f.KnowsGrams maxGrams read) (gram : List Char) :
    (f.record maxGrams gram).2.KnowsGrams maxGrams (read ++ [gram]) ∧
      (∀ n, (f.record maxGrams gram).1 = some n ↔
        (f.record maxGrams gram).2.grams[n]? = some gram) ∧
      (f.record maxGrams gram).2.places = f.places ∧
      (f.record maxGrams gram).2.numbers = f.numbers := by
  unfold record
  simp only
  split
  · rename_i m hm
    have hmem : gram ∈ read := by
      rw [← List.mem_eraseDups]
      apply List.mem_of_mem_take (i := maxGrams)
      rw [← hf.grams]
      exact Array.mem_toList_iff.mpr (Array.mem_of_getElem? ((hf.numbers gram m).mp hm))
    refine ⟨⟨?_, hf.numbers⟩, ?_, rfl, rfl⟩
    · show f.grams.toList = _
      rw [eraseDups_concat, if_pos hmem, hf.grams]
    · intro n
      rw [← hf.numbers gram n]
      show some m = some n ↔ f.gramNumbers[String.ofList gram]? = some n
      rw [hm]
  · rename_i hnone
    have hnew := hf.numbers.not_mem hnone
    have hsize : f.grams.size = (read.eraseDups.take maxGrams).length := by
      rw [← hf.grams, Array.length_toList]
    rw [List.length_take] at hsize
    split
    · -- The grams that are kept stay the same, whether the gram was read before or not.
      rename_i hfull
      refine ⟨⟨?_, hf.numbers⟩, ?_, rfl, rfl⟩
      · show f.grams.toList = _
        rw [take_eraseDups_concat (by omega), hf.grams]
      · intro n
        refine ⟨nofun, fun hget => ?_⟩
        exact absurd (Array.mem_toList_iff.mpr (Array.mem_of_getElem? hget)) hnew
    · rename_i hroom
      -- All grams so far are kept, so that this one was not read.
      have hall : read.eraseDups.take maxGrams = read.eraseDups := by
        apply List.take_of_length_le
        omega
      have hnotRead : gram ∉ read := by
        rw [← List.mem_eraseDups, ← hall, ← hf.grams]
        exact hnew
      refine ⟨⟨?_, ?_⟩, ?_, rfl, rfl⟩
      · show (f.grams.push gram).toList = _
        rw [eraseDups_concat, if_neg hnotRead, Array.toList_push, hf.grams, hall,
          List.take_of_length_le]
        rw [List.length_append, List.length_singleton]
        omega
      · apply hf.numbers.push hnone
        intro other
        have hinj : String.ofList gram = String.ofList other ↔ gram = other :=
          ⟨String.ofList_injective, congrArg String.ofList⟩
        simp only [Std.HashMap.getElem?_insert, beq_iff_eq, hinj]
      · intro n
        rw [getElem?_push_eq_some_self hnew, Option.some.injEq, eq_comm]

/-- What is known after readings that start at the first place. -/
structure Knows (b : Bounds) (rs : List Reading) (f : Frontier) : Prop where
  places : f.KnowsPlaces b.maxStatesTraced (⟨Dfa.start, []⟩ :: rs.map (·.place))
  grams : f.KnowsGrams b.maxGrams (rs.filterMap (·.gram))

/-- What is new among the places was read last. -/
theorem Knows.exists_places (hf : f.Knows b rs) (hf' : f'.Knows b (rs ++ new)) :
    ∃ more, f'.places.toList = f.places.toList ++ more ∧ ∀ p ∈ more, ∃ r ∈ new, r.place = p := by
  have hplaces := hf'.places.places
  rw [List.map_append, ← List.cons_append, List.eraseDups_append, ← hf.places.places] at hplaces
  refine ⟨_, hplaces, fun p hp => ?_⟩
  rw [List.mem_eraseDups, List.removeAll, List.mem_filter] at hp
  exact List.mem_map.mp hp.1

/-- Places keep their numbers while more readings are followed. -/
theorem Knows.getElem?_places (hf : f.Knows b rs) (hf' : f'.Knows b (rs ++ new)) {n : Nat}
    (hn : n < f.places.size) : f'.places[n]? = f.places[n]? := by
  obtain ⟨more, hplaces, -⟩ := hf.exists_places hf'
  rw [← Array.getElem?_toList, hplaces, List.getElem?_append_left (by simpa using hn),
    Array.getElem?_toList]

end Frontier

open Frontier

/-- An edge stays right when more is read. -/
theorem EdgeFor.stable {e : GramEdge} (h : EdgeFor f.places f.grams r e)
    (hr : r ∈ rs) (hf : f.Knows b rs) (hf' : f'.Knows b (rs ++ new)) :
    EdgeFor f'.places f'.grams r e where
  target := by
    rw [hf.getElem?_places hf' (Array.getElem?_eq_some_iff.mp h.target).1]
    exact h.target
  gram n := by
    rw [h.gram]
    refine exists_congr fun gram => and_congr_right fun hgram => ?_
    have hread : gram ∈ rs.filterMap (·.gram) := List.mem_filterMap.mpr ⟨r, hr, hgram⟩
    rw [← Array.getElem?_toList, ← Array.getElem?_toList, hf.grams.grams, hf'.grams.grams,
      List.filterMap_append]
    exact (getElem?_take_eraseDups_append hread).symm

/-- Following a reading knows it from then on, and gives the edge for it. -/
theorem follow_knows (hf : found.2.Knows b rs) (h : follow b found r = .ok found') :
    found'.2.Knows b (rs ++ [r]) ∧
      ∃ e, found'.1 = e :: found.1 ∧ EdgeFor found'.2.places found'.2.grams r e := by
  unfold follow at h
  obtain ⟨⟨target, f'⟩, hvisit, h⟩ := ok_of_bind h
  cases h
  cases hgram : r.gram with
  | none =>
    simp only [hgram] at hvisit ⊢
    obtain ⟨hplaces, hget, hgrams, hnumbers⟩ := visit_knows hf.places hvisit
    refine ⟨⟨by simpa using hplaces, ?_⟩, _, rfl, hget, by simp [hgram]⟩
    refine ⟨?_, ?_⟩
    · simp [hgrams, hf.grams.grams, hgram]
    · rw [hgrams, hnumbers]
      exact hf.grams.numbers
  | some gram =>
    simp only [hgram] at hvisit ⊢
    obtain ⟨hrecorded, hnumber, hsame, hsameNumbers⟩ := record_knows hf.grams gram
    -- The gram is recorded before the place is visited, and the places do not change by that.
    have hbefore : (found.2.record b.maxGrams gram).2.KnowsPlaces b.maxStatesTraced
        (⟨Dfa.start, []⟩ :: rs.map (·.place)) := by
      refine ⟨?_, ?_, ?_⟩
      · rw [hsame, hf.places.places]
      · rw [hsame, hsameNumbers]
        exact hf.places.numbers
      · rw [hsame]
        exact hf.places.size_le
    obtain ⟨hplaces, hget, hgrams, hnumbers⟩ := visit_knows hbefore hvisit
    refine ⟨⟨by simpa using hplaces, ?_⟩, _, rfl, hget, ?_⟩
    · refine ⟨?_, ?_⟩
      · simp [hgrams, hrecorded.grams, hgram]
      · rw [hgrams, hnumbers]
        exact hrecorded.numbers
    · intro n
      simp [hgram, hgrams, hnumber]

/-- A place without readings has no edges. -/
theorem edgesFor_nil {places : Array Place} {grams : Array (List Char)} :
    EdgesFor places grams [] [] where
  exists_edge _ hr := absurd hr List.not_mem_nil
  exists_reading _ he := absurd he List.not_mem_nil

/-- Edges come from readings only. -/
theorem EdgesFor.eq_nil {places : Array Place} {grams : Array (List Char)} {edges : List GramEdge}
    (h : EdgesFor places grams [] edges) : edges = [] := by
  rw [List.eq_nil_iff_forall_not_mem]
  intro e he
  obtain ⟨r, hr, -⟩ := h.exists_reading e he
  cases hr

/-- Edges stay right while more places and grams get numbers. -/
theorem EdgesFor.stable {all : List Reading} {edges : List GramEdge}
    (h : EdgesFor f.places f.grams rs edges) (hrs : ∀ r ∈ rs, r ∈ all) (hf : f.Knows b all)
    (hf' : f'.Knows b (all ++ new)) : EdgesFor f'.places f'.grams rs edges where
  exists_edge r hr := by
    obtain ⟨e, he, hedge⟩ := h.exists_edge r hr
    exact ⟨e, he, hedge.stable (hrs r hr) hf hf'⟩
  exists_reading e he := by
    obtain ⟨r, hr, hedge⟩ := h.exists_reading e he
    exact ⟨r, hr, hedge.stable (hrs r hr) hf hf'⟩

/-- One more reading has one more edge. -/
theorem EdgesFor.cons {places : Array Place} {grams : Array (List Char)} {edges : List GramEdge}
    {e : GramEdge} (h : EdgesFor places grams rs edges) (hedge : EdgeFor places grams r e) :
    EdgesFor places grams (rs ++ [r]) (e :: edges) := by
  constructor
  · intro other hother
    rcases List.mem_append.mp hother with hother | hother
    · obtain ⟨e', he', hedge'⟩ := h.exists_edge other hother
      exact ⟨e', .tail _ he', hedge'⟩
    · rw [List.mem_singleton.mp hother]
      exact ⟨e, .head _, hedge⟩
  · intro e' he'
    rcases List.mem_cons.mp he' with rfl | he'
    · exact ⟨r, List.mem_append_right _ (.head _), hedge⟩
    · obtain ⟨other, hother, hedge'⟩ := h.exists_reading e' he'
      exact ⟨other, List.mem_append_left _ hother, hedge'⟩

/-- Every reading of a place adds the edge for it. -/
theorem foldlM_follow_knows {past : List Reading} (hf : found.2.Knows b (past ++ rs))
    (hedges : EdgesFor found.2.places found.2.grams rs found.1)
    (h : new.foldlM (follow b) found = .ok found') :
    found'.2.Knows b (past ++ rs ++ new) ∧
      EdgesFor found'.2.places found'.2.grams (rs ++ new) found'.1 := by
  -- Each reading that is followed joins those done, and the edges of the latter stay what they are.
  induction new generalizing found rs with
  | nil =>
    cases h
    rw [List.append_nil, List.append_nil]
    exact ⟨hf, hedges⟩
  | cons r new ih =>
    rw [List.foldlM_cons] at h
    obtain ⟨next, hnext, h⟩ := ok_of_bind h
    obtain ⟨hf', e, hcons, hedge⟩ := follow_knows hf hnext
    have hedges' : EdgesFor next.2.places next.2.grams (rs ++ [r]) next.1 := by
      rw [hcons]
      exact (hedges.stable (fun _ => List.mem_append_right past) hf hf').cons hedge
    rw [List.append_assoc] at hf'
    have hall := ih hf' hedges' h
    rwa [← List.append_assoc, List.append_assoc (past ++ rs), List.append_assoc rs] at hall

/-! ### The graph -/

/-- A node accepts if the state of its place does, and its edges, none of which is there twice, are those
for what is read there. -/
structure NodeFor (b : Bounds) (dfa : Dfa) (places : Array Place) (grams : Array (List Char))
    (place : Place) (node : GramNode) : Prop where
  accepting : node.accepting = dfa.isAccept place.state
  edges : EdgesFor places grams (place.readings b dfa) node.edges
  nodup : node.edges.Nodup

/-- The first places have their nodes, and all places were found on the way. -/
structure DiscoveredSoFar (b : Bounds) (dfa : Dfa) (nodes : Array GramNode) (f : Frontier) :
    Prop where
  size_le : nodes.size ≤ f.places.size
  knows : f.Knows b (readingsOf b dfa (f.places.toList.take nodes.size))
  earlier : ∀ n place, f.places[n + 1]? = some place → ∃ m ≤ n, ∃ before,
    f.places[m]? = some before ∧ ∃ r ∈ before.readings b dfa, r.place = place
  node : ∀ n place, f.places[n]? = some place → n < nodes.size → ∃ node,
    nodes[n]? = some node ∧ NodeFor b dfa f.places f.grams place node

variable {nodes : Array GramNode} {place : Place} {node : GramNode}

/-- One more node, for the place whose turn it is. -/
theorem DiscoveredSoFar.push (h : DiscoveredSoFar b dfa nodes f)
    (hplace : f.places[nodes.size]? = some place)
    (hf' : f'.Knows b (readingsOf b dfa (f.places.toList.take nodes.size) ++ place.readings b dfa))
    (hnode : NodeFor b dfa f'.places f'.grams place node) :
    DiscoveredSoFar b dfa (nodes.push node) f' := by
  have hlt := (Array.getElem?_eq_some_iff.mp hplace).1
  have hkept (n) (hn : n < f.places.size) : f'.places[n]? = f.places[n]? :=
    h.knows.getElem?_places hf' hn
  obtain ⟨more, hplaces, hmore⟩ := h.knows.exists_places hf'
  have hsize : f'.places.size = f.places.size + more.length := by
    rw [← Array.length_toList, hplaces, List.length_append, Array.length_toList]
  refine ⟨by rw [Array.size_push]; omega, ?_, ?_, ?_⟩
  · -- The places that had their turn are those of before and this one.
    have htake : f'.places.toList.take (nodes.push node).size =
        f.places.toList.take nodes.size ++ [place] := by
      rw [Array.size_push, hplaces, List.take_append_of_le_length (by simpa using Nat.succ_le_of_lt hlt),
        List.take_add_one, Array.getElem?_toList, hplace]
      rfl
    rw [htake, readingsOf, List.flatMap_append, List.flatMap_singleton]
    exact hf'
  · intro n other hother
    by_cases hn : n + 1 < f.places.size
    · rw [hkept _ hn] at hother
      obtain ⟨m, hm, before, hbefore, hread⟩ := h.earlier n other hother
      exact ⟨m, hm, before, by rw [hkept m (by omega)]; exact hbefore, hread⟩
    · -- A new place was read at the place whose turn it is.
      refine ⟨nodes.size, by omega, place, by rw [hkept _ hlt]; exact hplace, ?_⟩
      apply hmore
      rw [← Array.getElem?_toList, hplaces,
        List.getElem?_append_right (by simpa using hn)] at hother
      exact List.mem_of_getElem? hother
  · intro n other hother hn
    rw [Array.size_push] at hn
    rw [hkept n (by omega)] at hother
    rcases Nat.eq_or_lt_of_le (Nat.le_of_lt_succ hn) with rfl | hn
    · obtain rfl := Option.some.inj (hplace.symm.trans hother)
      exact ⟨node, Array.getElem?_push_size, hnode⟩
    · obtain ⟨old, hold, haccepting, hedges, hnodup⟩ := h.node n other hother hn
      refine ⟨old, getElem?_push_of_getElem? hold, haccepting, ?_, hnodup⟩
      refine hedges.stable (fun r hr => ?_) h.knows hf'
      rw [← Array.getElem?_toList] at hother
      refine List.mem_flatMap.mpr ⟨other, List.mem_of_getElem? (i := n) ?_, hr⟩
      rw [List.getElem?_take_of_lt hn]
      exact hother

/-- Places in the order in which they are found, breadth first: the start, and then what is new at each
place in turn. -/
structure BreadthFirst (b : Bounds) (dfa : Dfa) (places : Array Place) : Prop where
  found : places.toList =
    (⟨Dfa.start, []⟩ :: (readingsOf b dfa places.toList).map (·.place)).eraseDups
  earlier : ∀ (n : Nat) place, places[n + 1]? = some place → ∃ m ≤ n, ∃ before,
    places[m]? = some before ∧ ∃ r ∈ before.readings b dfa, r.place = place

/-- The grams in the order in which they are read, breadth first. -/
def discoveredGrams (b : Bounds) (dfa : Dfa) (places : Array Place) : List (List Char) :=
  ((readingsOf b dfa places.toList).filterMap (·.gram)).eraseDups

/-- The graph has a node for each place, with an edge for each reading, and the first grams. -/
structure Discovery (b : Bounds) (dfa : Dfa) (places : Array Place) (g : GramGraph) : Prop where
  breadthFirst : BreadthFirst b dfa places
  grams : g.grams.toList = (discoveredGrams b dfa places).take b.maxGrams
  size_eq : g.nodes.size = places.size
  node : ∀ (n : Nat) place, places[n]? = some place → ∃ node,
    g.nodes[n]? = some node ∧ NodeFor b dfa places g.grams place node

/-- When every place was expanded, the graph was discovered. -/
theorem DiscoveredSoFar.done (h : DiscoveredSoFar b dfa nodes f)
    (hle : f.places.size ≤ nodes.size) : Discovery b dfa f.places ⟨nodes, f.grams⟩ := by
  have htake : f.places.toList.take nodes.size = f.places.toList :=
    List.take_of_length_le (by simpa using hle)
  have hknows := h.knows
  rw [htake] at hknows
  refine ⟨⟨hknows.places.places, h.earlier⟩, hknows.grams.grams, Nat.le_antisymm h.size_le hle, ?_⟩
  intro n place hplace
  exact h.node n place hplace (Nat.lt_of_lt_of_le (Array.getElem?_eq_some_iff.mp hplace).1 hle)

/-- Which readings the edges belong to does not depend on their order, nor on repetitions. -/
theorem EdgesFor.ascending {places : Array Place} {grams : Array (List Char)}
    {edges : List GramEdge} (h : EdgesFor places grams rs edges) :
    EdgesFor places grams rs (GramEdge.ascending edges) where
  exists_edge r hr := by
    obtain ⟨e, he, hedge⟩ := h.exists_edge r hr
    exact ⟨e, GramEdge.mem_ascending.mpr he, hedge⟩
  exists_reading e he := h.exists_reading e (GramEdge.mem_ascending.mp he)

/-- A turn adds the node of a place, with the edges for its readings. -/
theorem unfold_succ {fuel : Nat} (hplace : f.places[nodes.size]? = some place) :
    unfold b dfa (fuel + 1) nodes f = (place.readings b dfa).foldlM (follow b) ([], f) >>= fun found =>
      unfold b dfa fuel
        (nodes.push ⟨GramEdge.ascending found.1, dfa.isAccept place.state⟩) found.2 := by
  simp only [unfold, hplace]
  by_cases haccept : dfa.isAccept place.state = true
  · have hascending : GramEdge.ascending [] = [] := by
      rw [GramEdge.ascending, List.mergeSort_nil]
      rfl
    rw [if_pos haccept, Place.readings, if_pos haccept, haccept, List.foldlM_nil, pure_bind, hascending]
  · rw [if_neg haccept, Place.readings, if_neg haccept, foldlM_readTransition,
      Bool.eq_false_iff.mpr haccept]

/-- The unfolding ends when every place has its node. -/
theorem discovery_of_unfold {fuel : Nat} {g : GramGraph}
    (hfuel : b.maxStatesTraced ≤ fuel + nodes.size) (hnodes : DiscoveredSoFar b dfa nodes f)
    (h : unfold b dfa fuel nodes f = .ok g) : ∃ places, Discovery b dfa places g := by
  induction fuel generalizing nodes f with
  | zero =>
    -- Each turn makes a node, and there are no more places than the limit.
    cases h
    have := hnodes.knows.places.size_le
    exact ⟨f.places, hnodes.done (by omega)⟩
  | succ fuel ih =>
    cases hplace : f.places[nodes.size]? with
    | none =>
      rw [unfold, hplace] at h
      cases h
      exact ⟨f.places, hnodes.done (Array.getElem?_eq_none_iff.mp hplace)⟩
    | some place =>
      rw [unfold_succ hplace] at h
      obtain ⟨⟨edges, f'⟩, hfold, h⟩ := ok_of_bind h
      have hknows := hnodes.knows
      rw [← List.append_nil (readingsOf ..)] at hknows
      obtain ⟨hf', hedges⟩ := foldlM_follow_knows hknows edgesFor_nil hfold
      rw [List.append_nil] at hf'
      rw [List.nil_append] at hedges
      refine ih (by rw [Array.size_push]; omega) (hnodes.push hplace hf' ?_) h
      exact ⟨rfl, hedges.ascending, GramEdge.nodup_ascending edges⟩

/-- The graph of an automaton is discovered from its start. -/
theorem discovery_of_ofDfa {g : GramGraph} (h : ofDfa b dfa = .ok g) :
    ∃ places, Discovery b dfa places g := by
  obtain ⟨⟨n, f⟩, hvisit, h⟩ := ok_of_bind h
  have hempty : ({} : Frontier).KnowsPlaces b.maxStatesTraced [] :=
    ⟨rfl, by simp [Numbers], Nat.zero_le _⟩
  obtain ⟨hplaces, -, hgrams, hnumbers⟩ := visit_knows hempty hvisit
  have hstart : f.places.toList = [⟨Dfa.start, []⟩] := by simp [hplaces.places, List.eraseDups_cons]
  have hknows : f.Knows b (readingsOf b dfa (f.places.toList.take 0)) := by
    refine ⟨hplaces, ?_, ?_⟩
    · simp [hgrams, readingsOf]
    · simp [hgrams, hnumbers, Numbers]
  -- The first place is known, and none was expanded yet.
  have hnodes : DiscoveredSoFar b dfa #[] f := by
    refine ⟨Nat.zero_le _, hknows, ?_, ?_⟩
    · intro n place hplace
      rw [← Array.getElem?_toList, hstart] at hplace
      cases hplace
    · exact fun n _ _ hn => absurd hn (Nat.not_lt_zero n)
  exact discovery_of_unfold (by simp) hnodes h

/-! ### What follows for the places -/

variable {places : Array Place} {g : GramGraph}

/-- Each step of the automaton has its edge. -/
theorem NodeFor.exists_edge_of_step {grams : Array (List Char)}
    (h : NodeFor b dfa places grams place node) (hreject : node.accepting = false) {c : Char}
    {next : Nat} (hstep : dfa.step? place.state c = some next) :
    ∃ t ∈ dfa.transitions place.state, t.lo ≤ c.toNat ∧ c.toNat ≤ t.hi ∧ t.target = next ∧
      ∃ e ∈ node.edges, EdgeFor places grams (.through b place.window t c) e := by
  rw [h.accepting] at hreject
  obtain ⟨t, ht, hlo, hhi, htarget⟩ := Dfa.exists_transition hstep
  have hread : .through b place.window t c ∈ place.readings b dfa :=
    Place.mem_readings_iff.mpr ⟨hreject, t, ht, c, fun _ => mem_charsOf hlo hhi, rfl⟩
  exact ⟨t, ht, hlo, hhi, htarget, h.edges.exists_edge _ hread⟩

/-- The first place is at the start of the automaton, with an empty window. -/
theorem BreadthFirst.start (h : BreadthFirst b dfa places) : places[0]? = some ⟨Dfa.start, []⟩ := by
  rw [← Array.getElem?_toList, h.found, List.eraseDups_cons]
  rfl

/-- No place has two numbers. -/
theorem BreadthFirst.nodup (h : BreadthFirst b dfa places) : places.toList.Nodup := by
  rw [h.found]
  exact nodup_eraseDups _

/-- What holds of the start and of what is read at a place with it holds of all places. -/
theorem BreadthFirst.induct {P : Place → Prop} (h : BreadthFirst b dfa places)
    (hstart : P ⟨Dfa.start, []⟩)
    (hread : ∀ place, P place → ∀ r ∈ place.readings b dfa, P r.place) {n : Nat} {place : Place}
    (hplace : places[n]? = some place) : P place := by
  induction n using Nat.strong_induction_on generalizing place with
  | h n ih =>
    cases n with
    | zero =>
      rw [h.start] at hplace
      cases hplace
      exact hstart
    | succ n =>
      obtain ⟨m, hm, before, hbefore, r, hr, rfl⟩ := h.earlier n place hplace
      exact hread before (ih m (Nat.lt_succ_of_le hm) hbefore) r hr

end GramGraph

end GramSieve.Gram
