import GramSieve.Index.Postings
import Std.Data.HashMap.Lemmas
import Std.Data.TreeSet.Lemmas

/-!
# Postings as a relation between terms and documents

* `Postings.Has` — a document has a term.
* `Postings.has_add` — adding a document adds its terms, and nothing else.
* `Postings.mem_intersect`, `Postings.mem_union` — the documents with all or with some terms.
-/

namespace GramSieve

/-! ### Sets of documents -/

namespace DocSet

theorem mem_filter {set : DocSet} {test : Nat → Bool} {doc : Nat} :
    doc ∈ set.filter test ↔ doc ∈ set ∧ test doc = true := by
  rw [← Std.TreeSet.mem_toList, Std.TreeSet.toList_filter, List.mem_filter, Std.TreeSet.mem_toList]

/-- An empty set is as narrow as a set can be. -/
theorem mem_narrowed {left set : DocSet} {doc : Nat} :
    doc ∈ (if left.isEmpty then left else left.filter set.contains) ↔ doc ∈ left ∧ doc ∈ set := by
  split
  · rename_i hempty
    have := Std.TreeSet.not_mem_of_isEmpty (a := doc) hempty
    exact ⟨fun h => absurd h this, fun h => absurd h.1 this⟩
  · rw [mem_filter, Std.TreeSet.contains_iff_mem]

/-- A set that is narrowed by others one by one has what all of them have. Stopping once it is empty
changes nothing. -/
theorem mem_foldl_narrowed {sets : List DocSet} {left : DocSet} {doc : Nat} :
    doc ∈ sets.foldl (fun left set => if left.isEmpty then left else left.filter set.contains)
      left ↔ doc ∈ left ∧ ∀ set ∈ sets, doc ∈ set := by
  induction sets generalizing left with
  | nil => simp
  | cons set sets ih => rw [List.foldl_cons, ih, mem_narrowed, List.forall_mem_cons, and_assoc]

/-- A document of a set that grows term by term comes from one of the terms. -/
theorem mem_foldl {grow : DocSet → String → DocSet} {doc : Nat} (has : String → Prop)
    (hgrow : ∀ found t, doc ∈ grow found t ↔ doc ∈ found ∨ has t) {terms : List String}
    {found : DocSet} : doc ∈ terms.foldl grow found ↔ doc ∈ found ∨ ∃ t ∈ terms, has t := by
  induction terms generalizing found with
  | nil => simp
  | cons t terms ih => simp [ih, hgrow, or_assoc]

end DocSet

namespace Postings

/-- A document has a term. -/
def Has (p : Postings) (term : String) (doc : Nat) : Prop := ∃ set, p.find? term = some set ∧ doc ∈ set

variable {p : Postings} {term other : String} {doc doc' : Nat}

theorem not_has_empty : ¬({} : Postings).Has term doc := by
  rintro ⟨set, h, -⟩
  simp [find?] at h

/-- A document has a term if it is in the set of the term. -/
theorem has_iff_mem_getD : p.Has term doc ↔ doc ∈ (p.find? term).getD ∅ := by
  unfold Has
  cases p.find? term with
  | none => simp
  | some set => simp

/-- A term that a document has is known. -/
theorem contains_of_has (h : p.Has term doc) : p.contains term = true := by
  obtain ⟨set, hset, -⟩ := h
  unfold contains
  rw [Std.HashMap.contains_eq_isSome_getElem?]
  exact Option.isSome_of_eq_some hset

/-! ### Adding documents -/

/-- Adding a term for a document adds that and nothing else. -/
theorem has_addTerm : (p.addTerm doc term).Has other doc' ↔
    p.Has other doc' ∨ (other = term ∧ doc' = doc) := by
  rw [has_iff_mem_getD, has_iff_mem_getD]
  unfold addTerm find?
  simp only [Std.HashMap.getElem?_alter]
  split
  · rename_i heq
    rw [eq_of_beq heq, Option.getD_some, Std.TreeSet.mem_insert]
    rw [Std.LawfulEqCmp.compare_eq_iff_eq, or_comm, eq_comm (a := doc)]
    simp only [true_and]
  · rename_i hne
    have hne : other ≠ term := fun h => hne (by simp [h])
    simp only [hne, false_and, or_false]

/-- So does adding many terms. -/
theorem has_add {terms : List String} : (p.add doc terms).Has other doc' ↔
    p.Has other doc' ∨ (other ∈ terms ∧ doc' = doc) := by
  unfold add
  induction terms generalizing p with
  | nil => simp
  | cons term terms ih =>
    rw [List.foldl_cons, ih, has_addTerm, List.mem_cons, or_assoc, or_and_right]

/-! ### All and some of the terms -/

/-- The intersection of some sets has the documents that are in all of them. The smallest one comes
first, but the order does not matter. -/
theorem mem_intersectSets {sets : List DocSet} :
    doc ∈ intersectSets sets ↔ sets ≠ [] ∧ ∀ set ∈ sets, doc ∈ set := by
  -- Sorting by size only changes which set is narrowed.
  have hmem : ∀ set, set ∈ sets.mergeSort (fun a b => decide (a.size ≤ b.size)) ↔ set ∈ sets :=
    fun set => List.mem_mergeSort
  unfold intersectSets
  split
  · rename_i hnil
    have hsets : sets = [] := by
      rw [List.eq_nil_iff_forall_not_mem]
      intro set hset
      rw [← hmem, hnil] at hset
      cases hset
    simp [hsets]
  · rename_i smallest others hcons
    have hne : sets ≠ [] := by
      rintro rfl
      simp at hcons
    have hall : (doc ∈ smallest ∧ ∀ set ∈ others, doc ∈ set) ↔
        ∀ set ∈ smallest :: others, doc ∈ set :=
      (List.forall_mem_cons (p := fun set => doc ∈ set)).symm
    rw [DocSet.mem_foldl_narrowed, hall, ← hcons]
    simp only [hmem, hne, ne_eq, not_false_eq_true, true_and]

/-- The sets of some terms, if every term has one, are those that tell which terms a document has. -/
theorem has_of_mapM (doc : Nat) {terms : List String} {sets : List DocSet}
    (h : terms.mapM p.find? = some sets) :
    sets.length = terms.length ∧ ((∀ set ∈ sets, doc ∈ set) ↔ ∀ t ∈ terms, p.Has t doc) := by
  induction terms generalizing sets with
  | nil =>
    cases h
    simp
  | cons t terms ih =>
    rw [List.mapM_cons] at h
    obtain ⟨set, hset, h⟩ := Option.bind_eq_some_iff.mp h
    obtain ⟨rest, hrest, h⟩ := Option.bind_eq_some_iff.mp h
    cases h
    obtain ⟨hlength, hmem⟩ := ih hrest
    have ht : p.Has t doc ↔ doc ∈ set := by
      rw [has_iff_mem_getD, hset, Option.getD_some]
    rw [List.forall_mem_cons, List.forall_mem_cons, hmem, ht]
    exact ⟨by rw [List.length_cons, List.length_cons, hlength], Iff.rfl⟩

/-- A document with all of some terms gives every one of them a set. -/
theorem exists_mapM_of_has {terms : List String} (h : ∀ t ∈ terms, p.Has t doc) :
    ∃ sets, terms.mapM p.find? = some sets := by
  induction terms with
  | nil => exact ⟨[], rfl⟩
  | cons t terms ih =>
    obtain ⟨⟨set, hset, -⟩, h⟩ := List.forall_mem_cons.mp h
    obtain ⟨sets, hsets⟩ := ih h
    exact ⟨set :: sets, by rw [List.mapM_cons, hset, hsets]; rfl⟩

/-- Intersecting the sets of some terms gives the documents that have all of them. -/
theorem mem_intersect {terms : List String} :
    doc ∈ p.intersect terms ↔ terms ≠ [] ∧ ∀ t ∈ terms, p.Has t doc := by
  unfold intersect
  split
  · rename_i sets h
    obtain ⟨hlength, hmem⟩ := has_of_mapM doc h
    rw [mem_intersectSets, hmem, ← List.length_pos_iff, ← List.length_pos_iff, hlength]
  · rename_i h
    refine ⟨fun hdoc => absurd hdoc Std.TreeSet.not_mem_emptyc, fun ⟨_, hall⟩ => ?_⟩
    obtain ⟨sets, hsets⟩ := exists_mapM_of_has hall
    rw [hsets] at h
    cases h

/-- Uniting them gives those that have one of them. -/
theorem mem_union {terms : List String} : doc ∈ p.union terms ↔ ∃ t ∈ terms, p.Has t doc := by
  unfold union
  rw [DocSet.mem_foldl (fun t => p.Has t doc)]
  · exact or_iff_right Std.TreeSet.not_mem_emptyc
  · intro found t
    rw [has_iff_mem_getD]
    cases p.find? t with
    | none => simp
    | some set => simp [Std.TreeSet.mem_union_iff]

end Postings

end GramSieve
