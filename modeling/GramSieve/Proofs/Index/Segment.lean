import GramSieve.Index.Segment
import GramSieve.Proofs.Index.Postings
import GramSieve.Proofs.Query.Meaning

/-!
# What a segment knows of its documents

* `Schema.Has` — a document has a term in a gram field.
* `Segment.Indexes` — a segment has the terms and the stored fields of some documents.
* `Segment.Indexes.add` — adding a document keeps this.
* `Segment.Bounded.mem_evaluate` — a query finds the documents of which it holds.
* `Segment.holds_prune` — giving up terms that no document has keeps the meaning of a query.
* `Segment.mem_evaluate_ofDocuments` — what a query finds after any documents were added.
-/

namespace GramSieve

/-- A document keeps the values of its stored fields. -/
theorem Document.values_restrict {d : Document} {keep : String → Bool} {field : String}
    (h : keep field = true) : (d.restrict keep).values field = d.values field := by
  -- Dropping other fields does not change which entry is the first of this field.
  suffices ∀ fields : List (String × List String),
      (fields.filter fun entry => keep entry.1).lookup field = fields.lookup field by
    have hfields : (d.restrict keep).fields = d.fields.filter fun entry => keep entry.1 := rfl
    unfold Document.values
    rw [hfields, this]
  intro fields
  induction fields with
  | nil => rfl
  | cons entry fields ih =>
    obtain ⟨name, values⟩ := entry
    by_cases hname : field = name
    · rw [List.filter_cons, ← hname, if_pos h, List.lookup_cons_self, List.lookup_cons_self]
    · have hne : (field == name) = false := beq_eq_false_iff_ne.mpr hname
      simp only [List.filter_cons, List.lookup_cons, hne]
      split
      · rw [List.lookup_cons, hne]
        exact ih
      · exact ih

/-- A field that is not kept has no values. -/
theorem Document.values_restrict_of_not {d : Document} {keep : String → Bool} {field : String}
    (h : keep field = false) : (d.restrict keep).values field = [] := by
  have hnone : (d.restrict keep).fields.lookup field = none := by
    refine List.lookup_eq_none_iff.mpr fun entry hentry => ?_
    have hkept : keep entry.1 = true := (List.mem_filter.mp hentry).2
    rw [bne_iff_ne]
    rintro rfl
    rw [h] at hkept
    exact Bool.false_ne_true hkept
  unfold Document.values
  rw [hnone]
  rfl

/-- A document has a term in a gram field. -/
def Schema.Has (schema : Schema) (d : Document) (field term : String) : Prop :=
  ∃ f ∈ schema.gramFields, f.name = field ∧ term ∈ Segment.termsOf f d

namespace Segment

/-- A document of a segment has a term in a field. -/
def Has (s : Segment) (field term : String) (doc : Nat) : Prop :=
  ((s.postings[field]?).getD {}).Has term doc

/-- A segment has the terms and the stored fields of some documents. -/
structure Indexes (s : Segment) (schema : Schema) (docs : List Document) : Prop where
  documents : s.documents.toList = docs.map (·.restrict schema.isStored)
  has {field term : String} {doc : Nat} :
    s.Has field term doc ↔ ∃ d, docs[doc]? = some d ∧ schema.Has d field term

variable {s : Segment} {schema : Schema} {docs : List Document} {doc : Nat}

/-! ### Adding documents -/

/-- What there is at a position of a list that got one member more. -/
theorem exists_getElem?_concat {α : Type} {P : α → Prop} {xs : List α} {x : α} {i : Nat} :
    (∃ y, (xs ++ [x])[i]? = some y ∧ P y) ↔
      (∃ y, xs[i]? = some y ∧ P y) ∨ (i = xs.length ∧ P x) := by
  rcases Nat.lt_trichotomy i xs.length with hlt | rfl | hgt
  · rw [List.getElem?_append_left hlt]
    simp [Nat.ne_of_lt hlt]
  · simp
  · have hlength : (xs ++ [x]).length ≤ i := by
      rw [List.length_append, List.length_singleton]
      exact hgt
    simp [List.getElem?_eq_none hlength, List.getElem?_eq_none (Nat.le_of_lt hgt), Nat.ne_of_gt hgt]

/-- An empty segment has no documents. -/
theorem indexes_empty (schema : Schema) : ({} : Segment).Indexes schema [] where
  documents := rfl
  has := by
    intro field term doc
    unfold Has
    simp [Postings.not_has_empty]

/-- Adding the terms of all gram fields adds each of them in its own field. Several fields of one name
share their postings. -/
theorem has_foldl_alter {terms : GramField → List String} {fields : List GramField}
    {postings : Std.HashMap String Postings} {field term : String} {doc' : Nat} :
    (((fields.foldl (fun postings f => postings.alter f.name fun old =>
      some ((old.getD {}).add doc (terms f))) postings)[field]?).getD {}).Has term doc' ↔
    ((postings[field]?).getD {}).Has term doc' ∨
      (doc' = doc ∧ ∃ f ∈ fields, f.name = field ∧ term ∈ terms f) := by
  induction fields generalizing postings with
  | nil => simp
  | cons f fields ih =>
    rw [List.foldl_cons, ih, Std.HashMap.getElem?_alter]
    simp only [List.mem_cons, or_and_right, exists_or, exists_eq_left]
    -- Only gram fields of this name change its postings.
    by_cases hname : f.name = field
    · simp only [hname, beq_self_eq_true, if_true, Option.getD_some, Postings.has_add, true_and,
        and_or_left, or_assoc, and_comm]
    · simp only [beq_eq_false_iff_ne.mpr hname, if_false, Bool.false_eq_true, hname, false_and,
        false_or]

/-- Adding a document gives its terms to the next number, and keeps what is known of the others. -/
theorem has_add {d : Document} {field term : String} :
    (s.add schema d).Has field term doc ↔
      s.Has field term doc ∨ (doc = s.size ∧ schema.Has d field term) :=
  has_foldl_alter

theorem size_add (s : Segment) (schema : Schema) (d : Document) :
    (s.add schema d).size = s.size + 1 :=
  Array.size_push _

theorem Indexes.size_eq (hs : s.Indexes schema docs) : s.size = docs.length := by
  rw [size, ← Array.length_toList, hs.documents, List.length_map]

/-- The document that is added has the next number. -/
theorem Indexes.add (hs : s.Indexes schema docs) (d : Document) :
    (s.add schema d).Indexes schema (docs ++ [d]) where
  documents := by
    unfold Segment.add
    rw [Array.toList_push, hs.documents, List.map_append, List.map_singleton]
  has := by
    intro field term doc
    rw [has_add, hs.has, hs.size_eq, exists_getElem?_concat]

/-- The stored values of a document are found by its number. -/
theorem Indexes.stored? (hs : s.Indexes schema docs) {field : String}
    (hfield : schema.isStored field = true) :
    s.stored? field doc = docs[doc]?.map fun d => d.values field := by
  unfold Segment.stored?
  rw [← Array.getElem?_toList, hs.documents, List.getElem?_map, Option.map_map]
  cases docs[doc]? with
  | none => rfl
  | some d => exact congrArg some (Document.values_restrict hfield)

/-- What is stored of a field, whether it is kept or not. -/
theorem Indexes.stored?_eq (hs : s.Indexes schema docs) (field : String) :
    s.stored? field doc =
      docs[doc]?.map fun d => if schema.isStored field then d.values field else [] := by
  cases hfield : schema.isStored field with
  | true => rw [hs.stored? hfield]; rfl
  | false =>
    unfold Segment.stored?
    rw [← Array.getElem?_toList, hs.documents, List.getElem?_map, Option.map_map]
    cases docs[doc]? with
    | none => rfl
    | some d => exact congrArg some (Document.values_restrict_of_not hfield)

/-! ### Queries -/

theorem mem_all : doc ∈ s.all ↔ doc < s.size := by
  simp [all, Std.TreeSet.mem_ofList]

/-- The union of some terms of a field has the documents that have one of them in this field. -/
theorem mem_union_postings {field : String} {ts : List String} :
    doc ∈ (s.postings[field]?.map fun p => p.union ts).getD ∅ ↔ ∃ t ∈ ts, s.Has field t doc := by
  unfold Has
  cases s.postings[field]? with
  | none => simp [Postings.not_has_empty]
  | some p => exact Postings.mem_union

/-- Their intersection has those that have all of them, if there is a term at all. -/
theorem mem_intersect_postings {field : String} {ts : List String} (hts : ts ≠ []) :
    doc ∈ (s.postings[field]?.map fun p => p.intersect ts).getD ∅ ↔ ∀ t ∈ ts, s.Has field t doc := by
  unfold Has
  cases s.postings[field]? with
  | none =>
    obtain ⟨t, ht⟩ := List.exists_mem_of_ne_nil ts hts
    exact ⟨fun h => absurd h Std.TreeSet.not_mem_emptyc,
      fun h => absurd (h t ht) Postings.not_has_empty⟩
  | some p =>
    refine Postings.mem_intersect.trans ?_
    simp only [hts, ne_eq, not_false_eq_true, true_and, Option.getD_some]

/-- The set of one term of a field has the documents that have it there. -/
theorem mem_find_postings {field t : String} :
    doc ∈ (s.postings[field]?.bind fun p => p.find? t).getD ∅ ↔ s.Has field t doc := by
  unfold Has
  rw [Postings.has_iff_mem_getD]
  cases s.postings[field]? with
  | none => simp [Postings.find?]
  | some p => rfl

/-- Operands that are all terms of one field are taken together as such. -/
theorem eq_map_of_sameFieldTerms? {qs : List Query} {field : String} {ts : List String}
    (h : sameFieldTerms? qs = some (field, ts)) : ts ≠ [] ∧ qs = ts.map (.term field) := by
  fun_induction sameFieldTerms? qs generalizing field ts with
  | case1 g t =>
    cases h
    exact ⟨List.cons_ne_nil _ _, rfl⟩
  | case2 t qs _ g ts hqs ih =>
    cases h
    exact ⟨List.cons_ne_nil _ _, by rw [List.map_cons, ← (ih hqs).2]⟩
  | case3 | case4 | case5 => cases h

/-- Every document that has a term is one of the segment. -/
def Bounded (s : Segment) : Prop := ∀ field t doc, s.Has field t doc → doc < s.size

/-- Only documents of the segment have terms. -/
theorem Bounded.lt_size (hs : s.Bounded) {field t : String} (h : s.Has field t doc) :
    doc < s.size :=
  hs field t doc h

/-- A segment made of documents has terms of these only. -/
theorem Indexes.bounded (hs : s.Indexes schema docs) : s.Bounded := by
  intro field t doc h
  obtain ⟨d, hd, -⟩ := hs.has.mp h
  rw [hs.size_eq]
  exact (List.getElem?_eq_some_iff.mp hd).1

/-- What a segment knows of a document is what is true of it. -/
theorem Indexes.has_iff (hs : s.Indexes schema docs) {d : Document} (hd : docs[doc]? = some d)
    {field t : String} : s.Has field t doc ↔ schema.Has d field t := by
  rw [hs.has, hd]
  simp

mutual

/-- A query finds the documents of a segment of which it holds. -/
theorem Bounded.mem_evaluate (hs : s.Bounded) (q : Query) :
    doc ∈ s.evaluate q ↔ doc < s.size ∧ q.Holds fun field t => s.Has field t doc := by
  match q with
  | .const value =>
    rw [evaluate, Query.holds_const]
    cases value with
    | false => simp
    | true => exact mem_all.trans (by simp)
  | .term field t =>
    rw [evaluate, mem_find_postings, Query.holds_term]
    exact (and_iff_right_of_imp hs.lt_size).symm
  | .terms field ts =>
    rw [evaluate, mem_union_postings, Query.holds_terms]
    refine (and_iff_right_of_imp ?_).symm
    rintro ⟨t, -, ht⟩
    exact hs.lt_size ht
  | .node .and qs =>
    rw [evaluate, Query.holds_node, Connective.joins_and]
    split
    · rename_i field ts hsame
      -- Terms of one field are intersected at once.
      obtain ⟨hts, rfl⟩ := eq_map_of_sameFieldTerms? hsame
      rw [mem_intersect_postings hts, List.forall_mem_map]
      simp only [Query.holds_term]
      refine (and_iff_right_of_imp fun hall => ?_).symm
      obtain ⟨t, ht⟩ := List.exists_mem_of_ne_nil ts hts
      exact hs.lt_size (hall t ht)
    · exact hs.mem_evaluateAll qs
  | .node .or qs =>
    rw [evaluate, Query.holds_node, Connective.joins_or]
    exact hs.mem_evaluateSome qs

/-- The operands of a conjunction find those of which all hold, whether they are intersected at once
or one after the other. -/
theorem Bounded.mem_evaluateAll (hs : s.Bounded) (qs : List Query) :
    doc ∈ s.evaluateAll qs ↔
      doc < s.size ∧ ∀ q ∈ qs, q.Holds fun field t => s.Has field t doc := by
  match qs with
  | [] =>
    rw [evaluateAll, mem_all]
    simp
  | q :: qs =>
    rw [evaluateAll, hs.mem_narrow _ qs fun h => ((hs.mem_evaluate q).mp h).1, hs.mem_evaluate,
      List.forall_mem_cons, and_assoc]

/-- Narrowing what was found keeps the documents of which the other operands hold. -/
theorem Bounded.mem_narrow (hs : s.Bounded) (found : DocSet) (qs : List Query)
    (hfound : doc ∈ found → doc < s.size) :
    doc ∈ s.narrow found qs ↔
      doc ∈ found ∧ ∀ q ∈ qs, q.Holds fun field t => s.Has field t doc := by
  match qs with
  | [] =>
    rw [narrow]
    simp
  | q :: qs =>
    rw [narrow]
    split
    · rename_i hempty
      -- Nothing is left, so the queries behind need not be evaluated.
      have := Std.TreeSet.not_mem_of_isEmpty (a := doc) hempty
      exact ⟨fun h => absurd h this, fun h => absurd h.1 this⟩
    · rw [hs.mem_narrow _ qs fun h => hfound (DocSet.mem_filter.mp h).1, DocSet.mem_filter,
        Std.TreeSet.contains_iff_mem, hs.mem_evaluate, List.forall_mem_cons, and_assoc]
      exact and_congr_right fun h => ⟨fun h' => ⟨h'.1.2, h'.2⟩, fun h' => ⟨⟨hfound h, h'.1⟩, h'.2⟩⟩

/-- The operands of a disjunction find those of which one holds. -/
theorem Bounded.mem_evaluateSome (hs : s.Bounded) (qs : List Query) :
    doc ∈ s.evaluateSome qs ↔
      doc < s.size ∧ ∃ q ∈ qs, q.Holds fun field t => s.Has field t doc := by
  match qs with
  | [] =>
    rw [evaluateSome]
    simp
  | q :: qs =>
    rw [evaluateSome, Std.TreeSet.mem_union_iff, hs.mem_evaluate, hs.mem_evaluateSome, ← and_or_left]
    simp

end

/-- In a segment made of documents, a query finds those of which it holds. -/
theorem mem_evaluate (hs : s.Indexes schema docs) (q : Query) :
    doc ∈ s.evaluate q ↔ doc < s.size ∧ q.Holds fun field t => s.Has field t doc :=
  hs.bounded.mem_evaluate q

/-! ### Pruning -/

/-- A term that a document has is known to the segment. -/
theorem hasTerm_of_has {field t : String} (h : s.Has field t doc) :
    s.hasTerm field t = true := by
  unfold Has at h
  unfold hasTerm
  cases hp : s.postings[field]? with
  | none =>
    rw [hp] at h
    exact absurd h Postings.not_has_empty
  | some p =>
    rw [hp] at h
    exact Postings.contains_of_has h

/-- Operands are pruned one by one. -/
theorem pruneList_eq_map (qs : List Query) : s.pruneList qs = qs.map s.prune := by
  induction qs with
  | nil => rfl
  | cons q qs ih => rw [pruneList, ih, List.map_cons]

/-- Giving up terms that no document has changes nothing where they do not hold anyway. -/
theorem holds_prune_of_hasTerm {has : String → String → Prop}
    (h : ∀ field t, has field t → s.hasTerm field t = true) (q : Query) :
    (s.prune q).Holds has ↔ q.Holds has := by
  rw [prune.eq_def, Query.holds_normalize]
  match q with
  | .const value => rfl
  | .term field t =>
    dsimp only
    split
    · rfl
    -- A term that is dropped holds of no document.
    · rename_i hnot
      rw [Query.holds_const, Query.holds_term]
      exact ⟨nofun, fun hhas => absurd (h field t hhas) hnot⟩
  | .terms field ts =>
    rw [Query.holds_terms, Query.holds_terms]
    constructor
    · rintro ⟨t, ht, hhas⟩
      exact ⟨t, (List.mem_filter.mp ht).1, hhas⟩
    · rintro ⟨t, ht, hhas⟩
      exact ⟨t, List.mem_filter.mpr ⟨ht, h field t hhas⟩, hhas⟩
  | .node kind qs =>
    rw [Query.holds_node, Query.holds_node, pruneList_eq_map, kind.joins_map]
    exact kind.joins_congr fun q _ => holds_prune_of_hasTerm h q

/-- Pruning does not change which documents a query holds of. -/
theorem holds_prune (q : Query) :
    (s.prune q).Holds (fun field t => s.Has field t doc) ↔
      q.Holds fun field t => s.Has field t doc :=
  holds_prune_of_hasTerm (fun _ _ => hasTerm_of_has) q

/-! ### Segments of given documents -/

/-- The segment that some documents make, added one after the other. -/
def ofDocuments (schema : Schema) (docs : List Document) : Segment :=
  docs.foldl (fun s d => s.add schema d) {}

/-- Documents that are added one after the other get the next numbers in order. -/
theorem Indexes.addAll (hs : s.Indexes schema docs) (more : List Document) :
    (more.foldl (fun s d => s.add schema d) s).Indexes schema (docs ++ more) := by
  induction more generalizing s docs with
  | nil =>
    rw [List.append_nil]
    exact hs
  | cons d more ih =>
    have := ih (hs.add d)
    rwa [List.append_assoc, List.singleton_append] at this

/-- A segment of some documents has these, in order. -/
theorem indexes_ofDocuments (schema : Schema) (docs : List Document) :
    (ofDocuments schema docs).Indexes schema docs :=
  (indexes_empty schema).addAll docs

/-- **Queries find what they hold of.** Whatever documents were added to a segment, a query finds the
numbers of exactly those documents of which it holds, where a document has a term in a field if some
value of the source of a gram field of that name was analyzed to the term. -/
theorem mem_evaluate_ofDocuments (schema : Schema) (docs : List Document) (q : Query) (doc : Nat) :
    doc ∈ (ofDocuments schema docs).evaluate q ↔
      ∃ d, docs[doc]? = some d ∧ q.Holds fun field term =>
        ∃ f ∈ schema.gramFields, f.name = field ∧
          ∃ v ∈ d.values f.source, term ∈ f.analyzer.analyze v := by
  have hs := indexes_ofDocuments schema docs
  have hterms (d : Document) (field term : String) : schema.Has d field term ↔
      ∃ f ∈ schema.gramFields, f.name = field ∧
        ∃ v ∈ d.values f.source, term ∈ f.analyzer.analyze v := by
    simp only [Schema.Has, termsOf, List.mem_flatMap]
  -- The terms of a document in the postings are those of its own values.
  simp only [← hterms]
  rw [mem_evaluate hs, hs.size_eq]
  constructor
  · rintro ⟨hlt, hholds⟩
    have hd := List.getElem?_eq_getElem hlt
    simp only [hs.has_iff hd] at hholds
    exact ⟨_, hd, hholds⟩
  · rintro ⟨d, hd, hholds⟩
    refine ⟨(List.getElem?_eq_some_iff.mp hd).1, ?_⟩
    simp only [hs.has_iff hd]
    exact hholds

end Segment

end GramSieve
