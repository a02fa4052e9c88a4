import GramSieve.Proofs.Formula.Size
import GramSieve.Proofs.Query.Meaning
import Mathlib.Data.List.Perm.Subperm

/-!
# Normal queries

* `Query.Normal` — no constants, and every list and every composite has several members, in order
  and without nesting.
* `Query.mentions` — the terms that a query looks up, and `clauseCount` counts them.
* `Query.canonical_ofTerms`, `Query.canonical_join` — what queries are made with gives constants and
  normal queries only, and mentions nothing new.
* `Query.canonical_normalize` — so the normal form of a query is a constant or normal.
* `Query.normalize_normalize` — which normalizing leaves as it is.
* `Query.clauseCount_ofFormula` — the query of a formula looks up every leaf.
-/

namespace GramSieve.Query

open List (Subperm)

/-! ### Mentioned terms -/

mutual

/-- The terms that a query looks up, with their fields. -/
def mentions : Query → List (String × String)
  | .const _ => []
  | .term field t => [(field, t)]
  | .terms field ts => ts.map (field, ·)
  | .node _ qs => mentionsList qs

/-- The terms that some queries look up. -/
def mentionsList : List Query → List (String × String)
  | [] => []
  | q :: qs => mentions q ++ mentionsList qs

end

/-- A composite mentions what its operands mention. -/
theorem mentionsList_eq_flatMap (qs : List Query) : mentionsList qs = qs.flatMap mentions := by
  induction qs with
  | nil => rfl
  | cons q qs ih => rw [mentionsList, ih, List.flatMap_cons]

@[simp] theorem mentions_const (value : Bool) : mentions (.const value) = [] := by
  rw [mentions]

@[simp] theorem mentions_term (field t : String) : mentions (.term field t) = [(field, t)] := by
  rw [mentions]

@[simp] theorem mentions_terms (field : String) (ts : List String) :
    mentions (.terms field ts) = ts.map (field, ·) := by
  rw [mentions]

@[simp] theorem mentions_node (kind : Connective) (qs : List Query) :
    mentions (.node kind qs) = qs.flatMap mentions := by
  rw [mentions, mentionsList_eq_flatMap]

/-- It has as many clauses as its operands together. -/
theorem clauseCountList_eq_sum (qs : List Query) :
    clauseCountList qs = (qs.map clauseCount).sum := by
  induction qs with
  | nil => rfl
  | cons q qs ih => rw [clauseCountList, ih, List.map_cons, List.sum_cons]

/-- Every term that is mentioned is a clause. -/
theorem clauseCount_eq_length (q : Query) : q.clauseCount = q.mentions.length := by
  match q with
  | .const _ => rw [clauseCount, mentions_const, List.length_nil]
  | .term _ _ => rw [clauseCount, mentions_term, List.length_singleton]
  | .terms _ ts => rw [clauseCount, mentions_terms, List.length_map]
  | .node _ qs =>
    rw [clauseCount, clauseCountList_eq_sum, mentions_node, List.length_flatMap]
    exact congrArg List.sum (List.map_congr_left fun q _ => clauseCount_eq_length q)

/-- What mentions no more than another query has no more clauses. -/
theorem clauseCount_le_of_subperm {q r : Query} (h : q.mentions.Subperm r.mentions) :
    q.clauseCount ≤ r.clauseCount := by
  rw [clauseCount_eq_length, clauseCount_eq_length]
  exact h.length_le

/-! ### Normal queries -/

/-- The connective of a composite. -/
def kind? : Query → Option Connective
  | .node kind _ => some kind
  | _ => none

mutual

/-- There are no constants, every list of terms has several that ascend, and every composite has
several operands, none of which is a composite of the same connective. -/
def Normal : Query → Prop
  | .const _ => False
  | .term _ _ => True
  | .terms _ ts => 2 ≤ ts.length ∧ ts.Pairwise (· < ·)
  | .node kind qs => 2 ≤ qs.length ∧ AllNormal kind qs

/-- Every query of a list is normal, and none is a composite of the given connective. -/
def AllNormal (kind : Connective) : List Query → Prop
  | [] => True
  | q :: qs => (q.kind? ≠ some kind ∧ q.Normal) ∧ AllNormal kind qs

end

/-- A constant or a normal query. -/
def Canonical (q : Query) : Prop := (∃ value, q = .const value) ∨ q.Normal

variable {kind : Connective} {field : String} {q p : Query} {qs kept : List Query}

theorem allNormal_iff : AllNormal kind qs ↔ ∀ q ∈ qs, q.kind? ≠ some kind ∧ q.Normal := by
  induction qs with
  | nil => simp [AllNormal]
  | cons q qs ih => rw [AllNormal, ih, List.forall_mem_cons]

theorem normal_term (field t : String) : Normal (.term field t) := by
  rw [Normal]
  trivial

/-- A choice of terms is normal if there are several, in order and without repetitions. -/
theorem normal_terms {ts : List String} :
    Normal (.terms field ts) ↔ 2 ≤ ts.length ∧ ts.Pairwise (· < ·) := by
  rw [Normal]

/-- A composite is normal if it has several operands, which are normal and of another kind. -/
theorem normal_node : Normal (.node kind qs) ↔
    2 ≤ qs.length ∧ ∀ q ∈ qs, q.kind? ≠ some kind ∧ q.Normal := by
  rw [Normal, allNormal_iff]

theorem not_normal_const {value : Bool} : ¬Normal (.const value) := by
  rw [Normal]
  exact id

/-- A normal query looks up some term. -/
theorem Normal.clauseCount_pos {q : Query} (h : q.Normal) : 0 < q.clauseCount := by
  match q with
  | .const _ => exact absurd h not_normal_const
  | .term _ _ =>
    rw [clauseCount]
    exact Nat.one_pos
  | .terms _ ts =>
    rw [clauseCount]
    exact Nat.lt_of_lt_of_le Nat.two_pos (normal_terms.mp h).1
  | .node kind qs =>
    obtain ⟨hlength, hqs⟩ := normal_node.mp h
    match qs with
    | q :: qs =>
      rw [clauseCount, clauseCountList]
      exact Nat.add_pos_left (Normal.clauseCount_pos (hqs q (.head _)).2) _

/-- A normal query does not hold where there are no terms. -/
theorem Normal.not_holds {q : Query} (h : q.Normal) : ¬q.Holds fun _ _ => False := by
  match q with
  | .const _ => exact absurd h not_normal_const
  | .term _ _ =>
    rw [holds_term]
    exact id
  | .terms _ _ =>
    rw [holds_terms]
    rintro ⟨t, -, hfalse⟩
    exact hfalse
  | .node kind qs =>
    obtain ⟨hlength, hqs⟩ := normal_node.mp h
    have hnone : ∀ q ∈ qs, ¬q.Holds fun _ _ => False := fun q hq => Normal.not_holds (hqs q hq).2
    rw [holds_node]
    -- A normal composite has an operand, and no operand holds.
    cases kind with
    | and =>
      obtain ⟨q, hq⟩ := List.exists_mem_of_length_pos (Nat.lt_of_lt_of_le Nat.two_pos hlength)
      exact fun hall => hnone q hq (hall q hq)
    | or => exact fun ⟨q, hq, hholds⟩ => hnone q hq hholds

/-! ### Lists of terms -/

/-- Sorted terms without repetitions ascend. -/
theorem pairwise_sorted_terms (ts : List String) :
    (ts.mergeSort fun a b => decide (a ≤ b)).eraseReps.Pairwise (· < ·) := by
  have hsorted : (ts.mergeSort fun a b => decide (a ≤ b)).Pairwise fun a b => decide (a ≤ b) := by
    refine List.pairwise_mergeSort (fun a b c hab hbc => ?_) (fun a b => ?_) ts
    · exact decide_eq_true (String.le_trans (of_decide_eq_true hab) (of_decide_eq_true hbc))
    · simpa using String.le_total a b
  exact pairwise_eraseReps (fun _ _ hle hne => Std.lt_of_le_of_ne hle hne)
    (hsorted.imp of_decide_eq_true)

/-- Terms are put in order and may turn out to be only one, or none. -/
theorem canonical_ofTerms (field : String) (ts : List String) : (ofTerms field ts).Canonical := by
  have hascending := pairwise_sorted_terms ts
  unfold ofTerms
  split
  · exact .inl ⟨false, rfl⟩
  · exact .inr (normal_term _ _)
  · rename_i hnil hsingle
    refine .inr (normal_terms.mpr ⟨?_, hascending⟩)
    match hset : (ts.mergeSort fun a b => decide (a ≤ b)).eraseReps with
    | [] => exact absurd hset hnil
    | [t] => exact absurd hset (hsingle t)
    | t :: u :: rest => exact Nat.le_add_left 2 rest.length

/-- Putting terms in order may drop some, but adds none. -/
theorem mentions_ofTerms_subperm (field : String) (ts : List String) :
    (ofTerms field ts).mentions.Subperm (ts.map (field, ·)) := by
  have hmap : ((ts.mergeSort fun a b => decide (a ≤ b)).eraseReps.map (field, ·)).Subperm
      (ts.map (field, ·)) :=
    ((eraseReps_sublist _).map _).subperm.trans ((List.mergeSort_perm ts _).map _).subperm
  unfold ofTerms
  split
  · exact List.nil_subperm
  · rename_i single hsingle
    rw [hsingle] at hmap
    rw [mentions_term]
    exact hmap
  · rw [mentions_terms]
    exact hmap

/-! ### Composites -/

/-- The parts of a normal query are normal and not composites of the kind. -/
theorem Normal.of_mem_parts (h : q.Normal) (hp : p ∈ parts kind q) :
    p.kind? ≠ some kind ∧ p.Normal := by
  unfold parts at hp
  split at hp
  · rename_i k qs
    split at hp
    · rename_i hkind
      cases hkind
      exact (normal_node.mp h).2 p hp
    · rename_i hkind
      cases List.mem_singleton.mp hp
      exact ⟨fun hsame => hkind (Option.some.inj hsame), h⟩
  · rename_i hnode
    cases List.mem_singleton.mp hp
    refine ⟨fun hsame => ?_, h⟩
    cases q with
    | node k qs => exact hnode k qs rfl
    | const | term | terms => cases hsame

/-- They mention what the query mentions. -/
theorem mentions_parts (kind : Connective) (q : Query) :
    (parts kind q).flatMap mentions = q.mentions := by
  unfold parts
  split
  · split
    · exact (mentions_node _ _).symm
    · exact List.flatMap_singleton mentions _
  · exact List.flatMap_singleton mentions _

/-- What flattening keeps of canonical operands is normal, and mentions what they do. -/
theorem flatten_canonical (h : flatten kind qs = .inr kept) (hqs : ∀ q ∈ qs, q.Canonical) :
    (∀ p ∈ kept, p.kind? ≠ some kind ∧ p.Normal) ∧
      kept.flatMap mentions = qs.flatMap mentions := by
  fun_induction flatten kind qs generalizing kept with
  | case1 =>
    cases h
    exact ⟨List.forall_mem_nil _, rfl⟩
  | case2 rest ih =>
    obtain ⟨hkept, hmentions⟩ := ih h (List.forall_mem_cons.mp hqs).2
    refine ⟨hkept, ?_⟩
    rw [hmentions, List.flatMap_cons, mentions_const, List.nil_append]
  | case3 => cases h
  | case4 => cases h
  | case5 q rest hconst kept' hrest ih =>
    cases h
    obtain ⟨hq, hqs⟩ := List.forall_mem_cons.mp hqs
    obtain ⟨hkept, hmentions⟩ := ih hrest hqs
    -- An operand that is kept is no constant, so it is normal.
    have hnormal : q.Normal := hq.resolve_left fun hexists => hexists.elim hconst
    refine ⟨List.forall_mem_append.mpr ⟨fun p hp => hnormal.of_mem_parts hp, hkept⟩, ?_⟩
    rw [List.flatMap_append, mentions_parts, hmentions, List.flatMap_cons]

/-- Joining queries that are constant or normal gives such a query. -/
theorem canonical_join (hqs : ∀ q ∈ qs, q.Canonical) : (join kind qs).Canonical := by
  unfold join
  split
  · exact .inl ⟨_, rfl⟩
  · exact .inl ⟨_, rfl⟩
  · rename_i single h
    exact .inr ((flatten_canonical h hqs).1 single (.head _)).2
  · rename_i several hnil hsingle h
    refine .inr (normal_node.mpr ⟨?_, (flatten_canonical h hqs).1⟩)
    match several with
    | [] => exact absurd rfl hnil
    | [q] => exact absurd rfl (hsingle q)
    | q :: r :: rest => exact Nat.le_add_left 2 rest.length

/-- Joining may drop what is mentioned, but adds nothing and keeps the order. -/
theorem mentions_join_sublist (hqs : ∀ q ∈ qs, q.Canonical) :
    (join kind qs).mentions.Sublist (qs.flatMap mentions) := by
  unfold join
  split
  · exact List.nil_sublist _
  · exact List.nil_sublist _
  · rename_i single h
    rw [← (flatten_canonical h hqs).2, List.flatMap_singleton]
  · rename_i several _ _ h
    rw [← (flatten_canonical h hqs).2, mentions_node]

/-- Operands that mention no more than others do not when they are joined either. -/
theorem mentions_flatMap_subperm {f : Query → Query} {g : Query → List (String × String)}
    (h : ∀ q ∈ qs, (f q).mentions.Subperm (g q)) :
    ((qs.map f).flatMap mentions).Subperm (qs.flatMap g) := by
  induction qs with
  | nil => exact .refl _
  | cons q qs ih =>
    obtain ⟨hq, hqs⟩ := List.forall_mem_cons.mp h
    exact hq.append (ih hqs)

/-! ### The normal form -/

/-- Normalizing gives a constant or a normal query. -/
theorem canonical_normalize (q : Query) : q.normalize.Canonical := by
  match q with
  | .const value =>
    simp only [normalize]
    exact .inl ⟨value, rfl⟩
  | .term field t =>
    simp only [normalize]
    exact .inr (normal_term field t)
  | .terms field ts =>
    rw [normalize]
    exact canonical_ofTerms field ts
  | .node kind qs =>
    rw [normalize, normalizeList_eq_map]
    exact canonical_join (List.forall_mem_map.mpr fun q _ => canonical_normalize q)

/-- It mentions nothing that was not mentioned before, and nothing more often. -/
theorem mentions_normalize_subperm (q : Query) : q.normalize.mentions.Subperm q.mentions := by
  match q with
  | .const _ | .term _ _ =>
    simp only [normalize]
    exact .refl _
  | .terms field ts =>
    rw [normalize, mentions_terms]
    exact mentions_ofTerms_subperm field ts
  | .node kind qs =>
    rw [normalize, normalizeList_eq_map, mentions_node]
    refine (mentions_join_sublist ?_).subperm.trans ?_
    · exact List.forall_mem_map.mpr fun q _ => canonical_normalize q
    · exact mentions_flatMap_subperm fun q _ => mentions_normalize_subperm q

theorem clauseCount_normalize_le (q : Query) : q.normalize.clauseCount ≤ q.clauseCount :=
  clauseCount_le_of_subperm (mentions_normalize_subperm q)

/-! ### Normal queries are their own normal form -/

/-- Terms that are in order already stay as they are. -/
theorem ofTerms_of_normal {ts : List String} (h : Normal (.terms field ts)) :
    ofTerms field ts = .terms field ts := by
  obtain ⟨hlength, hascending⟩ := normal_terms.mp h
  have hsorted : (ts.mergeSort fun a b => decide (a ≤ b)) = ts :=
    List.mergeSort_of_pairwise (hascending.imp fun hlt => decide_eq_true (Std.le_of_lt hlt))
  have hdistinct : ts.eraseReps = ts :=
    eraseReps_of_isChain (hascending.imp fun hlt => Std.ne_of_lt hlt).isChain
  unfold ofTerms
  rw [hsorted, hdistinct]
  match ts with
  | _ :: _ :: _ => rfl

/-- What is no composite of the connective stays in one piece. -/
theorem parts_of_kind?_ne (h : q.kind? ≠ some kind) : parts kind q = [q] := by
  cases q with
  | node k qs => exact if_neg fun hkind => h (congrArg some hkind)
  | const | term | terms => rfl

/-- Among normal operands there is nothing to flatten. -/
theorem flatten_of_normal (hqs : ∀ q ∈ qs, q.kind? ≠ some kind ∧ q.Normal) :
    flatten kind qs = .inr qs := by
  fun_induction flatten kind qs with
  | case1 => rfl
  | case2 | case3 => exact absurd (hqs _ (.head _)).2 not_normal_const
  | case4 q rest _ value hrest ih =>
    -- No operand behind the first one decides the composite, as none is a constant.
    rw [ih (List.forall_mem_cons.mp hqs).2] at hrest
    cases hrest
  | case5 q rest _ kept hrest ih =>
    obtain ⟨⟨hkind, -⟩, hqs⟩ := List.forall_mem_cons.mp hqs
    rw [ih hqs] at hrest
    cases hrest
    rw [parts_of_kind?_ne hkind, List.singleton_append]

/-- The operands of a normal query are joined to that query. -/
theorem join_of_normal (h : Normal (.node kind qs)) : join kind qs = .node kind qs := by
  obtain ⟨hlength, hqs⟩ := normal_node.mp h
  unfold join
  rw [flatten_of_normal hqs]
  match qs with
  | _ :: _ :: _ => rfl

/-- A normal query is not changed any more. -/
theorem normalize_of_normal {q : Query} (h : q.Normal) : q.normalize = q := by
  match q with
  | .const _ => exact absurd h not_normal_const
  | .term _ _ => simp only [normalize]
  | .terms field ts =>
    rw [normalize]
    exact ofTerms_of_normal h
  | .node kind qs =>
    have hsame : ∀ q ∈ qs, q.normalize = q := fun q hq =>
      normalize_of_normal ((normal_node.mp h).2 q hq).2
    rw [normalize, normalizeList_eq_map, List.map_congr_left hsame, List.map_id']
    exact join_of_normal h

/-- A normal form is its own normal form. -/
theorem normalize_normalize (q : Query) : q.normalize.normalize = q.normalize := by
  rcases canonical_normalize q with ⟨value, hvalue⟩ | hnormal
  · rw [hvalue]
    simp only [normalize]
  · exact normalize_of_normal hnormal

/-! ### Queries of formulas -/

/-- A disjunction of terms that becomes a single lookup mentions the same terms. -/
theorem mentions_lookups_node (hfield : ∀ g t, .term g t ∈ qs → g = field) :
    ((lookups field).node kind qs).mentions = qs.flatMap mentions := by
  simp only [lookups]
  split
  · rename_i h
    obtain ⟨-, -, hlength⟩ := h
    have hqs := eq_map_term hfield hlength
    generalize qs.filterMap term? = ts at hqs ⊢
    rw [hqs, mentions_terms, List.flatMap_map]
    simp only [mentions_term]
    exact List.map_eq_flatMap
  · exact mentions_node kind qs

/-- The query of a formula looks up every leaf. -/
theorem clauseCount_ofFormula (field : String) (f : Formula String) :
    (ofFormula field f).clauseCount = f.leafCount := by
  match f with
  | .const value => rw [ofFormula, Formula.fold, lookups, clauseCount, Formula.leafCount_const]
  | .atom key t => rw [ofFormula, Formula.fold, lookups, clauseCount, Formula.leafCount_atom]
  | .node kind key fs =>
    have hfield : ∀ g t, .term g t ∈ fs.map (ofFormula field) → g = field := by
      intro g t hmem
      obtain ⟨f, -, hf⟩ := List.mem_map.mp hmem
      exact field_of_ofFormula hf
    rw [clauseCount_eq_length, ofFormula, Formula.fold, Formula.foldList_eq_map]
    refine (congrArg List.length (mentions_lookups_node hfield)).trans ?_
    rw [List.length_flatMap, List.map_map, Formula.leafCount_node]
    refine congrArg List.sum (List.map_congr_left fun f _ => ?_)
    exact (clauseCount_eq_length _).symm.trans (clauseCount_ofFormula field f)

end GramSieve.Query
