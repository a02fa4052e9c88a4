import GramSieve.Proofs.Formula.Truth
import GramSieve.Query.Basic

/-!
# The meaning of queries

* `Query.holds_node` — a composite holds if its connective joins its operands.
* `Query.holds_ofTerms`, `Query.holds_join`, `Query.holds_normalize` — the normal form of a query
  holds of the same documents.
* `Query.holds_ofFormula` — the query of a formula holds where the formula does.
-/

namespace GramSieve.Query

variable {has : String → String → Prop}

/-- A conjunction holds if all its operands do. -/
theorem holdsAll_iff {qs : List Query} : HoldsAll has qs ↔ ∀ q ∈ qs, Holds has q := by
  induction qs with
  | nil => simp [HoldsAll]
  | cons q qs ih => rw [HoldsAll, ih, List.forall_mem_cons]

/-- A disjunction holds if one of its operands does. -/
theorem holdsSome_iff {qs : List Query} : HoldsSome has qs ↔ ∃ q ∈ qs, Holds has q := by
  induction qs with
  | nil => simp [HoldsSome]
  | cons q qs ih => simp [HoldsSome, ih]

@[simp] theorem holds_const (value : Bool) : Holds has (.const value) ↔ value = true := by
  rw [Holds]

@[simp] theorem holds_term (field t : String) : Holds has (.term field t) ↔ has field t := by
  rw [Holds]

@[simp] theorem holds_terms (field : String) (ts : List String) :
    Holds has (.terms field ts) ↔ ∃ t ∈ ts, has field t := by
  rw [Holds]

@[simp] theorem holds_node (kind : Connective) (qs : List Query) :
    Holds has (.node kind qs) ↔ kind.Joins (Holds has) qs := by
  cases kind
  · rw [Holds]
    exact holdsAll_iff
  · rw [Holds]
    exact holdsSome_iff

/-! ### Normal form -/

/-- Sorting terms and dropping repetitions keeps the meaning. -/
theorem holds_ofTerms (field : String) (ts : List String) :
    Holds has (ofTerms field ts) ↔ ∃ t ∈ ts, has field t := by
  have hmem (t : String) : t ∈ (ts.mergeSort fun a b => decide (a ≤ b)).eraseReps ↔ t ∈ ts := by
    rw [mem_eraseReps, List.mem_mergeSort]
  simp only [← hmem]
  unfold ofTerms
  split
  · rename_i hnil
    simp [hnil]
  · rename_i single hsingle
    simp [hsingle]
  · rw [holds_terms]

/-- A query is joined from its parts, of whatever connective. -/
theorem joins_parts (kind : Connective) (q : Query) :
    kind.Joins (Holds has) (parts kind q) ↔ Holds has q := by
  unfold parts
  split
  · rename_i k qs
    split
    · rename_i hkind
      rw [holds_node, hkind]
    · exact kind.joins_singleton _
  · exact kind.joins_singleton _

/-- If an operand decides the composite by itself, it is the constant that does so. -/
theorem flatten_eq_inl {kind : Connective} {qs : List Query} {value : Bool}
    (h : flatten kind qs = .inl value) : value ≠ kind.unit ∧ .const value ∈ qs := by
  fun_induction flatten kind qs with
  | case1 => cases h
  | case2 rest ih => exact ⟨(ih h).1, .tail _ (ih h).2⟩
  | case3 value' rest hne =>
    cases h
    exact ⟨hne, .head _⟩
  | case4 q rest _ value' hrest ih =>
    cases h
    exact ⟨(ih hrest).1, .tail _ (ih hrest).2⟩
  | case5 => cases h

/-- What flattening drops are constants that do not matter. -/
theorem joins_of_flatten {kind : Connective} {qs kept : List Query}
    (h : flatten kind qs = .inr kept) :
    kind.Joins (Holds has) kept ↔ kind.Joins (Holds has) qs := by
  fun_induction flatten kind qs generalizing kept with
  | case1 =>
    cases h
    exact Iff.rfl
  | case2 rest ih => exact (ih h).trans (kind.joins_cons_of_unit (holds_const _) rest).symm
  | case3 => cases h
  | case4 => cases h
  | case5 q rest _ kept' hrest ih =>
    cases h
    have hq : kind.Joins (Holds has) (parts kind q) ↔ kind.Joins (Holds has) [q] :=
      (joins_parts kind q).trans (kind.joins_singleton q).symm
    exact kind.joins_append_congr hq (ih hrest)

/-- Joining queries gives one that holds if their composite does. -/
theorem holds_join (kind : Connective) (qs : List Query) :
    Holds has (join kind qs) ↔ kind.Joins (Holds has) qs := by
  unfold join
  split
  · rename_i value h
    obtain ⟨hvalue, hmem⟩ := flatten_eq_inl h
    rw [holds_const, Connective.joins_of_decided (holds_const value) hvalue hmem]
  · rename_i h
    rw [holds_const, ← joins_of_flatten h, kind.joins_nil]
  · rename_i single h
    rw [← joins_of_flatten h, kind.joins_singleton]
  · rename_i several _ _ h
    rw [holds_node]
    exact joins_of_flatten h

/-- Operands are normalized one by one. -/
theorem normalizeList_eq_map (qs : List Query) : normalizeList qs = qs.map normalize := by
  induction qs with
  | nil => rfl
  | cons q qs ih => rw [normalizeList, ih, List.map_cons]

/-- Normalizing a query does not change when it holds. -/
theorem holds_normalize (q : Query) : Holds has q.normalize ↔ Holds has q := by
  match q with
  | .const _ | .term _ _ => simp only [normalize]
  | .terms field ts => rw [normalize, holds_ofTerms, holds_terms]
  | .node kind qs =>
    rw [normalize, holds_join, holds_node, normalizeList_eq_map, kind.joins_map]
    exact kind.joins_congr fun q _ => holds_normalize q

/-! ### Queries of formulas -/

/-- If all operands are terms, the terms are all that there is to the operands. -/
theorem eq_map_term {field : String} {qs : List Query} (hfield : ∀ g t, .term g t ∈ qs → g = field)
    (hlength : (qs.filterMap term?).length = qs.length) :
    qs = (qs.filterMap term?).map (.term field) := by
  induction qs with
  | nil => rfl
  | cons q qs ih =>
    have hle := List.length_filterMap_le term? qs
    cases q with
    | term g t =>
      -- A term keeps the lengths in step; any other operand would leave the list of terms too short.
      have hterms : (Query.term g t :: qs).filterMap term? = t :: qs.filterMap term? := rfl
      rw [hterms, List.length_cons, List.length_cons, Nat.add_right_cancel_iff] at hlength
      rw [hterms, List.map_cons, ← ih (fun g t h => hfield g t (.tail _ h)) hlength,
        hfield g t (.head _)]
    | const value =>
      exact absurd (hlength ▸ hle) (Nat.not_succ_le_self _)
    | terms g ts =>
      exact absurd (hlength ▸ hle) (Nat.not_succ_le_self _)
    | node kind operands =>
      exact absurd (hlength ▸ hle) (Nat.not_succ_le_self _)

/-- A disjunction of terms becomes a single lookup with the same meaning. -/
theorem holds_lookups_node {field : String} (kind : Connective) {qs : List Query}
    (hfield : ∀ g t, .term g t ∈ qs → g = field) :
    Holds has ((lookups field).node kind qs) ↔ kind.Joins (Holds has) qs := by
  simp only [lookups]
  split
  · rename_i h
    -- The lengths agree only if every operand is a term, and a lookup asks for one of them.
    obtain ⟨rfl, -, hlength⟩ := h
    have hqs := eq_map_term hfield hlength
    generalize qs.filterMap term? = ts at hqs ⊢
    rw [hqs, Connective.joins_map]
    simp
  · exact holds_node kind qs

/-- The query of a formula looks into one field only. -/
theorem field_of_ofFormula {field g t : String} {f : Formula String}
    (h : ofFormula field f = .term g t) : g = field := by
  unfold ofFormula at h
  cases f with
  | const value =>
    rw [Formula.fold] at h
    cases h
  | atom key value =>
    rw [Formula.fold] at h
    cases h
    rfl
  | node kind key fs =>
    rw [Formula.fold] at h
    simp only [lookups] at h
    split at h <;> cases h

/-- The query of a formula holds of a document if the formula holds of its terms. -/
theorem holds_ofFormula {field : String} {truth : String → Bool}
    (htruth : ∀ t, truth t = true ↔ has field t) (f : Formula String) :
    Holds has (ofFormula field f) ↔ f.Holds truth := by
  match f with
  | .const value =>
    rw [ofFormula, Formula.fold, Formula.holds_const]
    exact holds_const value
  | .atom key t =>
    rw [ofFormula, Formula.fold, Formula.holds_atom, htruth]
    exact holds_term field t
  | .node kind key fs =>
    rw [ofFormula, Formula.fold, Formula.foldList_eq_map, Formula.holds_node]
    -- All terms are of the one field, so they may be looked up together.
    have hfield : ∀ g t, .term g t ∈ fs.map (ofFormula field) → g = field := by
      intro g t hmem
      obtain ⟨f, -, hf⟩ := List.mem_map.mp hmem
      exact field_of_ofFormula hf
    refine (holds_lookups_node kind hfield).trans ?_
    rw [kind.joins_map]
    exact kind.joins_congr fun f _ => holds_ofFormula htruth f

end GramSieve.Query
