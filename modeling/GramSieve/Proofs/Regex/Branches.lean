import GramSieve.Regex.Build

/-!
# What the branches of a choice have in common

* `exists_of_mapM`, `exists_of_mem_of_mapM` — if a step succeeds for every branch, results and branches
  belong to each other.
* `asClass?_cases` — how branches become one class.
* `eq_of_same` — branches that look the same are the same.
* `exists_of_commonParts?` — what is taken out of the branches stands in front of every one.
-/

namespace GramSieve.Regex

/-- If a step succeeds for all, each result comes from one of them. -/
theorem exists_of_mapM {α β : Type} {f : α → Option β} {as : List α} {bs : List β}
    (h : as.mapM f = some bs) : ∀ b ∈ bs, ∃ a ∈ as, f a = some b := by
  induction as generalizing bs with
  | nil =>
    rw [List.mapM_nil] at h
    cases h
    exact List.forall_mem_nil _
  | cons a as ih =>
    rw [List.mapM_cons] at h
    obtain ⟨b, hb, h⟩ := Option.bind_eq_some_iff.mp h
    obtain ⟨bs, hbs, h⟩ := Option.bind_eq_some_iff.mp h
    cases h
    refine List.forall_mem_cons.mpr ⟨⟨a, .head _, hb⟩, fun b hb => ?_⟩
    obtain ⟨a, ha, hb⟩ := ih hbs b hb
    exact ⟨a, .tail _ ha, hb⟩

/-- And each of them has a result. -/
theorem exists_of_mem_of_mapM {α β : Type} {f : α → Option β} {as : List α} {bs : List β}
    (h : as.mapM f = some bs) : ∀ a ∈ as, ∃ b ∈ bs, f a = some b := by
  induction as generalizing bs with
  | nil => exact List.forall_mem_nil _
  | cons a as ih =>
    rw [List.mapM_cons] at h
    obtain ⟨b, hb, h⟩ := Option.bind_eq_some_iff.mp h
    obtain ⟨bs, hbs, h⟩ := Option.bind_eq_some_iff.mp h
    cases h
    refine List.forall_mem_cons.mpr ⟨⟨b, .head _, hb⟩, fun a ha => ?_⟩
    obtain ⟨b, hb, ha⟩ := ih hbs a ha
    exact ⟨b, .tail _ hb, ha⟩

variable {rs : List Regex}

/-- Branches become one class if all are characters, all are bytes, or all are classes. -/
theorem asClass?_cases {r : Regex} (h : asClass? rs = some r) :
    (∃ ns, rs.mapM singleChar? = some ns ∧
      r = mkClass .unicode (CodeSet.normalize (ns.map CodeRange.single))) ∨
    (∃ ns, rs.mapM singleByte? = some ns ∧
      r = mkClass .bytes (CodeSet.normalize (ns.map CodeRange.single))) ∨
    ∃ alphabet sets, rs.mapM (classOver? alphabet) = some sets ∧
      r = mkClass alphabet (CodeSet.normalize sets.flatten) := by
  unfold asClass? at h
  simp only [Option.or_eq_some_iff, Option.map_eq_some_iff] at h
  obtain ⟨ns, hns, rfl⟩ | ⟨-, ⟨ns, hns, rfl⟩ | ⟨-, ⟨sets, hsets, rfl⟩ | ⟨-, sets, hsets, rfl⟩⟩⟩ := h
  · exact .inl ⟨ns, hns, rfl⟩
  · exact .inr (.inl ⟨ns, hns, rfl⟩)
  · exact .inr (.inr ⟨.unicode, sets, hsets, rfl⟩)
  · exact .inr (.inr ⟨.bytes, sets, hsets, rfl⟩)

/-! ### Common parts -/

mutual

/-- Expressions that look the same are the same. -/
theorem eq_of_same {r r' : Regex} (h : beq r r' = true) : r = r' := by
  cases r <;> cases r' <;> simp only [beq, Bool.and_eq_true, beq_iff_eq, reduceCtorEq] at h
  case empty.empty => rfl
  case literal.literal => rw [h]
  case oneOf.oneOf => rw [h.1, h.2]
  case look.look => rw [h]
  case repetition.repetition =>
    obtain ⟨⟨⟨rfl, rfl⟩, rfl⟩, h⟩ := h
    rw [eq_of_same h]
  case capture.capture =>
    obtain ⟨⟨rfl, rfl⟩, h⟩ := h
    rw [eq_of_same h]
  case concat.concat => rw [eq_of_allSame h]
  case alternation.alternation => rw [eq_of_allSame h]

/-- Branches whose parts look the same are the same. -/
theorem eq_of_allSame {rs rs' : List Regex} (h : beqList rs rs' = true) : rs = rs' := by
  cases rs with
  | nil => cases rs' with
    | nil => rfl
    | cons => simp [beqList] at h
  | cons r rs => cases rs' with
    | nil => simp [beqList] at h
    | cons r' rs' =>
      rw [beqList, Bool.and_eq_true] at h
      rw [eq_of_same h.1, eq_of_allSame h.2]

end

/-- What two branches have in common stands in front of both. -/
theorem prefix_of_commonStart (rs rs' : List Regex) :
    commonStart rs rs' <+: rs ∧ commonStart rs rs' <+: rs' := by
  fun_induction commonStart rs rs' with
  | case1 r rs r' rs' hsame ih =>
    rw [← eq_of_same hsame]
    exact ⟨(List.prefix_cons_inj r).mpr ih.1, (List.prefix_cons_inj r).mpr ih.2⟩
  | case2 | case3 => exact ⟨⟨_, rfl⟩, ⟨_, rfl⟩⟩

/-- What is left after comparing with all branches stands in front of every one. -/
theorem prefix_foldl_commonStart (others : List (List Regex)) (first : List Regex) :
    others.foldl commonStart first <+: first ∧
      ∀ rs ∈ others, others.foldl commonStart first <+: rs := by
  induction others generalizing first with
  | nil => exact ⟨List.prefix_rfl, List.forall_mem_nil _⟩
  | cons rs others ih =>
    obtain ⟨hfirst, hothers⟩ := ih (commonStart first rs)
    obtain ⟨hleft, hright⟩ := prefix_of_commonStart first rs
    exact ⟨hfirst.trans hleft, List.forall_mem_cons.mpr ⟨hfirst.trans hright, hothers⟩⟩

/-- What is common to the branches stands in front of every one of them, and there are some. -/
theorem exists_of_commonParts? {common : List Regex} (h : commonParts? rs = some common) :
    rs ≠ [] ∧ ∀ r ∈ rs, ∃ rest, r = .concat (common ++ rest) := by
  obtain ⟨sequences, hsequences, h⟩ := Option.bind_eq_some_iff.mp h
  -- The parts of every branch start with what is left after comparing with all of them.
  have hstart : ∀ parts ∈ sequences, common <+: parts := by
    split at h
    · cases h
    · cases h
      exact List.forall_mem_cons.mpr (prefix_foldl_commonStart _ _)
  refine ⟨?_, fun r hr => ?_⟩
  · rintro rfl
    rw [List.mapM_nil] at hsequences
    cases hsequences
    cases h
  · obtain ⟨parts, hparts, hr⟩ := exists_of_mem_of_mapM hsequences r hr
    obtain ⟨rest, rfl⟩ := hstart parts hparts
    refine ⟨rest, ?_⟩
    split at hr
    · exact congrArg Regex.concat (Option.some.inj hr)
    · cases hr

end GramSieve.Regex
