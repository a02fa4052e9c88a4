import GramSieve.Formula.Disjunction
import GramSieve.Proofs.Formula.NormalForm
import GramSieve.Proofs.Formula.Simplification

/-!
# The disjunction of the leaves

* `Reached.Knows`, `Reached.Walks` — the invariant of a walk: what it knows of has its operands known,
  and nothing that it knows of is a reason to give up.
* `Reached.Walks.done` — when the stack is empty, all that is within the formula was met.
* `Outcome`, `collect_outcome` — a walk finds each leaf once, or has a reason to give up.
* `collect_of_le` — with room for more clauses it finds the same.
* `holds_disjunction` — the disjunction holds wherever the formula does.
* `reduced_disjunction` — it is reduced, too, or gives up.
* `disjunction_of_le` — with room for more clauses it stays the same.
* `disjunction_eq_true`, `disjunction_eq_ofLeaves`, `disjunction_exact` — which formula it is.

A walk notes a composite when it puts its operands on the stack, so what it has met is not closed under
operands before it ends. It is closed up to the stack, and that is what a step keeps.
-/

namespace GramSieve.Formula

variable {α : Type} [DecidableEq α] {reached reached' : Reached α} {f g root : Formula α}
  {fs stack stack' : List (Formula α)} {maxClauses : Nat}

/-! ### What a walk knows of -/

/-- A walk knows of a formula if it has met it or will meet it on the stack, or if it is `false`, which
is not worth a note. -/
def Reached.Knows (reached : Reached α) (stack : List (Formula α)) (f : Formula α) : Prop :=
  f ∈ stack ∨ f ∈ reached.composites ∨ f ∈ reached.leaves ∨ f = .const false

theorem Reached.nodup_leaves (reached : Reached α) : reached.leaves.toList.Nodup :=
  Std.HashSet.distinct_toList.imp fun hne heq => by simp [heq] at hne

/-- The walk that has begun at `root` knows of it and of the operands of all it has met. It has met
nothing outside of `root`, and nothing trivial. -/
structure Reached.Walks (reached : Reached α) (root : Formula α) (stack : List (Formula α)) :
    Prop where
  start : reached.Knows stack root
  within : ∀ f ∈ stack, f ∈ root.subformulas
  leaves : ∀ f ∈ reached.leaves, f ∈ root.subformulas ∧ f.leaf?.isSome = true
  composites : ∀ f ∈ reached.composites, f.kind?.isSome = true ∧ ¬f.IsTrivial
  operands : ∀ f ∈ reached.composites, ∀ g ∈ f.operands, reached.Knows stack g

namespace Reached.Walks

/-- A walk starts with nothing but its formula on the stack. -/
theorem empty (root : Formula α) : Reached.Walks {} root [root] where
  start := .inl (List.mem_singleton_self root)
  within _ hf := List.mem_singleton.mp hf ▸ self_mem_subformulas root
  leaves _ hf := absurd hf Std.HashSet.not_mem_empty
  composites _ hf := absurd hf Std.HashSet.not_mem_empty
  operands _ hf := absurd hf Std.HashSet.not_mem_empty

/-- What the walk knew of without the stack is all that it needs to know. -/
theorem pop (h : reached.Walks root (f :: stack)) (hf : reached.Knows stack f) :
    reached.Walks root stack := by
  have hknows (g : Formula α) (hg : reached.Knows (f :: stack) g) : reached.Knows stack g := by
    obtain hg | hg := hg
    · obtain rfl | hg := List.mem_cons.mp hg
      · exact hf
      · exact .inl hg
    · exact .inr hg
  exact {
    start := hknows root h.start
    within := (List.forall_mem_cons.mp h.within).2
    leaves := h.leaves
    composites := h.composites
    operands := fun f hf g hg => hknows g (h.operands f hf g hg) }

/-- A leaf from the stack is noted. -/
theorem note (h : reached.Walks root (f :: stack)) (hf : f.leaf?.isSome = true) :
    Reached.Walks { reached with leaves := reached.leaves.insert f } root stack := by
  have hmem (g : Formula α) : g ∈ reached.leaves.insert f ↔ f = g ∨ g ∈ reached.leaves := by
    rw [Std.HashSet.mem_insert, beq_iff_eq]
  -- The leaf is on the stack and among the notes now, so it may be taken off the stack.
  have hknows (g : Formula α) (hg : reached.Knows (f :: stack) g) :
      Reached.Knows { reached with leaves := reached.leaves.insert f } (f :: stack) g :=
    hg.imp_right (.imp_right (.imp_left fun hg => (hmem g).mpr (.inr hg)))
  refine Reached.Walks.pop (f := f) ?_ (.inr (.inr (.inl ((hmem f).mpr (.inl rfl)))))
  exact {
    start := hknows root h.start
    within := h.within
    leaves := fun g hg => by
      obtain rfl | hg := (hmem g).mp hg
      · exact ⟨h.within f (.head _), hf⟩
      · exact h.leaves g hg
    composites := h.composites
    operands := fun f hf g hg => hknows g (h.operands f hf g hg) }

/-- A composite from the stack is noted, and its operands take its place. -/
theorem enter {kind : Connective} {key : UInt64}
    (h : reached.Walks root (.node kind key fs :: stack)) (hf : ¬(kind = .and ∧ fs = [])) :
    Reached.Walks { reached with composites := reached.composites.insert (.node kind key fs) } root
      (fs.reverse ++ stack) := by
  have hmem (g : Formula α) : g ∈ reached.composites.insert (.node kind key fs) ↔
      .node kind key fs = g ∨ g ∈ reached.composites := by
    rw [Std.HashSet.mem_insert, beq_iff_eq]
  -- What was known is still known: the composite has moved from the stack to the notes, and all else
  -- is where it was.
  have hknows (g : Formula α) (hg : reached.Knows (.node kind key fs :: stack) g) :
      Reached.Knows { reached with composites := reached.composites.insert (.node kind key fs) }
        (fs.reverse ++ stack) g := by
    obtain hg | hg | hg := hg
    · obtain rfl | hg := List.mem_cons.mp hg
      · exact .inr (.inl ((hmem _).mpr (.inl rfl)))
      · exact .inl (List.mem_append_right _ hg)
    · exact .inr (.inl ((hmem g).mpr (.inr hg)))
    · exact .inr (.inr hg)
  obtain ⟨hself, hstack⟩ := List.forall_mem_cons.mp h.within
  exact {
    start := hknows root h.start
    within := List.forall_mem_append.mpr ⟨fun g hg => mem_subformulas_trans
      (mem_subformulas_of_mem (List.mem_reverse.mp hg) (self_mem_subformulas g)) hself, hstack⟩
    leaves := h.leaves
    composites := fun g hg => by
      obtain rfl | hg := (hmem g).mp hg
      · exact ⟨rfl, hf⟩
      · exact h.composites g hg
    operands := fun g hg f hf => by
      obtain rfl | hg := (hmem g).mp hg
      -- The operands of the new composite are the ones on the stack.
      · exact .inl (List.mem_append_left _ (List.mem_reverse.mpr hf))
      · exact hknows f (h.operands g hg f hf) }

/-! ### The end of a walk -/

/-- When nothing is left on the stack, what is within a known formula is known. -/
theorem knows_subformulas (h : reached.Walks root []) {f : Formula α} (hf : reached.Knows [] f) :
    ∀ g ∈ f.subformulas, reached.Knows [] g := by
  intro g hg
  match f with
  | .const _ | .atom _ _ => rwa [List.mem_singleton.mp hg]
  | .node kind key fs =>
    obtain rfl | ⟨f, hmem, hg⟩ := mem_subformulas_node.mp hg
    · exact hf
    · obtain hf | hf | hf | hf := hf
      · cases hf
      · exact h.knows_subformulas (h.operands _ hf f hmem) g hg
      · cases (h.leaves _ hf).2
      · cases hf

/-- All that is within the formula was met: there is nothing trivial, and these are the leaves. -/
theorem done (h : reached.Walks root []) : (∀ g ∈ root.subformulas, ¬g.IsTrivial) ∧
    ∀ g ∈ root.subformulas, g.leaf?.isSome = true → g ∈ reached.leaves := by
  -- Nothing is on the stack, so each formula within `root` was met as a composite or as a leaf, or is
  -- `false`.
  refine ⟨fun g hg => ?_, fun g hg hleaf => ?_⟩
  · obtain hg | hg | hg | rfl := h.knows_subformulas h.start g hg
    · cases hg
    · exact (h.composites g hg).2
    · have hleaf := (h.leaves g hg).2
      cases g with
      | const | node => cases hleaf
      | atom => exact id
    · exact nofun
  · obtain hg | hg | hg | rfl := h.knows_subformulas h.start g hg
    · cases hg
    · have hkind := (h.composites g hg).1
      cases g with
      | const | atom => cases hkind
      | node => cases hleaf
    · exact hg
    · cases hleaf

/-- No leaf was met that is not there. -/
theorem size_le (h : reached.Walks root stack) : reached.leaves.size ≤ root.distinctLeaves.length := by
  rw [← Std.HashSet.length_toList]
  refine (List.subperm_of_subset reached.nodup_leaves fun g hg => ?_).length_le
  exact mem_distinctLeaves.mpr (h.leaves g (Std.HashSet.mem_toList.mp hg))

end Reached.Walks

/-! ### What a walk finds -/

/-- What a walk over a formula finds: a reason to give up, or that there is none and each leaf once. -/
def Outcome (maxClauses : Nat) (root : Formula α) : Option (List (Formula α)) → Prop
  | none => (∃ g ∈ root.subformulas, g.IsTrivial) ∨ maxClauses < root.distinctLeaves.length
  | some leaves => (∀ g ∈ root.subformulas, ¬g.IsTrivial) ∧ leaves.length ≤ maxClauses ∧
      leaves.Perm root.distinctLeaves

/-- A walk whose leaves do not exceed the limit so far ends with all of them, or with a reason to give
up. -/
theorem collect_outcome (h : reached.Walks root stack) (hsize : reached.leaves.size ≤ maxClauses) :
    Outcome maxClauses root (collect maxClauses stack reached) := by
  -- Each case is one step of the walk: it gives up, drops a formula that it knows of, or notes a new
  -- one.
  fun_induction collect maxClauses stack reached with
  | case1 reached =>
    obtain ⟨htrivial, hleaves⟩ := h.done
    refine ⟨htrivial, Std.HashSet.length_toList.trans_le hsize, ?_⟩
    refine (List.perm_ext_iff_of_nodup reached.nodup_leaves (nodup_distinctLeaves root)).mpr fun g => ?_
    rw [Std.HashSet.mem_toList, mem_distinctLeaves]
    exact ⟨h.leaves g, fun ⟨hg, hleaf⟩ => hleaves g hg hleaf⟩
  | case2 => exact .inl ⟨_, h.within _ (.head _), rfl⟩
  | case3 reached value stack hvalue ih =>
    rw [Bool.not_eq_true] at hvalue
    exact ih (h.pop (.inr (.inr (.inr (congrArg const hvalue))))) hsize
  | case4 reached key value stack leaves hmany =>
    -- The leaves that were met are among the distinct ones, so those are too many as well.
    exact .inr (Nat.lt_of_lt_of_le hmany (h.note rfl).size_le)
  | case5 reached key value stack leaves hfew ih => exact ih (h.note rfl) (Nat.le_of_not_lt hfew)
  | case6 reached kind key fs stack hseen ih => exact ih (h.pop (.inr (.inl hseen))) hsize
  | case7 reached kind key fs stack hnew hempty => exact .inl ⟨_, h.within _ (.head _), hempty⟩
  | case8 reached kind key fs stack hnew hempty composites ih =>
    rw [List.unattach_reverse, List.unattach_attach] at ih
    exact ih (h.enter hempty) hsize

/-- With room for more clauses, a walk that finds the leaves finds the same ones. -/
theorem collect_of_le {more : Nat} {leaves : List (Formula α)} (hle : maxClauses ≤ more)
    (h : collect maxClauses stack reached = some leaves) :
    collect more stack reached = some leaves := by
  -- Only the step that notes a leaf looks at the limit.
  fun_induction collect maxClauses stack reached with
  | case1 reached => rw [collect, h]
  | case2 => cases h
  | case3 reached value stack hvalue ih => rw [collect, if_neg hvalue, ih h]
  | case4 => cases h
  | case5 reached key value stack noted hfew ih =>
    rw [collect]
    exact (if_neg fun hmany => hfew (Nat.lt_of_le_of_lt hle hmany)).trans (ih h)
  | case6 reached kind key fs stack hseen ih => rw [collect, if_pos hseen, ih h]
  | case7 => cases h
  | case8 reached kind key fs stack hnew hempty composites ih =>
    rw [List.unattach_reverse, List.unattach_attach] at ih
    rw [collect, if_neg hnew, if_neg hempty]
    exact ih h

/-! ### The disjunction -/

/-- What a walk over a whole formula finds. -/
theorem collect_formula (maxClauses : Nat) (f : Formula α) :
    Outcome maxClauses f (collect maxClauses [f] {}) :=
  collect_outcome (.empty f) (Nat.zero_le maxClauses)

variable [Ord α] [Hinted α] {truth : α → Bool}

/-- The disjunction holds wherever the formula does. -/
theorem holds_disjunction {f : Formula α} (maxClauses : Nat) (h : Holds truth f) :
    Holds truth (f.disjunction maxClauses) := by
  have hfound := collect_formula maxClauses f
  unfold disjunction
  cases hcollect : collect maxClauses [f] {} with
  | none => exact (holds_const true).mpr rfl
  | some leaves =>
    rw [hcollect] at hfound
    obtain ⟨htrivial, -, hleaves⟩ := hfound
    show Holds truth (simplify (composite .or leaves))
    rw [holds_simplify, holds_composite, Connective.joins_or]
    obtain ⟨g, hg, hg'⟩ | ⟨g, hg, hleaf, hholds⟩ := exists_of_holds h
    · exact absurd hg' (htrivial g hg)
    · exact ⟨g, hleaves.mem_iff.mpr (mem_distinctLeaves.mpr ⟨hg, hleaf⟩), hholds⟩

/-- The disjunction of a reduced formula is reduced as well, if it is not too large. -/
theorem reduced_disjunction {f : Formula α} {maxClauses : Nat} (hf : f.Reduced)
    (hconst : f.disjunction maxClauses ≠ .const true) : (f.disjunction maxClauses).Reduced := by
  have hsimple : (f.disjunction maxClauses).Simple := by
    unfold disjunction
    split
    · exact simple_simplify _
    · exact .inl ⟨true, rfl⟩
  have hholds := holds_disjunction maxClauses hf.holds
  refine hsimple.resolve_left ?_
  rintro ⟨value, hvalue⟩
  rw [hvalue, holds_const] at hholds
  exact hconst (hholds ▸ hvalue)

/-- With room for more clauses, a disjunction that is not too large stays the same. -/
theorem disjunction_of_le {f : Formula α} {maxClauses more : Nat} (hle : maxClauses ≤ more)
    (hconst : f.disjunction maxClauses ≠ .const true) :
    f.disjunction more = f.disjunction maxClauses := by
  unfold disjunction at hconst ⊢
  cases hcollect : collect maxClauses [f] {} with
  | none =>
    rw [hcollect] at hconst
    exact absurd rfl hconst
  | some leaves => rw [collect_of_le hle hcollect]

omit [DecidableEq α] [Ord α] [Hinted α] in
/-- There is nothing trivial within a reduced formula. -/
theorem Reduced.not_isTrivial (hf : f.Reduced) : ∀ g ∈ f.subformulas, ¬g.IsTrivial := by
  intro g hg htrivial
  have hreduced := hf.of_mem_subformulas hg
  cases g with
  | const => exact hreduced
  | atom => exact htrivial
  | node kind key fs =>
    obtain ⟨-, rfl⟩ := htrivial
    exact absurd (reduced_node.mp hreduced).1 (Nat.not_succ_le_zero 1)

/-- With a reason to give up, the disjunction is `true`. -/
theorem disjunction_eq_true
    (h : (∃ g ∈ f.subformulas, g.IsTrivial) ∨ maxClauses < f.distinctLeaves.length) :
    f.disjunction maxClauses = .const true := by
  have hfound := collect_formula maxClauses f
  unfold disjunction
  cases hcollect : collect maxClauses [f] {} with
  | none => rfl
  | some leaves =>
    rw [hcollect] at hfound
    obtain ⟨htrivial, hfew, hperm⟩ := hfound
    obtain ⟨g, hg, hg'⟩ | hmany := h
    · exact absurd hg' (htrivial g hg)
    · exact absurd hmany (Nat.not_lt.mpr (hperm.length_eq ▸ hfew))

/-! ### Which formula it is -/

/-- A disjunction of leaves, written as simply as possible. -/
def ofLeaves : List (Formula α) → Formula α
  | [] => .const false
  | [leaf] => leaf
  | leaves => composite .or leaves

/-- A disjunction of leaves is not trivially true, even if there are none. -/
theorem ofLeaves_ne_true (hleaf : ∀ f ∈ fs, f.leaf?.isSome = true) : ofLeaves fs ≠ .const true := by
  match fs with
  | [] => exact nofun
  | [leaf] =>
    rintro rfl
    cases hleaf _ (.head _)
  | _ :: _ :: _ => exact nofun

variable [Std.TransOrd α] [Std.LawfulEqOrd α]

/-- Distinct leaves that become a set are only put in order. -/
theorem operandSet_perm (hfs : fs.Nodup) : (operandSet fs).Perm fs :=
  (List.perm_ext_iff_of_nodup (nodup_operandSet fs) hfs).mpr fun _ => mem_operandSet

/-- Joining distinct leaves is writing their disjunction. -/
theorem join_leaves (hfs : fs.Nodup) (hleaf : ∀ f ∈ fs, f.leaf?.isSome = true) :
    join .or (operandSet fs) = ofLeaves fs := by
  have hflatten : flatten .or (operandSet fs) = .inr (operandSet fs) := by
    refine flatten_eq_self fun f hf => ?_
    obtain ⟨hkind, hreduced⟩ := reduced_of_leaf (hleaf f (mem_operandSet.mp hf))
    exact ⟨by rw [hkind]; exact (Option.some_ne_none _).symm, hreduced⟩
  have hperm := operandSet_perm hfs
  simp only [join, hflatten, operands_composite, operandSet_operandSet]
  obtain _ | ⟨leaf, _ | ⟨leaf', rest⟩⟩ := fs
  · rw [List.perm_nil.mp hperm, ofLeaves, Connective.unit]
  · rw [List.perm_singleton.mp hperm, ofLeaves]
  · -- Several leaves become a set of as many.
    have hlength := hperm.length_eq
    cases hform : operandSet (leaf :: leaf' :: rest) with
    | nil => simp [hform] at hlength
    | cons g tail =>
      cases tail with
      | nil => simp [hform] at hlength
      | cons g' rest' =>
        show composite .or (g :: g' :: rest') = composite .or (leaf :: leaf' :: rest)
        rw [← hform]
        exact composite_congr .or fun f => mem_operandSet

/-- Nothing is left to simplify in a disjunction of distinct leaves but that it may have too few. -/
theorem simplify_composite_leaves (hfs : fs.Nodup) (hleaf : ∀ f ∈ fs, f.leaf?.isSome = true) :
    simplify (composite .or fs) = ofLeaves fs := by
  have hkind : ∀ f ∈ operandSet fs, f.kind? = none := fun f hf =>
    (reduced_of_leaf (hleaf f (mem_operandSet.mp hf))).1
  have hmap : (operandSet fs).map simplify = operandSet fs :=
    (List.map_congr_left fun f hf => simplify_of_kind?_eq_none (hkind f hf)).trans (List.map_id _)
  have hjoin := join_leaves hfs hleaf
  have hnone : factored? .or (operandSet fs) = none := by
    refine factored?_eq_none fun _ => factor?_eq_none_of_leaves fun f hf => ?_
    rw [hjoin] at hf
    obtain _ | ⟨leaf, _ | ⟨leaf', rest⟩⟩ := fs
    · cases hf
    · -- A leaf on its own has no operands.
      have hleaf := hleaf leaf (.head _)
      cases leaf with
      | const | node => cases hleaf
      | atom => cases hf
    · exact hkind f hf
  show simplify (.node .or _ (operandSet fs)) = _
  rw [simplify_node, hmap, hnone]
  exact hjoin

/-- Without a reason to give up, it is the disjunction of all leaves. -/
theorem disjunction_eq_ofLeaves (htrivial : ∀ g ∈ f.subformulas, ¬g.IsTrivial)
    (hfew : f.distinctLeaves.length ≤ maxClauses) :
    f.disjunction maxClauses = ofLeaves f.distinctLeaves := by
  have hfound := collect_formula maxClauses f
  unfold disjunction
  cases hcollect : collect maxClauses [f] {} with
  | none =>
    rw [hcollect] at hfound
    obtain ⟨g, hg, hg'⟩ | hmany := hfound
    · exact absurd hg' (htrivial g hg)
    · exact absurd hmany (Nat.not_lt.mpr hfew)
  | some leaves =>
    rw [hcollect] at hfound
    obtain ⟨-, -, hperm⟩ := hfound
    show simplify (composite .or leaves) = _
    -- The leaves come in the order of a hash set, but as operands they are sorted.
    rw [composite_congr .or fun _ => hperm.mem_iff]
    exact simplify_composite_leaves (nodup_distinctLeaves f) fun g hg => (mem_distinctLeaves.mp hg).2

/-- **The disjunction of the leaves.** It is `true` just if something within the formula holds anyway or
there are more leaves than allowed. Otherwise it is the disjunction of all leaves, each once: `false`
if there is none, and the leaf if there is one. And in any case it holds wherever the formula does. -/
theorem disjunction_exact (maxClauses : Nat) (f : Formula α) :
    (f.disjunction maxClauses = .const true ↔
      (∃ g ∈ f.subformulas, g.IsTrivial) ∨ maxClauses < f.distinctLeaves.length) ∧
    (f.disjunction maxClauses ≠ .const true → f.disjunction maxClauses = ofLeaves f.distinctLeaves) ∧
    ∀ truth, f.evaluate truth = true → (f.disjunction maxClauses).evaluate truth = true := by
  have hsound (truth : α → Bool) (hf : f.evaluate truth = true) :
      (f.disjunction maxClauses).evaluate truth = true :=
    (evaluate_iff _).mpr (holds_disjunction maxClauses ((evaluate_iff f).mp hf))
  -- A disjunction of leaves is not `true`, so `true` always means that there was a reason to give up.
  by_cases hgive : (∃ g ∈ f.subformulas, g.IsTrivial) ∨ maxClauses < f.distinctLeaves.length
  · have htrue := disjunction_eq_true hgive
    exact ⟨iff_of_true htrue hgive, fun hne => absurd htrue hne, hsound⟩
  · obtain ⟨htrivial, hfew⟩ := not_or.mp hgive
    have hform := disjunction_eq_ofLeaves (fun g hg hg' => htrivial ⟨g, hg, hg'⟩) (Nat.le_of_not_lt hfew)
    refine ⟨iff_of_false ?_ hgive, fun _ => hform, hsound⟩
    rw [hform]
    exact ofLeaves_ne_true fun g hg => (mem_distinctLeaves.mp hg).2

/-- A shared leaf and a repeated one, with just as many leaves allowed as there are. -/
theorem disjunction_exact_shared :
    let f : Formula Nat := composite .and [composite .or [leaf 1, leaf 2],
      composite .or [leaf 1, composite .and [leaf 3, leaf 2]]]
    Std.TransOrd Nat ∧ Std.LawfulEqOrd Nat ∧
      (f.disjunction 3 = .const true ↔
        (∃ g ∈ f.subformulas, g.IsTrivial) ∨ 3 < f.distinctLeaves.length) ∧
      (f.disjunction 3 ≠ .const true → f.disjunction 3 = ofLeaves f.distinctLeaves) ∧
      ∀ truth, f.evaluate truth = true → (f.disjunction 3).evaluate truth = true :=
  ⟨inferInstance, inferInstance, disjunction_exact 3 _⟩

end GramSieve.Formula
