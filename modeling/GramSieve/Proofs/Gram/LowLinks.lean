import GramSieve.Proofs.Gram.StronglyConnected
import Mathlib.Data.List.Nodup
import Mathlib.Order.Nat

namespace GramSieve.Gram

/-!
# Low links

A depth-first walk gives the nodes numbers in the order in which it enters them, and low links. What
holds of these is stated here for any numbers and links, of the nodes on a stack and of those among them
that are active, which means entered and not left. The latest node is in front.

* `Links` — a low link is the number of a node that is led to, the same node only if it is active, and
  what the nodes above an active one link to is handed down to it.
* `Links.enter`, `Links.lower`, `Links.leave`, `Links.cut` — what a walk does keeps it so.
* `Links.le_low` — no node above the last active one has a lower link.
* `Links.reaches_last` — if that node links to none before it, it and the nodes above it reach each
  other.
-/

open Relation Function

/-- What holds of the numbers and the low links of the nodes on a stack. A node that is not active leads
to one before it, which is what its low link is for. -/
structure Links (g : Successors) (num low : Nat → Nat) (stack active : List Nat) : Prop where
  sorted : stack.Pairwise fun u v => num v < num u
  nested : active.Sublist stack
  /-- An active node leads to whatever was entered after it. -/
  reaches : ∀ c ∈ active, ∀ u ∈ stack, num c ≤ num u → g.Reaches c u
  /-- A low link is the number of a node that is led to. -/
  linked : ∀ v ∈ stack, low v ≤ num v ∧ ∃ u ∈ stack, num u = low v ∧ g.Reaches v u
  low_lt : ∀ v ∈ stack, v ∉ active → low v < num v
  /-- A low link is taken up by the last active node before. -/
  taken : ∀ c ∈ active, ∀ u ∈ stack, num c ≤ num u →
    low c ≤ low u ∨ ∃ d ∈ active, num c < num d ∧ num d ≤ num u
  covered : ∀ u ∈ stack, ∃ c ∈ active, num c ≤ num u

/-- Lowering one entry raises none. -/
theorem update_min_le (low : Nat → Nat) (v n u : Nat) : update low v (min (low v) n) u ≤ low u := by
  by_cases hu : u = v
  · rw [hu, update_self]
    exact min_le_left _ _
  · rw [update_of_ne hu]

namespace Links

variable {g : Successors} {num low : Nat → Nat} {stack active : List Nat} {v : Nat}

theorem empty (g : Successors) (num low : Nat → Nat) : Links g num low [] [] := by
  constructor <;> simp

theorem mem_stack (h : Links g num low stack active) {c : Nat} (hc : c ∈ active) : c ∈ stack :=
  h.nested.subset hc

/-- Nodes on the stack have different numbers. -/
theorem eq_of_num_eq (h : Links g num low stack active) {u w : Nat} (hu : u ∈ stack)
    (hw : w ∈ stack) (heq : num u = num w) : u = w := by
  have hnodup : (stack.map num).Nodup :=
    List.pairwise_map.mpr (h.sorted.imp fun hlt => Nat.ne_of_gt hlt)
  exact List.inj_on_of_nodup_map hnodup hu hw heq

/-- So of two of them, one has the smaller number. -/
theorem num_lt (h : Links g num low stack active) {u w : Nat} (hu : u ∈ stack) (hw : w ∈ stack)
    (hne : u ≠ w) (hle : num u ≤ num w) : num u < num w :=
  lt_of_le_of_ne hle fun heq => hne (h.eq_of_num_eq hu hw heq)

/-- The last active node was entered after the others. -/
theorem num_lt_last (h : Links g num low stack (v :: active)) {c : Nat} (hc : c ∈ active) :
    num c < num v :=
  (List.pairwise_cons.mp (h.sorted.sublist h.nested)).1 c hc

/-- The calls in progress have numbers in ascending order, the last one the largest. -/
theorem num_le_last (h : Links g num low stack (v :: active)) {c : Nat} (hc : c ∈ v :: active) :
    num c ≤ num v := by
  obtain rfl | hc := List.mem_cons.mp hc
  · exact le_rfl
  · exact (h.num_lt_last hc).le

/-! ### Steps of a walk -/

/-- Only the numbers and the links of the nodes on the stack matter. -/
theorem congr (h : Links g num low stack active) {num' low' : Nat → Nat}
    (hnum : ∀ u ∈ stack, num' u = num u) (hlow : ∀ u ∈ stack, low' u = low u) :
    Links g num' low' stack active := by
  -- Nodes in progress are on the stack, so their numbers are the same as well.
  have hactive {c : Nat} (hc : c ∈ active) : num' c = num c := hnum c (h.mem_stack hc)
  refine ⟨?_, h.nested, ?_, ?_, ?_, ?_, ?_⟩
  · refine h.sorted.imp_of_mem fun hu hw hlt => ?_
    rwa [hnum _ hu, hnum _ hw]
  · intro c hc u hu hle
    rw [hactive hc, hnum u hu] at hle
    exact h.reaches c hc u hu hle
  · intro u hu
    obtain ⟨hle, x, hx, heq, hux⟩ := h.linked u hu
    rw [hnum u hu, hlow u hu]
    exact ⟨hle, x, hx, (hnum x hx).trans heq, hux⟩
  · intro u hu hnot
    rw [hnum u hu, hlow u hu]
    exact h.low_lt u hu hnot
  · intro c hc u hu hle
    rw [hactive hc, hnum u hu] at hle
    rw [hlow c (h.mem_stack hc), hlow u hu, hactive hc, hnum u hu]
    refine (h.taken c hc u hu hle).imp_right ?_
    rintro ⟨d, hd, hbetween⟩
    exact ⟨d, hd, by rwa [hactive hd]⟩
  · intro u hu
    obtain ⟨c, hc, hle⟩ := h.covered u hu
    exact ⟨c, hc, by rwa [hactive hc, hnum u hu]⟩

/-- A node is entered that all active nodes lead to. It has the highest number, as its low link too. -/
theorem enter (h : Links g num low stack active) (hhigh : ∀ u ∈ stack, num u < num v)
    (hlow : low v = num v) (hreach : ∀ c ∈ active, g.Reaches c v) :
    Links g num low (v :: stack) (v :: active) := by
  refine ⟨.cons hhigh h.sorted, h.nested.cons_cons v, ?_, ?_, ?_, ?_, ?_⟩
  · intro c hc u hu hle
    obtain rfl | hold := List.mem_cons.mp hu
    · obtain rfl | hc := List.mem_cons.mp hc
      · exact .refl
      · exact hreach c hc
    · obtain rfl | hc := List.mem_cons.mp hc
      · exact absurd (hhigh u hold) (Nat.not_lt_of_le hle)
      · exact h.reaches c hc u hold hle
  · intro u hu
    obtain rfl | hu := List.mem_cons.mp hu
    · exact ⟨hlow.le, u, .head _, hlow.symm, .refl⟩
    · obtain ⟨hle, x, hx, hway⟩ := h.linked u hu
      exact ⟨hle, x, .tail _ hx, hway⟩
  · intro u hu hnot
    rw [List.mem_cons, not_or] at hnot
    exact h.low_lt u ((List.mem_cons.mp hu).resolve_left hnot.1) hnot.2
  · intro c hc u hu hle
    obtain rfl | hold := List.mem_cons.mp hu
    · -- The new node is itself between an active node before it and itself.
      obtain rfl | hc := List.mem_cons.mp hc
      · exact .inl le_rfl
      · exact .inr ⟨u, .head _, hhigh c (h.mem_stack hc), le_rfl⟩
    · obtain rfl | hc := List.mem_cons.mp hc
      · exact absurd (hhigh u hold) (Nat.not_lt_of_le hle)
      · refine (h.taken c hc u hold hle).imp_right ?_
        rintro ⟨d, hd, hbetween⟩
        exact ⟨d, .tail _ hd, hbetween⟩
  · intro u hu
    obtain rfl | hu := List.mem_cons.mp hu
    · exact ⟨u, .head _, le_rfl⟩
    · obtain ⟨c, hc, hle⟩ := h.covered u hu
      exact ⟨c, .tail _ hc, hle⟩

/-- The low link of an active node is lowered to the number of a node that it leads to. -/
theorem lower (h : Links g num low stack active) {x : Nat} (hv : v ∈ active) (hx : x ∈ stack)
    (hvx : g.Reaches v x) : Links g num (update low v (min (low v) (num x))) stack active := by
  refine ⟨h.sorted, h.nested, h.reaches, ?_, ?_, ?_, h.covered⟩
  · intro u hu
    refine ⟨(update_min_le low v _ u).trans (h.linked u hu).1, ?_⟩
    by_cases huv : u = v
    · subst huv
      rw [update_self]
      by_cases hle : low u ≤ num x
      · rw [min_eq_left hle]
        exact (h.linked u hu).2
      · rw [min_eq_right (Nat.le_of_not_le hle)]
        exact ⟨x, hx, rfl, hvx⟩
    · rw [update_of_ne huv]
      exact (h.linked u hu).2
  · intro u hu hnot
    exact (update_min_le low v _ u).trans_lt (h.low_lt u hu hnot)
  · intro c hc u hu hle
    by_cases huv : u = v
    · -- Only the node itself and the active ones before it are concerned, and it is active.
      subst huv
      by_cases hcu : c = u
      · rw [hcu]
        exact .inl le_rfl
      · exact .inr ⟨u, hv, h.num_lt (h.mem_stack hc) hu hcu hle, le_rfl⟩
    · rw [update_of_ne huv]
      exact (h.taken c hc u hu hle).imp_left (update_min_le low v _ c).trans

/-- No node above the last active one has a lower link. -/
theorem le_low (h : Links g num low stack (v :: active)) {u : Nat} (hu : u ∈ stack)
    (hle : num v ≤ num u) : low v ≤ low u := by
  refine (h.taken v (.head _) u hu hle).resolve_right ?_
  rintro ⟨d, hd, hlt, -⟩
  exact Nat.not_le_of_lt hlt (h.num_le_last hd)

/-- The last active node is left and stays on the stack. The one before it has taken its low link up. -/
theorem leave (h : Links g num low stack (v :: active)) (hlt : low v < num v)
    (hlast : ∀ c ∈ active.head?, low c ≤ low v) : Links g num low stack active := by
  obtain ⟨x, hx, hxlow, -⟩ := (h.linked v (h.mem_stack (.head _))).2
  have hbelow : num x < num v := hxlow ▸ hlt
  cases active with
  | nil =>
    -- The first active node of all leads to none before it.
    obtain ⟨c, hc, hle⟩ := h.covered x hx
    rw [List.mem_singleton.mp hc] at hle
    exact absurd hbelow (Nat.not_lt_of_le hle)
  | cons p active =>
    have hpv : num p < num v := h.num_lt_last (.head _)
    have hnested := (List.sublist_cons_self v _).trans h.nested
    refine ⟨h.sorted, hnested, fun c hc => h.reaches c (.tail _ hc), h.linked, ?_, ?_, ?_⟩
    · intro u hu hnot
      by_cases huv : u = v
      · rwa [huv]
      · exact h.low_lt u hu fun hmem => hnot ((List.mem_cons.mp hmem).resolve_left huv)
    · intro c hc u hu hle
      obtain hlow | ⟨d, hd, hcd, hdu⟩ := h.taken c (.tail _ hc) u hu hle
      · exact .inl hlow
      · obtain rfl | hd := List.mem_cons.mp hd
        · -- Between the nodes lies the one that is left, and before it the one that took its link up.
          by_cases hcp : c = p
          · rw [hcp]
            exact .inl ((hlast p rfl).trans (h.le_low hu hdu))
          · have hlt : num c < num p := by
              have hsorted := List.pairwise_cons.mp (h.sorted.sublist hnested)
              exact hsorted.1 c ((List.mem_cons.mp hc).resolve_left hcp)
            exact .inr ⟨p, .head _, hlt, hpv.le.trans hdu⟩
        · exact .inr ⟨d, hd, hcd, hdu⟩
    · intro u hu
      obtain ⟨c, hc, hle⟩ := h.covered u hu
      obtain rfl | hc := List.mem_cons.mp hc
      · exact ⟨p, .head _, hpv.le.trans hle⟩
      · exact ⟨c, hc, hle⟩

/-! ### The part of the stack from the last active node on -/

variable {above below : List Nat}

/-- What is further down on the stack has a smaller number. -/
theorem num_lt_of_mem_below (h : Links g num low (above ++ v :: below) active) {u : Nat}
    (hu : u ∈ below) : num u < num v :=
  (List.pairwise_cons.mp (List.pairwise_append.mp h.sorted).2.1).1 u hu

/-- The nodes above a call, with its own, are those whose numbers are not smaller. -/
theorem mem_above_iff (h : Links g num low (above ++ v :: below) active) {u : Nat} :
    u ∈ above ++ [v] ↔ u ∈ above ++ v :: below ∧ num v ≤ num u := by
  have habove (hu : u ∈ above) : num v < num u :=
    (List.pairwise_append.mp h.sorted).2.2 u hu v (.head _)
  constructor
  · intro hu
    obtain hu | hu := List.mem_append.mp hu
    · exact ⟨List.mem_append_left _ hu, (habove hu).le⟩
    · rw [List.mem_singleton.mp hu]
      exact ⟨List.mem_append_right _ (.head _), le_rfl⟩
  · rintro ⟨hu, hle⟩
    rw [List.append_cons] at hu
    refine (List.mem_append.mp hu).resolve_right fun hu => ?_
    exact Nat.not_lt_of_le hle (h.num_lt_of_mem_below hu)

/-- The last active node is left, and it and what is above it are taken off the stack. -/
theorem cut (h : Links g num low (above ++ v :: below) (v :: active)) :
    Links g num low below active := by
  have hstack {u : Nat} (hu : u ∈ below) : u ∈ above ++ v :: below :=
    List.mem_append_right _ (.tail _ hu)
  have hbelow {u : Nat} (hu : u ∈ above ++ v :: below) (hlt : num u < num v) : u ∈ below := by
    rw [List.append_cons] at hu
    refine (List.mem_append.mp hu).resolve_left fun hu => ?_
    exact Nat.not_le_of_lt hlt (h.mem_above_iff.mp hu).2
  have hactive {c u : Nat} (hu : u ∈ below) (hc : c ∈ v :: active) (hle : num c ≤ num u) :
      c ∈ active := by
    obtain rfl | hc := List.mem_cons.mp hc
    · exact absurd (h.num_lt_of_mem_below hu) (Nat.not_lt_of_le hle)
    · exact hc
  refine ⟨(List.pairwise_cons.mp (List.pairwise_append.mp h.sorted).2.1).2, ?_, ?_, ?_, ?_, ?_, ?_⟩
  · -- The active nodes that are left are the nodes of a sublist with lower numbers.
    have hfilter := h.nested.filter fun u => decide (num u < num v)
    have hleft : (v :: active).filter (fun u => decide (num u < num v)) = active := by
      rw [List.filter_cons_of_neg (by simp), List.filter_eq_self]
      exact fun c hc => decide_eq_true (h.num_lt_last hc)
    have hright : (above ++ v :: below).filter (fun u => decide (num u < num v)) = below := by
      have hnone : (above ++ [v]).filter (fun u => decide (num u < num v)) = [] := by
        rw [List.filter_eq_nil_iff]
        intro u hu
        simpa using (h.mem_above_iff.mp hu).2
      rw [List.append_cons, List.filter_append, hnone, List.nil_append, List.filter_eq_self]
      exact fun u hu => decide_eq_true (h.num_lt_of_mem_below hu)
    rwa [hleft, hright] at hfilter
  · exact fun c hc u hu => h.reaches c (.tail _ hc) u (hstack hu)
  · intro u hu
    obtain ⟨hle, x, hx, heq, hux⟩ := h.linked u (hstack hu)
    have hlt : num x < num v := heq ▸ hle.trans_lt (h.num_lt_of_mem_below hu)
    exact ⟨hle, x, hbelow hx hlt, heq, hux⟩
  · intro u hu hnot
    refine h.low_lt u (hstack hu) fun hmem => hnot (hactive hu hmem le_rfl)
  · intro c hc u hu hle
    refine (h.taken c (.tail _ hc) u (hstack hu) hle).imp_right ?_
    rintro ⟨d, hd, hcd, hdu⟩
    exact ⟨d, hactive hu hd hdu, hcd, hdu⟩
  · intro u hu
    obtain ⟨c, hc, hle⟩ := h.covered u (hstack hu)
    exact ⟨c, hactive hu hc hle, hle⟩

/-- If the last active node leads to none before it, then it and the nodes above it lead to each other. -/
theorem reaches_last (h : Links g num low stack (v :: active)) (hlow : low v = num v) {u : Nat}
    (hu : u ∈ stack) (hle : num v ≤ num u) : g.Reaches v u ∧ g.Reaches u v := by
  refine ⟨h.reaches v (.head _) u hu hle, ?_⟩
  -- By induction on the number: the low link leads to a node with a lower one, but not below `v`.
  induction hnum : num u using Nat.strong_induction_on generalizing u with
  | _ n ih =>
    subst hnum
    have hv := h.mem_stack (.head _)
    by_cases huv : u = v
    · rw [huv]
      exact .refl
    · have hnot : u ∉ v :: active := fun hmem =>
        huv (h.eq_of_num_eq hu hv ((h.num_le_last hmem).antisymm hle))
      obtain ⟨x, hx, heq, hux⟩ := (h.linked u hu).2
      have hxv : num v ≤ num x := by
        rw [heq, ← hlow]
        exact h.le_low hu hle
      have hxu : num x < num u := heq ▸ h.low_lt u hu hnot
      exact hux.trans (ih _ hxu hx hxv rfl)

end Links

end GramSieve.Gram
