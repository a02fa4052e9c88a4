import GramSieve.Proofs.Gram.LowLinks
import GramSieve.Proofs.Gram.Walk
import Mathlib.Data.List.Permutation

namespace GramSieve.Gram

/-!
# The components that a walk finds

* `Seen` — an edge that was looked at.
* `Walk.Valid` — the books of a walk agree, its low links are those of the nodes on the stack, and the
  components it has found are settled and strongly connected.
* `Walk.Valid.step`, `Walk.Valid.run` — it stays so, step by step.
* `Walk.Valid.entered_iff_of_done` — when no call is open, what was entered is in the components.
* `components_settled`, `components_stronglyConnected`, `exists_mem_components` — the components of a
  graph, as they are used.
* `components_exact` — they partition the nodes, by which nodes reach each other, in the order of the
  edges.
-/

open Relation Function

/-- An edge that was looked at, since it is not ahead of a call. -/
def Seen (g : Successors) (calls : List Call) (v target : Nat) : Prop :=
  g.Edge v target ∧ ∀ call ∈ calls, call.node = v → target ∉ call.ahead

variable {g : Successors} {calls : List Call} {v target : Nat}

/-- What is seen while a call runs is seen by the calls below it once it is done. -/
theorem Seen.of_cons {call : Call} {calls : List Call} {v target : Nat}
    (h : Seen g (call :: calls) v target) : Seen g calls v target :=
  ⟨h.1, fun c hc => h.2 c (.tail _ hc)⟩

/-- A call with nothing ahead hides no edge. -/
theorem Seen.cons {calls : List Call} {u v target : Nat} (h : Seen g calls v target) :
    Seen g (⟨u, []⟩ :: calls) v target := by
  refine ⟨h.1, List.forall_mem_cons.mpr ⟨fun _ => ?_, h.2⟩⟩
  exact List.not_mem_nil

/-- What was seen before a call goes on, and what it goes on to. -/
theorem Seen.of_advance {before after : List Call} {u v t target : Nat} {ahead : List Nat}
    (h : Seen g (before ++ ⟨u, ahead⟩ :: after) v target) :
    Seen g (before ++ ⟨u, t :: ahead⟩ :: after) v target ∨ v = u ∧ target = t := by
  by_cases heq : v = u ∧ target = t
  · exact .inr heq
  · refine .inl ⟨h.1, fun call hcall hnode => ?_⟩
    -- The calls other than that of `u` have the same edges ahead as before.
    have hother {c : Call} (hc : c ∈ before ∨ c ∈ after) (hnode : c.node = v) : target ∉ c.ahead := by
      refine h.2 c (List.mem_append.mpr ?_) hnode
      exact hc.imp_right (.tail _)
    rw [List.mem_append, List.mem_cons] at hcall
    obtain hcall | rfl | hcall := hcall
    · exact hother (.inl hcall) hnode
    · have hnot : target ∉ ahead := h.2 ⟨u, ahead⟩ (by simp) hnode
      rw [List.mem_cons, not_or]
      exact ⟨fun ht => heq ⟨hnode.symm, ht⟩, hnot⟩
    · exact hother (.inr hcall) hnode

namespace Walk

variable {w : Walk} {u v t : Nat} {ahead : List Nat} {calls : List Call}

/-- What holds of a walk between two steps. -/
structure Valid (g : Successors) (w : Walk) : Prop extends w.Books g where
  ahead_edge : ∀ call ∈ w.calls, ∀ target ∈ call.ahead, g.Edge call.node target
  links : Links g w.number w.lowLink w.stack w.active
  /-- No low link overlooks an edge that was looked at. -/
  seen : ∀ v ∈ w.stack, ∀ target, Seen g w.calls v target →
    w.Entered target ∧ (target ∈ w.stack → w.lowLink v ≤ w.number target)
  settled : Settled g w.found
  reaches : ∀ component ∈ w.found, ∀ u ∈ component, ∀ v ∈ component, g.Reaches u v
  nonempty : [] ∉ w.found

/-- The call that runs is the last one in progress. -/
theorem active_of_calls (hcalls : w.calls = ⟨v, ahead⟩ :: calls) :
    w.active = v :: calls.map Call.node := by
  rw [active, hcalls, List.map_cons]

/-- Before the walk no node was entered, so there is nothing to be wrong. -/
theorem valid_start (g : Successors) : (start g.size).Valid g where
  toBooks := books_start g
  ahead_edge := nofun
  links := .empty _ _ _
  seen := nofun
  settled := .nil
  reaches := nofun
  nonempty := List.not_mem_nil

namespace Valid

theorem mem_stack (h : w.Valid g) (hv : v ∈ w.active) : v ∈ w.stack := h.links.mem_stack hv

theorem lt_size_of_mem (h : w.Valid g) (hv : v ∈ w.stack) : v < g.size :=
  h.lt_size (h.entered_of_mem hv)

/-- The links are those of the running call and of the calls below it. -/
theorem links_of_calls (h : w.Valid g) (hcalls : w.calls = ⟨v, ahead⟩ :: calls) :
    Links g w.number w.lowLink w.stack (v :: calls.map Call.node) := by
  have hlinks := h.links
  rwa [active_of_calls hcalls] at hlinks

/-! ### Looking at a successor -/

/-- A new node is entered that the open calls lead to. -/
theorem enter (h : w.Valid g) (hv : v < g.size) (hnew : ¬w.Entered v)
    (hreach : ∀ c ∈ w.active, g.Reaches c v) : (w.enter g v).Valid g := by
  have hindex : v < w.index.size := h.size_index ▸ hv
  have hlow : v < w.low.size := h.size_low ▸ hv
  have hne {u : Nat} (hu : w.Entered u) : u ≠ v := fun heq => hnew (heq ▸ hu)
  have hnumber {u : Nat} (hu : w.Entered u) : (w.enter g v).number u = w.number u := by
    rw [number_enter hindex, update_of_ne (hne hu)]
  have hlink {u : Nat} (hu : u ∈ w.stack) : (w.enter g v).lowLink u = w.lowLink u := by
    rw [lowLink_enter hlow, update_of_ne (hne (h.entered_of_mem hu))]
  have hself : (w.enter g v).number v = w.next := by rw [number_enter hindex, update_self]
  refine
    { toBooks := h.toBooks.enter hv hnew
      ahead_edge := List.forall_mem_cons.mpr ⟨fun _ htarget => htarget, h.ahead_edge⟩
      links := ?_, seen := ?_, settled := h.settled, reaches := h.reaches, nonempty := h.nonempty }
  · refine (h.links.congr (fun u hu => hnumber (h.entered_of_mem hu)) fun u hu => hlink hu).enter
      (fun u hu => ?_) ?_ hreach
    · rw [hnumber (h.entered_of_mem hu), hself]
      exact h.number_lt u hu
    · rw [hself, lowLink_enter hlow, update_self]
  · intro u hu target hseen
    obtain rfl | hu := List.mem_cons.mp hu
    · -- All edges of the new node are ahead of its call.
      exact absurd hseen.1 (hseen.2 _ (.head _) rfl)
    · obtain ⟨hentered, hle⟩ := h.seen u hu target hseen.of_cons
      refine ⟨(entered_enter hindex).mpr (.inr hentered), fun hmem => ?_⟩
      rw [hlink hu, hnumber hentered]
      exact hle ((List.mem_cons.mp hmem).resolve_left (hne hentered))

/-- The low link of an active node is lowered to the number of a node that it leads to. -/
theorem lower (h : w.Valid g) (hv : v ∈ w.active) (hu : u ∈ w.stack) (hvu : g.Reaches v u) :
    (w.lower v (w.number u)).Valid g := by
  have hlow : v < w.low.size := h.size_low ▸ h.lt_size_of_mem (h.mem_stack hv)
  have hlink := lowLink_lower (n := w.number u) hlow
  refine
    { toBooks := h.toBooks.lower v _, ahead_edge := h.ahead_edge
      links := ?_, seen := ?_, settled := h.settled, reaches := h.reaches, nonempty := h.nonempty }
  · rw [hlink]
    exact h.links.lower hv hu hvu
  · intro x hx target hseen
    obtain ⟨hentered, hle⟩ := h.seen x hx target hseen
    refine ⟨hentered, fun hmem => ?_⟩
    rw [hlink]
    exact (update_min_le _ _ _ _).trans (hle hmem)

/-- A call goes on past a successor that its low link does not overlook. -/
theorem advance (h : w.Valid g) (before : List Call) {after : List Call}
    (hcalls : w.calls = before ++ ⟨v, t :: ahead⟩ :: after) (ht : w.Entered t)
    (hle : t ∈ w.stack → w.lowLink v ≤ w.number t) :
    Valid g { w with calls := before ++ ⟨v, ahead⟩ :: after } := by
  have hactive : active { w with calls := before ++ ⟨v, ahead⟩ :: after } = w.active := by
    simp [active, hcalls]
  refine
    { toBooks := h.toBooks.withCalls _, ahead_edge := ?_
      links := ?_, seen := ?_, settled := h.settled, reaches := h.reaches, nonempty := h.nonempty }
  -- Fewer edges are ahead, and those were edges before.
  · have hedge := h.ahead_edge
    rw [hcalls] at hedge
    intro call hcall target htarget
    obtain hcall | hcall := List.mem_append.mp hcall
    · exact hedge call (List.mem_append_left _ hcall) target htarget
    · obtain rfl | hcall := List.mem_cons.mp hcall
      · exact hedge ⟨v, t :: ahead⟩ (by simp) target (.tail _ htarget)
      · exact hedge call (List.mem_append_right _ (.tail _ hcall)) target htarget
  · rw [hactive]
    exact h.links
  -- One edge more counts as seen. For all others nothing has changed.
  · intro x hx target hseen
    obtain hseen | ⟨rfl, rfl⟩ := hseen.of_advance (t := t)
    · exact h.seen x hx target (hcalls ▸ hseen)
    · exact ⟨ht, hle⟩

/-- The last call is that of an active node, which all active nodes lead to. -/
theorem last_active (h : w.Valid g) (hcalls : w.calls = ⟨v, ahead⟩ :: calls) :
    v ∈ w.active ∧ ∀ c ∈ w.active, g.Reaches c v := by
  have hlinks := h.links_of_calls hcalls
  rw [active_of_calls hcalls]
  have hv : v ∈ v :: calls.map Call.node := .head _
  exact ⟨hv, fun c hc => hlinks.reaches c hc v (hlinks.mem_stack hv) (hlinks.num_le_last hc)⟩

/-- The next successor of the last call is new and is entered. -/
theorem enter_ahead (h : w.Valid g) (hcalls : w.calls = ⟨v, t :: ahead⟩ :: calls) (ht : t < g.size)
    (hnew : ¬w.Entered t) : Valid g (Walk.enter g t { w with calls := ⟨v, ahead⟩ :: calls }) := by
  obtain ⟨hv, hlast⟩ := h.last_active hcalls
  have hedge : g.Edge v t := h.ahead_edge ⟨v, t :: ahead⟩ (hcalls ▸ .head _) t (.head _)
  have hentered := h.enter ht hnew fun c hc => (hlast c hc).tail hedge
  refine hentered.advance [⟨t, g.getD t []⟩] (congrArg _ hcalls)
    ((entered_enter (h.size_index ▸ ht)).mpr (.inl rfl)) fun _ => ?_
  -- The new node has a higher number than all others.
  have hmem : v ∈ w.stack := h.mem_stack hv
  have hlow := (hentered.links.linked v (.tail _ hmem)).1
  exact hlow.trans ((List.pairwise_cons.mp hentered.links.sorted).1 v hmem).le

/-- The next successor of the last call is on the stack, and the low link takes its number up. -/
theorem lower_ahead (h : w.Valid g) (hcalls : w.calls = ⟨v, t :: ahead⟩ :: calls)
    (hmem : t ∈ w.stack) :
    Valid g (Walk.lower v (w.number t) { w with calls := ⟨v, ahead⟩ :: calls }) := by
  obtain ⟨hv, -⟩ := h.last_active hcalls
  have hedge : g.Edge v t := h.ahead_edge ⟨v, t :: ahead⟩ (hcalls ▸ .head _) t (.head _)
  refine (h.lower hv hmem (.single hedge)).advance [] hcalls (h.entered_of_mem hmem) fun _ => ?_
  rw [lowLink_lower (h.size_low ▸ h.lt_size_of_mem (h.mem_stack hv)), update_self]
  exact min_le_right _ _

/-- The last call looks at its next successor. -/
theorem look (hwithin : ∀ v, ∀ w ∈ g.getD v [], w < g.size) (h : w.Valid g)
    (hcalls : w.calls = ⟨v, t :: ahead⟩ :: calls) :
    Valid g (Walk.look g v t { w with calls := ⟨v, ahead⟩ :: calls }) := by
  have ht : t < g.size :=
    hwithin v t (h.ahead_edge ⟨v, t :: ahead⟩ (hcalls ▸ .head _) t (.head _))
  unfold Walk.look
  split
  · rename_i hnone
    -- A new node is entered, and the edge to it stays ahead until its call ends.
    refine h.enter_ahead hcalls ht ?_
    rintro ⟨i, hi⟩
    rw [show w.index[t]? = some none from hnone] at hi
    cases hi
  · rename_i i hsome
    have hentered : w.Entered t := ⟨i, hsome⟩
    have hi : w.number t = i :=
      Option.some.inj (Option.some.inj (hentered.getElem?.symm.trans hsome))
    split
    · rename_i hon
      rw [← hi]
      exact h.lower_ahead hcalls ((h.onStack_iff t).mp hon)
    -- A node that is off the stack is in a component already and lowers nothing.
    · rename_i hoff
      exact h.advance [] hcalls hentered fun hmem => absurd ((h.onStack_iff t).mpr hmem) hoff
  · rename_i hnone
    have hle := Array.getElem?_eq_none_iff.mp hnone
    rw [show w.index.size = g.size from h.size_index] at hle
    exact absurd ht (Nat.not_lt_of_le hle)

/-! ### Leaving a node -/

/-- The last call is done, its node stays on the stack, and the low link was taken up. -/
theorem leave_open (h : w.Valid g) (hcalls : w.calls = ⟨v, []⟩ :: calls)
    (hlt : w.lowLink v < w.number v)
    (hlast : ∀ c ∈ calls.head?, w.lowLink c.node ≤ w.lowLink v) :
    Valid g { w with calls } := by
  refine
    { toBooks := h.toBooks.withCalls _, ahead_edge := ?_
      links := ?_, seen := ?_, settled := h.settled, reaches := h.reaches, nonempty := h.nonempty }
  · exact fun call hcall => h.ahead_edge call (hcalls ▸ .tail _ hcall)
  · refine (h.links_of_calls hcalls).leave hlt fun c hc => ?_
    rw [List.head?_map] at hc
    obtain ⟨call, hcall, rfl⟩ := Option.map_eq_some_iff.mp hc
    exact hlast call hcall
  · exact fun u hu target hseen => h.seen u hu target (hcalls ▸ hseen.cons)

/-- If the node of a call that is done links to none before it, then no edge leads from it or from a node
above it to one below it. -/
theorem closed_of_lowLink (h : w.Valid g) (hcalls : w.calls = ⟨v, []⟩ :: calls)
    (hlow : w.lowLink v = w.number v) (hu : u ∈ w.stack) (hle : w.number v ≤ w.number u)
    (hedge : g.Edge u t) : (t ∈ w.stack ∧ w.number v ≤ w.number t) ∨ t ∈ w.found.flatten := by
  have hlinks := h.links_of_calls hcalls
  -- The edge was looked at, as the nodes above were left before.
  have hseen : Seen g w.calls u t := by
    rw [hcalls]
    refine Seen.cons ⟨hedge, fun call hcall hnode => ?_⟩
    have hlt := hlinks.num_lt_last (List.mem_map_of_mem hcall)
    exact absurd (hnode ▸ hle) (Nat.not_le_of_lt hlt)
  obtain ⟨hentered, hlink⟩ := h.seen u hu t hseen
  refine ((h.entered_iff t).mp hentered).imp_left fun ht => ⟨ht, ?_⟩
  rw [← hlow]
  exact (hlinks.le_low hu hle).trans (hlink ht)

/-- The last call is done. Its node leads to none before it, so it and what is above it on the stack are
a component. -/
theorem leave_closed (h : w.Valid g) (hcalls : w.calls = ⟨v, []⟩ :: calls)
    (hlow : w.lowLink v = w.number v) : Valid g { w.close v with calls } := by
  have hlinks := h.links_of_calls hcalls
  obtain ⟨above, below, hstack, hv⟩ := List.eq_append_cons_of_mem (hlinks.mem_stack (.head _))
  have hsplit := hlinks
  rw [hstack] at hsplit
  -- What is taken off are the nodes with numbers from that of `v` on. All of them reach `v` and are
  -- reached from it.
  have hmem {u : Nat} : u ∈ above ++ [v] ↔ u ∈ w.stack ∧ w.number v ≤ w.number u := by
    rw [hstack]
    exact hsplit.mem_above_iff
  have hreach {u : Nat} (hu : u ∈ above ++ [v]) : g.Reaches v u ∧ g.Reaches u v :=
    hlinks.reaches_last hlow (hmem.mp hu).1 (hmem.mp hu).2
  have hbooks := (h.toBooks.close hstack hv).withCalls calls
  rw [close_eq hstack hv] at hbooks ⊢
  refine
    { toBooks := hbooks, ahead_edge := ?_, links := hsplit.cut, seen := ?_
      settled := h.settled.cons ?_, reaches := ?_, nonempty := ?_ }
  · exact fun call hcall => h.ahead_edge call (hcalls ▸ .tail _ hcall)
  · intro u hu target hseen
    have hstacked {x : Nat} (hx : x ∈ below) : x ∈ w.stack := by simp [hstack, hx]
    obtain ⟨hentered, hle⟩ := h.seen u (hstacked hu) target (hcalls ▸ hseen.cons)
    exact ⟨hentered, fun hmem => hle (hstacked hmem)⟩
  -- No edge leaves the new component but to components found before.
  · intro u hu target hedge
    obtain ⟨hu, hle⟩ := hmem.mp hu
    obtain htarget | htarget := h.closed_of_lowLink hcalls hlow hu hle hedge
    · exact ⟨_, .head _, hmem.mpr htarget⟩
    · obtain ⟨c, hc, htarget⟩ := List.mem_flatten.mp htarget
      exact ⟨c, .tail _ hc, htarget⟩
  · refine List.forall_mem_cons.mpr ⟨fun u hu x hx => ?_, h.reaches⟩
    exact (hreach hu).2.trans (hreach hx).1
  · show [] ∉ (above ++ [v]) :: w.found
    simp [h.nonempty]

/-- The low link of the node that is left is handed to the call before it. -/
theorem propagate (h : w.Valid g) (hcalls : w.calls = ⟨v, []⟩ :: calls) :
    ∃ w' : Walk, w'.Valid g ∧ w'.calls = ⟨v, []⟩ :: calls ∧
      (∀ c ∈ calls.head?, w'.lowLink c.node ≤ w'.lowLink v) ∧
      Walk.propagate v { w with calls } = { w' with calls } := by
  obtain ⟨hv, hlast⟩ := h.last_active hcalls
  cases calls with
  | nil => exact ⟨w, h, hcalls, by simp, rfl⟩
  | cons parent calls =>
    have hparent : parent.node ∈ w.active := by simp [active, hcalls]
    obtain ⟨-, x, hx, hxlow, hvx⟩ := h.links.linked v (h.mem_stack hv)
    have hlink := lowLink_lower (n := w.number x) (h.size_low ▸ h.lt_size_of_mem (h.mem_stack hparent))
    -- The low link is handed up to the parent, which is another node, so that of `v` stays.
    have hne : v ≠ parent.node := fun heq =>
      ((h.links_of_calls hcalls).num_lt_last (.head _)).ne (congrArg _ heq.symm)
    refine ⟨w.lower parent.node (w.number x),
      h.lower hparent hx ((hlast _ hparent).trans hvx), hcalls, ?_, by rw [hxlow]; rfl⟩
    intro c hc
    obtain rfl := Option.some.inj hc
    rw [hlink, update_self, update_of_ne hne, hxlow]
    exact min_le_right _ _

/-- The last call is done, and its node is left. -/
theorem leave (h : w.Valid g) (hcalls : w.calls = ⟨v, []⟩ :: calls) :
    Valid g (Walk.leave v { w with calls }) := by
  obtain ⟨w', h', hcalls', hlast, heq⟩ := h.propagate hcalls
  have hv : v ∈ w'.stack := h'.mem_stack (h'.last_active hcalls').1
  have hindex : w'.index.getD v none = some (w'.number v) := by
    simp [(h'.entered_of_mem hv).getElem?]
  unfold Walk.leave
  rw [heq]
  show Valid g (if w'.index.getD v none = some (w'.lowLink v) then _ else _)
  split
  · rename_i hfirst
    exact h'.leave_closed hcalls' (Option.some.inj (hfirst.symm.trans hindex))
  · rename_i hfirst
    have hne : w'.lowLink v ≠ w'.number v := fun hlow => hfirst (hindex.trans (congrArg some hlow.symm))
    exact h'.leave_open hcalls' (lt_of_le_of_ne (h'.links.linked v hv).1 hne) hlast

/-! ### The whole walk -/

/-- One step of the walk keeps the invariant: it starts at a new root, looks at a target, or ends a
call. -/
theorem step (hwithin : ∀ v, ∀ w ∈ g.getD v [], w < g.size) (h : w.Valid g) : (w.step g).Valid g := by
  unfold Walk.step
  split
  · exact h
  · rename_i hcalls
    exact h.look hwithin hcalls
  · rename_i hcalls
    exact h.leave hcalls

/-- So the invariant holds when the walk has ended. -/
theorem run (hwithin : ∀ v, ∀ w ∈ g.getD v [], w < g.size) (h : w.Valid g) : (w.run g).Valid g :=
  run_keeps (P := fun w => w.Valid g) (fun _ => step hwithin) h

/-- When no call is open, the nodes that were entered are those of the components. -/
theorem entered_iff_of_done (h : w.Valid g) (hdone : w.calls = []) :
    w.Entered v ↔ v ∈ w.found.flatten := by
  have hempty : v ∉ w.stack := by
    intro hv
    obtain ⟨c, hc, -⟩ := h.links.covered v hv
    simp [active, hdone] at hc
  rw [h.entered_iff, or_iff_right hempty]

end Valid

/-- A walk from a node, between two of which no call is open. -/
theorem Valid.visit (hwithin : ∀ v, ∀ w ∈ g.getD v [], w < g.size) (h : w.Valid g)
    (hdone : w.calls = []) (hv : v < g.size) :
    (w.visit g v).Valid g ∧ (w.visit g v).calls = [] ∧ (w.visit g v).Entered v ∧
      ∀ u, w.Entered u → (w.visit g v).Entered u := by
  have hindex : v < w.index.size := h.size_index ▸ hv
  by_cases hnone : w.index.getD v none = none
  · rw [show w.visit g v = (w.enter g v).run g from if_pos hnone]
    have hnew : ¬w.Entered v := by
      intro hentered
      have hsome := hentered.getElem?
      simp [hsome] at hnone
    -- No call is in progress, so nothing has to reach the new root.
    have hreach : ∀ c ∈ w.active, g.Reaches c v := by simp [active, hdone]
    have hentered {u : Nat} (hu : u = v ∨ w.Entered u) : (w.enter g v).Entered u :=
      (entered_enter hindex).mpr hu
    exact ⟨(h.enter hv hnew hreach).run hwithin, calls_run g _, (hentered (.inl rfl)).run,
      fun u hu => (hentered (.inr hu)).run⟩
  · rw [show w.visit g v = w from if_neg hnone]
    obtain ⟨i, hi⟩ := Option.ne_none_iff_exists'.mp hnone
    refine ⟨h, hdone, ⟨i, ?_⟩, fun _ hu => hu⟩
    simpa [hindex] using hi

/-- Walks from some nodes, one after the other. -/
theorem Valid.foldl_visit (hwithin : ∀ v, ∀ w ∈ g.getD v [], w < g.size) (h : w.Valid g)
    (hdone : w.calls = []) (vs : List Nat) (hvs : ∀ v ∈ vs, v < g.size) :
    (vs.foldl (Walk.visit g) w).Valid g ∧ (vs.foldl (Walk.visit g) w).calls = [] ∧
      ∀ u, u ∈ vs ∨ w.Entered u → (vs.foldl (Walk.visit g) w).Entered u := by
  induction vs generalizing w with
  | nil => exact ⟨h, hdone, fun u hu => hu.resolve_left List.not_mem_nil⟩
  | cons v vs ih =>
    obtain ⟨hvalid, hdone', hv, hmono⟩ := h.visit hwithin hdone (hvs v (.head _))
    obtain ⟨hvalid', hdone'', hrest⟩ := ih hvalid hdone' fun u hu => hvs u (.tail _ hu)
    refine ⟨hvalid', hdone'', fun u hu => hrest u ?_⟩
    rw [List.mem_cons, or_assoc] at hu
    obtain rfl | hu | hu := hu
    · exact .inr hv
    · exact .inl hu
    · exact .inr (hmono u hu)

end Walk

/-! ### The components of a graph -/

/-- The components of a graph are those of a valid walk that has entered all nodes. -/
theorem exists_walk (hwithin : ∀ v, ∀ w ∈ g.getD v [], w < g.size) :
    ∃ w : Walk, w.Valid g ∧ w.found = (components g).reverse ∧ ∀ v, v < g.size ↔ v ∈ w.found.flatten := by
  obtain ⟨hvalid, hdone, hentered⟩ := (Walk.valid_start g).foldl_visit hwithin rfl
    (List.range g.size) fun v hv => List.mem_range.mp hv
  refine ⟨_, hvalid, by rw [components, List.reverse_reverse], fun v => ?_⟩
  rw [← hvalid.entered_iff_of_done hdone]
  exact ⟨fun hv => hentered v (.inl (List.mem_range.mpr hv)), hvalid.lt_size⟩

/-- The components of a graph are settled. -/
theorem components_settled (hwithin : ∀ v, ∀ w ∈ g.getD v [], w < g.size) :
    Settled g (components g).reverse := by
  obtain ⟨w, hvalid, hfound, -⟩ := exists_walk hwithin
  exact hfound ▸ hvalid.settled

/-- **Components are strongly connected.** No node is in two components of a graph, and the nodes of a
component reach each other. -/
theorem components_stronglyConnected (hwithin : ∀ v, ∀ w ∈ g.getD v [], w < g.size) :
    StronglyConnected g (components g).reverse := by
  obtain ⟨w, hvalid, hfound, -⟩ := exists_walk hwithin
  rw [← hfound]
  exact ⟨(List.nodup_append.mp hvalid.nodup).2.1, hvalid.reaches⟩

/-- Every node is in a component, and nothing else is. -/
theorem mem_components (hwithin : ∀ v, ∀ w ∈ g.getD v [], w < g.size) (v : Nat) :
    v ∈ (components g).reverse.flatten ↔ v < g.size := by
  obtain ⟨w, -, hfound, hmem⟩ := exists_walk hwithin
  rw [← hfound, hmem]

/-- Every node is in a component. -/
theorem exists_mem_components (hwithin : ∀ v, ∀ w ∈ g.getD v [], w < g.size) {v : Nat}
    (hv : v < g.size) : ∃ component ∈ components g, v ∈ component := by
  obtain ⟨component, hcomponent, hmem⟩ := List.mem_flatten.mp ((mem_components hwithin v).mpr hv)
  exact ⟨component, List.mem_reverse.mp hcomponent, hmem⟩

/-- No component is empty. -/
theorem nil_not_mem_components (hwithin : ∀ v, ∀ w ∈ g.getD v [], w < g.size) : [] ∉ components g := by
  obtain ⟨w, hvalid, hfound, -⟩ := exists_walk hwithin
  rw [← List.mem_reverse, ← hfound]
  exact hvalid.nonempty

/-- Every node is in one component and in no other. -/
theorem perm_flatten_components (hwithin : ∀ v, ∀ w ∈ g.getD v [], w < g.size) :
    (components g).flatten.Perm (List.range g.size) := by
  have hnodup := (components_stronglyConnected hwithin).nodup
  have hperm := (List.reverse_perm (components g)).flatten
  refine hperm.symm.trans ((List.perm_ext_iff_of_nodup hnodup List.nodup_range).mpr fun v => ?_)
  rw [mem_components hwithin, List.mem_range]

/-- **The components of a graph.** Every node is in exactly one of them, and none is empty. Two nodes are
in the same one if and only if each is reached from the other. An edge from one component to another
leads to an earlier one. -/
theorem components_exact (g : Successors) (hwithin : ∀ v, ∀ w ∈ g.getD v [], w < g.size) :
    (components g).flatten.Perm (List.range g.size) ∧ [] ∉ components g ∧
    (∀ u < g.size, ∀ v < g.size,
      (∃ c ∈ components g, u ∈ c ∧ v ∈ c) ↔ g.Reaches u v ∧ g.Reaches v u) ∧
    ∀ u v, g.Edge u v → ∀ (i j : Nat) (c d : List Nat), (components g)[i]? = some c →
      (components g)[j]? = some d → u ∈ c → v ∈ d → i ≠ j → j < i := by
  have hsettled := components_settled hwithin
  have hstrong := components_stronglyConnected hwithin
  refine ⟨perm_flatten_components hwithin, nil_not_mem_components hwithin, ?_, ?_⟩
  · intro u hu v hv
    constructor
    · rintro ⟨c, hc, huc, hvc⟩
      have hreach := hstrong.reaches c (List.mem_reverse.mpr hc)
      exact ⟨hreach u huc v hvc, hreach v hvc u huc⟩
    · rintro ⟨huv, hvu⟩
      obtain ⟨c, hc, hmem⟩ := hsettled.exists_component ((mem_components hwithin u).mpr hu) huv hvu
      exact ⟨c, List.mem_reverse.mp hc, hmem⟩
  -- Components are found with those that they lead to first, and listed in this order.
  · intro u v hedge i j c d hi hj hu hv hne
    have hpairwise := hsettled.pairwise hstrong.nodup
    rw [List.reverse_reverse] at hpairwise
    by_contra hle
    have hlt : i < j := by omega
    obtain ⟨hilt, rfl⟩ := List.getElem?_eq_some_iff.mp hi
    obtain ⟨hjlt, rfl⟩ := List.getElem?_eq_some_iff.mp hj
    exact List.pairwise_iff_getElem.mp hpairwise i j hilt hjlt hlt u hu v hv hedge

/-- A loop, an edge that is there twice, a cycle, and a node apart. -/
theorem components_exact_cycle :
    let g : Successors := #[[0, 1, 1], [2], [1, 3], [], [4]]
    (∀ v, ∀ w ∈ g.getD v [], w < g.size) ∧ components g = [[3], [2, 1], [0], [4]] ∧
      (g.Reaches 1 2 ∧ g.Reaches 2 1) ∧ ¬(g.Reaches 0 1 ∧ g.Reaches 1 0) := by
  intro g
  have hwithin : ∀ v, ∀ w ∈ g.getD v [], w < g.size := by
    intro v
    match v with
    | 0 | 1 | 2 | 3 | 4 => decide
    | v + 5 => simp [g]
  have hcomponents : components g = [[3], [2, 1], [0], [4]] := by cbv
  -- Nodes 1 and 2 lead to each other; node 0 leads to them but not back.
  have hiff := (components_exact g hwithin).2.2.1
  rw [hcomponents] at hiff
  refine ⟨hwithin, hcomponents, (hiff 1 (by decide) 2 (by decide)).mp (by simp), ?_⟩
  rw [← hiff 0 (by decide) 1 (by decide)]
  simp

end GramSieve.Gram
