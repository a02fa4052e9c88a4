import GramSieve.Gram.Requirement
import GramSieve.Proofs.Automaton.Transitions
import GramSieve.Proofs.Gram.Discovery
import GramSieve.Proofs.Guarded
import Mathlib

namespace GramSieve.Gram

/-!
# How many places an unfolding has

* `Traced` — the places that are reached by the rule of the unfolding.
* `finite_traced` — there are only so many.
* `GramGraph.Frontier.Traces` — what is numbered are such places.
* `GramGraph.encard_traced` — the graph has one node for each place that is reached.
* `GramGraph.exists_guarded_unfold`, `GramGraph.exists_eq_ofDfa` — the limit decides whether there is a
  graph, and not which one.
* `requiredGrams_guarded` — which limits allow a formula.
-/

open Automaton

/-- The places that are reached from the start with an empty window. Nothing is read past a state that
accepts. A wide transition empties the window. A character of a narrow one moves it on, and the window
keeps one character less than makes a gram. -/
inductive Traced (b : Bounds) (dfa : Dfa) : Place → Prop
  | start : Traced b dfa ⟨Dfa.start, []⟩
  | wide {place : Place} {t : Transition} (h : Traced b dfa place)
      (hreject : dfa.isAccept place.state = false) (ht : t ∈ dfa.transitions place.state)
      (hwide : b.maxExpand < t.width) : Traced b dfa ⟨t.target, []⟩
  | narrow {place : Place} {t : Transition} {c : Char} (h : Traced b dfa place)
      (hreject : dfa.isAccept place.state = false) (ht : t ∈ dfa.transitions place.state)
      (hnarrow : t.width ≤ b.maxExpand) (hc : c ∈ GramGraph.charsOf t) :
      Traced b dfa ⟨t.target, (place.window ++ [c]).rtake (b.gramSize - 1)⟩

variable {b : Bounds} {dfa : Dfa} {place : Place}

/-- Which places are traced depends on the length of the grams and on what is expanded, and on no
other bound. -/
theorem Traced.of_eq {b' : Bounds} (hsize : b'.gramSize = b.gramSize)
    (hexpand : b'.maxExpand = b.maxExpand) (h : Traced b dfa place) : Traced b' dfa place := by
  induction h with
  | start => exact .start
  | wide _ hreject ht hwide ih => exact .wide ih hreject ht (by omega)
  | narrow _ hreject ht hnarrow hc ih =>
    rw [← hsize]
    exact .narrow ih hreject ht (by omega) hc

/-- How many places or grams are allowed does not matter. -/
theorem setOf_traced_with (b : Bounds) (dfa : Dfa) (maxStatesTraced maxGrams : Nat) :
    {place | Traced { b with maxStatesTraced, maxGrams } dfa place} = {place | Traced b dfa place} :=
  Set.ext fun _ => ⟨.of_eq rfl rfl, .of_eq rfl rfl⟩

/-! ### The rule and the readings -/

/-- A window is shorter than a gram. -/
theorem Traced.length_window (h : Traced b dfa place) : place.window.length ≤ b.gramSize - 1 := by
  cases h with
  | start => exact Nat.zero_le _
  | wide => exact Nat.zero_le _
  | narrow =>
    rw [List.rtake, List.length_drop]
    omega

/-- What is read at such a place leads to such a place. -/
theorem Traced.of_reading (hsize : 1 ≤ b.gramSize) (h : Traced b dfa place) {r : Reading}
    (hr : r ∈ place.readings b dfa) : Traced b dfa r.place := by
  have hwindow := h.length_window
  obtain ⟨hreject, t, ht, c, hc, rfl⟩ := Place.mem_readings_iff.mp hr
  unfold Reading.through
  split
  · rename_i hwide
    exact .wide h hreject ht hwide
  · rename_i hnarrow
    rw [Reading.place_ofChar (by omega)]
    exact .narrow h hreject ht (Nat.le_of_not_lt hnarrow) (hc (Nat.le_of_not_lt hnarrow))

/-- All such places are found by following the readings. -/
theorem Traced.mem_of_closed (hsize : 1 ≤ b.gramSize) {S : Place → Prop} (hstart : S ⟨Dfa.start, []⟩)
    (hread : ∀ place, S place → ∀ r ∈ place.readings b dfa, S r.place) (h : Traced b dfa place) :
    S place := by
  induction h with
  | start => exact hstart
  | @wide place t _ hreject ht hwide ih =>
    -- A wide transition is one reading, which is the same for every character.
    have hr : .through b place.window t default ∈ place.readings b dfa :=
      Place.mem_readings_iff.mpr ⟨hreject, t, ht, default, fun h => absurd hwide (by omega), rfl⟩
    have hread := hread place ih _ hr
    rwa [Reading.through, if_pos hwide] at hread
  | @narrow place t c h hreject ht hnarrow hc ih =>
    have hwindow := h.length_window
    have hr : .through b place.window t c ∈ place.readings b dfa :=
      Place.mem_readings_iff.mpr ⟨hreject, t, ht, c, fun _ => hc, rfl⟩
    have hread := hread place ih _ hr
    rwa [Reading.through, if_neg (Nat.not_lt_of_le hnarrow), Reading.place_ofChar (by omega)] at hread

/-- A place is a state that a transition leads to, and a short text. -/
theorem finite_traced (b : Bounds) (dfa : Dfa) : {place | Traced b dfa place}.Finite := by
  have hchar : Finite Char := Finite.of_injective (fun c => c.val.toFin) fun _ _ h =>
    Char.ext (UInt32.toFin_inj.mp h)
  let targets : List Nat := dfa.states.toList.flatMap fun s => s.transitions.toList.map (·.target)
  have htargets {state : Nat} {t : Transition} (ht : t ∈ dfa.transitions state) :
      t.target ∈ Dfa.start :: targets := by
    obtain ⟨s, hs, ht⟩ := Dfa.mem_transitions_iff.mp ht
    refine .tail _ (List.mem_flatMap.mpr ⟨s, ?_, List.mem_map_of_mem (Array.mem_toList_iff.mpr ht)⟩)
    exact Array.mem_toList_iff.mpr (Array.mem_of_getElem? hs)
  -- A place is a state of the automaton and a window shorter than a gram, and there are finitely many
  -- of either.
  have hfinite := Set.Finite.image2 Place.mk (Dfa.start :: targets).finite_toSet
    (List.finite_length_le Char (b.gramSize - 1))
  refine hfinite.subset fun place hplace => ⟨place.state, ?_, place.window, ?_, rfl⟩
  · cases hplace with
    | start => exact .head _
    | wide _ _ ht => exact htargets ht
    | narrow _ _ ht => exact htargets ht
  · exact Traced.length_window hplace

namespace GramGraph

/-! ### The walk through the places -/

/-- The numbers are those of the places, all of which are reached. -/
structure Frontier.Traces (b : Bounds) (dfa : Dfa) (f : Frontier) : Prop where
  numbered : Numbers (fun place => f.numbers[place]?) f.places
  traced : ∀ place ∈ f.places, Traced b dfa place

variable {f : Frontier}

theorem Frontier.traces_empty : ({} : Frontier).Traces b dfa := ⟨by simp [Numbers], by simp⟩

/-- There are no more numbers than places that can be traced. -/
theorem Frontier.Traces.size_le (h : f.Traces b dfa) :
    f.places.size ≤ {place | Traced b dfa place}.ncard :=
  h.numbered.size_le (finite_traced b dfa) h.traced

/-- Looking up a place, or giving it a number, fails only at the limit for the places. -/
theorem Frontier.Traces.exists_guarded_visit (h : f.Traces b dfa) (hplace : Traced b dfa place) :
    ∃ result : Nat × Frontier, result.2.Traces b dfa ∧ Guarded TooComplexToTrace.mk (·.2.places.size)
      f.places.size (fun limit => f.visit limit place) result := by
  cases hnumber : f.numbers[place]? with
  | some n =>
    simp only [visit, hnumber]
    exact ⟨(n, f), h, guarded_ok _ _ (n, f)⟩
  | none =>
    simp only [visit, hnumber]
    refine ⟨(f.places.size, { f with
      places := f.places.push place, numbers := f.numbers.insert place f.places.size }),
      ⟨?_, ?_⟩, guarded_add (Array.size_push _)⟩
    -- The new place gets the next number.
    · apply h.numbered.push hnumber
      intro other
      simp only [Std.HashMap.getElem?_insert, beq_iff_eq]
    · intro other hother
      rcases Array.mem_push.mp hother with hother | rfl
      · exact h.traced other hother
      · exact hplace

/-- Recording a gram finds no place. -/
theorem Frontier.Traces.record (h : f.Traces b dfa) (maxGrams : Nat) (gram : List Char) :
    (f.record maxGrams gram).2.Traces b dfa ∧
      (f.record maxGrams gram).2.places = f.places := by
  unfold Frontier.record
  simp only
  split
  · exact ⟨h, rfl⟩
  · split
    · exact ⟨h, rfl⟩
    · exact ⟨⟨h.numbered, h.traced⟩, rfl⟩

/-- So does following a reading: a gram that is found does not count. -/
theorem exists_guarded_follow {found : Found} (h : found.2.Traces b dfa) {r : Reading}
    (hr : Traced b dfa r.place) : ∃ result : Found, result.2.Traces b dfa ∧
      Guarded TooComplexToTrace.mk (·.2.places.size) found.2.places.size
        (fun limit => follow { b with maxStatesTraced := limit } found r) result := by
  -- The edge carries the gram, whatever number the place gets.
  have hedge (gram : Option Nat) {f : Frontier} (hf : f.Traces b dfa) :
      ∃ result : Found, result.2.Traces b dfa ∧
        Guarded TooComplexToTrace.mk (·.2.places.size) f.places.size (fun limit =>
          f.visit limit r.place >>= fun s => .ok (⟨gram, s.1⟩ :: found.1, s.2)) result := by
    obtain ⟨⟨target, f'⟩, hf', hguarded⟩ := hf.exists_guarded_visit hr
    exact ⟨(⟨gram, target⟩ :: found.1, f'), hf',
      hguarded.map (fun found : Found => found.2.places.size)
        (fun s => (⟨gram, s.1⟩ :: found.1, s.2)) rfl⟩
  cases hgram : r.gram with
  | none =>
    simp only [follow, hgram]
    exact hedge none h
  | some gram =>
    obtain ⟨hrecorded, hsame⟩ := h.record b.maxGrams gram
    have hedge := hedge (found.2.record b.maxGrams gram).1 hrecorded
    rw [hsame] at hedge
    simp only [follow, hgram]
    exact hedge

/-- So does following all readings of a place. -/
theorem exists_guarded_edges (hsize : 1 ≤ b.gramSize) (hf : f.Traces b dfa)
    (hplace : Traced b dfa place) : ∃ result : Found, result.2.Traces b dfa ∧
      Guarded TooComplexToTrace.mk (·.2.places.size) f.places.size (fun limit =>
        (place.readings b dfa).foldlM (follow { b with maxStatesTraced := limit }) ([], f)) result :=
  exists_guarded_foldlM (P := fun found : Found => found.2.Traces b dfa) (b := ([], f))
    (fun found => found.2.places.size) (fun limit => follow { b with maxStatesTraced := limit }) _
    (fun _ hfound _ hr => exists_guarded_follow hfound (hplace.of_reading hsize hr)) hf

/-- Each turn finds the edges of the next place, and there are only so many places to find. -/
theorem exists_guarded_unfold (hsize : 1 ≤ b.gramSize) (nodes : Array GramNode)
    (hf : f.Traces b dfa) (hle : nodes.size ≤ f.places.size) :
    ∃ g, Guarded TooComplexToTrace.mk (·.nodes.size) f.places.size (fun limit =>
      unfold { b with maxStatesTraced := limit } dfa (limit - nodes.size) nodes f) g := by
  refine exists_guarded_walk (P := fun s => s.2.Traces b dfa ∧ s.1.size ≤ s.2.places.size)
    (s := (nodes, f))
    (fun limit s => unfold { b with maxStatesTraced := limit } dfa (limit - s.1.size) s.1 s.2)
    (·.2.places.size) (·.1.size) {place | Traced b dfa place}.ncard ?_ ?_ ?_ ⟨hf, hle⟩
  · exact fun s hs => ⟨hs.2, hs.1.size_le⟩
  · rintro ⟨nodes, f⟩ - heq
    change nodes.size = f.places.size at heq
    have hnone : f.places[nodes.size]? = none := Array.getElem?_eq_none_iff.mpr heq.ge
    have h := guarded_ok TooComplexToTrace.mk (fun g : GramGraph => g.nodes.size)
      ⟨nodes, f.grams⟩
    rw [heq] at h
    refine ⟨⟨nodes, f.grams⟩, h.congr fun limit _ => ?_⟩
    unfold unfold
    split
    · rfl
    · rw [hnone]
  · rintro ⟨nodes, f⟩ ⟨hf, -⟩ hlt
    change nodes.size < f.places.size at hlt
    have hplace := Array.getElem?_eq_getElem hlt
    have htraced := hf.traced _ (Array.getElem_mem hlt)
    obtain ⟨found, hfound, hedges⟩ := exists_guarded_edges hsize hf htraced
    refine ⟨_, _, ?_, ?_, hedges.map _ (fun found => (nodes.push
      ⟨GramEdge.ascending found.1, dfa.isAccept f.places[nodes.size].state⟩, found.2)) rfl,
      fun limit hlimit => ?_⟩
    · refine ⟨hfound, ?_⟩
      rw [Array.size_push]
      exact Nat.lt_of_lt_of_le hlt hedges.le
    · exact Array.size_push _
    · -- There is room for the place, and therefore a turn for it.
      obtain ⟨fuel, hfuel⟩ : ∃ fuel, limit - nodes.size = fuel + 1 :=
        ⟨limit - nodes.size - 1, by have : f.places.size ≤ limit := hlimit; omega⟩
      have hpush : limit - (nodes.size + 1) = fuel := by omega
      simp only [hfuel, unfold_succ hplace, bind_assoc, ok_bind, Array.size_push, hpush]
      rfl

/-- The graph has one node for each place that is reached. -/
theorem encard_traced {g : GramGraph} (h : ofDfa b dfa = .ok g) (hsize : 1 ≤ b.gramSize) :
    {place | Traced b dfa place}.encard = g.nodes.size := by
  obtain ⟨places, hdiscovery⟩ := discovery_of_ofDfa h
  have hfirst := hdiscovery.breadthFirst
  rw [hdiscovery.size_eq]
  refine encard_eq_size hfirst.nodup fun place => ⟨fun hmem => ?_, fun htraced => ?_⟩
  · obtain ⟨n, hn⟩ := Array.mem_iff_getElem?.mp hmem
    exact hfirst.induct .start (fun _ hplace _ hr => hplace.of_reading hsize hr) hn
  · refine htraced.mem_of_closed hsize (S := fun place => place ∈ places)
      (Array.mem_of_getElem? hfirst.start) fun place hmem r hr => ?_
    rw [← Array.mem_toList_iff, hfirst.found, List.mem_eraseDups]
    refine .tail _ (List.mem_map_of_mem (List.mem_flatMap.mpr ⟨place, ?_, hr⟩))
    exact Array.mem_toList_iff.mpr hmem

/-- There is one graph, with a node for each place that is reached, and every limit that it fits into
allows it. -/
theorem exists_eq_ofDfa (hsize : 1 ≤ b.gramSize) (dfa : Dfa) : ∃ g : GramGraph,
    {place | Traced b dfa place}.encard = g.nodes.size ∧ ∀ limit,
      ofDfa { b with maxStatesTraced := limit } dfa =
        if limit < g.nodes.size then .error ⟨limit⟩ else .ok g := by
  have hstart : Traced b dfa ⟨Dfa.start, []⟩ := .start
  obtain ⟨⟨n, f⟩, hf, hvisit⟩ := Frontier.traces_empty.exists_guarded_visit hstart
  obtain ⟨g, hunfold⟩ := exists_guarded_unfold hsize #[] hf (Nat.zero_le _)
  have hall := hvisit.bind (fun limit r =>
    unfold { b with maxStatesTraced := limit } dfa (limit - 0) #[] r.2) hunfold
  have hofDfa (limit) : ofDfa { b with maxStatesTraced := limit } dfa =
      if limit < g.nodes.size then .error ⟨limit⟩ else .ok g := hall.eq limit (Nat.zero_le limit)
  have hnodes := encard_traced ((hofDfa g.nodes.size).trans (if_neg (Nat.lt_irrefl _))) hsize
  rw [setOf_traced_with] at hnodes
  exact ⟨g, hnodes, hofDfa⟩

end GramGraph

/-- **The limit only guards.** The places that are reached by the rule of the unfolding decide which
limits allow a formula: those that leave room for all of them. Otherwise there is an error with the
limit. How many there are does not depend on how many grams are allowed, and a larger limit does not
change the formula. -/
theorem requiredGrams_guarded (hsize : 1 ≤ b.gramSize) (dfa : Dfa) : ∃ count : Nat,
    {place | Traced b dfa place}.encard = count ∧ ∀ maxGrams analyzer, ∃ f, ∀ limit, 1 ≤ limit →
      requiredGrams { b with maxStatesTraced := limit, maxGrams } analyzer dfa =
        if limit < count then .error ⟨limit⟩ else .ok f := by
  have hcount := (finite_traced b dfa).cast_ncard_eq
  refine ⟨_, hcount.symm, fun maxGrams analyzer => ?_⟩
  obtain ⟨g, hnodes, hg⟩ := GramGraph.exists_eq_ofDfa (b := { b with maxGrams }) hsize dfa
  rw [setOf_traced_with, ← hcount, Nat.cast_inj] at hnodes
  refine ⟨g.requirement analyzer, fun limit hlimit => ?_⟩
  rw [requiredGrams, if_neg (not_or.mpr ⟨Nat.ne_of_gt hlimit, Nat.ne_of_gt hsize⟩),
    hg limit, hnodes]
  split
  · rfl
  · rfl

/-- An `a` and then a `b` in pairs: the start, the place behind the `a` and the one behind both. -/
theorem requiredGrams_guarded_pair :
    let b : Bounds := { gramSize := 2 }
    let dfa : Dfa := ⟨#[⟨#[⟨97, 97, 1⟩], false⟩, ⟨#[⟨98, 98, 2⟩], false⟩, ⟨#[], true⟩]⟩
    1 ≤ b.gramSize ∧ {place | Traced b dfa place}.encard = 3 ∧ ∀ maxGrams analyzer, ∃ f, ∀ limit,
      1 ≤ limit → requiredGrams { b with maxStatesTraced := limit, maxGrams } analyzer dfa =
        if limit < 3 then .error ⟨limit⟩ else .ok f := by
  intro b dfa
  have hsize : 1 ≤ b.gramSize := by decide
  obtain ⟨count, hcount, hall⟩ := requiredGrams_guarded hsize dfa
  obtain ⟨f, hf⟩ := hall 100 fun t => [t]
  have herror : (requiredGrams { b with maxStatesTraced := 2, maxGrams := 100 } (fun t => [t])
      dfa).isOk = false := by cbv
  have hok : (requiredGrams { b with maxStatesTraced := 3, maxGrams := 100 } (fun t => [t])
      dfa).isOk = true := by cbv
  -- The limit that is needed is found by trying two and three places.
  have hlow : 2 < count := by
    by_contra hle
    rw [hf 2 (by decide), if_neg hle] at herror
    cases herror
  have hhigh : ¬ 3 < count := by
    intro hlt
    rw [hf 3 (by decide), if_pos hlt] at hok
    cases hok
  obtain rfl : count = 3 := by omega
  exact ⟨hsize, hcount, hall⟩

end GramSieve.Gram
