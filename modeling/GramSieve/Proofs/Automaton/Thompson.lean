import GramSieve.Proofs.Automaton.Segment

namespace GramSieve.Automaton.Nfa

/-!
# The automaton of an expression

* `buildText_chain`, `buildCopies_chain`, `buildSequence_chain` — what stands in sequence is a chain
  that reads the product of the languages.
* `buildOptional_segment` — up to a number of copies, each of which may be left out with all behind it.
* `segment_star` — the loop of an open repetition reads any power of its body.
* `Branches`, `buildBranches_branches` — branches side by side read the union of the languages.
* `build_built` — the fragment of an expression reads the language of the expression.
* `accepts_iff_mem_language` — so does the whole automaton.
-/

open Text

variable {limit : Nat}

/-! ### Running a builder -/

/-- Two steps that succeed one after the other do so with some states in between. -/
theorem bind_ok {β γ : Type} {x : Builder β} {f : β → Builder γ} {s s'' : Array NfaState} {c : γ}
    (h : (x >>= f) s = .ok (c, s'')) : ∃ b s', x s = .ok (b, s') ∧ f b s' = .ok (c, s'') := by
  obtain ⟨⟨b, s'⟩, hx, hf⟩ := ok_of_bind h
  exact ⟨b, s', hx, hf⟩

/-- A step that only gives a value leaves the states alone. -/
theorem pure_ok {β : Type} {b c : β} {s s' : Array NfaState}
    (h : (pure b : Builder β) s = .ok (c, s')) : c = b ∧ s' = s := by
  cases h
  exact ⟨rfl, rfl⟩

/-- A new state gets the next number and is blank. -/
theorem add_ok {s s' : Array NfaState} {n : Nat} (h : add limit s = .ok (n, s')) :
    n = s.size ∧ s' = s.push {} := by
  unfold add at h
  split at h
  · cases h
  · cases h
    exact ⟨rfl, rfl⟩

/-- A link adds one move to its source and changes nothing else. -/
theorem link_ok {s s' : Array NfaState} {source target : Nat} {u : Unit}
    (h : link source target s = .ok (u, s')) :
    s' = s.modify source fun s => { s with epsilons := target :: s.epsilons } := by
  cases h
  rfl

/-- Reading sets what the source reads and where it leads then. -/
theorem read_ok {s s' : Array NfaState} {source target : Nat} {set : CodeSet} {u : Unit}
    (h : read source set target s = .ok (u, s')) :
    s' = s.modify source fun s => { s with ranges := set, next := target } := by
  cases h
  rfl

/-! ### Languages -/

theorem mem_powers_zero {max : Option Nat} {l : Language Char} : [] ∈ powers 0 max l :=
  ⟨0, Nat.le_refl 0, fun _ _ => Nat.zero_le _, rfl⟩

/-- No copies read nothing. -/
theorem powers_zero_zero {l : Language Char} : powers 0 (some 0) l = 1 := by
  ext w
  constructor
  · rintro ⟨k, -, hk, hw⟩
    rwa [Nat.le_zero.mp (hk 0 rfl), pow_zero] at hw
  · rintro rfl
    exact mem_powers_zero

/-- The copies that are asked for and those that are allowed beyond them. -/
theorem pow_mul_powers {min : Nat} {max : Option Nat} (l : Language Char)
    (h : ∀ m, max = some m → min ≤ m) :
    l ^ min * powers 0 (max.map (· - min)) l = powers min max l := by
  ext w
  constructor
  · intro hw
    obtain ⟨u, hu, v, ⟨k, _, hk, hv⟩, rfl⟩ := Language.mem_mul.mp hw
    refine ⟨min + k, Nat.le_add_right _ _, fun m hm => ?_, ?_⟩
    · have := hk (m - min) (by rw [hm]; rfl)
      have := h m hm
      omega
    · rw [pow_add]
      exact Language.append_mem_mul hu hv
  -- Of `k` copies the first `min` are read by the power, and the others are optional.
  · rintro ⟨k, hmin, hmax, hw⟩
    obtain ⟨j, rfl⟩ := Nat.exists_eq_add_of_le hmin
    rw [pow_add] at hw
    obtain ⟨u, hu, v, hv, rfl⟩ := Language.mem_mul.mp hw
    refine Language.append_mem_mul hu ⟨j, Nat.zero_le j, fun m hm => ?_, hv⟩
    obtain ⟨m', hm', rfl⟩ := Option.map_eq_some_iff.mp hm
    have := hmax m' hm'
    omega

/-! ### Sequences -/

/-- The states for a text read that text and no other. -/
theorem buildText_chain (text : List Char) {s s' : Array NfaState} {last last' : Nat}
    (hlast : s[last]? = some {}) (h : buildText limit last text s = .ok (last', s')) :
    Chain s last last' s' {text} := by
  induction text generalizing last s with
  | nil =>
    obtain ⟨rfl, rfl⟩ := pure_ok h
    exact .refl hlast
  | cons c rest ih =>
    rw [buildText] at h
    obtain ⟨next, s₁, hadd, h⟩ := bind_ok h
    obtain ⟨rfl, rfl⟩ := add_ok hadd
    obtain ⟨_, s₂, hread, h⟩ := bind_ok h
    rw [read_ok hread] at h
    -- The state that has been blank so far reads `c`, and a blank one is behind it.
    have hc := segment_read hlast [CodeRange.single c.toNat]
    have hrest := hc.trans (ih hc.blank h)
    have hmul : ({[c]} : Language Char) * {rest} = {c :: rest} := Set.image2_singleton
    rwa [CodeSet.language_single, hmul] at hrest

/-- What a builder of fragments gives is a built fragment that reads `l`. -/
def Builds (fragment : Builder Fragment) (l : Language Char) : Prop :=
  ∀ s f s', fragment s = .ok (f, s') → Built s f s' l

/-- Copies of a fragment read one text of it after the other. -/
theorem buildCopies_chain {fragment : Builder Fragment} {l : Language Char}
    (hfragment : Builds fragment l) (count : Nat) {s s' : Array NfaState} {last last' : Nat}
    (hlast : s[last]? = some {}) (h : buildCopies fragment last count s = .ok (last', s')) :
    Chain s last last' s' (l ^ count) := by
  induction count generalizing last s with
  | zero =>
    obtain ⟨rfl, rfl⟩ := pure_ok h
    exact .refl hlast
  | succ count ih =>
    rw [buildCopies] at h
    obtain ⟨f, s₁, hf, h⟩ := bind_ok h
    have hf := hfragment _ _ _ hf
    obtain ⟨_, s₂, hlink, h⟩ := bind_ok h
    rw [link_ok hlink] at h
    have hcopy := hf.toChain.link hlast hf.first_new
    rw [pow_succ']
    exact hcopy.trans (ih hcopy.blank h)

/-! ### Repetitions -/

/-- A path out of a state that moves on to one of two others. -/
theorem Path.leave_fork {states : Array NfaState} {n p q r t : Nat} {w : List Char}
    (path : Path states n p w t) (hp : states[p]? = some { epsilons := [q, r] }) (hne : t ≠ p) :
    ∃ m < n, Path states m q w t ∨ Path states m r w t := by
  obtain ⟨m, hm, x, hx, path⟩ | ⟨_, _, _, _, _, hc, _⟩ := path.leave hp hne
  · obtain rfl | rfl : x = q ∨ x = r := by simpa using hx
    · exact ⟨m, hm, .inl path⟩
    · exact ⟨m, hm, .inr path⟩
  · cases hc

section Loops

variable {states : Array NfaState} {l : Language Char} {first last exit p t : Nat}

/-- A copy that may be left out with all behind it. -/
theorem Path.of_optional {count : Nat} (hp : states[p]? = some { epsilons := [first, exit] })
    (hcopy : ∀ u ∈ l, ∃ n, Path states n first u last)
    (hrest : ∀ v ∈ powers 0 (some count) l, ∃ n, Path states n last v exit) {w : List Char}
    (hw : w ∈ powers 0 (some (count + 1)) l) : ∃ n, Path states n p w exit := by
  obtain ⟨k, -, hk, hw⟩ := hw
  cases k with
  | zero =>
    -- No copy is read: the fork goes straight to the exit.
    obtain rfl : w = [] := hw
    exact ⟨1, .skip hp (.tail _ (.head _)) (.here _)⟩
  | succ k =>
    rw [pow_succ'] at hw
    obtain ⟨u, hu, v, hv, rfl⟩ := Language.mem_mul.mp hw
    -- The copies behind the first one are one fewer, and so is their limit.
    have hcount : ∀ m, some count = some m → k ≤ m := by
      intro m hm
      have := hk (m + 1) (by rw [← Option.some.inj hm])
      omega
    obtain ⟨_, before⟩ := hcopy u hu
    obtain ⟨_, behind⟩ := hrest v ⟨k, Nat.zero_le k, hcount, hv⟩
    obtain ⟨n, path⟩ := before.append behind
    exact ⟨n + 1, .skip hp (.head _) path⟩

/-- A path from where a copy may be left out reads it and what follows, or nothing, and goes on from
the exit. -/
theorem Path.through_optional {count : Nat} (hp : states[p]? = some { epsilons := [first, exit] })
    (hne : t ≠ p)
    (hcopy : ∀ n w, Path states n first w t →
      ∃ u ∈ l, ∃ v, u ++ v = w ∧ ∃ m ≤ n, Path states m last v t)
    (hrest : ∀ n w, Path states n last w t →
      ∃ u ∈ powers 0 (some count) l, ∃ v, u ++ v = w ∧ ∃ m ≤ n, Path states m exit v t)
    {n : Nat} {w : List Char} (path : Path states n p w t) :
    ∃ u ∈ powers 0 (some (count + 1)) l, ∃ v, u ++ v = w ∧ ∃ m ≤ n, Path states m exit v t := by
  obtain ⟨m, hm, path | path⟩ := path.leave_fork hp hne
  · -- Into the copy: what it reads, and then what the copies behind it read.
    obtain ⟨u, hu, v, rfl, m', hm', path⟩ := hcopy m w path
    obtain ⟨u', ⟨k, _, hk, hu'⟩, v', rfl, m'', hm'', path⟩ := hrest m' v path
    have hcount : ∀ m, some (count + 1) = some m → k + 1 ≤ m := by
      intro m hm
      have := hk count rfl
      have := Option.some.inj hm
      omega
    have hpow : u ++ u' ∈ l ^ (k + 1) := by
      rw [pow_succ']
      exact Language.append_mem_mul hu hu'
    exact ⟨u ++ u', ⟨k + 1, Nat.zero_le _, hcount, hpow⟩, v', List.append_assoc .., m'', by omega,
      path⟩
  · exact ⟨[], mem_powers_zero, w, rfl, m, hm.le, path⟩

/-- Copies in a loop: each of them ends where it can be left or begun again. -/
theorem Path.of_star (hlast : states[last]? = some { epsilons := [exit, first] })
    (hcopy : ∀ u ∈ l, ∃ n, Path states n first u last) {k : Nat} {w : List Char} (hw : w ∈ l ^ k)
    (hp : states[p]? = some { epsilons := [exit, first] }) : ∃ n, Path states n p w exit := by
  induction k generalizing p w with
  | zero =>
    obtain rfl : w = [] := hw
    exact ⟨1, .skip hp (.head _) (.here _)⟩
  | succ k ih =>
    rw [pow_succ'] at hw
    obtain ⟨u, hu, v, hv, rfl⟩ := Language.mem_mul.mp hw
    obtain ⟨_, before⟩ := hcopy u hu
    obtain ⟨_, behind⟩ := ih hv hlast
    obtain ⟨n, path⟩ := before.append behind
    -- The end of the fragment is a fork as well, so the induction goes on from there.
    exact ⟨n + 1, .skip hp (.tail _ (.head _)) path⟩

/-- A path from the end of a fragment that may be repeated goes through the fragment any number of
times before it exits. -/
theorem Path.through_star (hlast : states[last]? = some { epsilons := [exit, first] })
    (hlastne : t ≠ last)
    (hcopy : ∀ n w, Path states n first w t →
      ∃ u ∈ l, ∃ v, u ++ v = w ∧ ∃ m ≤ n, Path states m last v t)
    {n : Nat} {w : List Char} (hp : states[p]? = some { epsilons := [exit, first] }) (hne : t ≠ p)
    (path : Path states n p w t) :
    ∃ u ∈ powers 0 none l, ∃ v, u ++ v = w ∧ ∃ m ≤ n, Path states m exit v t := by
  -- A turn of the loop takes steps, so what is left of the path is shorter.
  induction n using Nat.strong_induction_on generalizing p w with
  | h n ih =>
    obtain ⟨m, hm, path | path⟩ := path.leave_fork hp hne
    · exact ⟨[], mem_powers_zero, w, rfl, m, hm.le, path⟩
    · obtain ⟨u, hu, v, rfl, m', hm', path⟩ := hcopy m w path
      obtain ⟨u', ⟨k, _, _, hu'⟩, v', rfl, m'', hm'', path⟩ := ih m' (by omega) hlast hlastne path
      have hpow : u ++ u' ∈ l ^ (k + 1) := by
        rw [pow_succ']
        exact Language.append_mem_mul hu hu'
      exact ⟨u ++ u', ⟨k + 1, Nat.zero_le _, nofun, hpow⟩, v', List.append_assoc .., m'', by omega,
        path⟩

end Loops

/-- A blank state that moves on to another one. -/
theorem segment_jump {s : Array NfaState} {a b : Nat} (ha : s[a]? = some {}) (hb : s[b]? = some {})
    (hne : a ≠ b) :
    Segment s a b (s.modify a fun s => { s with epsilons := b :: s.epsilons }) 1 := by
  have hjump := getElem?_modify_self (fun s => { s with epsilons := b :: s.epsilons }) ha
  refine ⟨by rw [Array.size_modify]; exact lt_size_of_getElem? ha, by rw [Array.size_modify], ?_, ?_,
    ?_, ?_⟩
  · intro i _ hi
    exact getElem?_modify_ne _ hi
  · rw [getElem?_modify_ne _ hne.symm, hb]
  · rintro states h w rfl
    exact ⟨1, .skip ((h a (.inl rfl) hne).trans hjump) (.head _) (.here _)⟩
  · intro states h n w t ht path
    -- The path ends outside, so it leaves `a`, and there is only one move to leave it by.
    have hta : t ≠ a := fun heq => hne (heq.symm.trans (ht (.inl heq)))
    obtain ⟨m, hm, q, hq, path⟩ | ⟨_, _, _, _, _, hc, _⟩ :=
      path.leave ((h a (.inl rfl) hne).trans hjump) hta
    · obtain rfl := List.mem_singleton.mp hq
      exact ⟨[], rfl, w, rfl, m, hm.le, path⟩
    · cases hc

/-- A copy that may be left out with all behind it. Its fork goes into it or past all that is left. -/
theorem segment_optional {s s₁ forked after : Array NfaState} {f : Fragment} {l : Language Char}
    {last exit count : Nat} (hf : Built s f s₁ l) (hlast : last < s.size) (hexit : exit < s.size)
    (hne : last ≠ exit) (hsize : forked.size = s₁.size)
    (hfork : forked[last]? = some { epsilons := [f.first, exit] })
    (hother : ∀ i, i ≠ last → forked[i]? = s₁[i]?)
    (hrest : Segment forked f.last exit after (powers 0 (some count) l)) :
    Segment s last exit after (powers 0 (some (count + 1)) l) := by
  have hle := hf.size_le
  have hnew := hf.first_new
  have hfirstlt := hf.source_lt
  have hend := hf.last_new
  have hendlt := lt_size_of_getElem? hf.blank
  have hafter := hrest.size_le
  have hfork' {states} (hs : Continues states after s.size last exit) :
      states[last]? = some { epsilons := [f.first, exit] } := by
    rw [hs last (.inl rfl) hne, hrest.kept last (by omega) (by omega), hfork]
  -- What was built behind the copy has left the states of the copy as they were.
  have hcopy {states} (hs : Continues states after s.size last exit) :
      Continues states s₁ s.size f.first f.last := by
    intro i hi hne
    unfold Touched at hi
    rw [hs i (by unfold Touched; omega) (by omega), hrest.kept i (by omega) hne,
      hother i (by omega)]
  have hcontinues {states} (hs : Continues states after s.size last exit) :
      Continues states after forked.size f.last exit := by
    intro i hi hne
    exact hs i (by unfold Touched at *; omega) hne
  refine ⟨by omega, by omega, ?_, hrest.blank, ?_, ?_⟩
  · intro i hi hne
    rw [hrest.kept i (by omega) (by omega), hother i hne, hf.kept i hi (by omega)]
  · intro states hs w hw
    exact Path.of_optional (hfork' hs) (hf.complete states (hcopy hs))
      (hrest.complete states (hcontinues hs)) hw
  · intro states hs n w t ht path
    have hta : t ≠ last := fun heq => hne (heq.symm.trans (ht (.inl heq)))
    have hthrough (n w) := hf.sound states (hcopy hs) n w t (by unfold Touched at *; omega)
    have hbehind (n w) := hrest.sound states (hcontinues hs) n w t (by unfold Touched at *; omega)
    exact path.through_optional (hfork' hs) hta hthrough hbehind

/-- Up to `count` copies, each of which may be left out with all behind it. -/
theorem buildOptional_segment {fragment : Builder Fragment} {l : Language Char} {exit : Nat}
    (hfragment : Builds fragment l) (count : Nat) {s s' : Array NfaState} {last last' : Nat}
    (hlast : s[last]? = some {}) (hexit : s[exit]? = some {}) (hne : last ≠ exit)
    (h : buildOptional fragment exit last count s = .ok (last', s')) :
    Segment s last exit (s'.modify last' fun s => { s with epsilons := exit :: s.epsilons })
      (powers 0 (some count) l) := by
  have hlt := lt_size_of_getElem? hlast
  have hexitlt := lt_size_of_getElem? hexit
  induction count generalizing last s with
  | zero =>
    obtain ⟨rfl, rfl⟩ := pure_ok h
    rw [powers_zero_zero]
    exact segment_jump hlast hexit hne
  | succ count ih =>
    rw [buildOptional] at h
    obtain ⟨f, s₁, hf, h⟩ := bind_ok h
    have hf := hfragment _ _ _ hf
    obtain ⟨_, s₂, hlink, h⟩ := bind_ok h
    obtain ⟨_, s₃, hlink', h⟩ := bind_ok h
    rw [link_ok hlink', link_ok hlink] at h
    have hsize := hf.size_le
    have hnew := hf.first_new
    have hend := hf.last_new
    have hendlt := lt_size_of_getElem? hf.blank
    -- In front of the copy is a fork, and nothing else of it has changed.
    generalize hs₃ : (s₁.modify last fun s => { s with epsilons := exit :: s.epsilons }).modify last
      (fun s => { s with epsilons := f.first :: s.epsilons }) = forked at h
    have hforksize : forked.size = s₁.size := by rw [← hs₃, Array.size_modify, Array.size_modify]
    have hfork : forked[last]? = some { epsilons := [f.first, exit] } := by
      have hblank : s₁[last]? = some {} := by rw [hf.kept last hlt (by omega), hlast]
      rw [← hs₃]
      exact getElem?_modify_self _ (getElem?_modify_self _ hblank)
    have hother (i : Nat) (hi : i ≠ last) : forked[i]? = s₁[i]? := by
      rw [← hs₃, getElem?_modify_ne _ hi, getElem?_modify_ne _ hi]
    have hlast' : forked[f.last]? = some {} := by rw [hother _ (by omega), hf.blank]
    have hexit' : forked[exit]? = some {} := by
      rw [hother _ hne.symm, hf.kept exit hexitlt (by omega), hexit]
    exact segment_optional hf hlt hexitlt hne hforksize hfork hother
      (ih hlast' hexit' (by omega) h (by omega) (by omega))

/-- Any number of copies: the loop goes from both ends of the fragment into it or to the exit. -/
theorem segment_star {s s' : Array NfaState} {f : Fragment} {l : Language Char} {last exit : Nat}
    (hf : Built s f s' l) (hlast : s[last]? = some {}) (hexit : s[exit]? = some {})
    (hne : last ≠ exit) :
    Segment s last exit
      ((((s'.modify last fun s => { s with epsilons := f.first :: s.epsilons }).modify f.last
        fun s => { s with epsilons := f.first :: s.epsilons }).modify f.last
        fun s => { s with epsilons := exit :: s.epsilons }).modify last
        fun s => { s with epsilons := exit :: s.epsilons })
      (powers 0 none l) := by
  have hlt := lt_size_of_getElem? hlast
  have hexitlt := lt_size_of_getElem? hexit
  have hsize := hf.size_le
  have hnew := hf.first_new
  have hfirst := hf.source_lt
  have hendlt := lt_size_of_getElem? hf.blank
  have hend := hf.last_new
  -- Only the two ends of the loop have changed, and both of them are the same fork now.
  generalize hafter : Array.modify (Array.modify _ _ _) _ _ = after
  have haftersize : after.size = s'.size := by
    rw [← hafter]
    simp only [Array.size_modify]
  have hother (i : Nat) (hi : i ≠ last) (hi' : i ≠ f.last) : after[i]? = s'[i]? := by
    rw [← hafter, getElem?_modify_ne _ hi, getElem?_modify_ne _ hi', getElem?_modify_ne _ hi',
      getElem?_modify_ne _ hi]
  have hlastFork : after[last]? = some { epsilons := [exit, f.first] } := by
    have hblank : s'[last]? = some {} := by rw [hf.kept last hlt (by omega), hlast]
    rw [← hafter]
    refine getElem?_modify_self (s := { epsilons := [f.first] }) _ ?_
    rw [getElem?_modify_ne _ (by omega), getElem?_modify_ne _ (by omega)]
    exact getElem?_modify_self _ hblank
  have hendFork : after[f.last]? = some { epsilons := [exit, f.first] } := by
    have hblank : (s'.modify last fun s => { s with epsilons := f.first :: s.epsilons })[f.last]? =
        some {} := by rw [getElem?_modify_ne _ (by omega), hf.blank]
    rw [← hafter, getElem?_modify_ne _ (by omega)]
    exact getElem?_modify_self _ (getElem?_modify_self _ hblank)
  have hcopy {states} (hs : Continues states after s.size last exit) :
      Continues states s' s.size f.first f.last := by
    intro i hi hne
    unfold Touched at hi
    rw [hs i (by unfold Touched; omega) (by omega), hother i (by omega) hne]
  refine ⟨by omega, by omega, ?_, ?_, ?_, ?_⟩
  · intro i hi hne
    rw [hother i hne (by omega), hf.kept i hi (by omega)]
  · rw [hother exit hne.symm (by omega), hf.kept exit hexitlt (by omega), hexit]
  · rintro states hs w ⟨k, -, -, hw⟩
    exact Path.of_star ((hs f.last (by unfold Touched; omega) (by omega)).trans hendFork)
      (hf.complete states (hcopy hs)) hw ((hs last (.inl rfl) hne).trans hlastFork)
  · intro states hs n w t ht path
    have hta : t ≠ last := fun heq => hne (heq.symm.trans (ht (.inl heq)))
    have htend : t ≠ f.last := by
      unfold Touched at *
      omega
    have hthrough (n w) := hf.sound states (hcopy hs) n w t (by unfold Touched at *; omega)
    exact path.through_star ((hs f.last (by unfold Touched; omega) (by omega)).trans hendFork) htend
      hthrough ((hs last (.inl rfl) hne).trans hlastFork) hta

/-- A chain from a state that was just added is a fragment. -/
theorem Chain.built {s s' : Array NfaState} {last : Nat} {l : Language Char}
    (h : Chain (s.push {}) s.size last s' l) : Built s ⟨s.size, last⟩ s' l where
  toChain := h.of_push_source rfl
  first_new := Nat.le_refl _

/-- A repetition reads as many texts of its fragment as its bounds allow. -/
theorem buildRepetition_built {fragment : Builder Fragment} {l : Language Char}
    (hfragment : Builds fragment l) {min : Nat} {max : Option Nat}
    (hmax : ∀ m, max = some m → min ≤ m) :
    Builds (buildRepetition limit fragment min max) (powers min max l) := by
  intro s f' s' h
  rw [buildRepetition] at h
  obtain ⟨first, s₁, hadd, h⟩ := bind_ok h
  obtain ⟨rfl, rfl⟩ := add_ok hadd
  obtain ⟨last, s₂, hcopies, h⟩ := bind_ok h
  have hcopies := buildCopies_chain hfragment min Array.getElem?_push_size hcopies
  obtain ⟨exit, s₃, hadd, h⟩ := bind_ok h
  obtain ⟨rfl, rfl⟩ := add_ok hadd
  have hlt := lt_size_of_getElem? hcopies.blank
  have hlast : (s₂.push {})[last]? = some {} := by
    rw [getElem?_push_of_lt hlt, hcopies.blank]
  have hexit : (s₂.push {})[s₂.size]? = some {} := Array.getElem?_push_size
  -- The copies that must be there stand in front of those that may be.
  have hfinish {after} (hrest : Segment (s₂.push {}) last s₂.size after
      (powers 0 (max.map (· - min)) l)) : Built s ⟨s.size, s₂.size⟩ after (powers min max l) := by
    rw [← pow_mul_powers l hmax]
    exact (hcopies.trans (hrest.of_push_target rfl)).built
  cases max with
  | none =>
    obtain ⟨f, s₄, hf, h⟩ := bind_ok h
    obtain ⟨_, s₅, hlink, h⟩ := bind_ok h
    obtain ⟨_, s₆, hlink', h⟩ := bind_ok h
    obtain ⟨_, s₇, hlink'', h⟩ := bind_ok h
    obtain ⟨_, s₈, hlink''', h⟩ := bind_ok h
    obtain ⟨rfl, rfl⟩ := pure_ok h
    rw [link_ok hlink''', link_ok hlink'', link_ok hlink', link_ok hlink]
    exact hfinish (segment_star (hfragment _ _ _ hf) hlast hexit (by omega))
  | some max =>
    obtain ⟨last', s₄, hoptional, h⟩ := bind_ok h
    obtain ⟨_, s₅, hlink, h⟩ := bind_ok h
    obtain ⟨rfl, rfl⟩ := pure_ok h
    rw [link_ok hlink]
    exact hfinish (buildOptional_segment hfragment (max - min) hlast hexit (by omega) hoptional)

/-! ### Branches -/

/-- Branches lead from `entries`, which were added in front of the transitions of `first`, to
`last`. -/
structure Branches (before : Array NfaState) (first last : Nat) (after : Array NfaState)
    (entries : List Nat) (l : Language Char) : Prop where
  size_le : before.size ≤ after.size
  kept : ∀ i < before.size, i ≠ first → after[i]? = before[i]?
  linked : ∀ es, before[first]? = some { epsilons := es } →
    after[first]? = some { epsilons := entries ++ es }
  complete : ∀ states : Array NfaState,
    (∀ i, before.size ≤ i → i < after.size → states[i]? = after[i]?) →
    ∀ w ∈ l, ∃ q ∈ entries, ∃ n, Path states n q w last
  sound : ∀ states : Array NfaState,
    (∀ i, before.size ≤ i → i < after.size → states[i]? = after[i]?) →
    ∀ q ∈ entries, ∀ n w t, (before.size ≤ t → after.size ≤ t) → Path states n q w t →
    ∃ u ∈ l, ∃ v, u ++ v = w ∧ ∃ m ≤ n, Path states m last v t

/-- Once its first state has moves to all entries, what was built for the branches is one segment that
reads the texts of any of them. -/
theorem Branches.segment {s s' : Array NfaState} {first last : Nat} {entries : List Nat}
    {l : Language Char} (h : Branches s first last s' entries l) (hfirst : s[first]? = some {})
    (hlast : s[last]? = some {}) (hne : first ≠ last) : Segment s first last s' l := by
  have hfirstlt := lt_size_of_getElem? hfirst
  have hlastlt := lt_size_of_getElem? hlast
  have hsize := h.size_le
  have hlinked := h.linked [] hfirst
  rw [List.append_nil] at hlinked
  refine ⟨by omega, hsize, h.kept, ?_, ?_, ?_⟩
  · rw [h.kept last hlastlt hne.symm, hlast]
  · intro states hs w hw
    obtain ⟨q, hq, n, path⟩ := h.complete states
      (fun i hi hi' => hs i (.inr ⟨hi, hi'⟩) (by omega)) w hw
    exact ⟨n + 1, .skip ((hs first (.inl rfl) hne).trans hlinked) hq path⟩
  · -- The only way out of `first` is one of the entries.
    intro states hs n w t ht path
    have hta : t ≠ first := fun heq => hne (heq.symm.trans (ht (.inl heq)))
    obtain ⟨m, hm, q, hq, path⟩ | ⟨_, _, _, _, _, hc, _⟩ :=
      path.leave ((hs first (.inl rfl) hne).trans hlinked) hta
    · obtain ⟨u, hu, v, hw, m', hm', path⟩ := h.sound states
        (fun i hi hi' => hs i (.inr ⟨hi, hi'⟩) (by omega)) q hq m w t
        (by unfold Touched at ht; omega) path
      exact ⟨u, hu, v, hw, m', by omega, path⟩
    · cases hc

/-- One more branch beside others. -/
theorem Branches.add {s s₁ s' : Array NfaState} {f : Fragment} {first last : Nat}
    {entries : List Nat} {l l' : Language Char} (hf : Built s f s₁ l) (hfirst : first < s.size)
    (hlast : last < s.size)
    (hrest : Branches ((s₁.modify first fun s => { s with epsilons := f.first :: s.epsilons }).modify
      f.last fun s => { s with epsilons := last :: s.epsilons }) first last s' entries l') :
    Branches s first last s' (entries ++ [f.first]) (l + l') := by
  have hsize := hf.size_le
  have hnew := hf.first_new
  have hfirstlt := hf.source_lt
  have hendlt := lt_size_of_getElem? hf.blank
  have hend := hf.last_new
  generalize hlinked : Array.modify (Array.modify _ _ _) _ _ = linked at hrest
  have hlinkedsize : linked.size = s₁.size := by
    rw [← hlinked, Array.size_modify, Array.size_modify]
  have hle := hrest.size_le
  have hother (i : Nat) (hi : i ≠ first) (hi' : i ≠ f.last) : linked[i]? = s₁[i]? := by
    rw [← hlinked, getElem?_modify_ne _ hi', getElem?_modify_ne _ hi]
  have hcopy {states : Array NfaState}
      (hs : ∀ i, s.size ≤ i → i < s'.size → states[i]? = s'[i]?) :
      Continues states s₁ s.size f.first f.last := by
    intro i hi hne
    unfold Touched at hi
    rw [hs i (by omega) (by omega), hrest.kept i (by omega) (by omega), hother i (by omega) hne]
  -- The branch leaves through its last state, whose only transition goes to `last`.
  have hexit {states : Array NfaState}
      (hs : ∀ i, s.size ≤ i → i < s'.size → states[i]? = s'[i]?) :
      states[f.last]? = some { epsilons := [last] } := by
    rw [hs f.last hend (by omega), hrest.kept f.last (by omega) (by omega), ← hlinked]
    refine getElem?_modify_self (s := {}) _ ?_
    rw [getElem?_modify_ne _ (by omega), hf.blank]
  refine ⟨by omega, ?_, ?_, ?_, ?_⟩
  · intro i hi hne
    rw [hrest.kept i (by omega) hne, hother i hne (by omega), hf.kept i hi (by omega)]
  · intro es hes
    rw [List.append_assoc]
    refine hrest.linked (f.first :: es) ?_
    rw [← hlinked, getElem?_modify_ne _ (by omega)]
    refine getElem?_modify_self (s := { epsilons := es }) _ ?_
    rw [hf.kept first hfirst (by omega), hes]
  · rintro states hs w (hw | hw)
    · obtain ⟨_, path⟩ := hf.complete states (hcopy hs) w hw
      obtain ⟨n, path⟩ := path.append (.skip (hexit hs) (.head _) (.here last))
      rw [List.append_nil] at path
      exact ⟨f.first, by simp, n, path⟩
    · obtain ⟨q, hq, n, path⟩ := hrest.complete states
        (fun i hi hi' => hs i (by omega) hi') w hw
      exact ⟨q, List.mem_append_left _ hq, n, path⟩
  · intro states hs q hq n w t ht path
    obtain hq | hq := List.mem_append.mp hq
    · obtain ⟨u, hu, v, hw, m, hm, path⟩ := hrest.sound states
        (fun i hi hi' => hs i (by omega) hi') q hq n w t (by omega) path
      exact ⟨u, .inr hu, v, hw, m, hm, path⟩
    · obtain rfl := List.mem_singleton.mp hq
      obtain ⟨u, hu, v, hw, m, hm, path⟩ := hf.sound states (hcopy hs) n w t
        (by unfold Touched; omega) path
      obtain ⟨m', hm', q, hq, path⟩ | ⟨_, _, _, _, _, hc, _⟩ := path.leave (hexit hs) (by omega)
      · obtain rfl := List.mem_singleton.mp hq
        exact ⟨u, .inl hu, v, hw, m', by omega, path⟩
      · cases hc

/-! ### Expressions -/

mutual

/-- The fragment of an expression reads the language of the expression. -/
theorem build_built (r : Regex) (hr : r.WellBounded) : Builds (build limit r) r.language := by
  intro s f s' h
  -- An assertion reads nothing here. Patterns with assertions are refused before they get here.
  cases r with
  | empty | look _ =>
    rw [build] at h
    obtain ⟨state, s₁, hadd, h⟩ := bind_ok h
    obtain ⟨rfl, rfl⟩ := add_ok hadd
    obtain ⟨rfl, rfl⟩ := pure_ok h
    rw [Regex.language]
    exact (Chain.refl Array.getElem?_push_size).built
  | literal bytes =>
    rw [build] at h
    obtain ⟨first, s₁, hadd, h⟩ := bind_ok h
    obtain ⟨rfl, rfl⟩ := add_ok hadd
    obtain ⟨last, s₂, htext, h⟩ := bind_ok h
    obtain ⟨rfl, rfl⟩ := pure_ok h
    rw [Regex.language]
    exact (buildText_chain _ Array.getElem?_push_size htext).built
  | oneOf _ set =>
    rw [build] at h
    obtain ⟨first, s₁, hadd, h⟩ := bind_ok h
    obtain ⟨rfl, rfl⟩ := add_ok hadd
    obtain ⟨last, s₂, hadd, h⟩ := bind_ok h
    obtain ⟨rfl, rfl⟩ := add_ok hadd
    obtain ⟨_, s₃, hread, h⟩ := bind_ok h
    obtain ⟨rfl, rfl⟩ := pure_ok h
    rw [read_ok hread, Regex.language]
    exact (segment_read Array.getElem?_push_size set).built
  | repetition min max _ r =>
    rw [Regex.WellBounded] at hr
    rw [build] at h
    rw [Regex.language]
    exact buildRepetition_built (build_built r hr.2) hr.1 _ _ _ h
  | capture _ _ r =>
    rw [Regex.WellBounded] at hr
    rw [build] at h
    rw [Regex.language]
    exact build_built r hr _ _ _ h
  | concat rs =>
    rw [Regex.WellBounded] at hr
    rw [build] at h
    obtain ⟨first, s₁, hadd, h⟩ := bind_ok h
    obtain ⟨rfl, rfl⟩ := add_ok hadd
    obtain ⟨last, s₂, hrest, h⟩ := bind_ok h
    obtain ⟨rfl, rfl⟩ := pure_ok h
    rw [Regex.language]
    exact (buildSequence_chain rs hr Array.getElem?_push_size hrest).built
  | alternation rs =>
    rw [Regex.WellBounded] at hr
    rw [build] at h
    obtain ⟨first, s₁, hadd, h⟩ := bind_ok h
    obtain ⟨rfl, rfl⟩ := add_ok hadd
    obtain ⟨last, s₂, hadd, h⟩ := bind_ok h
    obtain ⟨rfl, rfl⟩ := add_ok hadd
    obtain ⟨_, s₃, hrest, h⟩ := bind_ok h
    obtain ⟨rfl, rfl⟩ := pure_ok h
    rw [Regex.language]
    -- The branches hang between two states that are both new, so their moves are known to be those of
    -- the branches.
    obtain ⟨entries, hbranches⟩ := buildBranches_branches rs hr
      (by simp only [Array.size_push]; omega) (by simp only [Array.size_push]; omega) hrest
    have hfirst : ((s.push {}).push {})[s.size]? = some {} := by
      rw [getElem?_push_of_lt (by simp), Array.getElem?_push_size]
    have hsegment := hbranches.segment hfirst Array.getElem?_push_size (by simp)
    exact (hsegment.of_push_target rfl).built

/-- The fragments of expressions in sequence read the product of their languages. -/
theorem buildSequence_chain (rs : List Regex) (hrs : Regex.AllWellBounded rs)
    {s s' : Array NfaState} {last last' : Nat} (hlast : s[last]? = some {})
    (h : buildSequence limit last rs s = .ok (last', s')) :
    Chain s last last' s' (Regex.sequenceLanguage rs) := by
  cases rs with
  | nil =>
    rw [buildSequence] at h
    obtain ⟨rfl, rfl⟩ := pure_ok h
    exact .refl hlast
  | cons r rs =>
    rw [Regex.AllWellBounded] at hrs
    rw [buildSequence] at h
    obtain ⟨f, s₁, hf, h⟩ := bind_ok h
    have hf := build_built r hrs.1 _ _ _ hf
    obtain ⟨_, s₂, hlink, h⟩ := bind_ok h
    rw [link_ok hlink] at h
    have hfirst := hf.toChain.link hlast hf.first_new
    rw [Regex.sequenceLanguage]
    exact hfirst.trans (buildSequence_chain rs hrs.2 hfirst.blank h)

/-- The fragments of expressions side by side read the union of their languages. -/
theorem buildBranches_branches (rs : List Regex) (hrs : Regex.AllWellBounded rs)
    {s s' : Array NfaState} {first last : Nat} {u : Unit} (hfirst : first < s.size)
    (hlast : last < s.size) (h : buildBranches limit first last rs s = .ok (u, s')) :
    ∃ entries, Branches s first last s' entries (Regex.branchLanguage rs) := by
  cases rs with
  | nil =>
    rw [buildBranches] at h
    obtain ⟨rfl, rfl⟩ := pure_ok h
    exact ⟨[], Nat.le_refl _, fun _ _ _ => rfl, fun _ h => h, nofun, nofun⟩
  | cons r rs =>
    rw [Regex.AllWellBounded] at hrs
    rw [buildBranches] at h
    obtain ⟨f, s₁, hf, h⟩ := bind_ok h
    have hf := build_built r hrs.1 _ _ _ hf
    have hsize := hf.size_le
    obtain ⟨_, s₂, hlink, h⟩ := bind_ok h
    obtain ⟨_, s₃, hlink', h⟩ := bind_ok h
    rw [link_ok hlink', link_ok hlink] at h
    -- Later branches are entered first, as each adds its move in front of the others.
    obtain ⟨entries, hrest⟩ := buildBranches_branches rs hrs.2
      (by rw [Array.size_modify, Array.size_modify]; omega)
      (by rw [Array.size_modify, Array.size_modify]; omega) h
    exact ⟨entries ++ [f.first], .add hf hfirst hlast hrest⟩

end

/-- The automaton of an expression accepts the language of the expression. -/
theorem accepts_iff_mem_language {r : Regex} {nfa : Nfa} (hr : r.WellBounded)
    (h : ofRegex r limit = .ok nfa) (text : List Char) :
    nfa.Accepts text ↔ text ∈ r.language := by
  obtain ⟨⟨f, states⟩, hbuild, h⟩ := ok_of_bind h
  cases h
  have hbuilt := build_built r hr _ _ _ hbuild
  have hcontinues : Continues states states 0 f.first f.last := fun _ _ _ => rfl
  constructor
  · rintro ⟨n, path⟩
    obtain ⟨u, hu, v, rfl, m, -, path⟩ := hbuilt.sound states hcontinues n text f.last
      (fun _ => rfl) path
    obtain ⟨rfl, -⟩ := path.of_blank hbuilt.blank
    rwa [List.append_nil]
  · exact fun hw => hbuilt.complete states hcontinues text hw

end GramSieve.Automaton.Nfa
