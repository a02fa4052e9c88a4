import GramSieve.Proofs.Automaton.Subset
import GramSieve.Proofs.Regex.Literal

namespace GramSieve

/-!
# The automaton of a literal

* `Nfa.Line`, `Nfa.build_line` — the fragment of an expression that is a text is a line that reads the
  text.
* `Nfa.exists_closure_line` — without reading, a line leads to one state that matters.
* `Dfa.Spells`, `Dfa.spells_of_ofRegex` — so the deterministic automaton is a line as well: each state has
  the one transition that reads the next character, and the last one accepts.
-/

/-! ### Expressions that are a text -/

namespace Regex

mutual

/-- There are no repetitions in a literal, so none has wrong bounds. -/
theorem wellBounded_of_literalText? {r : Regex} {text : List Char} (h : r.literalText? = some text) :
    r.WellBounded := by
  cases r with
  | empty | literal bytes => trivial
  | capture index name r =>
    rw [literalText?] at h
    show r.WellBounded
    exact wellBounded_of_literalText? h
  | concat rs =>
    rw [literalText?] at h
    show AllWellBounded rs
    exact allWellBounded_of_literalTexts? h
  | oneOf | look | repetition | alternation => cases h

theorem allWellBounded_of_literalTexts? {rs : List Regex} {text : List Char}
    (h : literalText?.literalTexts? rs = some text) : AllWellBounded rs := by
  cases rs with
  | nil => trivial
  | cons r rs =>
    rw [literalText?.literalTexts?] at h
    obtain ⟨first, hfirst, h⟩ := Option.bind_eq_some_iff.mp h
    obtain ⟨rest, hrest, -⟩ := Option.bind_eq_some_iff.mp h
    exact ⟨wellBounded_of_literalText? hfirst, allWellBounded_of_literalTexts? hrest⟩

end

end Regex

namespace Automaton

open Text

namespace Nfa

/-! ### Lines -/

/-- A line of states to the last one: each of them moves on to the next one, or it reads one character
and nothing else. -/
inductive Line (states : Array NfaState) (last : Nat) : Nat → List Char → Prop
  | done : Line states last last []
  | skip {p q : Nat} {text : List Char} (hp : states[p]? = some { epsilons := [q] })
      (h : Line states last q text) : Line states last p text
  | read {p q : Nat} {c : Char} {text : List Char}
      (hp : states[p]? = some { ranges := [.single c.toNat], next := q })
      (h : Line states last q text) : Line states last p (c :: text)

variable {states states' : Array NfaState} {last p q : Nat} {text : List Char} {limit : Nat}

/-- Lines one behind the other read their texts one behind the other. -/
theorem Line.append {u v : List Char} (first : Line states q p u) (second : Line states last q v) :
    Line states last p (u ++ v) := by
  induction first with
  | done => exact second
  | skip hp _ ih => exact .skip hp ih
  | read hp _ ih => exact .read hp ih

/-- Nothing but blank states may change. -/
theorem Line.mono (h : Line states last p text)
    (hkept : ∀ (i : Nat) (s : NfaState), states[i]? = some s → s ≠ {} → states'[i]? = some s) :
    Line states' last p text := by
  induction h with
  | done => exact .done
  | skip hp _ ih => exact .skip (hkept _ _ hp (by simp)) ih
  | read hp _ ih => exact .read (hkept _ _ hp (by simp)) ih

/-- The states for a text are a line behind the state that they continue. -/
theorem buildText_line (text : List Char) {s s' : Array NfaState} {last last' : Nat}
    (hlast : s[last]? = some {}) (h : buildText limit last text s = .ok (last', s')) :
    Line s' last' last text := by
  induction text generalizing last s with
  | nil =>
    obtain ⟨rfl, rfl⟩ := pure_ok h
    exact .done
  | cons c rest ih =>
    have hlt := lt_size_of_getElem? hlast
    rw [buildText] at h
    obtain ⟨next, s₁, hadd, h⟩ := bind_ok h
    obtain ⟨rfl, rfl⟩ := add_ok hadd
    obtain ⟨_, s₂, hread, h⟩ := bind_ok h
    rw [read_ok hread] at h
    have hnext := (segment_read hlast [CodeRange.single c.toNat]).blank
    refine .read ?_ (ih hnext h)
    -- The rest of the text does not touch the state that reads the first character.
    rw [(buildText_chain rest hnext h).kept last (by simp; omega) (by omega)]
    exact getElem?_modify_self (s := {}) _ (by rw [getElem?_push_of_lt hlt, hlast])

/-- A blank state is linked to the line of a fragment that was built behind it. Later only the last
state of the fragment changes. -/
theorem Line.link {s s₁ s' : Array NfaState} {f : Fragment} {l : Language Char}
    (hline : Line s₁ f.last f.first text) (hlast : s[last]? = some {}) (hbuilt : Built s f s₁ l)
    (hkept : ∀ i < s₁.size, i ≠ f.last →
      s'[i]? = (s₁.modify last fun s => { s with epsilons := f.first :: s.epsilons })[i]?) :
    Line s' f.last last text := by
  have hlt := lt_size_of_getElem? hlast
  have hfirst := hbuilt.first_new
  have hend := hbuilt.last_new
  have hblank : s₁[last]? = some {} := by rw [hbuilt.kept last hlt (by omega), hlast]
  have hne : last ≠ f.last := by omega
  refine .skip ?_ (hline.mono fun i state hi hstate => ?_)
  · rw [hkept last (lt_size_of_getElem? hblank) hne]
    exact getElem?_modify_self (s := {}) _ hblank
  · -- Both ends of the link are blank, so that nothing on the line changes.
    have hilast : i ≠ last := by
      rintro rfl
      exact hstate (Option.some.inj (hi.symm.trans hblank))
    have hiend : i ≠ f.last := by
      rintro rfl
      exact hstate (Option.some.inj (hi.symm.trans hbuilt.blank))
    rw [hkept i (lt_size_of_getElem? hi) hiend, getElem?_modify_ne _ hilast, hi]

mutual

/-- The fragment of a literal is one line: there is nothing to choose and nothing to repeat. -/
theorem build_line {r : Regex} {text : List Char} {s s' : Array NfaState} {f : Fragment}
    (hr : r.literalText? = some text) (h : build limit r s = .ok (f, s')) :
    Line s' f.last f.first text := by
  cases r with
  | empty =>
    rw [Regex.literalText?] at hr
    cases hr
    rw [build] at h
    obtain ⟨state, s₁, hadd, h⟩ := bind_ok h
    obtain ⟨rfl, rfl⟩ := pure_ok h
    exact .done
  | literal bytes =>
    rw [Regex.literalText?] at hr
    rw [build] at h
    obtain ⟨first, s₁, hadd, h⟩ := bind_ok h
    obtain ⟨rfl, rfl⟩ := add_ok hadd
    obtain ⟨last, s₂, htext, h⟩ := bind_ok h
    obtain ⟨rfl, rfl⟩ := pure_ok h
    -- Bytes that are no text would be built as replacements, but such a literal is not asked for.
    cases hdecode : Utf8.decode bytes with
    | error fault =>
      rw [hdecode] at hr
      cases hr
    | ok decoded =>
      rw [hdecode] at hr
      cases hr
      rw [Utf8.decodeLossy_of_decode hdecode] at htext
      exact buildText_line _ Array.getElem?_push_size htext
  | capture index name r =>
    rw [Regex.literalText?] at hr
    rw [build] at h
    exact build_line hr h
  | concat rs =>
    rw [Regex.literalText?] at hr
    rw [build] at h
    obtain ⟨first, s₁, hadd, h⟩ := bind_ok h
    obtain ⟨rfl, rfl⟩ := add_ok hadd
    obtain ⟨last, s₂, hrest, h⟩ := bind_ok h
    obtain ⟨rfl, rfl⟩ := pure_ok h
    exact buildSequence_line hr Array.getElem?_push_size hrest
  | oneOf | look | repetition | alternation => cases hr

/-- So are the fragments of a sequence of literals, each of which starts where the one before ended. -/
theorem buildSequence_line {rs : List Regex} {text : List Char} {s s' : Array NfaState}
    {last last' : Nat} (hrs : Regex.literalText?.literalTexts? rs = some text)
    (hlast : s[last]? = some {}) (h : buildSequence limit last rs s = .ok (last', s')) : Line s' last' last text := by
  cases rs with
  | nil =>
    rw [Regex.literalText?.literalTexts?] at hrs
    cases hrs
    rw [buildSequence] at h
    obtain ⟨rfl, rfl⟩ := pure_ok h
    exact .done
  | cons r rs =>
    rw [Regex.literalText?.literalTexts?] at hrs
    obtain ⟨u, hu, hrs⟩ := Option.bind_eq_some_iff.mp hrs
    obtain ⟨v, hv, hrs⟩ := Option.bind_eq_some_iff.mp hrs
    cases hrs
    rw [buildSequence] at h
    obtain ⟨f, s₁, hf, h⟩ := bind_ok h
    -- The first fragment stays as it is while the others are built behind it.
    have hbuilt := build_built r (Regex.wellBounded_of_literalText? hu) _ _ _ hf
    obtain ⟨_, s₂, hlink, h⟩ := bind_ok h
    rw [link_ok hlink] at h
    have hchain := hbuilt.toChain.link hlast hbuilt.first_new
    have hkept :=
      (buildSequence_chain rs (Regex.allWellBounded_of_literalTexts? hv) hchain.blank h).kept
    rw [Array.size_modify] at hkept
    exact ((build_line hu hf).link hlast hbuilt hkept).append (buildSequence_line hv hchain.blank h)

end

/-! ### Closures on a line -/

/-- The state at which a line stops in front of a text: it accepts, or it reads the first character. -/
def StopsAt (nfa : Nfa) (q : Nat) : List Char → Prop
  | [] => q = nfa.accept
  | c :: rest => ∃ next, nfa.states[q]? = some { ranges := [.single c.toNat], next } ∧
    Line nfa.states nfa.accept next rest

/-- The closure of a state on a line has one member. -/
theorem exists_closure_line {nfa : Nfa} {seeds : List Nat}
    (hblank : nfa.states[nfa.accept]? = some {}) (h : Line nfa.states nfa.accept p text)
    (hseeds : ∀ x, x ∈ seeds ↔ x = p) :
    ∃ q, nfa.StopsAt q text ∧ ∀ x, x ∈ nfa.closure nfa.linkCount seeds ↔ x = q := by
  simp only [mem_closure, hseeds, exists_eq_left]
  clear hseeds
  induction h with
  | done =>
    refine ⟨nfa.accept, rfl, fun x => ⟨?_, ?_⟩⟩
    · rintro ⟨-, n, path⟩
      exact (path.of_blank hblank).2
    · rintro rfl
      exact ⟨by simp [isImportant], .refl _⟩
  | @skip p q text hp _ ih =>
    obtain ⟨stop, hstop, hmem⟩ := ih
    refine ⟨stop, hstop, fun x => ?_⟩
    rw [← hmem]
    refine and_congr_right fun himportant => ⟨?_, ?_⟩
    · rintro ⟨n, path⟩
      cases path with
      | here =>
        -- The state itself does not matter.
        have haccept : p ≠ nfa.accept := by
          rintro rfl
          cases hp.symm.trans hblank
        simp [isImportant, haccept, hp] at himportant
      | skip hs hq path =>
        cases hp.symm.trans hs
        obtain rfl := List.mem_singleton.mp hq
        exact ⟨_, path⟩
    · rintro ⟨n, path⟩
      exact ⟨n + 1, .skip hp (.head _) path⟩
  | @read p q c text hp h _ =>
    refine ⟨p, ⟨q, hp, h⟩, fun x => ⟨?_, ?_⟩⟩
    · rintro ⟨-, n, path⟩
      cases path with
      | here => rfl
      | skip hs hq =>
        cases hp.symm.trans hs
        cases hq
    · rintro rfl
      exact ⟨by simp [isImportant, hp], .refl _⟩

/-- Where a line stops in front of a character, nothing but this character is read. -/
theorem leads_of_stopsAt {nfa : Nfa} {set : List Nat} {c : Char} {next : Nat}
    (hq : nfa.states[q]? = some { ranges := [.single c.toNat], next })
    (hmem : ∀ x, x ∈ set ↔ x = q) (n target : Nat) :
    nfa.Leads set n target ↔ n = c.toNat ∧ target = next := by
  have hcontains : CodeSet.contains [.single c.toNat] n = true ↔ n = c.toNat := by
    simp only [CodeSet.contains, List.any_cons, List.any_nil, CodeRange.contains, CodeRange.single,
      Bool.or_false, Bool.and_eq_true, decide_eq_true_eq]
    omega
  constructor
  · rintro ⟨x, hx, s, hs, hc, rfl⟩
    obtain rfl := (hmem x).mp hx
    cases hq.symm.trans hs
    exact ⟨hcontains.mp hc, rfl⟩
  · rintro ⟨hn, rfl⟩
    exact ⟨q, (hmem q).mpr rfl, _, hq, hcontains.mpr hn, rfl⟩

/-- The automaton of a literal is a line to a state that no transition leaves. -/
theorem line_of_ofRegex {r : Regex} {nfa : Nfa} (hr : r.literalText? = some text)
    (h : ofRegex r limit = .ok nfa) :
    Line nfa.states nfa.accept nfa.start text ∧ nfa.states[nfa.accept]? = some {} := by
  obtain ⟨⟨f, states⟩, hbuild, h⟩ := ok_of_bind h
  cases h
  exact ⟨build_line hr hbuild,
    (build_built r (Regex.wellBounded_of_literalText? hr) _ _ _ hbuild).blank⟩

end Nfa

/-! ### The deterministic automaton -/

/-- If one code point alone leads on, to one target, there is one transition. -/
theorem Swept.eq_singleton {nfa : Nfa} {set : List Nat} {sets : Array (List Nat)} {stop n next : Nat}
    {ts : List Transition} (h : Swept nfa set sets stop ts) (hlt : n < stop)
    (hleads : ∀ m target, nfa.Leads set m target ↔ m = n ∧ target = next) :
    ∃ number, ts = [⟨n, n, number⟩] ∧ ∃ targets,
      sets[number]? = some (nfa.closure nfa.linkCount targets) ∧ ∀ x, x ∈ targets ↔ x = next := by
  -- No transition holds any other code point.
  have honly (t) (ht : t ∈ ts) : t.lo = n ∧ t.hi = n := by
    have hread (m : Nat) (hlo : t.lo ≤ m) (hhi : m ≤ t.hi) : m = n := by
      obtain ⟨targets, hne, -, htargets⟩ := h.sound t ht m hlo hhi
      obtain ⟨target, htarget⟩ := List.exists_mem_of_ne_nil targets hne
      exact ((hleads m target).mp ((htargets target).mp htarget)).1
    have hproper := (h.proper t ht).1
    exact ⟨hread t.lo (Nat.le_refl _) hproper, hread t.hi hproper (Nat.le_refl _)⟩
  have hsorted := h.sorted
  cases ts with
  | nil =>
    obtain ⟨t, ht, -⟩ := h.complete n hlt next ((hleads n next).mpr ⟨rfl, rfl⟩)
    cases ht
  | cons t ts =>
    obtain ⟨hlo, hhi⟩ := honly t (.head _)
    cases ts with
    | nil =>
      obtain ⟨targets, -, hnumber, htargets⟩ := h.sound t (.head _) n hlo.le hhi.ge
      have ht : t = ⟨n, n, t.target⟩ := by
        obtain ⟨lo, hi, target⟩ := t
        obtain rfl : lo = n := hlo
        obtain rfl : hi = lo := hhi
        rfl
      refine ⟨t.target, congrArg (fun t => [t]) ht, targets, hnumber, fun x => ?_⟩
      · rw [htargets, hleads]
        exact and_iff_right rfl
    | cons other ts =>
      have hbelow := (List.pairwise_cons.mp hsorted).1 other (.head _)
      have hother := honly other (.tail _ (.head _))
      omega

namespace Dfa

/-- From a state on the automaton spells a text: each state has the one transition that reads the next
character, and the last one accepts. -/
inductive Spells (dfa : Dfa) : Nat → List Char → Prop
  | done {state : Nat} (haccept : dfa.isAccept state = true) : Spells dfa state []
  | step {state next : Nat} {c : Char} {text : List Char} (hreject : dfa.isAccept state = false)
      (htransitions : dfa.transitions state = #[⟨c.toNat, c.toNat, next⟩])
      (h : Spells dfa next text) : Spells dfa state (c :: text)

/-- A state spells no other text. -/
theorem Spells.unique {dfa : Dfa} {state : Nat} {u v : List Char} (hu : dfa.Spells state u)
    (hv : dfa.Spells state v) : u = v := by
  induction hu generalizing v with
  | done haccept =>
    cases hv with
    | done => rfl
    | step hreject => cases haccept.symm.trans hreject
  | step hreject htransitions _ ih =>
    cases hv with
    | done haccept => cases haccept.symm.trans hreject
    | step _ htransitions' h =>
      have heq := htransitions.symm.trans htransitions'
      simp only [Array.mk.injEq, List.cons.injEq, Transition.mk.injEq, and_true] at heq
      obtain ⟨hc, -, rfl⟩ := heq
      rw [Char.toNat_inj.mp hc, ih h]

/-- A state whose set is where a line stops spells the text of the line. -/
theorem spells_of_line {nfa : Nfa} {dfa : Dfa} {sets : Array (List Nat)}
    (hblank : nfa.states[nfa.accept]? = some {})
    (hall : ExploredBelow nfa sets sets.size dfa.states) (text : List Char) {p state : Nat}
    {seeds : List Nat} (hline : Nfa.Line nfa.states nfa.accept p text)
    (hseeds : ∀ x, x ∈ seeds ↔ x = p)
    (hset : sets[state]? = some (nfa.closure nfa.linkCount seeds)) : dfa.Spells state text := by
  induction text generalizing p state seeds with
  | nil =>
    obtain ⟨explored, hstate, hexplored⟩ := hall state (Array.getElem?_eq_some_iff.mp hset).1 _ hset
    obtain ⟨q, hstop, hmem⟩ := Nfa.exists_closure_line hblank hline hseeds
    refine .done ?_
    rw [isAccept, hstate, Option.any_some, hexplored.accept, Nfa.containsSorted_closure, hmem]
    exact hstop.symm
  | cons c rest ih =>
    obtain ⟨explored, hstate, hexplored⟩ := hall state (Array.getElem?_eq_some_iff.mp hset).1 _ hset
    obtain ⟨q, ⟨next, hq, hrest⟩, hmem⟩ := Nfa.exists_closure_line hblank hline hseeds
    obtain ⟨last, hswept⟩ := hexplored.swept
    -- Only one state of the line matters in the closure, and it leads on with `c` alone, so the sweep
    -- has made a single transition.
    obtain ⟨number, htransitions, targets, hnumber, htargets⟩ :=
      (hswept (max last (c.toNat + 1)) (Nat.le_max_left ..)).eq_singleton
        (Nat.lt_of_lt_of_le (Nat.lt_succ_self _) (Nat.le_max_right ..))
        (Nfa.leads_of_stopsAt hq hmem)
    refine .step ?_ ?_ (ih hrest htargets hnumber)
    · rw [isAccept, hstate, Option.any_some, hexplored.accept, Bool.eq_false_iff, ne_eq,
        Nfa.containsSorted_closure, hmem]
      -- A blank state cannot be the one that reads `c`.
      rintro rfl
      cases hq.symm.trans hblank
    · rw [transitions, hstate]
      exact Array.toList_inj.mp (List.reverse_injective htransitions)

/-- The automaton of an expression that is a text spells this text. -/
theorem spells_of_ofRegex {r : Regex} {text : List Char} {dfa : Dfa} {limit : Nat}
    (hr : r.literalText? = some text) (h : ofRegex r limit = .ok dfa) : dfa.Spells start text := by
  obtain ⟨nfa, hnfa, h⟩ := ok_of_bind h
  obtain ⟨hline, hblank⟩ := Nfa.line_of_ofRegex hr hnfa
  obtain ⟨sets, -, -, hall, hstart⟩ := exploredBelow_of_ofNfa h
  exact spells_of_line hblank hall text hline (fun _ => List.mem_singleton) hstart

end Dfa

end Automaton

end GramSieve
