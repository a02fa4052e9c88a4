import GramSieve.Proofs.Pattern.Bounds
import GramSieve.Proofs.Regex.Branches
import GramSieve.Proofs.Regex.Language
import GramSieve.Proofs.Text.Utf8
import GramSieve.Regex.Compile

/-!
# What building expressions keeps

* `WellFormed` — no repetition asks for more than it allows, literals are text, and classes of bytes
  are ASCII.
* `wellFormed_mkConcat`, `wellFormed_mkAlternation`, … — building keeps expressions well formed.
* `wellFormed_of_resolveTree` — so does resolving the flags of a pattern.
* `wellFormed_of_compile` — so every expression that is compiled is well formed.
-/

namespace GramSieve

/-! ### Sets of ASCII characters -/

namespace CodeSet

theorem isAscii_iff {set : CodeSet} : set.isAscii = true ↔ ∀ r ∈ set, r.hi < 128 := by
  rw [isAscii, List.all_eq_true]
  simp only [decide_eq_true_eq]

/-- Merging ranges does not go beyond their ends. -/
theorem hi_lt_of_mem_mergeInto {n : Nat} {current r : CodeRange} {rest : List CodeRange}
    (hcurrent : current.hi < n) (hrest : ∀ s ∈ rest, s.hi < n) (h : r ∈ mergeInto current rest) :
    r.hi < n := by
  fun_induction mergeInto current rest with
  | case1 current =>
    rw [List.mem_singleton.mp h]
    exact hcurrent
  | case2 current s rest _ ih =>
    obtain ⟨hs, hrest⟩ := List.forall_mem_cons.mp hrest
    exact ih (Nat.max_lt.mpr ⟨hcurrent, hs⟩) hrest h
  | case3 current s rest _ ih =>
    obtain ⟨hs, hrest⟩ := List.forall_mem_cons.mp hrest
    obtain _ | ⟨_, h⟩ := h
    · exact hcurrent
    · exact ih hs hrest h

/-- So a normalized set is ASCII if its ranges were. -/
theorem isAscii_normalize {ranges : List CodeRange} (h : ∀ r ∈ ranges, r.hi < 128) :
    isAscii (normalize ranges) = true := by
  have hsorted : ∀ r ∈ ranges.mergeSort CodeRange.le, r.hi < 128 :=
    fun r hr => h r (List.mem_mergeSort.mp hr)
  unfold normalize
  split
  · rfl
  · rename_i r rest heq
    rw [heq, List.forall_mem_cons] at hsorted
    exact isAscii_iff.mpr fun s hs => hi_lt_of_mem_mergeInto hsorted.1 hsorted.2 hs

/-- What two sets share lies within both. -/
theorem exists_of_mem_inter {s t : CodeSet} {r : CodeRange} (h : r ∈ inter s t) :
    ∃ a ∈ s, ∃ b ∈ t, r.hi ≤ a.hi ∧ b.lo ≤ r.lo ∧ r.hi ≤ b.hi := by
  obtain ⟨a, ha, h⟩ := List.mem_flatMap.mp h
  obtain ⟨b, hb, h⟩ := List.mem_filterMap.mp h
  refine ⟨a, ha, b, hb, ?_⟩
  unfold CodeRange.inter? at h
  split at h
  · cases h
    exact ⟨Nat.min_le_left _ _, Nat.le_max_right _ _, Nat.min_le_right _ _⟩
  · cases h

end CodeSet

namespace Regex

open Pattern Text

mutual

/-- No repetition asks for more than it allows, the bytes of literals are text, and classes of bytes
are ASCII. -/
def WellFormed : Regex → Prop
  | .literal bytes => ∃ text, bytes = Utf8.encode text
  | .oneOf alphabet set => alphabet = .bytes → set.isAscii = true
  | .repetition min max _ r => (∀ m, max = some m → min ≤ m) ∧ r.WellFormed
  | .capture _ _ r => r.WellFormed
  | .concat rs => AllWellFormed rs
  | .alternation rs => AllWellFormed rs
  | _ => True

/-- Every expression of a list is well formed. -/
def AllWellFormed : List Regex → Prop
  | [] => True
  | r :: rs => r.WellFormed ∧ AllWellFormed rs

end

/-- Expressions are well formed if each of them is. -/
theorem allWellFormed_iff {rs : List Regex} : AllWellFormed rs ↔ ∀ r ∈ rs, r.WellFormed := by
  induction rs with
  | nil => simp [AllWellFormed]
  | cons r rs ih => rw [AllWellFormed, ih, List.forall_mem_cons]

mutual

/-- In a well formed expression no repetition asks for more than it allows. -/
theorem WellFormed.wellBounded {r : Regex} (h : r.WellFormed) : r.WellBounded := by
  cases r with
  | repetition min max greedy r => exact ⟨h.1, WellFormed.wellBounded h.2⟩
  | capture index name r => exact WellFormed.wellBounded (r := r) h
  | concat rs =>
    have hrs : AllWellFormed rs := h
    exact AllWellFormed.allWellBounded hrs
  | alternation rs =>
    have hrs : AllWellFormed rs := h
    exact AllWellFormed.allWellBounded hrs
  | empty | literal | oneOf | look => trivial

theorem AllWellFormed.allWellBounded {rs : List Regex} (h : AllWellFormed rs) :
    AllWellBounded rs := by
  cases rs with
  | nil => trivial
  | cons r rs => exact ⟨WellFormed.wellBounded h.1, AllWellFormed.allWellBounded h.2⟩

end

/-! ### Building -/

/-- The literal of a text is text. -/
theorem wellFormed_ofText (text : List Char) : (ofText text).WellFormed := by
  unfold ofText mkLiteral
  split
  · trivial
  · exact ⟨text, rfl⟩

/-- The byte of an ASCII character is its number. -/
theorem codeBytes_bytes {n : Nat} (h : n < 128) :
    codeBytes .bytes n = Utf8.encode [Char.ofNat n] := by
  have hval : (Char.ofNat n).val.toNat = n := toNat_ofNat_of_isValidChar (.inl (by omega))
  rw [Utf8.encode, List.flatMap_singleton, String.utf8EncodeChar.eq_1, hval]
  exact (if_pos (by omega)).symm

/-- The bytes of a code point write a character, if those that are bytes are ASCII. -/
theorem codeBytes_eq {alphabet : Alphabet} {n : Nat} (h : alphabet = .bytes → n < 128) :
    codeBytes alphabet n = Utf8.encode [Char.ofNat n] := by
  cases alphabet with
  | unicode => exact (List.flatMap_singleton ..).symm
  | bytes => exact codeBytes_bytes (h rfl)

/-- A class becomes a literal only if it has one character. -/
theorem wellFormed_mkClass {alphabet : Alphabet} {set : CodeSet}
    (h : alphabet = .bytes → set.isAscii = true) : (mkClass alphabet set).WellFormed := by
  unfold mkClass
  split
  · exact fun _ => rfl
  · rename_i r
    split
    · rename_i hr
      have hlt : alphabet = .bytes → r.lo < 128 := by
        intro ha
        have := CodeSet.isAscii_iff.mp (h ha) r (.head _)
        omega
      rw [codeBytes_eq hlt]
      exact wellFormed_ofText _
    · exact h
  · exact h

/-- Cutting both bounds of a repetition off at one keeps their order. -/
theorem min_le_of_cut {min : Nat} {max : Option Nat} (hbounds : ∀ m, max = some m → min ≤ m) :
    ∀ m, some ((max.map (Nat.min · 1)).getD 1) = some m → Nat.min min 1 ≤ m := by
  intro m hm
  cases hm
  cases max with
  | none => exact Nat.min_le_right _ _
  | some m => exact Nat.le_min.mpr ⟨Nat.le_trans (Nat.min_le_left _ _) (hbounds m rfl),
      Nat.min_le_right _ _⟩

/-- A repetition of what has no width may lose its bounds, but gets no wrong ones. -/
theorem wellFormed_mkRepetition {min : Nat} {max : Option Nat} {greedy : Bool} {sub : Regex}
    (hbounds : ∀ m, max = some m → min ≤ m) (hsub : sub.WellFormed) :
    (mkRepetition min max greedy sub).WellFormed := by
  unfold mkRepetition
  -- What matches the empty text only is repeated at most once.
  generalize hused : (if sub.isZeroWidth then
    (Nat.min min 1, some ((max.map (Nat.min · 1)).getD 1)) else (min, max)) = bounds
  have hle : ∀ m, bounds.2 = some m → bounds.1 ≤ m := by
    rw [← hused]
    split
    · exact min_le_of_cut hbounds
    · exact hbounds
  obtain ⟨lo, hi⟩ := bounds
  simp only
  split
  · trivial
  · exact hsub
  · exact ⟨hle, hsub⟩

/-- The parts of a well formed expression are well formed. -/
theorem wellFormed_of_mem_parts {r part : Regex} (h : r.WellFormed) (hpart : part ∈ parts r) :
    part.WellFormed := by
  unfold parts at hpart
  split at hpart
  · exact allWellFormed_iff.mp h part hpart
  · cases hpart
  · rw [List.mem_singleton.mp hpart]
    exact h

/-- Two literals that are joined are text. -/
theorem wellFormed_consJoined {r : Regex} {rs : List Regex} (hr : r.WellFormed)
    (hrs : AllWellFormed rs) : AllWellFormed (consJoined r rs) := by
  unfold consJoined
  split
  · obtain ⟨text, rfl⟩ := hr
    obtain ⟨⟨more, rfl⟩, hrs⟩ := hrs
    exact ⟨⟨text ++ more, (Utf8.encode_append text more).symm⟩, hrs⟩
  · exact ⟨hr, hrs⟩

/-- So joining neighbours keeps them well formed. -/
theorem wellFormed_joinLiterals {rs : List Regex} (h : ∀ r ∈ rs, r.WellFormed) :
    AllWellFormed (joinLiterals rs) := by
  induction rs with
  | nil => trivial
  | cons r rs ih =>
    obtain ⟨hr, hrs⟩ := List.forall_mem_cons.mp h
    exact wellFormed_consJoined hr (ih hrs)

/-- So does building a sequence. -/
theorem wellFormed_mkConcat {rs : List Regex} (h : ∀ r ∈ rs, r.WellFormed) :
    (mkConcat rs).WellFormed := by
  have hjoined : AllWellFormed (joinLiterals (rs.flatMap parts)) := by
    apply wellFormed_joinLiterals
    intro part hpart
    obtain ⟨r, hr, hpart⟩ := List.mem_flatMap.mp hpart
    exact wellFormed_of_mem_parts (h r hr) hpart
  unfold mkConcat
  split
  · trivial
  · rename_i r heq
    rw [heq] at hjoined
    exact hjoined.1
  · exact hjoined

/-- The branches of a well formed expression are well formed. -/
theorem wellFormed_of_mem_branches {r branch : Regex} (h : r.WellFormed)
    (hbranch : branch ∈ branches r) : branch.WellFormed := by
  unfold branches at hbranch
  split at hbranch
  · exact allWellFormed_iff.mp h branch hbranch
  · rw [List.mem_singleton.mp hbranch]
    exact h

/-- A text of one byte is an ASCII character. -/
theorem lt_of_encode_eq_singleton {text : List Char} {b : UInt8} (h : Utf8.encode text = [b]) :
    b.toNat < 128 := by
  cases text with
  | nil => exact absurd h (List.cons_ne_nil b []).symm
  | cons c text =>
    obtain ⟨a, tail, hbytes, hnext⟩ := Utf8.next_utf8EncodeChar c []
    rw [Utf8.encode, List.flatMap_cons, hbytes] at h
    obtain ⟨rfl, htail⟩ := List.cons.inj h
    obtain ⟨rfl, -⟩ := List.append_eq_nil_iff.mp htail
    by_contra hb
    -- A byte that is not ASCII is none, or the start of a longer character.
    rw [List.append_nil, Utf8.next, Utf8.lengthOf_eq, if_neg hb] at hnext
    split at hnext
    · cases hnext
    · split at hnext
      · grind
      · cases hnext

/-- A branch of one byte is ASCII, as it is text. -/
theorem lt_of_singleByte? {r : Regex} {n : Nat} (hr : r.WellFormed) (h : singleByte? r = some n) :
    n < 128 := by
  unfold singleByte? at h
  split at h
  · obtain ⟨text, htext⟩ := hr
    cases h
    exact lt_of_encode_eq_singleton htext.symm
  · cases h

/-- A class of bytes is ASCII. -/
theorem isAscii_of_classOver? {r : Regex} {set : CodeSet} (hr : r.WellFormed)
    (h : classOver? .bytes r = some set) : set.isAscii = true := by
  unfold classOver? at h
  split at h
  · split at h
    · rename_i hset
      cases h
      obtain ha | hset := (Bool.or_eq_true _ _).mp hset
      · exact hr (of_decide_eq_true ha)
      · exact hset
    · cases h
  · cases h

/-- Literals of one byte each are ASCII as a set. -/
theorem isAscii_of_singleBytes {rs : List Regex} {ns : List Nat} (hrs : ∀ r ∈ rs, r.WellFormed)
    (h : rs.mapM singleByte? = some ns) :
    CodeSet.isAscii (CodeSet.normalize (ns.map CodeRange.single)) = true := by
  refine CodeSet.isAscii_normalize fun range hrange => ?_
  obtain ⟨n, hn, rfl⟩ := List.mem_map.mp hrange
  obtain ⟨r, hr, hn⟩ := exists_of_mapM h n hn
  exact lt_of_singleByte? (hrs r hr) hn

/-- Classes of bytes are ASCII together. -/
theorem isAscii_of_classes {rs : List Regex} {sets : List CodeSet} (hrs : ∀ r ∈ rs, r.WellFormed)
    (h : rs.mapM (classOver? .bytes) = some sets) :
    CodeSet.isAscii (CodeSet.normalize sets.flatten) = true := by
  refine CodeSet.isAscii_normalize fun range hrange => ?_
  obtain ⟨set, hset, hrange⟩ := List.mem_flatten.mp hrange
  obtain ⟨r, hr, hset⟩ := exists_of_mapM h set hset
  exact CodeSet.isAscii_iff.mp (isAscii_of_classOver? (hrs r hr) hset) range hrange

/-- So the class that branches become is well formed. -/
theorem wellFormed_of_asClass? {rs : List Regex} {r : Regex} (hrs : ∀ r ∈ rs, r.WellFormed)
    (h : asClass? rs = some r) : r.WellFormed := by
  obtain ⟨ns, -, rfl⟩ | ⟨ns, hns, rfl⟩ | ⟨alphabet, sets, hsets, rfl⟩ := asClass?_cases h
  · exact wellFormed_mkClass nofun
  · exact wellFormed_mkClass fun _ => isAscii_of_singleBytes hrs hns
  · refine wellFormed_mkClass ?_
    rintro rfl
    exact isAscii_of_classes hrs hsets

/-- What all branches start with is a part of each of them. -/
theorem wellFormed_of_commonParts? {rs common : List Regex} (hrs : ∀ r ∈ rs, r.WellFormed)
    (h : commonParts? rs = some common) : ∀ r ∈ common, r.WellFormed := by
  obtain ⟨hsome, hcommon⟩ := exists_of_commonParts? h
  obtain ⟨r, hr⟩ := List.exists_mem_of_ne_nil _ hsome
  obtain ⟨rest, rfl⟩ := hcommon r hr
  intro part hpart
  exact allWellFormed_iff.mp (hrs _ hr) part (List.mem_append_left _ hpart)

/-- Taking common parts out of branches leaves them well formed, however often it is done. -/
theorem wellFormed_mkAlternationWith {fuel : Nat} {rs : List Regex} (h : ∀ r ∈ rs, r.WellFormed) :
    (mkAlternationWith fuel rs).WellFormed := by
  induction fuel generalizing rs with
  | zero => exact allWellFormed_iff.mpr h
  | succ fuel ih =>
    have hbranches : ∀ r ∈ rs.flatMap branches, r.WellFormed := by
      intro branch hbranch
      obtain ⟨r, hr, hbranch⟩ := List.mem_flatMap.mp hbranch
      exact wellFormed_of_mem_branches (h r hr) hbranch
    unfold mkAlternationWith
    split
    · exact fun _ => rfl
    · rename_i r heq
      exact hbranches r (heq ▸ .head _)
    simp only
    split
    · rename_i heq
      exact wellFormed_of_asClass? hbranches heq
    split
    · exact allWellFormed_iff.mpr hbranches
    · exact allWellFormed_iff.mpr hbranches
    · -- What the branches start with is taken out, and what is left of them is built with less fuel.
      rename_i common _ hcommon
      apply wellFormed_mkConcat
      intro r hr
      obtain hr | hr := List.mem_append.mp hr
      · exact wellFormed_of_commonParts? hbranches hcommon r hr
      rw [List.mem_singleton.mp hr]
      apply ih
      intro rest hrest
      obtain ⟨branch, hbranch, rfl⟩ := List.mem_map.mp hrest
      apply wellFormed_mkConcat
      intro part hpart
      exact wellFormed_of_mem_parts (hbranches branch hbranch) (List.mem_of_mem_drop hpart)

theorem wellFormed_mkAlternation {rs : List Regex} (h : ∀ r ∈ rs, r.WellFormed) :
    (mkAlternation rs).WellFormed :=
  wellFormed_mkAlternationWith h

/-! ### Resolving -/

/-- Moving a letter to the other case keeps it ASCII. -/
theorem isAscii_asciiCaseClosure {set : CodeSet} (h : set.isAscii = true) :
    (asciiCaseClosure set).isAscii = true := by
  -- What is moved lies within the letters of one case.
  have hcut {cut r : CodeRange} (hr : r ∈ CodeSet.inter set [cut]) : r.hi ≤ cut.hi := by
    obtain ⟨_, -, b, hb, -, -, hle⟩ := CodeSet.exists_of_mem_inter hr
    exact List.mem_singleton.mp hb ▸ hle
  refine CodeSet.isAscii_normalize fun r hr => ?_
  obtain hr | hr := List.mem_append.mp hr
  · obtain hr | hr := List.mem_append.mp hr
    · exact CodeSet.isAscii_iff.mp h r hr
    · obtain ⟨s, hs, rfl⟩ := List.mem_map.mp hr
      have hle := hcut hs
      have := s.lo_le_hi
      simp only [CodeRange.between] at hle ⊢
      omega
  · obtain ⟨s, hs, rfl⟩ := List.mem_map.mp hr
    have hle := hcut hs
    have := s.lo_le_hi
    simp only [CodeRange.between] at hle ⊢
    omega

/-- A letter from a to z, of either case, is ASCII. -/
theorem lt_of_isAlpha {c : Char} (h : c.isAlpha = true) : c.toNat < 128 := by
  obtain hupper | hlower := (Bool.or_eq_true _ _).mp h
  · have hle : c.toNat ≤ 'Z'.toNat := (of_decide_eq_true hupper).2
    exact Nat.lt_of_le_of_lt hle (by decide)
  · have hle : c.toNat ≤ 'z'.toNat := of_decide_eq_true ((Bool.and_eq_true _ _).mp hlower).2
    exact Nat.lt_of_le_of_lt hle (by decide)

/-- Where classes are sets of bytes, what is checked to be text is ASCII. -/
theorem isAscii_of_checkText {alphabet : Alphabet} {span : Span} {set checked : CodeSet}
    (h : checkText alphabet span set = .ok checked) (ha : alphabet = .bytes) :
    checked.isAscii = true := by
  unfold checkText at h
  split at h
  · cases h
  · rename_i hset
    cases h
    simpa [ha] using hset

/-- A literal resolves to text or to a class of its cases. -/
theorem wellFormed_of_resolveLiteral {flags : Flags} {l : Literal} {r : Regex}
    (h : resolveLiteral flags l = .ok r) : r.WellFormed := by
  obtain ⟨c, -, h⟩ := ok_of_bind h
  split at h
  · cases h
    exact wellFormed_ofText _
  · rename_i hletter
    cases h
    refine wellFormed_mkClass fun ha => ?_
    have hunicode : flags.unicode = false := by
      cases hu : flags.unicode
      · rfl
      · rw [Flags.alphabet, hu] at ha
        cases ha
    -- In bytes only the letters of ASCII have another case.
    have halpha : c.isAlpha = true := by
      simp only [hunicode, Bool.not_false, Bool.true_and, Bool.or_eq_true, not_or,
        Bool.not_eq_true, Bool.not_eq_false'] at hletter
      exact hletter.2
    rw [ha]
    refine isAscii_asciiCaseClosure (CodeSet.isAscii_iff.mpr fun s hs => ?_)
    rw [List.mem_singleton.mp hs]
    exact lt_of_isAlpha halpha

/-- A dot resolves to a class of characters, never to one of bytes. -/
theorem wellFormed_of_resolveDot {flags : Flags} {span : Span} {r : Regex}
    (h : resolveDot flags span = .ok r) : r.WellFormed := by
  unfold resolveDot at h
  split at h
  · cases h
  split at h
  · cases h
    exact nofun
  split at h <;>
  · cases h
    exact nofun

theorem wellFormed_resolveGroup {kind : GroupKind} {r : Regex} (h : r.WellFormed) :
    (resolveGroup kind r).WellFormed := by
  cases kind <;> exact h

mutual

/-- A pattern resolves to a well formed expression if its own bounds are right. -/
theorem wellFormed_of_resolveTree {flags after : Flags} {t : Tree} {r : Regex}
    (ht : t.WellBounded) (h : resolveTree flags t = .ok (r, after)) : r.WellFormed := by
  -- Bounds are the only thing that has to be known of the pattern. All else is checked on the way.
  cases t with
  | empty | flags | assertion =>
    rw [resolveTree] at h
    cases h
    trivial
  | literal l =>
    rw [resolveTree] at h
    obtain ⟨r, hr, h⟩ := ok_of_bind h
    cases h
    exact wellFormed_of_resolveLiteral hr
  | dot span =>
    rw [resolveTree] at h
    obtain ⟨r, hr, h⟩ := ok_of_bind h
    cases h
    exact wellFormed_of_resolveDot hr
  | property =>
    rw [resolveTree] at h
    obtain ⟨set, -, h⟩ := ok_of_bind h
    cases h
    exact wellFormed_mkClass nofun
  | perl =>
    rw [resolveTree] at h
    obtain ⟨set, hset, h⟩ := ok_of_bind h
    cases h
    exact wellFormed_mkClass (isAscii_of_checkText hset)
  | bracketed span negated inner =>
    rw [resolveTree] at h
    obtain ⟨members, -, h⟩ := ok_of_bind h
    obtain ⟨set, hset, h⟩ := ok_of_bind h
    cases h
    exact wellFormed_mkClass (isAscii_of_checkText hset)
  | repetition span bounds greedy sub =>
    rw [resolveTree] at h
    obtain ⟨⟨r, _⟩, hr, h⟩ := ok_of_bind h
    cases h
    exact wellFormed_mkRepetition ht.1 (wellFormed_of_resolveTree ht.2 hr)
  | group span kind sub =>
    unfold resolveTree at h
    obtain ⟨⟨r, _⟩, hr, h⟩ := ok_of_bind h
    cases h
    exact wellFormed_resolveGroup (wellFormed_of_resolveTree (t := sub) ht hr)
  | alternation span branches =>
    rw [resolveTree] at h
    obtain ⟨⟨rs, _⟩, hrs, h⟩ := ok_of_bind h
    cases h
    exact wellFormed_mkAlternation (wellFormed_of_resolveTrees ht hrs)
  | concat span parts =>
    rw [resolveTree] at h
    obtain ⟨⟨rs, _⟩, hrs, h⟩ := ok_of_bind h
    cases h
    exact wellFormed_mkConcat (wellFormed_of_resolveTrees ht hrs)

/-- So do the parts of a pattern, whatever flags are changed between them. -/
theorem wellFormed_of_resolveTrees {flags after : Flags} {ts : List Tree} {rs : List Regex}
    (hts : Tree.AllWellBounded ts) (h : resolveTrees flags ts = .ok (rs, after)) :
    ∀ r ∈ rs, r.WellFormed := by
  cases ts with
  | nil =>
    rw [resolveTrees] at h
    cases h
    exact List.forall_mem_nil _
  | cons t ts =>
    rw [resolveTrees] at h
    obtain ⟨⟨r, _⟩, hr, h⟩ := ok_of_bind h
    obtain ⟨⟨rs, _⟩, hrs, h⟩ := ok_of_bind h
    cases h
    exact List.forall_mem_cons.mpr
      ⟨wellFormed_of_resolveTree hts.1 hr, wellFormed_of_resolveTrees hts.2 hrs⟩

end

/-! ### Compiling -/

/-- Naming an error another way makes no result. -/
theorem ok_of_mapError {ε ε' α : Type} {f : ε → ε'} {x : Except ε α} {a : α}
    (h : x.mapError f = .ok a) : x = .ok a := by
  cases x with
  | error e => cases h
  | ok b => exact congrArg Except.ok (Except.ok.inj h)

/-- Every expression that is compiled is well formed. -/
theorem wellFormed_of_compile {text : String} {fold : Option Text.CaseFold} {r : Regex}
    (h : compile text fold = .ok r) : r.WellFormed := by
  obtain ⟨tree, hparse, h⟩ := ok_of_bind h
  have htree := wellBounded_of_parse (ok_of_mapError hparse)
  obtain ⟨resolved, hresolve, h⟩ := ok_of_bind h
  obtain ⟨⟨_, _⟩, htrees, heq⟩ := ok_of_bind (ok_of_mapError hresolve)
  split at h
  · cases h
  cases h
  cases heq
  refine wellFormed_of_resolveTree ?_ htrees
  cases fold with
  | none => exact htree
  | some fold => exact htree.fold fold

/-- So none of its repetitions asks for more than it allows. -/
theorem wellBounded_of_compile {text : String} {fold : Option Text.CaseFold} {r : Regex}
    (h : compile text fold = .ok r) : r.WellBounded :=
  (wellFormed_of_compile h).wellBounded

end Regex

end GramSieve
