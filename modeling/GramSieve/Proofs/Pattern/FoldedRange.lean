import GramSieve.Proofs.Pattern.Runs
import GramSieve.Regex.Resolve
import Mathlib.Data.Char
import Mathlib.Data.Set.Function
import Mathlib.Order.Bounds.Basic

/-!
# Folding the ranges of classes

A range of a class stands for the folded forms of its characters after folding. Narrow ranges are
folded member by member, wide ones keep their span, and those that look folded already stay.

* `resolveTerm_fold_range` — what a range stands for after folding.
* `foldedRanges?_eq_none_iff` — when a narrow range stays.
* `chars_foldedRanges?_narrow`, `mem_chars_foldedRanges?_wide` — the characters it stands for.
* `foldedRange_exact` — that these are the folded forms, and the one exception: a range whose
  characters stay distinct and whose first one stays is taken as folded, though some may have moved
  behind its end.
-/

namespace GramSieve.Pattern

open Text Regex

/-! ### Terms for ranges -/

variable {fold : CaseFold} {lo hi n : Nat} {ns : List Nat}
variable {span : Span} {first last : Literal}

/-- A range of code points as a term. The range that is folded keeps its own ends. -/
def rangeTerm (span : Span) (first last : Literal) (r : CodeRange) : ClassTerm :=
  let literal (n : Nat) : Literal := { span, char := Char.ofNat n }
  if r.lo = first.char.toNat && r.hi = last.char.toNat then .range span first last
  else if r.lo = r.hi then .literal (literal r.lo)
  else .range span (literal r.lo) (literal r.hi)

/-- Several terms as one. -/
def joinTerms (span : Span) : List ClassTerm → ClassTerm
  | [term] => term
  | items => .union span items

theorem foldRange?_eq (fold : CaseFold) (span : Span) (first last : Literal) :
    foldRange? fold span first last =
      (foldedRanges? fold first.char.toNat last.char.toNat).map fun ranges =>
        joinTerms span (ranges.map (rangeTerm span first last)) := rfl

theorem resolveMember_default (l : Literal) : resolveMember {} l = .ok l.char.toNat := by
  simp [resolveMember, checkByte]

/-- A range is resolved to itself. -/
theorem resolveTerm_rangeTerm {r : CodeRange} (hlo : r.lo.isValidChar) (hhi : r.hi.isValidChar) :
    resolveTerm {} (rangeTerm span first last r) = .ok [r] := by
  unfold rangeTerm
  split
  · rename_i hends
    rw [Bool.and_eq_true, decide_eq_true_eq, decide_eq_true_eq] at hends
    rw [resolveTerm, resolveMember_default, resolveMember_default, ← hends.1, ← hends.2]
    exact congrArg (fun r => Except.ok [r]) (CodeRange.between_eq r)
  split
  · rename_i hsame
    rw [resolveTerm, resolveMember_default, toNat_ofNat_of_isValidChar hlo]
    exact congrArg (fun r => Except.ok [r]) (CodeRange.single_eq hsame)
  · rw [resolveTerm, resolveMember_default, resolveMember_default,
      toNat_ofNat_of_isValidChar hlo, toNat_ofNat_of_isValidChar hhi]
    exact congrArg (fun r => Except.ok [r]) (CodeRange.between_eq r)

/-- So ranges between characters stand for themselves. -/
theorem resolveTerms_rangeTerms {ranges : List CodeRange}
    (h : ∀ r ∈ ranges, r.lo.isValidChar ∧ r.hi.isValidChar) :
    resolveTerms {} (ranges.map (rangeTerm span first last)) = .ok ranges := by
  induction ranges with
  | nil => rfl
  | cons r ranges ih =>
    obtain ⟨⟨hlo, hhi⟩, hranges⟩ := List.forall_mem_cons.mp h
    rw [List.map_cons, resolveTerms, resolveTerm_rangeTerm hlo hhi, ih hranges]
    rfl

/-- Several terms as one have the members of all. -/
theorem resolveTerm_joinTerms {items : List ClassTerm} {set : CodeSet}
    (h : resolveTerms {} items = .ok set) :
    ∃ joined, resolveTerm {} (joinTerms span items) = .ok joined ∧ joined.chars = set.chars := by
  unfold joinTerms
  split
  · -- A term on its own stays.
    obtain ⟨alone, halone, h⟩ := ok_of_bind h
    cases h
    refine ⟨alone, halone, ?_⟩
    rw [List.append_nil]
  · refine ⟨CodeSet.normalize set, ?_, CodeSet.chars_normalize⟩
    rw [resolveTerm, h]
    rfl

/-! ### Ranges after folding -/

/-- Folded members are characters. -/
theorem isValidChar_of_mem_foldedMembers (h : n ∈ foldedMembers fold lo hi) : n.isValidChar := by
  obtain ⟨c, -, rfl⟩ := mem_foldedMembers.mp h
  exact (fold.fold c).valid

/-- Runs start and end with members. -/
theorem isValidChar_of_mem_runs {r : CodeRange} (hns : ∀ n ∈ ns, n.isValidChar)
    (h : r ∈ runs (sortedDistinct ns)) : r.lo.isValidChar ∧ r.hi.isValidChar := by
  obtain ⟨hlo, hhi⟩ := ends_mem_runs h
  exact ⟨hns _ (mem_sortedDistinct.mp hlo), hns _ (mem_sortedDistinct.mp hhi)⟩

/-- The folded forms of the characters from `lo` to `hi` that lie before `lo` or behind `hi`. -/
def outsideMembers (fold : CaseFold) (lo hi : Nat) : List Nat :=
  (foldedMembers fold lo (min hi lastCasedCodePoint)).filter fun n => n < lo || hi < n

/-- A narrow range is replaced by the runs of its folded members, unless these are as many and start
with the same one. -/
theorem foldedRanges?_narrow (h : hi - lo < maxExpandedRange) :
    foldedRanges? fold lo hi =
      if (sortedDistinct (foldedMembers fold lo hi)).length = hi - lo + 1 &&
          (sortedDistinct (foldedMembers fold lo hi)).head? == some lo then none
      else some (runs (sortedDistinct (foldedMembers fold lo hi))) :=
  if_pos h

/-- A wide range is kept, and what it folds to outside is added. -/
theorem foldedRanges?_wide (h : maxExpandedRange ≤ hi - lo) :
    foldedRanges? fold lo hi =
      if (sortedDistinct (outsideMembers fold lo hi)).isEmpty then none
      else some (.between lo hi :: runs (sortedDistinct (outsideMembers fold lo hi))) :=
  if_neg (Nat.not_lt.mpr h)

/-- What becomes of a range has characters for its ends. -/
theorem isValidChar_of_foldedRanges? {ranges : List CodeRange} (hlo : lo.isValidChar)
    (hhi : hi.isValidChar) (h : foldedRanges? fold lo hi = some ranges) :
    ∀ r ∈ ranges, r.lo.isValidChar ∧ r.hi.isValidChar := by
  rcases Nat.lt_or_ge (hi - lo) maxExpandedRange with hnarrow | hwide
  · rw [foldedRanges?_narrow hnarrow] at h
    split at h
    · cases h
    · cases h
      exact fun r hr => isValidChar_of_mem_runs (fun n hn => isValidChar_of_mem_foldedMembers hn) hr
  · rw [foldedRanges?_wide hwide] at h
    split at h
    · cases h
    · cases h
      -- A wide range is not empty, so its ends are in order.
      have hrange : lo ≤ hi := by
        have : 0 < maxExpandedRange := by decide
        omega
      refine List.forall_mem_cons.mpr ⟨?_, fun r hr => isValidChar_of_mem_runs ?_ hr⟩
      · show (min lo hi).isValidChar ∧ (max lo hi).isValidChar
        rw [Nat.min_eq_left hrange, Nat.max_eq_right hrange]
        exact ⟨hlo, hhi⟩
      · exact fun n hn => isValidChar_of_mem_foldedMembers (List.mem_of_mem_filter hn)

/-- What a range stands for after folding. -/
theorem resolveTerm_fold_range (fold : CaseFold) (span : Span) (first last : Literal) :
    ∃ set, resolveTerm {} ((ClassTerm.range span first last).fold fold) = .ok set ∧
      set.chars = CodeSet.chars ((foldedRanges? fold first.char.toNat last.char.toNat).getD
        [.between first.char.toNat last.char.toNat]) := by
  rw [ClassTerm.fold, foldRange?_eq]
  cases hranges : foldedRanges? fold first.char.toNat last.char.toNat with
  | none =>
    refine ⟨[.between first.char.toNat last.char.toNat], ?_, rfl⟩
    show resolveTerm {} (.range span first last) = _
    rw [resolveTerm, resolveMember_default, resolveMember_default]
    rfl
  | some ranges =>
    exact resolveTerm_joinTerms (resolveTerms_rangeTerms
      (isValidChar_of_foldedRanges? first.char.valid last.char.valid hranges))

/-! ### Exactness -/

variable {a z x : Char}

theorem mem_Icc_iff : x ∈ Set.Icc a z ↔ a.toNat ≤ x.toNat ∧ x.toNat ≤ z.toNat := Iff.rfl

/-- The folded members of a range are the images of its characters. -/
theorem mem_foldedMembers_iff :
    x.toNat ∈ foldedMembers fold a.toNat z.toNat ↔ x ∈ fold.fold '' Set.Icc a z := by
  simp only [mem_foldedMembers, Set.mem_image, mem_Icc_iff, Char.toNat_inj]

/-- The characters of a range between two characters are those from one to the other. -/
theorem chars_between (haz : a ≤ z) : CodeSet.chars [.between a.toNat z.toNat] = Set.Icc a z := by
  have hle : a.toNat ≤ z.toNat := haz
  ext c
  rw [CodeSet.mem_chars, CodeSet.contains_singleton, CodeRange.contains_between hle, mem_Icc_iff]

/-- A narrow range does not reach across the surrogates. -/
theorem length_charsBetween (haz : a ≤ z) (h : z.toNat - a.toNat < maxExpandedRange) :
    (charsBetween a.toNat z.toNat).length = z.toNat - a.toNat + 1 := by
  have hle : a.toNat ≤ z.toNat := haz
  -- The gap between the characters is larger than a range that is expanded, so both ends are on one
  -- side of it.
  have hvalid : ∀ n ∈ List.range' a.toNat (z.toNat + 1 - a.toNat), n.isValidChar := by
    intro n hn
    have ha : a.toNat.isValidChar := a.valid
    have hz : z.toNat.isValidChar := z.valid
    have hn := List.mem_range'_1.mp hn
    have hmax : maxExpandedRange = 512 := rfl
    unfold Nat.isValidChar at *
    omega
  have hmap : charsBetween a.toNat z.toNat =
      (List.range' a.toNat (z.toNat + 1 - a.toNat)).map Char.ofNat := by
    rw [charsBetween, ← List.filterMap_eq_map]
    exact List.filterMap_congr fun n hn => if_pos (hvalid n hn)
  rw [hmap, List.length_map, List.length_range']
  omega

/-- No member is folded to twice if folding keeps the characters of the range apart. -/
theorem nodup_foldedMembers_iff :
    (foldedMembers fold a.toNat z.toNat).Nodup ↔ Set.InjOn fold.fold (Set.Icc a z) := by
  rw [foldedMembers, List.nodup_map_iff_inj_on (nodup_charsBetween _ _)]
  simp only [mem_charsBetween, Char.toNat_inj]
  rfl

/-- A narrow range stays if its characters stay distinct and `a` stays the least of them. -/
theorem foldedRanges?_eq_none_iff (fold : CaseFold) (haz : a ≤ z)
    (h : z.toNat - a.toNat < maxExpandedRange) :
    foldedRanges? fold a.toNat z.toNat = none ↔
      Set.InjOn fold.fold (Set.Icc a z) ∧ IsLeast (fold.fold '' Set.Icc a z) a := by
  -- As many images as members means that no two members have the same image.
  have hcount : (sortedDistinct (foldedMembers fold a.toNat z.toNat)).length =
      z.toNat - a.toNat + 1 ↔ Set.InjOn fold.fold (Set.Icc a z) := by
    rw [← nodup_foldedMembers_iff, ← length_sortedDistinct_eq_iff, foldedMembers, List.length_map,
      length_charsBetween haz h]
  have hleast : (sortedDistinct (foldedMembers fold a.toNat z.toNat)).head? = some a.toNat ↔
      IsLeast (fold.fold '' Set.Icc a z) a := by
    rw [head?_sortedDistinct_eq_some_iff, mem_foldedMembers_iff]
    refine and_congr_right fun _ => ⟨fun hle x hx => ?_, fun hle n hn => ?_⟩
    · exact hle x.toNat (mem_foldedMembers_iff.mpr hx)
    · obtain ⟨c, hc, rfl⟩ := mem_foldedMembers.mp hn
      exact hle ⟨c, hc, rfl⟩
  rw [foldedRanges?_narrow h, ← hcount, ← hleast]
  simp [Bool.and_eq_true]

/-- Folding leaves the characters from `a` to `z` distinct and `a` the least of them, and moves one
of them behind `z`. -/
structure MovesBehind (fold : CaseFold) (a z : Char) : Prop where
  injOn : Set.InjOn fold.fold (Set.Icc a z)
  isLeast : IsLeast (fold.fold '' Set.Icc a z) a
  behind : ∃ x ∈ fold.fold '' Set.Icc a z, z < x

/-- A range that folding maps into itself, without two characters becoming one, is not changed:
folding twice is folding once. -/
theorem image_eq_of_injOn (hinj : Set.InjOn fold.fold (Set.Icc a z))
    (hmaps : Set.MapsTo fold.fold (Set.Icc a z) (Set.Icc a z)) :
    fold.fold '' Set.Icc a z = Set.Icc a z := by
  have hfixed : Set.EqOn fold.fold id (Set.Icc a z) :=
    fun c hc => hinj (hmaps hc) hc (fold.fold_fold c)
  rw [hfixed.image_eq, Set.image_id]

/-- What stands for a narrow range after folding: the folded forms, or the range itself where the
move of a character behind it is missed. -/
theorem chars_foldedRanges?_narrow (fold : CaseFold) (haz : a ≤ z)
    (h : z.toNat - a.toNat < maxExpandedRange) :
    (¬ MovesBehind fold a z → CodeSet.chars ((foldedRanges? fold a.toNat z.toNat).getD
        [.between a.toNat z.toNat]) = fold.fold '' Set.Icc a z) ∧
      (MovesBehind fold a z → CodeSet.chars ((foldedRanges? fold a.toNat z.toNat).getD
        [.between a.toNat z.toNat]) = Set.Icc a z) := by
  have hnone := foldedRanges?_eq_none_iff fold haz h
  constructor
  · intro hexact
    cases hranges : foldedRanges? fold a.toNat z.toNat with
    | none =>
      obtain ⟨hinj, hleast⟩ := hnone.mp hranges
      -- Members that stay apart and start with the first one fill the range, unless one is moved
      -- behind it.
      have hmaps : Set.MapsTo fold.fold (Set.Icc a z) (Set.Icc a z) := by
        intro c hc
        refine ⟨hleast.2 ⟨c, hc, rfl⟩, not_lt.mp fun hlt => ?_⟩
        exact hexact ⟨hinj, hleast, _, ⟨c, hc, rfl⟩, hlt⟩
      rw [Option.getD_none, chars_between haz, image_eq_of_injOn hinj hmaps]
    | some ranges =>
      rw [foldedRanges?_narrow h] at hranges
      split at hranges
      · cases hranges
      · cases hranges
        ext c
        rw [CodeSet.mem_chars, Option.getD_some, contains_runs, mem_sortedDistinct, mem_foldedMembers_iff]
  · intro hmoves
    rw [hnone.mpr ⟨hmoves.injOn, hmoves.isLeast⟩, Option.getD_none, chars_between haz]

/-- A wide range gains the folded forms outside of it. -/
theorem mem_chars_foldedRanges?_wide (haz : a ≤ z) (h : maxExpandedRange ≤ z.toNat - a.toNat)
    (hx : fold.fold x = x) :
    x ∈ CodeSet.chars ((foldedRanges? fold a.toNat z.toNat).getD [.between a.toNat z.toNat]) ↔
      x ∈ fold.fold '' Set.Icc a z := by
  have hmem : x ∈ CodeSet.chars ((foldedRanges? fold a.toNat z.toNat).getD
      [.between a.toNat z.toNat]) ↔
        x ∈ Set.Icc a z ∨ x.toNat ∈ outsideMembers fold a.toNat z.toNat := by
    have hle : a.toNat ≤ z.toNat := haz
    have hout : x.toNat ∈ outsideMembers fold a.toNat z.toNat ↔
        x.toNat ∈ sortedDistinct (outsideMembers fold a.toNat z.toNat) := mem_sortedDistinct.symm
    rw [CodeSet.mem_chars, foldedRanges?_wide h, mem_Icc_iff, ← CodeRange.contains_between hle, hout]
    split
    · rename_i hempty
      rw [Option.getD_none, CodeSet.contains_singleton, List.isEmpty_iff.mp hempty,
        List.mem_nil_iff, or_false]
    · rw [Option.getD_some, CodeSet.contains_cons, contains_runs]
  rw [hmem]
  constructor
  · rintro (hin | hout)
    · exact ⟨x, hin, hx⟩
    · obtain ⟨c, hc, heq⟩ := mem_foldedMembers.mp (List.mem_of_mem_filter hout)
      exact ⟨c, ⟨hc.1, Nat.le_trans hc.2 (Nat.min_le_left _ _)⟩, Char.toNat_inj.mp heq⟩
  · rintro ⟨c, hc, heq⟩
    by_cases hin : x ∈ Set.Icc a z
    · exact .inl hin
    · -- What was moved has case, so the search for it does not stop before.
      have hcased : c.toNat ≤ lastCasedCodePoint := by
        refine Nat.le_of_not_lt fun hlt => hin ?_
        rw [← heq, CaseFold.fold_of_lt hlt]
        exact hc
      refine .inr (List.mem_filter.mpr ⟨mem_foldedMembers.mpr ⟨c, ⟨hc.1, ?_⟩, congrArg _ heq⟩, ?_⟩)
      · exact Nat.le_min.mpr ⟨hc.2, hcased⟩
      · rw [mem_Icc_iff] at hin
        rw [Bool.or_eq_true, decide_eq_true_eq, decide_eq_true_eq]
        omega

/-- **Folding a range is exact but for ranges with a character that moves behind them.** A range of
up to 512 code points stands for the folded forms of its characters unless these stay distinct, with
the first of the range as the least, and one of them moves behind the end of the range: then the
range stays as it is. A wider range has the same folded characters as the folded forms of its own. -/
theorem foldedRange_exact (fold : CaseFold) (span : Span) (first last : Literal)
    (h : first.char ≤ last.char) :
    ∃ set, resolveTerm {} ((ClassTerm.range span first last).fold fold) = .ok set ∧
      (last.char.toNat - first.char.toNat + 1 ≤ 512 →
        (set.chars = fold.fold '' Set.Icc first.char last.char ↔
          ¬ MovesBehind fold first.char last.char) ∧
        (MovesBehind fold first.char last.char → set.chars = Set.Icc first.char last.char)) ∧
      (512 < last.char.toNat - first.char.toNat + 1 → ∀ x, fold.fold x = x →
        (x ∈ set.chars ↔ x ∈ fold.fold '' Set.Icc first.char last.char)) := by
  have hmax : maxExpandedRange = 512 := rfl
  obtain ⟨set, hset, hchars⟩ := resolveTerm_fold_range fold span first last
  refine ⟨set, hset, fun hnarrow => ?_, fun hwide x hx => ?_⟩
  · obtain ⟨hexact, hmissed⟩ := chars_foldedRanges?_narrow fold h (by omega)
    rw [hchars]
    refine ⟨⟨fun heq hmoves => ?_, hexact⟩, hmissed⟩
    -- The character that moved is a folded form, but it is not in the range.
    obtain ⟨x, hx, hlt⟩ := hmoves.behind
    rw [← heq, hmissed hmoves] at hx
    exact not_lt.mpr hx.2 hlt
  · rw [hchars]
    exact mem_chars_foldedRanges?_wide h (by omega) hx

/-- The literal of a character, at no place in particular. -/
def Literal.ofChar (c : Char) : Literal := { span := default, char := c }

/-- In `[Z-b]` the `Z` does not stay, so the range stands for its folded forms. -/
theorem foldedRange_exact_mixedCase :
    'Z' ≤ 'b' ∧ ∃ set, resolveTerm {} ((ClassTerm.range default (Literal.ofChar 'Z')
      (Literal.ofChar 'b')).fold .lowercase) = .ok set ∧
        set.chars = CaseFold.lowercase.fold '' Set.Icc 'Z' 'b' := by
  have hmoves : ¬ MovesBehind .lowercase 'Z' 'b' := by
    rintro ⟨-, ⟨⟨c, -, hc⟩, -⟩, -⟩
    have hfixed := CaseFold.fold_fold .lowercase c
    rw [hc] at hfixed
    exact absurd hfixed (by decide)
  obtain ⟨set, hset, hnarrow, -⟩ := foldedRange_exact .lowercase default (Literal.ofChar 'Z')
    (Literal.ofChar 'b') (by decide)
  exact ⟨by decide, set, hset, (hnarrow (by decide)).1.mpr hmoves⟩

/-- In `[@-A]` the `A` moves behind the range. -/
theorem movesBehind_at : MovesBehind .lowercase '@' 'A' := by
  have hcases {c : Char} (hc : c ∈ Set.Icc '@' 'A') : c = '@' ∨ c = 'A' := by
    rw [mem_Icc_iff] at hc
    rw [← Char.toNat_inj, ← Char.toNat_inj]
    simp only [Char.reduceToNat] at hc ⊢
    omega
  refine ⟨fun c hc d hd => ?_, ⟨⟨'@', by decide, by decide⟩, ?_⟩, 'a', ⟨'A', by decide, by decide⟩,
    by decide⟩
  · rcases hcases hc with rfl | rfl <;> rcases hcases hd with rfl | rfl <;> decide
  · rintro _ ⟨c, hc, rfl⟩
    rcases hcases hc with rfl | rfl <;> decide

/-- The range `[@-A]` is not folded to `@` and `a`. -/
theorem not_foldedRange_exact_at :
    ∃ set, resolveTerm {} ((ClassTerm.range default (Literal.ofChar '@')
      (Literal.ofChar 'A')).fold .lowercase) = .ok set ∧
        'A' ∈ set.chars ∧ 'a' ∉ set.chars ∧
          set.chars ≠ CaseFold.lowercase.fold '' Set.Icc '@' 'A' := by
  obtain ⟨set, hset, hchars⟩ := resolveTerm_fold_range .lowercase default (Literal.ofChar '@')
    (Literal.ofChar 'A')
  have hrange : set.chars = Set.Icc '@' 'A' :=
    hchars.trans ((chars_foldedRanges?_narrow .lowercase (by decide) (by decide)).2 movesBehind_at)
  refine ⟨set, hset, ?_⟩
  rw [hrange]
  refine ⟨by decide, by decide, fun heq => ?_⟩
  obtain ⟨x, hx, hlt⟩ := movesBehind_at.behind
  rw [← heq] at hx
  exact not_lt.mpr hx.2 hlt

end GramSieve.Pattern
