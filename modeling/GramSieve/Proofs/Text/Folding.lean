import GramSieve.Text.Locale

namespace GramSieve.Text

/-!
# Folding twice

* `lowercaseChar_lowercaseChar` — the lowercase form of a lowercase form is itself.
* `CaseFold.fold_fold` — folding a folded character changes nothing.
* `CaseFold.fold_of_lt`, `CaseFold.fold_eq_newline` — what lies behind the last character with case
  stays, and only a line end becomes one.
* `Locale.fold_of_mem_lowercaseChars` — the lowercase form of a text has folded characters only.
* `Locale.lowercaseChars_of_folded`, `Locale.lowercaseChars_of_infix` — lowercasing such a text changes
  nothing, whatever stands around it, and so no part of a lowercase form is changed.

The table of lowercase forms has some 1,500 characters in 186 runs. Runs are compared with runs: no
run moves a character into another one, nor onto a surrogate.
-/

open Unicode

/-! ### The table -/

/-- The code points from `lo` to `hi` in steps of `step` are apart from a run: they lie on one side
of it, or both have only every second code point. -/
def apart (lo hi step : Nat) (t : CaseShift) : Bool :=
  Nat.blt hi t.lo || Nat.blt t.hi lo ||
    (Nat.beq ((lo + t.lo) % 2) 1 &&
      ((Nat.beq step 2 && (Nat.beq t.step 2 || Nat.beq t.lo t.hi)) ||
        (Nat.beq lo hi && Nat.beq t.step 2)))

/-- The code points that a run moves its members to lie in no run and are characters. -/
def movesOut (s : CaseShift) : Bool :=
  let lo := (s.lo + s.distance).toNat
  let hi := (s.hi + s.distance).toNat
  decide (0 ≤ s.lo + s.distance) && (Nat.blt hi 0xD800 || (Nat.blt 0xDFFF lo && Nat.blt hi 0x110000)) &&
    lowercaseShifts.all (apart lo hi s.step)

/-- No run of the table moves a character into another run. -/
theorem lowercaseShifts_moveOut : lowercaseShifts.all movesOut = true := by decide +kernel

/-- A run that is apart from some code points has none of them. -/
theorem not_holds_of_apart {lo hi step n : Nat} {t : CaseShift} (h : apart lo hi step t = true)
    (hlo : lo ≤ n) (hhi : n ≤ hi) (hstep : (n - lo) % step = 0) : t.holds n = false := by
  rw [Bool.eq_false_iff]
  intro hholds
  simp only [CaseShift.holds, Bool.and_eq_true, decide_eq_true_eq, beq_iff_eq] at hholds
  obtain ⟨⟨hlo', hhi'⟩, hstep'⟩ := hholds
  simp only [apart, Bool.or_eq_true, Bool.and_eq_true, Nat.blt_eq, Nat.beq_eq] at h
  obtain (h | h) | ⟨hodd, ⟨hs, ht | ht⟩ | ⟨hs, ht⟩⟩ := h
  · omega
  · omega
  · rw [hs] at hstep
    rw [ht] at hstep'
    omega
  · rw [hs] at hstep
    omega
  · rw [ht] at hstep'
    omega

/-- What is in no run stays as it is. -/
theorem simpleLowercase_of_not_holds {n : Nat} (h : ∀ t ∈ lowercaseShifts, t.holds n = false) :
    simpleLowercase n = n := by
  have hnone : lowercaseShifts.find? (·.holds n) = none :=
    List.find?_eq_none.mpr fun t ht => by rw [h t ht]; exact Bool.false_ne_true
  unfold simpleLowercase
  split
  · rw [if_neg]
    rintro ⟨hlo, hhi⟩
    have hfirst := h ⟨0x41, 0x5A, 1, 32⟩ (.head _)
    simp [CaseShift.holds, hlo, hhi, Nat.mod_one] at hfirst
  · rw [CaseShift.apply, hnone]

/-- A code point stays, or it is in a run that moves it to a character outside of all runs. -/
theorem simpleLowercase_cases (n : Nat) :
    simpleLowercase n = n ∨ ∃ s ∈ lowercaseShifts,
      ((simpleLowercase n : Nat) : Int) = n + s.distance ∧ s.holds n = true ∧
        (simpleLowercase n).isValidChar ∧ simpleLowercase (simpleLowercase n) = simpleLowercase n := by
  -- The code point that a run moves to is in no run, by the comparison of the runs.
  have hmoved {s : CaseShift} (hs : s ∈ lowercaseShifts) (hholds : s.holds n = true) :
      let m := (n + s.distance).toNat
      (m : Int) = n + s.distance ∧ m.isValidChar ∧ simpleLowercase m = m := by
    have hout := List.all_eq_true.mp lowercaseShifts_moveOut s hs
    simp only [movesOut, Bool.and_eq_true, Bool.or_eq_true, decide_eq_true_eq, Nat.blt_eq] at hout
    obtain ⟨⟨hpos, hvalid⟩, hapart⟩ := hout
    simp only [CaseShift.holds, Bool.and_eq_true, decide_eq_true_eq, beq_iff_eq] at hholds
    obtain ⟨⟨hlo, hhi⟩, hmod⟩ := hholds
    refine ⟨by omega, ?_, ?_⟩
    · unfold Nat.isValidChar
      omega
    · refine simpleLowercase_of_not_holds fun t ht => ?_
      refine not_holds_of_apart (List.all_eq_true.mp hapart t ht) (by omega) (by omega) ?_
      rwa [show (n + s.distance).toNat - (s.lo + s.distance).toNat = n - s.lo by omega]
  by_cases hsame : simpleLowercase n = n
  · exact .inl hsame
  · obtain ⟨s, hs, hholds, heq⟩ : ∃ s ∈ lowercaseShifts, s.holds n = true ∧
        simpleLowercase n = (n + s.distance).toNat := by
      unfold simpleLowercase at hsame ⊢
      split at hsame
      · split at hsame
        · rename_i hascii hupper
          refine ⟨⟨0x41, 0x5A, 1, 32⟩, .head _, ?_, ?_⟩
          · simp [CaseShift.holds, hupper, Nat.mod_one]
          · rw [if_pos hascii, if_pos hupper]
            show n + 32 = ((n : Int) + 32).toNat
            omega
        · exact absurd rfl hsame
      · rename_i hascii
        rw [if_neg hascii]
        unfold CaseShift.apply at hsame ⊢
        cases hfind : lowercaseShifts.find? (·.holds n) with
        | none => simp [hfind] at hsame
        | some s =>
          have hholds := List.find?_some (p := fun t : CaseShift => t.holds n) hfind
          exact ⟨s, List.mem_of_find?_eq_some hfind, hholds, rfl⟩
    obtain ⟨hint, hvalid, hfixed⟩ := hmoved hs hholds
    exact .inr ⟨s, hs, by rw [heq]; exact hint, hholds, by rw [heq]; exact hvalid,
      by rw [heq]; exact hfixed⟩

/-! ### Characters -/

/-- The lowercase form of a character is the one in the table, since no run leaves the characters. -/
theorem toNat_lowercaseChar (c : Char) : (lowercaseChar c).toNat = simpleLowercase c.toNat := by
  have hvalid : (simpleLowercase c.toNat).isValidChar := by
    obtain hsame | ⟨_, _, _, _, hvalid, _⟩ := simpleLowercase_cases c.toNat
    · rw [hsame]
      exact c.valid
    · exact hvalid
  rw [lowercaseChar, Char.ofNat, dif_pos hvalid]
  rfl

/-- A lowercase form is its own lowercase form. -/
theorem lowercaseChar_lowercaseChar (c : Char) : lowercaseChar (lowercaseChar c) = lowercaseChar c := by
  refine Char.toNat_inj.mp ?_
  rw [toNat_lowercaseChar, toNat_lowercaseChar]
  obtain hsame | ⟨_, _, _, _, _, hfixed⟩ := simpleLowercase_cases c.toNat
  · rw [hsame, hsame]
  · exact hfixed

/-- The characters that the Greek fold changes by rules of its own. -/
def greekSpecial : List Char :=
  ['Σ', 'ς', 'ϲ', 'Ϲ', 'Ά', 'ά', 'Έ', 'έ', 'Ή', 'ή', 'Ί', 'ί', 'Ϊ', 'ϊ', 'ΐ', 'Ό', 'ό', 'Ύ', 'ύ', 'Ϋ',
    'ϋ', 'ΰ', 'Ώ', 'ώ']

/-- Apart from vowels with accents and the forms of sigma, Greek is folded as everything else. -/
theorem greekFold_of_notMem {c : Char} (hc : c ∉ greekSpecial) : greekFold c = lowercaseChar c := by
  simp only [greekSpecial, List.mem_cons, List.not_mem_nil, or_false, not_or] at hc
  unfold greekFold
  split <;> first | rfl | simp_all

/-- Those are folded to letters that stay. -/
theorem greekFold_of_mem {c : Char} (hc : c ∈ greekSpecial) : greekFold (greekFold c) = greekFold c := by
  have hall : greekSpecial.all (fun c => greekFold (greekFold c) == greekFold c) = true := by
    decide +kernel
  exact eq_of_beq (List.all_eq_true.mp hall c hc)

/-- A run that moves a code point to a character with a Greek rule has it from another such
character. -/
theorem greekSpecial_moved : greekSpecial.all (fun c => lowercaseShifts.all fun s =>
    Nat.blt c.toNat (s.lo + s.distance).toNat || Nat.blt (s.hi + s.distance).toNat c.toNat ||
      greekSpecial.any fun d => decide ((d.toNat : Int) + s.distance = c.toNat)) = true := by
  decide +kernel

/-- So folding Greek twice is folding it once. -/
theorem greekFold_greekFold (c : Char) : greekFold (greekFold c) = greekFold c := by
  by_cases hc : c ∈ greekSpecial
  · exact greekFold_of_mem hc
  rw [greekFold_of_notMem hc]
  obtain hsame | ⟨s, hs, hint, hholds, _, _⟩ := simpleLowercase_cases c.toNat
  · have : lowercaseChar c = c := by rw [lowercaseChar, hsame, Char.ofNat_toNat]
    rw [this, greekFold_of_notMem hc, this]
  · -- A run that led to a character with a Greek rule would have led from one.
    have hnot : lowercaseChar c ∉ greekSpecial := by
      intro hmem
      have hmoved := List.all_eq_true.mp (List.all_eq_true.mp greekSpecial_moved _ hmem) s hs
      rw [← toNat_lowercaseChar] at hint
      simp only [CaseShift.holds, Bool.and_eq_true, decide_eq_true_eq, beq_iff_eq] at hholds
      simp only [Bool.or_eq_true, Nat.blt_eq, List.any_eq_true, decide_eq_true_eq] at hmoved
      obtain (h | h) | ⟨d, hd, h⟩ := hmoved
      · omega
      · omega
      · have hdc : d = c := Char.toNat_inj.mp (by omega)
        exact hc (hdc ▸ hd)
    rw [greekFold_of_notMem hnot, lowercaseChar_lowercaseChar]

/-- Only the two capital letters I are folded another way in Turkish. -/
theorem turkishFold_of_ne {c : Char} (hI : c ≠ 'I') (hdot : c ≠ 'İ') :
    turkishFold c = lowercaseChar c := by
  unfold turkishFold
  split
  · exact absurd rfl hI
  · exact absurd rfl hdot
  · rfl

/-- A character that has another lowercase form is not the lowercase form of any. -/
theorem lowercaseChar_ne_of_ne {c d : Char} (hd : lowercaseChar d ≠ d) : lowercaseChar c ≠ d := by
  rintro rfl
  exact hd (lowercaseChar_lowercaseChar c)

/-- Folding Turkish twice is folding it once, since neither i has another lowercase form. -/
theorem turkishFold_turkishFold (c : Char) : turkishFold (turkishFold c) = turkishFold c := by
  by_cases hI : c = 'I'
  · subst hI
    decide
  by_cases hdot : c = 'İ'
  · subst hdot
    decide
  rw [turkishFold_of_ne hI hdot, turkishFold_of_ne (lowercaseChar_ne_of_ne (by decide))
    (lowercaseChar_ne_of_ne (by decide)), lowercaseChar_lowercaseChar]

/-- Folding a folded character changes nothing. -/
theorem CaseFold.fold_fold (f : CaseFold) (c : Char) : f.fold (f.fold c) = f.fold c := by
  cases f with
  | lowercase => exact lowercaseChar_lowercaseChar c
  | greek => exact greekFold_greekFold c
  | turkish => exact turkishFold_turkishFold c

/-! ### What no fold changes -/

/-- No run goes beyond the last character with case. -/
theorem lowercaseShifts_le :
    lowercaseShifts.all (fun s => decide (s.hi ≤ lastCasedCodePoint)) = true := by cbv

/-- Nor do the Greek letters with rules of their own. -/
theorem greekSpecial_le :
    greekSpecial.all (fun c => decide (c.toNat ≤ lastCasedCodePoint)) = true := by decide

/-- So what lies behind it stays as it is. -/
theorem lowercaseChar_of_lt {c : Char} (h : lastCasedCodePoint < c.toNat) : lowercaseChar c = c := by
  have hnone : ∀ s ∈ lowercaseShifts, s.holds c.toNat = false := by
    intro s hs
    have hle := of_decide_eq_true (List.all_eq_true.mp lowercaseShifts_le s hs)
    have hhi : ¬ c.toNat ≤ s.hi := by omega
    simp [CaseShift.holds, hhi]
  rw [lowercaseChar, simpleLowercase_of_not_holds hnone, Char.ofNat_toNat]

/-- No fold changes what lies behind the last character with case. -/
theorem CaseFold.fold_of_lt {f : CaseFold} {c : Char} (h : lastCasedCodePoint < c.toNat) :
    f.fold c = c := by
  cases f with
  | lowercase => exact lowercaseChar_of_lt h
  | greek =>
    have hnot : c ∉ greekSpecial := fun hc =>
      Nat.not_lt.mpr (of_decide_eq_true (List.all_eq_true.mp greekSpecial_le c hc)) h
    exact (greekFold_of_notMem hnot).trans (lowercaseChar_of_lt h)
  | turkish =>
    refine (turkishFold_of_ne ?_ ?_).trans (lowercaseChar_of_lt h) <;>
    · rintro rfl
      revert h
      decide

/-- No run moves a code point down to the control characters. -/
theorem lowercaseShifts_lower :
    lowercaseShifts.all (fun s => Nat.blt '\n'.toNat (s.lo + s.distance).toNat) = true := by cbv

/-- Only a line end has a line end as its lowercase form. -/
theorem lowercaseChar_eq_newline {c : Char} (h : lowercaseChar c = '\n') : c = '\n' := by
  obtain hsame | ⟨s, hs, hint, hholds, _, _⟩ := simpleLowercase_cases c.toNat
  · rw [lowercaseChar, hsame, Char.ofNat_toNat] at h
    exact h
  · have hlower := List.all_eq_true.mp lowercaseShifts_lower s hs
    rw [← toNat_lowercaseChar, h] at hint
    simp only [CaseShift.holds, Bool.and_eq_true, decide_eq_true_eq] at hholds
    rw [Nat.blt_eq] at hlower
    omega

/-- Only a line end is folded to a line end. -/
theorem CaseFold.fold_eq_newline {f : CaseFold} {c : Char} (h : f.fold c = '\n') : c = '\n' := by
  cases f with
  | lowercase => exact lowercaseChar_eq_newline h
  | greek =>
    by_cases hc : c ∈ greekSpecial
    -- The rules of Greek give letters.
    · have hall : greekSpecial.all (fun c => greekFold c != '\n') = true := by decide
      exact absurd h (bne_iff_ne.mp (List.all_eq_true.mp hall c hc))
    · exact lowercaseChar_eq_newline ((greekFold_of_notMem hc).symm.trans h)
  | turkish =>
    by_cases hI : c = 'I'
    · subst hI
      exact absurd h (by decide)
    by_cases hdot : c = 'İ'
    · subst hdot
      exact absurd h (by decide)
    · exact lowercaseChar_eq_newline ((turkishFold_of_ne hI hdot).symm.trans h)

/-! ### Texts -/

namespace Locale

/-- Every character of a Turkish lowercase form is folded. -/
theorem fold_of_mem_turkishLowercase {text : List Char} {c : Char} (hc : c ∈ turkishLowercase text) :
    turkishFold c = c := by
  fun_induction turkishLowercase text with
  | case1 rest ih =>
    obtain _ | ⟨_, hc⟩ := hc
    · decide
    · exact ih hc
  | case2 d rest _ ih =>
    obtain _ | ⟨_, hc⟩ := hc
    · exact turkishFold_turkishFold d
    · exact ih hc
  | case3 => cases hc

/-- An `n` or a `t` that gets a hyphen is its own lowercase form, and so is the hyphen. -/
theorem fold_of_mem_irishLowercase {wordStart : Bool} {text : List Char} {c : Char}
    (hc : c ∈ irishLowercase wordStart text) : lowercaseChar c = c := by
  induction text generalizing wordStart with
  | nil => cases hc
  | cons d rest ih =>
    rw [irishLowercase] at hc
    split at hc
    · rename_i hmutation
      simp only [Bool.and_eq_true, Bool.or_eq_true, beq_iff_eq] at hmutation
      -- The consonant, the hyphen, or a character behind them.
      obtain _ | ⟨_, _ | ⟨_, hc⟩⟩ := hc
      · obtain h | h := hmutation.1.2 <;> rw [h] <;> decide
      · decide
      · exact ih hc
    · obtain _ | ⟨_, hc⟩ := hc
      · exact lowercaseChar_lowercaseChar d
      · exact ih hc

/-- The lowercase form of a text has folded characters only. -/
theorem fold_of_mem_lowercaseChars {locale : Locale} {text : List Char} {c : Char}
    (hc : c ∈ locale.lowercaseChars text) : locale.charFold.fold c = c := by
  cases locale with
  | turkish | azerbaijani => exact fold_of_mem_turkishLowercase hc
  | irish => exact fold_of_mem_irishLowercase hc
  | greek =>
    obtain ⟨d, _, rfl⟩ := List.mem_map.mp hc
    exact greekFold_greekFold d
  | root | other =>
    obtain ⟨d, _, rfl⟩ := List.mem_map.mp hc
    exact lowercaseChar_lowercaseChar d

/-- A folded text is its own Turkish lowercase form: it has no capital I that a dot could follow. -/
theorem turkishLowercase_of_folded {text : List Char} (h : ∀ c ∈ text, turkishFold c = c) :
    turkishLowercase text = text := by
  fun_induction turkishLowercase text with
  | case1 rest ih => exact absurd (h 'I' (.head _)) (by decide)
  | case2 d rest _ ih => rw [h d (.head _), ih fun c hc => h c (.tail _ hc)]
  | case3 => rfl

/-- A folded text is its own Irish lowercase form: it has no capital vowel that a hyphen could go
before. -/
theorem irishLowercase_of_folded {wordStart : Bool} {text : List Char}
    (h : ∀ c ∈ text, lowercaseChar c = c) : irishLowercase wordStart text = text := by
  induction text generalizing wordStart with
  | nil => rfl
  | cons d rest ih =>
    have hrest := fun c hc => h c (.tail _ hc)
    -- There is no uppercase vowel that could ask for a hyphen.
    have hvowel : rest.head?.any isIrishUpperVowel = false := by
      cases rest with
      | nil => rfl
      | cons e rest =>
        have hall : ['A', 'E', 'I', 'O', 'U', 'Á', 'É', 'Í', 'Ó', 'Ú'].all
            (fun v => lowercaseChar v != v) = true := by
          decide +kernel
        have hnot : ∀ v ∈ ['A', 'E', 'I', 'O', 'U', 'Á', 'É', 'Í', 'Ó', 'Ú'], lowercaseChar v ≠ v :=
          fun v hv => bne_iff_ne.mp (List.all_eq_true.mp hall v hv)
        rw [List.head?_cons, Option.any_some, isIrishUpperVowel, ← Bool.not_eq_true,
          List.contains_iff_mem]
        exact fun hmem => hnot e hmem (hrest e (.head _))
    rw [irishLowercase]
    simp only [hvowel, Bool.and_false, Bool.false_eq_true, if_false]
    rw [h d (.head _), ih hrest]

/-- Lowercasing folded characters changes nothing. -/
theorem lowercaseChars_of_folded {locale : Locale} {text : List Char}
    (h : ∀ c ∈ text, locale.charFold.fold c = c) : locale.lowercaseChars text = text := by
  cases locale with
  | turkish | azerbaijani => exact turkishLowercase_of_folded h
  | irish => exact irishLowercase_of_folded h
  | greek | root | other => exact (List.map_congr_left h).trans (List.map_id _)

/-- Lowercase is stable: wherever a part is cut out of the lowercase form of a text, lowercasing it
changes nothing. -/
theorem lowercaseChars_of_infix {locale : Locale} {text part : List Char}
    (h : part <:+: locale.lowercaseChars text) : locale.lowercaseChars part = part :=
  lowercaseChars_of_folded fun _ hc => fold_of_mem_lowercaseChars (h.subset hc)

end Locale

end GramSieve.Text
