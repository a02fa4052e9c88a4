import GramSieve.Proofs.Regex.Concrete
import GramSieve.Proofs.Regex.Escaping
import GramSieve.Proofs.Regex.Unanchored

/-!
# Building classes and repetitions keeps their language

* `language_mkClass` — a class of one character is a literal.
* `eq_nil_of_isZeroWidth` — an expression without width matches the empty text only.
* `language_mkRepetition` — so such an expression is tried at most once.
-/

namespace GramSieve

theorem CodeSet.mem_language {set : CodeSet} {w : List Char} :
    w ∈ set.language ↔ ∃ c ∈ set.chars, w = [c] := Iff.rfl

/-- The language of a set depends on its characters only. -/
theorem CodeSet.language_congr {s t : CodeSet} (h : s.chars = t.chars) : s.language = t.language := by
  ext w
  rw [mem_language, mem_language, h]

namespace Regex

open Text

/-! ### Classes -/

/-- A class matches its characters. -/
theorem language_mkClass {alphabet : Alphabet} {set : CodeSet}
    (hascii : alphabet = .bytes → set.isAscii = true) (hset : set.Populated) :
    (mkClass alphabet set).language = set.language := by
  unfold mkClass
  split
  · rfl
  · rename_i r
    split
    · rename_i hsame
      -- The range holds one character, which the literal is.
      obtain ⟨c, hc⟩ := hset r (.head _)
      obtain ⟨hlo, hhi⟩ := CodeRange.contains_iff.mp hc
      have heq : r.lo = c.toNat := by omega
      have hlt : alphabet = .bytes → c.toNat < 128 := by
        intro ha
        have := CodeSet.isAscii_iff.mp (hascii ha) r (.head _)
        omega
      have hliteral : mkLiteral (codeBytes alphabet c.toNat) = ofText [c] := by
        rw [codeBytes_eq hlt, Char.ofNat_toNat, ofText]
      have hrange : r = CodeRange.single c.toNat := by
        rw [← heq]
        exact (CodeRange.single_eq hsame).symm
      rw [heq, hliteral, language_ofText, hrange, CodeSet.language_single]
    · rfl
  · rfl

/-! ### Repetitions -/

variable {min : Nat} {max : Option Nat} {l : Language Char} {w : List Char}

/-- Repeating the empty text gives the empty text. -/
theorem eq_nil_of_mem_pow (hl : ∀ v ∈ l, v = []) {k : Nat} (hw : w ∈ l ^ k) : w = [] := by
  obtain ⟨vs, rfl, -, hvs⟩ := Language.mem_pow.mp hw
  exact List.flatten_eq_nil_iff.mpr fun v hv => hl v (hvs v hv)

/-- The empty text can be read any number of times. -/
theorem nil_mem_pow (hl : [] ∈ l) (k : Nat) : [] ∈ l ^ k := by
  induction k with
  | zero => exact Language.nil_mem_one
  | succ k ih =>
    rw [pow_succ']
    exact Language.append_mem_mul hl ih

/-- Of a language with at most the empty text, only the first bound matters, and only whether it is
zero. -/
theorem mem_powers_of_forall_eq_nil (hl : ∀ v ∈ l, v = []) (hbounds : ∀ m, max = some m → min ≤ m) :
    w ∈ powers min max l ↔ w = [] ∧ (min = 0 ∨ [] ∈ l) := by
  constructor
  · rintro ⟨k, hmin, -, hw⟩
    refine ⟨eq_nil_of_mem_pow hl hw, ?_⟩
    rcases k with _ | k
    · exact .inl (Nat.le_zero.mp hmin)
    · rw [pow_succ'] at hw
      obtain ⟨v, hv, -⟩ := Language.mem_mul.mp hw
      exact .inr (hl v hv ▸ hv)
  · rintro ⟨rfl, hnil⟩
    refine ⟨min, Nat.le_refl min, hbounds, ?_⟩
    rcases hnil with rfl | hnil
    · exact Language.nil_mem_one
    · exact nil_mem_pow hnil min

/-- What is repeated zero times is the empty text. -/
theorem powers_zero (l : Language Char) : powers 0 (some 0) l = 1 := by
  ext w
  constructor
  · rintro ⟨k, -, hmax, hw⟩
    obtain rfl : k = 0 := Nat.le_zero.mp (hmax 0 rfl)
    exact hw
  · intro hw
    exact ⟨0, Nat.le_refl 0, fun _ _ => Nat.zero_le _, hw⟩

/-- What is repeated once is as it was. -/
theorem powers_one (l : Language Char) : powers 1 (some 1) l = l := by
  ext w
  constructor
  · rintro ⟨k, hmin, hmax, hw⟩
    obtain rfl : k = 1 := Nat.le_antisymm (hmax 1 rfl) hmin
    rwa [pow_one] at hw
  · intro hw
    refine ⟨1, Nat.le_refl 1, ?_, by rwa [pow_one]⟩
    rintro _ ⟨⟩
    exact Nat.le_refl 1

mutual

/-- An expression of zero width matches at most the empty text. -/
theorem eq_nil_of_isZeroWidth {r : Regex} (h : r.isZeroWidth = true) {w : List Char}
    (hw : w ∈ r.language) : w = [] := by
  -- The induction is on the expression. Literals and classes always have a width.
  cases r with
  | empty | look => exact hw
  | literal | oneOf => cases h
  | repetition min max greedy r =>
    rw [isZeroWidth, Bool.and_eq_true] at h
    obtain ⟨k, -, -, hk⟩ := hw
    exact eq_nil_of_mem_pow (fun v hv => eq_nil_of_isZeroWidth h.2 hv) hk
  | capture index name r =>
    rw [isZeroWidth] at h
    rw [language] at hw
    exact eq_nil_of_isZeroWidth h hw
  | concat rs =>
    rw [isZeroWidth] at h
    rw [language] at hw
    exact eq_nil_of_mem_sequenceLanguage h hw
  | alternation rs =>
    rw [isZeroWidth] at h
    rw [language] at hw
    exact eq_nil_of_mem_branchLanguage h hw

/-- A sequence of such expressions has no width either. -/
theorem eq_nil_of_mem_sequenceLanguage {rs : List Regex} (h : allZeroWidth rs = true) {w : List Char}
    (hw : w ∈ sequenceLanguage rs) : w = [] := by
  cases rs with
  | nil => exact hw
  | cons r rs =>
    rw [allZeroWidth, Bool.and_eq_true] at h
    rw [sequenceLanguage] at hw
    obtain ⟨a, ha, b, hb, rfl⟩ := Language.mem_mul.mp hw
    rw [eq_nil_of_isZeroWidth h.1 ha, eq_nil_of_mem_sequenceLanguage h.2 hb, List.nil_append]

/-- Nor has a choice between them. -/
theorem eq_nil_of_mem_branchLanguage {rs : List Regex} (h : allZeroWidth rs = true) {w : List Char}
    (hw : w ∈ branchLanguage rs) : w = [] := by
  cases rs with
  | nil => exact hw.elim
  | cons r rs =>
    rw [allZeroWidth, Bool.and_eq_true] at h
    rw [branchLanguage] at hw
    rcases hw with hw | hw
    · exact eq_nil_of_isZeroWidth h.1 hw
    · exact eq_nil_of_mem_branchLanguage h.2 hw

end

/-- Repetitions match what their bounds say, though what matches the empty text only is tried at most
once. -/
theorem language_mkRepetition {greedy : Bool} {sub : Regex} (hbounds : ∀ m, max = some m → min ≤ m) :
    (mkRepetition min max greedy sub).language = powers min max sub.language := by
  unfold mkRepetition
  generalize hused : (if sub.isZeroWidth then
    (Nat.min min 1, some ((max.map (Nat.min · 1)).getD 1)) else (min, max)) = bounds
  -- Without width, the only thing that matters is whether the text may be left out.
  have hsame : powers bounds.1 bounds.2 sub.language = powers min max sub.language := by
    rw [← hused]
    split
    · rename_i hzero
      have hnil : ∀ v ∈ sub.language, v = [] := fun v hv => eq_nil_of_isZeroWidth hzero hv
      have hfirst : Nat.min min 1 = 0 ↔ min = 0 := by
        show min ⊓ 1 = 0 ↔ min = 0
        omega
      ext w
      rw [mem_powers_of_forall_eq_nil hnil (min_le_of_cut hbounds),
        mem_powers_of_forall_eq_nil hnil hbounds, hfirst]
    · rfl
  rw [← hsame]
  obtain ⟨lo, hi⟩ := bounds
  simp only
  split
  · rw [powers_zero, language]
  · rw [powers_one]
  · rw [language]

end Regex

end GramSieve
