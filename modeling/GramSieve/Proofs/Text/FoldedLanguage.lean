import GramSieve.Proofs.Regex.Language
import GramSieve.Proofs.Text.Folding

/-!
# Languages and their folded forms

Folding is a homomorphism of languages, and so is taking the folded texts of a language out of it. The
two agree on an expression and its folded form if they agree on what these are built from.

* `foldedPart` — the folded texts of a language.
* `foldedPart_mul`, `foldedPart_powers`, … — it goes through sequences, choices and repetitions.
* `Folds` — the folded texts of one language are the folded forms of the texts of another.
* `Folds.mul`, `Folds.add`, `Folds.powers` — sequences, choices and repetitions of such languages.
* `folds_singleton`, `folds_oneOf` — texts, and sets of characters.
-/

namespace GramSieve.Text

variable {fold : CaseFold} {l l' m m' : Language Char} {w : List Char}

/-- The folded texts of a language. -/
def foldedPart (fold : CaseFold) (l : Language Char) : Language Char :=
  {w | w ∈ l ∧ ∀ c ∈ w, fold.fold c = c}

theorem mem_foldedPart : w ∈ foldedPart fold l ↔ w ∈ l ∧ ∀ c ∈ w, fold.fold c = c := Iff.rfl

theorem mem_map : w ∈ Language.map fold.fold l ↔ ∃ v ∈ l, v.map fold.fold = w := Iff.rfl

/-! ### Folded texts -/

/-- The empty text is folded. -/
theorem foldedPart_one : foldedPart fold 1 = 1 := by
  ext w
  rw [mem_foldedPart, Language.mem_one]
  constructor
  · rintro ⟨rfl, -⟩
    rfl
  · rintro rfl
    exact ⟨rfl, List.forall_mem_nil _⟩

theorem foldedPart_zero : foldedPart fold 0 = 0 := Set.eq_empty_of_forall_notMem fun _ h => h.1

/-- The folded texts of a choice are those of its branches. -/
theorem foldedPart_add : foldedPart fold (l + m) = foldedPart fold l + foldedPart fold m := by
  ext w
  simp only [mem_foldedPart, Language.mem_add, or_and_right]

/-- A text is folded if both its parts are. -/
theorem foldedPart_mul : foldedPart fold (l * m) = foldedPart fold l * foldedPart fold m := by
  ext w
  rw [mem_foldedPart, Language.mem_mul, Language.mem_mul]
  constructor
  · rintro ⟨⟨a, ha, b, hb, rfl⟩, hfolded⟩
    obtain ⟨hafolded, hbfolded⟩ := List.forall_mem_append.mp hfolded
    exact ⟨a, ⟨ha, hafolded⟩, b, ⟨hb, hbfolded⟩, rfl⟩
  · rintro ⟨a, ⟨ha, hafolded⟩, b, ⟨hb, hbfolded⟩, rfl⟩
    exact ⟨⟨a, ha, b, hb, rfl⟩, List.forall_mem_append.mpr ⟨hafolded, hbfolded⟩⟩

/-- A text of several parts is folded if all of them are. -/
theorem foldedPart_pow (l : Language Char) (k : Nat) :
    foldedPart fold (l ^ k) = foldedPart fold l ^ k := by
  induction k with
  | zero => rw [pow_zero, pow_zero, foldedPart_one]
  | succ k ih => rw [pow_succ', pow_succ', foldedPart_mul, ih]

/-- So the folded texts of a repetition are the repetitions of folded texts. -/
theorem foldedPart_powers (min : Nat) (max : Option Nat) (l : Language Char) :
    foldedPart fold (powers min max l) = powers min max (foldedPart fold l) := by
  ext w
  constructor
  · rintro ⟨⟨k, hmin, hmax, hw⟩, hfolded⟩
    refine ⟨k, hmin, hmax, ?_⟩
    rw [← foldedPart_pow]
    exact ⟨hw, hfolded⟩
  · rintro ⟨k, hmin, hmax, hw⟩
    rw [← foldedPart_pow] at hw
    exact ⟨⟨k, hmin, hmax, hw.1⟩, hw.2⟩

/-- The folded forms of repetitions are the repetitions of folded forms. -/
theorem map_powers (min : Nat) (max : Option Nat) (l : Language Char) :
    Language.map fold.fold (powers min max l) = powers min max (Language.map fold.fold l) := by
  ext w
  constructor
  · rintro ⟨v, ⟨k, hmin, hmax, hv⟩, rfl⟩
    refine ⟨k, hmin, hmax, ?_⟩
    rw [← map_pow]
    exact ⟨v, hv, rfl⟩
  · rintro ⟨k, hmin, hmax, hw⟩
    rw [← map_pow] at hw
    obtain ⟨v, hv, rfl⟩ := hw
    exact ⟨v, ⟨k, hmin, hmax, hv⟩, rfl⟩

/-! ### Languages that fold to each other -/

/-- The folded texts of `l'` are the folded forms of the texts of `l`. -/
def Folds (fold : CaseFold) (l l' : Language Char) : Prop :=
  foldedPart fold l' = Language.map fold.fold l

theorem folds_one : Folds fold 1 1 := by
  rw [Folds, foldedPart_one, map_one]

theorem folds_zero : Folds fold 0 0 := by
  rw [Folds, foldedPart_zero, map_zero]

theorem Folds.mul (h : Folds fold l l') (hm : Folds fold m m') : Folds fold (l * m) (l' * m') := by
  rw [Folds, foldedPart_mul, map_mul, h, hm]

theorem Folds.add (h : Folds fold l l') (hm : Folds fold m m') : Folds fold (l + m) (l' + m') := by
  rw [Folds, foldedPart_add, map_add, h, hm]

theorem Folds.powers (h : Folds fold l l') (min : Nat) (max : Option Nat) :
    Folds fold (powers min max l) (powers min max l') := by
  rw [Folds, foldedPart_powers, map_powers, h]

/-- A text and its folded form. -/
theorem folds_singleton (fold : CaseFold) (text : List Char) :
    Folds fold {text} {text.map fold.fold} := by
  rw [Folds]
  ext w
  rw [mem_foldedPart, mem_map]
  constructor
  · rintro ⟨rfl, -⟩
    exact ⟨text, rfl, rfl⟩
  · rintro ⟨_, rfl, rfl⟩
    refine ⟨rfl, fun c hc => ?_⟩
    obtain ⟨d, -, rfl⟩ := List.mem_map.mp hc
    exact fold.fold_fold d

/-- Sets of characters, where the folded characters of one are the folded forms of the other. -/
theorem folds_oneOf {s t : CodeSet} (h : ∀ x : Char, fold.fold x = x →
    (t.contains x.toNat = true ↔ ∃ c : Char, s.contains c.toNat = true ∧ fold.fold c = x)) :
    Folds fold s.language t.language := by
  rw [Folds]
  ext w
  rw [mem_foldedPart, mem_map]
  constructor
  · rintro ⟨⟨x, hx, rfl⟩, hfolded⟩
    obtain ⟨c, hc, rfl⟩ := (h x (hfolded x (.head _))).mp hx
    exact ⟨[c], ⟨c, hc, rfl⟩, rfl⟩
  · rintro ⟨_, ⟨c, hc, rfl⟩, rfl⟩
    have hfolded : fold.fold (fold.fold c) = fold.fold c := fold.fold_fold c
    exact ⟨⟨fold.fold c, (h _ hfolded).mpr ⟨c, hc, rfl⟩, rfl⟩,
      List.forall_mem_singleton.mpr hfolded⟩

end GramSieve.Text
