import GramSieve.Proofs.Text.Folding
import Mathlib.Data.List.Infix

/-!
# Where lowercase depends on the neighbours

Most characters have a lowercase form of their own. Turkish and Irish have one rule each for two
characters side by side, and there lowercasing a text is more than folding its characters.

* `Locale.PairRule` — the rule for two characters applies behind some text.
* `Locale.lowercaseChars_eq_map_iff` — without such a place, and only then, lowercasing a text folds
  its characters one by one.
* `Locale.lowercaseChars_eq_map_of_infix` — only then are its folded characters part of its lowercase
  form.
* `Locale.independent_iff` — when this holds for every part of a text.
-/

namespace GramSieve.Text.Locale

/-- The rule of the language for two characters applies to `a` and `b`, which stand behind `front`.
In Turkish it is the one for an `I` with a combining dot, in Irish the one for a mutation. -/
def PairRule (locale : Locale) (front : List Char) (a b : Char) : Prop :=
  match locale with
  | .turkish | .azerbaijani => a = 'I' ∧ b = '\u0307'
  | .irish => (∀ c, front.getLast? = some c → Unicode.isAlphanumeric c = false) ∧
      (a = 'n' ∨ a = 't') ∧ isIrishUpperVowel b = true
  | .root | .greek | .other _ => False

/-- Somewhere in `text`, which stands behind `front`, the rule for two characters applies. -/
def UsesPairRuleBehind (locale : Locale) (front text : List Char) : Prop :=
  ∃ mid a b rest, text = mid ++ a :: b :: rest ∧ locale.PairRule (front ++ mid) a b

/-- Somewhere in the text the rule for two characters applies. -/
def UsesPairRule (locale : Locale) (text : List Char) : Prop :=
  ∃ front a b rest, text = front ++ a :: b :: rest ∧ locale.PairRule front a b

variable {locale : Locale} {front text : List Char} {a b : Char}

theorem usesPairRuleBehind_nil : locale.UsesPairRuleBehind [] text ↔ locale.UsesPairRule text :=
  Iff.rfl

theorem not_usesPairRuleBehind_empty : ¬locale.UsesPairRuleBehind front [] := by
  rintro ⟨mid, a, b, rest, h, -⟩
  simp at h

/-- The rule applies to the first two characters, or behind the first one. -/
theorem usesPairRuleBehind_cons :
    locale.UsesPairRuleBehind front (a :: text) ↔
      (∃ b ∈ text.head?, locale.PairRule front a b) ∨
        locale.UsesPairRuleBehind (front ++ [a]) text := by
  constructor
  · rintro ⟨mid, x, b, rest, h, hrule⟩
    rcases mid with _ | ⟨y, mid⟩
    · rw [List.nil_append, List.cons.injEq] at h
      rcases h with ⟨rfl, rfl⟩
      rw [List.append_nil] at hrule
      exact .inl ⟨b, rfl, hrule⟩
    · rw [List.cons_append, List.cons.injEq] at h
      rcases h with ⟨rfl, rfl⟩
      exact .inr ⟨mid, x, b, rest, rfl, by simpa using hrule⟩
  · rintro (⟨b, hb, hrule⟩ | ⟨mid, x, b, rest, rfl, hrule⟩)
    · obtain ⟨rest, rfl⟩ : ∃ rest, text = b :: rest := ⟨_, List.eq_cons_of_mem_head? hb⟩
      exact ⟨[], a, b, rest, rfl, by simpa using hrule⟩
    · exact ⟨a :: mid, x, b, rest, rfl, by simpa using hrule⟩

/-! ### Turkish -/

/-- The Turkish rule makes one character of two. -/
theorem length_turkishLowercase_le (text : List Char) :
    (turkishLowercase text).length ≤ text.length := by
  fun_induction turkishLowercase text <;> simp <;> omega

/-- So the lowercase form is made character by character unless the rule applies. -/
theorem turkishLowercase_eq_map_iff (front : List Char) :
    turkishLowercase text = text.map turkishFold ↔ ¬UsesPairRuleBehind .turkish front text := by
  fun_induction turkishLowercase text generalizing front with
  | case1 rest ih =>
    -- The `I` alone would be dotless.
    have hrule : UsesPairRuleBehind .turkish front ('I' :: '\u0307' :: rest) :=
      usesPairRuleBehind_cons.mpr (.inl ⟨_, rfl, rfl, rfl⟩)
    have hfold : turkishFold 'I' ≠ 'i' := by decide
    simp [hrule, hfold.symm]
  | case2 c rest hno ih =>
    have hhead : ¬∃ b ∈ rest.head?, PairRule .turkish front c b := by
      rintro ⟨b, hb, rfl, rfl⟩
      exact hno rest.tail rfl (List.eq_cons_of_mem_head? hb)
    rw [usesPairRuleBehind_cons, or_iff_right hhead, List.map_cons, List.cons.injEq,
      and_iff_right rfl]
    exact ih (front ++ [c])
  | case3 => simp [not_usesPairRuleBehind_empty]

/-- The folded characters are a part of a Turkish lowercase form only if they are all of it, since
that is not longer than they are. -/
theorem turkishLowercase_eq_map_of_infix
    (h : text.map turkishFold <:+: turkishLowercase text) :
    turkishLowercase text = text.map turkishFold := by
  -- The rule only makes a text shorter, so its folded characters leave no room around them.
  have hlength := length_turkishLowercase_le text
  exact (h.eq_of_length_le (by simpa using hlength)).symm

/-! ### Irish -/

/-- An `n` or a `t` gets a hyphen exactly if the rule applies. -/
theorem isMutation_iff :
    (front.getLast?.all (fun c => !Unicode.isAlphanumeric c) && (a == 'n' || a == 't') &&
      text.head?.any isIrishUpperVowel) = true ↔ ∃ b ∈ text.head?, PairRule .irish front a b := by
  simp only [PairRule, Bool.and_eq_true, Bool.or_eq_true, beq_iff_eq]
  rcases text with _ | ⟨b, rest⟩ <;> rcases front.getLast? with _ | c <;>
    simp [and_assoc]

/-- No vowel becomes a hyphen. -/
theorem lowercaseChar_ne_hyphen (h : isIrishUpperVowel b = true) : lowercaseChar b ≠ '-' := by
  have hall : ['A', 'E', 'I', 'O', 'U', 'Á', 'É', 'Í', 'Ó', 'Ú'].all
      (fun v => lowercaseChar v != '-') = true := by
    decide +kernel
  exact bne_iff_ne.mp (List.all_eq_true.mp hall b (List.contains_iff_mem.mp h))

/-- The Irish rule puts a hyphen where a vowel would stand, so it is seen wherever it applies. -/
theorem irishLowercase_eq_map_iff (front : List Char) :
    irishLowercase (front.getLast?.all fun c => !Unicode.isAlphanumeric c) text =
      text.map lowercaseChar ↔ ¬UsesPairRuleBehind .irish front text := by
  induction text generalizing front with
  | nil => simp [irishLowercase, not_usesPairRuleBehind_empty]
  | cons a rest ih =>
    rw [usesPairRuleBehind_cons, irishLowercase]
    by_cases hhead : ∃ b ∈ rest.head?, PairRule .irish front a b
    · -- The vowel stands where the hyphen does.
      rw [if_pos (isMutation_iff.mpr hhead)]
      simp only [hhead, true_or, not_true, iff_false]
      intro h
      obtain ⟨b, hb, -, -, hvowel⟩ := hhead
      rw [List.eq_cons_of_mem_head? hb] at h
      simp only [List.map_cons, List.cons.injEq] at h
      exact lowercaseChar_ne_hyphen hvowel h.2.1.symm
    · have hbehind := ih (front ++ [a])
      simp only [List.getLast?_concat, Option.all_some] at hbehind
      rw [if_neg (isMutation_iff.not.mpr hhead), or_iff_right hhead, List.map_cons,
        List.cons.injEq, and_iff_right rfl]
      exact hbehind

/-- The folded characters are a part of an Irish lowercase form only if they are all of it. A hyphen
in it would have to be one of them. -/
theorem irishLowercase_eq_map_of_infix {wordStart : Bool}
    (h : text.map lowercaseChar <:+: irishLowercase wordStart text) :
    irishLowercase wordStart text = text.map lowercaseChar := by
  induction text generalizing wordStart with
  | nil => rfl
  | cons c rest ih =>
    -- The characters behind the first one leave no room for it among their own lowercase forms.
    have hroom {wordStart : Bool} :
        ¬(c :: rest).map lowercaseChar <:+: irishLowercase wordStart rest := by
      intro hinfix
      have hrest := ih ((List.suffix_cons _ _).isInfix.trans hinfix)
      have hlength := hinfix.length_le
      rw [hrest, List.length_map, List.length_map, List.length_cons] at hlength
      omega
    rw [irishLowercase] at h ⊢
    split at h
    · rename_i hmutation
      simp only [Bool.and_eq_true, Bool.or_eq_true, beq_iff_eq] at hmutation
      obtain ⟨⟨-, hc⟩, hvowel⟩ := hmutation
      exfalso
      -- From the first character on, the vowel would be the hyphen.
      rcases List.infix_cons_iff.mp h with hprefix | h
      · rcases rest with _ | ⟨b, rest⟩
        · simp at hvowel
        · simp only [List.map_cons, List.cons_prefix_cons] at hprefix
          exact lowercaseChar_ne_hyphen (by simpa using hvowel) hprefix.2.1
      -- From the hyphen on, the first character would be the hyphen.
      rcases List.infix_cons_iff.mp h with hprefix | h
      · have hhyphen := (List.cons_prefix_cons.mp hprefix).1
        rcases hc with rfl | rfl <;> revert hhyphen <;> decide
      · exact hroom h
    · rcases List.infix_cons_iff.mp h with hprefix | h
      · rename_i hplain
        have hrest := ih (List.cons_prefix_cons.mp hprefix).2.isInfix
        rw [if_neg hplain, hrest, List.map_cons]
      · exact absurd h hroom

/-! ### All languages -/

/-- **Lowercase is a fold of characters** exactly where no rule for two characters applies. -/
theorem lowercaseChars_eq_map_iff :
    locale.lowercaseChars text = text.map locale.charFold.fold ↔ ¬locale.UsesPairRule text := by
  have hnone (h : ∀ front a b, ¬locale.PairRule front a b) : ¬locale.UsesPairRule text := by
    rintro ⟨front, a, b, -, -, hrule⟩
    exact h front a b hrule
  cases locale with
  | turkish | azerbaijani =>
    rw [← usesPairRuleBehind_nil]
    exact turkishLowercase_eq_map_iff []
  | irish =>
    rw [← usesPairRuleBehind_nil]
    exact irishLowercase_eq_map_iff []
  | root | greek | other => exact iff_of_true rfl (hnone fun _ _ _ h => h)

/-- The folded characters of a text are part of its lowercase form only if they are all of it. -/
theorem lowercaseChars_eq_map_of_infix
    (h : text.map locale.charFold.fold <:+: locale.lowercaseChars text) :
    locale.lowercaseChars text = text.map locale.charFold.fold := by
  cases locale with
  | turkish | azerbaijani => exact turkishLowercase_eq_map_of_infix h
  | irish => exact irishLowercase_eq_map_of_infix h
  | root | greek | other => rfl

/-! ### Parts of texts -/

/-- No two characters side by side fall under the rule of the language, whatever stands before
them. -/
def Independent (locale : Locale) (text : List Char) : Prop :=
  ∀ a b, [a, b] <:+: text → ¬locale.PairRule [] a b

/-- A rule that applies somewhere applies at the start of a text. -/
theorem PairRule.nil (h : locale.PairRule front a b) : locale.PairRule [] a b := by
  cases locale with
  | irish => exact ⟨nofun, h.2⟩
  | turkish | azerbaijani | root | greek | other => exact h

/-- **Lowercase is a fold of characters in every part of a text** exactly if no two characters in it
fall under the rule of the language. -/
theorem independent_iff :
    locale.Independent text ↔
      ∀ part, part <:+: text → locale.lowercaseChars part = part.map locale.charFold.fold := by
  constructor
  · intro h part hpart
    rw [lowercaseChars_eq_map_iff]
    rintro ⟨front, a, b, rest, rfl, hrule⟩
    have hpair : [a, b] <:+: front ++ a :: b :: rest := ⟨front, rest, by simp⟩
    exact h a b (hpair.trans hpart) hrule.nil
  · intro h a b hpair hrule
    exact lowercaseChars_eq_map_iff.mp (h [a, b] hpair) ⟨[], a, b, [], rfl, hrule⟩

end GramSieve.Text.Locale
