import GramSieve.Proofs.Regex.WellFormed

/-!
# Expressions with any text around them

* `language_mkConcat` — building a sequence keeps its language.
* `mem_language_unanchored` — a text is matched with any text around exactly if a part of it is
  matched.
-/

namespace GramSieve.Regex

open Text

/-! ### Sequences -/

/-- Two sequences one behind the other match a text of each. -/
theorem sequenceLanguage_append (rs rs' : List Regex) :
    sequenceLanguage (rs ++ rs') = sequenceLanguage rs * sequenceLanguage rs' := by
  induction rs with
  | nil => rw [List.nil_append, sequenceLanguage, one_mul]
  | cons r rs ih => rw [List.cons_append, sequenceLanguage, sequenceLanguage, ih, mul_assoc]

/-- An expression matches what the sequence of its parts matches. -/
theorem sequenceLanguage_parts (r : Regex) : sequenceLanguage (parts r) = r.language := by
  unfold parts
  split
  · rw [language]
  · rw [sequenceLanguage, language]
  · rw [sequenceLanguage, sequenceLanguage, mul_one]

/-- So the parts of a part may be taken up into the sequence. -/
theorem sequenceLanguage_flatMap_parts (rs : List Regex) :
    sequenceLanguage (rs.flatMap parts) = sequenceLanguage rs := by
  induction rs with
  | nil => rfl
  | cons r rs ih =>
    rw [List.flatMap_cons, sequenceLanguage_append, sequenceLanguage_parts, ih, sequenceLanguage]

/-- Joining literals keeps the language, because their bytes are text. -/
theorem sequenceLanguage_consJoined {r : Regex} {rs : List Regex} (hr : r.WellFormed)
    (hrs : AllWellFormed rs) : sequenceLanguage (consJoined r rs) = sequenceLanguage (r :: rs) := by
  unfold consJoined
  split
  · obtain ⟨text, rfl⟩ := hr
    obtain ⟨⟨more, rfl⟩, -⟩ := hrs
    have hjoined : ({text ++ more} : Language Char) = {text} * {more} :=
      Set.image2_singleton.symm
    rw [← Utf8.encode_append]
    simp only [sequenceLanguage, language, Utf8.decodeLossy_encode]
    rw [hjoined, mul_assoc]
  · rfl

/-- Joining neighbouring literals does not change what is matched. -/
theorem sequenceLanguage_joinLiterals {rs : List Regex} (h : ∀ r ∈ rs, r.WellFormed) :
    sequenceLanguage (joinLiterals rs) = sequenceLanguage rs := by
  induction rs with
  | nil => rfl
  | cons r rs ih =>
    obtain ⟨hr, hrs⟩ := List.forall_mem_cons.mp h
    have hjoin : joinLiterals (r :: rs) = consJoined r (joinLiterals rs) := rfl
    rw [hjoin, sequenceLanguage_consJoined hr (wellFormed_joinLiterals hrs), sequenceLanguage,
      sequenceLanguage, ih hrs]

/-- Building a sequence keeps its language. -/
theorem language_mkConcat {rs : List Regex} (h : ∀ r ∈ rs, r.WellFormed) :
    (mkConcat rs).language = sequenceLanguage rs := by
  have hparts : ∀ part ∈ rs.flatMap parts, part.WellFormed := by
    intro part hpart
    obtain ⟨r, hr, hpart⟩ := List.mem_flatMap.mp hpart
    exact wellFormed_of_mem_parts (h r hr) hpart
  have hjoined := sequenceLanguage_joinLiterals hparts
  rw [sequenceLanguage_flatMap_parts] at hjoined
  rw [← hjoined]
  -- No part left is the empty text, a single one stands for itself.
  unfold mkConcat
  split
  · rename_i heq
    rw [heq, sequenceLanguage, language]
  · rename_i heq
    rw [heq, sequenceLanguage, sequenceLanguage, mul_one]
  · rw [language]

/-! ### Any text -/

/-- Every character matches. -/
theorem mem_language_anyChar (c : Char) : [c] ∈ anyChar.language := by
  refine ⟨c, ?_, rfl⟩
  have hvalid : c.toNat < 0xD800 ∨ 0xDFFF < c.toNat ∧ c.toNat < 0x110000 := c.valid
  simp only [CodeSet.contains, CodeRange.contains, CodeRange.between, List.any_cons, List.any_nil,
    Bool.or_false, Bool.and_eq_true, decide_eq_true_eq]
  omega

/-- Any number of characters in a row is any text. -/
theorem mem_language_anyText (text : List Char) :
    text ∈ (mkRepetition 0 none true anyChar).language := by
  refine ⟨text.length, Nat.zero_le _, nofun, ?_⟩
  induction text with
  | nil => exact Language.nil_mem_one
  | cons c text ih =>
    rw [List.length_cons, pow_succ']
    exact Language.append_mem_mul (mem_language_anyChar c) ih

theorem wellFormed_anyChar : anyChar.WellFormed :=
  fun h => Alphabet.noConfusion h

theorem wellFormed_anyText : (mkRepetition 0 none true anyChar).WellFormed :=
  wellFormed_mkRepetition nofun wellFormed_anyChar

/-! ### Text around -/

variable {r : Regex} {text : List Char}

/-- An expression with any text around it is well formed if it was so alone. -/
theorem wellFormed_unanchored (hr : r.WellFormed) : (unanchored r).WellFormed := by
  refine wellFormed_mkConcat ?_
  simp only [List.forall_mem_cons]
  exact ⟨wellFormed_anyText, hr, wellFormed_anyText, List.forall_mem_nil _⟩

/-- With any text around, a text is matched exactly if a part of it is matched. -/
theorem mem_language_unanchored (hr : r.WellFormed) :
    text ∈ (unanchored r).language ↔ ∃ part, part <:+: text ∧ part ∈ r.language := by
  have hparts : ∀ part ∈ [mkRepetition 0 none true anyChar, r, mkRepetition 0 none true anyChar],
      part.WellFormed := by
    simp only [List.forall_mem_cons]
    exact ⟨wellFormed_anyText, hr, wellFormed_anyText, List.forall_mem_nil _⟩
  rw [unanchored, language_mkConcat hparts]
  simp only [sequenceLanguage, mul_one]
  constructor
  · intro h
    obtain ⟨front, -, rest, hrest, rfl⟩ := Language.mem_mul.mp h
    obtain ⟨part, hpart, behind, -, rfl⟩ := Language.mem_mul.mp hrest
    exact ⟨part, ⟨front, behind, List.append_assoc ..⟩, hpart⟩
  · rintro ⟨part, ⟨front, behind, rfl⟩, hpart⟩
    -- What stands before and behind the part is any text.
    rw [List.append_assoc]
    exact Language.append_mem_mul (mem_language_anyText front)
      (Language.append_mem_mul hpart (mem_language_anyText behind))

end GramSieve.Regex
