import GramSieve.Proofs.Regex.Building
import Mathlib

/-!
# Choices keep their language

Branches that are all characters, all bytes or all classes become one class, and what all branches
start with is taken out of them.

* `exists_of_asClass?` — the class of such branches matches what they match.
* `mkConcat_common` — common parts can be taken out in front of the choice between the rests.
* `language_mkAlternation`, `settled_mkAlternation` — a choice matches what one of its branches
  matches, and has no assertions and no empty ranges if they have none.
-/

namespace GramSieve.Regex

open Text

variable {rs : List Regex} {w : List Char}

/-! ### Branches -/

/-- A choice matches what one of its branches matches. -/
theorem mem_branchLanguage : w ∈ branchLanguage rs ↔ ∃ r ∈ rs, w ∈ r.language := by
  induction rs with
  | nil => simp [branchLanguage]
  | cons r rs ih => rw [branchLanguage, Language.mem_add, ih, List.exists_mem_cons_iff]

/-- An expression matches what one of its branches matches. -/
theorem branchLanguage_branches (r : Regex) : branchLanguage (branches r) = r.language := by
  unfold branches
  split
  · rw [language]
  · rw [branchLanguage, branchLanguage, add_zero]

/-- So the branches of a branch may be taken up into the choice. -/
theorem branchLanguage_flatMap_branches (rs : List Regex) :
    branchLanguage (rs.flatMap branches) = branchLanguage rs := by
  induction rs with
  | nil => rfl
  | cons r rs ih =>
    have happend (as bs : List Regex) :
        branchLanguage (as ++ bs) = branchLanguage as + branchLanguage bs := by
      ext w
      simp only [Language.mem_add, mem_branchLanguage, List.mem_append, or_and_right, exists_or]
    rw [List.flatMap_cons, happend, branchLanguage_branches, ih, branchLanguage]

/-! ### One class -/

/-- The sets of all branches in one. -/
theorem language_normalize_flatMap {β : Type} {f : Regex → Option β} {g : β → CodeSet} {bs : List β}
    (h : rs.mapM f = some bs)
    (hf : ∀ r ∈ rs, ∀ b, f r = some b → r.language = (g b).language ∧ (g b).Populated) :
    CodeSet.language (CodeSet.normalize (bs.flatMap g)) = branchLanguage rs ∧
      (CodeSet.normalize (bs.flatMap g)).Populated := by
  have hlanguage : CodeSet.language (CodeSet.normalize (bs.flatMap g)) =
      CodeSet.language (bs.flatMap g) := CodeSet.language_congr CodeSet.chars_normalize
  constructor
  · rw [hlanguage]
    ext w
    rw [mem_branchLanguage]
    constructor
    -- A character of the class is from the set of some branch.
    · rintro ⟨c, hc, rfl⟩
      obtain ⟨s, hs, hc⟩ := CodeSet.contains_flatten.mp hc
      obtain ⟨b, hb, rfl⟩ := List.mem_map.mp hs
      obtain ⟨r, hr, hrb⟩ := exists_of_mapM h b hb
      refine ⟨r, hr, ?_⟩
      rw [(hf r hr b hrb).1]
      exact ⟨c, hc, rfl⟩
    -- A branch has a set, as the step succeeds for all of them.
    · rintro ⟨r, hr, hw⟩
      obtain ⟨b, hb, hrb⟩ := exists_of_mem_of_mapM h r hr
      rw [(hf r hr b hrb).1] at hw
      obtain ⟨c, hc, rfl⟩ := hw
      exact ⟨c, CodeSet.contains_flatten.mpr ⟨g b, List.mem_map_of_mem hb, hc⟩, rfl⟩
  · refine CodeSet.Populated.normalize (CodeSet.populated_flatten fun s hs => ?_)
    obtain ⟨b, hb, rfl⟩ := List.mem_map.mp hs
    obtain ⟨r, hr, hrb⟩ := exists_of_mapM h b hb
    exact (hf r hr b hrb).2

/-- A branch of one character matches that character. -/
theorem exists_of_singleChar? {r : Regex} {n : Nat} (h : singleChar? r = some n) :
    ∃ c : Char, c.toNat = n ∧ r.language = {[c]} := by
  unfold singleChar? at h
  split at h
  · split at h
    · rename_i hdecode
      cases h
      exact ⟨_, rfl, by rw [language, Utf8.decodeLossy_of_decode hdecode]⟩
    · cases h
  · cases h

/-- A literal of one byte is an ASCII character, because literals are text. -/
theorem exists_of_singleByte? {r : Regex} {n : Nat} (hr : r.WellFormed) (h : singleByte? r = some n) :
    ∃ c : Char, c.toNat = n ∧ r.language = {[c]} := by
  have hlt := lt_of_singleByte? hr h
  unfold singleByte? at h
  split at h
  · rename_i b
    cases h
    have hvalid : b.toNat.isValidChar := .inl (by omega)
    refine ⟨Char.ofNat b.toNat, toNat_ofNat_of_isValidChar hvalid, ?_⟩
    have hbytes : [b] = Utf8.encode [Char.ofNat b.toNat] := by
      rw [← codeBytes_bytes hlt]
      show [b] = [UInt8.ofNat b.toNat]
      rw [UInt8.ofNat_toNat]
    rw [language, hbytes, Utf8.decodeLossy_encode]
  · cases h

/-- A branch that is a class matches the characters of the class. -/
theorem language_of_classOver? {alphabet : Alphabet} {r : Regex} {set : CodeSet} (hr : r.Concrete)
    (h : classOver? alphabet r = some set) : r.language = set.language ∧ set.Populated := by
  unfold classOver? at h
  split at h
  · split at h
    · cases h
      exact ⟨by rw [language], hr⟩
    · cases h
  · cases h

/-- Branches that can be one class: its characters are what they match. -/
theorem exists_of_asClass? {r : Regex} (hwell : ∀ r ∈ rs, r.WellFormed) (hrs : ∀ r ∈ rs, r.Concrete)
    (h : asClass? rs = some r) :
    ∃ alphabet set, r = mkClass alphabet set ∧ (alphabet = .bytes → set.isAscii = true) ∧
      set.language = branchLanguage rs ∧ set.Populated := by
  -- A code point as a set.
  have hsingle {r : Regex} {n : Nat} (h : ∃ c : Char, c.toNat = n ∧ r.language = {[c]}) :
      r.language = CodeSet.language [CodeRange.single n] ∧
        CodeSet.Populated [CodeRange.single n] := by
    obtain ⟨c, rfl, hlanguage⟩ := h
    exact ⟨hlanguage.trans (CodeSet.language_single c).symm, CodeSet.populated_single c⟩
  obtain ⟨ns, hns, rfl⟩ | ⟨ns, hns, rfl⟩ | ⟨alphabet, sets, hsets, rfl⟩ := asClass?_cases h
  · refine ⟨.unicode, _, rfl, by simp, ?_⟩
    rw [List.map_eq_flatMap]
    exact language_normalize_flatMap hns fun r _ _ hn => hsingle (exists_of_singleChar? hn)
  · refine ⟨.bytes, _, rfl, fun _ => isAscii_of_singleBytes hwell hns, ?_⟩
    rw [List.map_eq_flatMap]
    exact language_normalize_flatMap hns fun r hr _ hn =>
      hsingle (exists_of_singleByte? (hwell r hr) hn)
  · refine ⟨alphabet, _, rfl, ?_, ?_⟩
    · rintro rfl
      exact isAscii_of_classes hwell hsets
    · rw [← List.flatMap_id]
      exact language_normalize_flatMap hsets fun r hr _ hset =>
        language_of_classOver? (hrs r hr) hset

/-! ### Common parts -/

/-- What is left of a branch behind the common parts. -/
def restOf (common : List Regex) (r : Regex) : Regex := mkConcat ((parts r).drop common.length)

theorem restOf_concat (common rest : List Regex) :
    restOf common (.concat (common ++ rest)) = mkConcat rest := by
  rw [restOf, parts, List.drop_left]

/-- It has no assertions and no empty ranges if the branch had none. -/
theorem settled_restOf {common : List Regex} {r : Regex} (h : r.Settled)
    (hcommon : ∃ rest, r = .concat (common ++ rest)) : (restOf common r).Settled := by
  obtain ⟨rest, rfl⟩ := hcommon
  rw [restOf_concat]
  exact settled_mkConcat fun part hpart => h.of_mem_concat part (List.mem_append_right _ hpart)

/-- The common parts can be taken out in front of the choice. -/
theorem branchLanguage_common {common : List Regex} (hrs : ∀ r ∈ rs, r.Settled)
    (hcommon : ∀ r ∈ rs, ∃ rest, r = .concat (common ++ rest)) :
    branchLanguage rs = sequenceLanguage common * branchLanguage (rs.map (restOf common)) := by
  induction rs with
  | nil => rw [List.map_nil, branchLanguage, mul_zero]
  | cons r rs ih =>
    obtain ⟨hr, hbehind⟩ := List.forall_mem_cons.mp hrs
    obtain ⟨⟨rest, rfl⟩, hothers⟩ := List.forall_mem_cons.mp hcommon
    have hrest : (mkConcat rest).language = sequenceLanguage rest :=
      language_mkConcat fun part hpart =>
        (hr.of_mem_concat part (List.mem_append_right _ hpart)).wellFormed
    rw [List.map_cons, branchLanguage, branchLanguage, mul_add, ← ih hbehind hothers, restOf_concat,
      hrest, ← sequenceLanguage_append, language]

/-- The common parts in front of a choice between the rests match what the branches match. -/
theorem mkConcat_common {common : List Regex} {choice : Regex} (hrs : ∀ r ∈ rs, r.Settled)
    (hsome : rs ≠ []) (hcommon : ∀ r ∈ rs, ∃ rest, r = .concat (common ++ rest))
    (hchoice : choice.Settled)
    (hlanguage : choice.language = branchLanguage (rs.map (restOf common))) :
    (mkConcat (common ++ [choice])).Settled ∧
      (mkConcat (common ++ [choice])).language = branchLanguage rs := by
  have hparts : ∀ part ∈ common, part.Settled := by
    obtain ⟨r, hr⟩ := List.exists_mem_of_ne_nil _ hsome
    obtain ⟨rest, rfl⟩ := hcommon r hr
    exact fun part hpart => (hrs _ hr).of_mem_concat part (List.mem_append_left _ hpart)
  have hall : ∀ part ∈ common ++ [choice], part.Settled :=
    List.forall_mem_append.mpr ⟨hparts, List.forall_mem_singleton.mpr hchoice⟩
  refine ⟨settled_mkConcat hall, ?_⟩
  rw [language_mkConcat fun part hpart => (hall part hpart).wellFormed, sequenceLanguage_append,
    sequenceLanguage, sequenceLanguage, mul_one, hlanguage, ← branchLanguage_common hrs hcommon]

/-! ### Choices -/

/-- Neither have the branches of a branch. -/
theorem settled_of_mem_flatMap_branches (h : ∀ r ∈ rs, r.Settled) :
    ∀ r ∈ rs.flatMap branches, r.Settled := by
  intro branch hbranch
  obtain ⟨r, hr, hbranch⟩ := List.mem_flatMap.mp hbranch
  exact ⟨wellFormed_of_mem_branches (h r hr).wellFormed hbranch,
    concrete_of_mem_branches (h r hr).concrete hbranch⟩

/-- One round of building a choice keeps what its branches match, whatever it comes to. -/
theorem mkAlternationWith_matches {fuel : Nat} (h : ∀ r ∈ rs, r.Settled) :
    (mkAlternationWith fuel rs).Concrete ∧
      (mkAlternationWith fuel rs).language = branchLanguage rs := by
  induction fuel generalizing rs with
  | zero => exact ⟨allConcrete_iff.mpr fun r hr => (h r hr).concrete, by rw [mkAlternationWith, language]⟩
  | succ fuel ih =>
    have hbranches := settled_of_mem_flatMap_branches h
    have hall : ∀ r ∈ rs.flatMap branches, r.Concrete := fun r hr => (hbranches r hr).concrete
    rw [← branchLanguage_flatMap_branches rs]
    unfold mkAlternationWith
    split
    · -- Without a branch nothing matches.
      rename_i heq
      rw [heq]
      refine ⟨CodeSet.populated_nil, Set.eq_empty_of_forall_notMem ?_⟩
      rintro _ ⟨c, hc, -⟩
      cases hc
    · rename_i r heq
      rw [heq] at hbranches ⊢
      exact ⟨(hbranches r (.head _)).concrete, by rw [branchLanguage, branchLanguage, add_zero]⟩
    simp only
    split
    · rename_i heq
      obtain ⟨alphabet, set, rfl, hascii, hlanguage, hset⟩ :=
        exists_of_asClass? (fun r hr => (hbranches r hr).wellFormed) hall heq
      exact ⟨concrete_mkClass hset, (language_mkClass hascii hset).trans hlanguage⟩
    split
    · exact ⟨allConcrete_iff.mpr hall, by rw [language]⟩
    · exact ⟨allConcrete_iff.mpr hall, by rw [language]⟩
    · -- What the branches start with is taken out, and what is left of them is a smaller choice.
      rename_i common _ heq
      obtain ⟨hsome, hcommon⟩ := exists_of_commonParts? heq
      have hrest : ∀ r ∈ (rs.flatMap branches).map (restOf common), r.Settled := by
        intro rest hrest
        obtain ⟨r, hr, rfl⟩ := List.mem_map.mp hrest
        exact settled_restOf (hbranches r hr) (hcommon r hr)
      obtain ⟨hconcrete, hlanguage⟩ := ih hrest
      have hwell : (mkAlternationWith fuel ((rs.flatMap branches).map (restOf common))).WellFormed :=
        wellFormed_mkAlternationWith fun r hr => (hrest r hr).wellFormed
      obtain ⟨hsettled, heq⟩ := mkConcat_common hbranches hsome hcommon ⟨hwell, hconcrete⟩ hlanguage
      exact ⟨hsettled.concrete, heq⟩

/-- Building a choice adds no assertions and no empty ranges. -/
theorem settled_mkAlternation (h : ∀ r ∈ rs, r.Settled) : (mkAlternation rs).Settled :=
  ⟨wellFormed_mkAlternation fun r hr => (h r hr).wellFormed, (mkAlternationWith_matches h).1⟩

/-- A choice matches what one of its branches matches. -/
theorem language_mkAlternation (h : ∀ r ∈ rs, r.Settled) :
    (mkAlternation rs).language = branchLanguage rs :=
  (mkAlternationWith_matches h).2

end GramSieve.Regex
