import GramSieve.Proofs.Pattern.FoldedRange
import GramSieve.Proofs.Regex.Choice
import GramSieve.Proofs.Text.FoldedLanguage
import Mathlib

/-!
# Folding a pattern folds its language

For patterns of literals, dots, bracketed characters, sequences, choices, repetitions and groups. Folding
such a pattern replaces characters only, but two members of a class may become one, and a class of one
member is a literal that joins its neighbours.

* `Tree.isPlain` — the patterns of this kind.
* `FoldedSets`, `resolveTerm_fold` — the set of a folded class has the folded characters.
* `FoldedForm` — two expressions, where the folded texts that the second one matches are the folded
  forms of those that the first one matches.
* `foldedForm_mkConcat`, `foldedForm_mkAlternation`, `FoldedForm.mkRepetition` — building keeps this.
* `mem_language_fold_iff` — a folded text is matched by a folded pattern exactly if it is the folded form
  of a text that the pattern matches.
-/

namespace GramSieve

open Text Regex

namespace Pattern

/-! ### Plain patterns -/

mutual

/-- Whether a class is made of single characters only. -/
def ClassTerm.isPlain : ClassTerm → Bool
  | .empty _ | .literal _ => true
  | .bracketed _ negated inner => !negated && inner.isPlain
  | .union _ items => ClassTerm.allPlain items
  | _ => false

/-- Whether several classes are made of single characters only. -/
def ClassTerm.allPlain : List ClassTerm → Bool
  | [] => true
  | t :: rest => t.isPlain && ClassTerm.allPlain rest

end

/-- Whether a group sets or clears no flags. -/
def GroupKind.hasNoFlags : GroupKind → Bool
  | .flags items => items.isEmpty
  | _ => true

mutual

/-- Whether a pattern is made of literals, dots, bracketed characters that are not negated, sequences,
choices, repetitions and groups without flags. -/
def Tree.isPlain : Tree → Bool
  | .empty _ | .literal _ | .dot _ => true
  | .bracketed _ negated inner => !negated && inner.isPlain
  | .repetition _ _ _ sub => sub.isPlain
  | .group _ kind sub => kind.hasNoFlags && sub.isPlain
  | .alternation _ branches => Tree.allPlain branches
  | .concat _ parts => Tree.allPlain parts
  | _ => false

/-- Whether several patterns are plain. -/
def Tree.allPlain : List Tree → Bool
  | [] => true
  | t :: rest => t.isPlain && Tree.allPlain rest

end

end Pattern

namespace Regex

open Pattern

variable {fold : CaseFold}

/-! ### Classes -/

/-- Two sets, the characters of the second being the folded forms of those of the first. -/
structure FoldedSets (fold : CaseFold) (s t : CodeSet) : Prop where
  populated : s.Populated
  populated_folded : t.Populated
  chars : t.chars = fold.fold '' s.chars

theorem foldedSets_nil : FoldedSets fold [] [] := by
  refine ⟨CodeSet.populated_nil, CodeSet.populated_nil, ?_⟩
  rw [CodeSet.chars_nil, Set.image_empty]

/-- The range of a character is folded to that of its folded character. -/
theorem foldedSets_single (fold : CaseFold) (c : Char) :
    FoldedSets fold [CodeRange.single c.toNat] [CodeRange.single (fold.fold c).toNat] := by
  refine ⟨CodeSet.populated_single c, CodeSet.populated_single _, ?_⟩
  rw [CodeSet.chars_single, CodeSet.chars_single, Set.image_singleton]

variable {s s' t t' : CodeSet}

/-- Sets that are put together are folded one by one. -/
theorem FoldedSets.append (h : FoldedSets fold s s') (h' : FoldedSets fold t t') :
    FoldedSets fold (s ++ t) (s' ++ t') := by
  refine ⟨h.populated.append h'.populated, h.populated_folded.append h'.populated_folded, ?_⟩
  rw [CodeSet.chars_append, CodeSet.chars_append, h.chars, h'.chars, Set.image_union]

/-- Merging ranges on both sides keeps the characters, and so how they are folded. -/
theorem FoldedSets.normalize (h : FoldedSets fold s s') :
    FoldedSets fold (CodeSet.normalize s) (CodeSet.normalize s') := by
  refine ⟨h.populated.normalize, h.populated_folded.normalize, ?_⟩
  rw [CodeSet.chars_normalize, CodeSet.chars_normalize, h.chars]

/-- The language of the folded set belongs to that of the set. -/
theorem FoldedSets.folds (h : FoldedSets fold s s') : Folds fold s.language s'.language := by
  refine folds_oneOf fun x _ => ?_
  have hx : x ∈ s'.chars ↔ x ∈ fold.fold '' s.chars := by rw [h.chars]
  exact hx

mutual

/-- The set of a folded class has the folded characters. -/
theorem resolveTerm_fold (fold : CaseFold) {term : ClassTerm} (h : term.isPlain = true) :
    ∃ s s', resolveTerm {} term = .ok s ∧ resolveTerm {} (term.fold fold) = .ok s' ∧
      FoldedSets fold s s' := by
  -- Ranges and named classes are not plain: they are not folded member by member.
  cases term with
  | empty span => exact ⟨[], [], rfl, rfl, foldedSets_nil⟩
  | literal l =>
    refine ⟨_, _, ?_, ?_, foldedSets_single fold l.char⟩
    · rw [resolveTerm, resolveMember_default]
      rfl
    · rw [ClassTerm.fold, resolveTerm, resolveMember_default]
      rfl
  | bracketed span negated inner =>
    rw [ClassTerm.isPlain, Bool.and_eq_true, Bool.not_eq_true'] at h
    obtain ⟨rfl, hinner⟩ := h
    obtain ⟨s, s', hs, hs', hsets⟩ := resolveTerm_fold fold hinner
    refine ⟨s, s', ?_, ?_, hsets⟩
    · rw [resolveTerm, hs]
      rfl
    · rw [ClassTerm.fold, resolveTerm, hs']
      rfl
  | union span items =>
    rw [ClassTerm.isPlain] at h
    obtain ⟨s, s', hs, hs', hsets⟩ := resolveTerms_foldAll fold h
    refine ⟨_, _, ?_, ?_, hsets.normalize⟩
    · rw [resolveTerm, hs]
      rfl
    · rw [ClassTerm.fold, resolveTerm, hs']
      rfl
  | range | ascii | property | perl | binary => simp [ClassTerm.isPlain] at h

/-- Folding the members of a class folds its characters. -/
theorem resolveTerms_foldAll (fold : CaseFold) {terms : List ClassTerm}
    (h : ClassTerm.allPlain terms = true) :
    ∃ s s', resolveTerms {} terms = .ok s ∧ resolveTerms {} (ClassTerm.foldAll fold terms) = .ok s' ∧
      FoldedSets fold s s' := by
  cases terms with
  | nil => exact ⟨[], [], rfl, rfl, foldedSets_nil⟩
  | cons term terms =>
    rw [ClassTerm.allPlain, Bool.and_eq_true] at h
    obtain ⟨s, s', hs, hs', hsets⟩ := resolveTerm_fold fold h.1
    obtain ⟨t, t', ht, ht', hrest⟩ := resolveTerms_foldAll fold h.2
    refine ⟨s ++ t, s' ++ t', ?_, ?_, hsets.append hrest⟩
    · rw [resolveTerms, hs, ht]
      rfl
    · rw [ClassTerm.foldAll, resolveTerms, hs', ht']
      rfl

end

/-! ### Expressions -/

/-- Two expressions that are built alike, where the folded texts that the second one matches are the
folded forms of the texts that the first one matches. -/
structure FoldedForm (fold : CaseFold) (r r' : Regex) : Prop where
  settled : r.Settled
  settled_folded : r'.Settled
  folds : Folds fold r.language r'.language

/-- The empty expression has nothing to fold. -/
theorem foldedForm_empty : FoldedForm fold .empty .empty := by
  have hempty : Settled .empty := ⟨trivial, trivial⟩
  refine ⟨hempty, hempty, ?_⟩
  rw [language]
  exact folds_one

theorem settled_ofText (text : List Char) : (ofText text).Settled :=
  ⟨wellFormed_ofText text, concrete_mkLiteral _⟩

/-- A text is folded character by character. -/
theorem foldedForm_ofText (fold : CaseFold) (text : List Char) :
    FoldedForm fold (ofText text) (ofText (text.map fold.fold)) := by
  refine ⟨settled_ofText _, settled_ofText _, ?_⟩
  rw [language_ofText, language_ofText]
  exact folds_singleton fold text

/-- A class stays in step with its folded form, also where one of both becomes a literal. -/
theorem FoldedSets.mkClass (h : FoldedSets fold s s') :
    FoldedForm fold (mkClass .unicode s) (mkClass .unicode s') := by
  have hascii (s : CodeSet) : Alphabet.unicode = .bytes → s.isAscii = true := by simp
  refine ⟨⟨wellFormed_mkClass (hascii s), concrete_mkClass h.populated⟩,
    ⟨wellFormed_mkClass (hascii s'), concrete_mkClass h.populated_folded⟩, ?_⟩
  rw [language_mkClass (hascii s) h.populated, language_mkClass (hascii s') h.populated_folded]
  exact h.folds

/-- The characters but for the line end. -/
def notNewline : CodeSet := [.between 0 0x09, .between 0x0B 0x10FFFF]

/-- A dot stands for every character but a line end. -/
theorem contains_notNewline (c : Char) : notNewline.contains c.toNat = true ↔ c ≠ '\n' := by
  have hvalid : c.toNat < 0xD800 ∨ 0xDFFF < c.toNat ∧ c.toNat < 0x110000 := c.valid
  have hline : '\n'.toNat = 0x0A := rfl
  rw [notNewline, CodeSet.contains_cons, CodeSet.contains_singleton,
    CodeRange.contains_between (Nat.zero_le _), CodeRange.contains_between (by decide), Ne,
    ← Char.toNat_inj]
  omega

/-- The dot is its own folded form, since only the line end is folded to the line end. -/
theorem foldedForm_dot : FoldedForm fold (.oneOf .unicode notNewline) (.oneOf .unicode notNewline) := by
  have hpopulated : notNewline.Populated := by
    refine List.forall_mem_cons.mpr ⟨⟨'\t', by decide⟩, ?_⟩
    exact List.forall_mem_singleton.mpr ⟨'a', by decide⟩
  have hsettled : Settled (.oneOf .unicode notNewline) := by
    refine ⟨fun h => ?_, hpopulated⟩
    cases h
  refine ⟨hsettled, hsettled, ?_⟩
  rw [language]
  refine folds_oneOf fun x hx => ?_
  simp only [contains_notNewline]
  constructor
  · intro hne
    exact ⟨x, hne, hx⟩
  -- Only a line end is folded to a line end.
  · rintro ⟨c, hne, rfl⟩ hline
    exact hne (CaseFold.fold_eq_newline hline)

variable {r r' : Regex} {rs rs' : List Regex}

/-- A repetition is folded by folding what is repeated. -/
theorem FoldedForm.mkRepetition {bounds : Bounds} (h : FoldedForm fold r r')
    (hbounds : ∀ m, bounds.max = some m → bounds.min ≤ m) (greedy : Bool) :
    FoldedForm fold (mkRepetition bounds.min bounds.max greedy r)
      (mkRepetition bounds.min bounds.max greedy r') := by
  have hsettled {r : Regex} (h : r.Settled) :
      (Regex.mkRepetition bounds.min bounds.max greedy r).Settled :=
    ⟨wellFormed_mkRepetition hbounds h.wellFormed, concrete_mkRepetition h.concrete⟩
  refine ⟨hsettled h.settled, hsettled h.settled_folded, ?_⟩
  rw [language_mkRepetition hbounds, language_mkRepetition hbounds]
  exact h.folds.powers _ _

/-- Groups do not matter. -/
theorem FoldedForm.resolveGroup (h : FoldedForm fold r r') (kind : GroupKind) :
    FoldedForm fold (resolveGroup kind r) (resolveGroup kind r') := by
  have hcapture (index : Nat) (name : Option String) :
      FoldedForm fold (.capture index name r) (.capture index name r') := by
    refine ⟨⟨h.settled.wellFormed, h.settled.concrete⟩,
      ⟨h.settled_folded.wellFormed, h.settled_folded.concrete⟩, ?_⟩
    rw [language, language]
    exact h.folds
  cases kind with
  | capture index => exact hcapture index none
  | named index name => exact hcapture index (some name)
  | flags items => exact h

/-- Expressions in step are settled on both sides. -/
theorem settled_of_forall₂ (h : List.Forall₂ (FoldedForm fold) rs rs') :
    (∀ r ∈ rs, r.Settled) ∧ ∀ r ∈ rs', r.Settled := by
  induction h with
  | nil => exact ⟨List.forall_mem_nil _, List.forall_mem_nil _⟩
  | cons h _ ih =>
    exact ⟨List.forall_mem_cons.mpr ⟨h.settled, ih.1⟩,
      List.forall_mem_cons.mpr ⟨h.settled_folded, ih.2⟩⟩

/-- Sequences are in step if their parts are. -/
theorem folds_sequence (h : List.Forall₂ (FoldedForm fold) rs rs') :
    Folds fold (sequenceLanguage rs) (sequenceLanguage rs') := by
  induction h with
  | nil => exact folds_one
  | cons h _ ih => exact h.folds.mul ih

/-- Choices are in step if their branches are. -/
theorem folds_branches (h : List.Forall₂ (FoldedForm fold) rs rs') :
    Folds fold (branchLanguage rs) (branchLanguage rs') := by
  induction h with
  | nil => exact folds_zero
  | cons h _ ih => exact h.folds.add ih

/-- A sequence is folded by folding its parts, though other literals may be joined then. -/
theorem foldedForm_mkConcat (h : List.Forall₂ (FoldedForm fold) rs rs') :
    FoldedForm fold (mkConcat rs) (mkConcat rs') := by
  obtain ⟨hrs, hrs'⟩ := settled_of_forall₂ h
  refine ⟨settled_mkConcat hrs, settled_mkConcat hrs', ?_⟩
  rw [language_mkConcat fun r hr => (hrs r hr).wellFormed,
    language_mkConcat fun r hr => (hrs' r hr).wellFormed]
  exact folds_sequence h

/-- A choice is folded by folding its branches, though other branches may have parts in common then. -/
theorem foldedForm_mkAlternation (h : List.Forall₂ (FoldedForm fold) rs rs') :
    FoldedForm fold (mkAlternation rs) (mkAlternation rs') := by
  obtain ⟨hrs, hrs'⟩ := settled_of_forall₂ h
  refine ⟨settled_mkAlternation hrs, settled_mkAlternation hrs', ?_⟩
  rw [language_mkAlternation hrs, language_mkAlternation hrs']
  exact folds_branches h

/-! ### Patterns -/

/-- In a group that sets no flags the same flags hold as before. -/
theorem resolveTree_group (span : Span) {kind : GroupKind} {sub : Tree} (hkind : kind.hasNoFlags = true)
    (hsub : resolveTree {} sub = .ok (r, {})) :
    resolveTree {} (.group span kind sub) = .ok (Regex.resolveGroup kind r, {}) := by
  unfold resolveTree
  cases kind with
  | capture | named =>
    simp only [hsub]
    rfl
  | flags items =>
    obtain rfl : items = [] := List.isEmpty_iff.mp hkind
    have happly : ({} : Flags).apply [] = {} := rfl
    simp only [happly, hsub]
    rfl

mutual

/-- A plain pattern and its folded form are resolved to expressions that fold to each other. -/
theorem resolveTree_fold (fold : CaseFold) {t : Tree} (hplain : t.isPlain = true)
    (hbounds : t.WellBounded) :
    ∃ r r', resolveTree {} t = .ok (r, {}) ∧ resolveTree {} (t.fold fold) = .ok (r', {}) ∧
      FoldedForm fold r r' := by
  -- Flags, assertions and named classes are not plain. All other patterns are built the same way from
  -- parts that are in step.
  cases t with
  | empty span => exact ⟨.empty, .empty, rfl, rfl, foldedForm_empty⟩
  | literal l =>
    exact ⟨_, _, resolveTree_literal l, resolveTree_literal (l.fold fold),
      foldedForm_ofText fold [l.char]⟩
  | dot span => exact ⟨_, _, rfl, rfl, foldedForm_dot⟩
  | bracketed span negated inner =>
    rw [Tree.isPlain, Bool.and_eq_true, Bool.not_eq_true'] at hplain
    obtain ⟨rfl, hinner⟩ := hplain
    obtain ⟨s, s', hs, hs', hsets⟩ := resolveTerm_fold fold hinner
    refine ⟨_, _, ?_, ?_, hsets.mkClass⟩
    · rw [resolveTree, hs]
      rfl
    · rw [Tree.fold, resolveTree, hs']
      rfl
  | repetition span bounds greedy sub =>
    rw [Tree.isPlain] at hplain
    obtain ⟨r, r', hr, hr', hform⟩ := resolveTree_fold fold hplain hbounds.2
    refine ⟨_, _, ?_, ?_, hform.mkRepetition hbounds.1 (greedy != false)⟩
    · rw [resolveTree, hr]
      rfl
    · rw [Tree.fold, resolveTree, hr']
      rfl
  | group span kind sub =>
    rw [Tree.isPlain, Bool.and_eq_true] at hplain
    obtain ⟨hkind, hsub⟩ := hplain
    obtain ⟨r, r', hr, hr', hform⟩ := resolveTree_fold fold hsub hbounds
    exact ⟨_, _, resolveTree_group span hkind hr, resolveTree_group span hkind hr',
      hform.resolveGroup kind⟩
  | alternation span branches =>
    rw [Tree.isPlain] at hplain
    obtain ⟨rs, rs', hrs, hrs', hforms⟩ := resolveTrees_foldAll fold hplain hbounds
    refine ⟨_, _, ?_, ?_, foldedForm_mkAlternation hforms⟩
    · rw [resolveTree, hrs]
      rfl
    · rw [Tree.fold, resolveTree, hrs']
      rfl
  | concat span parts =>
    rw [Tree.isPlain] at hplain
    obtain ⟨rs, rs', hrs, hrs', hforms⟩ := resolveTrees_foldAll fold hplain hbounds
    refine ⟨_, _, ?_, ?_, foldedForm_mkConcat hforms⟩
    · rw [resolveTree, hrs]
      rfl
    · rw [Tree.fold, resolveTree, hrs']
      rfl
  | flags | assertion | property | perl => simp [Tree.isPlain] at hplain

/-- Parts of a plain pattern and their folded forms resolve to expressions in step. -/
theorem resolveTrees_foldAll (fold : CaseFold) {ts : List Tree} (hplain : Tree.allPlain ts = true)
    (hbounds : Tree.AllWellBounded ts) :
    ∃ rs rs', resolveTrees {} ts = .ok (rs, {}) ∧
      resolveTrees {} (Tree.foldAll fold ts) = .ok (rs', {}) ∧
        List.Forall₂ (FoldedForm fold) rs rs' := by
  cases ts with
  | nil => exact ⟨[], [], rfl, rfl, .nil⟩
  | cons t ts =>
    rw [Tree.allPlain, Bool.and_eq_true] at hplain
    obtain ⟨r, r', hr, hr', hform⟩ := resolveTree_fold fold hplain.1 hbounds.1
    obtain ⟨rs, rs', hrs, hrs', hforms⟩ := resolveTrees_foldAll fold hplain.2 hbounds.2
    refine ⟨r :: rs, r' :: rs', ?_, ?_, .cons hform hforms⟩
    · rw [resolveTrees, hr, ok_bind]
      simp only [hrs, ok_bind]
      rfl
    · rw [Tree.foldAll, resolveTrees, hr', ok_bind]
      simp only [hrs', ok_bind]
      rfl

end

/-! ### Compiling -/

/-- A pattern without assertions is compiled to the expression that it resolves to. -/
theorem compile_of_resolve {text : String} {tree : Tree} (fold : Option CaseFold)
    (hparse : parse text = .ok tree)
    (htree : resolveTree {} (fold.elim tree tree.fold) = .ok (r, {})) (hr : r.Concrete) :
    compile text fold = .ok r := by
  have hresolve : resolve (fold.elim tree tree.fold) = .ok r := by
    rw [resolve, htree]
    rfl
  unfold compile
  cases fold with
  | none =>
    have hresolve : resolve tree = .ok r := hresolve
    simp only [hparse, Except.mapError, ok_bind, hresolve, hr.firstLook?]
    rfl
  | some fold =>
    have hresolve : resolve (tree.fold fold) = .ok r := hresolve
    simp only [hparse, Except.mapError, ok_bind, hresolve, hr.firstLook?]
    rfl

/-- **Folding a plain pattern folds its language.** Both are compiled, and a folded text is matched by the
folded pattern exactly if it is the folded form of a text that the pattern itself matches. -/
theorem mem_language_fold_iff (fold : CaseFold) {text : String} {tree : Tree}
    (hparse : parse text = .ok tree) (hplain : tree.isPlain = true) :
    ∃ r r', compile text none = .ok r ∧ compile text (some fold) = .ok r' ∧
      ∀ w : List Char, (∀ c ∈ w, fold.fold c = c) →
        (w ∈ r'.language ↔ ∃ v ∈ r.language, v.map fold.fold = w) := by
  obtain ⟨r, r', hr, hr', hform⟩ := resolveTree_fold fold hplain (wellBounded_of_parse hparse)
  refine ⟨r, r', compile_of_resolve none hparse hr hform.settled.concrete,
    compile_of_resolve (some fold) hparse hr' hform.settled_folded.concrete, fun w hw => ?_⟩
  rw [← mem_map, ← hform.folds, mem_foldedPart, and_iff_left hw]

/-- In Greek the two sigmas of `[Σς]` become one, and the class becomes a part of a literal. -/
theorem mem_language_fold_iff_sigmas :
    ∃ tree r, parse "[Σς]Σ" = .ok tree ∧ tree.isPlain = true ∧ compile "[Σς]Σ" none = .ok r ∧
      compile "[Σς]Σ" (some .greek) = .ok (.literal [0xCF, 0x83, 0xCF, 0x83]) ∧
        (∀ c ∈ ['σ', 'σ'], CaseFold.greek.fold c = c) ∧
          ∃ v ∈ r.language, v.map CaseFold.greek.fold = ['σ', 'σ'] := by
  obtain ⟨tree, hparse, hplain⟩ : ∃ tree, parse "[Σς]Σ" = .ok tree ∧ tree.isPlain = true := by
    have hplain : (match parse "[Σς]Σ" with
      | .ok tree => tree.isPlain
      | .error _ => false) = true := by cbv
    split at hplain
    · exact ⟨_, by assumption, hplain⟩
    · cases hplain
  -- Both sigmas of the class are folded to one, so the class becomes a literal and joins the third.
  have hfolded : compile "[Σς]Σ" (some .greek) = .ok (.literal [0xCF, 0x83, 0xCF, 0x83]) := by cbv
  have hsigma : CaseFold.greek.fold 'σ' = 'σ' := by decide +kernel
  have hsigmas : ∀ c ∈ ['σ', 'σ'], CaseFold.greek.fold c = c :=
    List.forall_mem_cons.mpr ⟨hsigma, List.forall_mem_singleton.mpr hsigma⟩
  obtain ⟨r, r', hr, hr', hiff⟩ := mem_language_fold_iff .greek hparse hplain
  obtain rfl : r' = .literal [0xCF, 0x83, 0xCF, 0x83] := Except.ok.inj (hr'.symm.trans hfolded)
  have hmem : ['σ', 'σ'] ∈ language (.literal [0xCF, 0x83, 0xCF, 0x83]) := by
    rw [language]
    show ['σ', 'σ'] = Utf8.decodeLossy [0xCF, 0x83, 0xCF, 0x83]
    cbv
  exact ⟨tree, r, hparse, hplain, hr, hfolded, hsigmas, (hiff _ hsigmas).mp hmem⟩

end Regex

end GramSieve
