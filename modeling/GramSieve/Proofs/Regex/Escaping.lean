import GramSieve.Proofs.Pattern.Escaping
import GramSieve.Proofs.Regex.Literal
import GramSieve.Regex.Compile

/-!
# Escaped text as an expression

* `mkConcat_ofText` — characters in sequence are a text.
* `compile_escapeText` — escaped text is compiled to the literal of its folded characters.
* `language_ofText` — which matches that text only.
-/

namespace GramSieve.Regex

open Pattern Text

/-! ### Texts as expressions -/

/-- No character is encoded without bytes. -/
theorem utf8EncodeChar_ne_nil (c : Char) : String.utf8EncodeChar c ≠ [] := by
  obtain ⟨a, tail, hbytes, -⟩ := Utf8.next_utf8EncodeChar c []
  rw [hbytes]
  exact List.cons_ne_nil a tail

/-- A text that is not empty is a literal of its bytes. -/
theorem ofText_cons (c : Char) (cs : List Char) :
    ofText (c :: cs) = .literal (Utf8.encode (c :: cs)) := by
  have hne : Utf8.encode (c :: cs) ≠ [] := by
    rw [Utf8.encode, List.flatMap_cons]
    exact List.append_ne_nil_of_left_ne_nil (utf8EncodeChar_ne_nil c) _
  rw [ofText, mkLiteral, if_neg (by simpa using hne)]

/-- Such a literal is the only part of itself. -/
theorem parts_ofText_cons (c : Char) (cs : List Char) :
    parts (ofText (c :: cs)) = [ofText (c :: cs)] := by
  rw [ofText_cons]
  rfl

/-- A character joins the text behind it. -/
theorem consJoined_ofText (c : Char) (cs : List Char) :
    consJoined (ofText [c]) (parts (ofText cs)) = parts (ofText (c :: cs)) := by
  rcases cs with _ | ⟨d, cs⟩
  · rw [parts_ofText_cons, ofText_cons]
    rfl
  · rw [parts_ofText_cons, parts_ofText_cons, ofText_cons, ofText_cons, ofText_cons, consJoined,
      ← Utf8.encode_append]
    rfl

/-- The literals of single characters are joined to the literal of the text. -/
theorem joinLiterals_ofText (cs : List Char) :
    joinLiterals ((cs.map fun c => ofText [c]).flatMap parts) = parts (ofText cs) := by
  induction cs with
  | nil => rfl
  | cons c cs ih =>
    rw [List.map_cons, List.flatMap_cons, parts_ofText_cons, ← consJoined_ofText, ← ih]
    rfl

/-- Characters in sequence are a text. -/
theorem mkConcat_ofText (cs : List Char) : mkConcat (cs.map fun c => ofText [c]) = ofText cs := by
  rw [mkConcat, joinLiterals_ofText]
  rcases cs with _ | ⟨c, cs⟩
  · rfl
  · rw [parts_ofText_cons]

/-- A text as an expression matches that text only. -/
theorem language_ofText (cs : List Char) : (ofText cs).language = {cs} := by
  apply language_of_literalText?
  rcases cs with _ | ⟨c, cs⟩
  · rfl
  · rw [ofText_cons, literalText?, Utf8.decode_encode]
    rfl

/-- Nothing is asserted in a text. -/
theorem firstLook?_ofText (cs : List Char) : (ofText cs).firstLook? = none := by
  rcases cs with _ | ⟨c, cs⟩
  · rfl
  · rw [ofText_cons]
    rfl

/-! ### Resolving -/

variable {ls : List Literal} {text : List Char}

/-- Folding the literals of a text spells the folded text. -/
theorem spells_fold (fold : CaseFold) (h : Spells ls text) :
    Spells (ls.map (Literal.fold fold)) (text.map fold.fold) := by
  obtain ⟨rfl, hbytes⟩ := h
  refine ⟨?_, ?_⟩
  · rw [List.map_map, List.map_map]
    rfl
  · intro l hl
    obtain ⟨l, hmem, rfl⟩ := List.mem_map.mp hl
    exact hbytes l hmem

/-- Each literal is folded by itself. -/
theorem foldAll_literals (fold : CaseFold) (ls : List Literal) :
    Tree.foldAll fold (ls.map Tree.literal) = (ls.map (Literal.fold fold)).map Tree.literal := by
  induction ls with
  | nil => rfl
  | cons l ls ih =>
    rw [List.map_cons, Tree.foldAll, ih]
    rfl

/-- So folding a sequence of literals folds its literals. -/
theorem fold_sequence (fold : CaseFold) (span : Span) (ls : List Literal) :
    (Tree.sequence span (ls.map Tree.literal)).fold fold =
      Tree.sequence span ((ls.map (Literal.fold fold)).map Tree.literal) := by
  rcases ls with _ | ⟨l, _ | ⟨l', ls⟩⟩
  · rfl
  · rfl
  · show Tree.concat span (Tree.foldAll fold ((l :: l' :: ls).map Tree.literal)) = _
    rw [foldAll_literals]
    rfl

/-- A literal stands for its character, unless flags say otherwise. -/
theorem resolveTree_literal (l : Literal) :
    resolveTree {} (.literal l) = .ok (ofText [l.char], {}) := by
  simp [resolveTree, resolveLiteral, checkByte]

/-- Without flags, a literal stands for its own character. -/
theorem resolveTrees_literals (ls : List Literal) :
    resolveTrees {} (ls.map Tree.literal) = .ok (ls.map fun l => ofText [l.char], {}) := by
  induction ls with
  | nil => rfl
  | cons l ls ih =>
    rw [List.map_cons, resolveTrees, resolveTree_literal, ok_bind]
    simp only [ih, ok_bind]
    rfl

/-- Literals in sequence are resolved to their text. -/
theorem resolve_sequence (span : Span) (h : Spells ls text) :
    resolve (Tree.sequence span (ls.map Tree.literal)) = .ok (ofText text) := by
  obtain ⟨rfl, -⟩ := h
  have htree : resolveTree {} (Tree.sequence span (ls.map Tree.literal)) =
      .ok (ofText (ls.map Literal.char), {}) := by
    -- No literal is an empty tree, one is a tree by itself, and more are a sequence.
    rcases ls with _ | ⟨l, _ | ⟨l', ls⟩⟩
    · rfl
    · exact resolveTree_literal l
    · show resolveTree {} (.concat span ((l :: l' :: ls).map Tree.literal)) = _
      rw [resolveTree, resolveTrees_literals, ← mkConcat_ofText, List.map_map]
      rfl
  rw [resolve, htree]
  rfl

/-! ### Compiling -/

/-- **Escaped text is compiled to a literal**, that of its characters, folded one by one. -/
theorem compile_escapeText (text : String) (fold : Option CaseFold) :
    compile (escapeText text) fold =
      .ok (ofText (fold.elim text.toList fun f => text.toList.map f.fold)) := by
  obtain ⟨span, ls, hspells, hparse⟩ := parse_escapeText text
  unfold compile
  cases fold with
  | none =>
    simp only [hparse, Except.mapError, ok_bind, resolve_sequence span hspells, firstLook?_ofText]
    rfl
  | some f =>
    have hfolded := resolve_sequence span (spells_fold f hspells)
    simp only [hparse, Except.mapError, ok_bind, fold_sequence, hfolded, firstLook?_ofText]
    rfl

end GramSieve.Regex
