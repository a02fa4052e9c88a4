import GramSieve.Pattern.Reader
import GramSieve.Proofs.Basic

/-!
# Escaped text as a pattern

* `Reader.step_escaped` — the reader takes one escaped character for a literal.
* `Reader.run_escaped` — it takes escaped text for a literal of each character.
* `parse_escapeText` — escaped text is a pattern, the sequence of these literals.
-/

namespace GramSieve.Pattern

/-- A character, with a backslash before it if it means something by itself. -/
def escapeChar (c : Char) : List Char := if isMeta c then ['\\', c] else [c]

theorem escapeText_eq (text : String) :
    escapeText text = String.ofList (text.toList.flatMap escapeChar) := rfl

/-- The literals stand for the characters of the text, and none is written as a byte. -/
def Spells (ls : List Literal) (text : List Char) : Prop :=
  ls.map Literal.char = text ∧ ∀ l ∈ ls, l.isByte = false

theorem spells_nil : Spells [] [] := ⟨rfl, List.forall_mem_nil _⟩

theorem Spells.cons {l : Literal} {ls : List Literal} {text : List Char} (hl : l.isByte = false)
    (h : Spells ls text) : Spells (l :: ls) (l.char :: text) :=
  ⟨congrArg (l.char :: ·) h.1, List.forall_mem_cons.mpr ⟨hl, h.2⟩⟩

/-! ### One character -/

/-- A character that means something by itself starts no other escape. -/
theorem readEscape_of_isMeta {c : Char} {rest : List Char} {cursor : Cursor} (hc : isMeta c = true)
    (hrest : cursor.rest = '\\' :: c :: rest) :
    readEscape cursor = .ok (.literal { span := ⟨cursor.pos, cursor.bump.bump.pos⟩, char := c },
      cursor.bump.bump) := by
  have hall : ("\\.+*?()|[]\x7b\x7d^$#&-~".toList.all fun c => !c.isDigit && c != 'x' && c != 'u' &&
      c != 'U' && c != 'p' && c != 'P' && (perlKind? c).isNone) = true := by
    decide +kernel
  have hplain := List.all_eq_true.mp hall c (List.contains_iff_mem.mp hc)
  simp only [Bool.and_eq_true, Bool.not_eq_true', bne_iff_ne, ne_eq, Option.isNone_iff_eq_none]
    at hplain
  obtain ⟨⟨⟨⟨⟨⟨hdigit, hx⟩, hu⟩, hU⟩, hp⟩, hP⟩, hperl⟩ := hplain
  have hchar : cursor.bump.char? = some c := by
    simp [Cursor.bump, Cursor.char?, hrest]
  have hescape : isEscapeable c = true := by simp [isEscapeable, hc]
  simp [readEscape, hchar, hdigit, hx, hu, hU, hp, hP, hperl, readShortEscape, hescape]

/-- A character that means nothing by itself is read as it is. -/
theorem step_of_not_isMeta {c : Char} {r : Reader} (hc : isMeta c = false) :
    r.step c = .ok { r with
      cursor := r.cursor.bump
      sequence := r.sequence.push (.literal { span := r.cursor.spanChar, char := c }) } := by
  have hprimitive : readPrimitive c r.cursor =
      .ok (.literal { span := r.cursor.spanChar, char := c }, r.cursor.bump) := by
    unfold readPrimitive
    -- Every character that is read in its own way means something by itself.
    split <;> first | rfl | exact absurd hc (by decide)
  unfold Reader.step
  split
  all_goals first | exact absurd hc (by decide) | skip
  rw [hprimitive]
  rfl

/-- The reader takes one escaped character for a literal. -/
theorem Reader.step_escaped {c : Char} {rest : List Char} {r : Reader}
    (hrest : r.cursor.rest = escapeChar c ++ rest) :
    ∃ ch l next, r.cursor.char? = some ch ∧ l.char = c ∧ l.isByte = false ∧
      r.step ch = .ok { r with cursor := next, sequence := r.sequence.push (.literal l) } ∧
      next.rest = rest ∧ next.verbose = r.cursor.verbose := by
  unfold escapeChar at hrest
  -- A character with a meaning of its own stands behind a backslash; any other stands for itself.
  by_cases hc : isMeta c = true
  · rw [if_pos hc, List.cons_append, List.singleton_append] at hrest
    refine ⟨'\\', { span := ⟨r.cursor.pos, r.cursor.bump.bump.pos⟩, char := c }, r.cursor.bump.bump,
      by rw [Cursor.char?, hrest]; rfl, rfl, rfl, ?_, ?_, ?_⟩
    · simp only [Reader.step, readPrimitive, readEscape_of_isMeta hc hrest, ok_bind]
      rfl
    · simp [Cursor.bump, hrest]
    · simp [Cursor.bump, hrest]
  · rw [if_neg hc, List.singleton_append] at hrest
    refine ⟨c, { span := r.cursor.spanChar, char := c }, r.cursor.bump,
      by rw [Cursor.char?, hrest]; rfl, rfl, rfl, step_of_not_isMeta (by simpa using hc), ?_, ?_⟩
    · simp [Cursor.bump, hrest]
    · simp [Cursor.bump, hrest]

/-! ### Texts -/

/-- The reader takes escaped text for a literal of each character. -/
theorem Reader.run_escaped {fuel : Nat} {r : Reader} {text : List Char}
    (hfuel : text.length ≤ fuel) (hrest : r.cursor.rest = text.flatMap escapeChar)
    (hverbose : r.cursor.verbose = false) (hframes : r.frames = []) :
    ∃ stop ls, Spells ls text ∧ Reader.run fuel r =
      .ok (Tree.sequence ⟨r.sequence.start, stop⟩
        (r.sequence.parts.reverse ++ ls.map Tree.literal)) := by
  -- Blanks count: they are skipped in verbose patterns only.
  have hskip {r : Reader} (hverbose : r.cursor.verbose = false) :
      { r with cursor := r.cursor.skipBlank } = r := by
    simp [Cursor.skipBlank, hverbose]
  induction text generalizing fuel r with
  | nil =>
    have hfinish : r.finish = .ok (r.sequence.toTree r.cursor.pos) := by
      simp [Reader.finish, hframes]
    refine ⟨r.cursor.pos, [], spells_nil, ?_⟩
    rw [List.map_nil, List.append_nil]
    cases fuel with
    | zero => exact hfinish
    | succ fuel =>
      have hend : r.cursor.char? = none := by rw [Cursor.char?, hrest]; rfl
      rw [Reader.run, hskip hverbose]
      simp only [hend]
      exact hfinish
  | cons c text ih =>
    cases fuel with
    | zero => simp at hfuel
    | succ fuel =>
      obtain ⟨ch, l, next, hchar, rfl, hbyte, hstep, hnext, hsame⟩ := Reader.step_escaped hrest
      obtain ⟨stop, ls, hspells, hrun⟩ := ih
        (r := { r with cursor := next, sequence := r.sequence.push (.literal l) })
        (Nat.le_of_succ_le_succ hfuel) hnext (hsame.trans hverbose) hframes
      refine ⟨stop, l :: ls, hspells.cons hbyte, ?_⟩
      rw [Reader.run, hskip hverbose]
      simp only [hchar, hstep]
      -- The parts are collected in reverse.
      refine hrun.trans ?_
      simp [Sequence.push]

/-- Literals are not nested. -/
theorem checkDepths_literals (depth : Nat) (ls : List Literal) :
    Tree.checkDepths depth (ls.map Tree.literal) = .ok () := by
  induction ls with
  | nil => rfl
  | cons l ls ih =>
    have hl : (Tree.literal l).checkDepth depth = .ok () := rfl
    rw [List.map_cons, Tree.checkDepths, hl, ih]
    rfl

/-- Escaping a text does not make it shorter. -/
theorem length_le_length_escaped (text : List Char) :
    text.length ≤ (text.flatMap escapeChar).length := by
  induction text with
  | nil => simp
  | cons c text ih =>
    have hc : 1 ≤ (escapeChar c).length := by
      unfold escapeChar
      split <;> simp
    rw [List.flatMap_cons, List.length_append, List.length_cons]
    omega

/-- Escaped text is a pattern: the sequence of literals for its characters. -/
theorem parse_escapeText (text : String) :
    ∃ span ls, Spells ls text.toList ∧
      parse (escapeText text) = .ok (Tree.sequence span (ls.map Tree.literal)) := by
  obtain ⟨stop, ls, hspells, hrun⟩ : ∃ stop ls, Spells ls text.toList ∧
      Reader.run (text.toList.flatMap escapeChar).length
        { cursor := { rest := text.toList.flatMap escapeChar }, sequence := { start := {} } } =
      .ok (Tree.sequence ⟨{}, stop⟩ (ls.map Tree.literal)) :=
    Reader.run_escaped (length_le_length_escaped text.toList) rfl rfl rfl
  -- Literals in sequence do not nest.
  have hdepth : (Tree.sequence ⟨{}, stop⟩ (ls.map Tree.literal)).checkDepth 0 = .ok () := by
    rcases ls with _ | ⟨l, _ | ⟨l', ls⟩⟩
    · rfl
    · rfl
    · exact checkDepths_literals 1 (l :: l' :: ls)
  refine ⟨⟨{}, stop⟩, ls, hspells, ?_⟩
  simp only [parse, escapeText_eq, String.toList_ofList, hrun, ok_bind, hdepth]
  rfl

end GramSieve.Pattern
