import GramSieve.Pattern.Folding
import GramSieve.Pattern.Reader
import GramSieve.Proofs.Basic

/-!
# The bounds of repetitions in patterns

A pattern that is read has no repetition that asks for more than it allows, since the reader refuses
such bounds.

* `Tree.WellBounded` — no repetition asks for more than it allows.
* `Reader.WellBounded` — what a reader has read so far is well bounded. Every step keeps it.
* `wellBounded_of_parse` — so is the whole pattern.
* `Tree.WellBounded.fold` — folding keeps it.
-/

namespace GramSieve.Pattern

mutual

/-- No repetition asks for more than it allows. -/
def Tree.WellBounded : Tree → Prop
  | .repetition _ bounds _ sub => (∀ m, bounds.max = some m → bounds.min ≤ m) ∧ sub.WellBounded
  | .group _ _ sub => sub.WellBounded
  | .alternation _ branches => Tree.AllWellBounded branches
  | .concat _ parts => Tree.AllWellBounded parts
  | _ => True

/-- No repetition in a list of patterns asks for more than it allows. -/
def Tree.AllWellBounded : List Tree → Prop
  | [] => True
  | t :: ts => t.WellBounded ∧ Tree.AllWellBounded ts

end

theorem Tree.allWellBounded_iff {ts : List Tree} :
    Tree.AllWellBounded ts ↔ ∀ t ∈ ts, t.WellBounded := by
  induction ts with
  | nil => simp [Tree.AllWellBounded]
  | cons t ts ih => rw [Tree.AllWellBounded, ih, List.forall_mem_cons]

/-! ### Sequences and frames -/

/-- The patterns of a sequence are well bounded. -/
def Sequence.WellBounded (s : Sequence) : Prop := ∀ t ∈ s.parts, t.WellBounded

namespace Sequence

theorem wellBounded_nil (start : Position) : ({ start } : Sequence).WellBounded := nofun

theorem WellBounded.push {s : Sequence} {t : Tree} (hs : s.WellBounded) (ht : t.WellBounded) :
    (s.push t).WellBounded :=
  List.forall_mem_cons.mpr ⟨ht, hs⟩

/-- A sequence that ends is a part with the same repetitions. -/
theorem WellBounded.toTree {s : Sequence} (hs : s.WellBounded) (stop : Position) :
    (s.toTree stop).WellBounded := by
  have hparts : ∀ t ∈ s.parts.reverse, t.WellBounded := fun t ht => hs t (List.mem_reverse.mp ht)
  unfold Sequence.toTree Tree.sequence
  split
  · trivial
  · rename_i t heq
    exact hparts t (heq ▸ .head _)
  · rename_i ts _ _
    exact Tree.allWellBounded_iff.mpr hparts

/-- Taking out the operand of a repetition leaves nothing else behind. -/
theorem WellBounded.operand {s before : Sequence} {c : Cursor} {t : Tree} (hs : s.WellBounded)
    (h : s.operand c = .ok (t, before)) : t.WellBounded ∧ before.WellBounded := by
  unfold Sequence.operand at h
  split at h
  · cases h
  · cases h
  · rename_i hparts
    cases h
    unfold Sequence.WellBounded at hs
    rw [hparts, List.forall_mem_cons] at hs
    exact hs
  · cases h

end Sequence

/-- What waits for the sequence being read is well bounded. -/
def Frame.WellBounded : Frame → Prop
  | .group outer _ _ _ => outer.WellBounded
  | .alternation _ branches => ∀ t ∈ branches, t.WellBounded

/-- What has been read so far is well bounded. -/
structure Reader.WellBounded (r : Reader) : Prop where
  sequence : r.sequence.WellBounded
  frames : ∀ f ∈ r.frames, f.WellBounded

namespace Reader

variable {r r' : Reader}

/-! ### Groups -/

/-- A group starts with nothing in it. -/
theorem WellBounded.open (hr : r.WellBounded) (span : Span) (kind : GroupKind) (c : Cursor) :
    (r.open span kind c).WellBounded where
  sequence := Sequence.wellBounded_nil _
  frames := List.forall_mem_cons.mpr ⟨hr.sequence, hr.frames⟩

/-- Its name does not matter. -/
theorem WellBounded.openNamed {span : Span} {c : Cursor} (hr : r.WellBounded)
    (h : r.openNamed span c = .ok r') : r'.WellBounded := by
  obtain ⟨⟨name, nameSpan, next⟩, -, h⟩ := ok_of_bind h
  simp only at h
  split at h
  · cases h
  · cases h
    apply WellBounded.open
    exact ⟨hr.sequence, hr.frames⟩

/-- Nor do its flags. -/
theorem WellBounded.openFlags {span : Span} {mark : Position} {c : Cursor} (hr : r.WellBounded)
    (h : r.openFlags span mark c = .ok r') : r'.WellBounded := by
  unfold Reader.openFlags at h
  split at h
  · cases h
  obtain ⟨⟨items, stop⟩, -, h⟩ := ok_of_bind h
  simp only at h
  split at h
  · cases h
    exact hr.open ..
  split at h
  · cases h
  · cases h
    exact ⟨hr.sequence.push trivial, hr.frames⟩

/-- So a parenthesis opens a group without repetitions. -/
theorem WellBounded.openGroup (hr : r.WellBounded) (h : r.openGroup = .ok r') : r'.WellBounded := by
  unfold Reader.openGroup at h
  simp only at h
  split at h
  · cases h
  split at h
  · exact hr.openNamed h
  · exact hr.openFlags h
  · cases h
    apply WellBounded.open
    exact ⟨hr.sequence, hr.frames⟩

/-- A group that is closed becomes a part of what is around it. -/
theorem WellBounded.closeGroup (hr : r.WellBounded) (h : r.closeGroup = .ok r') : r'.WellBounded := by
  have hframes := hr.frames
  unfold Reader.closeGroup at h
  simp only at h
  split at h
  · rename_i outer span kind verbose frames heq
    cases h
    rw [heq, List.forall_mem_cons] at hframes
    exact ⟨hframes.1.push (hr.sequence.toTree _), hframes.2⟩
  · rename_i start branches outer span kind verbose frames heq
    cases h
    -- The sequence being read is the last branch, and the outer sequence waits behind.
    rw [heq, List.forall_mem_cons, List.forall_mem_cons] at hframes
    obtain ⟨hbranches, houter, hframes⟩ := hframes
    refine ⟨houter.push (Tree.allWellBounded_iff.mpr ?_), hframes⟩
    intro t ht
    exact List.forall_mem_cons.mpr ⟨hr.sequence.toTree _, hbranches⟩ t (List.mem_reverse.mp ht)
  · cases h

/-- A branch that ends is kept, and the next one starts with nothing in it. -/
theorem WellBounded.nextBranch (hr : r.WellBounded) : r.nextBranch.WellBounded := by
  have hframes := hr.frames
  have hbranch := hr.sequence.toTree r.cursor.pos
  refine ⟨Sequence.wellBounded_nil _, ?_⟩
  unfold Reader.nextBranch
  simp only
  split
  · rename_i start branches frames heq
    rw [heq, List.forall_mem_cons] at hframes
    exact List.forall_mem_cons.mpr ⟨List.forall_mem_cons.mpr ⟨hbranch, hframes.1⟩, hframes.2⟩
  · exact List.forall_mem_cons.mpr ⟨List.forall_mem_singleton.mpr hbranch, hframes⟩

/-! ### Repetitions -/

/-- A repetition is the only place where bounds come in. They are right there. -/
theorem WellBounded.finishRepetition {before : Sequence} {sub : Tree} {bounds : Bounds}
    (hr : r.WellBounded) (hbefore : before.WellBounded) (hsub : sub.WellBounded)
    (hbounds : ∀ m, bounds.max = some m → bounds.min ≤ m) (c : Cursor) :
    (r.finishRepetition before sub bounds c).WellBounded :=
  ⟨hbefore.push ⟨hbounds, hsub⟩, hr.frames⟩

/-- Repeating the last part keeps the parts before it. -/
theorem WellBounded.repeat {bounds : Bounds} (hr : r.WellBounded)
    (hbounds : ∀ m, bounds.max = some m → bounds.min ≤ m) (h : r.repeat bounds = .ok r') :
    r'.WellBounded := by
  obtain ⟨⟨sub, before⟩, hoperand, h⟩ := ok_of_bind h
  obtain ⟨hsub, hbefore⟩ := hr.sequence.operand hoperand
  cases h
  exact hr.finishRepetition hbefore hsub hbounds _

/-- This is where bounds the wrong way round are refused. -/
theorem WellBounded.repeatCounted (hr : r.WellBounded) (h : r.repeatCounted = .ok r') :
    r'.WellBounded := by
  obtain ⟨⟨sub, before⟩, hoperand, h⟩ := ok_of_bind h
  obtain ⟨hsub, hbefore⟩ := hr.sequence.operand hoperand
  obtain ⟨⟨bounds, stop⟩, -, h⟩ := ok_of_bind h
  simp only at h
  split at h
  · cases h
  · rename_i hnot
    cases h
    refine hr.finishRepetition hbefore hsub ?_ _
    intro m hm
    rw [hm, Option.any_some, decide_eq_true_iff] at hnot
    exact Nat.le_of_not_lt hnot

/-! ### The whole pattern -/

/-- A class without an end is an error. -/
theorem unclosedClass_ne_ok {α : Type} {c : Cursor} {frames : List ClassFrame} {x : α} :
    unclosedClass c frames ≠ .ok x := by
  induction frames with
  | nil => nofun
  | cons f frames ih =>
    cases f with
    | opened => nofun
    | operator => exact ih

/-- There are no repetitions in a class. -/
theorem wellBounded_of_readBracketed {c next : Cursor} {t : Tree}
    (h : readBracketed c = .ok (t, next)) : t.WellBounded := by
  suffices ∀ steps frames members c, readClassTokens steps frames members c = .ok (t, next) →
      t.WellBounded from this _ _ _ _ h
  intro steps
  induction steps with
  | nil =>
    intro frames members c h
    exact absurd h unclosedClass_ne_ok
  | cons _ steps ih =>
    intro frames members c h
    obtain ⟨token, -, h⟩ := ok_of_bind h
    cases token with
    | more frames members next => exact ih _ _ _ h
    | done span negated inner next =>
      cases h
      trivial

theorem wellBounded_toTree (p : Primitive) : p.toTree.WellBounded := by
  cases p <;> trivial

/-- One step of reading, whatever the character is, keeps what was read well bounded. -/
theorem WellBounded.step {ch : Char} (hr : r.WellBounded) (h : r.step ch = .ok r') :
    r'.WellBounded := by
  unfold Reader.step at h
  split at h
  · exact hr.openGroup h
  · exact hr.closeGroup h
  · cases h
    exact hr.nextBranch
  · obtain ⟨⟨tree, next⟩, hread, h⟩ := ok_of_bind h
    cases h
    exact ⟨hr.sequence.push (wellBounded_of_readBracketed hread), hr.frames⟩
  · exact hr.repeat (by simp) h
  · exact hr.repeat (by simp) h
  · exact hr.repeat (by simp) h
  · exact hr.repeatCounted h
  · obtain ⟨⟨primitive, next⟩, -, h⟩ := ok_of_bind h
    cases h
    exact ⟨hr.sequence.push (wellBounded_toTree primitive), hr.frames⟩

/-- At the end of the pattern all branches are put together. -/
theorem WellBounded.finish {t : Tree} (hr : r.WellBounded) (h : r.finish = .ok t) :
    t.WellBounded := by
  have hframes := hr.frames
  unfold Reader.finish at h
  simp only at h
  split at h
  · cases h
    exact hr.sequence.toTree _
  · rename_i start branches heq
    cases h
    rw [heq, List.forall_mem_singleton] at hframes
    refine Tree.allWellBounded_iff.mpr fun t ht => ?_
    exact List.forall_mem_cons.mpr ⟨hr.sequence.toTree _, hframes⟩ t (List.mem_reverse.mp ht)
  · cases h
  · cases h
  · cases h

/-- So it stays well bounded to the end. -/
theorem WellBounded.run {fuel : Nat} {t : Tree} (hr : r.WellBounded) (h : r.run fuel = .ok t) :
    t.WellBounded := by
  induction fuel generalizing r with
  | zero => exact hr.finish h
  | succ fuel ih =>
    -- Skipping blanks moves the cursor only.
    have hskip : ({ r with cursor := r.cursor.skipBlank } : Reader).WellBounded :=
      ⟨hr.sequence, hr.frames⟩
    rw [Reader.run] at h
    simp only at h
    split at h
    · exact hskip.finish h
    · obtain ⟨r', hstep, h⟩ := ok_of_bind h
      exact ih (hskip.step hstep) h

end Reader

/-- No pattern that was read repeats something more often at least than at most. -/
theorem wellBounded_of_parse {text : String} {t : Tree} (h : parse text = .ok t) : t.WellBounded := by
  obtain ⟨tree, hrun, h⟩ := ok_of_bind h
  obtain ⟨_, -, h⟩ := ok_of_bind h
  cases h
  exact Reader.WellBounded.run ⟨Sequence.wellBounded_nil _, List.forall_mem_nil _⟩ hrun

/-! ### Folding -/

mutual

/-- Folding a pattern does not change its repetitions. -/
theorem Tree.WellBounded.fold (fold : Text.CaseFold) {t : Tree} (h : t.WellBounded) :
    (t.fold fold).WellBounded := by
  cases t with
  | repetition span bounds greedy sub => exact ⟨h.1, Tree.WellBounded.fold fold h.2⟩
  | group span kind sub => exact Tree.WellBounded.fold (t := sub) fold h
  | alternation span branches =>
    have hbranches : Tree.AllWellBounded branches := h
    exact Tree.AllWellBounded.fold fold hbranches
  | concat span parts =>
    have hparts : Tree.AllWellBounded parts := h
    exact Tree.AllWellBounded.fold fold hparts
  | empty | flags | literal | dot | assertion | property | perl | bracketed => trivial

/-- Nor does it change those of its parts. -/
theorem Tree.AllWellBounded.fold (fold : Text.CaseFold) {ts : List Tree} (h : Tree.AllWellBounded ts) :
    Tree.AllWellBounded (Tree.foldAll fold ts) := by
  cases ts with
  | nil => trivial
  | cons t ts => exact ⟨Tree.WellBounded.fold fold h.1, Tree.AllWellBounded.fold fold h.2⟩

end

end GramSieve.Pattern
