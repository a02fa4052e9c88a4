import GramSieve.Proofs.CodeSet
import GramSieve.Proofs.Regex.WellFormed

/-!
# Expressions that read characters only

* `Concrete` — every range of every class holds a character, and nothing is asserted about a place.
* `concrete_mkLiteral`, `concrete_mkClass`, `concrete_mkRepetition`, `concrete_mkConcat` — building
  keeps this.
* `Concrete.firstLook?` — there is no assertion to refuse.
* `Settled` — an expression that is well formed and reads characters only.
-/

namespace GramSieve.Regex

open Text

mutual

/-- Every range of every class holds a character, and nothing is asserted about a place. -/
def Concrete : Regex → Prop
  | .oneOf _ set => set.Populated
  | .look _ => False
  | .repetition _ _ _ r => r.Concrete
  | .capture _ _ r => r.Concrete
  | .concat rs => AllConcrete rs
  | .alternation rs => AllConcrete rs
  | .empty | .literal _ => True

/-- Every expression of a list reads characters only. -/
def AllConcrete : List Regex → Prop
  | [] => True
  | r :: rs => r.Concrete ∧ AllConcrete rs

end

theorem allConcrete_iff {rs : List Regex} : AllConcrete rs ↔ ∀ r ∈ rs, r.Concrete := by
  induction rs with
  | nil => simp [AllConcrete]
  | cons r rs ih => rw [AllConcrete, ih, List.forall_mem_cons]

/-! ### Assertions -/

mutual

/-- An expression that reads characters only has no assertions. -/
theorem Concrete.looks {r : Regex} (h : r.Concrete) : r.looks = [] := by
  cases r with
  | look l => exact h.elim
  | repetition min max greedy r => exact Concrete.looks (r := r) h
  | capture index name r => exact Concrete.looks (r := r) h
  | concat rs =>
    have hrs : AllConcrete rs := h
    exact AllConcrete.looksOfAll hrs
  | alternation rs =>
    have hrs : AllConcrete rs := h
    exact AllConcrete.looksOfAll hrs
  | empty | literal | oneOf => rfl

/-- Nor have several of them. -/
theorem AllConcrete.looksOfAll {rs : List Regex} (h : AllConcrete rs) : Regex.looksOfAll rs = [] := by
  cases rs with
  | nil => rfl
  | cons r rs =>
    rw [Regex.looksOfAll, Concrete.looks h.1, AllConcrete.looksOfAll h.2, List.append_nil]

end

theorem Concrete.firstLook? {r : Regex} (h : r.Concrete) : r.firstLook? = none := by
  rw [Regex.firstLook?, h.looks]
  rfl

/-! ### Building -/

theorem concrete_mkLiteral (bytes : List UInt8) : (mkLiteral bytes).Concrete := by
  unfold mkLiteral
  split <;> trivial

/-- A class without empty ranges reads characters, also if it becomes a literal. -/
theorem concrete_mkClass {alphabet : Alphabet} {set : CodeSet} (h : set.Populated) :
    (mkClass alphabet set).Concrete := by
  unfold mkClass
  split
  · exact CodeSet.populated_nil
  · split
    · exact concrete_mkLiteral _
    · exact h
  · exact h

/-- A repetition of such an expression is one. -/
theorem concrete_mkRepetition {min : Nat} {max : Option Nat} {greedy : Bool} {sub : Regex}
    (h : sub.Concrete) : (mkRepetition min max greedy sub).Concrete := by
  unfold mkRepetition
  simp only
  split
  · trivial
  · exact h
  · exact h

/-- So are the parts of one. -/
theorem concrete_of_mem_parts {r part : Regex} (h : r.Concrete) (hpart : part ∈ parts r) :
    part.Concrete := by
  unfold parts at hpart
  split at hpart
  · exact allConcrete_iff.mp h part hpart
  · cases hpart
  · rw [List.mem_singleton.mp hpart]
    exact h

/-- Joining neighbouring literals gives literals. -/
theorem concrete_joinLiterals {rs : List Regex} (h : ∀ r ∈ rs, r.Concrete) :
    AllConcrete (joinLiterals rs) := by
  induction rs with
  | nil => trivial
  | cons r rs ih =>
    obtain ⟨hr, hrs⟩ := List.forall_mem_cons.mp h
    have hrest := ih hrs
    show AllConcrete (consJoined r (joinLiterals rs))
    -- A literal takes the place of two, or the expression stands in front of the others.
    unfold consJoined
    split
    · rename_i heq
      rw [heq] at hrest
      exact ⟨trivial, hrest.2⟩
    · exact ⟨hr, hrest⟩

/-- So a sequence of such expressions is one. -/
theorem concrete_mkConcat {rs : List Regex} (h : ∀ r ∈ rs, r.Concrete) : (mkConcat rs).Concrete := by
  have hjoined : AllConcrete (joinLiterals (rs.flatMap parts)) := by
    apply concrete_joinLiterals
    intro part hpart
    obtain ⟨r, hr, hpart⟩ := List.mem_flatMap.mp hpart
    exact concrete_of_mem_parts (h r hr) hpart
  unfold mkConcat
  split
  · trivial
  · rename_i r heq
    rw [heq] at hjoined
    exact hjoined.1
  · exact hjoined

/-- And so are the branches of one. -/
theorem concrete_of_mem_branches {r branch : Regex} (h : r.Concrete) (hbranch : branch ∈ branches r) :
    branch.Concrete := by
  unfold branches at hbranch
  split at hbranch
  · exact allConcrete_iff.mp h branch hbranch
  · rw [List.mem_singleton.mp hbranch]
    exact h

/-! ### Well formed besides -/

variable {rs : List Regex}

/-- Well formed, without assertions and without empty ranges. -/
structure Settled (r : Regex) : Prop where
  wellFormed : r.WellFormed
  concrete : r.Concrete

theorem Settled.of_mem_concat {parts : List Regex} (h : Settled (.concat parts)) :
    ∀ part ∈ parts, part.Settled := fun part hpart =>
  ⟨allWellFormed_iff.mp h.wellFormed part hpart, allConcrete_iff.mp h.concrete part hpart⟩

theorem settled_mkConcat (h : ∀ r ∈ rs, r.Settled) : (mkConcat rs).Settled :=
  ⟨wellFormed_mkConcat fun r hr => (h r hr).wellFormed,
    concrete_mkConcat fun r hr => (h r hr).concrete⟩

end GramSieve.Regex
