import GramSieve.Proofs.Index.Placement
import GramSieve.Proofs.Search.Execution
import GramSieve.Proofs.Search.Plan
import GramSieve.Proofs.Search.Recheck
import Mathlib

/-!
# Searches are exact

* `RegexQuery.PairedWith` — the gram field of a query, if it has one, goes with the query.
* `CompiledQuery.covers_of_terms` — the plan of a query covers the documents with the terms of a
  match.
* `CompiledQuery.covers_of_matches` — the plan of a query covers the documents that match.
* `CompiledQuery.Finds` — a compiled query looks at every document that matches.
* `CompiledQuery.yields_run` — a run over a segment finds exactly its documents that match.
* `Index.yields_search` — so a search of an index gives the addresses of its documents that match.
* `Index.search_exact` — and these are the ones that the documents got when they were added.
-/

namespace GramSieve

open Gram

/-! ### What is to be found -/

namespace DocAddress

/-- The order of addresses: by shard, then by segment, then by number. -/
def Before (a b : DocAddress) : Prop :=
  a.shard < b.shard ∨ a.shard = b.shard ∧
    (a.segment < b.segment ∨ a.segment = b.segment ∧ a.doc < b.doc)

/-- The hits are the addresses with a property, in ascending order. -/
structure Exactly (wanted : DocAddress → Prop) (hits : List DocAddress) : Prop where
  ascending : hits.Pairwise Before
  mem_iff (a : DocAddress) : a ∈ hits ↔ wanted a

variable {wanted wanted' : DocAddress → Prop} {hits hits' : List DocAddress}

theorem Exactly.nil (h : ∀ a, ¬wanted a) : Exactly wanted [] :=
  ⟨.nil, fun a => ⟨nofun, fun ha => absurd ha (h a)⟩⟩

/-- Two lists one behind the other have what is wanted of either, if all of the first is further
ahead. -/
theorem Exactly.append (h : Exactly wanted hits) (h' : Exactly wanted' hits')
    (hbefore : ∀ a b, wanted a → wanted' b → a.Before b) :
    Exactly (fun a => wanted a ∨ wanted' a) (hits ++ hits') where
  ascending := List.pairwise_append.mpr ⟨h.ascending, h'.ascending, fun a ha b hb =>
    hbefore a b ((h.mem_iff a).mp ha) ((h'.mem_iff b).mp hb)⟩
  mem_iff a := by rw [List.mem_append, h.mem_iff, h'.mem_iff]

theorem Exactly.congr (h : Exactly wanted hits) (hiff : ∀ a, wanted a ↔ wanted' a) :
    Exactly wanted' hits :=
  ⟨h.ascending, fun a => (h.mem_iff a).trans (hiff a)⟩

/-- There is only one way to list the addresses with a property in ascending order. -/
theorem Exactly.unique (h : Exactly wanted hits) (h' : Exactly wanted hits') : hits = hits' := by
  have hirrefl (a : DocAddress) : ¬a.Before a := by
    unfold Before
    omega
  have hnodup {hits : List DocAddress} (h : Exactly wanted hits) : hits.Nodup :=
    h.ascending.imp fun hbefore => by
      rintro rfl
      exact hirrefl _ hbefore
  refine List.Perm.eq_of_pairwise (fun a b _ _ hab hba => ?_) h.ascending h'.ascending
    ((List.perm_ext_iff_of_nodup (hnodup h) (hnodup h')).mpr fun a => by
      rw [h.mem_iff, h'.mem_iff])
  unfold Before at hab hba
  omega

/-- The hits of one segment. -/
theorem Exactly.of_docs {found : Nat → Prop} {docs : List Nat} (shard segment : Nat)
    (hdocs : docs.Pairwise (· < ·) ∧ ∀ k, k ∈ docs ↔ found k) :
    Exactly (fun a => a.shard = shard ∧ a.segment = segment ∧ found a.doc)
      (docs.map (⟨shard, segment, ·⟩)) where
  ascending := hdocs.1.map _ fun _ _ h => .inr ⟨rfl, .inr ⟨rfl, h⟩⟩
  mem_iff a := by
    obtain ⟨i, n, k⟩ := a
    simp only [List.mem_map, DocAddress.mk.injEq, hdocs.2]
    constructor
    · rintro ⟨k', hk, rfl, rfl, rfl⟩
      exact ⟨rfl, rfl, hk⟩
    · rintro ⟨rfl, rfl, hk⟩
      exact ⟨k, hk, rfl, rfl, rfl⟩

end DocAddress

namespace RegexQuery

/-- The queried field is stored, and the gram field, if there is one, has the grams of the queried
field, folded as the settings say. -/
structure PairedWith (q : RegexQuery) (schema : Schema) : Prop where
  stored : schema.isStored q.field = true
  gramField : ∀ name f, q.gramField = some name → schema.gramField? name = some f →
    f.source = q.field ∧ f.analyzer.PairsWith q.settings

/-- A value of the document has a match of the expression. -/
def Matches (q : RegexQuery) (r : Regex) (d : Document) : Prop :=
  ∃ v ∈ d.values q.field, r.MatchesIn (q.settings.foldText v)

variable {q : RegexQuery} {schema : Schema} {c : CompiledQuery}

/-- A query that was compiled has a plan for the gram field that it names, whose grams have the length
that it asks for. -/
theorem compile_ok (h : q.compile schema = .ok c) :
    c.query = q ∧ ∃ field, (q.planner field).plan = .ok c.plan ∧
      ∀ analyzed, field = some analyzed → ∃ name f, q.gramField = some name ∧
        schema.gramField? name = some f ∧ f.analyzer.gramSize = q.settings.gramSize ∧
        analyzed = ⟨f.name, f.analyzer.analyze⟩ := by
  obtain ⟨_, -, h⟩ := ok_of_bind h
  obtain ⟨field, hfield, h⟩ := ok_of_bind h
  obtain ⟨plan, hplan, h⟩ := ok_of_bind h
  cases h
  refine ⟨rfl, field, hplan, ?_⟩
  rintro analyzed rfl
  cases hname : q.gramField with
  | none =>
    rw [hname] at hfield
    cases hfield
  | some name =>
    rw [hname] at hfield
    obtain ⟨_, hanalyzed, hfield⟩ := ok_of_bind hfield
    cases hfield
    -- A gram field is refused if it does not exist or if its grams have another length.
    unfold analyzedField at hanalyzed
    split at hanalyzed
    · cases hanalyzed
    · rename_i f hf
      split at hanalyzed
      · rename_i hsize
        cases hanalyzed
        exact ⟨name, f, rfl, hf, hsize, rfl⟩
      · cases hanalyzed

end RegexQuery

/-! ### Segments -/

namespace Plan

variable {segment : Segment} {schema : Schema} {docs : List Document} {k : Nat} {plan : Plan}

/-- Only documents of the segment are candidates. -/
theorem lt_size_of_mem_candidates (hs : segment.Indexes schema docs)
    (h : k ∈ plan.candidates segment) : k < segment.size := by
  unfold candidates at h
  split at h
  · exact ((Segment.mem_evaluate hs _).mp h).1
  · exact Segment.mem_all.mp h
  · exact absurd h Std.TreeSet.not_mem_emptyc

/-- A document that the plan covers is a candidate. -/
theorem mem_candidates_of_covers (hs : segment.Indexes schema docs) (hk : k < segment.size)
    (h : plan.Covers fun field t => segment.Has field t k) : k ∈ plan.candidates segment := by
  cases plan with
  | unaccelerated => exact Segment.mem_all.mpr hk
  | accelerated q => exact (Segment.mem_evaluate hs q).mpr ⟨hk, h⟩
  | noMatch => exact h.elim

end Plan

namespace CompiledQuery

variable {q : RegexQuery} {schema : Schema} {c : CompiledQuery} {r : Regex}

/-- The plan of a query covers a document with the terms of a match: every term of a part of it is
one of the value that it is in. -/
theorem covers_of_terms (hc : q.compile schema = .ok c) :
    ∃ r, Regex.compile q.regex q.settings.fold = .ok r ∧
      ∀ d, ∀ v ∈ d.values q.field, ∀ part ∈ r.language,
        (∀ name f, q.gramField = some name → schema.gramField? name = some f →
          f.source = q.field ∧ ∀ w, w <:+: part →
            ∀ t ∈ f.analyzer.analyze (String.ofList w), t ∈ f.analyzer.analyze v) →
        c.plan.Covers (schema.Has d) := by
  obtain ⟨-, field, hplan, hfield⟩ := RegexQuery.compile_ok hc
  obtain ⟨r, hr, hcovers⟩ := Planner.covers_plan hplan
  refine ⟨r, hr, fun d v hv part hpart hterms => hcovers _ part hpart fun analyzed heq => ?_⟩
  obtain ⟨name, f, hname, hf, hsize, rfl⟩ := hfield analyzed heq
  obtain ⟨hsource, hterms⟩ := hterms name f hname hf
  -- The grams that the plan asks for are grams of parts of the match, and so of the value.
  have hhas {w : List Char} (hw : w <:+: part) :
      ∀ t ∈ f.analyzer.analyze (String.ofList w), schema.Has d f.name t := by
    intro t ht
    refine ⟨f, List.mem_of_find?_eq_some hf, rfl, ?_⟩
    rw [← hsource] at hv
    exact List.mem_flatMap.mpr ⟨v, hv, hterms w hw t ht⟩
  exact ⟨hhas List.infix_rfl, fun gram _ hgram => hhas hgram⟩

/-- The plan of a query covers the documents that match. -/
theorem covers_of_matches (hc : q.compile schema = .ok c) (hq : q.PairedWith schema) :
    ∃ r, Regex.compile q.regex q.settings.fold = .ok r ∧
      ∀ d, q.Matches r d → c.plan.Covers (schema.Has d) := by
  obtain ⟨r, hr, hcovers⟩ := covers_of_terms hc
  refine ⟨r, hr, ?_⟩
  rintro d ⟨v, hv, part, hpart, hmem⟩
  refine hcovers d v hv part hmem fun name f hname hf => ?_
  obtain ⟨hsource, hpairs⟩ := hq.gramField name f hname hf
  -- Every term of a part of a folded value is a term of the value.
  exact ⟨hsource, fun w hw t ht => GramAnalyzer.mem_analyze_of_infix hpairs (hw.trans hpart) ht⟩

/-- What a compiled query needs to find its matches among some documents: the queried field is
stored, and the plan covers those of the documents that match. -/
structure Finds (c : CompiledQuery) (q : RegexQuery) (schema : Schema) (r : Regex)
    (among : Document → Prop) : Prop where
  compiled : q.compile schema = .ok c
  regex : Regex.compile q.regex q.settings.fold = .ok r
  stored : schema.isStored q.field = true
  covers (d : Document) : among d → q.Matches r d → c.plan.Covers (schema.Has d)

/-- A query that finds the matches among some documents finds those among fewer. -/
theorem Finds.mono {among among' : Document → Prop} (hc : c.Finds q schema r among)
    (h : ∀ d, among' d → among d) : c.Finds q schema r among' :=
  { hc with covers := fun d hd => hc.covers d (h d hd) }

/-- A query that goes with its gram field finds its matches among all documents. -/
theorem finds_of_pairedWith {among : Document → Prop} (hc : q.compile schema = .ok c)
    (hq : q.PairedWith schema) (hr : Regex.compile q.regex q.settings.fold = .ok r) :
    c.Finds q schema r among := by
  obtain ⟨r', hr', hcovers⟩ := covers_of_matches hc hq
  have hrr : r' = r := Except.ok.inj (hr'.symm.trans hr)
  subst hrr
  exact ⟨hc, hr, hq.stored, fun d _ => hcovers d⟩

variable {segment : Segment} {docs : List Document} {p : Progress}

/-- Planning again for a segment covers its documents that match. -/
theorem covers_planFor {plan : Plan} {k : Nat} (h : c.planFor segment = .ok plan)
    (hcovers : c.plan.Covers fun field t => segment.Has field t k) :
    plan.Covers fun field t => segment.Has field t k := by
  unfold planFor at h
  split at h
  · rename_i q' hplan
    rw [hplan] at hcovers
    exact Planner.covers_replan h ((Segment.holds_prune q').mpr hcovers)
  · cases h
    exact hcovers

variable {m : Type → Type} [Monad m] [LawfulMonad m] {clock : m Nat}

/-- A run over a segment finds exactly its documents that match. -/
theorem yields_run (hc : c.Finds q schema r (· ∈ docs)) (hs : segment.Indexes schema docs)
    (hp : p.deadline.Unlimited) :
    Yields clock (c.run (c.search Loader.stored) clock segment p)
      (Outcome fun hits => hits.Pairwise (· < ·) ∧
        ∀ k, k ∈ hits ↔ ∃ d, docs[k]? = some d ∧ q.Matches r d) := by
  have hquery := (RegexQuery.compile_ok hc.compiled).1
  -- What a recheck says of a document is whether it matches.
  have hanswers {k : Nat} {d : Document} {found : Bool} (hd : docs[k]? = some d)
      (h : (c.search Loader.stored).Answers segment k found) : found = true ↔ q.Matches r d := by
    unfold Search.Answers CompiledQuery.search at h
    simp only [hquery] at h
    rw [hs.stored? hc.stored, hd] at h
    obtain ⟨r', hr', hfound⟩ := Rechecker.recheck_ofSettings h
    cases hc.regex.symm.trans hr'
    exact hfound
  unfold CompiledQuery.run
  split
  · exact .pure (.error hp)
  · rename_i plan hplan
    refine (Search.yields_run rfl hp plan).imp fun out hout => ⟨hout.unlimited, fun hits h => ?_⟩
    have hconfirmed := hout.result hits h
    refine ⟨(Search.pairwise_candidates segment plan).sublist hconfirmed.sublist, fun k => ?_⟩
    rw [hconfirmed.mem_iff, Std.TreeSet.mem_toList]
    constructor
    · rintro ⟨hk, hanswer⟩
      have hlt := Plan.lt_size_of_mem_candidates hs hk
      rw [hs.size_eq] at hlt
      exact ⟨docs[k], List.getElem?_eq_getElem hlt,
        (hanswers (List.getElem?_eq_getElem hlt) hanswer).mp rfl⟩
    · rintro ⟨d, hd, hmatch⟩
      have hlt : k < segment.size := by
        rw [hs.size_eq]
        exact (List.getElem?_eq_some_iff.mp hd).1
      -- A document that matches is a candidate, because the plan covers it.
      have hcovers : c.plan.Covers fun field t => segment.Has field t k := by
        simp only [hs.has_iff hd]
        exact hc.covers d (List.mem_of_getElem? hd) hmatch
      have hk := Plan.mem_candidates_of_covers hs hlt (covers_planFor hplan hcovers)
      obtain ⟨found, hfound⟩ := hconfirmed.answers k (Std.TreeSet.mem_toList.mpr hk)
      exact ⟨hk, (hanswers hd hfound).mpr hmatch ▸ hfound⟩

end CompiledQuery

/-! ### Shards and indexes -/

section Addresses

open DocAddress

variable {q : RegexQuery} {schema : Schema} {c : CompiledQuery} {r : Regex} {contents : Contents}
variable {m : Type → Type} [Monad m] [LawfulMonad m] {clock : m Nat}

/-- The document at an address matches. -/
def Contents.MatchAt (contents : Contents) (q : RegexQuery) (r : Regex) (a : DocAddress) : Prop :=
  ∃ d, contents.at? a = some d ∧ q.Matches r d

/-- Some address has the document. -/
def Contents.Has (contents : Contents) (d : Document) : Prop := ∃ a, contents.at? a = some d

/-- A document at some address is in the index. -/
theorem Contents.has_of_mem {shard number : Nat} {d : Document} (h : d ∈ contents shard number) :
    contents.Has d := by
  obtain ⟨k, hk⟩ := List.mem_iff_getElem?.mp h
  exact ⟨⟨shard, number, k⟩, hk⟩

/-- Nothing matches where there are no documents. -/
theorem Contents.not_matchAt {a : DocAddress} (h : contents a.shard a.segment = []) :
    ¬contents.MatchAt q r a := by
  rintro ⟨d, hd, -⟩
  unfold Contents.at? at hd
  rw [h] at hd
  cases hd

/-- The hits of a segment and those of the segments behind it. -/
theorem Contents.exactly_append {shard number : Nat} {docs : List Nat} {more : List DocAddress}
    (hdocs : docs.Pairwise (· < ·) ∧
      ∀ k, k ∈ docs ↔ ∃ d, (contents shard number)[k]? = some d ∧ q.Matches r d)
    (hmore : Exactly (fun a => a.shard = shard ∧ number + 1 ≤ a.segment ∧ contents.MatchAt q r a)
      more) :
    Exactly (fun a => a.shard = shard ∧ number ≤ a.segment ∧ contents.MatchAt q r a)
      (docs.map (⟨shard, number, ·⟩) ++ more) := by
  refine ((Exactly.of_docs shard number hdocs).append hmore ?_).congr ?_
  -- All hits in this segment come before those in later segments.
  · rintro a b ⟨ha, hsegment, -⟩ ⟨hb, hle, -⟩
    exact .inr ⟨ha.trans hb.symm, .inl (by omega)⟩
  · rintro ⟨i, n, k⟩
    show (i = shard ∧ n = number ∧ ∃ d, (contents shard number)[k]? = some d ∧ q.Matches r d) ∨
      (i = shard ∧ number + 1 ≤ n ∧ contents.MatchAt q r ⟨i, n, k⟩) ↔
      i = shard ∧ number ≤ n ∧ contents.MatchAt q r ⟨i, n, k⟩
    constructor
    · rintro (⟨rfl, rfl, hmatch⟩ | ⟨rfl, hle, hmatch⟩)
      · exact ⟨rfl, Nat.le_refl _, hmatch⟩
      · exact ⟨rfl, Nat.le_of_succ_le hle, hmatch⟩
    · rintro ⟨rfl, hle, hmatch⟩
      obtain rfl | hlt := Nat.eq_or_lt_of_le hle
      · exact .inl ⟨rfl, rfl, hmatch⟩
      · exact .inr ⟨rfl, hlt, hmatch⟩

section Finds

variable (hc : c.Finds q schema r contents.Has)

include hc

/-- Searching the segments of a shard from one on gives the matches in these, behind those found
before. -/
theorem Shard.yields_searchFrom {shard number : Nat} {segments : List Segment} {p : Progress}
    (hp : p.deadline.Unlimited)
    (hindexes : ∀ n (segment : Segment), segments[n]? = some segment →
      segment.Indexes schema (contents shard (number + n)))
    (hbeyond : ∀ n, segments.length ≤ n → contents shard (number + n) = []) :
    Yields clock (searchFrom c (c.search Loader.stored) clock shard number segments p)
      (Outcome (Exactly fun a => a.shard = shard ∧ number ≤ a.segment ∧ contents.MatchAt q r a)) := by
  induction segments generalizing number p with
  | nil =>
    refine .pure (.ok hp (.nil ?_))
    rintro a ⟨rfl, hle, hmatch⟩
    have hnone := hbeyond (a.segment - number) (Nat.zero_le _)
    rw [Nat.add_sub_cancel' hle] at hnone
    exact Contents.not_matchAt hnone hmatch
  | cons segment segments ih =>
    rw [searchFrom, if_neg (by simp [hp.isExpired])]
    have hdocs : c.Finds q schema r (· ∈ contents shard number) :=
      hc.mono fun d => Contents.has_of_mem
    refine .bind (CompiledQuery.yields_run hdocs (hindexes 0 segment rfl) hp) fun out hout => ?_
    obtain ⟨result, p'⟩ := out
    cases result with
    | error e => exact .pure (.error hout.unlimited)
    | ok docs =>
      -- The segments behind are those of the same shard, counted from the next number.
      have hrest : Yields clock
          (searchFrom c (c.search Loader.stored) clock shard (number + 1) segments p')
          (Outcome (Exactly fun a =>
            a.shard = shard ∧ number + 1 ≤ a.segment ∧ contents.MatchAt q r a)) := ih hout.unlimited
        (fun n segment' h => by
          rw [Nat.add_right_comm]
          exact hindexes (n + 1) segment' h)
        (fun n h => by
          rw [Nat.add_right_comm]
          exact hbeyond (n + 1) (Nat.succ_le_succ h))
      refine .bind hrest fun out' hout' => ?_
      obtain ⟨result', p''⟩ := out'
      cases result' with
      | error e => exact .pure (.error hout'.unlimited)
      | ok more =>
        exact .pure (.ok hout'.unlimited
          (Contents.exactly_append (hout.result docs rfl) (hout'.result more rfl)))

/-- Searching a shard gives its matches. -/
theorem Shard.yields_search (hunlimited : q.settings.timeoutMs = 0) {shard : Shard} {number : Nat}
    (hs : shard.Holds schema (contents number)) :
    Yields clock (shard.search c (c.search Loader.stored) clock number) fun result =>
      ∀ found, result = .ok found →
        Exactly (fun a => a.shard = number ∧ contents.MatchAt q r a) found.hits := by
  -- The deadline of a search without a timeout never expires.
  have hp : c.start.deadline.Unlimited := by
    unfold CompiledQuery.start
    rw [(RegexQuery.compile_ok hc.compiled).1]
    exact ⟨hunlimited, rfl⟩
  have hsegments : Yields clock
      (searchFrom c (c.search Loader.stored) clock number 0 shard.segments.toList c.start)
      (Outcome (Exactly fun a => a.shard = number ∧ 0 ≤ a.segment ∧ contents.MatchAt q r a)) :=
    Shard.yields_searchFrom hc hp
    (fun n segment h => by
      rw [Array.getElem?_toList] at h
      rw [Nat.zero_add]
      exact hs.indexes h)
    (fun n h => by
      rw [Array.length_toList] at h
      rw [Nat.zero_add]
      exact hs.beyond h)
  unfold Shard.search
  refine .bind hsegments fun out hout => ?_
  obtain ⟨result, p'⟩ := out
  refine .pure fun found h => ?_
  cases result with
  | error e => cases h
  | ok hits =>
    cases h
    exact (hout.result hits rfl).congr fun a => by simp

/-- Searching the shards from one on adds their matches to those of the shards before, if the query
finds the matches among the documents of the index. -/
theorem Index.yields_searchShards (hunlimited : q.settings.timeoutMs = 0) {number : Nat}
    {shards : List Shard} {found : SearchResults}
    (hshards : ∀ i (shard : Shard), shards[i]? = some shard →
      shard.Holds schema (contents (number + i)))
    (hbeyond : ∀ i n, shards.length ≤ i → contents (number + i) n = [])
    (hfound : Exactly (fun a => a.shard < number ∧ contents.MatchAt q r a) found.hits) :
    Yields clock (searchShards c (c.search Loader.stored) clock number shards found) fun result =>
      ∀ found, result = .ok found → Exactly (contents.MatchAt q r) found.hits := by
  induction shards generalizing number found with
  | nil =>
    refine .pure fun found' h => ?_
    cases h
    refine hfound.congr fun a => and_iff_right_of_imp fun hmatch => ?_
    -- Behind the last shard there are no documents, so no match was left out.
    refine Nat.lt_of_not_le fun hle => ?_
    have hnone := hbeyond (a.shard - number) a.segment (Nat.zero_le _)
    rw [Nat.add_sub_cancel' hle] at hnone
    exact Contents.not_matchAt hnone hmatch
  | cons shard shards ih =>
    rw [searchShards]
    refine .bind (Shard.yields_search hc hunlimited (hshards 0 shard rfl)) fun result hresult => ?_
    cases result with
    | error e => exact .pure nofun
    | ok results =>
      apply ih
      · intro i shard' h
        rw [Nat.add_right_comm]
        exact hshards (i + 1) shard' h
      · intro i n h
        rw [Nat.add_right_comm]
        exact hbeyond (i + 1) n (Nat.succ_le_succ h)
      · refine (hfound.append (hresult results rfl) ?_).congr ?_
        · rintro a b ⟨ha, -⟩ ⟨hb, -⟩
          exact .inl (by omega)
        · intro a
          rw [← or_and_right, Nat.lt_succ_iff_lt_or_eq]

end Finds

end Addresses

/-- A search finds exactly the documents that match, if its plan looks at all of them. -/
theorem Index.yields_search {m : Type → Type} [Monad m] [LawfulMonad m] (clock : m Nat) {index : Index}
    {contents : Contents} {q : RegexQuery} (hholds : index.Holds contents)
    (hunlimited : q.settings.timeoutMs = 0)
    (hfinds : ∀ c, q.compile index.schema = .ok c → ∃ r, c.Finds q index.schema r contents.Has) :
    Yields clock (index.search q Loader.stored clock) fun result =>
      ∀ found, result = .ok found → ∃ r, Regex.compile q.regex q.settings.fold = .ok r ∧
        DocAddress.Exactly (contents.MatchAt q r) found.hits := by
  unfold Index.search Index.searchCompiled
  split
  · exact .pure nofun
  · rename_i c hc
    obtain ⟨r, hr⟩ := hfinds c hc
    have hshards : ∀ i (shard : Shard), index.shards.toList[i]? = some shard →
        shard.Holds index.schema (contents (0 + i)) := by
      intro i shard h
      rw [Array.getElem?_toList] at h
      rw [Nat.zero_add]
      exact hholds.shards h
    have hbeyond : ∀ i n, index.shards.toList.length ≤ i → contents (0 + i) n = [] := by
      intro i n h
      rw [Array.length_toList] at h
      rw [Nat.zero_add]
      exact hholds.beyond n h
    -- Before the first shard there is nothing to be found.
    have hnone : DocAddress.Exactly (fun a => a.shard < 0 ∧ contents.MatchAt q r a) [] :=
      .nil fun a ha => Nat.not_lt_zero _ ha.1
    refine (Index.yields_searchShards hr hunlimited hshards hbeyond hnone).imp ?_
    exact fun result hresult found h => ⟨r, hr.regex, hresult found h⟩

/-- **Searches are exact.** However the documents are spread over shards and segments, and whether a
gram field accelerates the search or not: a search without a limit of time that succeeds finds, in
ascending order, the addresses of exactly those documents that have a value with a match. A match is
a part of the folded value, which may be empty, in the language of the folded expression. -/
theorem Index.search_exact {m : Type → Type} [Monad m] [LawfulMonad m] (clock : m Nat)
    (schema : Schema) (options : IndexOptions) (docs : List Document) (q : RegexQuery)
    (hunlimited : q.settings.timeoutMs = 0) (hq : q.PairedWith schema) :
    let (addresses, index) := (Index.empty schema options).addAll docs
    Yields clock (index.search q Loader.stored clock) fun result =>
      ∀ found, result = .ok found → ∃ r, Regex.compile q.regex q.settings.fold = .ok r ∧
        found.hits.Pairwise DocAddress.Before ∧
        ∀ a, a ∈ found.hits ↔ ∃ d, (a, d) ∈ addresses.zip docs ∧ ∃ v ∈ d.values q.field,
          ∃ part, part <:+: q.settings.foldText v ∧ part ∈ r.language := by
  obtain ⟨contents, hholds, hat⟩ := holds_addAll (holds_empty schema options) docs
  have hschema : ((Index.empty schema options).addAll docs).2.schema = schema := schema_addAll docs
  simp only
  generalize (Index.empty schema options).addAll docs = added at hholds hat hschema
  obtain ⟨addresses, index⟩ := added
  simp only at hholds hat hschema ⊢
  subst hschema
  refine (Index.yields_search clock hholds hunlimited fun c hc => ?_).imp ?_
  · obtain ⟨r, hr, -⟩ := CompiledQuery.covers_of_matches hc hq
    exact ⟨r, CompiledQuery.finds_of_pairedWith hc hq hr⟩
  · intro result hresult found h
    obtain ⟨r, hr, hascending, hmem⟩ := hresult found h
    refine ⟨r, hr, hascending, fun a => (hmem a).trans (exists_congr fun d => ?_)⟩
    -- The documents at the addresses are the ones that were added there.
    rw [hat]
    simp [Contents.at?, RegexQuery.Matches, Regex.MatchesIn]

/-- Two of three documents have an `el+o` in lowercase, with a gram field and without. -/
theorem Index.search_exact_lowercase :
    let schema : Schema :=
      { gramFields := [⟨"grams", "body", { gramSize := 2, lowercase := some .root }⟩] }
    let options : IndexOptions := { shards := 2, maxDocsPerSegment := 1 }
    let docs : List Document :=
      [⟨[("body", ["Hello"])]⟩, ⟨[("body", ["hole"])]⟩, ⟨[("body", ["x", "YELLO"])]⟩]
    let clock : Id Nat := pure 0
    let plain : RegexQuery := { field := "body", regex := "el+o", settings := { gramSize := 2 } }
    let q : RegexQuery := { plain with gramField := some "grams" }
    (q.settings.timeoutMs = 0 ∧ q.PairedWith schema ∧
      Yields clock (((Index.empty schema options).addAll docs).2.search q Loader.stored clock)
        fun result => ∀ found, result = .ok found →
          ∃ r, Regex.compile "el+o" (some .lowercase) = .ok r ∧
            found.hits.Pairwise DocAddress.Before ∧
            ∀ a, a ∈ found.hits ↔
              ∃ d, (a, d) ∈ ((Index.empty schema options).addAll docs).1.zip docs ∧
                ∃ v ∈ d.values "body", ∃ part, part <:+: q.settings.foldText v ∧
                  part ∈ r.language) ∧
    ∃ found, ((Index.empty {} options).addAll docs).2.search plain Loader.stored clock = .ok found ∧
      found.hits = [⟨0, 0, 0⟩, ⟨0, 1, 0⟩] ∧ found.hits.Pairwise DocAddress.Before := by
  intro schema options docs clock plain q
  have hpaired : q.PairedWith schema := by
    refine ⟨by decide, fun name f hname hf => ?_⟩
    cases hname
    cases hf
    exact ⟨rfl, rfl⟩
  have hplain : plain.PairedWith {} := ⟨by decide, nofun⟩
  refine ⟨⟨rfl, hpaired, search_exact clock schema options docs q rfl hpaired⟩, ?_⟩
  have hhits : (((Index.empty {} options).addAll docs).2.search plain Loader.stored clock).toOption.map
      (·.hits) = some [⟨0, 0, 0⟩, ⟨0, 1, 0⟩] := by cbv
  obtain ⟨n, result, hresult, hexact⟩ := search_exact clock {} options docs plain rfl hplain
  replace hresult : ((Index.empty {} options).addAll docs).2.search plain Loader.stored clock =
      result := hresult
  rw [hresult] at hhits ⊢
  cases result with
  | error e => cases hhits
  | ok found =>
    obtain ⟨r, -, hascending, -⟩ := hexact found rfl
    exact ⟨found, rfl, Option.some.inj hhits, hascending⟩

end GramSieve
