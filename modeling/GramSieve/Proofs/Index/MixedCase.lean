import GramSieve.Proofs.Index.Search
import GramSieve.Proofs.Text.PairRules

/-!
# Searching with case in lowercase grams

A gram field may be in lowercase although case matters to a query. The grams of the pattern are then
lowercased one by one, and those of the index together with the text around them. Both are the same
as long as lowercase does not depend on the neighbours of a character.

* `Gram.GramAnalyzer.mem_analyze_of_independent` — the terms of a part of a value are terms of the
  value.
* `Index.hits_eq_of_lowercaseField` — so the gram field makes no difference.
* `Index.hits_ne_of_combiningDot` — in Turkish lowercase it makes one if a combining dot is in the text.
-/

namespace GramSieve

open Gram

/-! ### Terms -/

/-- Where lowercase does not depend on neighbours, the terms of a part of a value are terms of the
value. -/
theorem Gram.GramAnalyzer.mem_analyze_of_independent {analyzer : GramAnalyzer} {locale : Text.Locale}
    {value t : String} {part : List Char} (hlower : analyzer.lowercase = some locale)
    (hvalue : locale.Independent value.toList) (hpart : part <:+: value.toList)
    (ht : t ∈ analyzer.analyze (String.ofList part)) : t ∈ analyzer.analyze value := by
  have hpairs : analyzer.PairsWith { locale } := hlower
  rw [mem_analyze hpairs] at ht ⊢
  obtain ⟨hsize, window, hlength, hwindow, hterm⟩ := ht
  refine ⟨hsize, window, hlength, hwindow.trans ?_, hterm⟩
  show locale.lowercaseChars (String.ofList part).toList <:+: locale.lowercaseChars value.toList
  rw [Text.Locale.independent_iff] at hvalue
  rw [String.toList_ofList, hvalue part hpart, hvalue value.toList List.infix_rfl]
  exact hpart.map locale.charFold.fold

/-! ### Plans -/

section Plans

variable {q : RegexQuery} {schema : Schema} {c : CompiledQuery}

/-- With case, the plan for a lowercase gram field covers the documents that match, as long as
lowercase does not depend on neighbours in the queried values. -/
theorem CompiledQuery.finds_of_lowercaseField {name : String} {f : GramField} {locale : Text.Locale}
    {among : Document → Prop} (hc : q.compile schema = .ok c)
    (hcase : q.settings.caseSensitive = true) (hstored : schema.isStored q.field = true)
    (hname : q.gramField = some name) (hf : schema.gramField? name = some f)
    (hsource : f.source = q.field) (hlower : f.analyzer.lowercase = some locale)
    (hvalues : ∀ d, among d → ∀ v ∈ d.values q.field, locale.Independent v.toList) :
    ∃ r, c.Finds q schema r among := by
  obtain ⟨r, hr, hcovers⟩ := CompiledQuery.covers_of_terms hc
  refine ⟨r, hc, hr, hstored, ?_⟩
  rintro d hd ⟨v, hv, part, hpart, hmem⟩
  refine hcovers d v hv part hmem fun name' f' hname' hf' => ?_
  cases hname.symm.trans hname'
  cases hf.symm.trans hf'
  -- With case, the value is searched as it is.
  have hvalue : q.settings.foldText v = v.toList := by
    simp [Settings.foldText, hcase]
  rw [hvalue] at hpart
  exact ⟨hsource, fun w hw t ht => Gram.GramAnalyzer.mem_analyze_of_independent hlower
    (hvalues d hd v hv) (hw.trans hpart) ht⟩

/-- Without a gram field the plan covers every document. -/
theorem CompiledQuery.finds_of_noField {among : Document → Prop} (hc : q.compile schema = .ok c)
    (hstored : schema.isStored q.field = true) (hname : q.gramField = none) :
    ∃ r, c.Finds q schema r among := by
  have hq : q.PairedWith schema := ⟨hstored, fun name f h => by simp [hname] at h⟩
  obtain ⟨r, hr, -⟩ := CompiledQuery.covers_of_matches hc hq
  exact ⟨r, CompiledQuery.finds_of_pairedWith hc hq hr⟩

end Plans

/-! ### A small index -/

namespace TurkishPairs

/-- Two characters of a text, in lowercase by the rules of Turkish. -/
def analyzer : GramAnalyzer := { gramSize := 2, lowercase := some .turkish }

/-- An index of texts by such grams. -/
def pairsSchema : Schema := { gramFields := [⟨"grams", "body", analyzer⟩] }

/-- A search with case by such grams. -/
def query (regex : String) : RegexQuery :=
  { field := "body", regex, gramField := some "grams",
    settings := { gramSize := 2, caseSensitive := true } }

/-- A document with a single text. -/
def document (text : String) : Document := ⟨[("body", [text])]⟩

/-- A segment with a single text. -/
def segment (text : String) : Segment := Segment.add {} pairsSchema (document text)

/-- An index with a single text. -/
def index (text : String) : Index :=
  ((Index.empty pairsSchema { shards := 1 }).addAll [document text]).2

variable {text regex gram : String}

theorem schema_index : (index text).schema = pairsSchema := rfl

theorem toList_shards_index :
    (index text).shards.toList = [{ segments := #[segment text], capacity := 10000 }] := rfl

theorem segment_eq : segment text = ⟨(segment text).postings, #[document text]⟩ := rfl

/-- The postings of the segment are the terms of its only document. -/
theorem postings_segment {terms : List String}
    (hterms : Segment.termsOf ⟨"grams", "body", analyzer⟩ (document text) = terms) :
    (segment text).postings["grams"]? = some (Postings.add {} 0 terms) := by
  simp [segment, Segment.add, Segment.size, pairsSchema, hterms]

/-- A literal with a single gram is looked up. -/
theorem compile_query {r : Regex} {literal : List Char} (hregex : regex ≠ "")
    (hr : Regex.compile regex none = .ok r) (hliteral : r.literalText? = some literal)
    (hgrams : analyzer.analyze (String.ofList literal) = [gram])
    (hsimple : Formula.simplify (.composite .and [.leaf gram]) = .leaf gram) :
    (query regex).compile pairsSchema = .ok ⟨query regex, .accelerated (.term "grams" gram)⟩ := by
  -- The literal has a single gram, which is all that is required.
  have hrequirement : literalRequirement (query regex).settings.bounds analyzer.analyze
      (String.ofList literal) = .composite .and [.leaf gram] := by
    rw [literalRequirement, hgrams]
    simp [takeDistinct, query, Settings.bounds]
  have hplan : ((query regex).planner (some ⟨"grams", analyzer.analyze⟩)).plan =
      .ok (.accelerated (.term "grams" gram)) := by
    rw [Planner.plan_of_literalText?
      (p := (query regex).planner (some ⟨"grams", analyzer.analyze⟩)) hregex rfl hr rfl hliteral]
    show ((query regex).planner (some ⟨"grams", analyzer.analyze⟩)).planFormula "grams"
      (literalRequirement (query regex).settings.bounds analyzer.analyze
        (String.ofList literal)).simplify = _
    rw [hrequirement, hsimple]
    rfl
  show (do
    let plan ← ((query regex).planner (some ⟨"grams", analyzer.analyze⟩)).plan
    return ({ query := query regex, plan } : CompiledQuery)) = _
  rw [hplan]
  rfl

end TurkishPairs

/-! ### Searches -/

section Searches

variable {m : Type → Type} [Monad m] [LawfulMonad m] (clock : m Nat)

/-- **A lowercase gram field makes no difference to a search with case**, as long as in the queried
values lowercase does not depend on the neighbours of a character. Only Turkish, Azerbaijani and
Irish have rules for two characters; in all other languages the values may be any. -/
theorem Index.hits_eq_of_lowercaseField (schema : Schema) (options : IndexOptions)
    (docs : List Document) (q : RegexQuery) {name : String} {f : GramField} {locale : Text.Locale}
    (hunlimited : q.settings.timeoutMs = 0) (hcase : q.settings.caseSensitive = true)
    (hstored : schema.isStored q.field = true) (hname : q.gramField = some name)
    (hf : schema.gramField? name = some f) (hsource : f.source = q.field)
    (hlower : f.analyzer.lowercase = some locale)
    (hvalues : ∀ d ∈ docs, ∀ v ∈ d.values q.field, locale.Independent v.toList) :
    let index := ((Index.empty schema options).addAll docs).2
    Yields clock (do
        let accelerated ← index.search q Loader.stored clock
        let plain ← index.search { q with gramField := none } Loader.stored clock
        return (accelerated, plain)) fun (accelerated, plain) =>
      ∀ found found', accelerated = .ok found → plain = .ok found' → found.hits = found'.hits := by
  obtain ⟨contents, hholds, hat⟩ := holds_addAll (holds_empty schema options) docs
  have hschema : ((Index.empty schema options).addAll docs).2.schema = schema := schema_addAll docs
  have hdocs : ∀ d, contents.Has d → d ∈ docs := by
    rintro d ⟨a, ha⟩
    rcases (hat a d).mp ha with hnone | hzip
    · simp [Contents.at?] at hnone
    · exact (List.of_mem_zip hzip).2
  simp only
  generalize ((Index.empty schema options).addAll docs).2 = index at hholds hschema ⊢
  subst hschema
  have haccelerated := Index.yields_search clock hholds hunlimited fun c hc =>
    CompiledQuery.finds_of_lowercaseField hc hcase hstored hname hf hsource hlower
      fun d hd => hvalues d (hdocs d hd)
  have hplain := Index.yields_search clock (q := { q with gramField := none }) hholds
    hunlimited fun c hc => CompiledQuery.finds_of_noField hc hstored rfl
  refine haccelerated.bind fun result hresult => hplain.bind fun result' hresult' => .pure ?_
  intro found found' h h'
  -- Both list the addresses of the documents that match the same expression.
  obtain ⟨r, hr, hexact⟩ := hresult found h
  obtain ⟨r', hr', hexact'⟩ := hresult' found' h'
  have hrr : r = r' := Except.ok.inj (hr.symm.trans hr')
  subst hrr
  exact hexact.unique hexact'

end Searches

section Pairs

open TurkishPairs

/-- In `İst` there is one character for the dotted letter, and `st` is found with grams and
without. -/
theorem Index.hits_eq_of_lowercaseField_turkish :
    let q := query "st"
    let clock : Id Nat := pure 0
    (q.settings.timeoutMs = 0 ∧ q.settings.caseSensitive = true ∧
      pairsSchema.isStored q.field = true ∧ q.gramField = some "grams" ∧
      pairsSchema.gramField? "grams" = some ⟨"grams", "body", analyzer⟩ ∧
      ∀ d ∈ [document "İst"], ∀ v ∈ d.values q.field, Text.Locale.turkish.Independent v.toList) ∧
    Yields clock (do
        let accelerated ← (index "İst").search q Loader.stored clock
        let plain ← (index "İst").search { q with gramField := none } Loader.stored clock
        return (accelerated, plain)) (fun (accelerated, plain) =>
      ∀ found found', accelerated = .ok found → plain = .ok found' → found.hits = found'.hits) ∧
    ((index "İst").search q Loader.stored clock).run.toOption.map (·.hits) = some [⟨0, 0, 0⟩] := by
  intro q clock
  have hvalues : ∀ d ∈ [document "İst"], ∀ v ∈ d.values q.field,
      Text.Locale.turkish.Independent v.toList := by
    intro d hd v hv a b hpair hrule
    obtain rfl := List.mem_singleton.mp hd
    obtain rfl := List.mem_singleton.mp hv
    have hdot : b ∈ "İst".toList := hpair.subset (by simp)
    rw [hrule.2] at hdot
    revert hdot
    decide +kernel
  refine ⟨⟨rfl, rfl, by decide, rfl, rfl, hvalues⟩, hits_eq_of_lowercaseField clock pairsSchema
    { shards := 1 } [document "İst"] q rfl rfl (by decide) rfl rfl rfl rfl hvalues, ?_⟩
  have hregex : Regex.compile "st" none = .ok (.literal [0x73, 0x74]) := by cbv
  have hliteral : Regex.literalText? (.literal [0x73, 0x74]) = some ['s', 't'] := by cbv
  have hplan : q.compile pairsSchema = .ok ⟨q, .accelerated (.term "grams" "st")⟩ :=
    compile_query (by decide) hregex hliteral (by decide +kernel) (by cbv)
  have hterms : Segment.termsOf ⟨"grams", "body", analyzer⟩ (document "İst") = ["is", "st"] := by
    decide +kernel
  have hterm : (segment "İst").hasTerm "grams" "st" = true := by
    simp [Segment.hasTerm, postings_segment hterms, Postings.add, Postings.addTerm,
      Postings.contains, Std.HashMap.mem_alter]
  have hcandidates :
      (Plan.candidates (.accelerated (.term "grams" "st")) (segment "İst")).toList = [0] := by
    simp only [Plan.candidates, Segment.evaluate, postings_segment hterms, Postings.add,
      Postings.addTerm, Postings.find?, List.foldl_cons, List.foldl_nil, Option.bind_some,
      Std.HashMap.getElem?_alter, Std.HashMap.getElem?_empty]
    cbv
  unfold Index.search Index.searchCompiled
  rw [schema_index, hplan]
  simp only [toList_shards_index, searchShards, Shard.search, Shard.searchFrom, CompiledQuery.run,
    CompiledQuery.planFor, Segment.prune, hterm, if_true, Query.normalize, Planner.replan, Search.run,
    hcandidates]
  -- The candidate is known, so it does not matter which grams there are.
  rw [segment_eq]
  generalize (segment "İst").postings = postings
  cbv

/-- An `I` and a combining dot are lowercased to one `i`. The dot and the `s` behind it stay two
characters in the gram of a pattern, which is none of the text, so they are found without grams
only. -/
theorem Index.hits_ne_of_combiningDot :
    let q := query "\u0307s"
    let clock : Id Nat := pure 0
    ((index "I\u0307st").search q Loader.stored clock).run.toOption.map (·.hits) = some [] ∧
      ((index "I\u0307st").search { q with gramField := none } Loader.stored
        clock).run.toOption.map (·.hits) = some [⟨0, 0, 0⟩] := by
  intro q clock
  constructor
  · have hregex : Regex.compile "\u0307s" none = .ok (.literal [0xCC, 0x87, 0x73]) := by cbv
    have hliteral : Regex.literalText? (.literal [0xCC, 0x87, 0x73]) = some ['\u0307', 's'] := by
      cbv
    have hplan : q.compile pairsSchema = .ok ⟨q, .accelerated (.term "grams" "\u0307s")⟩ :=
      compile_query (by decide) hregex hliteral (by decide +kernel) (by cbv)
    have hterms : Segment.termsOf ⟨"grams", "body", analyzer⟩ (document "I\u0307st") =
        ["is", "st"] := by
      decide +kernel
    have hterm : (segment "I\u0307st").hasTerm "grams" "\u0307s" = false := by
      simp [Segment.hasTerm, postings_segment hterms, Postings.add, Postings.addTerm,
        Postings.contains, Std.HashMap.mem_alter]
    unfold Index.search Index.searchCompiled
    rw [schema_index, hplan]
    simp only [toList_shards_index, searchShards, Shard.search, Shard.searchFrom,
      CompiledQuery.run, CompiledQuery.planFor, Segment.prune, hterm]
    rfl
  · have hplan : ({ q with gramField := none } : RegexQuery).compile pairsSchema =
        .ok ⟨{ q with gramField := none }, .unaccelerated⟩ := by
      cbv
    unfold Index.search Index.searchCompiled
    rw [schema_index, hplan, toList_shards_index, segment_eq]
    -- Without a gram field it does not matter which grams there are.
    generalize (segment "I\u0307st").postings = postings
    cbv

end Pairs

end GramSieve
