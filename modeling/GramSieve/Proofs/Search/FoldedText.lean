import GramSieve.Proofs.Gram.Windows
import GramSieve.Proofs.Text.Folding
import GramSieve.Search.Settings

/-!
# Folded texts and their grams

* `Settings.foldText` — a value as it is compared under some settings.
* `Settings.foldText_of_infix` — a part of a folded text is folded.
* `Gram.GramAnalyzer.PairsWith` — an analyzer that folds as the settings do.
* `Gram.GramAnalyzer.mem_analyze_of_infix` — the terms of a part of a folded value are terms of the
  value.
* `Gram.GramAnalyzer.analyze_lowercase` — the terms of a part of a lowercase text are its windows.
-/

namespace GramSieve

open Text

namespace Settings

variable {s : Settings}

/-- A value as it is compared under some settings: in lowercase, unless case matters. -/
def foldText (s : Settings) (value : String) : List Char :=
  if s.caseSensitive then value.toList else s.locale.lowercaseChars value.toList

/-- A part of a folded text is folded. -/
theorem foldText_of_infix {value : String} {part : List Char} (h : part <:+: s.foldText value) :
    s.foldText (String.ofList part) = part := by
  unfold foldText at h ⊢
  rw [String.toList_ofList]
  split at h
  · rename_i hsensitive
    rw [if_pos hsensitive]
  · rename_i hsensitive
    rw [if_neg hsensitive]
    exact Locale.lowercaseChars_of_infix h

end Settings

namespace Gram.GramAnalyzer

variable {a : GramAnalyzer} {s : Settings} {value t : String} {part : List Char}

/-- An analyzer folds as the settings do. -/
def PairsWith (a : GramAnalyzer) (s : Settings) : Prop :=
  a.lowercase = if s.caseSensitive then none else some s.locale

/-- The terms of a value are the parts of the folded value that have the length of a gram. -/
theorem mem_analyze (ha : a.PairsWith s) :
    t ∈ a.analyze value ↔ 0 < a.gramSize ∧ ∃ window, window.length = a.gramSize ∧
      window <:+: s.foldText value ∧ String.ofList window = t := by
  unfold analyze Settings.foldText
  rw [ha]
  cases s.caseSensitive with
  | true => exact mem_extractGrams
  | false =>
    refine mem_extractGrams.trans ?_
    rw [Locale.lowercase, String.toList_ofList]
    rfl

/-- The terms of a part of a folded value are terms of the value. -/
theorem mem_analyze_of_infix (ha : a.PairsWith s) (hpart : part <:+: s.foldText value)
    (h : t ∈ a.analyze (String.ofList part)) : t ∈ a.analyze value := by
  rw [mem_analyze ha] at h ⊢
  obtain ⟨hsize, window, hlength, hwindow, hterm⟩ := h
  rw [Settings.foldText_of_infix hpart] at hwindow
  exact ⟨hsize, window, hlength, hwindow.trans hpart, hterm⟩

/-- **Terms line up with the grams of lowercase text.** Wherever a part is cut out of the lowercase form
of a text, lowercasing it changes nothing. So its terms are its windows, one at every position, and all of
them are terms of the text. The lowercase form of a text is a part of itself, so it stays as it is. There
are no windows of zero characters. -/
theorem analyze_lowercase (locale : Text.Locale) (size : Nat) (text : String) :
    (∀ part : String, part.toList <:+: (locale.lowercase text).toList →
      locale.lowercase part = part ∧
      analyze ⟨size, some locale⟩ part = (if size = 0 then [] else
        (List.range (part.toList.length + 1 - size)).map fun i =>
          String.ofList ((part.toList.drop i).take size)) ∧
      ∀ term ∈ analyze ⟨size, some locale⟩ part, term ∈ analyze ⟨size, some locale⟩ text) ∧
    locale.lowercase (locale.lowercase text) = locale.lowercase text := by
  -- A part of a lowercase text is lowercase, whatever stood around it.
  have hstable : ∀ part : String, part.toList <:+: (locale.lowercase text).toList →
      locale.lowercase part = part := by
    intro part hpart
    rw [Locale.lowercase, String.toList_ofList] at hpart
    rw [Locale.lowercase, Locale.lowercaseChars_of_infix hpart, String.ofList_toList]
  refine ⟨fun part hpart => ?_, hstable _ List.infix_rfl⟩
  have hsame := hstable part hpart
  refine ⟨hsame, ?_, fun term hterm => ?_⟩
  · show extractGrams size (locale.lowercase part) = _
    rw [hsame, extractGrams_eq_map]
  · have hpairs : PairsWith ⟨size, some locale⟩ { locale } := rfl
    have hfolded : part.toList <:+: Settings.foldText { locale } text := by
      rwa [Locale.lowercase, String.toList_ofList] at hpart
    have hterm' : term ∈ analyze ⟨size, some locale⟩ (String.ofList part.toList) := by
      rwa [String.ofList_toList]
    exact mem_analyze_of_infix hpairs hfolded hterm'

/-- A mutation gets one hyphen: in a part of the lowercase form no uppercase vowel is left to ask for
another one. -/
theorem analyze_lowercase_mutation :
    let analyzer : GramAnalyzer := ⟨2, some .irish⟩
    "t-u".toList <:+: (Locale.irish.lowercase "an tUisce").toList ∧
      Locale.irish.lowercase "t-u" = "t-u" ∧ analyzer.analyze "t-u" = ["t-", "-u"] ∧
      ∀ term ∈ analyzer.analyze "t-u", term ∈ analyzer.analyze "an tUisce" := by
  have hpart : "t-u".toList <:+: (Locale.irish.lowercase "an tUisce").toList := by
    have hlowercase : Locale.irish.lowercase "an tUisce" = "an t-uisce" := by
      decide +kernel
    rw [hlowercase]
    exact ⟨"an ".toList, "isce".toList, rfl⟩
  obtain ⟨hsame, hwindows, hterms⟩ := (analyze_lowercase .irish 2 "an tUisce").1 "t-u" hpart
  exact ⟨hpart, hsame, hwindows, hterms⟩

end Gram.GramAnalyzer

end GramSieve
