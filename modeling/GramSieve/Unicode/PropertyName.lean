namespace GramSieve.Unicode

/-!
# Names of properties and of their values

Property names and values may be written in several ways: case, spaces, hyphens, underscores and a
leading `is` do not count, and most names have short forms.

* `looseName` — a written name with everything that does not count removed.
* `propertyNames`, `categoryNames`, `scriptNames`, … — each canonical name with its other forms.
* `canonicalName?` — the canonical name that a loose name stands for.
-/

/-- The letters that count in a written name. A leading `is` is dropped, but the name that is then
just `c` was `isc`, which is a name of its own. -/
def looseName (written : String) : String :=
  let chars := written.toList
  let startsWithIs := match chars with
    | i :: s :: _ => (i == 'i' || i == 'I') && (s == 's' || s == 'S')
    | _ => false
  let body := if startsWithIs then chars.drop 2 else chars
  let kept := (body.filter fun c => c.toNat < 128 && c != ' ' && c != '_' && c != '-').map Char.toLower
  if startsWithIs && kept == ['c'] then "isc" else String.ofList kept

/-- The canonical name in `names` that the loose name `name` stands for. -/
def canonicalName? (names : List (String × List String)) (name : String) : Option String :=
  (names.find? fun entry => looseName entry.1 == name || entry.2.any (looseName · == name)).map (·.1)

/-- Property names with their other forms. -/
def propertyNames : List (String × List String) := [
  ("kAccountingNumeric", ["cjkAccountingNumeric"]), ("kOtherNumeric", ["cjkOtherNumeric"]),
  ("kPrimaryNumeric", ["cjkPrimaryNumeric"]), ("Numeric_Value", ["nv"]),
  ("Bidi_Mirroring_Glyph", ["bmg"]), ("Bidi_Paired_Bracket", ["bpb"]), ("Case_Folding", ["cf"]),
  ("kCompatibilityVariant", ["cjkCompatibilityVariant"]), ("Decomposition_Mapping", ["dm"]),
  ("Equivalent_Unified_Ideograph", ["EqUIdeo"]), ("FC_NFKC_Closure", ["FC_NFKC"]),
  ("Lowercase_Mapping", ["lc"]), ("NFKC_Casefold", ["NFKC_CF"]),
  ("NFKC_Simple_Casefold", ["NFKC_SCF"]), ("Simple_Case_Folding", ["scf", "sfc"]),
  ("Simple_Lowercase_Mapping", ["slc"]), ("Simple_Titlecase_Mapping", ["stc"]),
  ("Simple_Uppercase_Mapping", ["suc"]), ("Titlecase_Mapping", ["tc"]),
  ("Uppercase_Mapping", ["uc"]), ("kIICore", ["cjkIICore"]), ("kIRG_GSource", ["cjkIRG_GSource"]),
  ("kIRG_HSource", ["cjkIRG_HSource"]), ("kIRG_JSource", ["cjkIRG_JSource"]),
  ("kIRG_KPSource", ["cjkIRG_KPSource"]), ("kIRG_KSource", ["cjkIRG_KSource"]),
  ("kIRG_MSource", ["cjkIRG_MSource"]), ("kIRG_SSource", ["cjkIRG_SSource"]),
  ("kIRG_TSource", ["cjkIRG_TSource"]), ("kIRG_UKSource", ["cjkIRG_UKSource"]),
  ("kIRG_USource", ["cjkIRG_USource"]), ("kIRG_VSource", ["cjkIRG_VSource"]),
  ("kRSUnicode", ["cjkRSUnicode", "Unicode_Radical_Stroke", "URS"]), ("kEH_Cat", []),
  ("kEH_Desc", []), ("kEH_HG", []), ("kEH_IFAO", []), ("kEH_JSesh", []), ("ISO_Comment", ["isc"]),
  ("Jamo_Short_Name", ["JSN"]), ("Name", ["na"]), ("Unicode_1_Name", ["na1"]), ("Name_Alias", []),
  ("Script_Extensions", ["scx"]), ("Age", []), ("Block", ["blk"]), ("Script", ["sc"]),
  ("Bidi_Class", ["bc"]), ("Bidi_Paired_Bracket_Type", ["bpt"]),
  ("Canonical_Combining_Class", ["ccc"]), ("Decomposition_Type", ["dt"]),
  ("East_Asian_Width", ["ea"]), ("General_Category", ["gc"]), ("Grapheme_Cluster_Break", ["GCB"]),
  ("Hangul_Syllable_Type", ["hst"]), ("Indic_Conjunct_Break", ["InCB"]),
  ("Indic_Positional_Category", ["InPC"]), ("Indic_Syllabic_Category", ["InSC"]),
  ("Joining_Group", ["jg"]), ("Joining_Type", ["jt"]), ("Line_Break", ["lb"]),
  ("NFC_Quick_Check", ["NFC_QC"]), ("NFD_Quick_Check", ["NFD_QC"]),
  ("NFKC_Quick_Check", ["NFKC_QC"]), ("NFKD_Quick_Check", ["NFKD_QC"]), ("Numeric_Type", ["nt"]),
  ("Sentence_Break", ["SB"]), ("Vertical_Orientation", ["vo"]), ("Word_Break", ["WB"]),
  ("ASCII_Hex_Digit", ["AHex"]), ("Alphabetic", ["Alpha"]), ("Bidi_Control", ["Bidi_C"]),
  ("Bidi_Mirrored", ["Bidi_M"]), ("Cased", []), ("Composition_Exclusion", ["CE"]),
  ("Case_Ignorable", ["CI"]), ("Full_Composition_Exclusion", ["Comp_Ex"]),
  ("Changes_When_Casefolded", ["CWCF"]), ("Changes_When_Casemapped", ["CWCM"]),
  ("Changes_When_NFKC_Casefolded", ["CWKCF"]), ("Changes_When_Lowercased", ["CWL"]),
  ("Changes_When_Titlecased", ["CWT"]), ("Changes_When_Uppercased", ["CWU"]), ("Dash", []),
  ("Deprecated", ["Dep"]), ("Default_Ignorable_Code_Point", ["DI"]), ("Diacritic", ["Dia"]),
  ("Emoji_Modifier_Base", ["EBase"]), ("Emoji_Component", ["EComp"]), ("Emoji_Modifier", ["EMod"]),
  ("Emoji", []), ("Emoji_Presentation", ["EPres"]), ("Extender", ["Ext"]),
  ("Extended_Pictographic", ["ExtPict"]), ("Grapheme_Base", ["Gr_Base"]),
  ("Grapheme_Extend", ["Gr_Ext"]), ("Grapheme_Link", ["Gr_Link"]), ("Hex_Digit", ["Hex"]),
  ("Hyphen", []), ("ID_Compat_Math_Continue", []), ("ID_Compat_Math_Start", []),
  ("ID_Continue", ["IDC"]), ("Ideographic", ["Ideo"]), ("ID_Start", ["IDS"]),
  ("IDS_Binary_Operator", ["IDSB"]), ("IDS_Trinary_Operator", ["IDST"]),
  ("IDS_Unary_Operator", ["IDSU"]), ("Join_Control", ["Join_C"]), ("kEH_Core", []),
  ("kEH_NoMirror", []), ("kEH_NoRotate", []), ("Logical_Order_Exception", ["LOE"]),
  ("Lowercase", ["Lower"]), ("Math", []), ("Modifier_Combining_Mark", ["MCM"]),
  ("Noncharacter_Code_Point", ["NChar"]), ("Other_Alphabetic", ["OAlpha"]),
  ("Other_Default_Ignorable_Code_Point", ["ODI"]), ("Other_Grapheme_Extend", ["OGr_Ext"]),
  ("Other_ID_Continue", ["OIDC"]), ("Other_ID_Start", ["OIDS"]), ("Other_Lowercase", ["OLower"]),
  ("Other_Math", ["OMath"]), ("Other_Uppercase", ["OUpper"]), ("Pattern_Syntax", ["Pat_Syn"]),
  ("Pattern_White_Space", ["Pat_WS"]), ("Prepended_Concatenation_Mark", ["PCM"]),
  ("Quotation_Mark", ["QMark"]), ("Radical", []), ("Regional_Indicator", ["RI"]),
  ("Soft_Dotted", ["SD"]), ("Sentence_Terminal", ["STerm"]), ("Terminal_Punctuation", ["Term"]),
  ("Unified_Ideograph", ["UIdeo"]), ("Uppercase", ["Upper"]), ("Variation_Selector", ["VS"]),
  ("White_Space", ["WSpace", "space"]), ("XID_Continue", ["XIDC"]), ("XID_Start", ["XIDS"]),
  ("Expands_On_NFC", ["XO_NFC"]), ("Expands_On_NFD", ["XO_NFD"]), ("Expands_On_NFKC", ["XO_NFKC"]),
  ("Expands_On_NFKD", ["XO_NFKD"])]

/-- General categories with their other forms. -/
def categoryNames : List (String × List String) := [
  ("Other", ["C"]), ("Control", ["Cc", "cntrl"]), ("Format", ["Cf"]), ("Unassigned", ["Cn"]),
  ("Private_Use", ["Co"]), ("Surrogate", ["Cs"]), ("Letter", ["L"]), ("Cased_Letter", ["LC"]),
  ("Lowercase_Letter", ["Ll"]), ("Modifier_Letter", ["Lm"]), ("Other_Letter", ["Lo"]),
  ("Titlecase_Letter", ["Lt"]), ("Uppercase_Letter", ["Lu"]), ("Mark", ["M", "Combining_Mark"]),
  ("Spacing_Mark", ["Mc"]), ("Enclosing_Mark", ["Me"]), ("Nonspacing_Mark", ["Mn"]),
  ("Number", ["N"]), ("Decimal_Number", ["Nd", "digit"]), ("Letter_Number", ["Nl"]),
  ("Other_Number", ["No"]), ("Punctuation", ["P", "punct"]), ("Connector_Punctuation", ["Pc"]),
  ("Dash_Punctuation", ["Pd"]), ("Close_Punctuation", ["Pe"]), ("Final_Punctuation", ["Pf"]),
  ("Initial_Punctuation", ["Pi"]), ("Other_Punctuation", ["Po"]), ("Open_Punctuation", ["Ps"]),
  ("Symbol", ["S"]), ("Currency_Symbol", ["Sc"]), ("Modifier_Symbol", ["Sk"]),
  ("Math_Symbol", ["Sm"]), ("Other_Symbol", ["So"]), ("Separator", ["Z"]),
  ("Line_Separator", ["Zl"]), ("Paragraph_Separator", ["Zp"]), ("Space_Separator", ["Zs"])]

/-- Scripts with their other forms. -/
def scriptNames : List (String × List String) := [
  ("Adlam", ["Adlm"]), ("Ahom", []), ("Anatolian_Hieroglyphs", ["Hluw"]), ("Arabic", ["Arab"]),
  ("Armenian", ["Armn"]), ("Avestan", ["Avst"]), ("Balinese", ["Bali"]), ("Bamum", ["Bamu"]),
  ("Bassa_Vah", ["Bass"]), ("Batak", ["Batk"]), ("Bengali", ["Beng"]), ("Bhaiksuki", ["Bhks"]),
  ("Bopomofo", ["Bopo"]), ("Brahmi", ["Brah"]), ("Braille", ["Brai"]), ("Buginese", ["Bugi"]),
  ("Buhid", ["Buhd"]), ("Canadian_Aboriginal", ["Cans"]), ("Carian", ["Cari"]),
  ("Caucasian_Albanian", ["Aghb"]), ("Chakma", ["Cakm"]), ("Cham", []), ("Cherokee", ["Cher"]),
  ("Chorasmian", ["Chrs"]), ("Common", ["Zyyy"]), ("Coptic", ["Copt", "Qaac"]),
  ("Cuneiform", ["Xsux"]), ("Cypriot", ["Cprt"]), ("Cypro_Minoan", ["Cpmn"]),
  ("Cyrillic", ["Cyrl"]), ("Deseret", ["Dsrt"]), ("Devanagari", ["Deva"]),
  ("Dives_Akuru", ["Diak"]), ("Dogra", ["Dogr"]), ("Duployan", ["Dupl"]),
  ("Egyptian_Hieroglyphs", ["Egyp"]), ("Elbasan", ["Elba"]), ("Elymaic", ["Elym"]),
  ("Ethiopic", ["Ethi"]), ("Garay", ["Gara"]), ("Georgian", ["Geor"]), ("Glagolitic", ["Glag"]),
  ("Gothic", ["Goth"]), ("Grantha", ["Gran"]), ("Greek", ["Grek"]), ("Gujarati", ["Gujr"]),
  ("Gunjala_Gondi", ["Gong"]), ("Gurmukhi", ["Guru"]), ("Gurung_Khema", ["Gukh"]),
  ("Han", ["Hani"]), ("Hangul", ["Hang"]), ("Hanifi_Rohingya", ["Rohg"]), ("Hanunoo", ["Hano"]),
  ("Hatran", ["Hatr"]), ("Hebrew", ["Hebr"]), ("Hiragana", ["Hira"]),
  ("Imperial_Aramaic", ["Armi"]), ("Inherited", ["Zinh", "Qaai"]),
  ("Inscriptional_Pahlavi", ["Phli"]), ("Inscriptional_Parthian", ["Prti"]),
  ("Javanese", ["Java"]), ("Kaithi", ["Kthi"]), ("Kannada", ["Knda"]), ("Katakana", ["Kana"]),
  ("Katakana_Or_Hiragana", ["Hrkt"]), ("Kawi", []), ("Kayah_Li", ["Kali"]),
  ("Kharoshthi", ["Khar"]), ("Khitan_Small_Script", ["Kits"]), ("Khmer", ["Khmr"]),
  ("Khojki", ["Khoj"]), ("Khudawadi", ["Sind"]), ("Kirat_Rai", ["Krai"]), ("Lao", ["Laoo"]),
  ("Latin", ["Latn"]), ("Lepcha", ["Lepc"]), ("Limbu", ["Limb"]), ("Linear_A", ["Lina"]),
  ("Linear_B", ["Linb"]), ("Lisu", []), ("Lycian", ["Lyci"]), ("Lydian", ["Lydi"]),
  ("Mahajani", ["Mahj"]), ("Makasar", ["Maka"]), ("Malayalam", ["Mlym"]), ("Mandaic", ["Mand"]),
  ("Manichaean", ["Mani"]), ("Marchen", ["Marc"]), ("Masaram_Gondi", ["Gonm"]),
  ("Medefaidrin", ["Medf"]), ("Meetei_Mayek", ["Mtei"]), ("Mende_Kikakui", ["Mend"]),
  ("Meroitic_Cursive", ["Merc"]), ("Meroitic_Hieroglyphs", ["Mero"]), ("Miao", ["Plrd"]),
  ("Modi", []), ("Mongolian", ["Mong"]), ("Mro", ["Mroo"]), ("Multani", ["Mult"]),
  ("Myanmar", ["Mymr"]), ("Nabataean", ["Nbat"]), ("Nag_Mundari", ["Nagm"]),
  ("Nandinagari", ["Nand"]), ("New_Tai_Lue", ["Talu"]), ("Newa", []), ("Nko", ["Nkoo"]),
  ("Nushu", ["Nshu"]), ("Nyiakeng_Puachue_Hmong", ["Hmnp"]), ("Ogham", ["Ogam"]),
  ("Ol_Chiki", ["Olck"]), ("Ol_Onal", ["Onao"]), ("Old_Hungarian", ["Hung"]),
  ("Old_Italic", ["Ital"]), ("Old_North_Arabian", ["Narb"]), ("Old_Permic", ["Perm"]),
  ("Old_Persian", ["Xpeo"]), ("Old_Sogdian", ["Sogo"]), ("Old_South_Arabian", ["Sarb"]),
  ("Old_Turkic", ["Orkh"]), ("Old_Uyghur", ["Ougr"]), ("Oriya", ["Orya"]), ("Osage", ["Osge"]),
  ("Osmanya", ["Osma"]), ("Pahawh_Hmong", ["Hmng"]), ("Palmyrene", ["Palm"]),
  ("Pau_Cin_Hau", ["Pauc"]), ("Phags_Pa", ["Phag"]), ("Phoenician", ["Phnx"]),
  ("Psalter_Pahlavi", ["Phlp"]), ("Rejang", ["Rjng"]), ("Runic", ["Runr"]),
  ("Samaritan", ["Samr"]), ("Saurashtra", ["Saur"]), ("Sharada", ["Shrd"]), ("Shavian", ["Shaw"]),
  ("Siddham", ["Sidd"]), ("SignWriting", ["Sgnw"]), ("Sinhala", ["Sinh"]), ("Sogdian", ["Sogd"]),
  ("Sora_Sompeng", ["Sora"]), ("Soyombo", ["Soyo"]), ("Sundanese", ["Sund"]),
  ("Sunuwar", ["Sunu"]), ("Syloti_Nagri", ["Sylo"]), ("Syriac", ["Syrc"]), ("Tagalog", ["Tglg"]),
  ("Tagbanwa", ["Tagb"]), ("Tai_Le", ["Tale"]), ("Tai_Tham", ["Lana"]), ("Tai_Viet", ["Tavt"]),
  ("Takri", ["Takr"]), ("Tamil", ["Taml"]), ("Tangsa", ["Tnsa"]), ("Tangut", ["Tang"]),
  ("Telugu", ["Telu"]), ("Thaana", ["Thaa"]), ("Thai", []), ("Tibetan", ["Tibt"]),
  ("Tifinagh", ["Tfng"]), ("Tirhuta", ["Tirh"]), ("Todhri", ["Todr"]), ("Toto", []),
  ("Tulu_Tigalari", ["Tutg"]), ("Ugaritic", ["Ugar"]), ("Unknown", ["Zzzz"]), ("Vai", ["Vaii"]),
  ("Vithkuqi", ["Vith"]), ("Wancho", ["Wcho"]), ("Warang_Citi", ["Wara"]), ("Yezidi", ["Yezi"]),
  ("Yi", ["Yiii"]), ("Zanabazar_Square", ["Zanb"])]

/-- Grapheme cluster classes with their other forms. -/
def graphemeBreakNames : List (String × List String) := [
  ("Control", ["CN"]), ("CR", []), ("E_Base", ["EB"]), ("E_Base_GAZ", ["EBG"]),
  ("E_Modifier", ["EM"]), ("Extend", ["EX"]), ("Glue_After_Zwj", ["GAZ"]), ("L", []), ("LF", []),
  ("LV", []), ("LVT", []), ("Prepend", ["PP"]), ("Regional_Indicator", ["RI"]),
  ("SpacingMark", ["SM"]), ("T", []), ("V", []), ("Other", ["XX"]), ("ZWJ", [])]

/-- Word classes with their other forms. -/
def wordBreakNames : List (String × List String) := [
  ("CR", []), ("Double_Quote", ["DQ"]), ("E_Base", ["EB"]), ("E_Base_GAZ", ["EBG"]),
  ("E_Modifier", ["EM"]), ("ExtendNumLet", ["EX"]), ("Extend", []), ("Format", ["FO"]),
  ("Glue_After_Zwj", ["GAZ"]), ("Hebrew_Letter", ["HL"]), ("Katakana", ["KA"]),
  ("ALetter", ["LE"]), ("LF", []), ("MidNumLet", ["MB"]), ("MidLetter", ["ML"]),
  ("MidNum", ["MN"]), ("Newline", ["NL"]), ("Numeric", ["NU"]), ("Regional_Indicator", ["RI"]),
  ("Single_Quote", ["SQ"]), ("WSegSpace", []), ("Other", ["XX"]), ("ZWJ", [])]

/-- Sentence classes with their other forms. -/
def sentenceBreakNames : List (String × List String) := [
  ("ATerm", ["AT"]), ("Close", ["CL"]), ("CR", []), ("Extend", ["EX"]), ("Format", ["FO"]),
  ("OLetter", ["LE"]), ("LF", []), ("Lower", ["LO"]), ("Numeric", ["NU"]), ("SContinue", ["SC"]),
  ("Sep", ["SE"]), ("Sp", ["SP"]), ("STerm", ["ST"]), ("Upper", ["UP"]), ("Other", ["XX"])]

end GramSieve.Unicode
