import DiagramAssist.Address.Escape
import DiagramAssist.Text.CodeRange

/-! # Composition of characters

A letter with a mark can be written as one character or as two. The normal form has marks of
different places in a fixed order and then as few characters as possible. Only characters that are
images of others in a domain name are considered, so letters are in lower case. The syllables of
Hangul are put together by calculation, all other characters by a table.
-/

namespace DiagramAssist.Address.Domain

/-- Characters put together from two: the code point of the second one, and words of the first one
and the result. -/
def compositionRows : List (Nat × String) :=
  [(0x300, "aà eè iì nǹ oò uù wẁ yỳ âầ êề ôồ üǜ ăằ ēḕ ōṑ ơờ ưừ αὰ εὲ ηὴ ιὶ οὸ υὺ ωὼ ϊῒ ϋῢ еѐ иѝ"),
    (0x300, "ἀἂ ἁἃ ἐἒ ἑἓ ἠἢ ἡἣ ἰἲ ἱἳ ὀὂ ὁὃ ὐὒ ὑὓ ὠὢ ὡὣ"),
    (0x301, "aá cć eé gǵ ií kḱ lĺ mḿ nń oó pṕ rŕ sś uú wẃ yý zź âấ åǻ æǽ çḉ êế ïḯ ôố õṍ øǿ üǘ ăắ"),
    (0x301, "ēḗ ōṓ ũṹ ơớ ưứ αά εέ ηή ιί οό υύ ωώ ϊΐ ϋΰ гѓ кќ ἀἄ ἁἅ ἐἔ ἑἕ ἠἤ ἡἥ ἰἴ ἱἵ ὀὄ ὁὅ ὐὔ ὑὕ"),
    (0x301, "ὠὤ ὡὥ"), (0x302, "aâ cĉ eê gĝ hĥ iî jĵ oô sŝ uû wŵ yŷ zẑ ạậ ẹệ ọộ"),
    (0x303, "aã eẽ iĩ nñ oõ uũ vṽ yỹ âẫ êễ ôỗ ăẵ ơỡ ưữ"),
    (0x304, "aā eē gḡ iī oō uū yȳ äǟ æǣ õȭ öȫ üǖ ǫǭ ȧǡ ȯȱ αᾱ ιῑ υῡ иӣ уӯ ḷḹ ṛṝ"),
    (0x306, "aă eĕ gğ iĭ oŏ uŭ ȩḝ αᾰ ιῐ υῠ аӑ еӗ жӂ ий уў ạặ"),
    (0x307, "aȧ bḃ cċ dḋ eė fḟ gġ hḣ mṁ nṅ oȯ pṗ rṙ sṡ tṫ wẇ xẋ yẏ zż śṥ šṧ ṣṩ 𐗒𐗉 𐗚𐗤"),
    (0x308, "aä eë hḧ iï oö tẗ uü wẅ xẍ yÿ õṏ ūṻ ιϊ υϋ аӓ её жӝ зӟ иӥ оӧ уӱ чӵ ыӹ эӭ ії әӛ өӫ"),
    (0x309, "aả eẻ iỉ oỏ uủ yỷ âẩ êể ôổ ăẳ ơở ưử"), (0x30A, "aå uů wẘ yẙ"), (0x30B, "oő uű уӳ"),
    (0x30C, "aǎ cč dď eě gǧ hȟ iǐ jǰ kǩ lľ nň oǒ rř sš tť uǔ zž üǚ ʒǯ"),
    (0x30F, "aȁ eȅ iȉ oȍ rȑ uȕ ѵѷ"), (0x311, "aȃ eȇ iȋ oȏ rȓ uȗ"),
    (0x313, "αἀ εἐ ηἠ ιἰ οὀ ρῤ υὐ ωὠ"), (0x314, "αἁ εἑ ηἡ ιἱ οὁ ρῥ υὑ ωὡ"), (0x31B, "oơ uư"),
    (0x323, "aạ bḅ dḍ eẹ hḥ iị kḳ lḷ mṃ nṇ oọ rṛ sṣ tṭ uụ vṿ wẉ yỵ zẓ ơợ ưự"), (0x324, "uṳ"),
    (0x325, "aḁ"), (0x326, "sș tț"), (0x327, "cç dḑ eȩ gģ hḩ kķ lļ nņ rŗ sş tţ"),
    (0x328, "aą eę iį oǫ uų"), (0x32D, "dḓ eḙ lḽ nṋ tṱ uṷ"), (0x32E, "hḫ"), (0x330, "eḛ iḭ uṵ"),
    (0x331, "bḇ dḏ hẖ kḵ lḻ nṉ rṟ tṯ zẕ"),
    (0x338, "<≮ =≠ >≯ ←↚ →↛ ↔↮ ⇐⇍ ⇒⇏ ⇔⇎ ∃∄ ∈∉ ∋∌ ∣∤ ∥∦ ∼≁ ≃≄ ≅≇ ≈≉ ≍≭ ≡≢ ≤≰ ≥≱ ≲≴ ≳≵ ≶≸ ≷≹ ≺⊀ ≻⊁"),
    (0x338, "≼⋠ ≽⋡ ⊂⊄ ⊃⊅ ⊆⊈ ⊇⊉ ⊑⋢ ⊒⋣ ⊢⊬ ⊨⊭ ⊩⊮ ⊫⊯ ⊲⋪ ⊳⋫ ⊴⋬ ⊵⋭"),
    (0x342, "αᾶ ηῆ ιῖ υῦ ωῶ ϊῗ ϋῧ ἀἆ ἁἇ ἠἦ ἡἧ ἰἶ ἱἷ ὐὖ ὑὗ ὠὦ ὡὧ"), (0x653, "اآ"),
    (0x654, "اأ وؤ يئ ہۂ ےۓ ەۀ"), (0x655, "اإ"), (0x93C, "नऩ रऱ ळऴ"), (0x9BE, "\u09c7\u09cb"),
    (0x9D7, "\u09c7\u09cc"), (0xB3E, "\u0b47\u0b4b"), (0xB56, "\u0b47\u0b48"),
    (0xB57, "\u0b47\u0b4c"), (0xBBE, "\u0bc6\u0bca \u0bc7\u0bcb"), (0xBD7, "ஒஔ \u0bc6\u0bcc"),
    (0xC56, "\u0c46\u0c48"), (0xCC2, "\u0cc6\u0cca"),
    (0xCD5, "\u0cbf\u0cc0 \u0cc6\u0cc7 \u0cca\u0ccb"), (0xCD6, "\u0cc6\u0cc8"),
    (0xD3E, "\u0d46\u0d4a \u0d47\u0d4b"), (0xD57, "\u0d46\u0d4c"),
    (0xDCA, "\u0dd9\u0dda \u0ddc\u0ddd"), (0xDCF, "\u0dd9\u0ddc"), (0xDDF, "\u0dd9\u0dde"),
    (0x102E, "ဥဦ"),
    (0x1B35, "ᬅᬆ ᬇᬈ ᬉᬊ ᬋᬌ ᬍᬎ ᬑᬒ \u1b3a\u1b3b \u1b3c\u1b3d \u1b3e\u1b40 \u1b3f\u1b41 \u1b42\u1b43"),
    (0x3099, "うゔ かが きぎ くぐ けげ こご さざ しじ すず せぜ そぞ ただ ちぢ つづ てで とど はば ひび ふぶ へべ ほぼ ゝゞ ウヴ カガ キギ クグ ケゲ コゴ"),
    (0x3099, "サザ シジ スズ セゼ ソゾ タダ チヂ ツヅ テデ トド ハバ ヒビ フブ ヘベ ホボ ワヷ ヰヸ ヱヹ ヲヺ ヽヾ"),
    (0x309A, "はぱ ひぴ ふぷ へぺ ほぽ ハパ ヒピ フプ ヘペ ホポ"), (0x110BA, "𑂙𑂚 𑂛𑂜 𑂥𑂫"), (0x11127, "𑄱𑄮 𑄲𑄯"),
    (0x1133E, "𑍇𑍋"), (0x11357, "𑍇𑍌"), (0x113B8, "𑏅𑎸"), (0x113BB, "𑎄𑎅"), (0x113C2, "𑎋𑎎 𑏅𑏂"),
    (0x113C9, "𑎂𑎃 𑎐𑎑 𑏅𑏉"), (0x114B0, "𑒹𑒼"), (0x114BA, "𑒹𑒻"), (0x114BD, "𑒹𑒾"), (0x115AF, "𑖸𑖺 𑖹𑖻"),
    (0x11930, "𑤵𑤸"), (0x1611E, "𖄡𖄞"), (0x1611F, "𖄦 𖄡𖄦 𖄢𖄧 𖄩𖄤"), (0x16120, "𖄨 𖄡𖄨"), (0x16129, "𖄡𖄩"),
    (0x16D67, "𖵣𖵩 𖵨𖵧 𖵩𖵪")]

/-- Characters put together from two: the result, the first and the second. -/
def compositions : List (Char × Char × Char) :=
  compositionRows.flatMap fun (second, row) =>
    (pieces (· == ' ') row.toList).filterMap fun
      | [first, result] => some (result, first, Char.ofNat second)
      | _ => none

/-- Where marks stand: a number for each place, and the marks of that place. -/
def placeRows : List (Nat × String) :=
  [(1, "334..338 1CD4 1CE2..1CE8 20D2..20D3 20D8..20DA 20E5..20E6 20EA..20EB 10A39 16AF0..16AF4
      1BC9E 1D167..1D169"),
    (6, "16FF0..16FF1"),
    (7, "93C 9BC A3C ABC B3C C3C CBC 1037 1B34 1BE6 1C37 A9B3 110BA 11173 111CA 11236 112E9
      1133B..1133C 11446 114C3 115C0 116B7 1183A 11943 11D42 1E94A"),
    (8, "3099..309A"),
    (9, "94D 9CD A4D ACD B4D BCD C4D CCD D3B..D3C D4D DCA E3A EBA F84 1039..103A 1714..1715 1734
      17D2 1A60 1B44 1BAA..1BAB 1BF2..1BF3 2D7F A806 A82C A8C4 A953 A9C0 AAF6 ABED 10A3F
      11046 11070 1107F 110B9 11133..11134 111C0 11235 112EA 1134D 113CE..113D0 11442
      114C2 115BF 1163F 116B6 1172B 11839 1193D..1193E 119E0 11A34 11A47 11A99 11C3F
      11D44..11D45 11D97 11F41..11F42 1612F"),
    (10, "5B0"), (11, "5B1"), (12, "5B2"), (13, "5B3"), (14, "5B4"), (15, "5B5"), (16, "5B6"),
    (17, "5B7"), (18, "5B8 5C7"), (19, "5B9..5BA"), (20, "5BB"), (21, "5BC"), (22, "5BD"),
    (23, "5BF"), (24, "5C1"), (25, "5C2"), (26, "FB1E"), (27, "64B 8F0"), (28, "64C 8F1"),
    (29, "64D 8F2"), (30, "618 64E"), (31, "619 64F"), (32, "61A 650"), (33, "651"), (34, "652"),
    (35, "670"), (36, "711"), (84, "C55"), (91, "C56"), (103, "E38..E39"), (107, "E48..E4B"),
    (118, "EB8..EB9"), (122, "EC8..ECB"), (129, "F71"), (130, "F72 F7A..F7D F80"), (132, "F74"),
    (202, "321..322 327..328 1DD0"), (214, "1DCE"), (216, "31B F39 1D165..1D166 1D16E..1D172"),
    (218, "1DFA 302A"),
    (220, "316..319 31C..320 323..326 329..333 339..33C 347..349 34D..34E 353..356 359..35A 591 596
      59B 5A2..5A7 5AA 5C5 655..656 65C 65F 6E3 6EA 6ED 731 734 737..739 73B..73C 73E 742
      744 746 748 7F2 7FD 859..85B 899..89B 8CF..8D3 8E3 8E6 8E9 8ED..8EF 8F6 8F9..8FA 952
      F18..F19 F35 F37 FC6 108D 193B 1A18 1A7F 1AB5..1ABA 1ABD 1ABF..1AC0 1AC3..1AC4 1ACA
      1ADD 1AE6 1B6C 1CD5..1CD9 1CDC..1CDF 1CED 1DC2 1DCA 1DCF 1DF9 1DFD 1DFF 20E8
      20EC..20EF A92B..A92D AAB4 FE27..FE2D 101FD 102E0 10A0D 10A3A 10AE6 10EFA..10EFB
      10EFD..10EFF 10F46..10F47 10F4B 10F4D..10F50 10F83 10F85 1D17B..1D182 1D18A..1D18B
      1E4EE 1E5EF 1E8D0..1E8D6"),
    (222, "59A 5AD 1939 302D"), (224, "302E..302F"), (226, "1D16D"),
    (228, "5AE 18A9 1DF7..1DF8 302B"),
    (230, "300..314 33D..346 34A..34C 350..352 357 35B 363..36F 483..487 592..595 597..599 59C..5A1
      5A8..5A9 5AB..5AC 5AF 5C4 610..617 653..654 657..65B 65D..65E 6D6..6DC 6DF..6E2 6E4
      6E7..6E8 6EB..6EC 730 732..733 735..736 73A 73D 73F..741 743 745 747 749..74A
      7EB..7F1 7F3 816..819 81B..823 825..827 829..82D 897..898 89C..89F 8CA..8CE 8D4..8E1
      8E4..8E5 8E7..8E8 8EA..8EC 8F3..8F5 8F7..8F8 8FB..8FF 951 953..954 9FE F82..F83
      F86..F87 135D..135F 17DD 193A 1A17 1A75..1A7C 1AB0..1AB4 1ABB..1ABC 1AC1..1AC2
      1AC5..1AC9 1ACB..1ADC 1AE0..1AE5 1AE7..1AEA 1B6B 1B6D..1B73 1CD0..1CD2 1CDA..1CDB
      1CE0 1CF4 1CF8..1CF9 1DC0..1DC1 1DC3..1DC9 1DCB..1DCC 1DD1..1DF5 1DFB 1DFE
      20D0..20D1 20D4..20D7 20DB..20DC 20E1 20E7 20E9 20F0 2CEF..2CF1 2DE0..2DFF A66F
      A674..A67D A69E..A69F A6F0..A6F1 A8E0..A8F1 AAB0 AAB2..AAB3 AAB7..AAB8 AABE..AABF
      AAC1 FE20..FE26 FE2E..FE2F 10376..1037A 10A0F 10A38 10AE5 10D24..10D27 10D69..10D6D
      10EAB..10EAC 10F48..10F4A 10F4C 10F82 10F84 11100..11102 11366..11374 1145E
      16B30..16B36 1D185..1D189 1D1AA..1D1AD 1D242..1D244 1E000..1E08F 1E130..1E136 1E2AE
      1E2EC..1E2EF 1E4EF 1E5EE 1E6E3 1E6E6 1E6EE..1E6EF 1E6F5 1E944..1E949"),
    (232, "315 31A 358 1DF6 302C 1E4EC..1E4ED"), (233, "35C 35F 362 1DFC"),
    (234, "35D..35E 360..361 1AEB 1DCD")]

/-- The rows, read. -/
def placeTable : List (Nat × Text.CharClass) :=
  placeRows.map fun (place, row) => (place, .ofTable row)

/-- The place of a mark; zero for a character that starts a new unit. -/
def place (c : Char) : Nat :=
  ((placeTable.find? fun (_, marks) => marks.contains c).map (·.1)).getD 0

/-- The place of the marks that join consonants, which is that of a virama. -/
def viramaPlace : Nat := 9

namespace Hangul

def syllables : Nat := 0xAC00

/-- The code point of the first leading consonant. -/
def leads : Nat := 0x1100

def vowels : Nat := 0x1161

/-- The code point before that of the first trailing consonant. -/
def tails : Nat := 0x11A7

/-- The letters of a syllable. -/
def split? (c : Char) : Option Chars :=
  let index := c.toNat - syllables
  if c.toNat < syllables || 19 * 21 * 28 ≤ index then none
  else
    let start := [Char.ofNat (leads + index / (21 * 28)), Char.ofNat (vowels + index / 28 % 21)]
    some (if index % 28 = 0 then start else start ++ [Char.ofNat (tails + index % 28)])

/-- The syllable of a leading consonant and a vowel, or of such a syllable and a trailing consonant.
-/
def join? (first second : Char) : Option Char :=
  let lead := first.toNat - leads
  let vowel := second.toNat - vowels
  let index := first.toNat - syllables
  let tail := second.toNat - tails
  if leads ≤ first.toNat && lead < 19 && vowels ≤ second.toNat && vowel < 21 then
    some (Char.ofNat (syllables + (lead * 21 + vowel) * 28))
  else if syllables ≤ first.toNat && index < 19 * 21 * 28 && index % 28 = 0 &&
      tails < second.toNat && tail < 28 then
    some (Char.ofNat (first.toNat + tail))
  else none

end Hangul

/-- The character put together from two. -/
def join? (first second : Char) : Option Char :=
  match Hangul.join? first second with
  | some syllable => some syllable
  | none => (compositions.find? fun (_, a, b) => a = first && b = second).map (·.1)

/-- The parts of a character, taken apart at most `bound` times. -/
def split : (bound : Nat) → Char → Chars
  | 0, c => [c]
  | bound + 1, c =>
    match Hangul.split? c with
    | some letters => letters
    | none =>
      match compositions.find? (·.1 = c) with
      | some (_, first, second) => split bound first ++ [second]
      | none => [c]

/-- How often a character is taken apart at most. -/
def maxParts : Nat := 4

/-- Puts a mark behind the marks whose places do not come after its own; `marks` has the last one
first. -/
def insertMark (c : Char) : (marks : Chars) → Chars
  | [] => [c]
  | last :: before =>
    if place c < place last then last :: insertMark c before else c :: last :: before

/-- Puts the marks behind every character into the order of their places; `marks` are those read
since the last character that starts a unit, the last one first. -/
def order (marks : Chars) : Chars → Chars
  | [] => marks.reverse
  | c :: rest =>
    if place c = 0 then marks.reverse ++ c :: order [] rest else order (insertMark c marks) rest

/-- Puts together what follows the character `start`; `passed` are the marks that did not join it,
the last one first. A mark joins only if no mark of its own place or a later one stands between. -/
def joinFrom (start : Char) (passed : Chars) : Chars → Chars
  | [] => start :: passed.reverse
  | c :: rest =>
    let isFree := passed.head?.all fun last => place last < place c
    match if isFree then join? start c else none with
    | some joined => joinFrom joined passed rest
    | none =>
      if place c = 0 then start :: passed.reverse ++ joinFrom c [] rest
      else joinFrom start (c :: passed) rest

/-- Puts together a text whose marks are in order. -/
def joinAll : Chars → Chars
  | [] => []
  | c :: rest => if place c = 0 then joinFrom c [] rest else c :: joinAll rest

/-- The normal form of a text. -/
def compose (text : Chars) : Chars :=
  joinAll (order [] (text.flatMap (split maxParts)))

end DiagramAssist.Address.Domain
