import Bayeux.Text.CombiningClass
import Bayeux.Text.Split

namespace Bayeux
namespace Text

/-!
# Composed text

A letter with marks can be written in several ways.  In composed text the marks stand in
the order of their classes, and a letter and a mark are one character wherever there is
one for them.  Only characters that a name may hold in the end are told here, so there are
no capitals among them.
-/

/-! ## Letters with marks -/

/-- For each mark, the letters that take it, each followed by what the two make. -/
def compositeRows : List (Nat × String) :=
  [
    (0x300, "aà eè iì nǹ oò uù wẁ yỳ âầ êề ôồ üǜ ăằ ēḕ ōṑ ơờ ưừ αὰ εὲ ηὴ ιὶ οὸ υὺ ωὼ ϊῒ"),
    (0x300, "ϋῢ еѐ иѝ ἀἂ ἁἃ ἐἒ ἑἓ ἠἢ ἡἣ ἰἲ ἱἳ ὀὂ ὁὃ ὐὒ ὑὓ ὠὢ ὡὣ"),
    (0x301, "aá cć eé gǵ ií kḱ lĺ mḿ nń oó pṕ rŕ sś uú wẃ yý zź âấ åǻ æǽ çḉ êế ïḯ ôố õṍ"),
    (0x301, "øǿ üǘ ăắ ēḗ ōṓ ũṹ ơớ ưứ αά εέ ηή ιί οό υύ ωώ ϊΐ ϋΰ гѓ кќ ἀἄ ἁἅ ἐἔ ἑἕ ἠἤ ἡἥ"),
    (0x301, "ἰἴ ἱἵ ὀὄ ὁὅ ὐὔ ὑὕ ὠὤ ὡὥ"),
    (0x302, "aâ cĉ eê gĝ hĥ iî jĵ oô sŝ uû wŵ yŷ zẑ ạậ ẹệ ọộ"),
    (0x303, "aã eẽ iĩ nñ oõ uũ vṽ yỹ âẫ êễ ôỗ ăẵ ơỡ ưữ"),
    (0x304, "aā eē gḡ iī oō uū yȳ äǟ æǣ õȭ öȫ üǖ ǫǭ ȧǡ ȯȱ αᾱ ιῑ υῡ иӣ уӯ ḷḹ ṛṝ"),
    (0x306, "aă eĕ gğ iĭ oŏ uŭ ȩḝ αᾰ ιῐ υῠ аӑ еӗ жӂ ий уў ạặ"),
    (0x307, "aȧ bḃ cċ dḋ eė fḟ gġ hḣ mṁ nṅ oȯ pṗ rṙ sṡ tṫ wẇ xẋ yẏ zż śṥ šṧ ṣṩ 𐗒𐗉 𐗚𐗤"),
    (0x308, "aä eë hḧ iï oö tẗ uü wẅ xẍ yÿ õṏ ūṻ ιϊ υϋ аӓ её жӝ зӟ иӥ оӧ уӱ чӵ ыӹ эӭ ії"),
    (0x308, "әӛ өӫ"),
    (0x309, "aả eẻ iỉ oỏ uủ yỷ âẩ êể ôổ ăẳ ơở ưử"),
    (0x30A, "aå uů wẘ yẙ"),
    (0x30B, "oő uű уӳ"),
    (0x30C, "aǎ cč dď eě gǧ hȟ iǐ jǰ kǩ lľ nň oǒ rř sš tť uǔ zž üǚ ʒǯ"),
    (0x30F, "aȁ eȅ iȉ oȍ rȑ uȕ ѵѷ"),
    (0x311, "aȃ eȇ iȋ oȏ rȓ uȗ"),
    (0x313, "αἀ εἐ ηἠ ιἰ οὀ ρῤ υὐ ωὠ"),
    (0x314, "αἁ εἑ ηἡ ιἱ οὁ ρῥ υὑ ωὡ"),
    (0x31B, "oơ uư"),
    (0x323, "aạ bḅ dḍ eẹ hḥ iị kḳ lḷ mṃ nṇ oọ rṛ sṣ tṭ uụ vṿ wẉ yỵ zẓ ơợ ưự"),
    (0x324, "uṳ"),
    (0x325, "aḁ"),
    (0x326, "sș tț"),
    (0x327, "cç dḑ eȩ gģ hḩ kķ lļ nņ rŗ sş tţ"),
    (0x328, "aą eę iį oǫ uų"),
    (0x32D, "dḓ eḙ lḽ nṋ tṱ uṷ"),
    (0x32E, "hḫ"),
    (0x330, "eḛ iḭ uṵ"),
    (0x331, "bḇ dḏ hẖ kḵ lḻ nṉ rṟ tṯ zẕ"),
    (0x338, "<≮ =≠ >≯ ←↚ →↛ ↔↮ ⇐⇍ ⇒⇏ ⇔⇎ ∃∄ ∈∉ ∋∌ ∣∤ ∥∦ ∼≁ ≃≄ ≅≇ ≈≉ ≍≭ ≡≢ ≤≰ ≥≱ ≲≴ ≳≵ ≶≸"),
    (0x338, "≷≹ ≺⊀ ≻⊁ ≼⋠ ≽⋡ ⊂⊄ ⊃⊅ ⊆⊈ ⊇⊉ ⊑⋢ ⊒⋣ ⊢⊬ ⊨⊭ ⊩⊮ ⊫⊯ ⊲⋪ ⊳⋫ ⊴⋬ ⊵⋭"),
    (0x342, "αᾶ ηῆ ιῖ υῦ ωῶ ϊῗ ϋῧ ἀἆ ἁἇ ἠἦ ἡἧ ἰἶ ἱἷ ὐὖ ὑὗ ὠὦ ὡὧ"),
    (0x653, "\u0627\u0622"),
    (0x654, "\u0627\u0623 \u0648\u0624 \u064a\u0626 \u06c1\u06c2 \u06d2\u06d3"),
    (0x654, "\u06d5\u06c0"),
    (0x655, "\u0627\u0625"),
    (0x93C, "नऩ रऱ ळऴ"),
    (0x9BE, "\u09c7\u09cb"),
    (0x9D7, "\u09c7\u09cc"),
    (0xB3E, "\u0b47\u0b4b"),
    (0xB56, "\u0b47\u0b48"),
    (0xB57, "\u0b47\u0b4c"),
    (0xBBE, "\u0bc6\u0bca \u0bc7\u0bcb"),
    (0xBD7, "ஒஔ \u0bc6\u0bcc"),
    (0xC56, "\u0c46\u0c48"),
    (0xCC2, "\u0cc6\u0cca"),
    (0xCD5, "\u0cbf\u0cc0 \u0cc6\u0cc7 \u0cca\u0ccb"),
    (0xCD6, "\u0cc6\u0cc8"),
    (0xD3E, "\u0d46\u0d4a \u0d47\u0d4b"),
    (0xD57, "\u0d46\u0d4c"),
    (0xDCA, "\u0dd9\u0dda \u0ddc\u0ddd"),
    (0xDCF, "\u0dd9\u0ddc"),
    (0xDDF, "\u0dd9\u0dde"),
    (0x102E, "ဥဦ"),
    (0x1B35, "ᬅᬆ ᬇᬈ ᬉᬊ ᬋᬌ ᬍᬎ ᬑᬒ \u1b3a\u1b3b \u1b3c\u1b3d \u1b3e\u1b40 \u1b3f\u1b41"),
    (0x1B35, "\u1b42\u1b43"),
    (0x3099, "うゔ かが きぎ くぐ けげ こご さざ しじ すず せぜ そぞ ただ ちぢ つづ てで とど はば ひび ふぶ へべ ほぼ ゝゞ ウヴ カガ キギ"),
    (0x3099, "クグ ケゲ コゴ サザ シジ スズ セゼ ソゾ タダ チヂ ツヅ テデ トド ハバ ヒビ フブ ヘベ ホボ ワヷ ヰヸ ヱヹ ヲヺ ヽヾ"),
    (0x309A, "はぱ ひぴ ふぷ へぺ ほぽ ハパ ヒピ フプ ヘペ ホポ"),
    (0x110BA, "𑂙𑂚 𑂛𑂜 𑂥𑂫"),
    (0x11127, "𑄱𑄮 𑄲𑄯"),
    (0x1133E, "𑍇𑍋"),
    (0x11357, "𑍇𑍌"),
    (0x113B8, "𑏅𑎸"),
    (0x113BB, "𑎄𑎅"),
    (0x113C2, "𑎋𑎎 𑏅𑏂"),
    (0x113C9, "𑎂𑎃 𑎐𑎑 𑏅𑏉"),
    (0x114B0, "𑒹𑒼"),
    (0x114BA, "𑒹𑒻"),
    (0x114BD, "𑒹𑒾"),
    (0x115AF, "𑖸𑖺 𑖹𑖻"),
    (0x11930, "𑤵𑤸"),
    (0x1611E, "𖄡𖄞"),
    (0x1611F, "𖄦 𖄡𖄦 𖄢𖄧 𖄩𖄤"),
    (0x16120, "𖄨 𖄡𖄨"),
    (0x16129, "𖄡𖄩"),
    (0x16D67, "𖵣𖵩 𖵨𖵧 𖵩𖵪")]

structure Composite where
  letter : Char
  mark : Char
  whole : Char
deriving DecidableEq, Repr

def composites : List Composite :=
  compositeRows.flatMap fun (mark, row) =>
    (splitAll ' ' row.toList).filterMap fun word =>
      match word with
      | [letter, whole] => some { letter, mark := Char.ofNat mark, whole }
      | _ => none

/-! ## Syllables

Korean syllables stand for two or three signs each, in the order of the signs. -/

namespace Syllable

def first : Nat := 0xAC00
def count : Nat := 11172

/-- The signs before the first lead, vowel and tail. -/
def leads : Nat := 0x1100
def vowels : Nat := 0x1161
def tails : Nat := 0x11A7

def parts? (c : Char) : Option (List Char) :=
  if first ≤ c.toNat ∧ c.toNat < first + count then
    let index := c.toNat - first
    let tail := index % 28
    some ([Char.ofNat (leads + index / 588), Char.ofNat (vowels + index % 588 / 28)] ++
      if tail = 0 then [] else [Char.ofNat (tails + tail)])
  else none

/-- The syllable of a lead and a vowel, or of a syllable without a tail and a tail. -/
def join? (a b : Char) : Option Char :=
  let lead := a.toNat - leads
  let vowel := b.toNat - vowels
  let tail := b.toNat - tails
  if leads ≤ a.toNat ∧ lead < 19 ∧ vowels ≤ b.toNat ∧ vowel < 21 then
    some (Char.ofNat (first + (lead * 21 + vowel) * 28))
  else if first ≤ a.toNat ∧ a.toNat < first + count ∧ (a.toNat - first) % 28 = 0 ∧
      tails < b.toNat ∧ tail < 28 then
    some (Char.ofNat (a.toNat + tail))
  else none

end Syllable

/-! ## Composing -/

/-- The character that a letter and a mark make. -/
def join? (letter mark : Char) : Option Char :=
  ((composites.find? fun c => c.letter == letter && c.mark == mark).map (·.whole)).or
    (Syllable.join? letter mark)

/-- A letter and its marks, of which a character holds no more than `depth`. -/
def parts : Nat → Char → List Char
  | 0, c => [c]
  | depth + 1, c =>
    match composites.find? (·.whole == c) with
    | some made => parts depth made.letter ++ [made.mark]
    | none => (Syllable.parts? c).getD [c]

/-- The most marks that one character holds. -/
def mostMarks : Nat := 3

/-- Marks in the order of their classes; marks of one class keep their order. -/
def byClass (marks : List Char) : List Char :=
  marks.mergeSort fun a b => combiningClass a ≤ combiningClass b

/-- Puts the marks after each letter in order. -/
def arrange (marks : List Char) : List Char → List Char
  | [] => byClass marks
  | c :: rest =>
    if combiningClass c = 0 then byClass marks ++ c :: arrange [] rest
    else arrange (marks ++ [c]) rest

/-- Whether the marks in between keep a character from joining the letter. -/
def isBlocked (marks : List Char) (c : Char) : Bool :=
  (marks.getLast?.map fun mark => decide (combiningClass c ≤ combiningClass mark)).getD false

/-- Joins a letter with what follows it; the marks that did not join stand in between. -/
def joinFrom (letter : Char) (marks : List Char) : List Char → List Char
  | [] => letter :: marks
  | c :: rest =>
    match if isBlocked marks c then none else join? letter c with
    | some whole => joinFrom whole marks rest
    | none =>
      if combiningClass c = 0 then letter :: marks ++ joinFrom c [] rest
      else joinFrom letter (marks ++ [c]) rest

/-- Joins every letter with its marks; marks without a letter stay. -/
def joinAll : List Char → List Char
  | [] => []
  | c :: rest => if combiningClass c = 0 then joinFrom c [] rest else c :: joinAll rest

def composed (text : List Char) : List Char :=
  joinAll (arrange [] (text.flatMap (parts mostMarks)))

end Text
end Bayeux
