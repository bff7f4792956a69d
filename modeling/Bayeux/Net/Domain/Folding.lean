import Bayeux.Text.Split
import Bayeux.Text.Visibility

namespace Bayeux
namespace Net
namespace Domain

/-!
# Folded names

Names of hosts do not tell capitals from small letters, nor a character from the ways in
which older sets of characters had it.  Folding replaces each character by the one form
that a name is written in; some characters are left out, and some are refused.
-/

/-! ## Forms -/

/-- Characters at equal steps whose forms are at the same steps: the first and the last of
them, the step, and the form of the first. -/
def foldedRuns : List (Nat × Nat × Nat × Nat) :=
  [
    (0xC0, 0xD6, 1, 0xE0), (0xD8, 0xDE, 1, 0xF8), (0x100, 0x12E, 2, 0x101),
    (0x141, 0x147, 2, 0x142), (0x14A, 0x176, 2, 0x14B), (0x1CD, 0x1DB, 2, 0x1CE),
    (0x1DE, 0x1EE, 2, 0x1DF), (0x1F8, 0x21E, 2, 0x1F9), (0x222, 0x232, 2, 0x223),
    (0x246, 0x24E, 2, 0x247), (0x391, 0x3A1, 1, 0x3B1), (0x3A3, 0x3AB, 1, 0x3C3),
    (0x3D8, 0x3EE, 2, 0x3D9), (0x400, 0x40F, 1, 0x450), (0x410, 0x42F, 1, 0x430),
    (0x460, 0x480, 2, 0x461), (0x48A, 0x4BE, 2, 0x48B), (0x4C1, 0x4CD, 2, 0x4C2),
    (0x4D0, 0x52E, 2, 0x4D1), (0x531, 0x556, 1, 0x561), (0x10A0, 0x10C5, 1, 0x2D00),
    (0x13F8, 0x13FD, 1, 0x13F0), (0x1C90, 0x1CBA, 1, 0x10D0), (0x1D33, 0x1D3A, 1, 0x67),
    (0x1DAE, 0x1DB1, 1, 0x272), (0x1E00, 0x1E94, 2, 0x1E01), (0x1EA0, 0x1EFE, 2, 0x1EA1),
    (0x1F08, 0x1F0F, 1, 0x1F00), (0x1F18, 0x1F1D, 1, 0x1F10), (0x1F28, 0x1F2F, 1, 0x1F20),
    (0x1F38, 0x1F3F, 1, 0x1F30), (0x1F48, 0x1F4D, 1, 0x1F40), (0x1F59, 0x1F5F, 2, 0x1F51),
    (0x1F68, 0x1F6F, 1, 0x1F60), (0x2074, 0x2079, 1, 0x34), (0x2080, 0x2089, 1, 0x30),
    (0x2096, 0x2099, 1, 0x6B), (0x2135, 0x2138, 1, 0x5D0), (0x2460, 0x2468, 1, 0x31),
    (0x24B6, 0x24CF, 1, 0x61), (0x24D0, 0x24E9, 1, 0x61), (0x2C00, 0x2C2F, 1, 0x2C30),
    (0x2C80, 0x2CE2, 2, 0x2C81), (0x313A, 0x313F, 1, 0x11B0), (0x3145, 0x314E, 1, 0x1109),
    (0x314F, 0x3163, 1, 0x1161), (0x3178, 0x317C, 1, 0x112B), (0x3269, 0x326D, 1, 0x110E),
    (0x32E4, 0x32E9, 1, 0x30CA), (0x32EE, 0x32F2, 1, 0x30DE), (0x32F5, 0x32FA, 1, 0x30E8),
    (0x32FB, 0x32FE, 1, 0x30EF), (0xA640, 0xA66C, 2, 0xA641), (0xA680, 0xA69A, 2, 0xA681),
    (0xA722, 0xA72E, 2, 0xA723), (0xA732, 0xA76E, 2, 0xA733), (0xA77E, 0xA786, 2, 0xA77F),
    (0xA796, 0xA7A8, 2, 0xA797), (0xA7B4, 0xA7C2, 2, 0xA7B5), (0xA7CC, 0xA7DA, 2, 0xA7CD),
    (0xAB70, 0xABBF, 1, 0x13A0), (0xFE41, 0xFE44, 1, 0x300C), (0xFF01, 0xFF20, 1, 0x21),
    (0xFF21, 0xFF3A, 1, 0x61), (0xFF3B, 0xFF5E, 1, 0x5B), (0xFF85, 0xFF8A, 1, 0x30CA),
    (0xFF8F, 0xFF93, 1, 0x30DE), (0xFF96, 0xFF9B, 1, 0x30E8), (0xFFAA, 0xFFAF, 1, 0x11B0),
    (0xFFB5, 0xFFBE, 1, 0x1109), (0xFFC2, 0xFFC7, 1, 0x1161), (0xFFCA, 0xFFCF, 1, 0x1167),
    (0xFFD2, 0xFFD7, 1, 0x116D), (0xFFE9, 0xFFEC, 1, 0x2190), (0x10400, 0x10427, 1, 0x10428),
    (0x104B0, 0x104D3, 1, 0x104D8), (0x10570, 0x1057A, 1, 0x10597),
    (0x1057C, 0x1058A, 1, 0x105A3), (0x1058C, 0x10592, 1, 0x105B3),
    (0x10C80, 0x10CB2, 1, 0x10CC0), (0x10D50, 0x10D65, 1, 0x10D70),
    (0x118A0, 0x118BF, 1, 0x118C0), (0x16E40, 0x16E5F, 1, 0x16E60),
    (0x16EA0, 0x16EB8, 1, 0x16EBB), (0x1CCD6, 0x1CCEF, 1, 0x61), (0x1CCF0, 0x1CCF9, 1, 0x30),
    (0x1D400, 0x1D419, 1, 0x61), (0x1D41A, 0x1D433, 1, 0x61), (0x1D434, 0x1D44D, 1, 0x61),
    (0x1D44E, 0x1D454, 1, 0x61), (0x1D456, 0x1D467, 1, 0x69), (0x1D468, 0x1D481, 1, 0x61),
    (0x1D482, 0x1D49B, 1, 0x61), (0x1D4A9, 0x1D4AC, 1, 0x6E), (0x1D4AE, 0x1D4B5, 1, 0x73),
    (0x1D4B6, 0x1D4B9, 1, 0x61), (0x1D4BD, 0x1D4C3, 1, 0x68), (0x1D4C5, 0x1D4CF, 1, 0x70),
    (0x1D4D0, 0x1D4E9, 1, 0x61), (0x1D4EA, 0x1D503, 1, 0x61), (0x1D507, 0x1D50A, 1, 0x64),
    (0x1D50D, 0x1D514, 1, 0x6A), (0x1D516, 0x1D51C, 1, 0x73), (0x1D51E, 0x1D537, 1, 0x61),
    (0x1D53B, 0x1D53E, 1, 0x64), (0x1D540, 0x1D544, 1, 0x69), (0x1D54A, 0x1D550, 1, 0x73),
    (0x1D552, 0x1D56B, 1, 0x61), (0x1D56C, 0x1D585, 1, 0x61), (0x1D586, 0x1D59F, 1, 0x61),
    (0x1D5A0, 0x1D5B9, 1, 0x61), (0x1D5BA, 0x1D5D3, 1, 0x61), (0x1D5D4, 0x1D5ED, 1, 0x61),
    (0x1D5EE, 0x1D607, 1, 0x61), (0x1D608, 0x1D621, 1, 0x61), (0x1D622, 0x1D63B, 1, 0x61),
    (0x1D63C, 0x1D655, 1, 0x61), (0x1D656, 0x1D66F, 1, 0x61), (0x1D670, 0x1D689, 1, 0x61),
    (0x1D68A, 0x1D6A3, 1, 0x61), (0x1D6A8, 0x1D6B8, 1, 0x3B1), (0x1D6BA, 0x1D6C0, 1, 0x3C3),
    (0x1D6C2, 0x1D6D2, 1, 0x3B1), (0x1D6D4, 0x1D6DA, 1, 0x3C3), (0x1D6E2, 0x1D6F2, 1, 0x3B1),
    (0x1D6F4, 0x1D6FA, 1, 0x3C3), (0x1D6FC, 0x1D70C, 1, 0x3B1), (0x1D70E, 0x1D714, 1, 0x3C3),
    (0x1D71C, 0x1D72C, 1, 0x3B1), (0x1D72E, 0x1D734, 1, 0x3C3), (0x1D736, 0x1D746, 1, 0x3B1),
    (0x1D748, 0x1D74E, 1, 0x3C3), (0x1D756, 0x1D766, 1, 0x3B1), (0x1D768, 0x1D76E, 1, 0x3C3),
    (0x1D770, 0x1D780, 1, 0x3B1), (0x1D782, 0x1D788, 1, 0x3C3), (0x1D790, 0x1D7A0, 1, 0x3B1),
    (0x1D7A2, 0x1D7A8, 1, 0x3C3), (0x1D7AA, 0x1D7BA, 1, 0x3B1), (0x1D7BC, 0x1D7C2, 1, 0x3C3),
    (0x1D7CE, 0x1D7D7, 1, 0x30), (0x1D7D8, 0x1D7E1, 1, 0x30), (0x1D7E2, 0x1D7EB, 1, 0x30),
    (0x1D7EC, 0x1D7F5, 1, 0x30), (0x1D7F6, 0x1D7FF, 1, 0x30), (0x1E030, 0x1E038, 1, 0x430),
    (0x1E03C, 0x1E046, 1, 0x43E), (0x1E051, 0x1E059, 1, 0x430), (0x1E05F, 0x1E064, 1, 0x443),
    (0x1E900, 0x1E921, 1, 0x1E922), (0x1EE0A, 0x1EE0D, 1, 0x643), (0x1EE2A, 0x1EE2D, 1, 0x643),
    (0x1F130, 0x1F149, 1, 0x61), (0x1FBF0, 0x1FBF9, 1, 0x30)]

/-- Characters that follow each other, by the first of them, with their forms in turn. -/
def foldedForms : List (Nat × String) :=
  [
    (0xAA, "a"), (0xB2, "2 3"), (0xB5, "μ"), (0xB9, "1 o"), (0xBC, "1⁄4 1⁄2 3⁄4"),
    (0x130, "i\u0307"), (0x132, "ij ij ĵ"), (0x136, "ķ"), (0x139, "ĺ"), (0x13B, "ļ"), (0x13D, "ľ"),
    (0x13F, "l· l·"), (0x149, "ʼn"), (0x178, "ÿ ź"), (0x17B, "ż"), (0x17D, "ž"), (0x17F, "s"),
    (0x181, "ɓ ƃ"), (0x184, "ƅ"), (0x186, "ɔ ƈ"), (0x189, "ɖ ɗ ƌ"), (0x18E, "ǝ ə ɛ ƒ"),
    (0x193, "ɠ ɣ"), (0x196, "ɩ ɨ ƙ"), (0x19C, "ɯ ɲ"), (0x19F, "ɵ ơ"), (0x1A2, "ƣ"), (0x1A4, "ƥ"),
    (0x1A6, "ʀ ƨ"), (0x1A9, "ʃ"), (0x1AC, "ƭ"), (0x1AE, "ʈ ư"), (0x1B1, "ʊ ʋ ƴ"), (0x1B5, "ƶ"),
    (0x1B7, "ʒ ƹ"), (0x1BC, "ƽ"), (0x1C4, "dž dž dž lj lj lj nj nj nj"), (0x1F1, "dz dz dz ǵ"),
    (0x1F6, "ƕ ƿ"), (0x220, "ƞ"), (0x23A, "ⱥ ȼ"), (0x23D, "ƚ ⱦ"), (0x241, "ɂ"), (0x243, "ƀ ʉ ʌ"),
    (0x2B0, "h ɦ j r ɹ ɻ ʁ w y"), (0x2E0, "ɣ l s x ʕ"), (0x340, "\u0300 \u0301"),
    (0x343, "\u0313 \u0308\u0301 ι"), (0x370, "ͱ"), (0x372, "ͳ"), (0x374, "ʹ"), (0x376, "ͷ"),
    (0x37E, "; ϳ"), (0x386, "ά · έ ή ί"), (0x38C, "ό"), (0x38E, "ύ ώ"), (0x3CF, "ϗ β θ υ ύ ϋ φ π"),
    (0x3F0, "κ ρ σ"), (0x3F4, "θ ε"), (0x3F7, "ϸ"), (0x3F9, "σ ϻ"), (0x3FD, "ͻ ͼ ͽ"), (0x4C0, "ӏ"),
    (0x587, "եւ"), (0x675, "\u0627\u0674 \u0648\u0674 \u06c7\u0674 \u064a\u0674"),
    (0x958, "क\u093c ख\u093c ग\u093c ज\u093c ड\u093c ढ\u093c फ\u093c य\u093c"),
    (0x9DC, "ড\u09bc ঢ\u09bc"), (0x9DF, "য\u09bc"), (0xA33, "ਲ\u0a3c"), (0xA36, "ਸ\u0a3c"),
    (0xA59, "ਖ\u0a3c ਗ\u0a3c ਜ\u0a3c"), (0xA5E, "ਫ\u0a3c"), (0xB5C, "ଡ\u0b3c ଢ\u0b3c"),
    (0xE33, "\u0e4dา"), (0xEB3, "\u0ecdາ"), (0xEDC, "ຫນ ຫມ"), (0xF0C, "་"), (0xF43, "ག\u0fb7"),
    (0xF4D, "ཌ\u0fb7"), (0xF52, "ད\u0fb7"), (0xF57, "བ\u0fb7"), (0xF5C, "ཛ\u0fb7"),
    (0xF69, "ཀ\u0fb5"), (0xF73, "\u0f71\u0f72"),
    (0xF75, "\u0f71\u0f74 \u0fb2\u0f80 \u0fb2\u0f71\u0f80 \u0fb3\u0f80"),
    (0xF79, "\u0fb3\u0f71\u0f80"), (0xF81, "\u0f71\u0f80"), (0xF93, "\u0f92\u0fb7"),
    (0xF9D, "\u0f9c\u0fb7"), (0xFA2, "\u0fa1\u0fb7"), (0xFA7, "\u0fa6\u0fb7"),
    (0xFAC, "\u0fab\u0fb7"), (0xFB9, "\u0f90\u0fb5"), (0x10C7, "ⴧ"), (0x10CD, "ⴭ"), (0x10FC, "ნ"),
    (0x1C80, "в д о с т т ъ ѣ ꙋ \u1c8a"), (0x1CBD, "ჽ ჾ ჿ"), (0x1D2C, "a æ b"), (0x1D30, "d e ǝ"),
    (0x1D3C, "o ȣ p r t u w a ɐ ɑ ᴂ b d e ə ɛ ɜ g"),
    (0x1D4F, "k m ŋ o ɔ ᴖ ᴗ p t u ᴝ ɯ v ᴥ β γ δ φ χ i r u v β γ ρ φ χ"), (0x1D78, "н"),
    (0x1D9B, "ɒ c ɕ ð ɜ f ɟ ɡ ɥ ɨ ɩ ɪ ᵻ ʝ ɭ ᶅ ʟ ɱ ɰ"), (0x1DB2, "ɸ ʂ ʃ ƫ ʉ ʊ ᴜ ʋ ʌ z ʐ ʑ ʒ θ"),
    (0x1E9A, "aʾ ṡ"), (0x1E9E, "ß"), (0x1F71, "ά"), (0x1F73, "έ"), (0x1F75, "ή"), (0x1F77, "ί"),
    (0x1F79, "ό"), (0x1F7B, "ύ"), (0x1F7D, "ώ"),
    (0x1F80, "ἀι ἁι ἂι ἃι ἄι ἅι ἆι ἇι ἀι ἁι ἂι ἃι ἄι ἅι ἆι ἇι ἠι ἡι ἢι ἣι ἤι ἥι ἦι ἧι"),
    (0x1F98, "ἠι ἡι ἢι ἣι ἤι ἥι ἦι ἧι ὠι ὡι ὢι ὣι ὤι ὥι ὦι ὧι ὠι ὡι ὢι ὣι ὤι ὥι ὦι ὧι"),
    (0x1FB2, "ὰι αι άι"), (0x1FB7, "ᾶι ᾰ ᾱ ὰ ά αι"), (0x1FBE, "ι"), (0x1FC2, "ὴι ηι ήι"),
    (0x1FC7, "ῆι ὲ έ ὴ ή ηι"), (0x1FD3, "ΐ"), (0x1FD8, "ῐ ῑ ὶ ί"), (0x1FE3, "ΰ"),
    (0x1FE8, "ῠ ῡ ὺ ύ ῥ"), (0x1FEF, "\x60"), (0x1FF2, "ὼι ωι ώι"), (0x1FF7, "ῶι ὸ ό ὼ ώ ωι"),
    (0x2011, "‐"), (0x2033, "′′ ′′′"), (0x2036, "‵‵ ‵‵‵"), (0x203C, "!!"), (0x2047, "?? ?! !?"),
    (0x2057, "′′′′"), (0x2070, "0 i"), (0x207A, "+ − = ( ) n"), (0x208A, "+ − = ( )"),
    (0x2090, "a e o x ə h"), (0x209A, "p s t"), (0x20A8, "rs"), (0x2100, "a/c a/s c °c"),
    (0x2105, "c/o c/u ɛ"), (0x2109, "°f g h h h h ħ i i l l"), (0x2115, "n no"),
    (0x2119, "p q r r r"), (0x2120, "sm tel tm"), (0x2124, "z"), (0x2126, "ω"), (0x2128, "z"),
    (0x212A, "k å b c"), (0x212F, "e e f ⅎ m o"), (0x2139, "i"), (0x213B, "fax π γ γ π ∑"),
    (0x2145, "d d e i j"),
    (0x2150, "1⁄7 1⁄9 1⁄10 1⁄3 2⁄3 1⁄5 2⁄5 3⁄5 4⁄5 1⁄6 5⁄6 1⁄8 3⁄8 5⁄8 7⁄8 1⁄ i ii iii"),
    (0x2163, "iv v vi vii viii ix x xi xii l c d m i ii iii iv v vi vii viii ix x xi"),
    (0x217B, "xii l c d m"), (0x2183, "ↄ"), (0x2189, "0⁄3"), (0x222C, "∫∫ ∫∫∫"),
    (0x222F, "∮∮ ∮∮∮"), (0x2329, "〈 〉"),
    (0x2469, "10 11 12 13 14 15 16 17 18 19 20 (1) (2) (3) (4) (5) (6) (7) (8) (9)"),
    (0x247D, "(10) (11) (12) (13) (14) (15) (16) (17) (18) (19) (20)"),
    (0x249C, "(a) (b) (c) (d) (e) (f) (g) (h) (i) (j) (k) (l) (m) (n) (o) (p) (q) (r)"),
    (0x24AE, "(s) (t) (u) (v) (w) (x) (y) (z)"), (0x24EA, "0"), (0x2A0C, "∫∫∫∫"),
    (0x2A74, "::= == ==="), (0x2ADC, "⫝\u0338"), (0x2C60, "ⱡ"), (0x2C62, "ɫ ᵽ ɽ"), (0x2C67, "ⱨ"),
    (0x2C69, "ⱪ"), (0x2C6B, "ⱬ"), (0x2C6D, "ɑ ɱ ɐ ɒ"), (0x2C72, "ⱳ"), (0x2C75, "ⱶ"),
    (0x2C7C, "j v ȿ ɀ"), (0x2CEB, "ⳬ"), (0x2CED, "ⳮ"), (0x2CF2, "ⳳ"), (0x2D6F, "ⵡ"), (0x2E9F, "母"),
    (0x2EF3, "龟"),
    (0x2F00, "一 丨 丶 丿 乙 亅 二 亠 人 儿 入 八 冂 冖 冫 几 凵 刀 力 勹 匕 匚 匸 十 卜 卩 厂 厶 又 口 囗 土 士 夂 夊 夕"),
    (0x2F24, "大 女 子 宀 寸 小 尢 尸 屮 山 巛 工 己 巾 干 幺 广 廴 廾 弋 弓 彐 彡 彳 心 戈 戶 手 支 攴 文 斗 斤 方 无 日"),
    (0x2F48, "曰 月 木 欠 止 歹 殳 毋 比 毛 氏 气 水 火 爪 父 爻 爿 片 牙 牛 犬 玄 玉 瓜 瓦 甘 生 用 田 疋 疒 癶 白 皮 皿"),
    (0x2F6C, "目 矛 矢 石 示 禸 禾 穴 立 竹 米 糸 缶 网 羊 羽 老 而 耒 耳 聿 肉 臣 自 至 臼 舌 舛 舟 艮 色 艸 虍 虫 血 行"),
    (0x2F90, "衣 襾 見 角 言 谷 豆 豕 豸 貝 赤 走 足 身 車 辛 辰 辵 邑 酉 釆 里 金 長 門 阜 隶 隹 雨 靑 非 面 革 韋 韭 音"),
    (0x2FB4, "頁 風 飛 食 首 香 馬 骨 高 髟 鬥 鬯 鬲 鬼 魚 鳥 鹵 鹿 麥 麻 黃 黍 黑 黹 黽 鼎 鼓 鼠 鼻 齊 齒 龍 龜 龠"), (0x3002, "."),
    (0x3036, "〒"), (0x3038, "十 卄 卅"), (0x309F, "より"), (0x30FF, "コト"),
    (0x3131, "\u1100 \u1101 \u11aa \u1102 \u11ac \u11ad \u1103 \u1104 \u1105"),
    (0x3140, "\u111a \u1106 \u1107 \u1108 \u1121"),
    (0x3165, "\u1114 \u1115 \u11c7 \u11c8 \u11cc \u11ce \u11d3 \u11d7 \u11d9 \u111c"),
    (0x316F, "\u11dd \u11df \u111d \u111e \u1120 \u1122 \u1123 \u1127 \u1129"),
    (0x317D, "\u1132 \u1136 \u1140 \u1147 \u114c \u11f1 \u11f2 \u1157 \u1158 \u1159"),
    (0x3187, "\u1184 \u1185 \u1188 \u1191 \u1192 \u1194 \u119e \u11a1"),
    (0x3192, "一 二 三 四 上 中 下 甲 乙 丙 丁 天 地 人"),
    (0x3200, "(\u1100) (\u1102) (\u1103) (\u1105) (\u1106) (\u1107) (\u1109) (\u110b)"),
    (0x3208, "(\u110c) (\u110e) (\u110f) (\u1110) (\u1111) (\u1112) (가) (나) (다) (라)"),
    (0x3212, "(마) (바) (사) (아) (자) (차) (카) (타) (파) (하) (주) (오전) (오후)"),
    (0x3220, "(一) (二) (三) (四) (五) (六) (七) (八) (九) (十) (月) (火) (水) (木) (金) (土) (日) (株)"),
    (0x3232, "(有) (社) (名) (特) (財) (祝) (労) (代) (呼) (学) (監) (企) (資) (協) (祭) (休) (自) (至)"),
    (0x3244, "問 幼 文 箏"),
    (0x3250, "pte 21 22 23 24 25 26 27 28 29 30 31 32 33 34 35 \u1100 \u1102 \u1103"),
    (0x3263, "\u1105 \u1106 \u1107 \u1109 \u110b \u110c"),
    (0x326E, "가 나 다 라 마 바 사 아 자 차 카 타 파 하 참고 주의 우"),
    (0x3280, "一 二 三 四 五 六 七 八 九 十 月 火 水 木 金 土 日 株 有 社 名 特 財 祝 労 秘 男 女 適 優 印 注 項 休 写 正"),
    (0x32A4, "上 中 下 左 右 医 宗 学 監 企 資 協 夜 36 37 38 39 40 41 42 43 44 45 46 47 48 49 50"),
    (0x32C0, "1月 2月 3月 4月 5月 6月 7月 8月 9月 10月 11月 12月 hg erg ev ltd ア イ ウ エ オ カ キ ク ケ コ"),
    (0x32DA, "サ シ ス セ ソ タ チ ツ テ ト"), (0x32EA, "ヒ フ ヘ ホ"), (0x32F3, "ヤ ユ"),
    (0x32FF, "令和 アパート アルファ アンペア アール イニング インチ ウォン エスクード エーカー オンス オーム カイリ カラット カロリー ガロン"),
    (0x330F, "ガンマ ギガ ギニー キュリー ギルダー キロ キログラム キロメートル キロワット グラム グラムトン クルゼイロ クローネ ケース コルナ"),
    (0x331E, "コーポ サイクル サンチーム シリング センチ セント ダース デシ ドル トン ナノ ノット ハイツ パーセント パーツ バーレル ピアストル"),
    (0x332F, "ピクル ピコ ビル ファラッド フィート ブッシェル フラン ヘクタール ペソ ペニヒ ヘルツ ペンス ページ ベータ ポイント ボルト ホン"),
    (0x3340, "ポンド ホール ホーン マイクロ マイル マッハ マルク マンション ミクロン ミリ ミリバール メガ メガトン メートル ヤード ヤール"),
    (0x3350, "ユアン リットル リラ ルピー ルーブル レム レントゲン ワット 0点 1点 2点 3点 4点 5点 6点 7点 8点 9点 10点 11点"),
    (0x3364, "12点 13点 14点 15点 16点 17点 18点 19点 20点 21点 22点 23点 24点 hpa da au bar ov pc"),
    (0x3377, "dm dm2 dm3 iu 平成 昭和 大正 明治 株式会社 pa na μa ma ka kb mb gb cal kcal pf nf μf"),
    (0x338D, "μg mg kg hz khz mhz ghz thz μl ml dl kl fm nm μm mm cm km mm2 cm2 m2 km2"),
    (0x33A3, "mm3 cm3 m3 km3 m∕s m∕s2 pa kpa mpa gpa rad rad∕s rad∕s2 ps ns μs ms pv"),
    (0x33B5, "nv μv mv kv mv pw nw μw mw kw mw kω mω"), (0x33C3, "bq cc cd c∕kg"),
    (0x33C8, "db gy ha hp in kk km kt lm ln log lx mb mil mol ph"),
    (0x33D9, "ppm pr sr sv wb v∕m a∕m 1日 2日 3日 4日 5日 6日 7日 8日 9日 10日 11日 12日 13日 14日"),
    (0x33EE, "15日 16日 17日 18日 19日 20日 21日 22日 23日 24日 25日 26日 27日 28日 29日 30日 31日 gal"),
    (0xA69C, "ъ ь"), (0xA770, "ꝯ"), (0xA779, "ꝺ"), (0xA77B, "ꝼ"), (0xA77D, "ᵹ"), (0xA78B, "ꞌ"),
    (0xA78D, "ɥ"), (0xA790, "ꞑ"), (0xA792, "ꞓ"), (0xA7AA, "ɦ ɜ ɡ ɬ ɪ"), (0xA7B0, "ʞ ʇ ʝ ꭓ"),
    (0xA7C4, "ꞔ ʂ ᶎ ꟈ"), (0xA7C9, "ꟊ"), (0xA7CB, "ɤ"), (0xA7DC, "ƛ"), (0xA7F1, "s c f q ꟶ"),
    (0xA7F8, "ħ œ"), (0xAB5C, "ꜧ ꬷ ɫ ꭒ"), (0xAB69, "ʍ"),
    (0xF900, "豈 更 車 賈 滑 串 句 龜 龜 契 金 喇 奈 懶 癩 羅 蘿 螺 裸 邏 樂 洛 烙 珞 落 酪 駱 亂 卵 欄 爛 蘭 鸞 嵐 濫 藍"),
    (0xF924, "襤 拉 臘 蠟 廊 朗 浪 狼 郎 來 冷 勞 擄 櫓 爐 盧 老 蘆 虜 路 露 魯 鷺 碌 祿 綠 菉 錄 鹿 論 壟 弄 籠 聾 牢 磊"),
    (0xF948, "賂 雷 壘 屢 樓 淚 漏 累 縷 陋 勒 肋 凜 凌 稜 綾 菱 陵 讀 拏 樂 諾 丹 寧 怒 率 異 北 磻 便 復 不 泌 數 索 參"),
    (0xF96C, "塞 省 葉 說 殺 辰 沈 拾 若 掠 略 亮 兩 凉 梁 糧 良 諒 量 勵 呂 女 廬 旅 濾 礪 閭 驪 麗 黎 力 曆 歷 轢 年 憐"),
    (0xF990, "戀 撚 漣 煉 璉 秊 練 聯 輦 蓮 連 鍊 列 劣 咽 烈 裂 說 廉 念 捻 殮 簾 獵 令 囹 寧 嶺 怜 玲 瑩 羚 聆 鈴 零 靈"),
    (0xF9B4, "領 例 禮 醴 隸 惡 了 僚 寮 尿 料 樂 燎 療 蓼 遼 龍 暈 阮 劉 杻 柳 流 溜 琉 留 硫 紐 類 六 戮 陸 倫 崙 淪 輪"),
    (0xF9D8, "律 慄 栗 率 隆 利 吏 履 易 李 梨 泥 理 痢 罹 裏 裡 里 離 匿 溺 吝 燐 璘 藺 隣 鱗 麟 林 淋 臨 立 笠 粒 狀 炙"),
    (0xF9FC, "識 什 茶 刺 切 度 拓 糖 宅 洞 暴 輻 行 降 見 廓 兀 嗀"), (0xFA10, "塚"), (0xFA12, "晴"),
    (0xFA15, "凞 猪 益 礼 神 祥 福 靖 精 羽"), (0xFA20, "蘒"), (0xFA22, "諸"), (0xFA25, "逸 都"),
    (0xFA2A, "飯 飼 館 鶴 郞 隷 侮 僧 免 勉 勤 卑 喝 嘆 器 塀 墨 層 屮 悔 慨 憎 懲 敏 既 暑 梅 海 渚 漢 煮 爫 琢 碑 社 祉"),
    (0xFA4E, "祈 祐 祖 祝 禍 禎 穀 突 節 練 縉 繁 署 者 臭 艹 艹 著 褐 視 謁 謹 賓 贈 辶 逸 難 響 頻 恵 𤋮 舘"),
    (0xFA70, "並 况 全 侀 充 冀 勇 勺 喝 啕 喙 嗢 塚 墳 奄 奔 婢 嬨 廒 廙 彩 徭 惘 慎 愈 憎 慠 懲 戴 揄 搜 摒 敖 晴 朗 望"),
    (0xFA94, "杖 歹 殺 流 滛 滋 漢 瀞 煮 瞧 爵 犯 猪 瑱 甆 画 瘝 瘟 益 盛 直 睊 着 磌 窱 節 类 絛 練 缾 者 荒 華 蝹 襁 覆"),
    (0xFAB8, "視 調 諸 請 謁 諾 諭 謹 變 贈 輸 遲 醙 鉶 陼 難 靖 韛 響 頋 頻 鬒 龜 𢡊 𢡄 𣏕 㮝 䀘 䀹 𥉉 𥳐 𧻓 齃 龎"),
    (0xFB00, "ff fi fl ffi ffl st st"), (0xFB13, "մն մե մի վն մխ"), (0xFB1D, "\u05d9\u05b4"),
    (0xFB1F, "\u05f2\u05b7 \u05e2 \u05d0 \u05d3 \u05d4 \u05db \u05dc \u05dd \u05e8"),
    (0xFB28, "\u05ea + \u05e9\u05c1 \u05e9\u05c2 \u05e9\u05bc\u05c1 \u05e9\u05bc\u05c2"),
    (0xFB2E, "\u05d0\u05b7 \u05d0\u05b8 \u05d0\u05bc \u05d1\u05bc \u05d2\u05bc"),
    (0xFB33, "\u05d3\u05bc \u05d4\u05bc \u05d5\u05bc \u05d6\u05bc"),
    (0xFB38, "\u05d8\u05bc \u05d9\u05bc \u05da\u05bc \u05db\u05bc \u05dc\u05bc"),
    (0xFB3E, "\u05de\u05bc"), (0xFB40, "\u05e0\u05bc \u05e1\u05bc"),
    (0xFB43, "\u05e3\u05bc \u05e4\u05bc"),
    (0xFB46, "\u05e6\u05bc \u05e7\u05bc \u05e8\u05bc \u05e9\u05bc \u05ea\u05bc"),
    (0xFB4B, "\u05d5\u05b9 \u05d1\u05bf \u05db\u05bf \u05e4\u05bf \u05d0\u05dc \u0671"),
    (0xFB51, "\u0671 \u067b \u067b \u067b \u067b \u067e \u067e \u067e \u067e \u0680"),
    (0xFB5B, "\u0680 \u0680 \u0680 \u067a \u067a \u067a \u067a \u067f \u067f \u067f"),
    (0xFB65, "\u067f \u0679 \u0679 \u0679 \u0679 \u06a4 \u06a4 \u06a4 \u06a4 \u06a6"),
    (0xFB6F, "\u06a6 \u06a6 \u06a6 \u0684 \u0684 \u0684 \u0684 \u0683 \u0683 \u0683"),
    (0xFB79, "\u0683 \u0686 \u0686 \u0686 \u0686 \u0687 \u0687 \u0687 \u0687 \u068d"),
    (0xFB83, "\u068d \u068c \u068c \u068e \u068e \u0688 \u0688 \u0698 \u0698 \u0691"),
    (0xFB8D, "\u0691 \u06a9 \u06a9 \u06a9 \u06a9 \u06af \u06af \u06af \u06af \u06b3"),
    (0xFB97, "\u06b3 \u06b3 \u06b3 \u06b1 \u06b1 \u06b1 \u06b1 \u06ba \u06ba \u06bb"),
    (0xFBA1, "\u06bb \u06bb \u06bb \u06c0 \u06c0 \u06c1 \u06c1 \u06c1 \u06c1 \u06be"),
    (0xFBAB, "\u06be \u06be \u06be \u06d2 \u06d2 \u06d3 \u06d3"),
    (0xFBD3, "\u06ad \u06ad \u06ad \u06ad \u06c7 \u06c7 \u06c6 \u06c6 \u06c8 \u06c8"),
    (0xFBDD, "\u06c7\u0674 \u06cb \u06cb \u06c5 \u06c5 \u06c9 \u06c9 \u06d0 \u06d0"),
    (0xFBE6, "\u06d0 \u06d0 \u0649 \u0649 \u0626\u0627 \u0626\u0627 \u0626\u06d5"),
    (0xFBED, "\u0626\u06d5 \u0626\u0648 \u0626\u0648 \u0626\u06c7 \u0626\u06c7"),
    (0xFBF2, "\u0626\u06c6 \u0626\u06c6 \u0626\u06c8 \u0626\u06c8 \u0626\u06d0"),
    (0xFBF7, "\u0626\u06d0 \u0626\u06d0 \u0626\u0649 \u0626\u0649 \u0626\u0649 \u06cc"),
    (0xFBFD, "\u06cc \u06cc \u06cc \u0626\u062c \u0626\u062d \u0626\u0645 \u0626\u0649"),
    (0xFC04, "\u0626\u064a \u0628\u062c \u0628\u062d \u0628\u062e \u0628\u0645"),
    (0xFC09, "\u0628\u0649 \u0628\u064a \u062a\u062c \u062a\u062d \u062a\u062e"),
    (0xFC0E, "\u062a\u0645 \u062a\u0649 \u062a\u064a \u062b\u062c \u062b\u0645"),
    (0xFC13, "\u062b\u0649 \u062b\u064a \u062c\u062d \u062c\u0645 \u062d\u062c"),
    (0xFC18, "\u062d\u0645 \u062e\u062c \u062e\u062d \u062e\u0645 \u0633\u062c"),
    (0xFC1D, "\u0633\u062d \u0633\u062e \u0633\u0645 \u0635\u062d \u0635\u0645"),
    (0xFC22, "\u0636\u062c \u0636\u062d \u0636\u062e \u0636\u0645 \u0637\u062d"),
    (0xFC27, "\u0637\u0645 \u0638\u0645 \u0639\u062c \u0639\u0645 \u063a\u062c"),
    (0xFC2C, "\u063a\u0645 \u0641\u062c \u0641\u062d \u0641\u062e \u0641\u0645"),
    (0xFC31, "\u0641\u0649 \u0641\u064a \u0642\u062d \u0642\u0645 \u0642\u0649"),
    (0xFC36, "\u0642\u064a \u0643\u0627 \u0643\u062c \u0643\u062d \u0643\u062e"),
    (0xFC3B, "\u0643\u0644 \u0643\u0645 \u0643\u0649 \u0643\u064a \u0644\u062c"),
    (0xFC40, "\u0644\u062d \u0644\u062e \u0644\u0645 \u0644\u0649 \u0644\u064a"),
    (0xFC45, "\u0645\u062c \u0645\u062d \u0645\u062e \u0645\u0645 \u0645\u0649"),
    (0xFC4A, "\u0645\u064a \u0646\u062c \u0646\u062d \u0646\u062e \u0646\u0645"),
    (0xFC4F, "\u0646\u0649 \u0646\u064a \u0647\u062c \u0647\u0645 \u0647\u0649"),
    (0xFC54, "\u0647\u064a \u064a\u062c \u064a\u062d \u064a\u062e \u064a\u0645"),
    (0xFC59, "\u064a\u0649 \u064a\u064a \u0630\u0670 \u0631\u0670 \u0649\u0670"),
    (0xFC64, "\u0626\u0631 \u0626\u0632 \u0626\u0645 \u0626\u0646 \u0626\u0649"),
    (0xFC69, "\u0626\u064a \u0628\u0631 \u0628\u0632 \u0628\u0645 \u0628\u0646"),
    (0xFC6E, "\u0628\u0649 \u0628\u064a \u062a\u0631 \u062a\u0632 \u062a\u0645"),
    (0xFC73, "\u062a\u0646 \u062a\u0649 \u062a\u064a \u062b\u0631 \u062b\u0632"),
    (0xFC78, "\u062b\u0645 \u062b\u0646 \u062b\u0649 \u062b\u064a \u0641\u0649"),
    (0xFC7D, "\u0641\u064a \u0642\u0649 \u0642\u064a \u0643\u0627 \u0643\u0644"),
    (0xFC82, "\u0643\u0645 \u0643\u0649 \u0643\u064a \u0644\u0645 \u0644\u0649"),
    (0xFC87, "\u0644\u064a \u0645\u0627 \u0645\u0645 \u0646\u0631 \u0646\u0632"),
    (0xFC8C, "\u0646\u0645 \u0646\u0646 \u0646\u0649 \u0646\u064a \u0649\u0670"),
    (0xFC91, "\u064a\u0631 \u064a\u0632 \u064a\u0645 \u064a\u0646 \u064a\u0649"),
    (0xFC96, "\u064a\u064a \u0626\u062c \u0626\u062d \u0626\u062e \u0626\u0645"),
    (0xFC9B, "\u0626\u0647 \u0628\u062c \u0628\u062d \u0628\u062e \u0628\u0645"),
    (0xFCA0, "\u0628\u0647 \u062a\u062c \u062a\u062d \u062a\u062e \u062a\u0645"),
    (0xFCA5, "\u062a\u0647 \u062b\u0645 \u062c\u062d \u062c\u0645 \u062d\u062c"),
    (0xFCAA, "\u062d\u0645 \u062e\u062c \u062e\u0645 \u0633\u062c \u0633\u062d"),
    (0xFCAF, "\u0633\u062e \u0633\u0645 \u0635\u062d \u0635\u062e \u0635\u0645"),
    (0xFCB4, "\u0636\u062c \u0636\u062d \u0636\u062e \u0636\u0645 \u0637\u062d"),
    (0xFCB9, "\u0638\u0645 \u0639\u062c \u0639\u0645 \u063a\u062c \u063a\u0645"),
    (0xFCBE, "\u0641\u062c \u0641\u062d \u0641\u062e \u0641\u0645 \u0642\u062d"),
    (0xFCC3, "\u0642\u0645 \u0643\u062c \u0643\u062d \u0643\u062e \u0643\u0644"),
    (0xFCC8, "\u0643\u0645 \u0644\u062c \u0644\u062d \u0644\u062e \u0644\u0645"),
    (0xFCCD, "\u0644\u0647 \u0645\u062c \u0645\u062d \u0645\u062e \u0645\u0645"),
    (0xFCD2, "\u0646\u062c \u0646\u062d \u0646\u062e \u0646\u0645 \u0646\u0647"),
    (0xFCD7, "\u0647\u062c \u0647\u0645 \u0647\u0670 \u064a\u062c \u064a\u062d"),
    (0xFCDC, "\u064a\u062e \u064a\u0645 \u064a\u0647 \u0626\u0645 \u0626\u0647"),
    (0xFCE1, "\u0628\u0645 \u0628\u0647 \u062a\u0645 \u062a\u0647 \u062b\u0645"),
    (0xFCE6, "\u062b\u0647 \u0633\u0645 \u0633\u0647 \u0634\u0645 \u0634\u0647"),
    (0xFCEB, "\u0643\u0644 \u0643\u0645 \u0644\u0645 \u0646\u0645 \u0646\u0647"),
    (0xFCF0, "\u064a\u0645 \u064a\u0647 \u0640\u064e\u0651 \u0640\u064f\u0651"),
    (0xFCF4, "\u0640\u0650\u0651 \u0637\u0649 \u0637\u064a \u0639\u0649 \u0639\u064a"),
    (0xFCF9, "\u063a\u0649 \u063a\u064a \u0633\u0649 \u0633\u064a \u0634\u0649"),
    (0xFCFE, "\u0634\u064a \u062d\u0649 \u062d\u064a \u062c\u0649 \u062c\u064a"),
    (0xFD03, "\u062e\u0649 \u062e\u064a \u0635\u0649 \u0635\u064a \u0636\u0649"),
    (0xFD08, "\u0636\u064a \u0634\u062c \u0634\u062d \u0634\u062e \u0634\u0645"),
    (0xFD0D, "\u0634\u0631 \u0633\u0631 \u0635\u0631 \u0636\u0631 \u0637\u0649"),
    (0xFD12, "\u0637\u064a \u0639\u0649 \u0639\u064a \u063a\u0649 \u063a\u064a"),
    (0xFD17, "\u0633\u0649 \u0633\u064a \u0634\u0649 \u0634\u064a \u062d\u0649"),
    (0xFD1C, "\u062d\u064a \u062c\u0649 \u062c\u064a \u062e\u0649 \u062e\u064a"),
    (0xFD21, "\u0635\u0649 \u0635\u064a \u0636\u0649 \u0636\u064a \u0634\u062c"),
    (0xFD26, "\u0634\u062d \u0634\u062e \u0634\u0645 \u0634\u0631 \u0633\u0631"),
    (0xFD2B, "\u0635\u0631 \u0636\u0631 \u0634\u062c \u0634\u062d \u0634\u062e"),
    (0xFD30, "\u0634\u0645 \u0633\u0647 \u0634\u0647 \u0637\u0645 \u0633\u062c"),
    (0xFD35, "\u0633\u062d \u0633\u062e \u0634\u062c \u0634\u062d \u0634\u062e"),
    (0xFD3A, "\u0637\u0645 \u0638\u0645 \u0627\u064b \u0627\u064b"),
    (0xFD50, "\u062a\u062c\u0645 \u062a\u062d\u062c \u062a\u062d\u062c"),
    (0xFD53, "\u062a\u062d\u0645 \u062a\u062e\u0645 \u062a\u0645\u062c"),
    (0xFD56, "\u062a\u0645\u062d \u062a\u0645\u062e \u062c\u0645\u062d"),
    (0xFD59, "\u062c\u0645\u062d \u062d\u0645\u064a \u062d\u0645\u0649"),
    (0xFD5C, "\u0633\u062d\u062c \u0633\u062c\u062d \u0633\u062c\u0649"),
    (0xFD5F, "\u0633\u0645\u062d \u0633\u0645\u062d \u0633\u0645\u062c"),
    (0xFD62, "\u0633\u0645\u0645 \u0633\u0645\u0645 \u0635\u062d\u062d"),
    (0xFD65, "\u0635\u062d\u062d \u0635\u0645\u0645 \u0634\u062d\u0645"),
    (0xFD68, "\u0634\u062d\u0645 \u0634\u062c\u064a \u0634\u0645\u062e"),
    (0xFD6B, "\u0634\u0645\u062e \u0634\u0645\u0645 \u0634\u0645\u0645"),
    (0xFD6E, "\u0636\u062d\u0649 \u0636\u062e\u0645 \u0636\u062e\u0645"),
    (0xFD71, "\u0637\u0645\u062d \u0637\u0645\u062d \u0637\u0645\u0645"),
    (0xFD74, "\u0637\u0645\u064a \u0639\u062c\u0645 \u0639\u0645\u0645"),
    (0xFD77, "\u0639\u0645\u0645 \u0639\u0645\u0649 \u063a\u0645\u0645"),
    (0xFD7A, "\u063a\u0645\u064a \u063a\u0645\u0649 \u0641\u062e\u0645"),
    (0xFD7D, "\u0641\u062e\u0645 \u0642\u0645\u062d \u0642\u0645\u0645"),
    (0xFD80, "\u0644\u062d\u0645 \u0644\u062d\u064a \u0644\u062d\u0649"),
    (0xFD83, "\u0644\u062c\u062c \u0644\u062c\u062c \u0644\u062e\u0645"),
    (0xFD86, "\u0644\u062e\u0645 \u0644\u0645\u062d \u0644\u0645\u062d"),
    (0xFD89, "\u0645\u062d\u062c \u0645\u062d\u0645 \u0645\u062d\u064a"),
    (0xFD8C, "\u0645\u062c\u062d \u0645\u062c\u0645 \u0645\u062e\u062c"),
    (0xFD8F, "\u0645\u062e\u0645"),
    (0xFD92, "\u0645\u062c\u062e \u0647\u0645\u062c \u0647\u0645\u0645"),
    (0xFD95, "\u0646\u062d\u0645 \u0646\u062d\u0649 \u0646\u062c\u0645"),
    (0xFD98, "\u0646\u062c\u0645 \u0646\u062c\u0649 \u0646\u0645\u064a"),
    (0xFD9B, "\u0646\u0645\u0649 \u064a\u0645\u0645 \u064a\u0645\u0645"),
    (0xFD9E, "\u0628\u062e\u064a \u062a\u062c\u064a \u062a\u062c\u0649"),
    (0xFDA1, "\u062a\u062e\u064a \u062a\u062e\u0649 \u062a\u0645\u064a"),
    (0xFDA4, "\u062a\u0645\u0649 \u062c\u0645\u064a \u062c\u062d\u0649"),
    (0xFDA7, "\u062c\u0645\u0649 \u0633\u062e\u0649 \u0635\u062d\u064a"),
    (0xFDAA, "\u0634\u062d\u064a \u0636\u062d\u064a \u0644\u062c\u064a"),
    (0xFDAD, "\u0644\u0645\u064a \u064a\u062d\u064a \u064a\u062c\u064a"),
    (0xFDB0, "\u064a\u0645\u064a \u0645\u0645\u064a \u0642\u0645\u064a"),
    (0xFDB3, "\u0646\u062d\u064a \u0642\u0645\u062d \u0644\u062d\u0645"),
    (0xFDB6, "\u0639\u0645\u064a \u0643\u0645\u064a \u0646\u062c\u062d"),
    (0xFDB9, "\u0645\u062e\u064a \u0644\u062c\u0645 \u0643\u0645\u0645"),
    (0xFDBC, "\u0644\u062c\u0645 \u0646\u062c\u062d \u062c\u062d\u064a"),
    (0xFDBF, "\u062d\u062c\u064a \u0645\u062c\u064a \u0641\u0645\u064a"),
    (0xFDC2, "\u0628\u062d\u064a \u0643\u0645\u0645 \u0639\u062c\u0645"),
    (0xFDC5, "\u0635\u0645\u0645 \u0633\u062e\u064a \u0646\u062c\u064a"),
    (0xFDF0, "\u0635\u0644\u06d2 \u0642\u0644\u06d2 \u0627\u0644\u0644\u0647"),
    (0xFDF3, "\u0627\u0643\u0628\u0631 \u0645\u062d\u0645\u062f"),
    (0xFDF5, "\u0635\u0644\u0639\u0645 \u0631\u0633\u0648\u0644"),
    (0xFDF7, "\u0639\u0644\u064a\u0647 \u0648\u0633\u0644\u0645 \u0635\u0644\u0649"),
    (0xFDFC, "\u0631\u06cc\u0627\u0644"), (0xFE10, ", 、"), (0xFE13, ": ; ! ? 〖 〗"),
    (0xFE31, "— – _ _ ( ) \x7b \x7d 〔 〕 【 】 《 》 〈 〉"), (0xFE47, "[ ]"), (0xFE4D, "_ _ _ , 、"),
    (0xFE54, "; : ? ! — ( ) \x7b \x7d 〔 〕 # & * + - < > ="), (0xFE68, "\\ $ % @"),
    (0xFE71, "\u0640\u064b"), (0xFE77, "\u0640\u064e"), (0xFE79, "\u0640\u064f"),
    (0xFE7B, "\u0640\u0650"), (0xFE7D, "\u0640\u0651"),
    (0xFE7F, "\u0640\u0652 \u0621 \u0622 \u0622 \u0623 \u0623 \u0624 \u0624 \u0625"),
    (0xFE88, "\u0625 \u0626 \u0626 \u0626 \u0626 \u0627 \u0627 \u0628 \u0628 \u0628"),
    (0xFE92, "\u0628 \u0629 \u0629 \u062a \u062a \u062a \u062a \u062b \u062b \u062b"),
    (0xFE9C, "\u062b \u062c \u062c \u062c \u062c \u062d \u062d \u062d \u062d \u062e"),
    (0xFEA6, "\u062e \u062e \u062e \u062f \u062f \u0630 \u0630 \u0631 \u0631 \u0632"),
    (0xFEB0, "\u0632 \u0633 \u0633 \u0633 \u0633 \u0634 \u0634 \u0634 \u0634 \u0635"),
    (0xFEBA, "\u0635 \u0635 \u0635 \u0636 \u0636 \u0636 \u0636 \u0637 \u0637 \u0637"),
    (0xFEC4, "\u0637 \u0638 \u0638 \u0638 \u0638 \u0639 \u0639 \u0639 \u0639 \u063a"),
    (0xFECE, "\u063a \u063a \u063a \u0641 \u0641 \u0641 \u0641 \u0642 \u0642 \u0642"),
    (0xFED8, "\u0642 \u0643 \u0643 \u0643 \u0643 \u0644 \u0644 \u0644 \u0644 \u0645"),
    (0xFEE2, "\u0645 \u0645 \u0645 \u0646 \u0646 \u0646 \u0646 \u0647 \u0647 \u0647"),
    (0xFEEC, "\u0647 \u0648 \u0648 \u0649 \u0649 \u064a \u064a \u064a \u064a"),
    (0xFEF5, "\u0644\u0622 \u0644\u0622 \u0644\u0623 \u0644\u0623 \u0644\u0625"),
    (0xFEFA, "\u0644\u0625 \u0644\u0627 \u0644\u0627"),
    (0xFF5F, "⦅ ⦆ . 「 」 、 ・ ヲ ァ ィ ゥ ェ ォ ャ ュ ョ ッ ー ア イ ウ エ オ カ キ ク ケ コ サ シ ス セ ソ タ チ ツ"),
    (0xFF83, "テ ト"), (0xFF8B, "ヒ フ ヘ ホ"), (0xFF94, "ヤ ユ"), (0xFF9C, "ワ ン \u3099 \u309a"),
    (0xFFA1, "\u1100 \u1101 \u11aa \u1102 \u11ac \u11ad \u1103 \u1104 \u1105"),
    (0xFFB0, "\u111a \u1106 \u1107 \u1108 \u1121"), (0xFFDA, "\u1173 \u1174 \u1175"),
    (0xFFE0, "¢ £ ¬"), (0xFFE4, "¦ ¥ ₩"), (0xFFE8, "│"), (0xFFED, "■ ○"), (0x10594, "𐖻 𐖼"),
    (0x10781, "ː ˑ æ ʙ ɓ"),
    (0x10787, "ʣ ꭦ ʥ ʤ ɖ ɗ ᶑ ɘ ɞ ʩ ɤ ɢ ɠ ʛ ħ ʜ ɧ ʄ ʪ ʫ ɬ 𝼄 ꞎ ɮ 𝼅 ʎ 𝼆 ø ɶ ɷ q ɺ 𝼈 ɽ ɾ ʀ"),
    (0x107AB, "ʨ ʦ ꭧ ʧ ʈ ⱱ"), (0x107B2, "ʏ ʡ ʢ ʘ ǀ ǁ ǂ 𝼊 𝼞"),
    (0x1D15E, "𝅗𝅥 𝅘𝅥 𝅘𝅥𝅮 𝅘𝅥𝅯 𝅘𝅥𝅰 𝅘𝅥𝅱 𝅘𝅥𝅲"), (0x1D1BB, "𝆹𝅥 𝆺𝅥 𝆹𝅥𝅮 𝆺𝅥𝅮 𝆹𝅥𝅯 𝆺𝅥𝅯"), (0x1D49C, "a"),
    (0x1D49E, "c d"), (0x1D4A2, "g"), (0x1D4A5, "j k"), (0x1D4BB, "f"), (0x1D504, "a b"),
    (0x1D538, "a b"), (0x1D546, "o"), (0x1D6A4, "ı ȷ"), (0x1D6B9, "θ"), (0x1D6C1, "∇"),
    (0x1D6D3, "σ"), (0x1D6DB, "∂ ε θ κ φ ρ π"), (0x1D6F3, "θ"), (0x1D6FB, "∇"), (0x1D70D, "σ"),
    (0x1D715, "∂ ε θ κ φ ρ π"), (0x1D72D, "θ"), (0x1D735, "∇"), (0x1D747, "σ"),
    (0x1D74F, "∂ ε θ κ φ ρ π"), (0x1D767, "θ"), (0x1D76F, "∇"), (0x1D781, "σ"),
    (0x1D789, "∂ ε θ κ φ ρ π"), (0x1D7A1, "θ"), (0x1D7A9, "∇"), (0x1D7BB, "σ"),
    (0x1D7C3, "∂ ε θ κ φ ρ π ϝ ϝ"), (0x1E039, "к л м"), (0x1E047, "ы э ю ꚉ ә і ј ө ү ӏ"),
    (0x1E05A, "к л о п с"), (0x1E065, "ъ ы ґ і ѕ џ ҫ ꙑ ұ"),
    (0x1EE00, "\u0627 \u0628 \u062c \u062f"), (0x1EE05, "\u0648 \u0632 \u062d \u0637 \u064a"),
    (0x1EE0E, "\u0633 \u0639 \u0641 \u0635 \u0642 \u0631 \u0634 \u062a \u062b \u062e"),
    (0x1EE18, "\u0630 \u0636 \u0638 \u063a \u066e \u06ba \u06a1 \u066f"),
    (0x1EE21, "\u0628 \u062c"), (0x1EE24, "\u0647"), (0x1EE27, "\u062d"), (0x1EE29, "\u064a"),
    (0x1EE2E, "\u0633 \u0639 \u0641 \u0635 \u0642"), (0x1EE34, "\u0634 \u062a \u062b \u062e"),
    (0x1EE39, "\u0636"), (0x1EE3B, "\u063a"), (0x1EE42, "\u062c"), (0x1EE47, "\u062d"),
    (0x1EE49, "\u064a"), (0x1EE4B, "\u0644"), (0x1EE4D, "\u0646 \u0633 \u0639"),
    (0x1EE51, "\u0635 \u0642"), (0x1EE54, "\u0634"), (0x1EE57, "\u062e"), (0x1EE59, "\u0636"),
    (0x1EE5B, "\u063a"), (0x1EE5D, "\u06ba"), (0x1EE5F, "\u066f"), (0x1EE61, "\u0628 \u062c"),
    (0x1EE64, "\u0647"), (0x1EE67, "\u062d \u0637 \u064a \u0643"),
    (0x1EE6C, "\u0645 \u0646 \u0633 \u0639 \u0641 \u0635 \u0642"),
    (0x1EE74, "\u0634 \u062a \u062b \u062e"), (0x1EE79, "\u0636 \u0638 \u063a \u066e"),
    (0x1EE7E, "\u06a1"),
    (0x1EE80, "\u0627 \u0628 \u062c \u062f \u0647 \u0648 \u0632 \u062d \u0637 \u064a"),
    (0x1EE8B, "\u0644 \u0645 \u0646 \u0633 \u0639 \u0641 \u0635 \u0642 \u0631 \u0634"),
    (0x1EE95, "\u062a \u062b \u062e \u0630 \u0636 \u0638 \u063a"),
    (0x1EEA1, "\u0628 \u062c \u062f"), (0x1EEA5, "\u0648 \u0632 \u062d \u0637 \u064a"),
    (0x1EEAB, "\u0644 \u0645 \u0646 \u0633 \u0639 \u0641 \u0635 \u0642 \u0631 \u0634"),
    (0x1EEB5, "\u062a \u062b \u062e \u0630 \u0636 \u0638 \u063a"),
    (0x1F101, "0, 1, 2, 3, 4, 5, 6, 7, 8, 9,"),
    (0x1F110, "(a) (b) (c) (d) (e) (f) (g) (h) (i) (j) (k) (l) (m) (n) (o) (p) (q) (r)"),
    (0x1F122, "(s) (t) (u) (v) (w) (x) (y) (z) 〔s〕 c r cd wz"), (0x1F14A, "hv mv sd ss ppv wc"),
    (0x1F16A, "mc md mr"), (0x1F190, "dj"), (0x1F200, "ほか ココ サ"),
    (0x1F210, "手 字 双 デ 二 多 解 天 交 映 無 料 前 後 再 新 初 終 生 販 声 吹 演 投 捕 一 三 遊 左 中 右 指 走 打 禁 空"),
    (0x1F234, "合 満 有 月 申 割 営 配"), (0x1F240, "〔本〕 〔三〕 〔二〕 〔安〕 〔点〕 〔打〕 〔盗〕 〔勝〕 〔敗〕"),
    (0x1F250, "得 可"),
    (0x2F800, "丽 丸 乁 𠄢 你 侮 侻 倂 偺 備 僧 像 㒞 𠘺 免 兔 兤 具 𠔜 㒹 內 再 𠕋 冗 冤 仌 冬 况 𩇟 凵 刃 㓟 刻 剆 割 剷"),
    (0x2F824, "㔕 勇 勉 勤 勺 包 匆 北 卉 卑 博 即 卽 卿 卿 卿 𠨬 灰 及 叟 𠭣 叫 叱 吆 咞 吸 呈 周 咢 哶 唐 啓 啣 善 善 喙"),
    (0x2F848, "喫 喳 嗂 圖 嘆 圗 噑 噴 切 壮 城 埴 堍 型 堲 報 墬 𡓤 売 壷 夆 多 夢 奢 𡚨 𡛪 姬 娛 娧 姘 婦 㛮 㛼 嬈 嬾 嬾"),
    (0x2F86C, "𡧈 寃 寘 寧 寳 𡬘 寿 将 当 尢 㞁 屠 屮 峀 岍 𡷤 嵃 𡷦 嵮 嵫 嵼 巡 巢 㠯 巽 帨 帽 幩 㡢 𢆃 㡼 庰 庳 庶 廊 𪎒"),
    (0x2F890, "廾 𢌱 𢌱 舁 弢 弢 㣇 𣊸 𦇚 形 彫 㣣 徚 忍 志 忹 悁 㤺 㤜 悔 𢛔 惇 慈 慌 慎 慌 慺 憎 憲 憤 憯 懞 懲 懶 成 戛"),
    (0x2F8B4, "扝 抱 拔 捐 𢬌 挽 拼 捨 掃 揤 𢯱 搢 揅 掩 㨮 摩 摾 撝 摷 㩬 敏 敬 𣀊 旣 書 晉 㬙 暑 㬈 㫤 冒 冕 最 暜 肭 䏙"),
    (0x2F8D8, "朗 望 朡 杞 杓 𣏃 㭉 柺 枅 桒 梅 𣑭 梎 栟 椔 㮝 楂 榣 槪 檨 𣚣 櫛 㰘 次 𣢧 歔 㱎 歲 殟 殺 殻 𣪍 𡴋 𣫺 汎 𣲼"),
    (0x2F8FC, "沿 泍 汧 洖 派 海 流 浩 浸 涅 𣴞 洴 港 湮 㴳 滋 滇 𣻑 淹 潮 𣽞 𣾎 濆 瀹 瀞 瀛 㶖 灊 災 灷 炭 𠔥 煅 𤉣 熜 𤎫"),
    (0x2F920, "爨 爵 牐 𤘈 犀 犕 𤜵 𤠔 獺 王 㺬 玥 㺸 㺸 瑇 瑜 瑱 璅 瓊 㼛 甤 𤰶 甾 𤲒 異 𢆟 瘐 𤾡 𤾸 𥁄 㿼 䀈 直 𥃳 𥃲 𥄙"),
    (0x2F944, "𥄳 眞 真 真 睊 䀹 瞋 䁆 䂖 𥐝 硎 碌 磌 䃣 𥘦 祖 𥚚 𥛅 福 秫 䄯 穀 穊 穏 𥥼 𥪧 𥪧 竮 䈂 𥮫 篆 築 䈧 𥲀 糒 䊠"),
    (0x2F968, "糨 糣 紀 𥾆 絣 䌁 緇 縂 繅 䌴 𦈨 𦉇 䍙 𦋙 罺 𦌾 羕 翺 者 𦓚 𦔣 聠 𦖨 聰 𣍟 䏕 育 脃 䐋 脾 媵 𦞧 𦞵 𣎓 𣎜 舁"),
    (0x2F98C, "舄 辞 䑫 芑 芋 芝 劳 花 芳 芽 苦 𦬼 若 茝 荣 莭 茣 莽 菧 著 荓 菊 菌 菜 𦰶 𦵫 𦳕 䔫 蓱 蓳 蔖 𧏊 蕤 𦼬 䕝 䕡"),
    (0x2F9B0, "𦾱 𧃒 䕫 虐 虜 虧 虩 蚩 蚈 蜎 蛢 蝹 蜨 蝫 螆 䗗 蟡 蠁 䗹 衠 衣 𧙧 裗 裞 䘵 裺 㒻 𧢮 𧥦 䚾 䛇 誠 諭 變 豕 𧲨"),
    (0x2F9D4, "貫 賁 贛 起 𧼯 𠠄 跋 趼 跰 𠣞 軔 輸 𨗒 𨗭 邔 郱 鄑 𨜮 鄛 鈸 鋗 鋘 鉼 鏹 鐕 𨯺 開 䦕 閷 𨵷 䧦 雃 嶲 霣 𩅅 𩈚"),
    (0x2F9F8, "䩮 䩶 韠 𩐊 䪲 𩒖 頋 頋 頩 𩖶 飢 䬳 餩 馧 駂 駾 䯎 𩬰 鬒 鱀 鳽 䳎 䳭 鵧 𪃎 䳸 𪄅 𪈎 𪊑 麻 䵖 黹 黾 鼅 鼏 鼖"),
    (0x2FA1C, "鼻 𪘀")]

/-- Characters that a name leaves out. -/
def leftOut : List (Nat × Nat) :=
  [
    (0xAD, 0xAD), (0x34F, 0x34F), (0x115F, 0x1160), (0x17B4, 0x17B5), (0x180B, 0x180F),
    (0x200B, 0x200B), (0x2060, 0x2064), (0x206A, 0x206F), (0x3164, 0x3164), (0xFE00, 0xFE0F),
    (0xFEFF, 0xFEFF), (0xFFA0, 0xFFA0), (0x1BCA0, 0x1BCA3), (0x1D173, 0x1D17A),
    (0xE0100, 0xE01EF)]

/-- Visible characters that a name may not hold. -/
def refused : List (Nat × Nat) :=
  [
    (0xA8, 0xA8), (0xAF, 0xAF), (0xB4, 0xB4), (0xB8, 0xB8), (0x2D8, 0x2DD), (0x37A, 0x37A),
    (0x384, 0x385), (0x1FBD, 0x1FBD), (0x1FBF, 0x1FC1), (0x1FCD, 0x1FCF), (0x1FDD, 0x1FDF),
    (0x1FED, 0x1FEE), (0x1FFD, 0x1FFE), (0x2017, 0x2017), (0x2024, 0x2026), (0x203E, 0x203E),
    (0x2488, 0x249B), (0x2FF0, 0x2FFF), (0x309B, 0x309C), (0x31EF, 0x31EF), (0x33C2, 0x33C2),
    (0x33C7, 0x33C7), (0x33D8, 0x33D8), (0xFC5E, 0xFC63), (0xFDFA, 0xFDFB), (0xFE12, 0xFE12),
    (0xFE19, 0xFE19), (0xFE30, 0xFE30), (0xFE49, 0xFE4C), (0xFE52, 0xFE52), (0xFE70, 0xFE70),
    (0xFE72, 0xFE72), (0xFE74, 0xFE74), (0xFE76, 0xFE76), (0xFE78, 0xFE78), (0xFE7A, 0xFE7A),
    (0xFE7C, 0xFE7C), (0xFE7E, 0xFE7E), (0xFFE3, 0xFFE3), (0xFFFC, 0xFFFD), (0x1F100, 0x1F100)]

/-! ## Folding -/

/-- The form of a character that lies at a step of a run. -/
def formInRun? (point : Nat) : Option Nat :=
  (foldedRuns.find? fun (first, last, step, _) =>
    first ≤ point && point ≤ last && (point - first) % step == 0).map
    fun (first, _, _, form) => form + (point - first)

/-- The forms that are told from the last row on that begins no later than the character. -/
def listedForm? (point : Nat) : Option (List Char) :=
  match (foldedForms.takeWhile fun row => row.1 ≤ point).getLast? with
  | some (first, forms) => (Text.splitAll ' ' forms.toList)[point - first]?
  | none => none

/-- Signs that join letters or keep them apart: hidden, but part of a name. -/
def isJoiner (c : Char) : Bool :=
  c == '\u200c' || c == '\u200d'

/-- The form of a character in a name; none if a name may not hold it.  Of the characters of
ASCII only capitals are folded. -/
def fold? (c : Char) : Option (List Char) :=
  if c.toNat < 128 then some [c.toLower]
  else
    match formInRun? c.toNat, listedForm? c.toNat with
    | some form, _ => some [Char.ofNat form]
    | none, some form => some form
    | none, none =>
      if Text.inRanges leftOut c.toNat then some []
      else if isJoiner c then some [c]
      else if Text.isHidden c || Text.inRanges refused c.toNat then none
      else some [c]

/-- Whether a character is its own form. -/
def isFolded (c : Char) : Bool :=
  fold? c == some [c]

end Domain
end Net
end Bayeux
