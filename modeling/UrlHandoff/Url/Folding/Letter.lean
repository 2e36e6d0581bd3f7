import UrlHandoff.Url.Folding.Run

namespace UrlHandoff.Url

def letterPassages : List FoldingPassage :=
  [⟨0xAA, "a"⟩,
   ⟨0xB2, "2 3"⟩,
   ⟨0xB5, "μ"⟩,
   ⟨0xB9, "1 o"⟩,
   ⟨0xBC, "1⁄4 1⁄2 3⁄4"⟩,
   ⟨0x130, "i\u0307"⟩,
   ⟨0x132, "ij ij ĵ"⟩,
   ⟨0x136, "ķ"⟩,
   ⟨0x13F, "l· l·"⟩,
   ⟨0x149, "ʼn"⟩,
   ⟨0x178, "ÿ"⟩,
   ⟨0x17F, "s"⟩,
   ⟨0x181, "ɓ ƃ"⟩,
   ⟨0x184, "ƅ"⟩,
   ⟨0x186, "ɔ ƈ"⟩,
   ⟨0x189, "ɖ ɗ ƌ"⟩,
   ⟨0x18E, "ǝ ə ɛ ƒ"⟩,
   ⟨0x193, "ɠ ɣ"⟩,
   ⟨0x196, "ɩ ɨ ƙ"⟩,
   ⟨0x19C, "ɯ ɲ"⟩,
   ⟨0x19F, "ɵ"⟩,
   ⟨0x1A6, "ʀ ƨ"⟩,
   ⟨0x1A9, "ʃ"⟩,
   ⟨0x1AC, "ƭ"⟩,
   ⟨0x1AE, "ʈ ư"⟩,
   ⟨0x1B1, "ʊ ʋ ƴ"⟩,
   ⟨0x1B5, "ƶ"⟩,
   ⟨0x1B7, "ʒ ƹ"⟩,
   ⟨0x1BC, "ƽ"⟩,
   ⟨0x1C4, "dž dž dž lj lj lj nj nj nj"⟩,
   ⟨0x1F1, "dz dz dz ǵ"⟩,
   ⟨0x1F6, "ƕ ƿ"⟩,
   ⟨0x220, "ƞ"⟩,
   ⟨0x23A, "ⱥ ȼ"⟩,
   ⟨0x23D, "ƚ ⱦ"⟩,
   ⟨0x241, "ɂ"⟩,
   ⟨0x243, "ƀ ʉ ʌ"⟩,
   ⟨0x2B0, "h ɦ j r ɹ ɻ ʁ w y"⟩,
   ⟨0x2E0, "ɣ l s x ʕ"⟩,
   ⟨0x340, "\u0300 \u0301"⟩,
   ⟨0x343, "\u0313 \u0308\u0301 ι"⟩,
   ⟨0x370, "ͱ"⟩,
   ⟨0x372, "ͳ"⟩,
   ⟨0x374, "ʹ"⟩,
   ⟨0x376, "ͷ"⟩,
   ⟨0x37E, "; ϳ"⟩,
   ⟨0x386, "ά ·"⟩,
   ⟨0x38C, "ό"⟩,
   ⟨0x38E, "ύ ώ"⟩,
   ⟨0x3CF, "ϗ β θ υ ύ ϋ φ π"⟩,
   ⟨0x3F0, "κ ρ σ"⟩,
   ⟨0x3F4, "θ ε"⟩,
   ⟨0x3F7, "ϸ"⟩,
   ⟨0x3F9, "σ ϻ"⟩,
   ⟨0x4C0, "ӏ"⟩,
   ⟨0x558, "է"⟩,
   ⟨0x587, "եւ"⟩,
   ⟨0x58B, "ի"⟩,
   ⟨0x675, "\u0627\u0674 \u0648\u0674 \u06c7\u0674 \u064a\u0674"⟩,
   ⟨0x958, "क\u093c ख\u093c ग\u093c ज\u093c ड\u093c ढ\u093c फ\u093c य\u093c"⟩,
   ⟨0x9DC, "ড\u09bc ঢ\u09bc"⟩,
   ⟨0x9DF, "য\u09bc"⟩,
   ⟨0xA33, "ਲ\u0a3c"⟩,
   ⟨0xA36, "ਸ\u0a3c"⟩,
   ⟨0xA59, "ਖ\u0a3c ਗ\u0a3c ਜ\u0a3c"⟩,
   ⟨0xA5E, "ਫ\u0a3c"⟩,
   ⟨0xB5C, "ଡ\u0b3c ଢ\u0b3c"⟩,
   ⟨0xE33, "\u0e4dา"⟩,
   ⟨0xEB3, "\u0ecdາ"⟩,
   ⟨0xEDC, "ຫນ ຫມ"⟩,
   ⟨0xF0C, "་"⟩,
   ⟨0xF43, "ག\u0fb7"⟩,
   ⟨0xF4D, "ཌ\u0fb7"⟩,
   ⟨0xF52, "ད\u0fb7"⟩,
   ⟨0xF57, "བ\u0fb7"⟩,
   ⟨0xF5C, "ཛ\u0fb7"⟩,
   ⟨0xF69, "ཀ\u0fb5"⟩,
   ⟨0xF73, "\u0f71\u0f72"⟩,
   ⟨0xF75, "\u0f71\u0f74 \u0fb2\u0f80 \u0fb2\u0f71\u0f80 \u0fb3\u0f80 \u0fb3\u0f71\u0f80"⟩,
   ⟨0xF81, "\u0f71\u0f80"⟩,
   ⟨0xF93, "\u0f92\u0fb7"⟩,
   ⟨0xF9D, "\u0f9c\u0fb7"⟩,
   ⟨0xFA2, "\u0fa1\u0fb7"⟩,
   ⟨0xFA7, "\u0fa6\u0fb7"⟩,
   ⟨0xFAC, "\u0fab\u0fb7"⟩,
   ⟨0xFB9, "\u0f90\u0fb5"⟩,
   ⟨0x10C7, "ⴧ"⟩,
   ⟨0x10CD, "ⴭ"⟩,
   ⟨0x10FC, "ნ"⟩,
   ⟨0x1C80, "в д о с т т ъ ѣ ꙋ ᲊ"⟩,
   ⟨0x1D2C, "a æ b"⟩,
   ⟨0x1D30, "d"⟩,
   ⟨0x1D32, "ǝ"⟩,
   ⟨0x1D3C, "o ȣ p r t u w a ɐ ɑ ᴂ b d e ə ɛ ɜ g"⟩,
   ⟨0x1D4F, "k m ŋ o ɔ ᴖ ᴗ p t u ᴝ ɯ v ᴥ"⟩,
   ⟨0x1D60, "φ χ i r u v β γ ρ φ χ"⟩,
   ⟨0x1D78, "н"⟩,
   ⟨0x1D9B, "ɒ c ɕ ð ɜ f ɟ ɡ ɥ"⟩,
   ⟨0x1DA7, "ᵻ ʝ ɭ ᶅ ʟ ɱ ɰ"⟩,
   ⟨0x1DB2, "ɸ ʂ ʃ ƫ ʉ ʊ ᴜ ʋ ʌ z"⟩,
   ⟨0x1DBF, "θ"⟩,
   ⟨0x1E9A, "aʾ ṡ"⟩,
   ⟨0x1E9E, "ß"⟩,
   ⟨0x1F71, "ά"⟩,
   ⟨0x1F73, "έ"⟩,
   ⟨0x1F75, "ή"⟩,
   ⟨0x1F77, "ί"⟩,
   ⟨0x1F79, "ό"⟩,
   ⟨0x1F7B, "ύ"⟩,
   ⟨0x1F7D, "ώ"⟩,
   ⟨0x1F80, "ἀι ἁι ἂι ἃι ἄι ἅι ἆι ἇι ἀι ἁι ἂι ἃι ἄι ἅι ἆι ἇι ἠι ἡι ἢι ἣι ἤι ἥι ἦι ἧι ἠι ἡι ἢι ἣι"⟩,
   ⟨0x1F9C, "ἤι ἥι ἦι ἧι ὠι ὡι ὢι ὣι ὤι ὥι ὦι ὧι ὠι ὡι ὢι ὣι ὤι ὥι ὦι ὧι"⟩,
   ⟨0x1FB2, "ὰι αι άι"⟩,
   ⟨0x1FB7, "ᾶι ᾰ ᾱ ὰ ά αι"⟩,
   ⟨0x1FBE, "ι"⟩,
   ⟨0x1FC2, "ὴι ηι ήι"⟩,
   ⟨0x1FC7, "ῆι ὲ έ ὴ ή ηι"⟩,
   ⟨0x1FD3, "ΐ"⟩,
   ⟨0x1FD8, "ῐ ῑ ὶ ί"⟩,
   ⟨0x1FE3, "ΰ"⟩,
   ⟨0x1FE8, "ῠ ῡ ὺ ύ ῥ"⟩,
   ⟨0x1FEF, "\x60"⟩,
   ⟨0x1FF2, "ὼι ωι ώι"⟩,
   ⟨0x1FF7, "ῶι ὸ ό ὼ ώ ωι"⟩,
   ⟨0x2011, "‐"⟩,
   ⟨0x2033, "′′ ′′′"⟩,
   ⟨0x2036, "‵‵ ‵‵‵"⟩,
   ⟨0x203C, "!!"⟩,
   ⟨0x2057, "′′′′"⟩,
   ⟨0x2070, "0 i"⟩,
   ⟨0x207A, "+ − = ( ) n"⟩,
   ⟨0x208A, "+ − = ( )"⟩,
   ⟨0x2090, "a e o x ə h"⟩,
   ⟨0x209A, "p s t w y z"⟩,
   ⟨0x20A8, "rs"⟩,
   ⟨0x2102, "c °c"⟩,
   ⟨0x2107, "ɛ"⟩,
   ⟨0x2109, "°f g h h h h ħ i i l l"⟩,
   ⟨0x2115, "n no"⟩,
   ⟨0x211C, "r r"⟩,
   ⟨0x2120, "sm tel tm"⟩,
   ⟨0x2124, "z"⟩,
   ⟨0x2126, "ω"⟩,
   ⟨0x2128, "z"⟩,
   ⟨0x212A, "k å b c"⟩,
   ⟨0x212F, "e e f ⅎ m o"⟩,
   ⟨0x2139, "i"⟩,
   ⟨0x213B, "fax π γ γ π ∑"⟩,
   ⟨0x2145, "d d e i j"⟩,
   ⟨0x2150, "1⁄7 1⁄9 1⁄10 1⁄3 2⁄3 1⁄5 2⁄5 3⁄5 4⁄5 1⁄6 5⁄6 1⁄8 3⁄8 5⁄8 7⁄8 1⁄ i ii iii iv v vi"⟩,
   ⟨0x2166, "vii viii ix x xi xii l c d m i ii iii iv v vi vii viii ix x xi xii l c d m"⟩,
   ⟨0x2183, "ↄ"⟩,
   ⟨0x2189, "0⁄3"⟩,
   ⟨0x222C, "∫∫ ∫∫∫"⟩,
   ⟨0x222F, "∮∮ ∮∮∮"⟩,
   ⟨0x2329, "〈 〉"⟩,
   ⟨0x2469, "10 11 12 13 14 15 16 17 18 19 20 (1) (2) (3) (4) (5) (6) (7) (8) (9) (10) (11) (12)"⟩,
   ⟨0x2480, "(13) (14) (15) (16) (17) (18) (19) (20)"⟩,
   ⟨0x249C, "(a) (b) (c) (d) (e) (f) (g) (h) (i) (j) (k) (l) (m) (n) (o) (p) (q) (r) (s) (t) (u)"⟩,
   ⟨0x24B1, "(v) (w) (x) (y) (z)"⟩,
   ⟨0x24EA, "0"⟩,
   ⟨0x2A0C, "∫∫∫∫"⟩,
   ⟨0x2A75, "== ==="⟩,
   ⟨0x2ADC, "⫝\u0338"⟩,
   ⟨0x2C60, "ⱡ"⟩,
   ⟨0x2C62, "ɫ ᵽ ɽ"⟩,
   ⟨0x2C6D, "ɑ ɱ ɐ ɒ"⟩,
   ⟨0x2C72, "ⱳ"⟩,
   ⟨0x2C75, "ⱶ"⟩,
   ⟨0x2C7C, "j v ȿ ɀ"⟩,
   ⟨0x2CEB, "ⳬ"⟩,
   ⟨0x2CED, "ⳮ"⟩,
   ⟨0x2CF2, "ⳳ"⟩,
   ⟨0x2D6F, "ⵡ"⟩]

end UrlHandoff.Url
