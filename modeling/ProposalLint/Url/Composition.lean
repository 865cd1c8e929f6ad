import ProposalLint.Text.CharSet

namespace ProposalLint.Url.Composition

-- What letters with a mark are made of.
def pairs : Text.CharTexts := ⟨#[
  (0xE0, "a\u0300 a\u0301 a\u0302 a\u0303 a\u0308 a\u030a / c\u0327 e\u0300 e\u0301 e\u0302"),
  (0xEB, "e\u0308 i\u0300 i\u0301 i\u0302 i\u0308 / n\u0303 o\u0300 o\u0301 o\u0302 o\u0303"),
  (0xF6, "o\u0308 / / u\u0300 u\u0301 u\u0302 u\u0308 y\u0301 / y\u0308 / a\u0304 / a\u0306"),
  (0x105, "a\u0328 / c\u0301 / c\u0302 / c\u0307 / c\u030c / d\u030c / / / e\u0304 / e\u0306"),
  (0x117, "e\u0307 / e\u0328 / e\u030c / g\u0302 / g\u0306 / g\u0307 / g\u0327 / h\u0302"),
  (0x129, "i\u0303 / i\u0304 / i\u0306 / i\u0328"),
  (0x135, "j\u0302 / k\u0327 / / l\u0301 / l\u0327 / l\u030c"),
  (0x144, "n\u0301 / n\u0327 / n\u030c"),
  (0x14D, "o\u0304 / o\u0306 / o\u030b / / / r\u0301 / r\u0327 / r\u030c / s\u0301 / s\u0302"),
  (0x15F, "s\u0327 / s\u030c / t\u0327 / t\u030c / / / u\u0303 / u\u0304 / u\u0306 / u\u030a"),
  (0x171, "u\u030b / u\u0328 / w\u0302 / y\u0302 / / z\u0301 / z\u0307 / z\u030c"),
  (0x1A1, "o\u031b"), (0x1B0, "u\u031b"),
  (0x1CE, "a\u030c / i\u030c / o\u030c / u\u030c / ü\u0304 / ü\u0301 / ü\u030c / ü\u0300"),
  (0x1DF, "ä\u0304 / ȧ\u0304 / æ\u0304 / / / g\u030c / k\u030c / o\u0328 / ǫ\u0304 / ʒ\u030c"),
  (0x1F0, "j\u030c"),
  (0x1F5, "g\u0301 / / / n\u0300 / å\u0301 / æ\u0301 / ø\u0301 / a\u030f / a\u0311 / e\u030f"),
  (0x207, "e\u0311 / i\u030f / i\u0311 / o\u030f / o\u0311 / r\u030f / r\u0311 / u\u030f"),
  (0x217, "u\u0311 / s\u0326 / t\u0326 / / / h\u030c"),
  (0x227, "a\u0307 / e\u0327 / ö\u0304 / õ\u0304 / o\u0307 / ȯ\u0304 / y\u0304"),
  (0x390, "ϊ\u0301"), (0x3AC, "α\u0301 ε\u0301 η\u0301 ι\u0301 ϋ\u0301"),
  (0x3CA, "ι\u0308 υ\u0308 ο\u0301 υ\u0301 ω\u0301"), (0x439, "и\u0306"),
  (0x450, "е\u0300 е\u0308 / г\u0301 / / / і\u0308"), (0x45C, "к\u0301 и\u0300 у\u0306"),
  (0x477, "ѵ\u030f"), (0x4C2, "ж\u0306"),
  (0x4D1, "а\u0306 / а\u0308 / / / е\u0306 / / / ә\u0308 / ж\u0308 / з\u0308 / / / и\u0304"),
  (0x4E5, "и\u0308 / о\u0308 / / / ө\u0308 / э\u0308 / у\u0304 / у\u0308 / у\u030b / ч\u0308"),
  (0x4F9, "ы\u0308"), (0x622, "\u0627\u0653 \u0627\u0654 \u0648\u0654 \u0627\u0655 \u064a\u0654"),
  (0x6C0, "\u06d5\u0654 / \u06c1\u0654"), (0x6D3, "\u06d2\u0654"), (0x929, "न\u093c"),
  (0x931, "र\u093c / / ळ\u093c"), (0x9CB, "\u09c7\u09be \u09c7\u09d7"),
  (0xB48, "\u0b47\u0b56 / / \u0b47\u0b3e \u0b47\u0b57"), (0xB94, "ஒ\u0bd7"),
  (0xBCA, "\u0bc6\u0bbe \u0bc7\u0bbe \u0bc6\u0bd7"), (0xC48, "\u0c46\u0c56"),
  (0xCC0, "\u0cbf\u0cd5"), (0xCC7, "\u0cc6\u0cd5 \u0cc6\u0cd6 / \u0cc6\u0cc2 \u0cca\u0cd5"),
  (0xD4A, "\u0d46\u0d3e \u0d47\u0d3e \u0d46\u0d57"),
  (0xDDA, "\u0dd9\u0dca / \u0dd9\u0dcf \u0ddc\u0dca \u0dd9\u0ddf"), (0x1026, "ဥ\u102e"),
  (0x1B06, "ᬅ\u1b35 / ᬇ\u1b35 / ᬉ\u1b35 / ᬋ\u1b35 / ᬍ\u1b35 / / / ᬑ\u1b35"),
  (0x1B3B, "\u1b3a\u1b35 / \u1b3c\u1b35 / / \u1b3e\u1b35 \u1b3f\u1b35 / \u1b42\u1b35"),
  (0x1E01, "a\u0325 / b\u0307 / b\u0323 / b\u0331 / ç\u0301 / d\u0307 / d\u0323 / d\u0331"),
  (0x1E11, "d\u0327 / d\u032d / ē\u0300 / ē\u0301 / e\u032d / e\u0330 / ȩ\u0306 / f\u0307"),
  (0x1E21, "g\u0304 / h\u0307 / h\u0323 / h\u0308 / h\u0327 / h\u032e / i\u0330 / ï\u0301"),
  (0x1E31, "k\u0301 / k\u0323 / k\u0331 / l\u0323 / ḷ\u0304 / l\u0331 / l\u032d / m\u0301"),
  (0x1E41, "m\u0307 / m\u0323 / n\u0307 / n\u0323 / n\u0331 / n\u032d / õ\u0301 / õ\u0308"),
  (0x1E51, "ō\u0300 / ō\u0301 / p\u0301 / p\u0307 / r\u0307 / r\u0323 / ṛ\u0304 / r\u0331"),
  (0x1E61, "s\u0307 / s\u0323 / ś\u0307 / š\u0307 / ṣ\u0307 / t\u0307 / t\u0323 / t\u0331"),
  (0x1E71, "t\u032d / u\u0324 / u\u0330 / u\u032d / ũ\u0301 / ū\u0308 / v\u0303 / v\u0323"),
  (0x1E81, "w\u0300 / w\u0301 / w\u0308 / w\u0307 / w\u0323 / x\u0307 / x\u0308 / y\u0307"),
  (0x1E91, "z\u0302 / z\u0323 / z\u0331 h\u0331 t\u0308 w\u030a y\u030a"),
  (0x1EA1, "a\u0323 / a\u0309 / â\u0301 / â\u0300 / â\u0309 / â\u0303 / ạ\u0302 / ă\u0301"),
  (0x1EB1, "ă\u0300 / ă\u0309 / ă\u0303 / ạ\u0306 / e\u0323 / e\u0309 / e\u0303 / ê\u0301"),
  (0x1EC1, "ê\u0300 / ê\u0309 / ê\u0303 / ẹ\u0302 / i\u0309 / i\u0323 / o\u0323 / o\u0309"),
  (0x1ED1, "ô\u0301 / ô\u0300 / ô\u0309 / ô\u0303 / ọ\u0302 / ơ\u0301 / ơ\u0300 / ơ\u0309"),
  (0x1EE1, "ơ\u0303 / ơ\u0323 / u\u0323 / u\u0309 / ư\u0301 / ư\u0300 / ư\u0309 / ư\u0303"),
  (0x1EF1, "ư\u0323 / y\u0300 / y\u0323 / y\u0309 / y\u0303"),
  (0x1F00, "α\u0313 α\u0314 ἀ\u0300 ἁ\u0300 ἀ\u0301 ἁ\u0301 ἀ\u0342 ἁ\u0342"),
  (0x1F10, "ε\u0313 ε\u0314 ἐ\u0300 ἑ\u0300 ἐ\u0301 ἑ\u0301"),
  (0x1F20, "η\u0313 η\u0314 ἠ\u0300 ἡ\u0300 ἠ\u0301 ἡ\u0301 ἠ\u0342 ἡ\u0342"),
  (0x1F30, "ι\u0313 ι\u0314 ἰ\u0300 ἱ\u0300 ἰ\u0301 ἱ\u0301 ἰ\u0342 ἱ\u0342"),
  (0x1F40, "ο\u0313 ο\u0314 ὀ\u0300 ὁ\u0300 ὀ\u0301 ὁ\u0301"),
  (0x1F50, "υ\u0313 υ\u0314 ὐ\u0300 ὑ\u0300 ὐ\u0301 ὑ\u0301 ὐ\u0342 ὑ\u0342"),
  (0x1F60, "ω\u0313 ω\u0314 ὠ\u0300 ὡ\u0300 ὠ\u0301 ὡ\u0301 ὠ\u0342 ὡ\u0342"),
  (0x1F70, "α\u0300 / ε\u0300 / η\u0300 / ι\u0300 / ο\u0300 / υ\u0300 / ω\u0300"),
  (0x1FB0, "α\u0306 α\u0304"), (0x1FB6, "α\u0342"), (0x1FC6, "η\u0342"),
  (0x1FD0, "ι\u0306 ι\u0304 ϊ\u0300 / / / ι\u0342 ϊ\u0342"),
  (0x1FE0, "υ\u0306 υ\u0304 ϋ\u0300 / ρ\u0313 ρ\u0314 υ\u0342 ϋ\u0342"), (0x1FF6, "ω\u0342"),
  (0x219A, "←\u0338 →\u0338"), (0x21AE, "↔\u0338"), (0x21CD, "⇐\u0338 ⇔\u0338 ⇒\u0338"),
  (0x2204, "∃\u0338"), (0x2209, "∈\u0338 / / ∋\u0338"), (0x2224, "∣\u0338 / ∥\u0338"),
  (0x2241, "∼\u0338 / / ≃\u0338 / / ≅\u0338 / ≈\u0338"), (0x2260, "=\u0338 / ≡\u0338"),
  (0x226D, "≍\u0338 <\u0338 >\u0338 ≤\u0338 ≥\u0338 / / ≲\u0338 ≳\u0338 / / ≶\u0338 ≷\u0338"),
  (0x2280, "≺\u0338 ≻\u0338 / / ⊂\u0338 ⊃\u0338 / / ⊆\u0338 ⊇\u0338"),
  (0x22AC, "⊢\u0338 ⊨\u0338 ⊩\u0338 ⊫\u0338"), (0x22E0, "≼\u0338 ≽\u0338 ⊑\u0338 ⊒\u0338"),
  (0x22EA, "⊲\u0338 ⊳\u0338 ⊴\u0338 ⊵\u0338"),
  (0x304C, "か\u3099 / き\u3099 / く\u3099 / け\u3099 / こ\u3099 / さ\u3099 / し\u3099 / す\u3099"),
  (0x305C, "せ\u3099 / そ\u3099 / た\u3099 / ち\u3099 / / つ\u3099 / て\u3099 / と\u3099"),
  (0x3070, "は\u3099 は\u309a / ひ\u3099 ひ\u309a / ふ\u3099 ふ\u309a / へ\u3099 へ\u309a"),
  (0x307C, "ほ\u3099 ほ\u309a"), (0x3094, "う\u3099"), (0x309E, "ゝ\u3099"),
  (0x30AC, "カ\u3099 / キ\u3099 / ク\u3099 / ケ\u3099 / コ\u3099 / サ\u3099 / シ\u3099 / ス\u3099"),
  (0x30BC, "セ\u3099 / ソ\u3099 / タ\u3099 / チ\u3099 / / ツ\u3099 / テ\u3099 / ト\u3099"),
  (0x30D0, "ハ\u3099 ハ\u309a / ヒ\u3099 ヒ\u309a / フ\u3099 フ\u309a / ヘ\u3099 ヘ\u309a"),
  (0x30DC, "ホ\u3099 ホ\u309a"),
  (0x30F4, "ウ\u3099 / / ワ\u3099 ヰ\u3099 ヱ\u3099 ヲ\u3099 / / / ヽ\u3099"), (0x1109A, "𑂚 / 𑂜"),
  (0x110AB, "𑂫"), (0x1112E, "𑄮 𑄯"), (0x1134B, "𑍋 𑍌"), (0x114BB, "𑒻 𑒼 / 𑒾"),
  (0x115BA, "𑖺 𑖻"), (0x11938, "𑤸")
]⟩

-- Marks by their class. Marks of different classes can stand in any order.
def classes : Array (Nat × Text.CharSet) := #[
  (230, ⟨#[(0x300, 0x314), (0x33D, 0x33F), (0x342, 0x342), (0x346, 0x346), (0x34A, 0x34C),
    (0x350, 0x352), (0x357, 0x357), (0x35B, 0x35B), (0x363, 0x36F), (0x483, 0x487), (0x592, 0x595),
    (0x597, 0x599), (0x59C, 0x5A1), (0x5A8, 0x5A9), (0x5AB, 0x5AC), (0x5AF, 0x5AF), (0x5C4, 0x5C4),
    (0x610, 0x617), (0x653, 0x654), (0x657, 0x65B), (0x65D, 0x65E), (0x6D6, 0x6DC), (0x6DF, 0x6E2),
    (0x6E4, 0x6E4), (0x6E7, 0x6E8), (0x6EB, 0x6EC), (0x730, 0x730), (0x732, 0x733), (0x735, 0x736),
    (0x73A, 0x73A), (0x73D, 0x73D), (0x73F, 0x741), (0x743, 0x743), (0x745, 0x745), (0x747, 0x747),
    (0x749, 0x74A), (0x7EB, 0x7F1), (0x7F3, 0x7F3), (0x816, 0x819), (0x81B, 0x823), (0x825, 0x827),
    (0x829, 0x82D), (0x898, 0x898), (0x89C, 0x89F), (0x8CA, 0x8CE), (0x8D4, 0x8E1), (0x8E4, 0x8E5),
    (0x8E7, 0x8E8), (0x8EA, 0x8EC), (0x8F3, 0x8F5), (0x8F7, 0x8F8), (0x8FB, 0x8FF), (0x951, 0x951),
    (0x953, 0x954), (0x9FE, 0x9FE), (0xF82, 0xF83), (0xF86, 0xF87), (0x135D, 0x135F),
    (0x17DD, 0x17DD), (0x193A, 0x193A), (0x1A17, 0x1A17), (0x1A75, 0x1A7C), (0x1AB0, 0x1AB4),
    (0x1ABB, 0x1ABC), (0x1AC1, 0x1AC2), (0x1AC5, 0x1AC9), (0x1ACB, 0x1ACE), (0x1B6B, 0x1B6B),
    (0x1B6D, 0x1B73), (0x1CD0, 0x1CD2), (0x1CDA, 0x1CDB), (0x1CE0, 0x1CE0), (0x1CF4, 0x1CF4),
    (0x1CF8, 0x1CF9), (0x1DC0, 0x1DC1), (0x1DC3, 0x1DC9), (0x1DCB, 0x1DCC), (0x1DD1, 0x1DF5),
    (0x1DFB, 0x1DFB), (0x1DFE, 0x1DFE), (0x20D0, 0x20D1), (0x20D4, 0x20D7), (0x20DB, 0x20DC),
    (0x20E1, 0x20E1), (0x20E7, 0x20E7), (0x20E9, 0x20E9), (0x20F0, 0x20F0), (0x2CEF, 0x2CF1),
    (0x2DE0, 0x2DFF), (0xA66F, 0xA66F), (0xA674, 0xA67D), (0xA69E, 0xA69F), (0xA6F0, 0xA6F1),
    (0xA8E0, 0xA8F1), (0xAAB0, 0xAAB0), (0xAAB2, 0xAAB3), (0xAAB7, 0xAAB8), (0xAABE, 0xAABF),
    (0xAAC1, 0xAAC1), (0xFE20, 0xFE26), (0xFE2E, 0xFE2F), (0x10376, 0x1037A), (0x10A0F, 0x10A0F),
    (0x10A38, 0x10A38), (0x10AE5, 0x10AE5), (0x10D24, 0x10D27), (0x10EAB, 0x10EAC),
    (0x10F48, 0x10F4A), (0x10F4C, 0x10F4C), (0x10F82, 0x10F82), (0x10F84, 0x10F84),
    (0x11100, 0x11102), (0x11366, 0x1136C), (0x11370, 0x11374), (0x1145E, 0x1145E),
    (0x16B30, 0x16B36), (0x1D185, 0x1D189), (0x1D1AA, 0x1D1AD), (0x1D242, 0x1D244),
    (0x1E000, 0x1E006), (0x1E008, 0x1E018), (0x1E01B, 0x1E021), (0x1E023, 0x1E024),
    (0x1E026, 0x1E02A), (0x1E08F, 0x1E08F), (0x1E130, 0x1E136), (0x1E2AE, 0x1E2AE),
    (0x1E2EC, 0x1E2EF), (0x1E4EF, 0x1E4EF), (0x1E944, 0x1E949)]⟩),
  (220, ⟨#[(0x316, 0x319), (0x31C, 0x320), (0x323, 0x326), (0x329, 0x333), (0x339, 0x33C),
    (0x347, 0x349), (0x34D, 0x34E), (0x353, 0x356), (0x359, 0x35A), (0x591, 0x591), (0x596, 0x596),
    (0x59B, 0x59B), (0x5A2, 0x5A7), (0x5AA, 0x5AA), (0x5C5, 0x5C5), (0x655, 0x656), (0x65C, 0x65C),
    (0x65F, 0x65F), (0x6E3, 0x6E3), (0x6EA, 0x6EA), (0x6ED, 0x6ED), (0x731, 0x731), (0x734, 0x734),
    (0x737, 0x739), (0x73B, 0x73C), (0x73E, 0x73E), (0x742, 0x742), (0x744, 0x744), (0x746, 0x746),
    (0x748, 0x748), (0x7F2, 0x7F2), (0x7FD, 0x7FD), (0x859, 0x85B), (0x899, 0x89B), (0x8CF, 0x8D3),
    (0x8E3, 0x8E3), (0x8E6, 0x8E6), (0x8E9, 0x8E9), (0x8ED, 0x8EF), (0x8F6, 0x8F6), (0x8F9, 0x8FA),
    (0x952, 0x952), (0xF18, 0xF19), (0xF35, 0xF35), (0xF37, 0xF37), (0xFC6, 0xFC6),
    (0x108D, 0x108D), (0x193B, 0x193B), (0x1A18, 0x1A18), (0x1A7F, 0x1A7F), (0x1AB5, 0x1ABA),
    (0x1ABD, 0x1ABD), (0x1ABF, 0x1AC0), (0x1AC3, 0x1AC4), (0x1ACA, 0x1ACA), (0x1B6C, 0x1B6C),
    (0x1CD5, 0x1CD9), (0x1CDC, 0x1CDF), (0x1CED, 0x1CED), (0x1DC2, 0x1DC2), (0x1DCA, 0x1DCA),
    (0x1DCF, 0x1DCF), (0x1DF9, 0x1DF9), (0x1DFD, 0x1DFD), (0x1DFF, 0x1DFF), (0x20E8, 0x20E8),
    (0x20EC, 0x20EF), (0xA92B, 0xA92D), (0xAAB4, 0xAAB4), (0xFE27, 0xFE2D), (0x101FD, 0x101FD),
    (0x102E0, 0x102E0), (0x10A0D, 0x10A0D), (0x10A3A, 0x10A3A), (0x10AE6, 0x10AE6),
    (0x10EFD, 0x10EFF), (0x10F46, 0x10F47), (0x10F4B, 0x10F4B), (0x10F4D, 0x10F50),
    (0x10F83, 0x10F83), (0x10F85, 0x10F85), (0x1D17B, 0x1D182), (0x1D18A, 0x1D18B),
    (0x1E4EE, 0x1E4EE), (0x1E8D0, 0x1E8D6)]⟩),
  (9, ⟨#[(0x94D, 0x94D), (0x9CD, 0x9CD), (0xA4D, 0xA4D), (0xACD, 0xACD), (0xB4D, 0xB4D),
    (0xBCD, 0xBCD), (0xC4D, 0xC4D), (0xCCD, 0xCCD), (0xD3B, 0xD3C), (0xD4D, 0xD4D), (0xDCA, 0xDCA),
    (0xE3A, 0xE3A), (0xEBA, 0xEBA), (0xF84, 0xF84), (0x1039, 0x103A), (0x1714, 0x1715),
    (0x1734, 0x1734), (0x17D2, 0x17D2), (0x1A60, 0x1A60), (0x1B44, 0x1B44), (0x1BAA, 0x1BAB),
    (0x1BF2, 0x1BF3), (0x2D7F, 0x2D7F), (0xA806, 0xA806), (0xA82C, 0xA82C), (0xA8C4, 0xA8C4),
    (0xA953, 0xA953), (0xA9C0, 0xA9C0), (0xAAF6, 0xAAF6), (0xABED, 0xABED), (0x10A3F, 0x10A3F),
    (0x11046, 0x11046), (0x11070, 0x11070), (0x1107F, 0x1107F), (0x110B9, 0x110B9),
    (0x11133, 0x11134), (0x111C0, 0x111C0), (0x11235, 0x11235), (0x112EA, 0x112EA),
    (0x1134D, 0x1134D), (0x11442, 0x11442), (0x114C2, 0x114C2), (0x115BF, 0x115BF),
    (0x1163F, 0x1163F), (0x116B6, 0x116B6), (0x1172B, 0x1172B), (0x11839, 0x11839),
    (0x1193D, 0x1193E), (0x119E0, 0x119E0), (0x11A34, 0x11A34), (0x11A47, 0x11A47),
    (0x11A99, 0x11A99), (0x11C3F, 0x11C3F), (0x11D44, 0x11D45), (0x11D97, 0x11D97),
    (0x11F41, 0x11F42)]⟩),
  (1, ⟨#[(0x334, 0x338), (0x1CD4, 0x1CD4), (0x1CE2, 0x1CE8), (0x20D2, 0x20D3), (0x20D8, 0x20DA),
    (0x20E5, 0x20E6), (0x20EA, 0x20EB), (0x10A39, 0x10A39), (0x16AF0, 0x16AF4), (0x1BC9E, 0x1BC9E),
    (0x1D167, 0x1D169)]⟩),
  (7, ⟨#[(0x93C, 0x93C), (0x9BC, 0x9BC), (0xA3C, 0xA3C), (0xABC, 0xABC), (0xB3C, 0xB3C),
    (0xC3C, 0xC3C), (0xCBC, 0xCBC), (0x1037, 0x1037), (0x1B34, 0x1B34), (0x1BE6, 0x1BE6),
    (0x1C37, 0x1C37), (0xA9B3, 0xA9B3), (0x110BA, 0x110BA), (0x11173, 0x11173), (0x111CA, 0x111CA),
    (0x11236, 0x11236), (0x112E9, 0x112E9), (0x1133B, 0x1133C), (0x11446, 0x11446),
    (0x114C3, 0x114C3), (0x115C0, 0x115C0), (0x116B7, 0x116B7), (0x1183A, 0x1183A),
    (0x11943, 0x11943), (0x11D42, 0x11D42), (0x1E94A, 0x1E94A)]⟩),
  (216, ⟨#[(0x31B, 0x31B), (0xF39, 0xF39), (0x1D165, 0x1D166), (0x1D16E, 0x1D172)]⟩),
  (232, ⟨#[(0x315, 0x315), (0x31A, 0x31A), (0x358, 0x358), (0x1DF6, 0x1DF6), (0x302C, 0x302C),
    (0x1E4EC, 0x1E4ED)]⟩),
  (130, ⟨#[(0xF72, 0xF72), (0xF7A, 0xF7D), (0xF80, 0xF80)]⟩),
  (202, ⟨#[(0x321, 0x322), (0x327, 0x328), (0x1DD0, 0x1DD0)]⟩),
  (228, ⟨#[(0x5AE, 0x5AE), (0x18A9, 0x18A9), (0x1DF7, 0x1DF8), (0x302B, 0x302B)]⟩),
  (234, ⟨#[(0x35D, 0x35E), (0x360, 0x361), (0x1DCD, 0x1DCD)]⟩), (107, ⟨#[(0xE48, 0xE4B)]⟩),
  (122, ⟨#[(0xEC8, 0xECB)]⟩),
  (222, ⟨#[(0x59A, 0x59A), (0x5AD, 0x5AD), (0x1939, 0x1939), (0x302D, 0x302D)]⟩),
  (233, ⟨#[(0x35C, 0x35C), (0x35F, 0x35F), (0x362, 0x362), (0x1DFC, 0x1DFC)]⟩),
  (6, ⟨#[(0x16FF0, 0x16FF1)]⟩), (8, ⟨#[(0x3099, 0x309A)]⟩),
  (18, ⟨#[(0x5B8, 0x5B8), (0x5C7, 0x5C7)]⟩), (19, ⟨#[(0x5B9, 0x5BA)]⟩),
  (27, ⟨#[(0x64B, 0x64B), (0x8F0, 0x8F0)]⟩), (28, ⟨#[(0x64C, 0x64C), (0x8F1, 0x8F1)]⟩),
  (29, ⟨#[(0x64D, 0x64D), (0x8F2, 0x8F2)]⟩), (30, ⟨#[(0x618, 0x618), (0x64E, 0x64E)]⟩),
  (31, ⟨#[(0x619, 0x619), (0x64F, 0x64F)]⟩), (32, ⟨#[(0x61A, 0x61A), (0x650, 0x650)]⟩),
  (103, ⟨#[(0xE38, 0xE39)]⟩), (118, ⟨#[(0xEB8, 0xEB9)]⟩),
  (218, ⟨#[(0x1DFA, 0x1DFA), (0x302A, 0x302A)]⟩), (224, ⟨#[(0x302E, 0x302F)]⟩),
  (10, ⟨#[(0x5B0, 0x5B0)]⟩), (11, ⟨#[(0x5B1, 0x5B1)]⟩), (12, ⟨#[(0x5B2, 0x5B2)]⟩),
  (13, ⟨#[(0x5B3, 0x5B3)]⟩), (14, ⟨#[(0x5B4, 0x5B4)]⟩), (15, ⟨#[(0x5B5, 0x5B5)]⟩),
  (16, ⟨#[(0x5B6, 0x5B6)]⟩), (17, ⟨#[(0x5B7, 0x5B7)]⟩), (20, ⟨#[(0x5BB, 0x5BB)]⟩),
  (21, ⟨#[(0x5BC, 0x5BC)]⟩), (22, ⟨#[(0x5BD, 0x5BD)]⟩), (23, ⟨#[(0x5BF, 0x5BF)]⟩),
  (24, ⟨#[(0x5C1, 0x5C1)]⟩), (25, ⟨#[(0x5C2, 0x5C2)]⟩), (26, ⟨#[(0xFB1E, 0xFB1E)]⟩),
  (33, ⟨#[(0x651, 0x651)]⟩), (34, ⟨#[(0x652, 0x652)]⟩), (35, ⟨#[(0x670, 0x670)]⟩),
  (36, ⟨#[(0x711, 0x711)]⟩), (84, ⟨#[(0xC55, 0xC55)]⟩), (91, ⟨#[(0xC56, 0xC56)]⟩),
  (129, ⟨#[(0xF71, 0xF71)]⟩), (132, ⟨#[(0xF74, 0xF74)]⟩), (214, ⟨#[(0x1DCE, 0x1DCE)]⟩),
  (226, ⟨#[(0x1D16D, 0x1D16D)]⟩)
]

-- Letters, and all else that is no mark, have class zero.
def classOf (c : Char) : Nat :=
  if c.toNat < 0x300 then 0 else ((classes.find? (·.2.contains c)).map (·.1)).getD 0

-- Korean syllables are computed: a lead and a vowel, with or without a tail.
def syllableParts? (c : Char) : Option (List Char) :=
  let i := c.toNat - 0xAC00
  if c.toNat < 0xAC00 || 11172 ≤ i then none
  else if i % 28 = 0 then some [Char.ofNat (0x1100 + i / 588), Char.ofNat (0x1161 + i % 588 / 28)]
  else some [Char.ofNat (0xAC00 + i / 28 * 28), Char.ofNat (0x11A7 + i % 28)]

def syllable? (a b : Char) : Option Char :=
  let lead := a.toNat - 0x1100
  let vowel := b.toNat - 0x1161
  let tail := b.toNat - 0x11A7
  let i := a.toNat - 0xAC00
  if 0x1100 ≤ a.toNat && lead < 19 && 0x1161 ≤ b.toNat && vowel < 21 then
    some (Char.ofNat (0xAC00 + (lead * 21 + vowel) * 28))
  else if 0xAC00 ≤ a.toNat && i < 11172 && i % 28 = 0 && 0x11A7 < b.toNat && tail < 28 then
    some (Char.ofNat (a.toNat + tail))
  else none

def parts (c : Char) : List Char :=
  ((syllableParts? c).or (pairs.text? c)).getD [c]

-- A letter has two marks at most, and a syllable three parts.
def takeApart (cs : List Char) : List Char :=
  (cs.flatMap parts).flatMap parts

-- Puts a character in front, behind the marks that follow if their class is lower.
def insert (c : Char) : List Char → List Char
  | [] => [c]
  | d :: ds => if 0 < classOf d && classOf d < classOf c then d :: insert c ds else c :: d :: ds

def sortMarks (cs : List Char) : List Char :=
  cs.foldr insert []

def joined? (a b : Char) : Option Char :=
  (syllable? a b).or (pairs.char? [a, b])

-- Joins a letter with marks behind it. The marks that it has no use for are held back, in reverse;
-- they keep off those of their own class and other letters.
def joinFrom (letter : Char) (held : List Char) : List Char → List Char
  | [] => letter :: held.reverse
  | c :: cs =>
    let isFree := held.head?.all fun d => classOf d < classOf c
    match if isFree then joined? letter c else none with
    | some letter => joinFrom letter held cs
    | none =>
      if classOf c = 0 then letter :: held.reverse ++ joinFrom c [] cs
      else joinFrom letter (c :: held) cs

def joinAll : List Char → List Char
  | [] => []
  | c :: cs => if classOf c = 0 then joinFrom c [] cs else c :: joinAll cs

-- The text in which letters and their marks are joined where they can be.
def compose (cs : List Char) : List Char :=
  joinAll (sortMarks (takeApart cs))

end ProposalLint.Url.Composition
