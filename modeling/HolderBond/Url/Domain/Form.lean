import HolderBond.Text.Marks
import HolderBond.Text.Unprinted

/-!
# Characters in domain names

What each character becomes in a domain name: letters lose their case and their typographic
variants, some characters vanish, others may not occur.  A character that becomes other
characters outside ASCII is told apart from one that stays, but stands for itself: what it
becomes is of the same nature, and nothing here asks for more.
-/

set_option autoImplicit false

namespace HolderBond.Url.Domain

inductive Form where
  | stays
  /-- The character becomes others of its own nature, none of them in ASCII. -/
  | folds
  | becomes (text : String)
  | refused
  deriving DecidableEq

def vanishingSpans : List (Nat × Nat) :=
  [(0xAD, 0xAD), (0x34F, 0x34F), (0x115F, 0x1160), (0x17B4, 0x17B5), (0x180B, 0x180F),
   (0x200B, 0x200B), (0x2060, 0x2064), (0x206A, 0x206F), (0x3164, 0x3164), (0xFE00, 0xFE0F),
   (0xFEFF, 0xFEFF), (0xFFA0, 0xFFA0), (0x1BCA0, 0x1BCA3), (0x1D173, 0x1D17A), (0xE0100, 0xE01EF)]

/-- Runs of characters that become one character each: the first of the run, and what its
members become. -/
def singleForms : List (Nat × String) :=
  [(0x41, "abcdefghijklmnopqrstuvwxyz"), (0xA0, " "), (0xAA, "a"), (0xB2, "23"), (0xB9, "1o"),
   (0x17F, "s"), (0x2B0, "h"), (0x2B2, "jr"), (0x2B7, "wy"), (0x2E1, "lsx"), (0x345, "\u03b9"),
   (0x37E, ";"), (0x1D2C, "a"), (0x1D2E, "b"), (0x1D30, "de"), (0x1D33, "ghijklmn"), (0x1D3C, "o"),
   (0x1D3E, "prtuwa"), (0x1D47, "bde"), (0x1D4D, "g"), (0x1D4F, "km"), (0x1D52, "o"),
   (0x1D56, "ptu"), (0x1D5B, "v"), (0x1D62, "iruv"), (0x1D9C, "c"), (0x1DA0, "f"), (0x1DBB, "z"),
   (0x1FEF, "`"), (0x2000, "           "), (0x202F, " "), (0x205F, " "), (0x2070, "0i"),
   (0x2074, "456789+"), (0x207C, "=()n0123456789+"), (0x208C, "=()"), (0x2090, "aeox"),
   (0x2095, "hklmnpst"), (0x2102, "c"), (0x210A, "ghhhh"), (0x2110, "iill"), (0x2115, "n"),
   (0x2119, "pqrrr"), (0x2124, "z"), (0x2128, "z"), (0x212A, "k"), (0x212C, "bc"), (0x212F, "eef"),
   (0x2133, "mo\u05d0\u05d1\u05d2\u05d3i"), (0x2145, "ddeij"), (0x2160, "i"), (0x2164, "v"),
   (0x2169, "x"), (0x216C, "lcdmi"), (0x2174, "v"), (0x2179, "x"), (0x217C, "lcdm"),
   (0x2460, "123456789"), (0x24B6, "abcdefghijklmnopqrstuvwxyzabcdefghijklmnopqrstuvwxyz0"),
   (0x2C7C, "jv"), (0x3000, " "), (0x3002, "."), (0xA7F1, "scfq"), (0xFB29, "+"), (0xFE10, ","),
   (0xFE13, ":;!?"), (0xFE33, "__()\x7b\x7d"), (0xFE47, "[]"), (0xFE4D, "___,"), (0xFE54, ";:?!"),
   (0xFE59, "()\x7b\x7d"), (0xFE5F, "#&*+-<>="), (0xFE68, "\\$%@"),
   (0xFF01, "!\"#$%&'()*+,-./0123456789:;<=>?@abcdefghijklmnopqrstuvwxyz[\\"),
   (0xFF3D, "]^_`abcdefghijklmnopqrstuvwxyz\x7b|\x7d~"), (0xFF61, "."), (0xFF9E, "\u3099\u309a"),
   (0x107A5, "q"), (0x1CCD6, "abcdefghijklmnopqrstuvwxyz0123456789"),
   (0x1D400, "abcdefghijklmnopqrstuvwxyzabcdefghijklmnopqrstuvwxyzabcdefgh"),
   (0x1D43C, "ijklmnopqrstuvwxyzabcdefg"),
   (0x1D456, "ijklmnopqrstuvwxyzabcdefghijklmnopqrstuvwxyzabcdefghijklmnop"),
   (0x1D492, "qrstuvwxyza"), (0x1D49E, "cd"), (0x1D4A2, "g"), (0x1D4A5, "jk"), (0x1D4A9, "nopq"),
   (0x1D4AE, "stuvwxyzabcd"), (0x1D4BB, "f"), (0x1D4BD, "hijklmn"),
   (0x1D4C5, "pqrstuvwxyzabcdefghijklmnopqrstuvwxyzabcdefghijklmnopqrstuvw"), (0x1D501, "xyzab"),
   (0x1D507, "defg"), (0x1D50D, "jklmnopq"), (0x1D516, "stuvwxy"),
   (0x1D51E, "abcdefghijklmnopqrstuvwxyzab"), (0x1D53B, "defg"), (0x1D540, "ijklm"),
   (0x1D546, "o"), (0x1D54A, "stuvwxy"),
   (0x1D552, "abcdefghijklmnopqrstuvwxyzabcdefghijklmnopqrstuvwxyzabcdefgh"),
   (0x1D58E, "ijklmnopqrstuvwxyzabcdefghijklmnopqrstuvwxyzabcdefghijklmnop"),
   (0x1D5CA, "qrstuvwxyzabcdefghijklmnopqrstuvwxyzabcdefghijklmnopqrstuvwx"),
   (0x1D606, "yzabcdefghijklmnopqrstuvwxyzabcdefghijklmnopqrstuvwxyzabcdef"),
   (0x1D642, "ghijklmnopqrstuvwxyzabcdefghijklmnopqrstuvwxyzabcdefghijklmn"),
   (0x1D67E, "opqrstuvwxyzabcdefghijklmnopqrstuvwxyz"), (0x1D6C1, "\u2207"), (0x1D6FB, "\u2207"),
   (0x1D735, "\u2207"), (0x1D76F, "\u2207"), (0x1D7A9, "\u2207"),
   (0x1D7CE, "01234567890123456789012345678901234567890123456789"), (0x1F12B, "cr"),
   (0x1F130, "abcdefghijklmnopqrstuvwxyz"), (0x1FBF0, "0123456789")]

def longForms : List (Nat × List String) :=
  [(0xA8, [" \u0308"]), (0xAF, [" \u0304"]), (0xB4, [" \u0301"]), (0xB8, [" \u0327"]),
   (0xBC, ["1\u20444", "1\u20442", "3\u20444"]), (0x130, ["i\u0307"]), (0x132, ["ij", "ij"]),
   (0x13F, ["l\u00b7", "l\u00b7"]), (0x149, ["\u02bcn"]),
   (0x1C4, ["d\u017e", "d\u017e", "d\u017e", "lj", "lj", "lj", "nj", "nj", "nj"]),
   (0x1F1, ["dz", "dz", "dz"]),
   (0x2D8, [" \u0306", " \u0307", " \u030a", " \u0328", " \u0303", " \u030b"]),
   (0x37A, [" \u03b9"]), (0x384, [" \u0301", " \u0308\u0301"]), (0xE33, ["\u0e4d\u0e32"]),
   (0xEB3, ["\u0ecd\u0eb2"]), (0x1E9A, ["a\u02be"]), (0x1FBD, [" \u0313"]),
   (0x1FBF, [" \u0313", " \u0342", " \u0308\u0342"]),
   (0x1FCD, [" \u0313\u0300", " \u0313\u0301", " \u0313\u0342"]),
   (0x1FDD, [" \u0314\u0300", " \u0314\u0301", " \u0314\u0342"]),
   (0x1FED, [" \u0308\u0300", " \u0308\u0301"]), (0x1FFD, [" \u0301", " \u0314"]),
   (0x2017, [" \u0333"]), (0x203C, ["!!"]), (0x203E, [" \u0305"]), (0x2047, ["??", "?!", "!?"]),
   (0x20A8, ["rs"]), (0x2100, ["a/c", "a/s"]), (0x2103, ["\u00b0c"]), (0x2105, ["c/o", "c/u"]),
   (0x2109, ["\u00b0f"]), (0x2116, ["no"]), (0x2120, ["sm", "tel", "tm"]), (0x213B, ["fax"]),
   (0x2150, ["1\u20447", "1\u20449", "1\u204410", "1\u20443", "2\u20443", "1\u20445"]),
   (0x2156, ["2\u20445", "3\u20445", "4\u20445", "1\u20446", "5\u20446", "1\u20448"]),
   (0x215C, ["3\u20448", "5\u20448", "7\u20448", "1\u2044"]), (0x2161, ["ii", "iii", "iv"]),
   (0x2165, ["vi", "vii", "viii", "ix"]), (0x216A, ["xi", "xii"]), (0x2171, ["ii", "iii", "iv"]),
   (0x2175, ["vi", "vii", "viii", "ix"]), (0x217A, ["xi", "xii"]), (0x2189, ["0\u20443"]),
   (0x2469, ["10", "11", "12", "13", "14", "15", "16", "17", "18", "19", "20", "(1)", "(2)"]),
   (0x2476, ["(3)", "(4)", "(5)", "(6)", "(7)", "(8)", "(9)", "(10)", "(11)", "(12)"]),
   (0x2480, ["(13)", "(14)", "(15)", "(16)", "(17)", "(18)", "(19)", "(20)"]),
   (0x249C, ["(a)", "(b)", "(c)", "(d)", "(e)", "(f)", "(g)", "(h)", "(i)", "(j)", "(k)"]),
   (0x24A7, ["(l)", "(m)", "(n)", "(o)", "(p)", "(q)", "(r)", "(s)", "(t)", "(u)", "(v)"]),
   (0x24B2, ["(w)", "(x)", "(y)", "(z)"]), (0x2A74, ["::=", "==", "==="]),
   (0x309B, [" \u3099", " \u309a"]),
   (0x3200, ["(\u1100)", "(\u1102)", "(\u1103)", "(\u1105)", "(\u1106)", "(\u1107)"]),
   (0x3206, ["(\u1109)", "(\u110b)", "(\u110c)", "(\u110e)", "(\u110f)", "(\u1110)"]),
   (0x320C, ["(\u1111)", "(\u1112)", "(\uac00)", "(\ub098)", "(\ub2e4)", "(\ub77c)"]),
   (0x3212, ["(\ub9c8)", "(\ubc14)", "(\uc0ac)", "(\uc544)", "(\uc790)", "(\ucc28)"]),
   (0x3218, ["(\uce74)", "(\ud0c0)", "(\ud30c)", "(\ud558)", "(\uc8fc)", "(\uc624\uc804)"]),
   (0x321E, ["(\uc624\ud6c4)"]),
   (0x3220, ["(\u4e00)", "(\u4e8c)", "(\u4e09)", "(\u56db)", "(\u4e94)", "(\u516d)"]),
   (0x3226, ["(\u4e03)", "(\u516b)", "(\u4e5d)", "(\u5341)", "(\u6708)", "(\u706b)"]),
   (0x322C, ["(\u6c34)", "(\u6728)", "(\u91d1)", "(\u571f)", "(\u65e5)", "(\u682a)"]),
   (0x3232, ["(\u6709)", "(\u793e)", "(\u540d)", "(\u7279)", "(\u8ca1)", "(\u795d)"]),
   (0x3238, ["(\u52b4)", "(\u4ee3)", "(\u547c)", "(\u5b66)", "(\u76e3)", "(\u4f01)"]),
   (0x323E, ["(\u8cc7)", "(\u5354)", "(\u796d)", "(\u4f11)", "(\u81ea)", "(\u81f3)"]),
   (0x3250, ["pte", "21", "22", "23", "24", "25", "26", "27", "28", "29", "30", "31", "32"]),
   (0x325D, ["33", "34", "35"]),
   (0x32B1, ["36", "37", "38", "39", "40", "41", "42", "43", "44", "45", "46", "47", "48"]),
   (0x32BE, ["49", "50", "1\u6708", "2\u6708", "3\u6708", "4\u6708", "5\u6708", "6\u6708"]),
   (0x32C6, ["7\u6708", "8\u6708", "9\u6708", "10\u6708", "11\u6708", "12\u6708", "hg"]),
   (0x32CD, ["erg", "ev", "ltd"]),
   (0x3358, ["0\u70b9", "1\u70b9", "2\u70b9", "3\u70b9", "4\u70b9", "5\u70b9", "6\u70b9"]),
   (0x335F, ["7\u70b9", "8\u70b9", "9\u70b9", "10\u70b9", "11\u70b9", "12\u70b9"]),
   (0x3365, ["13\u70b9", "14\u70b9", "15\u70b9", "16\u70b9", "17\u70b9", "18\u70b9"]),
   (0x336B, ["19\u70b9", "20\u70b9", "21\u70b9", "22\u70b9", "23\u70b9", "24\u70b9", "hpa"]),
   (0x3372, ["da", "au", "bar", "ov", "pc", "dm", "dm2", "dm3", "iu"]),
   (0x3380, ["pa", "na", "\u03bca", "ma", "ka", "kb", "mb", "gb", "cal", "kcal", "pf", "nf"]),
   (0x338C, ["\u03bcf", "\u03bcg", "mg", "kg", "hz", "khz", "mhz", "ghz", "thz", "\u03bcl"]),
   (0x3396, ["ml", "dl", "kl", "fm", "nm", "\u03bcm", "mm", "cm", "km", "mm2", "cm2", "m2"]),
   (0x33A2, ["km2", "mm3", "cm3", "m3", "km3", "m\u2215s", "m\u2215s2", "pa", "kpa", "mpa"]),
   (0x33AC, ["gpa", "rad", "rad\u2215s", "rad\u2215s2", "ps", "ns", "\u03bcs", "ms", "pv"]),
   (0x33B5, ["nv", "\u03bcv", "mv", "kv", "mv", "pw", "nw", "\u03bcw", "mw", "kw", "mw"]),
   (0x33C0, ["k\u03c9", "m\u03c9"]), (0x33C3, ["bq", "cc", "cd", "c\u2215kg"]),
   (0x33C8, ["db", "gy", "ha", "hp", "in", "kk", "km", "kt", "lm", "ln", "log", "lx", "mb"]),
   (0x33D5, ["mil", "mol", "ph"]),
   (0x33D9, ["ppm", "pr", "sr", "sv", "wb", "v\u2215m", "a\u2215m", "1\u65e5", "2\u65e5"]),
   (0x33E2, ["3\u65e5", "4\u65e5", "5\u65e5", "6\u65e5", "7\u65e5", "8\u65e5", "9\u65e5"]),
   (0x33E9, ["10\u65e5", "11\u65e5", "12\u65e5", "13\u65e5", "14\u65e5", "15\u65e5"]),
   (0x33EF, ["16\u65e5", "17\u65e5", "18\u65e5", "19\u65e5", "20\u65e5", "21\u65e5"]),
   (0x33F5, ["22\u65e5", "23\u65e5", "24\u65e5", "25\u65e5", "26\u65e5", "27\u65e5"]),
   (0x33FB, ["28\u65e5", "29\u65e5", "30\u65e5", "31\u65e5", "gal"]),
   (0xFB00, ["ff", "fi", "fl", "ffi", "ffl", "st", "st"]),
   (0xFC5E, [" \u064c\u0651", " \u064d\u0651", " \u064e\u0651", " \u064f\u0651"]),
   (0xFC62, [" \u0650\u0651", " \u0651\u0670"]),
   (0xFDFA, ["\u0635\u0644\u0649 \u0627\u0644\u0644\u0647 \u0639\u0644\u064a\u0647 \u0648\u0633\u0644\u0645"]),
   (0xFDFB, ["\u062c\u0644 \u062c\u0644\u0627\u0644\u0647"]),
   (0xFE49, [" \u0305", " \u0305", " \u0305", " \u0305"]), (0xFE70, [" \u064b"]),
   (0xFE72, [" \u064c"]), (0xFE74, [" \u064d"]), (0xFE76, [" \u064e"]), (0xFE78, [" \u064f"]),
   (0xFE7A, [" \u0650"]), (0xFE7C, [" \u0651"]), (0xFE7E, [" \u0652"]), (0xFFE3, [" \u0304"]),
   (0x1F101, ["0,", "1,", "2,", "3,", "4,", "5,", "6,", "7,", "8,", "9,"]),
   (0x1F110, ["(a)", "(b)", "(c)", "(d)", "(e)", "(f)", "(g)", "(h)", "(i)", "(j)", "(k)"]),
   (0x1F11B, ["(l)", "(m)", "(n)", "(o)", "(p)", "(q)", "(r)", "(s)", "(t)", "(u)", "(v)"]),
   (0x1F126, ["(w)", "(x)", "(y)", "(z)", "\u3014s\u3015"]), (0x1F12D, ["cd", "wz"]),
   (0x1F14A, ["hv", "mv", "sd", "ss", "ppv", "wc"]), (0x1F16A, ["mc", "md", "mr"]),
   (0x1F190, ["dj"]),
   (0x1F240, ["\u3014\u672c\u3015", "\u3014\u4e09\u3015", "\u3014\u4e8c\u3015"]),
   (0x1F243, ["\u3014\u5b89\u3015", "\u3014\u70b9\u3015", "\u3014\u6253\u3015"]),
   (0x1F246, ["\u3014\u76d7\u3015", "\u3014\u52dd\u3015", "\u3014\u6557\u3015"])]

def foldingSpans : List (Nat × Nat) :=
  [(0xB5, 0xB5), (0xC0, 0xD6), (0xD8, 0xDE), (0x181, 0x182), (0x18A, 0x18B), (0x18E, 0x191),
   (0x193, 0x194), (0x196, 0x198), (0x19C, 0x19D), (0x19F, 0x1A0), (0x1B2, 0x1B3), (0x1B8, 0x1B8),
   (0x1BC, 0x1BC), (0x1F7, 0x1F8), (0x23A, 0x23B), (0x23D, 0x23E), (0x244, 0x246), (0x2B1, 0x2B1),
   (0x2B4, 0x2B6), (0x2E0, 0x2E0), (0x2E4, 0x2E4), (0x340, 0x341), (0x343, 0x344), (0x37F, 0x37F),
   (0x386, 0x38A), (0x392, 0x3A1), (0x3A3, 0x3AB), (0x3CF, 0x3D6), (0x3F1, 0x3F2), (0x3F4, 0x3F5),
   (0x3FA, 0x3FA), (0x3FD, 0x42F), (0x531, 0x556), (0x587, 0x587), (0x675, 0x678), (0x958, 0x95F),
   (0x9DC, 0x9DD), (0x9DF, 0x9DF), (0xA33, 0xA33), (0xA36, 0xA36), (0xA59, 0xA5B), (0xA5E, 0xA5E),
   (0xB5C, 0xB5D), (0xEDC, 0xEDD), (0xF0C, 0xF0C), (0xF43, 0xF43), (0xF4D, 0xF4D), (0xF52, 0xF52),
   (0xF57, 0xF57), (0xF5C, 0xF5C), (0xF69, 0xF69), (0xF76, 0xF79), (0xF81, 0xF81), (0xF93, 0xF93),
   (0xF9D, 0xF9D), (0xFA2, 0xFA2), (0xFA7, 0xFA7), (0xFAC, 0xFAC), (0xFB9, 0xFB9),
   (0x10A0, 0x10C5), (0x10C7, 0x10C7), (0x10CD, 0x10CD), (0x10FC, 0x10FC), (0x13F8, 0x13FD),
   (0x1C80, 0x1C89), (0x1C90, 0x1CBA), (0x1CBD, 0x1CBF), (0x1D2D, 0x1D2D), (0x1D32, 0x1D32),
   (0x1D3D, 0x1D3D), (0x1D44, 0x1D46), (0x1D4A, 0x1D4C), (0x1D54, 0x1D55), (0x1D59, 0x1D5A),
   (0x1D5C, 0x1D61), (0x1D66, 0x1D6A), (0x1D78, 0x1D78), (0x1D9E, 0x1D9F), (0x1DA1, 0x1DBA),
   (0x1DBC, 0x1DBF), (0x1E9B, 0x1E9B), (0x1F08, 0x1F0F), (0x1F18, 0x1F1D), (0x1F28, 0x1F2F),
   (0x1F38, 0x1F3F), (0x1F48, 0x1F4D), (0x1F68, 0x1F6F), (0x1F80, 0x1FAF), (0x1FB2, 0x1FB4),
   (0x1FB7, 0x1FBC), (0x1FBE, 0x1FBE), (0x1FC2, 0x1FC4), (0x1FC7, 0x1FCC), (0x1FD3, 0x1FD3),
   (0x1FD8, 0x1FDB), (0x1FE3, 0x1FE3), (0x1FE8, 0x1FEC), (0x1FF2, 0x1FF4), (0x1FF7, 0x1FFC),
   (0x2011, 0x2011), (0x2033, 0x2034), (0x2036, 0x2037), (0x2057, 0x2057), (0x207B, 0x207B),
   (0x208B, 0x208B), (0x2094, 0x2094), (0x2107, 0x2107), (0x210F, 0x210F), (0x2126, 0x2126),
   (0x212B, 0x212B), (0x2132, 0x2132), (0x213C, 0x2140), (0x2183, 0x2183), (0x222C, 0x222D),
   (0x222F, 0x2230), (0x2329, 0x232A), (0x2A0C, 0x2A0C), (0x2ADC, 0x2ADC), (0x2C00, 0x2C2F),
   (0x2C63, 0x2C64), (0x2C6E, 0x2C70), (0x2C72, 0x2C72), (0x2C75, 0x2C75), (0x2C7E, 0x2C80),
   (0x2CF2, 0x2CF2), (0x2D6F, 0x2D6F), (0x2E9F, 0x2E9F), (0x2EF3, 0x2EF3), (0x2F00, 0x2FD5),
   (0x3039, 0x303A), (0x309F, 0x309F), (0x30FF, 0x30FF), (0x3131, 0x3163), (0x3165, 0x318E),
   (0x3192, 0x319F), (0x3244, 0x3247), (0x3260, 0x327E), (0x3280, 0x32B0), (0x32D0, 0x3357),
   (0x337B, 0x337F), (0xA69D, 0xA69D), (0xA7AB, 0xA7AE), (0xA7B0, 0xA7B4), (0xA7C5, 0xA7C7),
   (0xA7F5, 0xA7F5), (0xA7F8, 0xA7F9), (0xAB5C, 0xAB5F), (0xAB69, 0xAB69), (0xAB70, 0xABBF),
   (0xF900, 0xFA0D), (0xFA15, 0xFA1E), (0xFA25, 0xFA26), (0xFA2A, 0xFA6D), (0xFA70, 0xFAD9),
   (0xFB13, 0xFB17), (0xFB20, 0xFB28), (0xFB2A, 0xFB36), (0xFB38, 0xFB3C), (0xFB47, 0xFBB1),
   (0xFBD3, 0xFC5D), (0xFC64, 0xFD3D), (0xFD50, 0xFD8F), (0xFD92, 0xFDC7), (0xFDF0, 0xFDF9),
   (0xFDFC, 0xFDFC), (0xFE11, 0xFE11), (0xFE17, 0xFE18), (0xFE31, 0xFE32), (0xFE39, 0xFE44),
   (0xFE51, 0xFE51), (0xFE58, 0xFE58), (0xFE5D, 0xFE5E), (0xFE71, 0xFE71), (0xFE80, 0xFEFC),
   (0xFF5F, 0xFF60), (0xFF62, 0xFF9D), (0xFFA1, 0xFFBE), (0xFFC2, 0xFFC7), (0xFFCA, 0xFFCF),
   (0xFFD2, 0xFFD7), (0xFFDA, 0xFFDC), (0xFFE0, 0xFFE2), (0xFFE4, 0xFFE6), (0xFFE8, 0xFFEE),
   (0x10400, 0x10427), (0x104B0, 0x104D3), (0x10570, 0x1057A), (0x1057C, 0x1058A),
   (0x1058C, 0x10592), (0x10594, 0x10595), (0x10781, 0x10785), (0x10787, 0x107A4),
   (0x107A6, 0x107B0), (0x107B2, 0x107BA), (0x10C80, 0x10CB2), (0x10D50, 0x10D65),
   (0x118A0, 0x118BF), (0x16E40, 0x16E5F), (0x16EA0, 0x16EB8), (0x1D15E, 0x1D164),
   (0x1D1BB, 0x1D1C0), (0x1D6A4, 0x1D6A5), (0x1D6A8, 0x1D6C0), (0x1D6C2, 0x1D6FA),
   (0x1D6FC, 0x1D734), (0x1D736, 0x1D76E), (0x1D770, 0x1D7A8), (0x1D7AA, 0x1D7CB),
   (0x1E030, 0x1E06D), (0x1E900, 0x1E921), (0x1EE00, 0x1EE03), (0x1EE05, 0x1EE1F),
   (0x1EE21, 0x1EE22), (0x1EE24, 0x1EE24), (0x1EE2A, 0x1EE32), (0x1EE34, 0x1EE37),
   (0x1EE42, 0x1EE42), (0x1EE4E, 0x1EE4F), (0x1EE51, 0x1EE52), (0x1EE54, 0x1EE54),
   (0x1EE67, 0x1EE6A), (0x1EE6C, 0x1EE72), (0x1EE74, 0x1EE77), (0x1EE79, 0x1EE7C),
   (0x1EE81, 0x1EE89), (0x1EE8B, 0x1EE9B), (0x1EEA1, 0x1EEA3), (0x1EEA5, 0x1EEA9),
   (0x1EEAB, 0x1EEBB), (0x1F200, 0x1F202), (0x1F210, 0x1F23B), (0x1F250, 0x1F251),
   (0x2F800, 0x2FA1D)]

/-- Spans in which every other character folds, the first and the last among them. -/
def alternatingSpans : List (Nat × Nat) :=
  [(0x100, 0x12E), (0x134, 0x136), (0x139, 0x13D), (0x141, 0x147), (0x14A, 0x178), (0x179, 0x17D),
   (0x184, 0x186), (0x187, 0x189), (0x1A2, 0x1A6), (0x1A7, 0x1A9), (0x1AC, 0x1AE), (0x1AF, 0x1B1),
   (0x1B5, 0x1B7), (0x1CD, 0x1DB), (0x1DE, 0x1EE), (0x1F4, 0x1F6), (0x1FA, 0x232), (0x241, 0x243),
   (0x248, 0x24E), (0x370, 0x376), (0x38C, 0x38E), (0x38F, 0x391), (0x3D8, 0x3F0), (0x3F7, 0x3F9),
   (0x460, 0x480), (0x48A, 0x4C0), (0x4C1, 0x4CD), (0x4D0, 0x52E), (0xF73, 0xF75),
   (0x1D51, 0x1D53), (0x1D9B, 0x1D9D), (0x1E00, 0x1E94), (0x1E9E, 0x1EFE), (0x1F59, 0x1F5F),
   (0x1F71, 0x1F7D), (0x2C60, 0x2C62), (0x2C67, 0x2C6D), (0x2C82, 0x2CE2), (0x2CEB, 0x2CED),
   (0x3036, 0x3038), (0xA640, 0xA66C), (0xA680, 0xA69C), (0xA722, 0xA72E), (0xA732, 0xA770),
   (0xA779, 0xA77D), (0xA77E, 0xA786), (0xA78B, 0xA78D), (0xA790, 0xA792), (0xA796, 0xA7AA),
   (0xA7B6, 0xA7C4), (0xA7C9, 0xA7CB), (0xA7CC, 0xA7DC), (0xFA10, 0xFA12), (0xFA20, 0xFA22),
   (0xFB1D, 0xFB1F), (0xFB3E, 0xFB40), (0xFB41, 0xFB43), (0xFB44, 0xFB46), (0xFE77, 0xFE7F),
   (0x1EE27, 0x1EE29), (0x1EE39, 0x1EE3B), (0x1EE47, 0x1EE4D), (0x1EE57, 0x1EE61),
   (0x1EE62, 0x1EE64), (0x1EE7E, 0x1EE80)]

def refusedSpans : List (Nat × Nat) :=
  [(0x2024, 0x2026), (0x2488, 0x249B), (0x2FF0, 0x2FFF), (0x31EF, 0x31EF), (0x33C2, 0x33C2),
   (0x33C7, 0x33C7), (0x33D8, 0x33D8), (0xFE12, 0xFE12), (0xFE19, 0xFE19), (0xFE30, 0xFE30),
   (0xFE52, 0xFE52), (0xFFFC, 0xFFFD), (0x1F100, 0x1F100)]

def isJoiner (c : Char) : Bool :=
  c.toNat == 0x200C || c.toNat == 0x200D

def inRun? (n : Nat) (run : Nat × String) : Option String := do
  guard (run.1 ≤ n)
  let c ← run.2.toList[n - run.1]?
  return c.toString

def inLongRun? (n : Nat) (run : Nat × List String) : Option String := do
  guard (run.1 ≤ n)
  run.2[n - run.1]?

def textOf? (c : Char) : Option String :=
  if Text.inSpans c vanishingSpans then some ""
  else singleForms.findSome? (inRun? c.toNat) <|> longForms.findSome? (inLongRun? c.toNat)

def folds (c : Char) : Bool :=
  Text.inSpans c foldingSpans ||
    alternatingSpans.any fun span =>
      span.1 ≤ c.toNat && c.toNat ≤ span.2 && (c.toNat - span.1) % 2 == 0

/-- Whether a character has no form, marks and joiners having one although they have no
printed form. -/
def isRefused (c : Char) : Bool :=
  Text.inSpans c refusedSpans || (Text.isUnprinted c && !Text.isMark c && !isJoiner c)

def formOf (c : Char) : Form :=
  match textOf? c with
  | some text => .becomes text
  | none => if folds c then .folds else if isRefused c then .refused else .stays

end HolderBond.Url.Domain
