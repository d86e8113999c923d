import PlanetServer.Text.Printable

/-!
# Folded characters

Names of hosts are compared in a folded form: without capital letters, without variants of letters
and digits such as those in circles, and without characters that are shown as nothing.

A name of a host is never shown, so only those foldings are listed that can decide what a name
stands for: the foldings to letters, digits and signs of the ASCII range, and those that change
whether a name is allowed. All other characters with a folded form stand for themselves here; that
they have one is known to `isSettled`.
-/

namespace PlanetServer.Domain

/-- The code points that are left out, in increasing order. -/
def droppedRanges : List (Nat × Nat) :=
  [(0x00AD, 0x00AD), (0x034F, 0x034F), (0x115F, 0x1160), (0x17B4, 0x17B5), (0x180B, 0x180F),
   (0x200B, 0x200B), (0x2060, 0x2064), (0x206A, 0x206F), (0x3164, 0x3164), (0xFE00, 0xFE0F),
   (0xFEFF, 0xFEFF), (0xFFA0, 0xFFA0), (0x1BCA0, 0x1BCA3), (0x1D173, 0x1D17A),
   (0xE0100, 0xE01EF)]

/-- The printable code points that are not allowed, or are folded to what is not allowed, in
increasing order. -/
def refusedRanges : List (Nat × Nat) :=
  [(0x00A8, 0x00A8), (0x00AF, 0x00AF), (0x00B4, 0x00B4), (0x00B8, 0x00B8), (0x02D8, 0x02DD),
   (0x037A, 0x037A), (0x0384, 0x0385), (0x1FBD, 0x1FBD), (0x1FBF, 0x1FC1), (0x1FCD, 0x1FCF),
   (0x1FDD, 0x1FDF), (0x1FED, 0x1FEE), (0x1FFD, 0x1FFE), (0x2017, 0x2017), (0x2024, 0x2026),
   (0x203E, 0x203E), (0x2047, 0x2049), (0x2100, 0x2101), (0x2105, 0x2106), (0x2488, 0x249B),
   (0x2A74, 0x2A74), (0x2FF0, 0x2FFF), (0x309B, 0x309C), (0x31EF, 0x31EF), (0x33C2, 0x33C2),
   (0x33C7, 0x33C7), (0x33D8, 0x33D8), (0xFC5E, 0xFC63), (0xFDFA, 0xFDFB), (0xFE12, 0xFE13),
   (0xFE16, 0xFE16), (0xFE19, 0xFE19), (0xFE30, 0xFE30), (0xFE47, 0xFE4C), (0xFE52, 0xFE52),
   (0xFE55, 0xFE56), (0xFE5F, 0xFE5F), (0xFE68, 0xFE68), (0xFE6A, 0xFE70), (0xFE72, 0xFE72),
   (0xFE74, 0xFE76), (0xFE78, 0xFE78), (0xFE7A, 0xFE7A), (0xFE7C, 0xFE7C), (0xFE7E, 0xFE7E),
   (0xFF03, 0xFF03), (0xFF05, 0xFF05), (0xFF0F, 0xFF0F), (0xFF1A, 0xFF1A), (0xFF1F, 0xFF20),
   (0xFF3B, 0xFF3E), (0xFF5C, 0xFF5C), (0xFFE3, 0xFFE3), (0xFFFC, 0xFFFD), (0x1F100, 0x1F100)]

/-- The ranges of code points that are folded to a range of ASCII characters, and the first of
those, in increasing order. -/
def plainRows : List (Nat × Nat × Nat) :=
  [(0x00AA, 0x00AA, 0x61), (0x00B2, 0x00B3, 0x32), (0x00B9, 0x00B9, 0x31),
   (0x00BA, 0x00BA, 0x6F), (0x017F, 0x017F, 0x73), (0x02B0, 0x02B0, 0x68),
   (0x02B2, 0x02B2, 0x6A), (0x02B3, 0x02B3, 0x72), (0x02B7, 0x02B7, 0x77),
   (0x02B8, 0x02B8, 0x79), (0x02E1, 0x02E1, 0x6C), (0x02E2, 0x02E2, 0x73),
   (0x02E3, 0x02E3, 0x78), (0x037E, 0x037E, 0x3B), (0x1D2C, 0x1D2C, 0x61),
   (0x1D2E, 0x1D2E, 0x62), (0x1D30, 0x1D31, 0x64), (0x1D33, 0x1D3A, 0x67),
   (0x1D3C, 0x1D3C, 0x6F), (0x1D3E, 0x1D3E, 0x70), (0x1D3F, 0x1D3F, 0x72),
   (0x1D40, 0x1D41, 0x74), (0x1D42, 0x1D42, 0x77), (0x1D43, 0x1D43, 0x61),
   (0x1D47, 0x1D47, 0x62), (0x1D48, 0x1D49, 0x64), (0x1D4D, 0x1D4D, 0x67),
   (0x1D4F, 0x1D4F, 0x6B), (0x1D50, 0x1D50, 0x6D), (0x1D52, 0x1D52, 0x6F),
   (0x1D56, 0x1D56, 0x70), (0x1D57, 0x1D58, 0x74), (0x1D5B, 0x1D5B, 0x76),
   (0x1D62, 0x1D62, 0x69), (0x1D63, 0x1D63, 0x72), (0x1D64, 0x1D65, 0x75),
   (0x1D9C, 0x1D9C, 0x63), (0x1DA0, 0x1DA0, 0x66), (0x1DBB, 0x1DBB, 0x7A),
   (0x1FEF, 0x1FEF, 0x60), (0x2070, 0x2070, 0x30), (0x2071, 0x2071, 0x69),
   (0x2074, 0x2079, 0x34), (0x207A, 0x207A, 0x2B), (0x207C, 0x207C, 0x3D),
   (0x207D, 0x207E, 0x28), (0x207F, 0x207F, 0x6E), (0x2080, 0x2089, 0x30),
   (0x208A, 0x208A, 0x2B), (0x208C, 0x208C, 0x3D), (0x208D, 0x208E, 0x28),
   (0x2090, 0x2090, 0x61), (0x2091, 0x2091, 0x65), (0x2092, 0x2092, 0x6F),
   (0x2093, 0x2093, 0x78), (0x2095, 0x2095, 0x68), (0x2096, 0x2099, 0x6B),
   (0x209A, 0x209A, 0x70), (0x209B, 0x209C, 0x73), (0x2102, 0x2102, 0x63),
   (0x210A, 0x210B, 0x67), (0x210C, 0x210C, 0x68), (0x210D, 0x210D, 0x68),
   (0x210E, 0x210E, 0x68), (0x2110, 0x2110, 0x69), (0x2111, 0x2111, 0x69),
   (0x2112, 0x2112, 0x6C), (0x2113, 0x2113, 0x6C), (0x2115, 0x2115, 0x6E),
   (0x2119, 0x211B, 0x70), (0x211C, 0x211C, 0x72), (0x211D, 0x211D, 0x72),
   (0x2124, 0x2124, 0x7A), (0x2128, 0x2128, 0x7A), (0x212A, 0x212A, 0x6B),
   (0x212C, 0x212D, 0x62), (0x212F, 0x212F, 0x65), (0x2130, 0x2131, 0x65),
   (0x2133, 0x2133, 0x6D), (0x2134, 0x2134, 0x6F), (0x2139, 0x2139, 0x69),
   (0x2145, 0x2145, 0x64), (0x2146, 0x2147, 0x64), (0x2148, 0x2149, 0x69),
   (0x2160, 0x2160, 0x69), (0x2164, 0x2164, 0x76), (0x2169, 0x2169, 0x78),
   (0x216C, 0x216C, 0x6C), (0x216D, 0x216E, 0x63), (0x216F, 0x216F, 0x6D),
   (0x2170, 0x2170, 0x69), (0x2174, 0x2174, 0x76), (0x2179, 0x2179, 0x78),
   (0x217C, 0x217C, 0x6C), (0x217D, 0x217E, 0x63), (0x217F, 0x217F, 0x6D),
   (0x2460, 0x2468, 0x31), (0x24B6, 0x24CF, 0x61), (0x24D0, 0x24E9, 0x61),
   (0x24EA, 0x24EA, 0x30), (0x2C7C, 0x2C7C, 0x6A), (0x2C7D, 0x2C7D, 0x76),
   (0x3002, 0x3002, 0x2E), (0xA7F1, 0xA7F1, 0x73), (0xA7F2, 0xA7F2, 0x63),
   (0xA7F3, 0xA7F3, 0x66), (0xA7F4, 0xA7F4, 0x71), (0xFB29, 0xFB29, 0x2B),
   (0xFE10, 0xFE10, 0x2C), (0xFE14, 0xFE14, 0x3B), (0xFE15, 0xFE15, 0x21),
   (0xFE33, 0xFE33, 0x5F), (0xFE34, 0xFE34, 0x5F), (0xFE35, 0xFE36, 0x28),
   (0xFE37, 0xFE37, 0x7B), (0xFE38, 0xFE38, 0x7D), (0xFE4D, 0xFE4D, 0x5F),
   (0xFE4E, 0xFE4E, 0x5F), (0xFE4F, 0xFE4F, 0x5F), (0xFE50, 0xFE50, 0x2C),
   (0xFE54, 0xFE54, 0x3B), (0xFE57, 0xFE57, 0x21), (0xFE59, 0xFE5A, 0x28),
   (0xFE5B, 0xFE5B, 0x7B), (0xFE5C, 0xFE5C, 0x7D), (0xFE60, 0xFE60, 0x26),
   (0xFE61, 0xFE62, 0x2A), (0xFE63, 0xFE63, 0x2D), (0xFE64, 0xFE64, 0x3C),
   (0xFE65, 0xFE65, 0x3E), (0xFE66, 0xFE66, 0x3D), (0xFE69, 0xFE69, 0x24),
   (0xFF01, 0xFF02, 0x21), (0xFF04, 0xFF04, 0x24), (0xFF06, 0xFF0E, 0x26),
   (0xFF10, 0xFF19, 0x30), (0xFF1B, 0xFF1E, 0x3B), (0xFF21, 0xFF3A, 0x61),
   (0xFF3F, 0xFF5B, 0x5F), (0xFF5D, 0xFF5E, 0x7D), (0xFF61, 0xFF61, 0x2E),
   (0x107A5, 0x107A5, 0x71), (0x1CCD6, 0x1CCEF, 0x61), (0x1CCF0, 0x1CCF9, 0x30),
   (0x1D400, 0x1D419, 0x61), (0x1D41A, 0x1D433, 0x61), (0x1D434, 0x1D44D, 0x61),
   (0x1D44E, 0x1D454, 0x61), (0x1D456, 0x1D467, 0x69), (0x1D468, 0x1D481, 0x61),
   (0x1D482, 0x1D49B, 0x61), (0x1D49C, 0x1D49C, 0x61), (0x1D49E, 0x1D49F, 0x63),
   (0x1D4A2, 0x1D4A2, 0x67), (0x1D4A5, 0x1D4A6, 0x6A), (0x1D4A9, 0x1D4AC, 0x6E),
   (0x1D4AE, 0x1D4B5, 0x73), (0x1D4B6, 0x1D4B9, 0x61), (0x1D4BB, 0x1D4BB, 0x66),
   (0x1D4BD, 0x1D4C3, 0x68), (0x1D4C5, 0x1D4CF, 0x70), (0x1D4D0, 0x1D4E9, 0x61),
   (0x1D4EA, 0x1D503, 0x61), (0x1D504, 0x1D505, 0x61), (0x1D507, 0x1D50A, 0x64),
   (0x1D50D, 0x1D514, 0x6A), (0x1D516, 0x1D51C, 0x73), (0x1D51E, 0x1D537, 0x61),
   (0x1D538, 0x1D539, 0x61), (0x1D53B, 0x1D53E, 0x64), (0x1D540, 0x1D544, 0x69),
   (0x1D546, 0x1D546, 0x6F), (0x1D54A, 0x1D550, 0x73), (0x1D552, 0x1D56B, 0x61),
   (0x1D56C, 0x1D585, 0x61), (0x1D586, 0x1D59F, 0x61), (0x1D5A0, 0x1D5B9, 0x61),
   (0x1D5BA, 0x1D5D3, 0x61), (0x1D5D4, 0x1D5ED, 0x61), (0x1D5EE, 0x1D607, 0x61),
   (0x1D608, 0x1D621, 0x61), (0x1D622, 0x1D63B, 0x61), (0x1D63C, 0x1D655, 0x61),
   (0x1D656, 0x1D66F, 0x61), (0x1D670, 0x1D689, 0x61), (0x1D68A, 0x1D6A3, 0x61),
   (0x1D7CE, 0x1D7D7, 0x30), (0x1D7D8, 0x1D7E1, 0x30), (0x1D7E2, 0x1D7EB, 0x30),
   (0x1D7EC, 0x1D7F5, 0x30), (0x1D7F6, 0x1D7FF, 0x30), (0x1F12B, 0x1F12B, 0x63),
   (0x1F12C, 0x1F12C, 0x72), (0x1F130, 0x1F149, 0x61), (0x1FBF0, 0x1FBF9, 0x30)]

/-- The code points that are folded to more than one character, or to one beyond ASCII, as far as it
matters, in increasing order. -/
def foldedTexts : List (Nat × String) :=
  [(0x0132, "ij"), (0x0133, "ij"), (0x01C7, "lj"), (0x01C8, "lj"), (0x01C9, "lj"),
   (0x01CA, "nj"), (0x01CB, "nj"), (0x01CC, "nj"), (0x01F1, "dz"), (0x01F2, "dz"),
   (0x01F3, "dz"), (0x0345, "\u03b9"), (0x0E33, "\u0e4d\u0e32"), (0x0EB3, "\u0ecd\u0eb2"),
   (0x20A8, "rs"), (0x2116, "no"), (0x2120, "sm"), (0x2121, "tel"), (0x2122, "tm"),
   (0x2135, "\u05d0"), (0x2136, "\u05d1"), (0x2137, "\u05d2"), (0x2138, "\u05d3"),
   (0x213B, "fax"), (0x2161, "ii"), (0x2162, "iii"), (0x2163, "iv"), (0x2165, "vi"),
   (0x2166, "vii"), (0x2167, "viii"), (0x2168, "ix"), (0x216A, "xi"), (0x216B, "xii"),
   (0x2171, "ii"), (0x2172, "iii"), (0x2173, "iv"), (0x2175, "vi"), (0x2176, "vii"),
   (0x2177, "viii"), (0x2178, "ix"), (0x217A, "xi"), (0x217B, "xii"), (0x2469, "10"),
   (0x246A, "11"), (0x246B, "12"), (0x246C, "13"), (0x246D, "14"), (0x246E, "15"),
   (0x246F, "16"), (0x2470, "17"), (0x2471, "18"), (0x2472, "19"), (0x2473, "20"),
   (0x3250, "pte"), (0x3251, "21"), (0x3252, "22"), (0x3253, "23"), (0x3254, "24"),
   (0x3255, "25"), (0x3256, "26"), (0x3257, "27"), (0x3258, "28"), (0x3259, "29"),
   (0x325A, "30"), (0x325B, "31"), (0x325C, "32"), (0x325D, "33"), (0x325E, "34"),
   (0x325F, "35"), (0x32B1, "36"), (0x32B2, "37"), (0x32B3, "38"), (0x32B4, "39"),
   (0x32B5, "40"), (0x32B6, "41"), (0x32B7, "42"), (0x32B8, "43"), (0x32B9, "44"),
   (0x32BA, "45"), (0x32BB, "46"), (0x32BC, "47"), (0x32BD, "48"), (0x32BE, "49"),
   (0x32BF, "50"), (0x32CC, "hg"), (0x32CD, "erg"), (0x32CE, "ev"), (0x32CF, "ltd"),
   (0x3371, "hpa"), (0x3372, "da"), (0x3373, "au"), (0x3374, "bar"), (0x3375, "ov"),
   (0x3376, "pc"), (0x3377, "dm"), (0x3378, "dm2"), (0x3379, "dm3"), (0x337A, "iu"),
   (0x3380, "pa"), (0x3381, "na"), (0x3383, "ma"), (0x3384, "ka"), (0x3385, "kb"),
   (0x3386, "mb"), (0x3387, "gb"), (0x3388, "cal"), (0x3389, "kcal"), (0x338A, "pf"),
   (0x338B, "nf"), (0x338E, "mg"), (0x338F, "kg"), (0x3390, "hz"), (0x3391, "khz"),
   (0x3392, "mhz"), (0x3393, "ghz"), (0x3394, "thz"), (0x3396, "ml"), (0x3397, "dl"),
   (0x3398, "kl"), (0x3399, "fm"), (0x339A, "nm"), (0x339C, "mm"), (0x339D, "cm"),
   (0x339E, "km"), (0x339F, "mm2"), (0x33A0, "cm2"), (0x33A1, "m2"), (0x33A2, "km2"),
   (0x33A3, "mm3"), (0x33A4, "cm3"), (0x33A5, "m3"), (0x33A6, "km3"), (0x33A9, "pa"),
   (0x33AA, "kpa"), (0x33AB, "mpa"), (0x33AC, "gpa"), (0x33AD, "rad"), (0x33B0, "ps"),
   (0x33B1, "ns"), (0x33B3, "ms"), (0x33B4, "pv"), (0x33B5, "nv"), (0x33B7, "mv"),
   (0x33B8, "kv"), (0x33B9, "mv"), (0x33BA, "pw"), (0x33BB, "nw"), (0x33BD, "mw"),
   (0x33BE, "kw"), (0x33BF, "mw"), (0x33C3, "bq"), (0x33C4, "cc"), (0x33C5, "cd"),
   (0x33C8, "db"), (0x33C9, "gy"), (0x33CA, "ha"), (0x33CB, "hp"), (0x33CC, "in"),
   (0x33CD, "kk"), (0x33CE, "km"), (0x33CF, "kt"), (0x33D0, "lm"), (0x33D1, "ln"),
   (0x33D2, "log"), (0x33D3, "lx"), (0x33D4, "mb"), (0x33D5, "mil"), (0x33D6, "mol"),
   (0x33D7, "ph"), (0x33D9, "ppm"), (0x33DA, "pr"), (0x33DB, "sr"), (0x33DC, "sv"),
   (0x33DD, "wb"), (0x33FF, "gal"), (0xFB00, "ff"), (0xFB01, "fi"), (0xFB02, "fl"),
   (0xFB03, "ffi"), (0xFB04, "ffl"), (0xFB05, "st"), (0xFB06, "st"), (0xFF9E, "\u3099"),
   (0xFF9F, "\u309a"), (0x1F12D, "cd"), (0x1F12E, "wz"), (0x1F14A, "hv"), (0x1F14B, "mv"),
   (0x1F14C, "sd"), (0x1F14D, "ss"), (0x1F14E, "ppv"), (0x1F14F, "wc"), (0x1F16A, "mc"),
   (0x1F16B, "md"), (0x1F16C, "mr"), (0x1F190, "dj")]

/-- The ranges of code points with a folded form, and the distance from one to the next of them, in
increasing order. -/
def foldedRows : List (Nat × Nat × Nat) :=
  [(0x00A0, 0x00A0, 1), (0x00A8, 0x00AA, 2), (0x00AF, 0x00AF, 1), (0x00B2, 0x00B5, 1),
   (0x00B8, 0x00BA, 1), (0x00BC, 0x00BE, 1), (0x00C0, 0x00D6, 1), (0x00D8, 0x00DE, 1),
   (0x0100, 0x0132, 2), (0x0133, 0x0134, 1), (0x0136, 0x0136, 1), (0x0139, 0x013F, 2),
   (0x0140, 0x0141, 1), (0x0143, 0x0149, 2), (0x014A, 0x0178, 2), (0x0179, 0x0181, 2),
   (0x0182, 0x0186, 2), (0x0187, 0x0189, 2), (0x018A, 0x018B, 1), (0x018E, 0x0191, 1),
   (0x0193, 0x0194, 1), (0x0196, 0x0198, 1), (0x019C, 0x019D, 1), (0x019F, 0x01A0, 1),
   (0x01A2, 0x01A6, 2), (0x01A7, 0x01A9, 2), (0x01AC, 0x01AE, 2), (0x01AF, 0x01B1, 2),
   (0x01B2, 0x01B3, 1), (0x01B5, 0x01B7, 2), (0x01B8, 0x01B8, 1), (0x01BC, 0x01BC, 1),
   (0x01C4, 0x01CD, 1), (0x01CF, 0x01DB, 2), (0x01DE, 0x01EE, 2), (0x01F1, 0x01F4, 1),
   (0x01F6, 0x01F8, 1), (0x01FA, 0x0232, 2), (0x023A, 0x023B, 1), (0x023D, 0x023E, 1),
   (0x0241, 0x0243, 2), (0x0244, 0x0246, 1), (0x0248, 0x024E, 2), (0x02B0, 0x02B8, 1),
   (0x02D8, 0x02DD, 1), (0x02E0, 0x02E4, 1), (0x0340, 0x0341, 1), (0x0343, 0x0345, 1),
   (0x0370, 0x0376, 2), (0x037A, 0x037A, 1), (0x037E, 0x038F, 1), (0x0391, 0x03AB, 1),
   (0x03CF, 0x03D6, 1), (0x03D8, 0x03F0, 2), (0x03F1, 0x03F2, 1), (0x03F4, 0x03F5, 1),
   (0x03F7, 0x03F9, 2), (0x03FA, 0x03FA, 1), (0x03FD, 0x042F, 1), (0x0460, 0x0480, 2),
   (0x048A, 0x04C0, 2), (0x04C1, 0x04CD, 2), (0x04D0, 0x052E, 2), (0x0531, 0x0556, 1),
   (0x0587, 0x0587, 1), (0x0675, 0x0678, 1), (0x0958, 0x095F, 1), (0x09DC, 0x09DF, 1),
   (0x0A33, 0x0A33, 1), (0x0A36, 0x0A36, 1), (0x0A59, 0x0A5B, 1), (0x0A5E, 0x0A5E, 1),
   (0x0B5C, 0x0B5D, 1), (0x0E33, 0x0E33, 1), (0x0EB3, 0x0EB3, 1), (0x0EDC, 0x0EDD, 1),
   (0x0F0C, 0x0F0C, 1), (0x0F43, 0x0F43, 1), (0x0F4D, 0x0F4D, 1), (0x0F52, 0x0F52, 1),
   (0x0F57, 0x0F57, 1), (0x0F5C, 0x0F5C, 1), (0x0F69, 0x0F69, 1), (0x0F73, 0x0F75, 2),
   (0x0F76, 0x0F79, 1), (0x0F81, 0x0F81, 1), (0x0F93, 0x0F93, 1), (0x0F9D, 0x0F9D, 1),
   (0x0FA2, 0x0FA2, 1), (0x0FA7, 0x0FA7, 1), (0x0FAC, 0x0FAC, 1), (0x0FB9, 0x0FB9, 1),
   (0x10A0, 0x10CD, 1), (0x10FC, 0x10FC, 1), (0x13F8, 0x13FD, 1), (0x1C80, 0x1C89, 1),
   (0x1C90, 0x1CBF, 1), (0x1D2C, 0x1D2E, 1), (0x1D30, 0x1D3A, 1), (0x1D3C, 0x1D4D, 1),
   (0x1D4F, 0x1D6A, 1), (0x1D78, 0x1D78, 1), (0x1D9B, 0x1DBF, 1), (0x1E00, 0x1E94, 2),
   (0x1E9A, 0x1E9B, 1), (0x1E9E, 0x1EFE, 2), (0x1F08, 0x1F0F, 1), (0x1F18, 0x1F1D, 1),
   (0x1F28, 0x1F2F, 1), (0x1F38, 0x1F3F, 1), (0x1F48, 0x1F4D, 1), (0x1F59, 0x1F5F, 1),
   (0x1F68, 0x1F6F, 1), (0x1F71, 0x1F7D, 2), (0x1F80, 0x1FAF, 1), (0x1FB2, 0x1FB4, 1),
   (0x1FB7, 0x1FC4, 1), (0x1FC7, 0x1FCF, 1), (0x1FD3, 0x1FD3, 1), (0x1FD8, 0x1FDF, 1),
   (0x1FE3, 0x1FE3, 1), (0x1FE8, 0x1FF4, 1), (0x1FF7, 0x200A, 1), (0x2011, 0x2011, 1),
   (0x2017, 0x2017, 1), (0x202F, 0x202F, 1), (0x2033, 0x2034, 1), (0x2036, 0x2037, 1),
   (0x203C, 0x203E, 2), (0x2047, 0x2049, 1), (0x2057, 0x2057, 1), (0x205F, 0x209C, 1),
   (0x20A8, 0x20A8, 1), (0x2100, 0x2103, 1), (0x2105, 0x2107, 1), (0x2109, 0x2113, 1),
   (0x2115, 0x2116, 1), (0x2119, 0x211D, 1), (0x2120, 0x2122, 1), (0x2124, 0x212A, 2),
   (0x212B, 0x212D, 1), (0x212F, 0x2139, 1), (0x213B, 0x2140, 1), (0x2145, 0x2149, 1),
   (0x2150, 0x217F, 1), (0x2183, 0x2183, 1), (0x2189, 0x2189, 1), (0x222C, 0x222D, 1),
   (0x222F, 0x2230, 1), (0x2329, 0x232A, 1), (0x2460, 0x24EA, 1), (0x2A0C, 0x2A0C, 1),
   (0x2A74, 0x2A76, 1), (0x2ADC, 0x2ADC, 1), (0x2C00, 0x2C2F, 1), (0x2C60, 0x2C62, 2),
   (0x2C63, 0x2C64, 1), (0x2C67, 0x2C6D, 2), (0x2C6E, 0x2C70, 1), (0x2C72, 0x2C72, 1),
   (0x2C75, 0x2C75, 1), (0x2C7C, 0x2C80, 1), (0x2C82, 0x2CE2, 2), (0x2CEB, 0x2CED, 2),
   (0x2CF2, 0x2CF2, 1), (0x2D6F, 0x2D6F, 1), (0x2E9F, 0x2E9F, 1), (0x2EF3, 0x3000, 1),
   (0x3002, 0x3002, 1), (0x3036, 0x3038, 2), (0x3039, 0x303A, 1), (0x309B, 0x309C, 1),
   (0x309F, 0x309F, 1), (0x30FF, 0x30FF, 1), (0x3131, 0x318E, 1), (0x3192, 0x319F, 1),
   (0x3200, 0x3247, 1), (0x3250, 0x327E, 1), (0x3280, 0x33FF, 1), (0xA640, 0xA66C, 2),
   (0xA680, 0xA69C, 2), (0xA69D, 0xA69D, 1), (0xA722, 0xA72E, 2), (0xA732, 0xA770, 2),
   (0xA779, 0xA77D, 2), (0xA77E, 0xA786, 2), (0xA78B, 0xA78D, 2), (0xA790, 0xA792, 2),
   (0xA796, 0xA7AA, 2), (0xA7AB, 0xA7AE, 1), (0xA7B0, 0xA7B4, 1), (0xA7B6, 0xA7C4, 2),
   (0xA7C5, 0xA7C7, 1), (0xA7C9, 0xA7CB, 2), (0xA7CC, 0xA7DC, 2), (0xA7F1, 0xA7F5, 1),
   (0xA7F8, 0xA7F9, 1), (0xAB5C, 0xAB5F, 1), (0xAB69, 0xAB69, 1), (0xAB70, 0xABBF, 1),
   (0xF900, 0xFA0D, 1), (0xFA10, 0xFA12, 2), (0xFA15, 0xFA1E, 1), (0xFA20, 0xFA22, 2),
   (0xFA25, 0xFA26, 1), (0xFA2A, 0xFB1D, 1), (0xFB1F, 0xFBB1, 1), (0xFBD3, 0xFD3D, 1),
   (0xFD50, 0xFD8F, 1), (0xFD92, 0xFDC7, 1), (0xFDF0, 0xFDFC, 1), (0xFE10, 0xFE18, 1),
   (0xFE31, 0xFE44, 1), (0xFE47, 0xFE72, 1), (0xFE74, 0xFFEE, 1), (0x10400, 0x10427, 1),
   (0x104B0, 0x104D3, 1), (0x10570, 0x10595, 1), (0x10781, 0x107BA, 1), (0x10C80, 0x10CB2, 1),
   (0x10D50, 0x10D65, 1), (0x118A0, 0x118BF, 1), (0x16E40, 0x16E5F, 1), (0x16EA0, 0x16EB8, 1),
   (0x1CCD6, 0x1CCF9, 1), (0x1D15E, 0x1D164, 1), (0x1D1BB, 0x1D1C0, 1), (0x1D400, 0x1D7FF, 1),
   (0x1E030, 0x1E06D, 1), (0x1E900, 0x1E921, 1), (0x1EE00, 0x1EEBB, 1), (0x1F101, 0x1F10A, 1),
   (0x1F110, 0x1F12E, 1), (0x1F130, 0x1F14F, 1), (0x1F16A, 0x1F16C, 1), (0x1F190, 0x1F190, 1),
   (0x1F200, 0x1F251, 1), (0x1FBF0, 0x1FBF9, 1), (0x2F800, 0x2FA1D, 1)]

/-- Whether a character is one of the two joiners, which are allowed at some places. -/
def isJoiner (c : Char) : Bool :=
  c == '\u200c' || c == '\u200d'

/-- Whether a character is left out. -/
def isDropped (c : Char) : Bool :=
  Text.covers droppedRanges c

/-- Whether a character is not allowed in a name. -/
def isRefused (c : Char) : Bool :=
  (!Text.isPrintable c && !isJoiner c) || Text.covers refusedRanges c

/-- The small letter of a capital letter of the alphabet, and any other character itself. -/
def lower (c : Char) : Char :=
  if 'A' ≤ c ∧ c ≤ 'Z' then Char.ofNat (c.toNat + 32) else c

/-- The folded form of a character that is allowed. -/
def foldedChar (c : Char) : List Char :=
  match plainRows.find? fun (low, high, _) => low ≤ c.toNat && c.toNat ≤ high with
  | some (low, _, first) => [Char.ofNat (first + (c.toNat - low))]
  | none =>
    match foldedTexts.lookup c.toNat with
    | some text => text.toList
    | none => [lower c]

/-- The folded form of a character, none if it is not allowed. -/
def fold? (c : Char) : Option (List Char) :=
  if isDropped c then some []
  else if isRefused c then none
  else some (foldedChar c)

/-- Whether a character is allowed and its folded form is the character itself. -/
def isSettled (c : Char) : Bool :=
  !isDropped c && !isRefused c && lower c == c &&
    !foldedRows.any fun (low, high, step) =>
      low ≤ c.toNat && c.toNat ≤ high && (c.toNat - low) % step == 0

end PlanetServer.Domain
