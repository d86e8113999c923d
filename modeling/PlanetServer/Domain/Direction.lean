import PlanetServer.Text.Mark

/-!
# Directions of writing

A name in which some letters are written from right to left can be read in one way only if each of
its labels is of one direction. The rule looks at the first and the last character of a label and at
the numbers within it.
-/

namespace PlanetServer.Domain

/-- The direction of a character. -/
inductive Direction where
  /-- A letter written from left to right. -/
  | leftToRight
  /-- A letter written from right to left. -/
  | rightToLeft
  /-- A digit. -/
  | number
  /-- A digit of Arabic. -/
  | arabicNumber
  /-- A mark, which follows the character before it. -/
  | mark
  /-- A sign, which has the direction of its surroundings. -/
  | neutral
deriving DecidableEq, Repr

/-- The code points beyond ASCII of signs without a direction, in increasing order. Code points that
are not allowed in names may stand between them. -/
def neutralRanges : List (Nat × Nat) :=
  [(0x00A1, 0x00B1), (0x00B6, 0x00BF), (0x00D7, 0x00D7), (0x00F7, 0x00F7), (0x02B9, 0x02BA),
   (0x02C2, 0x02CF), (0x02D2, 0x02DF), (0x02E5, 0x02ED), (0x02EF, 0x02FF), (0x0374, 0x0375),
   (0x0387, 0x0387), (0x03F6, 0x03F6), (0x058A, 0x058F), (0x0606, 0x0607), (0x0609, 0x060A),
   (0x060C, 0x060C), (0x060E, 0x060F), (0x066A, 0x066A), (0x06DE, 0x06DE), (0x06E9, 0x06E9),
   (0x07F6, 0x07F9), (0x09F2, 0x09F3), (0x09FB, 0x09FB), (0x0AF1, 0x0AF1), (0x0BF3, 0x0BFA),
   (0x0C78, 0x0C7E), (0x0E3F, 0x0E3F), (0x0F3A, 0x0F3D), (0x1390, 0x1399), (0x1400, 0x1400),
   (0x169B, 0x169C), (0x17DB, 0x17DB), (0x17F0, 0x180A), (0x1940, 0x1945), (0x19DE, 0x19FF),
   (0x1B4E, 0x1B4F), (0x1B7F, 0x1B7F), (0x200C, 0x208B), (0x20A0, 0x20C1), (0x2104, 0x2104),
   (0x2108, 0x2108), (0x2114, 0x2125), (0x2127, 0x2129), (0x212E, 0x212E), (0x213A, 0x213A),
   (0x2140, 0x214D), (0x2150, 0x215F), (0x2189, 0x2335), (0x237B, 0x2394), (0x2396, 0x26AB),
   (0x26AD, 0x27FF), (0x2900, 0x2ADB), (0x2ADD, 0x2BFF), (0x2CE5, 0x2CEA), (0x2CF9, 0x2CFF),
   (0x2E00, 0x2E9E), (0x2EA0, 0x2EF2), (0x3001, 0x3004), (0x3008, 0x3020), (0x3030, 0x3030),
   (0x3036, 0x3037), (0x303D, 0x303F), (0x30A0, 0x30A0), (0x30FB, 0x30FB), (0x31C0, 0x31E5),
   (0x3200, 0x3243), (0x4DC0, 0x4DFF), (0xA490, 0xA4C6), (0xA60D, 0xA60F), (0xA673, 0xA673),
   (0xA67E, 0xA67F), (0xA700, 0xA721), (0xA788, 0xA788), (0xA828, 0xA82B), (0xA838, 0xA839),
   (0xA874, 0xA877), (0xAB6A, 0xAB6B), (0xFBC3, 0xFBD2), (0xFD3E, 0xFD4F), (0xFD90, 0xFD91),
   (0xFDC8, 0xFDCF), (0xFDFD, 0xFE18), (0xFE31, 0xFE5E), (0xFF5F, 0xFF65), (0xFFE0, 0xFFEE),
   (0x10101, 0x10101), (0x10140, 0x1018C), (0x10190, 0x101A0), (0x1091F, 0x1091F),
   (0x10B39, 0x10B3F), (0x10D6E, 0x10D6E), (0x10D8E, 0x10D8F), (0x10ED0, 0x10ED8),
   (0x11052, 0x11065), (0x11660, 0x1166C), (0x11FD5, 0x11FF1), (0x16FE2, 0x16FE2),
   (0x1CC00, 0x1CEF0), (0x1D1E9, 0x1D241), (0x1D245, 0x1D245), (0x1D300, 0x1D356),
   (0x1D6C1, 0x1D6C1), (0x1D6DB, 0x1D6DB), (0x1D6FB, 0x1D6FB), (0x1D715, 0x1D715),
   (0x1D735, 0x1D735), (0x1D74F, 0x1D74F), (0x1D76F, 0x1D76F), (0x1D789, 0x1D789),
   (0x1D7A9, 0x1D7A9), (0x1D7C3, 0x1D7C3), (0x1E2FF, 0x1E2FF), (0x1E5FF, 0x1E5FF),
   (0x1EEF0, 0x1F12F), (0x1F16D, 0x1F16F), (0x1F1AD, 0x1F1AD), (0x1F240, 0x1F248),
   (0x1F260, 0x1FBFA)]

/-- The code points of scripts that are written from right to left, in increasing order. -/
def rightToLeftRanges : List (Nat × Nat) :=
  [(0x05BE, 0x08C9), (0xFB1D, 0xFEFC), (0x10800, 0x10FF6), (0x1E800, 0x1EEBB)]

/-- The code points of digits beyond ASCII, in increasing order. -/
def numberRanges : List (Nat × Nat) :=
  [(0x06F0, 0x06F9), (0x102E1, 0x102FB)]

/-- The code points of digits of Arabic, in increasing order. -/
def arabicNumberRanges : List (Nat × Nat) :=
  [(0x0660, 0x0669), (0x066B, 0x066C), (0x10D30, 0x10D49), (0x10E60, 0x10E7E)]

/-- Whether a character is a sign of the ASCII range. -/
def isPlainSign (c : Char) : Bool :=
  0x20 < c.toNat && c.toNat < 0x7F && !c.isAlphanum

/-- The direction of a character. -/
def direction (c : Char) : Direction :=
  if c.isDigit || Text.covers numberRanges c then .number
  else if Text.covers arabicNumberRanges c then .arabicNumber
  else if isPlainSign c || Text.covers neutralRanges c then .neutral
  else if Text.isNonspacingMark c then .mark
  else if Text.covers rightToLeftRanges c then .rightToLeft
  else .leftToRight

/-- Whether a character has its place in writing from right to left only. -/
def isRightToLeft (c : Char) : Bool :=
  direction c = .rightToLeft || direction c = .arabicNumber

/-- The directions of a label after its first character, without the marks at its end, from the last
one. -/
def trail (cs : List Char) : List Direction :=
  (cs.map direction).reverse.dropWhile (· = .mark)

/-- Whether a label is of one direction. -/
def isOneWay : List Char → Bool
  | [] => true
  | first :: rest =>
    let after := trail rest
    match direction first with
    | .leftToRight =>
      after.head?.all (fun last => last = .leftToRight || last = .number) &&
        after.all fun d => d != .rightToLeft && d != .arabicNumber
    | .rightToLeft =>
      after.head?.all
          (fun last => last = .rightToLeft || last = .number || last = .arabicNumber) &&
        after.all (· != .leftToRight) &&
        !(after.contains .number && after.contains .arabicNumber)
    | _ => false

end PlanetServer.Domain
