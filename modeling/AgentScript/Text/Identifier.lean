import AgentScript.Text.Digit
import AgentScript.Text.Word

set_option autoImplicit false

/-! # Identifiers

An identifier is a word that begins with a letter; combining marks may follow, but digits and
numerals that are no decimal digits may not. Two identifiers are the same if they have the same
normal form: characters that only look different from a plain letter or digit are replaced by it,
and a letter with a mark after it becomes one character. -/

namespace AgentScript.Text

/-! ## Characters -/

/-- The word characters beyond ASCII that no identifier holds (Unicode 14). -/
def bareNumeralTable : CharSet := ⟨
  [(0xB2, 0xB3), (0xB9, 0xB9), (0xBC, 0xBE), (0x37A, 0x37A), (0x9F4, 0x9F9), (0xB72, 0xB77),
   (0xBF0, 0xBF2), (0xC78, 0xC7E), (0xD58, 0xD5E), (0xD70, 0xD78), (0xF2A, 0xF33), (0x1372, 0x137C),
   (0x17F0, 0x17F9), (0x2070, 0x2070), (0x2074, 0x2079), (0x2080, 0x2089), (0x2150, 0x215F),
   (0x2189, 0x2189), (0x2460, 0x249B), (0x24EA, 0x24FF), (0x2776, 0x2793), (0x2CFD, 0x2CFD),
   (0x2E2F, 0x2E2F), (0x3192, 0x3195), (0x3220, 0x3229), (0x3248, 0x324F), (0x3251, 0x325F),
   (0x3280, 0x3289), (0x32B1, 0x32BF), (0xA830, 0xA835), (0xFC5E, 0xFC63), (0xFDFA, 0xFDFB),
   (0xFE70, 0xFE70), (0xFE72, 0xFE72), (0xFE74, 0xFE74), (0xFE76, 0xFE76), (0xFE78, 0xFE78),
   (0xFE7A, 0xFE7A), (0xFE7C, 0xFE7C), (0xFE7E, 0xFE7E), (0x10107, 0x10133), (0x10175, 0x10178),
   (0x1018A, 0x1018B), (0x102E1, 0x102FB), (0x10320, 0x10323), (0x10858, 0x1085F),
   (0x10879, 0x1087F), (0x108A7, 0x108AF), (0x108FB, 0x108FF), (0x10916, 0x1091B),
   (0x109BC, 0x109BD), (0x109C0, 0x109CF), (0x109D2, 0x109FF), (0x10A40, 0x10A48),
   (0x10A7D, 0x10A7E), (0x10A9D, 0x10A9F), (0x10AEB, 0x10AEF), (0x10B58, 0x10B5F),
   (0x10B78, 0x10B7F), (0x10BA9, 0x10BAF), (0x10CFA, 0x10CFF), (0x10E60, 0x10E7E),
   (0x10F1D, 0x10F26), (0x10F51, 0x10F54), (0x10FC5, 0x10FCB), (0x11052, 0x11065),
   (0x111E1, 0x111F4), (0x1173A, 0x1173B), (0x118EA, 0x118F2), (0x11C5A, 0x11C6C),
   (0x11FC0, 0x11FD4), (0x16B5B, 0x16B61), (0x16E80, 0x16E96), (0x1D2E0, 0x1D2F3),
   (0x1D360, 0x1D378), (0x1E8C7, 0x1E8CF), (0x1EC71, 0x1ECAB), (0x1ECAD, 0x1ECAF),
   (0x1ECB1, 0x1ECB4), (0x1ED01, 0x1ED2D), (0x1ED2F, 0x1ED3D), (0x1F100, 0x1F10C)]⟩

/-- The characters that identifiers hold besides word characters (Unicode 14): marks that combine
    with letters, and a few others. -/
def combiningTable : CharSet := ⟨
  [(0xB7, 0xB7), (0x300, 0x36F), (0x387, 0x387), (0x483, 0x487), (0x591, 0x5BD), (0x5BF, 0x5BF),
   (0x5C1, 0x5C2), (0x5C4, 0x5C5), (0x5C7, 0x5C7), (0x610, 0x61A), (0x64B, 0x65F), (0x670, 0x670),
   (0x6D6, 0x6DC), (0x6DF, 0x6E4), (0x6E7, 0x6E8), (0x6EA, 0x6ED), (0x711, 0x711), (0x730, 0x74A),
   (0x7A6, 0x7B0), (0x7EB, 0x7F3), (0x7FD, 0x7FD), (0x816, 0x819), (0x81B, 0x823), (0x825, 0x827),
   (0x829, 0x82D), (0x859, 0x85B), (0x898, 0x89F), (0x8CA, 0x8E1), (0x8E3, 0x903), (0x93A, 0x93C),
   (0x93E, 0x94F), (0x951, 0x957), (0x962, 0x963), (0x981, 0x983), (0x9BC, 0x9BC), (0x9BE, 0x9C4),
   (0x9C7, 0x9C8), (0x9CB, 0x9CD), (0x9D7, 0x9D7), (0x9E2, 0x9E3), (0x9FE, 0x9FE), (0xA01, 0xA03),
   (0xA3C, 0xA3C), (0xA3E, 0xA42), (0xA47, 0xA48), (0xA4B, 0xA4D), (0xA51, 0xA51), (0xA70, 0xA71),
   (0xA75, 0xA75), (0xA81, 0xA83), (0xABC, 0xABC), (0xABE, 0xAC5), (0xAC7, 0xAC9), (0xACB, 0xACD),
   (0xAE2, 0xAE3), (0xAFA, 0xAFF), (0xB01, 0xB03), (0xB3C, 0xB3C), (0xB3E, 0xB44), (0xB47, 0xB48),
   (0xB4B, 0xB4D), (0xB55, 0xB57), (0xB62, 0xB63), (0xB82, 0xB82), (0xBBE, 0xBC2), (0xBC6, 0xBC8),
   (0xBCA, 0xBCD), (0xBD7, 0xBD7), (0xC00, 0xC04), (0xC3C, 0xC3C), (0xC3E, 0xC44), (0xC46, 0xC48),
   (0xC4A, 0xC4D), (0xC55, 0xC56), (0xC62, 0xC63), (0xC81, 0xC83), (0xCBC, 0xCBC), (0xCBE, 0xCC4),
   (0xCC6, 0xCC8), (0xCCA, 0xCCD), (0xCD5, 0xCD6), (0xCE2, 0xCE3), (0xD00, 0xD03), (0xD3B, 0xD3C),
   (0xD3E, 0xD44), (0xD46, 0xD48), (0xD4A, 0xD4D), (0xD57, 0xD57), (0xD62, 0xD63), (0xD81, 0xD83),
   (0xDCA, 0xDCA), (0xDCF, 0xDD4), (0xDD6, 0xDD6), (0xDD8, 0xDDF), (0xDF2, 0xDF3), (0xE31, 0xE31),
   (0xE34, 0xE3A), (0xE47, 0xE4E), (0xEB1, 0xEB1), (0xEB4, 0xEBC), (0xEC8, 0xECD), (0xF18, 0xF19),
   (0xF35, 0xF35), (0xF37, 0xF37), (0xF39, 0xF39), (0xF3E, 0xF3F), (0xF71, 0xF84), (0xF86, 0xF87),
   (0xF8D, 0xF97), (0xF99, 0xFBC), (0xFC6, 0xFC6), (0x102B, 0x103E), (0x1056, 0x1059),
   (0x105E, 0x1060), (0x1062, 0x1064), (0x1067, 0x106D), (0x1071, 0x1074), (0x1082, 0x108D),
   (0x108F, 0x108F), (0x109A, 0x109D), (0x135D, 0x135F), (0x1712, 0x1715), (0x1732, 0x1734),
   (0x1752, 0x1753), (0x1772, 0x1773), (0x17B4, 0x17D3), (0x17DD, 0x17DD), (0x180B, 0x180D),
   (0x180F, 0x180F), (0x1885, 0x1886), (0x18A9, 0x18A9), (0x1920, 0x192B), (0x1930, 0x193B),
   (0x1A17, 0x1A1B), (0x1A55, 0x1A5E), (0x1A60, 0x1A7C), (0x1A7F, 0x1A7F), (0x1AB0, 0x1ABD),
   (0x1ABF, 0x1ACE), (0x1B00, 0x1B04), (0x1B34, 0x1B44), (0x1B6B, 0x1B73), (0x1B80, 0x1B82),
   (0x1BA1, 0x1BAD), (0x1BE6, 0x1BF3), (0x1C24, 0x1C37), (0x1CD0, 0x1CD2), (0x1CD4, 0x1CE8),
   (0x1CED, 0x1CED), (0x1CF4, 0x1CF4), (0x1CF7, 0x1CF9), (0x1DC0, 0x1DFF), (0x203F, 0x2040),
   (0x2054, 0x2054), (0x20D0, 0x20DC), (0x20E1, 0x20E1), (0x20E5, 0x20F0), (0x2118, 0x2118),
   (0x212E, 0x212E), (0x2CEF, 0x2CF1), (0x2D7F, 0x2D7F), (0x2DE0, 0x2DFF), (0x302A, 0x302F),
   (0x3099, 0x309A), (0xA66F, 0xA66F), (0xA674, 0xA67D), (0xA69E, 0xA69F), (0xA6F0, 0xA6F1),
   (0xA802, 0xA802), (0xA806, 0xA806), (0xA80B, 0xA80B), (0xA823, 0xA827), (0xA82C, 0xA82C),
   (0xA880, 0xA881), (0xA8B4, 0xA8C5), (0xA8E0, 0xA8F1), (0xA8FF, 0xA8FF), (0xA926, 0xA92D),
   (0xA947, 0xA953), (0xA980, 0xA983), (0xA9B3, 0xA9C0), (0xA9E5, 0xA9E5), (0xAA29, 0xAA36),
   (0xAA43, 0xAA43), (0xAA4C, 0xAA4D), (0xAA7B, 0xAA7D), (0xAAB0, 0xAAB0), (0xAAB2, 0xAAB4),
   (0xAAB7, 0xAAB8), (0xAABE, 0xAABF), (0xAAC1, 0xAAC1), (0xAAEB, 0xAAEF), (0xAAF5, 0xAAF6),
   (0xABE3, 0xABEA), (0xABEC, 0xABED), (0xFB1E, 0xFB1E), (0xFE00, 0xFE0F), (0xFE20, 0xFE2F),
   (0xFE33, 0xFE34), (0xFE4D, 0xFE4F), (0xFF3F, 0xFF3F), (0x101FD, 0x101FD), (0x102E0, 0x102E0),
   (0x10376, 0x1037A), (0x10A01, 0x10A03), (0x10A05, 0x10A06), (0x10A0C, 0x10A0F),
   (0x10A38, 0x10A3A), (0x10A3F, 0x10A3F), (0x10AE5, 0x10AE6), (0x10D24, 0x10D27),
   (0x10EAB, 0x10EAC), (0x10F46, 0x10F50), (0x10F82, 0x10F85), (0x11000, 0x11002),
   (0x11038, 0x11046), (0x11070, 0x11070), (0x11073, 0x11074), (0x1107F, 0x11082),
   (0x110B0, 0x110BA), (0x110C2, 0x110C2), (0x11100, 0x11102), (0x11127, 0x11134),
   (0x11145, 0x11146), (0x11173, 0x11173), (0x11180, 0x11182), (0x111B3, 0x111C0),
   (0x111C9, 0x111CC), (0x111CE, 0x111CF), (0x1122C, 0x11237), (0x1123E, 0x1123E),
   (0x112DF, 0x112EA), (0x11300, 0x11303), (0x1133B, 0x1133C), (0x1133E, 0x11344),
   (0x11347, 0x11348), (0x1134B, 0x1134D), (0x11357, 0x11357), (0x11362, 0x11363),
   (0x11366, 0x1136C), (0x11370, 0x11374), (0x11435, 0x11446), (0x1145E, 0x1145E),
   (0x114B0, 0x114C3), (0x115AF, 0x115B5), (0x115B8, 0x115C0), (0x115DC, 0x115DD),
   (0x11630, 0x11640), (0x116AB, 0x116B7), (0x1171D, 0x1172B), (0x1182C, 0x1183A),
   (0x11930, 0x11935), (0x11937, 0x11938), (0x1193B, 0x1193E), (0x11940, 0x11940),
   (0x11942, 0x11943), (0x119D1, 0x119D7), (0x119DA, 0x119E0), (0x119E4, 0x119E4),
   (0x11A01, 0x11A0A), (0x11A33, 0x11A39), (0x11A3B, 0x11A3E), (0x11A47, 0x11A47),
   (0x11A51, 0x11A5B), (0x11A8A, 0x11A99), (0x11C2F, 0x11C36), (0x11C38, 0x11C3F),
   (0x11C92, 0x11CA7), (0x11CA9, 0x11CB6), (0x11D31, 0x11D36), (0x11D3A, 0x11D3A),
   (0x11D3C, 0x11D3D), (0x11D3F, 0x11D45), (0x11D47, 0x11D47), (0x11D8A, 0x11D8E),
   (0x11D90, 0x11D91), (0x11D93, 0x11D97), (0x11EF3, 0x11EF6), (0x16AF0, 0x16AF4),
   (0x16B30, 0x16B36), (0x16F4F, 0x16F4F), (0x16F51, 0x16F87), (0x16F8F, 0x16F92),
   (0x16FE4, 0x16FE4), (0x16FF0, 0x16FF1), (0x1BC9D, 0x1BC9E), (0x1CF00, 0x1CF2D),
   (0x1CF30, 0x1CF46), (0x1D165, 0x1D169), (0x1D16D, 0x1D172), (0x1D17B, 0x1D182),
   (0x1D185, 0x1D18B), (0x1D1AA, 0x1D1AD), (0x1D242, 0x1D244), (0x1DA00, 0x1DA36),
   (0x1DA3B, 0x1DA6C), (0x1DA75, 0x1DA75), (0x1DA84, 0x1DA84), (0x1DA9B, 0x1DA9F),
   (0x1DAA1, 0x1DAAF), (0x1E000, 0x1E006), (0x1E008, 0x1E018), (0x1E01B, 0x1E021),
   (0x1E023, 0x1E024), (0x1E026, 0x1E02A), (0x1E130, 0x1E136), (0x1E2AE, 0x1E2AE),
   (0x1E2EC, 0x1E2EF), (0x1E8D0, 0x1E8D6), (0x1E944, 0x1E94A), (0xE0100, 0xE01EF)]⟩

/-- The characters that are not decimal digits and yet cannot begin an identifier. -/
def trailingTable : CharSet := ⟨
  [(0xE33, 0xE33), (0xEB3, 0xEB3), (0x1369, 0x1371), (0x19DA, 0x19DA), (0xFF9E, 0xFF9F)]⟩

/-- The characters that can begin an identifier although they are no letters. -/
def leadingTable : CharSet := ⟨
  [(0x1885, 0x1886), (0x2118, 0x2118), (0x212E, 0x212E)]⟩

/-- Whether `c` can stand in an identifier. -/
def isIdentifierChar (c : Char) : Bool :=
  if c.toNat < 128 then isWordChar c
  else (isWordChar c && !bareNumeralTable.contains c) || combiningTable.contains c

/-- Whether `c` can begin an identifier. -/
def startsIdentifier (c : Char) : Bool :=
  leadingTable.contains c ||
    (isWordChar c && isIdentifierChar c && (decimalValue? c).isNone && !trailingTable.contains c)

/-! ## The normal form -/

/-- Characters in a row that stand for as many plain ones in a row. -/
structure Variants where
  first : Nat
  last : Nat
  plain : Nat

/-- The characters that stand for one plain character: letters in raised, wide, bold, slanted and
    other shapes (Unicode 14, Latin and Greek). -/
def variantTable : List Variants :=
  [⟨0xAA, 0xAA, 0x61⟩, ⟨0xB5, 0xB5, 0x3BC⟩, ⟨0xBA, 0xBA, 0x6F⟩, ⟨0x17F, 0x17F, 0x73⟩,
   ⟨0x2B0, 0x2B0, 0x68⟩, ⟨0x2B1, 0x2B1, 0x266⟩, ⟨0x2B2, 0x2B2, 0x6A⟩, ⟨0x2B3, 0x2B3, 0x72⟩,
   ⟨0x2B4, 0x2B4, 0x279⟩, ⟨0x2B5, 0x2B5, 0x27B⟩, ⟨0x2B6, 0x2B6, 0x281⟩, ⟨0x2B7, 0x2B7, 0x77⟩,
   ⟨0x2B8, 0x2B8, 0x79⟩, ⟨0x2E0, 0x2E0, 0x263⟩, ⟨0x2E1, 0x2E1, 0x6C⟩, ⟨0x2E2, 0x2E2, 0x73⟩,
   ⟨0x2E3, 0x2E3, 0x78⟩, ⟨0x2E4, 0x2E4, 0x295⟩, ⟨0x1D2C, 0x1D2C, 0x41⟩, ⟨0x1D2D, 0x1D2D, 0xC6⟩,
   ⟨0x1D2E, 0x1D2E, 0x42⟩, ⟨0x1D30, 0x1D31, 0x44⟩, ⟨0x1D32, 0x1D32, 0x18E⟩, ⟨0x1D33, 0x1D3A, 0x47⟩,
   ⟨0x1D3C, 0x1D3C, 0x4F⟩, ⟨0x1D3D, 0x1D3D, 0x222⟩, ⟨0x1D3E, 0x1D3E, 0x50⟩, ⟨0x1D3F, 0x1D3F, 0x52⟩,
   ⟨0x1D40, 0x1D41, 0x54⟩, ⟨0x1D42, 0x1D42, 0x57⟩, ⟨0x1D43, 0x1D43, 0x61⟩, ⟨0x1D44, 0x1D45, 0x250⟩,
   ⟨0x1D46, 0x1D46, 0x1D02⟩, ⟨0x1D47, 0x1D47, 0x62⟩, ⟨0x1D48, 0x1D49, 0x64⟩,
   ⟨0x1D4A, 0x1D4A, 0x259⟩, ⟨0x1D4B, 0x1D4C, 0x25B⟩, ⟨0x1D4D, 0x1D4D, 0x67⟩, ⟨0x1D4F, 0x1D4F, 0x6B⟩,
   ⟨0x1D50, 0x1D50, 0x6D⟩, ⟨0x1D51, 0x1D51, 0x14B⟩, ⟨0x1D52, 0x1D52, 0x6F⟩, ⟨0x1D53, 0x1D53, 0x254⟩,
   ⟨0x1D54, 0x1D55, 0x1D16⟩, ⟨0x1D56, 0x1D56, 0x70⟩, ⟨0x1D57, 0x1D58, 0x74⟩,
   ⟨0x1D59, 0x1D59, 0x1D1D⟩, ⟨0x1D5A, 0x1D5A, 0x26F⟩, ⟨0x1D5B, 0x1D5B, 0x76⟩,
   ⟨0x1D5C, 0x1D5C, 0x1D25⟩, ⟨0x1D5D, 0x1D5F, 0x3B2⟩, ⟨0x1D60, 0x1D61, 0x3C6⟩,
   ⟨0x1D62, 0x1D62, 0x69⟩, ⟨0x1D63, 0x1D63, 0x72⟩, ⟨0x1D64, 0x1D65, 0x75⟩, ⟨0x1D66, 0x1D67, 0x3B2⟩,
   ⟨0x1D68, 0x1D68, 0x3C1⟩, ⟨0x1D69, 0x1D6A, 0x3C6⟩, ⟨0x1D78, 0x1D78, 0x43D⟩,
   ⟨0x1D9B, 0x1D9B, 0x252⟩, ⟨0x1D9C, 0x1D9C, 0x63⟩, ⟨0x1D9D, 0x1D9D, 0x255⟩, ⟨0x1D9E, 0x1D9E, 0xF0⟩,
   ⟨0x1D9F, 0x1D9F, 0x25C⟩, ⟨0x1DA0, 0x1DA0, 0x66⟩, ⟨0x1DA1, 0x1DA1, 0x25F⟩,
   ⟨0x1DA2, 0x1DA2, 0x261⟩, ⟨0x1DA3, 0x1DA3, 0x265⟩, ⟨0x1DA4, 0x1DA6, 0x268⟩,
   ⟨0x1DA7, 0x1DA7, 0x1D7B⟩, ⟨0x1DA8, 0x1DA8, 0x29D⟩, ⟨0x1DA9, 0x1DA9, 0x26D⟩,
   ⟨0x1DAA, 0x1DAA, 0x1D85⟩, ⟨0x1DAB, 0x1DAB, 0x29F⟩, ⟨0x1DAC, 0x1DAC, 0x271⟩,
   ⟨0x1DAD, 0x1DAD, 0x270⟩, ⟨0x1DAE, 0x1DB1, 0x272⟩, ⟨0x1DB2, 0x1DB2, 0x278⟩,
   ⟨0x1DB3, 0x1DB4, 0x282⟩, ⟨0x1DB5, 0x1DB5, 0x1AB⟩, ⟨0x1DB6, 0x1DB7, 0x289⟩,
   ⟨0x1DB8, 0x1DB8, 0x1D1C⟩, ⟨0x1DB9, 0x1DBA, 0x28B⟩, ⟨0x1DBB, 0x1DBB, 0x7A⟩,
   ⟨0x1DBC, 0x1DBE, 0x290⟩, ⟨0x1DBF, 0x1DBF, 0x3B8⟩, ⟨0x2071, 0x2071, 0x69⟩, ⟨0x207F, 0x207F, 0x6E⟩,
   ⟨0x2090, 0x2090, 0x61⟩, ⟨0x2091, 0x2091, 0x65⟩, ⟨0x2092, 0x2092, 0x6F⟩, ⟨0x2093, 0x2093, 0x78⟩,
   ⟨0x2094, 0x2094, 0x259⟩, ⟨0x2095, 0x2095, 0x68⟩, ⟨0x2096, 0x2099, 0x6B⟩, ⟨0x209A, 0x209A, 0x70⟩,
   ⟨0x209B, 0x209C, 0x73⟩, ⟨0x2102, 0x2102, 0x43⟩, ⟨0x2107, 0x2107, 0x190⟩, ⟨0x210A, 0x210A, 0x67⟩,
   ⟨0x210B, 0x210B, 0x48⟩, ⟨0x210C, 0x210C, 0x48⟩, ⟨0x210D, 0x210D, 0x48⟩, ⟨0x210E, 0x210E, 0x68⟩,
   ⟨0x210F, 0x210F, 0x127⟩, ⟨0x2110, 0x2110, 0x49⟩, ⟨0x2111, 0x2111, 0x49⟩, ⟨0x2112, 0x2112, 0x4C⟩,
   ⟨0x2113, 0x2113, 0x6C⟩, ⟨0x2115, 0x2115, 0x4E⟩, ⟨0x2119, 0x211B, 0x50⟩, ⟨0x211C, 0x211C, 0x52⟩,
   ⟨0x211D, 0x211D, 0x52⟩, ⟨0x2124, 0x2124, 0x5A⟩, ⟨0x2126, 0x2126, 0x3A9⟩, ⟨0x2128, 0x2128, 0x5A⟩,
   ⟨0x212A, 0x212A, 0x4B⟩, ⟨0x212B, 0x212B, 0xC5⟩, ⟨0x212C, 0x212D, 0x42⟩, ⟨0x212F, 0x212F, 0x65⟩,
   ⟨0x2130, 0x2131, 0x45⟩, ⟨0x2133, 0x2133, 0x4D⟩, ⟨0x2134, 0x2134, 0x6F⟩, ⟨0x2135, 0x2138, 0x5D0⟩,
   ⟨0x2139, 0x2139, 0x69⟩, ⟨0x213C, 0x213C, 0x3C0⟩, ⟨0x213D, 0x213D, 0x3B3⟩,
   ⟨0x213E, 0x213E, 0x393⟩, ⟨0x213F, 0x213F, 0x3A0⟩, ⟨0x2145, 0x2145, 0x44⟩, ⟨0x2146, 0x2147, 0x64⟩,
   ⟨0x2148, 0x2149, 0x69⟩, ⟨0x2160, 0x2160, 0x49⟩, ⟨0x2164, 0x2164, 0x56⟩, ⟨0x2169, 0x2169, 0x58⟩,
   ⟨0x216C, 0x216C, 0x4C⟩, ⟨0x216D, 0x216E, 0x43⟩, ⟨0x216F, 0x216F, 0x4D⟩, ⟨0x2170, 0x2170, 0x69⟩,
   ⟨0x2174, 0x2174, 0x76⟩, ⟨0x2179, 0x2179, 0x78⟩, ⟨0x217C, 0x217C, 0x6C⟩, ⟨0x217D, 0x217E, 0x63⟩,
   ⟨0x217F, 0x217F, 0x6D⟩, ⟨0xFF10, 0xFF19, 0x30⟩, ⟨0xFF21, 0xFF3A, 0x41⟩, ⟨0xFF3F, 0xFF3F, 0x5F⟩,
   ⟨0xFF41, 0xFF5A, 0x61⟩, ⟨0x1D400, 0x1D419, 0x41⟩, ⟨0x1D41A, 0x1D433, 0x61⟩,
   ⟨0x1D434, 0x1D44D, 0x41⟩, ⟨0x1D44E, 0x1D454, 0x61⟩, ⟨0x1D456, 0x1D467, 0x69⟩,
   ⟨0x1D468, 0x1D481, 0x41⟩, ⟨0x1D482, 0x1D49B, 0x61⟩, ⟨0x1D49C, 0x1D49C, 0x41⟩,
   ⟨0x1D49E, 0x1D49F, 0x43⟩, ⟨0x1D4A2, 0x1D4A2, 0x47⟩, ⟨0x1D4A5, 0x1D4A6, 0x4A⟩,
   ⟨0x1D4A9, 0x1D4AC, 0x4E⟩, ⟨0x1D4AE, 0x1D4B5, 0x53⟩, ⟨0x1D4B6, 0x1D4B9, 0x61⟩,
   ⟨0x1D4BB, 0x1D4BB, 0x66⟩, ⟨0x1D4BD, 0x1D4C3, 0x68⟩, ⟨0x1D4C5, 0x1D4CF, 0x70⟩,
   ⟨0x1D4D0, 0x1D4E9, 0x41⟩, ⟨0x1D4EA, 0x1D503, 0x61⟩, ⟨0x1D504, 0x1D505, 0x41⟩,
   ⟨0x1D507, 0x1D50A, 0x44⟩, ⟨0x1D50D, 0x1D514, 0x4A⟩, ⟨0x1D516, 0x1D51C, 0x53⟩,
   ⟨0x1D51E, 0x1D537, 0x61⟩, ⟨0x1D538, 0x1D539, 0x41⟩, ⟨0x1D53B, 0x1D53E, 0x44⟩,
   ⟨0x1D540, 0x1D544, 0x49⟩, ⟨0x1D546, 0x1D546, 0x4F⟩, ⟨0x1D54A, 0x1D550, 0x53⟩,
   ⟨0x1D552, 0x1D56B, 0x61⟩, ⟨0x1D56C, 0x1D585, 0x41⟩, ⟨0x1D586, 0x1D59F, 0x61⟩,
   ⟨0x1D5A0, 0x1D5B9, 0x41⟩, ⟨0x1D5BA, 0x1D5D3, 0x61⟩, ⟨0x1D5D4, 0x1D5ED, 0x41⟩,
   ⟨0x1D5EE, 0x1D607, 0x61⟩, ⟨0x1D608, 0x1D621, 0x41⟩, ⟨0x1D622, 0x1D63B, 0x61⟩,
   ⟨0x1D63C, 0x1D655, 0x41⟩, ⟨0x1D656, 0x1D66F, 0x61⟩, ⟨0x1D670, 0x1D689, 0x41⟩,
   ⟨0x1D68A, 0x1D6A3, 0x61⟩, ⟨0x1D6A4, 0x1D6A4, 0x131⟩, ⟨0x1D6A5, 0x1D6A5, 0x237⟩,
   ⟨0x1D6A8, 0x1D6B8, 0x391⟩, ⟨0x1D6B9, 0x1D6B9, 0x398⟩, ⟨0x1D6BA, 0x1D6C0, 0x3A3⟩,
   ⟨0x1D6C2, 0x1D6DA, 0x3B1⟩, ⟨0x1D6DC, 0x1D6DC, 0x3B5⟩, ⟨0x1D6DD, 0x1D6DD, 0x3B8⟩,
   ⟨0x1D6DE, 0x1D6DE, 0x3BA⟩, ⟨0x1D6DF, 0x1D6DF, 0x3C6⟩, ⟨0x1D6E0, 0x1D6E0, 0x3C1⟩,
   ⟨0x1D6E1, 0x1D6E1, 0x3C0⟩, ⟨0x1D6E2, 0x1D6F2, 0x391⟩, ⟨0x1D6F3, 0x1D6F3, 0x398⟩,
   ⟨0x1D6F4, 0x1D6FA, 0x3A3⟩, ⟨0x1D6FC, 0x1D714, 0x3B1⟩, ⟨0x1D716, 0x1D716, 0x3B5⟩,
   ⟨0x1D717, 0x1D717, 0x3B8⟩, ⟨0x1D718, 0x1D718, 0x3BA⟩, ⟨0x1D719, 0x1D719, 0x3C6⟩,
   ⟨0x1D71A, 0x1D71A, 0x3C1⟩, ⟨0x1D71B, 0x1D71B, 0x3C0⟩, ⟨0x1D71C, 0x1D72C, 0x391⟩,
   ⟨0x1D72D, 0x1D72D, 0x398⟩, ⟨0x1D72E, 0x1D734, 0x3A3⟩, ⟨0x1D736, 0x1D74E, 0x3B1⟩,
   ⟨0x1D750, 0x1D750, 0x3B5⟩, ⟨0x1D751, 0x1D751, 0x3B8⟩, ⟨0x1D752, 0x1D752, 0x3BA⟩,
   ⟨0x1D753, 0x1D753, 0x3C6⟩, ⟨0x1D754, 0x1D754, 0x3C1⟩, ⟨0x1D755, 0x1D755, 0x3C0⟩,
   ⟨0x1D756, 0x1D766, 0x391⟩, ⟨0x1D767, 0x1D767, 0x398⟩, ⟨0x1D768, 0x1D76E, 0x3A3⟩,
   ⟨0x1D770, 0x1D788, 0x3B1⟩, ⟨0x1D78A, 0x1D78A, 0x3B5⟩, ⟨0x1D78B, 0x1D78B, 0x3B8⟩,
   ⟨0x1D78C, 0x1D78C, 0x3BA⟩, ⟨0x1D78D, 0x1D78D, 0x3C6⟩, ⟨0x1D78E, 0x1D78E, 0x3C1⟩,
   ⟨0x1D78F, 0x1D78F, 0x3C0⟩, ⟨0x1D790, 0x1D7A0, 0x391⟩, ⟨0x1D7A1, 0x1D7A1, 0x398⟩,
   ⟨0x1D7A2, 0x1D7A8, 0x3A3⟩, ⟨0x1D7AA, 0x1D7C2, 0x3B1⟩, ⟨0x1D7C4, 0x1D7C4, 0x3B5⟩,
   ⟨0x1D7C5, 0x1D7C5, 0x3B8⟩, ⟨0x1D7C6, 0x1D7C6, 0x3BA⟩, ⟨0x1D7C7, 0x1D7C7, 0x3C6⟩,
   ⟨0x1D7C8, 0x1D7C8, 0x3C1⟩, ⟨0x1D7C9, 0x1D7C9, 0x3C0⟩, ⟨0x1D7CA, 0x1D7CB, 0x3DC⟩,
   ⟨0x1D7CE, 0x1D7D7, 0x30⟩, ⟨0x1D7D8, 0x1D7E1, 0x30⟩, ⟨0x1D7E2, 0x1D7EB, 0x30⟩,
   ⟨0x1D7EC, 0x1D7F5, 0x30⟩, ⟨0x1D7F6, 0x1D7FF, 0x30⟩]

/-- The characters that stand for several plain ones. -/
def ligatureTable : List (Char × String) :=
  [('Ĳ', "IJ"), ('ĳ', "ij"), ('Ŀ', "L·"), ('ŀ', "l·"), ('ŉ', "ʼn"), ('Ǆ', "DŽ"), ('ǅ', "Dž"),
   ('ǆ', "dž"), ('Ǉ', "LJ"), ('ǈ', "Lj"), ('ǉ', "lj"), ('Ǌ', "NJ"), ('ǋ', "Nj"), ('ǌ', "nj"),
   ('Ǳ', "DZ"), ('ǲ', "Dz"), ('ǳ', "dz"), ('Ⅱ', "II"), ('Ⅲ', "III"), ('Ⅳ', "IV"), ('Ⅵ', "VI"),
   ('Ⅶ', "VII"), ('Ⅷ', "VIII"), ('Ⅸ', "IX"), ('Ⅺ', "XI"), ('Ⅻ', "XII"), ('ⅱ', "ii"), ('ⅲ', "iii"),
   ('ⅳ', "iv"), ('ⅵ', "vi"), ('ⅶ', "vii"), ('ⅷ', "viii"), ('ⅸ', "ix"), ('ⅺ', "xi"), ('ⅻ', "xii"),
   ('ﬀ', "ff"), ('ﬁ', "fi"), ('ﬂ', "fl"), ('ﬃ', "ffi"), ('ﬄ', "ffl"), ('ﬅ', "st"), ('ﬆ', "st")]

/-- For a combining mark the letters that it joins with, each followed by what they become. -/
def joinTable : List (Char × String) :=
  [('\u0300', "AÀEÈIÌOÒUÙaàeèiìoòuùÜǛüǜNǸnǹĒḔēḕŌṐōṑWẀwẁÂẦâầĂẰăằÊỀêềÔỒôồƠỜơờƯỪưừYỲyỳ"),
   ('\u0301', "AÁEÉIÍOÓUÚYÝaáeéiíoóuúyýCĆcćLĹlĺNŃnńRŔrŕSŚsśZŹzźÜǗüǘGǴgǵÅǺåǻÆǼæǽØǾøǿÇḈçḉ"),
   ('\u0301', "ĒḖēḗÏḮïḯKḰkḱMḾmḿÕṌõṍŌṒōṓPṔpṕŨṸũṹWẂwẃÂẤâấĂẮăắÊẾêếÔỐôốƠỚơớƯỨưứ"),
   ('\u0302', "AÂEÊIÎOÔUÛaâeêiîoôuûCĈcĉGĜgĝHĤhĥJĴjĵSŜsŝWŴwŵYŶyŷZẐzẑẠẬạậẸỆẹệỌỘọộ"),
   ('\u0303', "AÃNÑOÕaãnñoõIĨiĩUŨuũVṼvṽÂẪâẫĂẴăẵEẼeẽÊỄêễÔỖôỗƠỠơỡƯỮưữYỸyỹ"),
   ('\u0304', "AĀaāEĒeēIĪiīOŌoōUŪuūÜǕüǖÄǞäǟȦǠȧǡÆǢæǣǪǬǫǭÖȪöȫÕȬõȭȮȰȯȱYȲyȳGḠgḡḶḸḷḹṚṜṛṝ"),
   ('\u0306', "AĂaăEĔeĕGĞgğIĬiĭOŎoŏUŬuŭȨḜȩḝẠẶạặ"),
   ('\u0307', "CĊcċEĖeėGĠgġIİZŻzżAȦaȧOȮoȯBḂbḃDḊdḋFḞfḟHḢhḣMṀmṁNṄnṅPṖpṗRṘrṙSṠsṡŚṤśṥŠṦšṧṢṨ"),
   ('\u0307', "ṣṩTṪtṫWẆwẇXẊxẋYẎyẏſẛ"),
   ('\u0308', "AÄEËIÏOÖUÜaäeëiïoöuüyÿYŸHḦhḧÕṎõṏŪṺūṻWẄwẅXẌxẍtẗ"),
   ('\u030a', "AÅaåUŮuůwẘyẙ"),
   ('\u030b', "OŐoőUŰuű"),
   ('\u030c', "CČcčDĎdďEĚeěLĽlľNŇnňRŘrřSŠsšTŤtťZŽzžAǍaǎIǏiǐOǑoǒUǓuǔÜǙüǚGǦgǧKǨkǩƷǮʒǯjǰHȞ"),
   ('\u030c', "hȟ"),
   ('\u0323', "BḄbḅDḌdḍHḤhḥKḲkḳLḶlḷMṂmṃNṆnṇRṚrṛSṢsṣTṬtṭVṾvṿWẈwẉZẒzẓAẠaạEẸeẹIỊiịOỌoọƠỢơợ"),
   ('\u0323', "UỤuụƯỰưựYỴyỵ"),
   ('\u0327', "CÇcçGĢgģKĶkķLĻlļNŅnņRŖrŗSŞsşTŢtţEȨeȩDḐdḑHḨhḩ"),
   ('\u0328', "AĄaąEĘeęIĮiįUŲuųOǪoǫ")]

/-- The plain characters that a character stands for. -/
def plainForm (c : Char) : List Char :=
  if c.toNat < 128 then [c]
  else match variantTable.find? fun v => v.first ≤ c.toNat && c.toNat ≤ v.last with
    | some v => [Char.ofNat (v.plain + (c.toNat - v.first))]
    | none => (ligatureTable.lookup c).elim [c] String.toList

/-- What a letter becomes in a list of letters, each followed by what it becomes. -/
def becomes? (letter : Char) : List Char → Option Char
  | a :: joined :: rest => if a == letter then some joined else becomes? letter rest
  | _ => none

/-- A letter and a combining mark as one character, if there is one. -/
def join? (letter mark : Char) : Option Char :=
  joinTable.findSome? fun (m, letters) =>
    if m == mark then becomes? letter letters.toList else none

/-- Characters with every mark joined to the letter before it, where that is possible. -/
def joinMarks : List Char → List Char → List Char
  | done, [] => done.reverse
  | [], c :: rest => joinMarks [c] rest
  | last :: done, c :: rest =>
    match join? last c with
    | some joined => joinMarks (joined :: done) rest
    | none => joinMarks (c :: last :: done) rest

/-- The normal form of an identifier. -/
def canonicalName (name : List Char) : List Char :=
  if name.all fun c => c.toNat < 128 then name
  else joinMarks [] (name.flatMap plainForm)

end AgentScript.Text
