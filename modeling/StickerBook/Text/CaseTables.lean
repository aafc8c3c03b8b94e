/-!
# Case data of the Unicode character database

Three tables of Unicode 17: the runs of characters with a one-character lower-case mapping, the
characters with the property `Cased`, and those with the property `Case_Ignorable`. Ranges are
half open; `StickerBook.Text.Lower` reads them.
-/

namespace StickerBook.Text

/-- A run of capitals from `first` to `last`, every `step`-th one, whose lower-case form lies `shift` away. -/
structure LowerRun where
  first : Nat
  last : Nat
  step : Nat
  shift : Int

/-- The lower-case mappings to a single character, as runs in increasing order. -/
def lowerRuns : List LowerRun :=
  [⟨0x41, 0x5A, 1, 32⟩, ⟨0xC0, 0xD6, 1, 32⟩, ⟨0xD8, 0xDE, 1, 32⟩, ⟨0x100, 0x12E, 2, 1⟩,
   ⟨0x132, 0x136, 2, 1⟩, ⟨0x139, 0x147, 2, 1⟩, ⟨0x14A, 0x176, 2, 1⟩, ⟨0x178, 0x178, 1, -121⟩,
   ⟨0x179, 0x17D, 2, 1⟩, ⟨0x181, 0x181, 1, 210⟩, ⟨0x182, 0x184, 2, 1⟩, ⟨0x186, 0x186, 1, 206⟩,
   ⟨0x187, 0x187, 1, 1⟩, ⟨0x189, 0x18A, 1, 205⟩, ⟨0x18B, 0x18B, 1, 1⟩, ⟨0x18E, 0x18E, 1, 79⟩,
   ⟨0x18F, 0x18F, 1, 202⟩, ⟨0x190, 0x190, 1, 203⟩, ⟨0x191, 0x191, 1, 1⟩,
   ⟨0x193, 0x193, 1, 205⟩, ⟨0x194, 0x194, 1, 207⟩, ⟨0x196, 0x196, 1, 211⟩,
   ⟨0x197, 0x197, 1, 209⟩, ⟨0x198, 0x198, 1, 1⟩, ⟨0x19C, 0x19C, 1, 211⟩,
   ⟨0x19D, 0x19D, 1, 213⟩, ⟨0x19F, 0x19F, 1, 214⟩, ⟨0x1A0, 0x1A4, 2, 1⟩,
   ⟨0x1A6, 0x1A6, 1, 218⟩, ⟨0x1A7, 0x1A7, 1, 1⟩, ⟨0x1A9, 0x1A9, 1, 218⟩, ⟨0x1AC, 0x1AC, 1, 1⟩,
   ⟨0x1AE, 0x1AE, 1, 218⟩, ⟨0x1AF, 0x1AF, 1, 1⟩, ⟨0x1B1, 0x1B2, 1, 217⟩, ⟨0x1B3, 0x1B5, 2, 1⟩,
   ⟨0x1B7, 0x1B7, 1, 219⟩, ⟨0x1B8, 0x1B8, 1, 1⟩, ⟨0x1BC, 0x1BC, 1, 1⟩, ⟨0x1C4, 0x1C4, 1, 2⟩,
   ⟨0x1C5, 0x1C5, 1, 1⟩, ⟨0x1C7, 0x1C7, 1, 2⟩, ⟨0x1C8, 0x1C8, 1, 1⟩, ⟨0x1CA, 0x1CA, 1, 2⟩,
   ⟨0x1CB, 0x1DB, 2, 1⟩, ⟨0x1DE, 0x1EE, 2, 1⟩, ⟨0x1F1, 0x1F1, 1, 2⟩, ⟨0x1F2, 0x1F4, 2, 1⟩,
   ⟨0x1F6, 0x1F6, 1, -97⟩, ⟨0x1F7, 0x1F7, 1, -56⟩, ⟨0x1F8, 0x21E, 2, 1⟩,
   ⟨0x220, 0x220, 1, -130⟩, ⟨0x222, 0x232, 2, 1⟩, ⟨0x23A, 0x23A, 1, 10795⟩,
   ⟨0x23B, 0x23B, 1, 1⟩, ⟨0x23D, 0x23D, 1, -163⟩, ⟨0x23E, 0x23E, 1, 10792⟩,
   ⟨0x241, 0x241, 1, 1⟩, ⟨0x243, 0x243, 1, -195⟩, ⟨0x244, 0x244, 1, 69⟩, ⟨0x245, 0x245, 1, 71⟩,
   ⟨0x246, 0x24E, 2, 1⟩, ⟨0x370, 0x372, 2, 1⟩, ⟨0x376, 0x376, 1, 1⟩, ⟨0x37F, 0x37F, 1, 116⟩,
   ⟨0x386, 0x386, 1, 38⟩, ⟨0x388, 0x38A, 1, 37⟩, ⟨0x38C, 0x38C, 1, 64⟩, ⟨0x38E, 0x38F, 1, 63⟩,
   ⟨0x391, 0x3A1, 1, 32⟩, ⟨0x3A3, 0x3AB, 1, 32⟩, ⟨0x3CF, 0x3CF, 1, 8⟩, ⟨0x3D8, 0x3EE, 2, 1⟩,
   ⟨0x3F4, 0x3F4, 1, -60⟩, ⟨0x3F7, 0x3F7, 1, 1⟩, ⟨0x3F9, 0x3F9, 1, -7⟩, ⟨0x3FA, 0x3FA, 1, 1⟩,
   ⟨0x3FD, 0x3FF, 1, -130⟩, ⟨0x400, 0x40F, 1, 80⟩, ⟨0x410, 0x42F, 1, 32⟩, ⟨0x460, 0x480, 2, 1⟩,
   ⟨0x48A, 0x4BE, 2, 1⟩, ⟨0x4C0, 0x4C0, 1, 15⟩, ⟨0x4C1, 0x4CD, 2, 1⟩, ⟨0x4D0, 0x52E, 2, 1⟩,
   ⟨0x531, 0x556, 1, 48⟩, ⟨0x10A0, 0x10C5, 1, 7264⟩, ⟨0x10C7, 0x10C7, 1, 7264⟩,
   ⟨0x10CD, 0x10CD, 1, 7264⟩, ⟨0x13A0, 0x13EF, 1, 38864⟩, ⟨0x13F0, 0x13F5, 1, 8⟩,
   ⟨0x1C89, 0x1C89, 1, 1⟩, ⟨0x1C90, 0x1CBA, 1, -3008⟩, ⟨0x1CBD, 0x1CBF, 1, -3008⟩,
   ⟨0x1E00, 0x1E94, 2, 1⟩, ⟨0x1E9E, 0x1E9E, 1, -7615⟩, ⟨0x1EA0, 0x1EFE, 2, 1⟩,
   ⟨0x1F08, 0x1F0F, 1, -8⟩, ⟨0x1F18, 0x1F1D, 1, -8⟩, ⟨0x1F28, 0x1F2F, 1, -8⟩,
   ⟨0x1F38, 0x1F3F, 1, -8⟩, ⟨0x1F48, 0x1F4D, 1, -8⟩, ⟨0x1F59, 0x1F5F, 2, -8⟩,
   ⟨0x1F68, 0x1F6F, 1, -8⟩, ⟨0x1F88, 0x1F8F, 1, -8⟩, ⟨0x1F98, 0x1F9F, 1, -8⟩,
   ⟨0x1FA8, 0x1FAF, 1, -8⟩, ⟨0x1FB8, 0x1FB9, 1, -8⟩, ⟨0x1FBA, 0x1FBB, 1, -74⟩,
   ⟨0x1FBC, 0x1FBC, 1, -9⟩, ⟨0x1FC8, 0x1FCB, 1, -86⟩, ⟨0x1FCC, 0x1FCC, 1, -9⟩,
   ⟨0x1FD8, 0x1FD9, 1, -8⟩, ⟨0x1FDA, 0x1FDB, 1, -100⟩, ⟨0x1FE8, 0x1FE9, 1, -8⟩,
   ⟨0x1FEA, 0x1FEB, 1, -112⟩, ⟨0x1FEC, 0x1FEC, 1, -7⟩, ⟨0x1FF8, 0x1FF9, 1, -128⟩,
   ⟨0x1FFA, 0x1FFB, 1, -126⟩, ⟨0x1FFC, 0x1FFC, 1, -9⟩, ⟨0x2126, 0x2126, 1, -7517⟩,
   ⟨0x212A, 0x212A, 1, -8383⟩, ⟨0x212B, 0x212B, 1, -8262⟩, ⟨0x2132, 0x2132, 1, 28⟩,
   ⟨0x2160, 0x216F, 1, 16⟩, ⟨0x2183, 0x2183, 1, 1⟩, ⟨0x24B6, 0x24CF, 1, 26⟩,
   ⟨0x2C00, 0x2C2F, 1, 48⟩, ⟨0x2C60, 0x2C60, 1, 1⟩, ⟨0x2C62, 0x2C62, 1, -10743⟩,
   ⟨0x2C63, 0x2C63, 1, -3814⟩, ⟨0x2C64, 0x2C64, 1, -10727⟩, ⟨0x2C67, 0x2C6B, 2, 1⟩,
   ⟨0x2C6D, 0x2C6D, 1, -10780⟩, ⟨0x2C6E, 0x2C6E, 1, -10749⟩, ⟨0x2C6F, 0x2C6F, 1, -10783⟩,
   ⟨0x2C70, 0x2C70, 1, -10782⟩, ⟨0x2C72, 0x2C72, 1, 1⟩, ⟨0x2C75, 0x2C75, 1, 1⟩,
   ⟨0x2C7E, 0x2C7F, 1, -10815⟩, ⟨0x2C80, 0x2CE2, 2, 1⟩, ⟨0x2CEB, 0x2CED, 2, 1⟩,
   ⟨0x2CF2, 0x2CF2, 1, 1⟩, ⟨0xA640, 0xA66C, 2, 1⟩, ⟨0xA680, 0xA69A, 2, 1⟩,
   ⟨0xA722, 0xA72E, 2, 1⟩, ⟨0xA732, 0xA76E, 2, 1⟩, ⟨0xA779, 0xA77B, 2, 1⟩,
   ⟨0xA77D, 0xA77D, 1, -35332⟩, ⟨0xA77E, 0xA786, 2, 1⟩, ⟨0xA78B, 0xA78B, 1, 1⟩,
   ⟨0xA78D, 0xA78D, 1, -42280⟩, ⟨0xA790, 0xA792, 2, 1⟩, ⟨0xA796, 0xA7A8, 2, 1⟩,
   ⟨0xA7AA, 0xA7AA, 1, -42308⟩, ⟨0xA7AB, 0xA7AB, 1, -42319⟩, ⟨0xA7AC, 0xA7AC, 1, -42315⟩,
   ⟨0xA7AD, 0xA7AD, 1, -42305⟩, ⟨0xA7AE, 0xA7AE, 1, -42308⟩, ⟨0xA7B0, 0xA7B0, 1, -42258⟩,
   ⟨0xA7B1, 0xA7B1, 1, -42282⟩, ⟨0xA7B2, 0xA7B2, 1, -42261⟩, ⟨0xA7B3, 0xA7B3, 1, 928⟩,
   ⟨0xA7B4, 0xA7C2, 2, 1⟩, ⟨0xA7C4, 0xA7C4, 1, -48⟩, ⟨0xA7C5, 0xA7C5, 1, -42307⟩,
   ⟨0xA7C6, 0xA7C6, 1, -35384⟩, ⟨0xA7C7, 0xA7C9, 2, 1⟩, ⟨0xA7CB, 0xA7CB, 1, -42343⟩,
   ⟨0xA7CC, 0xA7DA, 2, 1⟩, ⟨0xA7DC, 0xA7DC, 1, -42561⟩, ⟨0xA7F5, 0xA7F5, 1, 1⟩,
   ⟨0xFF21, 0xFF3A, 1, 32⟩, ⟨0x10400, 0x10427, 1, 40⟩, ⟨0x104B0, 0x104D3, 1, 40⟩,
   ⟨0x10570, 0x1057A, 1, 39⟩, ⟨0x1057C, 0x1058A, 1, 39⟩, ⟨0x1058C, 0x10592, 1, 39⟩,
   ⟨0x10594, 0x10595, 1, 39⟩, ⟨0x10C80, 0x10CB2, 1, 64⟩, ⟨0x10D50, 0x10D65, 1, 32⟩,
   ⟨0x118A0, 0x118BF, 1, 32⟩, ⟨0x16E40, 0x16E5F, 1, 32⟩, ⟨0x16EA0, 0x16EB8, 1, 27⟩,
   ⟨0x1E900, 0x1E921, 1, 34⟩]

/-- The characters with the property `Cased`. -/
def casedRanges : List (Nat × Nat) :=
  [(0x41, 0x5B), (0x61, 0x7B), (0xAA, 0xAB), (0xB5, 0xB6), (0xBA, 0xBB), (0xC0, 0xD7),
   (0xD8, 0xF7), (0xF8, 0x1BB), (0x1BC, 0x1C0), (0x1C4, 0x294), (0x296, 0x2B9), (0x2C0, 0x2C2),
   (0x2E0, 0x2E5), (0x345, 0x346), (0x370, 0x374), (0x376, 0x378), (0x37A, 0x37E),
   (0x37F, 0x380), (0x386, 0x387), (0x388, 0x38B), (0x38C, 0x38D), (0x38E, 0x3A2),
   (0x3A3, 0x3F6), (0x3F7, 0x482), (0x48A, 0x530), (0x531, 0x557), (0x560, 0x589),
   (0x10A0, 0x10C6), (0x10C7, 0x10C8), (0x10CD, 0x10CE), (0x10D0, 0x10FB), (0x10FC, 0x1100),
   (0x13A0, 0x13F6), (0x13F8, 0x13FE), (0x1C80, 0x1C8B), (0x1C90, 0x1CBB), (0x1CBD, 0x1CC0),
   (0x1D00, 0x1DC0), (0x1E00, 0x1F16), (0x1F18, 0x1F1E), (0x1F20, 0x1F46), (0x1F48, 0x1F4E),
   (0x1F50, 0x1F58), (0x1F59, 0x1F5A), (0x1F5B, 0x1F5C), (0x1F5D, 0x1F5E), (0x1F5F, 0x1F7E),
   (0x1F80, 0x1FB5), (0x1FB6, 0x1FBD), (0x1FBE, 0x1FBF), (0x1FC2, 0x1FC5), (0x1FC6, 0x1FCD),
   (0x1FD0, 0x1FD4), (0x1FD6, 0x1FDC), (0x1FE0, 0x1FED), (0x1FF2, 0x1FF5), (0x1FF6, 0x1FFD),
   (0x2071, 0x2072), (0x207F, 0x2080), (0x2090, 0x209D), (0x2102, 0x2103), (0x2107, 0x2108),
   (0x210A, 0x2114), (0x2115, 0x2116), (0x2119, 0x211E), (0x2124, 0x2125), (0x2126, 0x2127),
   (0x2128, 0x2129), (0x212A, 0x212E), (0x212F, 0x2135), (0x2139, 0x213A), (0x213C, 0x2140),
   (0x2145, 0x214A), (0x214E, 0x214F), (0x2160, 0x2180), (0x2183, 0x2185), (0x24B6, 0x24EA),
   (0x2C00, 0x2CE5), (0x2CEB, 0x2CEF), (0x2CF2, 0x2CF4), (0x2D00, 0x2D26), (0x2D27, 0x2D28),
   (0x2D2D, 0x2D2E), (0xA640, 0xA66E), (0xA680, 0xA69E), (0xA722, 0xA788), (0xA78B, 0xA78F),
   (0xA790, 0xA7DD), (0xA7F1, 0xA7F7), (0xA7F8, 0xA7FB), (0xAB30, 0xAB5B), (0xAB5C, 0xAB6A),
   (0xAB70, 0xABC0), (0xFB00, 0xFB07), (0xFB13, 0xFB18), (0xFF21, 0xFF3B), (0xFF41, 0xFF5B),
   (0x10400, 0x10450), (0x104B0, 0x104D4), (0x104D8, 0x104FC), (0x10570, 0x1057B),
   (0x1057C, 0x1058B), (0x1058C, 0x10593), (0x10594, 0x10596), (0x10597, 0x105A2),
   (0x105A3, 0x105B2), (0x105B3, 0x105BA), (0x105BB, 0x105BD), (0x10780, 0x10781),
   (0x10783, 0x10786), (0x10787, 0x107B1), (0x107B2, 0x107BB), (0x10C80, 0x10CB3),
   (0x10CC0, 0x10CF3), (0x10D50, 0x10D66), (0x10D70, 0x10D86), (0x118A0, 0x118E0),
   (0x16E40, 0x16E80), (0x16EA0, 0x16EB9), (0x16EBB, 0x16ED4), (0x1D400, 0x1D455),
   (0x1D456, 0x1D49D), (0x1D49E, 0x1D4A0), (0x1D4A2, 0x1D4A3), (0x1D4A5, 0x1D4A7),
   (0x1D4A9, 0x1D4AD), (0x1D4AE, 0x1D4BA), (0x1D4BB, 0x1D4BC), (0x1D4BD, 0x1D4C4),
   (0x1D4C5, 0x1D506), (0x1D507, 0x1D50B), (0x1D50D, 0x1D515), (0x1D516, 0x1D51D),
   (0x1D51E, 0x1D53A), (0x1D53B, 0x1D53F), (0x1D540, 0x1D545), (0x1D546, 0x1D547),
   (0x1D54A, 0x1D551), (0x1D552, 0x1D6A6), (0x1D6A8, 0x1D6C1), (0x1D6C2, 0x1D6DB),
   (0x1D6DC, 0x1D6FB), (0x1D6FC, 0x1D715), (0x1D716, 0x1D735), (0x1D736, 0x1D74F),
   (0x1D750, 0x1D76F), (0x1D770, 0x1D789), (0x1D78A, 0x1D7A9), (0x1D7AA, 0x1D7C3),
   (0x1D7C4, 0x1D7CC), (0x1DF00, 0x1DF0A), (0x1DF0B, 0x1DF1F), (0x1DF25, 0x1DF2B),
   (0x1E030, 0x1E06E), (0x1E900, 0x1E944), (0x1F130, 0x1F14A), (0x1F150, 0x1F16A),
   (0x1F170, 0x1F18A)]

/-- The characters with the property `Case_Ignorable`. -/
def caseIgnorableRanges : List (Nat × Nat) :=
  [(0x27, 0x28), (0x2E, 0x2F), (0x3A, 0x3B), (0x5E, 0x5F), (0x60, 0x61), (0xA8, 0xA9),
   (0xAD, 0xAE), (0xAF, 0xB0), (0xB4, 0xB5), (0xB7, 0xB9), (0x2B0, 0x370), (0x374, 0x376),
   (0x37A, 0x37B), (0x384, 0x386), (0x387, 0x388), (0x483, 0x48A), (0x559, 0x55A),
   (0x55F, 0x560), (0x591, 0x5BE), (0x5BF, 0x5C0), (0x5C1, 0x5C3), (0x5C4, 0x5C6),
   (0x5C7, 0x5C8), (0x5F4, 0x5F5), (0x600, 0x606), (0x610, 0x61B), (0x61C, 0x61D),
   (0x640, 0x641), (0x64B, 0x660), (0x670, 0x671), (0x6D6, 0x6DE), (0x6DF, 0x6E9),
   (0x6EA, 0x6EE), (0x70F, 0x710), (0x711, 0x712), (0x730, 0x74B), (0x7A6, 0x7B1),
   (0x7EB, 0x7F6), (0x7FA, 0x7FB), (0x7FD, 0x7FE), (0x816, 0x82E), (0x859, 0x85C),
   (0x888, 0x889), (0x890, 0x892), (0x897, 0x8A0), (0x8C9, 0x903), (0x93A, 0x93B),
   (0x93C, 0x93D), (0x941, 0x949), (0x94D, 0x94E), (0x951, 0x958), (0x962, 0x964),
   (0x971, 0x972), (0x981, 0x982), (0x9BC, 0x9BD), (0x9C1, 0x9C5), (0x9CD, 0x9CE),
   (0x9E2, 0x9E4), (0x9FE, 0x9FF), (0xA01, 0xA03), (0xA3C, 0xA3D), (0xA41, 0xA43),
   (0xA47, 0xA49), (0xA4B, 0xA4E), (0xA51, 0xA52), (0xA70, 0xA72), (0xA75, 0xA76),
   (0xA81, 0xA83), (0xABC, 0xABD), (0xAC1, 0xAC6), (0xAC7, 0xAC9), (0xACD, 0xACE),
   (0xAE2, 0xAE4), (0xAFA, 0xB00), (0xB01, 0xB02), (0xB3C, 0xB3D), (0xB3F, 0xB40),
   (0xB41, 0xB45), (0xB4D, 0xB4E), (0xB55, 0xB57), (0xB62, 0xB64), (0xB82, 0xB83),
   (0xBC0, 0xBC1), (0xBCD, 0xBCE), (0xC00, 0xC01), (0xC04, 0xC05), (0xC3C, 0xC3D),
   (0xC3E, 0xC41), (0xC46, 0xC49), (0xC4A, 0xC4E), (0xC55, 0xC57), (0xC62, 0xC64),
   (0xC81, 0xC82), (0xCBC, 0xCBD), (0xCBF, 0xCC0), (0xCC6, 0xCC7), (0xCCC, 0xCCE),
   (0xCE2, 0xCE4), (0xD00, 0xD02), (0xD3B, 0xD3D), (0xD41, 0xD45), (0xD4D, 0xD4E),
   (0xD62, 0xD64), (0xD81, 0xD82), (0xDCA, 0xDCB), (0xDD2, 0xDD5), (0xDD6, 0xDD7),
   (0xE31, 0xE32), (0xE34, 0xE3B), (0xE46, 0xE4F), (0xEB1, 0xEB2), (0xEB4, 0xEBD),
   (0xEC6, 0xEC7), (0xEC8, 0xECF), (0xF18, 0xF1A), (0xF35, 0xF36), (0xF37, 0xF38),
   (0xF39, 0xF3A), (0xF71, 0xF7F), (0xF80, 0xF85), (0xF86, 0xF88), (0xF8D, 0xF98),
   (0xF99, 0xFBD), (0xFC6, 0xFC7), (0x102D, 0x1031), (0x1032, 0x1038), (0x1039, 0x103B),
   (0x103D, 0x103F), (0x1058, 0x105A), (0x105E, 0x1061), (0x1071, 0x1075), (0x1082, 0x1083),
   (0x1085, 0x1087), (0x108D, 0x108E), (0x109D, 0x109E), (0x10FC, 0x10FD), (0x135D, 0x1360),
   (0x1712, 0x1715), (0x1732, 0x1734), (0x1752, 0x1754), (0x1772, 0x1774), (0x17B4, 0x17B6),
   (0x17B7, 0x17BE), (0x17C6, 0x17C7), (0x17C9, 0x17D4), (0x17D7, 0x17D8), (0x17DD, 0x17DE),
   (0x180B, 0x1810), (0x1843, 0x1844), (0x1885, 0x1887), (0x18A9, 0x18AA), (0x1920, 0x1923),
   (0x1927, 0x1929), (0x1932, 0x1933), (0x1939, 0x193C), (0x1A17, 0x1A19), (0x1A1B, 0x1A1C),
   (0x1A56, 0x1A57), (0x1A58, 0x1A5F), (0x1A60, 0x1A61), (0x1A62, 0x1A63), (0x1A65, 0x1A6D),
   (0x1A73, 0x1A7D), (0x1A7F, 0x1A80), (0x1AA7, 0x1AA8), (0x1AB0, 0x1ADE), (0x1AE0, 0x1AEC),
   (0x1B00, 0x1B04), (0x1B34, 0x1B35), (0x1B36, 0x1B3B), (0x1B3C, 0x1B3D), (0x1B42, 0x1B43),
   (0x1B6B, 0x1B74), (0x1B80, 0x1B82), (0x1BA2, 0x1BA6), (0x1BA8, 0x1BAA), (0x1BAB, 0x1BAE),
   (0x1BE6, 0x1BE7), (0x1BE8, 0x1BEA), (0x1BED, 0x1BEE), (0x1BEF, 0x1BF2), (0x1C2C, 0x1C34),
   (0x1C36, 0x1C38), (0x1C78, 0x1C7E), (0x1CD0, 0x1CD3), (0x1CD4, 0x1CE1), (0x1CE2, 0x1CE9),
   (0x1CED, 0x1CEE), (0x1CF4, 0x1CF5), (0x1CF8, 0x1CFA), (0x1D2C, 0x1D6B), (0x1D78, 0x1D79),
   (0x1D9B, 0x1E00), (0x1FBD, 0x1FBE), (0x1FBF, 0x1FC2), (0x1FCD, 0x1FD0), (0x1FDD, 0x1FE0),
   (0x1FED, 0x1FF0), (0x1FFD, 0x1FFF), (0x200B, 0x2010), (0x2018, 0x201A), (0x2024, 0x2025),
   (0x2027, 0x2028), (0x202A, 0x202F), (0x2060, 0x2065), (0x2066, 0x2070), (0x2071, 0x2072),
   (0x207F, 0x2080), (0x2090, 0x209D), (0x20D0, 0x20F1), (0x2C7C, 0x2C7E), (0x2CEF, 0x2CF2),
   (0x2D6F, 0x2D70), (0x2D7F, 0x2D80), (0x2DE0, 0x2E00), (0x2E2F, 0x2E30), (0x3005, 0x3006),
   (0x302A, 0x302E), (0x3031, 0x3036), (0x303B, 0x303C), (0x3099, 0x309F), (0x30FC, 0x30FF),
   (0xA015, 0xA016), (0xA4F8, 0xA4FE), (0xA60C, 0xA60D), (0xA66F, 0xA673), (0xA674, 0xA67E),
   (0xA67F, 0xA680), (0xA69C, 0xA6A0), (0xA6F0, 0xA6F2), (0xA700, 0xA722), (0xA770, 0xA771),
   (0xA788, 0xA78B), (0xA7F1, 0xA7F5), (0xA7F8, 0xA7FA), (0xA802, 0xA803), (0xA806, 0xA807),
   (0xA80B, 0xA80C), (0xA825, 0xA827), (0xA82C, 0xA82D), (0xA8C4, 0xA8C6), (0xA8E0, 0xA8F2),
   (0xA8FF, 0xA900), (0xA926, 0xA92E), (0xA947, 0xA952), (0xA980, 0xA983), (0xA9B3, 0xA9B4),
   (0xA9B6, 0xA9BA), (0xA9BC, 0xA9BE), (0xA9CF, 0xA9D0), (0xA9E5, 0xA9E7), (0xAA29, 0xAA2F),
   (0xAA31, 0xAA33), (0xAA35, 0xAA37), (0xAA43, 0xAA44), (0xAA4C, 0xAA4D), (0xAA70, 0xAA71),
   (0xAA7C, 0xAA7D), (0xAAB0, 0xAAB1), (0xAAB2, 0xAAB5), (0xAAB7, 0xAAB9), (0xAABE, 0xAAC0),
   (0xAAC1, 0xAAC2), (0xAADD, 0xAADE), (0xAAEC, 0xAAEE), (0xAAF3, 0xAAF5), (0xAAF6, 0xAAF7),
   (0xAB5B, 0xAB60), (0xAB69, 0xAB6C), (0xABE5, 0xABE6), (0xABE8, 0xABE9), (0xABED, 0xABEE),
   (0xFB1E, 0xFB1F), (0xFBB2, 0xFBC3), (0xFE00, 0xFE10), (0xFE13, 0xFE14), (0xFE20, 0xFE30),
   (0xFE52, 0xFE53), (0xFE55, 0xFE56), (0xFEFF, 0xFF00), (0xFF07, 0xFF08), (0xFF0E, 0xFF0F),
   (0xFF1A, 0xFF1B), (0xFF3E, 0xFF3F), (0xFF40, 0xFF41), (0xFF70, 0xFF71), (0xFF9E, 0xFFA0),
   (0xFFE3, 0xFFE4), (0xFFF9, 0xFFFC), (0x101FD, 0x101FE), (0x102E0, 0x102E1),
   (0x10376, 0x1037B), (0x10780, 0x10786), (0x10787, 0x107B1), (0x107B2, 0x107BB),
   (0x10A01, 0x10A04), (0x10A05, 0x10A07), (0x10A0C, 0x10A10), (0x10A38, 0x10A3B),
   (0x10A3F, 0x10A40), (0x10AE5, 0x10AE7), (0x10D24, 0x10D28), (0x10D4E, 0x10D4F),
   (0x10D69, 0x10D6E), (0x10D6F, 0x10D70), (0x10EAB, 0x10EAD), (0x10EC5, 0x10EC6),
   (0x10EFA, 0x10F00), (0x10F46, 0x10F51), (0x10F82, 0x10F86), (0x11001, 0x11002),
   (0x11038, 0x11047), (0x11070, 0x11071), (0x11073, 0x11075), (0x1107F, 0x11082),
   (0x110B3, 0x110B7), (0x110B9, 0x110BB), (0x110BD, 0x110BE), (0x110C2, 0x110C3),
   (0x110CD, 0x110CE), (0x11100, 0x11103), (0x11127, 0x1112C), (0x1112D, 0x11135),
   (0x11173, 0x11174), (0x11180, 0x11182), (0x111B6, 0x111BF), (0x111C9, 0x111CD),
   (0x111CF, 0x111D0), (0x1122F, 0x11232), (0x11234, 0x11235), (0x11236, 0x11238),
   (0x1123E, 0x1123F), (0x11241, 0x11242), (0x112DF, 0x112E0), (0x112E3, 0x112EB),
   (0x11300, 0x11302), (0x1133B, 0x1133D), (0x11340, 0x11341), (0x11366, 0x1136D),
   (0x11370, 0x11375), (0x113BB, 0x113C1), (0x113CE, 0x113CF), (0x113D0, 0x113D1),
   (0x113D2, 0x113D3), (0x113E1, 0x113E3), (0x11438, 0x11440), (0x11442, 0x11445),
   (0x11446, 0x11447), (0x1145E, 0x1145F), (0x114B3, 0x114B9), (0x114BA, 0x114BB),
   (0x114BF, 0x114C1), (0x114C2, 0x114C4), (0x115B2, 0x115B6), (0x115BC, 0x115BE),
   (0x115BF, 0x115C1), (0x115DC, 0x115DE), (0x11633, 0x1163B), (0x1163D, 0x1163E),
   (0x1163F, 0x11641), (0x116AB, 0x116AC), (0x116AD, 0x116AE), (0x116B0, 0x116B6),
   (0x116B7, 0x116B8), (0x1171D, 0x1171E), (0x1171F, 0x11720), (0x11722, 0x11726),
   (0x11727, 0x1172C), (0x1182F, 0x11838), (0x11839, 0x1183B), (0x1193B, 0x1193D),
   (0x1193E, 0x1193F), (0x11943, 0x11944), (0x119D4, 0x119D8), (0x119DA, 0x119DC),
   (0x119E0, 0x119E1), (0x11A01, 0x11A0B), (0x11A33, 0x11A39), (0x11A3B, 0x11A3F),
   (0x11A47, 0x11A48), (0x11A51, 0x11A57), (0x11A59, 0x11A5C), (0x11A8A, 0x11A97),
   (0x11A98, 0x11A9A), (0x11B60, 0x11B61), (0x11B62, 0x11B65), (0x11B66, 0x11B67),
   (0x11C30, 0x11C37), (0x11C38, 0x11C3E), (0x11C3F, 0x11C40), (0x11C92, 0x11CA8),
   (0x11CAA, 0x11CB1), (0x11CB2, 0x11CB4), (0x11CB5, 0x11CB7), (0x11D31, 0x11D37),
   (0x11D3A, 0x11D3B), (0x11D3C, 0x11D3E), (0x11D3F, 0x11D46), (0x11D47, 0x11D48),
   (0x11D90, 0x11D92), (0x11D95, 0x11D96), (0x11D97, 0x11D98), (0x11DD9, 0x11DDA),
   (0x11EF3, 0x11EF5), (0x11F00, 0x11F02), (0x11F36, 0x11F3B), (0x11F40, 0x11F41),
   (0x11F42, 0x11F43), (0x11F5A, 0x11F5B), (0x13430, 0x13441), (0x13447, 0x13456),
   (0x1611E, 0x1612A), (0x1612D, 0x16130), (0x16AF0, 0x16AF5), (0x16B30, 0x16B37),
   (0x16B40, 0x16B44), (0x16D40, 0x16D43), (0x16D6B, 0x16D6D), (0x16F4F, 0x16F50),
   (0x16F8F, 0x16FA0), (0x16FE0, 0x16FE2), (0x16FE3, 0x16FE5), (0x16FF2, 0x16FF4),
   (0x1AFF0, 0x1AFF4), (0x1AFF5, 0x1AFFC), (0x1AFFD, 0x1AFFF), (0x1BC9D, 0x1BC9F),
   (0x1BCA0, 0x1BCA4), (0x1CF00, 0x1CF2E), (0x1CF30, 0x1CF47), (0x1D167, 0x1D16A),
   (0x1D173, 0x1D183), (0x1D185, 0x1D18C), (0x1D1AA, 0x1D1AE), (0x1D242, 0x1D245),
   (0x1DA00, 0x1DA37), (0x1DA3B, 0x1DA6D), (0x1DA75, 0x1DA76), (0x1DA84, 0x1DA85),
   (0x1DA9B, 0x1DAA0), (0x1DAA1, 0x1DAB0), (0x1E000, 0x1E007), (0x1E008, 0x1E019),
   (0x1E01B, 0x1E022), (0x1E023, 0x1E025), (0x1E026, 0x1E02B), (0x1E030, 0x1E06E),
   (0x1E08F, 0x1E090), (0x1E130, 0x1E13E), (0x1E2AE, 0x1E2AF), (0x1E2EC, 0x1E2F0),
   (0x1E4EB, 0x1E4F0), (0x1E5EE, 0x1E5F0), (0x1E6E3, 0x1E6E4), (0x1E6E6, 0x1E6E7),
   (0x1E6EE, 0x1E6F0), (0x1E6F5, 0x1E6F6), (0x1E6FF, 0x1E700), (0x1E8D0, 0x1E8D7),
   (0x1E944, 0x1E94C), (0x1F3FB, 0x1F400), (0xE0001, 0xE0002), (0xE0020, 0xE0080),
   (0xE0100, 0xE01F0)]

end StickerBook.Text
