import ConstrainedDecoding.Text.Printable

/-! Letters that the names of hosts may hold. -/

namespace ConstrainedDecoding.Text

/-- Printable lowercase letters that names leave out: marks, symbols, and letters that are compatible
with others. -/
def foreignRanges : List (Nat × Nat) :=
  [(0x20, 0x2C), (0x2E, 0x2F), (0x3A, 0x60), (0x7B, 0xD7), (0xF7, 0xF7), (0x133, 0x133),
   (0x140, 0x140), (0x149, 0x149), (0x17F, 0x17F), (0x1C6, 0x1CC), (0x1F3, 0x1F3), (0x2B0, 0x2B8),
   (0x2C2, 0x2C5), (0x2D2, 0x2EB), (0x2ED, 0x2ED), (0x2EF, 0x2FF), (0x340, 0x341), (0x343, 0x345),
   (0x34F, 0x34F), (0x374, 0x375), (0x37A, 0x37A), (0x37E, 0x387), (0x3D0, 0x3D6), (0x3F0, 0x3F2),
   (0x3F5, 0x3F6), (0x482, 0x482), (0x488, 0x489), (0x55A, 0x55F), (0x587, 0x587), (0x589, 0x58F),
   (0x5BE, 0x5BE), (0x5C0, 0x5C0), (0x5C3, 0x5C3), (0x5C6, 0x5C6), (0x5F3, 0x60F), (0x61B, 0x61F),
   (0x640, 0x640), (0x660, 0x66D), (0x675, 0x678), (0x6D4, 0x6D4), (0x6DE, 0x6DE), (0x6E9, 0x6E9),
   (0x6F0, 0x6F9), (0x700, 0x70D), (0x7F6, 0x7FA), (0x7FE, 0x7FF), (0x830, 0x83E), (0x85E, 0x85E),
   (0x888, 0x888), (0x958, 0x95F), (0x964, 0x965), (0x970, 0x970), (0x9DC, 0x9DF), (0x9F2, 0x9FB),
   (0x9FD, 0x9FD), (0xA33, 0xA33), (0xA36, 0xA36), (0xA59, 0xA5B), (0xA5E, 0xA5E), (0xA76, 0xA76),
   (0xAF0, 0xAF1), (0xB5C, 0xB5D), (0xB70, 0xB70), (0xB72, 0xB77), (0xBF0, 0xBFA), (0xC77, 0xC7F),
   (0xC84, 0xC84), (0xD4F, 0xD4F), (0xD58, 0xD5E), (0xD70, 0xD79), (0xDF4, 0xDF4), (0xE33, 0xE33),
   (0xE3F, 0xE3F), (0xE4F, 0xE4F), (0xE5A, 0xE5B), (0xEB3, 0xEB3), (0xEDC, 0xEDD), (0xF01, 0xF0A),
   (0xF0C, 0xF17), (0xF1A, 0xF1F), (0xF2A, 0xF34), (0xF36, 0xF36), (0xF38, 0xF38), (0xF3A, 0xF3D),
   (0xF43, 0xF43), (0xF4D, 0xF4D), (0xF52, 0xF52), (0xF57, 0xF57), (0xF5C, 0xF5C), (0xF69, 0xF69),
   (0xF73, 0xF73), (0xF75, 0xF79), (0xF81, 0xF81), (0xF85, 0xF85), (0xF93, 0xF93), (0xF9D, 0xF9D),
   (0xFA2, 0xFA2), (0xFA7, 0xFA7), (0xFAC, 0xFAC), (0xFB9, 0xFB9), (0xFBE, 0xFC5), (0xFC7, 0xFDA),
   (0x104A, 0x104F), (0x109E, 0x109F), (0x10FB, 0x10FC), (0x1100, 0x11FF), (0x1360, 0x137C),
   (0x1390, 0x1400), (0x166D, 0x166E), (0x169B, 0x169C), (0x16EB, 0x16F0), (0x1735, 0x1736),
   (0x17B4, 0x17B5), (0x17D4, 0x17D6), (0x17D8, 0x17DB), (0x17F0, 0x180F), (0x1940, 0x1945),
   (0x19DA, 0x19FF), (0x1A1E, 0x1A1F), (0x1AA0, 0x1AA6), (0x1AA8, 0x1AAD), (0x1ABE, 0x1ABE),
   (0x1B5A, 0x1B6A), (0x1B74, 0x1B7E), (0x1BFC, 0x1BFF), (0x1C3B, 0x1C3F), (0x1C7E, 0x1CC7),
   (0x1CD3, 0x1CD3), (0x1D2C, 0x1D2E), (0x1D30, 0x1D3A), (0x1D3C, 0x1D4D), (0x1D4F, 0x1D6A),
   (0x1D78, 0x1D78), (0x1D9B, 0x1DBF), (0x1E9A, 0x1E9B), (0x1F71, 0x1F71), (0x1F73, 0x1F73),
   (0x1F75, 0x1F75), (0x1F77, 0x1F77), (0x1F79, 0x1F79), (0x1F7B, 0x1F7B), (0x1F7D, 0x1FA7),
   (0x1FB2, 0x1FB4), (0x1FB7, 0x1FC4), (0x1FC7, 0x1FCF), (0x1FD3, 0x1FD3), (0x1FDD, 0x1FDF),
   (0x1FE3, 0x1FE3), (0x1FED, 0x1FF4), (0x1FF7, 0x214D), (0x214F, 0x2182), (0x2185, 0x2BFF),
   (0x2C7C, 0x2C7D), (0x2CE5, 0x2CEA), (0x2CF9, 0x2CFF), (0x2D6F, 0x2D70), (0x2E00, 0x2E2E),
   (0x2E30, 0x3004), (0x3008, 0x3029), (0x302E, 0x303B), (0x303D, 0x303F), (0x309B, 0x309C),
   (0x309F, 0x30A0), (0x30FB, 0x30FB), (0x30FF, 0x30FF), (0x3131, 0x319F), (0x31C0, 0x31E3),
   (0x3200, 0x33FF), (0x4DC0, 0x4DFF), (0xA490, 0xA4C6), (0xA4FE, 0xA4FF), (0xA60D, 0xA60F),
   (0xA670, 0xA673), (0xA67E, 0xA67E), (0xA69C, 0xA69D), (0xA6E6, 0xA6EF), (0xA6F2, 0xA716),
   (0xA720, 0xA721), (0xA770, 0xA770), (0xA789, 0xA78A), (0xA7F2, 0xA7F4), (0xA7F8, 0xA7F9),
   (0xA828, 0xA82B), (0xA830, 0xA839), (0xA874, 0xA877), (0xA8CE, 0xA8CF), (0xA8F8, 0xA8FA),
   (0xA8FC, 0xA8FC), (0xA92E, 0xA92F), (0xA95F, 0xA97C), (0xA9C1, 0xA9CD), (0xA9DE, 0xA9DF),
   (0xAA5C, 0xAA5F), (0xAA77, 0xAA79), (0xAADE, 0xAADF), (0xAAF0, 0xAAF1), (0xAB5B, 0xAB5F),
   (0xAB69, 0xABBF), (0xABEB, 0xABEB), (0xD7B0, 0xFA0D), (0xFA10, 0xFA10), (0xFA12, 0xFA12),
   (0xFA15, 0xFA1E), (0xFA20, 0xFA20), (0xFA22, 0xFA22), (0xFA25, 0xFA26), (0xFA2A, 0xFB1D),
   (0xFB1F, 0xFE19), (0xFE30, 0xFE72), (0xFE74, 0xFFFD), (0x10100, 0x101FC), (0x102E1, 0x102FB),
   (0x10320, 0x10323), (0x10341, 0x10341), (0x1034A, 0x1034A), (0x1039F, 0x1039F),
   (0x103D0, 0x103D5), (0x1056F, 0x1056F), (0x10781, 0x107BA), (0x10857, 0x1085F),
   (0x10877, 0x1087F), (0x108A7, 0x108AF), (0x108FB, 0x108FF), (0x10916, 0x1091F),
   (0x1093F, 0x1093F), (0x109BC, 0x109BD), (0x109C0, 0x109FF), (0x10A40, 0x10A58),
   (0x10A7D, 0x10A7F), (0x10A9D, 0x10A9F), (0x10AC8, 0x10AC8), (0x10AEB, 0x10AF6),
   (0x10B39, 0x10B3F), (0x10B58, 0x10B5F), (0x10B78, 0x10B7F), (0x10B99, 0x10BAF),
   (0x10CFA, 0x10CFF), (0x10E60, 0x10E7E), (0x10EAD, 0x10EAD), (0x10F1D, 0x10F26),
   (0x10F51, 0x10F59), (0x10F86, 0x10F89), (0x10FC5, 0x10FCB), (0x11047, 0x11065),
   (0x110BB, 0x110C1), (0x11140, 0x11143), (0x11174, 0x11175), (0x111C5, 0x111C8),
   (0x111CD, 0x111CD), (0x111DB, 0x111DB), (0x111DD, 0x111F4), (0x11238, 0x1123D),
   (0x112A9, 0x112A9), (0x1144B, 0x1144F), (0x1145A, 0x1145D), (0x114C6, 0x114C6),
   (0x115C1, 0x115D7), (0x11641, 0x11643), (0x11660, 0x1166C), (0x116B9, 0x116B9),
   (0x1173A, 0x1173F), (0x1183B, 0x1183B), (0x118EA, 0x118F2), (0x11944, 0x11946),
   (0x119E2, 0x119E2), (0x11A3F, 0x11A46), (0x11A9A, 0x11A9C), (0x11A9E, 0x11AA2),
   (0x11C41, 0x11C45), (0x11C5A, 0x11C71), (0x11EF7, 0x11EF8), (0x11FC0, 0x11FFF),
   (0x12400, 0x12474), (0x12FF1, 0x12FF2), (0x16A6E, 0x16A6F), (0x16AF5, 0x16AF5),
   (0x16B37, 0x16B3F), (0x16B44, 0x16B45), (0x16B5B, 0x16B61), (0x16E80, 0x16E9A),
   (0x16FE2, 0x16FE2), (0x1BC9C, 0x1BC9C), (0x1BC9F, 0x1BC9F), (0x1CF50, 0x1D9FF),
   (0x1DA37, 0x1DA3A), (0x1DA6D, 0x1DA74), (0x1DA76, 0x1DA83), (0x1DA85, 0x1DA8B),
   (0x1E14F, 0x1E14F), (0x1E2FF, 0x1E2FF), (0x1E8C7, 0x1E8CF), (0x1E95E, 0x1FBF9),
   (0x2F800, 0x2FA1D), (0xE0100, 0xE01EF)]

/-- A letter of a name that is written in lower case. -/
def isDomainLetter (letter : Letter) : Bool :=
  isPrintable letter && !inRanges foreignRanges letter.number

end ConstrainedDecoding.Text
