/-!
# Compatibility mappings to one character

Characters whose full compatibility decomposition is one other character. A range of characters is
mapped to a range of the same length.
-/

set_option autoImplicit false

namespace Sentinels.Unicode

/-- The first part of the mappings: first and last character, and the image of the first. -/
def singleMappingsFirst : List (Nat × Nat × Nat) := [
  (0xA0, 0xA0, 0x20), (0xAA, 0xAA, 0x61), (0xB2, 0xB3, 0x32), (0xB5, 0xB5, 0x3BC),
  (0xB9, 0xB9, 0x31), (0xBA, 0xBA, 0x6F), (0x17F, 0x17F, 0x73), (0x2B0, 0x2B0, 0x68),
  (0x2B1, 0x2B1, 0x266), (0x2B2, 0x2B2, 0x6A), (0x2B3, 0x2B3, 0x72), (0x2B4, 0x2B4, 0x279),
  (0x2B5, 0x2B5, 0x27B), (0x2B6, 0x2B6, 0x281), (0x2B7, 0x2B7, 0x77), (0x2B8, 0x2B8, 0x79),
  (0x2E0, 0x2E0, 0x263), (0x2E1, 0x2E1, 0x6C), (0x2E2, 0x2E2, 0x73), (0x2E3, 0x2E3, 0x78),
  (0x2E4, 0x2E4, 0x295), (0x340, 0x341, 0x300), (0x343, 0x343, 0x313), (0x374, 0x374, 0x2B9),
  (0x37E, 0x37E, 0x3B), (0x387, 0x387, 0xB7), (0x3D0, 0x3D0, 0x3B2), (0x3D1, 0x3D1, 0x3B8),
  (0x3D2, 0x3D2, 0x3A5), (0x3D5, 0x3D5, 0x3C6), (0x3D6, 0x3D6, 0x3C0), (0x3F0, 0x3F0, 0x3BA),
  (0x3F1, 0x3F2, 0x3C1), (0x3F4, 0x3F4, 0x398), (0x3F5, 0x3F5, 0x3B5), (0x3F9, 0x3F9, 0x3A3),
  (0x558, 0x558, 0x567), (0x58C, 0x58C, 0x575), (0xF0C, 0xF0C, 0xF0B),
  (0x10FC, 0x10FC, 0x10DC), (0x1D2C, 0x1D2C, 0x41), (0x1D2D, 0x1D2D, 0xC6),
  (0x1D2E, 0x1D2E, 0x42), (0x1D30, 0x1D31, 0x44), (0x1D32, 0x1D32, 0x18E),
  (0x1D33, 0x1D3A, 0x47), (0x1D3C, 0x1D3C, 0x4F), (0x1D3D, 0x1D3D, 0x222),
  (0x1D3E, 0x1D3E, 0x50), (0x1D3F, 0x1D3F, 0x52), (0x1D40, 0x1D41, 0x54),
  (0x1D42, 0x1D42, 0x57), (0x1D43, 0x1D43, 0x61), (0x1D44, 0x1D45, 0x250),
  (0x1D46, 0x1D46, 0x1D02), (0x1D47, 0x1D47, 0x62), (0x1D48, 0x1D49, 0x64),
  (0x1D4A, 0x1D4A, 0x259), (0x1D4B, 0x1D4C, 0x25B), (0x1D4D, 0x1D4D, 0x67),
  (0x1D4F, 0x1D4F, 0x6B), (0x1D50, 0x1D50, 0x6D), (0x1D51, 0x1D51, 0x14B),
  (0x1D52, 0x1D52, 0x6F), (0x1D53, 0x1D53, 0x254), (0x1D54, 0x1D55, 0x1D16),
  (0x1D56, 0x1D56, 0x70), (0x1D57, 0x1D58, 0x74), (0x1D59, 0x1D59, 0x1D1D),
  (0x1D5A, 0x1D5A, 0x26F), (0x1D5B, 0x1D5B, 0x76), (0x1D5C, 0x1D5C, 0x1D25),
  (0x1D5D, 0x1D5F, 0x3B2), (0x1D60, 0x1D61, 0x3C6), (0x1D62, 0x1D62, 0x69),
  (0x1D63, 0x1D63, 0x72), (0x1D64, 0x1D65, 0x75), (0x1D66, 0x1D67, 0x3B2),
  (0x1D68, 0x1D68, 0x3C1), (0x1D69, 0x1D6A, 0x3C6), (0x1D78, 0x1D78, 0x43D),
  (0x1D9B, 0x1D9B, 0x252), (0x1D9C, 0x1D9C, 0x63), (0x1D9D, 0x1D9D, 0x255),
  (0x1D9E, 0x1D9E, 0xF0), (0x1D9F, 0x1D9F, 0x25C), (0x1DA0, 0x1DA0, 0x66),
  (0x1DA1, 0x1DA1, 0x25F), (0x1DA2, 0x1DA2, 0x261), (0x1DA3, 0x1DA3, 0x265),
  (0x1DA4, 0x1DA6, 0x268), (0x1DA7, 0x1DA7, 0x1D7B), (0x1DA8, 0x1DA8, 0x29D),
  (0x1DA9, 0x1DA9, 0x26D), (0x1DAA, 0x1DAA, 0x1D85), (0x1DAB, 0x1DAB, 0x29F),
  (0x1DAC, 0x1DAC, 0x271), (0x1DAD, 0x1DAD, 0x270), (0x1DAE, 0x1DB1, 0x272),
  (0x1DB2, 0x1DB2, 0x278), (0x1DB3, 0x1DB4, 0x282), (0x1DB5, 0x1DB5, 0x1AB),
  (0x1DB6, 0x1DB7, 0x289), (0x1DB8, 0x1DB8, 0x1D1C), (0x1DB9, 0x1DBA, 0x28B),
  (0x1DBB, 0x1DBB, 0x7A), (0x1DBC, 0x1DBE, 0x290), (0x1DBF, 0x1DBF, 0x3B8),
  (0x1FBE, 0x1FBE, 0x3B9), (0x1FEF, 0x1FEF, 0x60), (0x2000, 0x2000, 0x20),
  (0x2001, 0x2001, 0x20), (0x2002, 0x2002, 0x20), (0x2003, 0x2003, 0x20),
  (0x2004, 0x2004, 0x20), (0x2005, 0x2005, 0x20), (0x2006, 0x2006, 0x20),
  (0x2007, 0x2007, 0x20), (0x2008, 0x2008, 0x20), (0x2009, 0x2009, 0x20),
  (0x200A, 0x200A, 0x20), (0x2011, 0x2011, 0x2010), (0x2024, 0x2024, 0x2E),
  (0x202F, 0x202F, 0x20), (0x205F, 0x205F, 0x20), (0x2070, 0x2070, 0x30),
  (0x2071, 0x2071, 0x69), (0x2074, 0x2079, 0x34), (0x207A, 0x207A, 0x2B),
  (0x207B, 0x207B, 0x2212), (0x207C, 0x207C, 0x3D), (0x207D, 0x207E, 0x28),
  (0x207F, 0x207F, 0x6E), (0x2080, 0x2089, 0x30), (0x208A, 0x208A, 0x2B),
  (0x208B, 0x208B, 0x2212), (0x208C, 0x208C, 0x3D), (0x208D, 0x208E, 0x28),
  (0x2090, 0x2090, 0x61), (0x2091, 0x2091, 0x65), (0x2092, 0x2092, 0x6F),
  (0x2093, 0x2093, 0x78), (0x2094, 0x2094, 0x259), (0x2095, 0x2095, 0x68),
  (0x2096, 0x2099, 0x6B), (0x209A, 0x209A, 0x70), (0x209B, 0x209C, 0x73),
  (0x209D, 0x209D, 0x77), (0x209E, 0x209F, 0x79), (0x2102, 0x2102, 0x43),
  (0x2107, 0x2107, 0x190), (0x210A, 0x210A, 0x67), (0x210B, 0x210B, 0x48),
  (0x210C, 0x210C, 0x48), (0x210D, 0x210D, 0x48), (0x210E, 0x210E, 0x68),
  (0x210F, 0x210F, 0x127), (0x2110, 0x2110, 0x49), (0x2111, 0x2111, 0x49),
  (0x2112, 0x2112, 0x4C), (0x2113, 0x2113, 0x6C), (0x2115, 0x2115, 0x4E),
  (0x2119, 0x211B, 0x50), (0x211C, 0x211C, 0x52), (0x211D, 0x211D, 0x52),
  (0x2124, 0x2124, 0x5A), (0x2126, 0x2126, 0x3A9), (0x2128, 0x2128, 0x5A),
  (0x212A, 0x212A, 0x4B), (0x212C, 0x212D, 0x42), (0x212F, 0x212F, 0x65),
  (0x2130, 0x2131, 0x45), (0x2133, 0x2133, 0x4D), (0x2134, 0x2134, 0x6F),
  (0x2135, 0x2138, 0x5D0), (0x2139, 0x2139, 0x69), (0x213C, 0x213C, 0x3C0),
  (0x213D, 0x213D, 0x3B3), (0x213E, 0x213E, 0x393), (0x213F, 0x213F, 0x3A0),
  (0x2140, 0x2140, 0x2211), (0x2145, 0x2145, 0x44), (0x2146, 0x2147, 0x64),
  (0x2148, 0x2149, 0x69), (0x2160, 0x2160, 0x49), (0x2164, 0x2164, 0x56),
  (0x2169, 0x2169, 0x58), (0x216C, 0x216C, 0x4C), (0x216D, 0x216E, 0x43),
  (0x216F, 0x216F, 0x4D), (0x2170, 0x2170, 0x69), (0x2174, 0x2174, 0x76),
  (0x2179, 0x2179, 0x78), (0x217C, 0x217C, 0x6C), (0x217D, 0x217E, 0x63),
  (0x217F, 0x217F, 0x6D), (0x2329, 0x232A, 0x3008), (0x2460, 0x2468, 0x31),
  (0x24B6, 0x24CF, 0x41), (0x24D0, 0x24E9, 0x61), (0x24EA, 0x24EA, 0x30),
  (0x2C7C, 0x2C7C, 0x6A), (0x2C7D, 0x2C7D, 0x56), (0x2D6F, 0x2D6F, 0x2D61),
  (0x2E9F, 0x2E9F, 0x6BCD), (0x2EF3, 0x2EF3, 0x9F9F), (0x2F00, 0x2F00, 0x4E00),
  (0x2F01, 0x2F01, 0x4E28), (0x2F02, 0x2F02, 0x4E36), (0x2F03, 0x2F03, 0x4E3F),
  (0x2F04, 0x2F04, 0x4E59), (0x2F05, 0x2F05, 0x4E85), (0x2F06, 0x2F06, 0x4E8C),
  (0x2F07, 0x2F07, 0x4EA0), (0x2F08, 0x2F08, 0x4EBA), (0x2F09, 0x2F09, 0x513F),
  (0x2F0A, 0x2F0A, 0x5165), (0x2F0B, 0x2F0B, 0x516B), (0x2F0C, 0x2F0C, 0x5182),
  (0x2F0D, 0x2F0D, 0x5196), (0x2F0E, 0x2F0E, 0x51AB), (0x2F0F, 0x2F0F, 0x51E0),
  (0x2F10, 0x2F10, 0x51F5), (0x2F11, 0x2F11, 0x5200), (0x2F12, 0x2F12, 0x529B),
  (0x2F13, 0x2F13, 0x52F9), (0x2F14, 0x2F14, 0x5315), (0x2F15, 0x2F15, 0x531A),
  (0x2F16, 0x2F16, 0x5338), (0x2F17, 0x2F17, 0x5341), (0x2F18, 0x2F18, 0x535C),
  (0x2F19, 0x2F19, 0x5369), (0x2F1A, 0x2F1A, 0x5382), (0x2F1B, 0x2F1B, 0x53B6),
  (0x2F1C, 0x2F1C, 0x53C8), (0x2F1D, 0x2F1D, 0x53E3), (0x2F1E, 0x2F1E, 0x56D7),
  (0x2F1F, 0x2F1F, 0x571F), (0x2F20, 0x2F20, 0x58EB), (0x2F21, 0x2F21, 0x5902),
  (0x2F22, 0x2F22, 0x590A), (0x2F23, 0x2F23, 0x5915), (0x2F24, 0x2F24, 0x5927),
  (0x2F25, 0x2F25, 0x5973), (0x2F26, 0x2F26, 0x5B50), (0x2F27, 0x2F27, 0x5B80),
  (0x2F28, 0x2F28, 0x5BF8), (0x2F29, 0x2F29, 0x5C0F), (0x2F2A, 0x2F2A, 0x5C22),
  (0x2F2B, 0x2F2B, 0x5C38), (0x2F2C, 0x2F2C, 0x5C6E), (0x2F2D, 0x2F2D, 0x5C71),
  (0x2F2E, 0x2F2E, 0x5DDB), (0x2F2F, 0x2F2F, 0x5DE5), (0x2F30, 0x2F30, 0x5DF1),
  (0x2F31, 0x2F31, 0x5DFE), (0x2F32, 0x2F32, 0x5E72), (0x2F33, 0x2F33, 0x5E7A),
  (0x2F34, 0x2F34, 0x5E7F), (0x2F35, 0x2F35, 0x5EF4), (0x2F36, 0x2F36, 0x5EFE),
  (0x2F37, 0x2F37, 0x5F0B), (0x2F38, 0x2F38, 0x5F13), (0x2F39, 0x2F39, 0x5F50),
  (0x2F3A, 0x2F3A, 0x5F61), (0x2F3B, 0x2F3B, 0x5F73), (0x2F3C, 0x2F3C, 0x5FC3),
  (0x2F3D, 0x2F3D, 0x6208), (0x2F3E, 0x2F3E, 0x6236), (0x2F3F, 0x2F3F, 0x624B),
  (0x2F40, 0x2F40, 0x652F), (0x2F41, 0x2F41, 0x6534), (0x2F42, 0x2F42, 0x6587),
  (0x2F43, 0x2F43, 0x6597), (0x2F44, 0x2F44, 0x65A4), (0x2F45, 0x2F45, 0x65B9),
  (0x2F46, 0x2F46, 0x65E0), (0x2F47, 0x2F47, 0x65E5), (0x2F48, 0x2F48, 0x66F0),
  (0x2F49, 0x2F49, 0x6708), (0x2F4A, 0x2F4A, 0x6728), (0x2F4B, 0x2F4B, 0x6B20),
  (0x2F4C, 0x2F4C, 0x6B62), (0x2F4D, 0x2F4D, 0x6B79), (0x2F4E, 0x2F4E, 0x6BB3),
  (0x2F4F, 0x2F4F, 0x6BCB), (0x2F50, 0x2F50, 0x6BD4), (0x2F51, 0x2F51, 0x6BDB),
  (0x2F52, 0x2F52, 0x6C0F), (0x2F53, 0x2F53, 0x6C14), (0x2F54, 0x2F54, 0x6C34),
  (0x2F55, 0x2F55, 0x706B), (0x2F56, 0x2F56, 0x722A), (0x2F57, 0x2F57, 0x7236),
  (0x2F58, 0x2F58, 0x723B), (0x2F59, 0x2F59, 0x723F), (0x2F5A, 0x2F5A, 0x7247),
  (0x2F5B, 0x2F5B, 0x7259), (0x2F5C, 0x2F5C, 0x725B), (0x2F5D, 0x2F5D, 0x72AC),
  (0x2F5E, 0x2F5E, 0x7384), (0x2F5F, 0x2F5F, 0x7389), (0x2F60, 0x2F60, 0x74DC),
  (0x2F61, 0x2F61, 0x74E6), (0x2F62, 0x2F62, 0x7518), (0x2F63, 0x2F63, 0x751F),
  (0x2F64, 0x2F64, 0x7528), (0x2F65, 0x2F65, 0x7530), (0x2F66, 0x2F66, 0x758B),
  (0x2F67, 0x2F67, 0x7592), (0x2F68, 0x2F68, 0x7676), (0x2F69, 0x2F69, 0x767D),
  (0x2F6A, 0x2F6A, 0x76AE), (0x2F6B, 0x2F6B, 0x76BF), (0x2F6C, 0x2F6C, 0x76EE),
  (0x2F6D, 0x2F6D, 0x77DB), (0x2F6E, 0x2F6E, 0x77E2), (0x2F6F, 0x2F6F, 0x77F3),
  (0x2F70, 0x2F70, 0x793A), (0x2F71, 0x2F71, 0x79B8), (0x2F72, 0x2F72, 0x79BE),
  (0x2F73, 0x2F73, 0x7A74), (0x2F74, 0x2F74, 0x7ACB), (0x2F75, 0x2F75, 0x7AF9),
  (0x2F76, 0x2F76, 0x7C73), (0x2F77, 0x2F77, 0x7CF8), (0x2F78, 0x2F78, 0x7F36),
  (0x2F79, 0x2F79, 0x7F51), (0x2F7A, 0x2F7A, 0x7F8A), (0x2F7B, 0x2F7B, 0x7FBD),
  (0x2F7C, 0x2F7C, 0x8001), (0x2F7D, 0x2F7D, 0x800C), (0x2F7E, 0x2F7E, 0x8012),
  (0x2F7F, 0x2F7F, 0x8033), (0x2F80, 0x2F80, 0x807F), (0x2F81, 0x2F81, 0x8089),
  (0x2F82, 0x2F82, 0x81E3), (0x2F83, 0x2F83, 0x81EA), (0x2F84, 0x2F84, 0x81F3),
  (0x2F85, 0x2F85, 0x81FC), (0x2F86, 0x2F86, 0x820C), (0x2F87, 0x2F87, 0x821B),
  (0x2F88, 0x2F88, 0x821F), (0x2F89, 0x2F89, 0x826E), (0x2F8A, 0x2F8A, 0x8272),
  (0x2F8B, 0x2F8B, 0x8278), (0x2F8C, 0x2F8C, 0x864D), (0x2F8D, 0x2F8D, 0x866B),
  (0x2F8E, 0x2F8E, 0x8840), (0x2F8F, 0x2F8F, 0x884C), (0x2F90, 0x2F90, 0x8863),
  (0x2F91, 0x2F91, 0x897E), (0x2F92, 0x2F92, 0x898B), (0x2F93, 0x2F93, 0x89D2),
  (0x2F94, 0x2F94, 0x8A00), (0x2F95, 0x2F95, 0x8C37), (0x2F96, 0x2F96, 0x8C46),
  (0x2F97, 0x2F97, 0x8C55), (0x2F98, 0x2F98, 0x8C78), (0x2F99, 0x2F99, 0x8C9D),
  (0x2F9A, 0x2F9A, 0x8D64), (0x2F9B, 0x2F9B, 0x8D70), (0x2F9C, 0x2F9C, 0x8DB3),
  (0x2F9D, 0x2F9D, 0x8EAB), (0x2F9E, 0x2F9E, 0x8ECA), (0x2F9F, 0x2F9F, 0x8F9B),
  (0x2FA0, 0x2FA0, 0x8FB0), (0x2FA1, 0x2FA1, 0x8FB5), (0x2FA2, 0x2FA2, 0x9091),
  (0x2FA3, 0x2FA3, 0x9149), (0x2FA4, 0x2FA4, 0x91C6), (0x2FA5, 0x2FA5, 0x91CC),
  (0x2FA6, 0x2FA6, 0x91D1), (0x2FA7, 0x2FA7, 0x9577), (0x2FA8, 0x2FA8, 0x9580),
  (0x2FA9, 0x2FA9, 0x961C), (0x2FAA, 0x2FAA, 0x96B6), (0x2FAB, 0x2FAB, 0x96B9),
  (0x2FAC, 0x2FAC, 0x96E8), (0x2FAD, 0x2FAD, 0x9751), (0x2FAE, 0x2FAE, 0x975E),
  (0x2FAF, 0x2FAF, 0x9762), (0x2FB0, 0x2FB0, 0x9769), (0x2FB1, 0x2FB1, 0x97CB),
  (0x2FB2, 0x2FB2, 0x97ED), (0x2FB3, 0x2FB3, 0x97F3), (0x2FB4, 0x2FB4, 0x9801),
  (0x2FB5, 0x2FB5, 0x98A8), (0x2FB6, 0x2FB6, 0x98DB), (0x2FB7, 0x2FB7, 0x98DF),
  (0x2FB8, 0x2FB8, 0x9996), (0x2FB9, 0x2FB9, 0x9999), (0x2FBA, 0x2FBA, 0x99AC),
  (0x2FBB, 0x2FBB, 0x9AA8), (0x2FBC, 0x2FBC, 0x9AD8), (0x2FBD, 0x2FBD, 0x9ADF),
  (0x2FBE, 0x2FBE, 0x9B25), (0x2FBF, 0x2FBF, 0x9B2F), (0x2FC0, 0x2FC0, 0x9B32),
  (0x2FC1, 0x2FC1, 0x9B3C), (0x2FC2, 0x2FC2, 0x9B5A), (0x2FC3, 0x2FC3, 0x9CE5),
  (0x2FC4, 0x2FC4, 0x9E75), (0x2FC5, 0x2FC5, 0x9E7F), (0x2FC6, 0x2FC6, 0x9EA5),
  (0x2FC7, 0x2FC7, 0x9EBB), (0x2FC8, 0x2FC8, 0x9EC3), (0x2FC9, 0x2FC9, 0x9ECD),
  (0x2FCA, 0x2FCA, 0x9ED1), (0x2FCB, 0x2FCB, 0x9EF9), (0x2FCC, 0x2FCC, 0x9EFD),
  (0x2FCD, 0x2FCD, 0x9F0E), (0x2FCE, 0x2FCE, 0x9F13), (0x2FCF, 0x2FCF, 0x9F20),
  (0x2FD0, 0x2FD0, 0x9F3B), (0x2FD1, 0x2FD1, 0x9F4A), (0x2FD2, 0x2FD2, 0x9F52),
  (0x2FD3, 0x2FD3, 0x9F8D), (0x2FD4, 0x2FD4, 0x9F9C), (0x2FD5, 0x2FD5, 0x9FA0),
  (0x3000, 0x3000, 0x20), (0x3036, 0x3036, 0x3012), (0x3038, 0x3038, 0x5341),
  (0x3039, 0x303A, 0x5344), (0x3131, 0x3132, 0x1100), (0x3133, 0x3133, 0x11AA),
  (0x3134, 0x3134, 0x1102), (0x3135, 0x3136, 0x11AC), (0x3137, 0x3139, 0x1103),
  (0x313A, 0x313F, 0x11B0), (0x3140, 0x3140, 0x111A), (0x3141, 0x3143, 0x1106),
  (0x3144, 0x3144, 0x1121), (0x3145, 0x314E, 0x1109), (0x314F, 0x3163, 0x1161),
  (0x3164, 0x3164, 0x1160), (0x3165, 0x3166, 0x1114), (0x3167, 0x3168, 0x11C7),
  (0x3169, 0x3169, 0x11CC), (0x316A, 0x316A, 0x11CE), (0x316B, 0x316B, 0x11D3),
  (0x316C, 0x316C, 0x11D7), (0x316D, 0x316D, 0x11D9), (0x316E, 0x316E, 0x111C),
  (0x316F, 0x316F, 0x11DD), (0x3170, 0x3170, 0x11DF), (0x3171, 0x3172, 0x111D),
  (0x3173, 0x3173, 0x1120), (0x3174, 0x3175, 0x1122), (0x3176, 0x3176, 0x1127)]

/-- The second part of the mappings: first and last character, and the image of the first. -/
def singleMappingsSecond : List (Nat × Nat × Nat) := [
  (0x3177, 0x3177, 0x1129), (0x3178, 0x317C, 0x112B), (0x317D, 0x317D, 0x1132),
  (0x317E, 0x317E, 0x1136), (0x317F, 0x317F, 0x1140), (0x3180, 0x3180, 0x1147),
  (0x3181, 0x3181, 0x114C), (0x3182, 0x3183, 0x11F1), (0x3184, 0x3186, 0x1157),
  (0x3187, 0x3188, 0x1184), (0x3189, 0x3189, 0x1188), (0x318A, 0x318B, 0x1191),
  (0x318C, 0x318C, 0x1194), (0x318D, 0x318D, 0x119E), (0x318E, 0x318E, 0x11A1),
  (0x3192, 0x3192, 0x4E00), (0x3193, 0x3193, 0x4E8C), (0x3194, 0x3194, 0x4E09),
  (0x3195, 0x3195, 0x56DB), (0x3196, 0x3196, 0x4E0A), (0x3197, 0x3197, 0x4E2D),
  (0x3198, 0x3198, 0x4E0B), (0x3199, 0x3199, 0x7532), (0x319A, 0x319A, 0x4E59),
  (0x319B, 0x319B, 0x4E19), (0x319C, 0x319C, 0x4E01), (0x319D, 0x319D, 0x5929),
  (0x319E, 0x319E, 0x5730), (0x319F, 0x319F, 0x4EBA), (0x3244, 0x3244, 0x554F),
  (0x3245, 0x3245, 0x5E7C), (0x3246, 0x3246, 0x6587), (0x3247, 0x3247, 0x7B8F),
  (0x3260, 0x3260, 0x1100), (0x3261, 0x3262, 0x1102), (0x3263, 0x3265, 0x1105),
  (0x3266, 0x3266, 0x1109), (0x3267, 0x3268, 0x110B), (0x3269, 0x326D, 0x110E),
  (0x3280, 0x3280, 0x4E00), (0x3281, 0x3281, 0x4E8C), (0x3282, 0x3282, 0x4E09),
  (0x3283, 0x3283, 0x56DB), (0x3284, 0x3284, 0x4E94), (0x3285, 0x3285, 0x516D),
  (0x3286, 0x3286, 0x4E03), (0x3287, 0x3287, 0x516B), (0x3288, 0x3288, 0x4E5D),
  (0x3289, 0x3289, 0x5341), (0x328A, 0x328A, 0x6708), (0x328B, 0x328B, 0x706B),
  (0x328C, 0x328C, 0x6C34), (0x328D, 0x328D, 0x6728), (0x328E, 0x328E, 0x91D1),
  (0x328F, 0x328F, 0x571F), (0x3290, 0x3290, 0x65E5), (0x3291, 0x3291, 0x682A),
  (0x3292, 0x3292, 0x6709), (0x3293, 0x3293, 0x793E), (0x3294, 0x3294, 0x540D),
  (0x3295, 0x3295, 0x7279), (0x3296, 0x3296, 0x8CA1), (0x3297, 0x3297, 0x795D),
  (0x3298, 0x3298, 0x52B4), (0x3299, 0x3299, 0x79D8), (0x329A, 0x329A, 0x7537),
  (0x329B, 0x329B, 0x5973), (0x329C, 0x329C, 0x9069), (0x329D, 0x329D, 0x512A),
  (0x329E, 0x329E, 0x5370), (0x329F, 0x329F, 0x6CE8), (0x32A0, 0x32A0, 0x9805),
  (0x32A1, 0x32A1, 0x4F11), (0x32A2, 0x32A2, 0x5199), (0x32A3, 0x32A3, 0x6B63),
  (0x32A4, 0x32A4, 0x4E0A), (0x32A5, 0x32A5, 0x4E2D), (0x32A6, 0x32A6, 0x4E0B),
  (0x32A7, 0x32A7, 0x5DE6), (0x32A8, 0x32A8, 0x53F3), (0x32A9, 0x32A9, 0x533B),
  (0x32AA, 0x32AA, 0x5B97), (0x32AB, 0x32AB, 0x5B66), (0x32AC, 0x32AC, 0x76E3),
  (0x32AD, 0x32AD, 0x4F01), (0x32AE, 0x32AE, 0x8CC7), (0x32AF, 0x32AF, 0x5354),
  (0x32B0, 0x32B0, 0x591C), (0x32D0, 0x32D0, 0x30A2), (0x32D1, 0x32D1, 0x30A4),
  (0x32D2, 0x32D2, 0x30A6), (0x32D3, 0x32D3, 0x30A8), (0x32D4, 0x32D5, 0x30AA),
  (0x32D6, 0x32D6, 0x30AD), (0x32D7, 0x32D7, 0x30AF), (0x32D8, 0x32D8, 0x30B1),
  (0x32D9, 0x32D9, 0x30B3), (0x32DA, 0x32DA, 0x30B5), (0x32DB, 0x32DB, 0x30B7),
  (0x32DC, 0x32DC, 0x30B9), (0x32DD, 0x32DD, 0x30BB), (0x32DE, 0x32DE, 0x30BD),
  (0x32DF, 0x32DF, 0x30BF), (0x32E0, 0x32E0, 0x30C1), (0x32E1, 0x32E1, 0x30C4),
  (0x32E2, 0x32E2, 0x30C6), (0x32E3, 0x32E3, 0x30C8), (0x32E4, 0x32E9, 0x30CA),
  (0x32EA, 0x32EA, 0x30D2), (0x32EB, 0x32EB, 0x30D5), (0x32EC, 0x32EC, 0x30D8),
  (0x32ED, 0x32ED, 0x30DB), (0x32EE, 0x32F2, 0x30DE), (0x32F3, 0x32F3, 0x30E4),
  (0x32F4, 0x32F4, 0x30E6), (0x32F5, 0x32FA, 0x30E8), (0x32FB, 0x32FE, 0x30EF),
  (0xA69C, 0xA69C, 0x44A), (0xA69D, 0xA69D, 0x44C), (0xA770, 0xA770, 0xA76F),
  (0xA7F1, 0xA7F1, 0x53), (0xA7F2, 0xA7F2, 0x43), (0xA7F3, 0xA7F3, 0x46),
  (0xA7F4, 0xA7F4, 0x51), (0xA7F8, 0xA7F8, 0x126), (0xA7F9, 0xA7F9, 0x153),
  (0xAB5C, 0xAB5C, 0xA727), (0xAB5D, 0xAB5D, 0xAB37), (0xAB5E, 0xAB5E, 0x26B),
  (0xAB5F, 0xAB5F, 0xAB52), (0xAB69, 0xAB69, 0x28D), (0xF900, 0xF900, 0x8C48),
  (0xF901, 0xF901, 0x66F4), (0xF902, 0xF902, 0x8ECA), (0xF903, 0xF903, 0x8CC8),
  (0xF904, 0xF904, 0x6ED1), (0xF905, 0xF905, 0x4E32), (0xF906, 0xF906, 0x53E5),
  (0xF907, 0xF907, 0x9F9C), (0xF908, 0xF908, 0x9F9C), (0xF909, 0xF909, 0x5951),
  (0xF90A, 0xF90A, 0x91D1), (0xF90B, 0xF90B, 0x5587), (0xF90C, 0xF90C, 0x5948),
  (0xF90D, 0xF90D, 0x61F6), (0xF90E, 0xF90E, 0x7669), (0xF90F, 0xF90F, 0x7F85),
  (0xF910, 0xF910, 0x863F), (0xF911, 0xF911, 0x87BA), (0xF912, 0xF912, 0x88F8),
  (0xF913, 0xF913, 0x908F), (0xF914, 0xF914, 0x6A02), (0xF915, 0xF915, 0x6D1B),
  (0xF916, 0xF916, 0x70D9), (0xF917, 0xF917, 0x73DE), (0xF918, 0xF918, 0x843D),
  (0xF919, 0xF919, 0x916A), (0xF91A, 0xF91A, 0x99F1), (0xF91B, 0xF91B, 0x4E82),
  (0xF91C, 0xF91C, 0x5375), (0xF91D, 0xF91D, 0x6B04), (0xF91E, 0xF91E, 0x721B),
  (0xF91F, 0xF91F, 0x862D), (0xF920, 0xF920, 0x9E1E), (0xF921, 0xF921, 0x5D50),
  (0xF922, 0xF922, 0x6FEB), (0xF923, 0xF923, 0x85CD), (0xF924, 0xF924, 0x8964),
  (0xF925, 0xF925, 0x62C9), (0xF926, 0xF926, 0x81D8), (0xF927, 0xF927, 0x881F),
  (0xF928, 0xF928, 0x5ECA), (0xF929, 0xF929, 0x6717), (0xF92A, 0xF92A, 0x6D6A),
  (0xF92B, 0xF92B, 0x72FC), (0xF92C, 0xF92C, 0x90CE), (0xF92D, 0xF92D, 0x4F86),
  (0xF92E, 0xF92E, 0x51B7), (0xF92F, 0xF92F, 0x52DE), (0xF930, 0xF930, 0x64C4),
  (0xF931, 0xF931, 0x6AD3), (0xF932, 0xF932, 0x7210), (0xF933, 0xF933, 0x76E7),
  (0xF934, 0xF934, 0x8001), (0xF935, 0xF935, 0x8606), (0xF936, 0xF936, 0x865C),
  (0xF937, 0xF937, 0x8DEF), (0xF938, 0xF938, 0x9732), (0xF939, 0xF939, 0x9B6F),
  (0xF93A, 0xF93A, 0x9DFA), (0xF93B, 0xF93B, 0x788C), (0xF93C, 0xF93C, 0x797F),
  (0xF93D, 0xF93D, 0x7DA0), (0xF93E, 0xF93E, 0x83C9), (0xF93F, 0xF93F, 0x9304),
  (0xF940, 0xF940, 0x9E7F), (0xF941, 0xF941, 0x8AD6), (0xF942, 0xF942, 0x58DF),
  (0xF943, 0xF943, 0x5F04), (0xF944, 0xF944, 0x7C60), (0xF945, 0xF945, 0x807E),
  (0xF946, 0xF946, 0x7262), (0xF947, 0xF947, 0x78CA), (0xF948, 0xF948, 0x8CC2),
  (0xF949, 0xF949, 0x96F7), (0xF94A, 0xF94A, 0x58D8), (0xF94B, 0xF94B, 0x5C62),
  (0xF94C, 0xF94C, 0x6A13), (0xF94D, 0xF94D, 0x6DDA), (0xF94E, 0xF94E, 0x6F0F),
  (0xF94F, 0xF94F, 0x7D2F), (0xF950, 0xF950, 0x7E37), (0xF951, 0xF951, 0x964B),
  (0xF952, 0xF952, 0x52D2), (0xF953, 0xF953, 0x808B), (0xF954, 0xF954, 0x51DC),
  (0xF955, 0xF955, 0x51CC), (0xF956, 0xF956, 0x7A1C), (0xF957, 0xF957, 0x7DBE),
  (0xF958, 0xF958, 0x83F1), (0xF959, 0xF959, 0x9675), (0xF95A, 0xF95A, 0x8B80),
  (0xF95B, 0xF95B, 0x62CF), (0xF95C, 0xF95C, 0x6A02), (0xF95D, 0xF95D, 0x8AFE),
  (0xF95E, 0xF95E, 0x4E39), (0xF95F, 0xF95F, 0x5BE7), (0xF960, 0xF960, 0x6012),
  (0xF961, 0xF961, 0x7387), (0xF962, 0xF962, 0x7570), (0xF963, 0xF963, 0x5317),
  (0xF964, 0xF964, 0x78FB), (0xF965, 0xF965, 0x4FBF), (0xF966, 0xF966, 0x5FA9),
  (0xF967, 0xF967, 0x4E0D), (0xF968, 0xF968, 0x6CCC), (0xF969, 0xF969, 0x6578),
  (0xF96A, 0xF96A, 0x7D22), (0xF96B, 0xF96B, 0x53C3), (0xF96C, 0xF96C, 0x585E),
  (0xF96D, 0xF96D, 0x7701), (0xF96E, 0xF96E, 0x8449), (0xF96F, 0xF96F, 0x8AAA),
  (0xF970, 0xF970, 0x6BBA), (0xF971, 0xF971, 0x8FB0), (0xF972, 0xF972, 0x6C88),
  (0xF973, 0xF973, 0x62FE), (0xF974, 0xF974, 0x82E5), (0xF975, 0xF975, 0x63A0),
  (0xF976, 0xF976, 0x7565), (0xF977, 0xF977, 0x4EAE), (0xF978, 0xF978, 0x5169),
  (0xF979, 0xF979, 0x51C9), (0xF97A, 0xF97A, 0x6881), (0xF97B, 0xF97B, 0x7CE7),
  (0xF97C, 0xF97C, 0x826F), (0xF97D, 0xF97D, 0x8AD2), (0xF97E, 0xF97E, 0x91CF),
  (0xF97F, 0xF97F, 0x52F5), (0xF980, 0xF980, 0x5442), (0xF981, 0xF981, 0x5973),
  (0xF982, 0xF982, 0x5EEC), (0xF983, 0xF983, 0x65C5), (0xF984, 0xF984, 0x6FFE),
  (0xF985, 0xF985, 0x792A), (0xF986, 0xF986, 0x95AD), (0xF987, 0xF987, 0x9A6A),
  (0xF988, 0xF988, 0x9E97), (0xF989, 0xF989, 0x9ECE), (0xF98A, 0xF98A, 0x529B),
  (0xF98B, 0xF98B, 0x66C6), (0xF98C, 0xF98C, 0x6B77), (0xF98D, 0xF98D, 0x8F62),
  (0xF98E, 0xF98E, 0x5E74), (0xF98F, 0xF98F, 0x6190), (0xF990, 0xF990, 0x6200),
  (0xF991, 0xF991, 0x649A), (0xF992, 0xF992, 0x6F23), (0xF993, 0xF993, 0x7149),
  (0xF994, 0xF994, 0x7489), (0xF995, 0xF995, 0x79CA), (0xF996, 0xF996, 0x7DF4),
  (0xF997, 0xF997, 0x806F), (0xF998, 0xF998, 0x8F26), (0xF999, 0xF999, 0x84EE),
  (0xF99A, 0xF99A, 0x9023), (0xF99B, 0xF99B, 0x934A), (0xF99C, 0xF99C, 0x5217),
  (0xF99D, 0xF99D, 0x52A3), (0xF99E, 0xF99E, 0x54BD), (0xF99F, 0xF99F, 0x70C8),
  (0xF9A0, 0xF9A0, 0x88C2), (0xF9A1, 0xF9A1, 0x8AAA), (0xF9A2, 0xF9A2, 0x5EC9),
  (0xF9A3, 0xF9A3, 0x5FF5), (0xF9A4, 0xF9A4, 0x637B), (0xF9A5, 0xF9A5, 0x6BAE),
  (0xF9A6, 0xF9A6, 0x7C3E), (0xF9A7, 0xF9A7, 0x7375), (0xF9A8, 0xF9A8, 0x4EE4),
  (0xF9A9, 0xF9A9, 0x56F9), (0xF9AA, 0xF9AA, 0x5BE7), (0xF9AB, 0xF9AB, 0x5DBA),
  (0xF9AC, 0xF9AC, 0x601C), (0xF9AD, 0xF9AD, 0x73B2), (0xF9AE, 0xF9AE, 0x7469),
  (0xF9AF, 0xF9AF, 0x7F9A), (0xF9B0, 0xF9B0, 0x8046), (0xF9B1, 0xF9B1, 0x9234),
  (0xF9B2, 0xF9B2, 0x96F6), (0xF9B3, 0xF9B3, 0x9748), (0xF9B4, 0xF9B4, 0x9818),
  (0xF9B5, 0xF9B5, 0x4F8B), (0xF9B6, 0xF9B6, 0x79AE), (0xF9B7, 0xF9B7, 0x91B4),
  (0xF9B8, 0xF9B8, 0x96B8), (0xF9B9, 0xF9B9, 0x60E1), (0xF9BA, 0xF9BA, 0x4E86),
  (0xF9BB, 0xF9BB, 0x50DA), (0xF9BC, 0xF9BC, 0x5BEE), (0xF9BD, 0xF9BD, 0x5C3F),
  (0xF9BE, 0xF9BE, 0x6599), (0xF9BF, 0xF9BF, 0x6A02), (0xF9C0, 0xF9C0, 0x71CE),
  (0xF9C1, 0xF9C1, 0x7642), (0xF9C2, 0xF9C2, 0x84FC), (0xF9C3, 0xF9C3, 0x907C),
  (0xF9C4, 0xF9C4, 0x9F8D), (0xF9C5, 0xF9C5, 0x6688), (0xF9C6, 0xF9C6, 0x962E),
  (0xF9C7, 0xF9C7, 0x5289), (0xF9C8, 0xF9C8, 0x677B), (0xF9C9, 0xF9C9, 0x67F3),
  (0xF9CA, 0xF9CA, 0x6D41), (0xF9CB, 0xF9CB, 0x6E9C), (0xF9CC, 0xF9CC, 0x7409),
  (0xF9CD, 0xF9CD, 0x7559), (0xF9CE, 0xF9CE, 0x786B), (0xF9CF, 0xF9CF, 0x7D10),
  (0xF9D0, 0xF9D0, 0x985E), (0xF9D1, 0xF9D1, 0x516D), (0xF9D2, 0xF9D2, 0x622E),
  (0xF9D3, 0xF9D3, 0x9678), (0xF9D4, 0xF9D4, 0x502B), (0xF9D5, 0xF9D5, 0x5D19),
  (0xF9D6, 0xF9D6, 0x6DEA), (0xF9D7, 0xF9D7, 0x8F2A), (0xF9D8, 0xF9D8, 0x5F8B),
  (0xF9D9, 0xF9D9, 0x6144), (0xF9DA, 0xF9DA, 0x6817), (0xF9DB, 0xF9DB, 0x7387),
  (0xF9DC, 0xF9DC, 0x9686), (0xF9DD, 0xF9DD, 0x5229), (0xF9DE, 0xF9DE, 0x540F),
  (0xF9DF, 0xF9DF, 0x5C65), (0xF9E0, 0xF9E0, 0x6613), (0xF9E1, 0xF9E1, 0x674E),
  (0xF9E2, 0xF9E2, 0x68A8), (0xF9E3, 0xF9E3, 0x6CE5), (0xF9E4, 0xF9E4, 0x7406),
  (0xF9E5, 0xF9E5, 0x75E2), (0xF9E6, 0xF9E6, 0x7F79), (0xF9E7, 0xF9E7, 0x88CF),
  (0xF9E8, 0xF9E8, 0x88E1), (0xF9E9, 0xF9E9, 0x91CC), (0xF9EA, 0xF9EA, 0x96E2),
  (0xF9EB, 0xF9EB, 0x533F), (0xF9EC, 0xF9EC, 0x6EBA), (0xF9ED, 0xF9ED, 0x541D),
  (0xF9EE, 0xF9EE, 0x71D0), (0xF9EF, 0xF9EF, 0x7498), (0xF9F0, 0xF9F0, 0x85FA),
  (0xF9F1, 0xF9F1, 0x96A3), (0xF9F2, 0xF9F2, 0x9C57), (0xF9F3, 0xF9F3, 0x9E9F),
  (0xF9F4, 0xF9F4, 0x6797), (0xF9F5, 0xF9F5, 0x6DCB), (0xF9F6, 0xF9F6, 0x81E8),
  (0xF9F7, 0xF9F7, 0x7ACB), (0xF9F8, 0xF9F8, 0x7B20), (0xF9F9, 0xF9F9, 0x7C92),
  (0xF9FA, 0xF9FA, 0x72C0), (0xF9FB, 0xF9FB, 0x7099), (0xF9FC, 0xF9FC, 0x8B58),
  (0xF9FD, 0xF9FD, 0x4EC0), (0xF9FE, 0xF9FE, 0x8336), (0xF9FF, 0xF9FF, 0x523A),
  (0xFA00, 0xFA00, 0x5207), (0xFA01, 0xFA01, 0x5EA6), (0xFA02, 0xFA02, 0x62D3),
  (0xFA03, 0xFA03, 0x7CD6), (0xFA04, 0xFA04, 0x5B85), (0xFA05, 0xFA05, 0x6D1E),
  (0xFA06, 0xFA06, 0x66B4), (0xFA07, 0xFA07, 0x8F3B), (0xFA08, 0xFA08, 0x884C),
  (0xFA09, 0xFA09, 0x964D), (0xFA0A, 0xFA0A, 0x898B), (0xFA0B, 0xFA0B, 0x5ED3),
  (0xFA0C, 0xFA0C, 0x5140), (0xFA0D, 0xFA0D, 0x55C0), (0xFA10, 0xFA10, 0x585A),
  (0xFA12, 0xFA12, 0x6674), (0xFA15, 0xFA15, 0x51DE), (0xFA16, 0xFA16, 0x732A),
  (0xFA17, 0xFA17, 0x76CA), (0xFA18, 0xFA18, 0x793C), (0xFA19, 0xFA19, 0x795E),
  (0xFA1A, 0xFA1A, 0x7965), (0xFA1B, 0xFA1B, 0x798F), (0xFA1C, 0xFA1C, 0x9756),
  (0xFA1D, 0xFA1D, 0x7CBE), (0xFA1E, 0xFA1E, 0x7FBD), (0xFA20, 0xFA20, 0x8612),
  (0xFA22, 0xFA22, 0x8AF8), (0xFA25, 0xFA25, 0x9038), (0xFA26, 0xFA26, 0x90FD),
  (0xFA2A, 0xFA2A, 0x98EF), (0xFA2B, 0xFA2B, 0x98FC), (0xFA2C, 0xFA2C, 0x9928),
  (0xFA2D, 0xFA2D, 0x9DB4), (0xFA2E, 0xFA2E, 0x90DE), (0xFA2F, 0xFA2F, 0x96B7),
  (0xFA30, 0xFA30, 0x4FAE), (0xFA31, 0xFA31, 0x50E7), (0xFA32, 0xFA32, 0x514D),
  (0xFA33, 0xFA33, 0x52C9), (0xFA34, 0xFA34, 0x52E4), (0xFA35, 0xFA35, 0x5351),
  (0xFA36, 0xFA36, 0x559D), (0xFA37, 0xFA37, 0x5606), (0xFA38, 0xFA38, 0x5668),
  (0xFA39, 0xFA39, 0x5840), (0xFA3A, 0xFA3A, 0x58A8), (0xFA3B, 0xFA3B, 0x5C64),
  (0xFA3C, 0xFA3C, 0x5C6E), (0xFA3D, 0xFA3D, 0x6094), (0xFA3E, 0xFA3E, 0x6168),
  (0xFA3F, 0xFA3F, 0x618E), (0xFA40, 0xFA40, 0x61F2), (0xFA41, 0xFA41, 0x654F),
  (0xFA42, 0xFA42, 0x65E2), (0xFA43, 0xFA43, 0x6691), (0xFA44, 0xFA44, 0x6885),
  (0xFA45, 0xFA45, 0x6D77), (0xFA46, 0xFA46, 0x6E1A), (0xFA47, 0xFA47, 0x6F22),
  (0xFA48, 0xFA48, 0x716E), (0xFA49, 0xFA49, 0x722B), (0xFA4A, 0xFA4A, 0x7422)]

/-- The third part of the mappings: first and last character, and the image of the first. -/
def singleMappingsThird : List (Nat × Nat × Nat) := [
  (0xFA4B, 0xFA4B, 0x7891), (0xFA4C, 0xFA4C, 0x793E), (0xFA4D, 0xFA4D, 0x7949),
  (0xFA4E, 0xFA4E, 0x7948), (0xFA4F, 0xFA4F, 0x7950), (0xFA50, 0xFA50, 0x7956),
  (0xFA51, 0xFA51, 0x795D), (0xFA52, 0xFA53, 0x798D), (0xFA54, 0xFA54, 0x7A40),
  (0xFA55, 0xFA55, 0x7A81), (0xFA56, 0xFA56, 0x7BC0), (0xFA57, 0xFA57, 0x7DF4),
  (0xFA58, 0xFA58, 0x7E09), (0xFA59, 0xFA59, 0x7E41), (0xFA5A, 0xFA5A, 0x7F72),
  (0xFA5B, 0xFA5B, 0x8005), (0xFA5C, 0xFA5C, 0x81ED), (0xFA5D, 0xFA5D, 0x8279),
  (0xFA5E, 0xFA5E, 0x8279), (0xFA5F, 0xFA5F, 0x8457), (0xFA60, 0xFA60, 0x8910),
  (0xFA61, 0xFA61, 0x8996), (0xFA62, 0xFA62, 0x8B01), (0xFA63, 0xFA63, 0x8B39),
  (0xFA64, 0xFA64, 0x8CD3), (0xFA65, 0xFA65, 0x8D08), (0xFA66, 0xFA66, 0x8FB6),
  (0xFA67, 0xFA67, 0x9038), (0xFA68, 0xFA68, 0x96E3), (0xFA69, 0xFA69, 0x97FF),
  (0xFA6A, 0xFA6A, 0x983B), (0xFA6B, 0xFA6B, 0x6075), (0xFA6C, 0xFA6C, 0x242EE),
  (0xFA6D, 0xFA6D, 0x8218), (0xFA70, 0xFA70, 0x4E26), (0xFA71, 0xFA71, 0x51B5),
  (0xFA72, 0xFA72, 0x5168), (0xFA73, 0xFA73, 0x4F80), (0xFA74, 0xFA74, 0x5145),
  (0xFA75, 0xFA75, 0x5180), (0xFA76, 0xFA76, 0x52C7), (0xFA77, 0xFA77, 0x52FA),
  (0xFA78, 0xFA78, 0x559D), (0xFA79, 0xFA79, 0x5555), (0xFA7A, 0xFA7A, 0x5599),
  (0xFA7B, 0xFA7B, 0x55E2), (0xFA7C, 0xFA7C, 0x585A), (0xFA7D, 0xFA7D, 0x58B3),
  (0xFA7E, 0xFA7E, 0x5944), (0xFA7F, 0xFA7F, 0x5954), (0xFA80, 0xFA80, 0x5A62),
  (0xFA81, 0xFA81, 0x5B28), (0xFA82, 0xFA82, 0x5ED2), (0xFA83, 0xFA83, 0x5ED9),
  (0xFA84, 0xFA84, 0x5F69), (0xFA85, 0xFA85, 0x5FAD), (0xFA86, 0xFA86, 0x60D8),
  (0xFA87, 0xFA87, 0x614E), (0xFA88, 0xFA88, 0x6108), (0xFA89, 0xFA89, 0x618E),
  (0xFA8A, 0xFA8A, 0x6160), (0xFA8B, 0xFA8B, 0x61F2), (0xFA8C, 0xFA8C, 0x6234),
  (0xFA8D, 0xFA8D, 0x63C4), (0xFA8E, 0xFA8E, 0x641C), (0xFA8F, 0xFA8F, 0x6452),
  (0xFA90, 0xFA90, 0x6556), (0xFA91, 0xFA91, 0x6674), (0xFA92, 0xFA92, 0x6717),
  (0xFA93, 0xFA93, 0x671B), (0xFA94, 0xFA94, 0x6756), (0xFA95, 0xFA95, 0x6B79),
  (0xFA96, 0xFA96, 0x6BBA), (0xFA97, 0xFA97, 0x6D41), (0xFA98, 0xFA98, 0x6EDB),
  (0xFA99, 0xFA99, 0x6ECB), (0xFA9A, 0xFA9A, 0x6F22), (0xFA9B, 0xFA9B, 0x701E),
  (0xFA9C, 0xFA9C, 0x716E), (0xFA9D, 0xFA9D, 0x77A7), (0xFA9E, 0xFA9E, 0x7235),
  (0xFA9F, 0xFA9F, 0x72AF), (0xFAA0, 0xFAA0, 0x732A), (0xFAA1, 0xFAA1, 0x7471),
  (0xFAA2, 0xFAA2, 0x7506), (0xFAA3, 0xFAA3, 0x753B), (0xFAA4, 0xFAA4, 0x761D),
  (0xFAA5, 0xFAA5, 0x761F), (0xFAA6, 0xFAA6, 0x76CA), (0xFAA7, 0xFAA7, 0x76DB),
  (0xFAA8, 0xFAA8, 0x76F4), (0xFAA9, 0xFAA9, 0x774A), (0xFAAA, 0xFAAA, 0x7740),
  (0xFAAB, 0xFAAB, 0x78CC), (0xFAAC, 0xFAAC, 0x7AB1), (0xFAAD, 0xFAAD, 0x7BC0),
  (0xFAAE, 0xFAAE, 0x7C7B), (0xFAAF, 0xFAAF, 0x7D5B), (0xFAB0, 0xFAB0, 0x7DF4),
  (0xFAB1, 0xFAB1, 0x7F3E), (0xFAB2, 0xFAB2, 0x8005), (0xFAB3, 0xFAB3, 0x8352),
  (0xFAB4, 0xFAB4, 0x83EF), (0xFAB5, 0xFAB5, 0x8779), (0xFAB6, 0xFAB6, 0x8941),
  (0xFAB7, 0xFAB7, 0x8986), (0xFAB8, 0xFAB8, 0x8996), (0xFAB9, 0xFAB9, 0x8ABF),
  (0xFABA, 0xFABA, 0x8AF8), (0xFABB, 0xFABB, 0x8ACB), (0xFABC, 0xFABC, 0x8B01),
  (0xFABD, 0xFABD, 0x8AFE), (0xFABE, 0xFABE, 0x8AED), (0xFABF, 0xFABF, 0x8B39),
  (0xFAC0, 0xFAC0, 0x8B8A), (0xFAC1, 0xFAC1, 0x8D08), (0xFAC2, 0xFAC2, 0x8F38),
  (0xFAC3, 0xFAC3, 0x9072), (0xFAC4, 0xFAC4, 0x9199), (0xFAC5, 0xFAC5, 0x9276),
  (0xFAC6, 0xFAC6, 0x967C), (0xFAC7, 0xFAC7, 0x96E3), (0xFAC8, 0xFAC8, 0x9756),
  (0xFAC9, 0xFAC9, 0x97DB), (0xFACA, 0xFACA, 0x97FF), (0xFACB, 0xFACB, 0x980B),
  (0xFACC, 0xFACC, 0x983B), (0xFACD, 0xFACD, 0x9B12), (0xFACE, 0xFACE, 0x9F9C),
  (0xFACF, 0xFACF, 0x2284A), (0xFAD0, 0xFAD0, 0x22844), (0xFAD1, 0xFAD1, 0x233D5),
  (0xFAD2, 0xFAD2, 0x3B9D), (0xFAD3, 0xFAD3, 0x4018), (0xFAD4, 0xFAD4, 0x4039),
  (0xFAD5, 0xFAD5, 0x25249), (0xFAD6, 0xFAD6, 0x25CD0), (0xFAD7, 0xFAD7, 0x27ED3),
  (0xFAD8, 0xFAD8, 0x9F43), (0xFAD9, 0xFAD9, 0x9F8E), (0xFB20, 0xFB20, 0x5E2),
  (0xFB21, 0xFB21, 0x5D0), (0xFB22, 0xFB23, 0x5D3), (0xFB24, 0xFB26, 0x5DB),
  (0xFB27, 0xFB27, 0x5E8), (0xFB28, 0xFB28, 0x5EA), (0xFB29, 0xFB29, 0x2B),
  (0xFB50, 0xFB50, 0x671), (0xFB51, 0xFB51, 0x671), (0xFB52, 0xFB52, 0x67B),
  (0xFB53, 0xFB53, 0x67B), (0xFB54, 0xFB54, 0x67B), (0xFB55, 0xFB55, 0x67B),
  (0xFB56, 0xFB56, 0x67E), (0xFB57, 0xFB57, 0x67E), (0xFB58, 0xFB58, 0x67E),
  (0xFB59, 0xFB59, 0x67E), (0xFB5A, 0xFB5A, 0x680), (0xFB5B, 0xFB5B, 0x680),
  (0xFB5C, 0xFB5C, 0x680), (0xFB5D, 0xFB5D, 0x680), (0xFB5E, 0xFB5E, 0x67A),
  (0xFB5F, 0xFB5F, 0x67A), (0xFB60, 0xFB60, 0x67A), (0xFB61, 0xFB61, 0x67A),
  (0xFB62, 0xFB62, 0x67F), (0xFB63, 0xFB63, 0x67F), (0xFB64, 0xFB64, 0x67F),
  (0xFB65, 0xFB65, 0x67F), (0xFB66, 0xFB66, 0x679), (0xFB67, 0xFB67, 0x679),
  (0xFB68, 0xFB68, 0x679), (0xFB69, 0xFB69, 0x679), (0xFB6A, 0xFB6A, 0x6A4),
  (0xFB6B, 0xFB6B, 0x6A4), (0xFB6C, 0xFB6C, 0x6A4), (0xFB6D, 0xFB6D, 0x6A4),
  (0xFB6E, 0xFB6E, 0x6A6), (0xFB6F, 0xFB6F, 0x6A6), (0xFB70, 0xFB70, 0x6A6),
  (0xFB71, 0xFB71, 0x6A6), (0xFB72, 0xFB72, 0x684), (0xFB73, 0xFB73, 0x684),
  (0xFB74, 0xFB74, 0x684), (0xFB75, 0xFB75, 0x684), (0xFB76, 0xFB76, 0x683),
  (0xFB77, 0xFB77, 0x683), (0xFB78, 0xFB78, 0x683), (0xFB79, 0xFB79, 0x683),
  (0xFB7A, 0xFB7A, 0x686), (0xFB7B, 0xFB7B, 0x686), (0xFB7C, 0xFB7C, 0x686),
  (0xFB7D, 0xFB7E, 0x686), (0xFB7F, 0xFB7F, 0x687), (0xFB80, 0xFB80, 0x687),
  (0xFB81, 0xFB81, 0x687), (0xFB82, 0xFB82, 0x68D), (0xFB83, 0xFB83, 0x68D),
  (0xFB84, 0xFB84, 0x68C), (0xFB85, 0xFB85, 0x68C), (0xFB86, 0xFB86, 0x68E),
  (0xFB87, 0xFB87, 0x68E), (0xFB88, 0xFB88, 0x688), (0xFB89, 0xFB89, 0x688),
  (0xFB8A, 0xFB8A, 0x698), (0xFB8B, 0xFB8B, 0x698), (0xFB8C, 0xFB8C, 0x691),
  (0xFB8D, 0xFB8D, 0x691), (0xFB8E, 0xFB8E, 0x6A9), (0xFB8F, 0xFB8F, 0x6A9),
  (0xFB90, 0xFB90, 0x6A9), (0xFB91, 0xFB91, 0x6A9), (0xFB92, 0xFB92, 0x6AF),
  (0xFB93, 0xFB93, 0x6AF), (0xFB94, 0xFB94, 0x6AF), (0xFB95, 0xFB95, 0x6AF),
  (0xFB96, 0xFB96, 0x6B3), (0xFB97, 0xFB97, 0x6B3), (0xFB98, 0xFB98, 0x6B3),
  (0xFB99, 0xFB99, 0x6B3), (0xFB9A, 0xFB9A, 0x6B1), (0xFB9B, 0xFB9B, 0x6B1),
  (0xFB9C, 0xFB9C, 0x6B1), (0xFB9D, 0xFB9D, 0x6B1), (0xFB9E, 0xFB9E, 0x6BA),
  (0xFB9F, 0xFBA0, 0x6BA), (0xFBA1, 0xFBA1, 0x6BB), (0xFBA2, 0xFBA2, 0x6BB),
  (0xFBA3, 0xFBA3, 0x6BB), (0xFBA6, 0xFBA6, 0x6C1), (0xFBA7, 0xFBA7, 0x6C1),
  (0xFBA8, 0xFBA8, 0x6C1), (0xFBA9, 0xFBA9, 0x6C1), (0xFBAA, 0xFBAA, 0x6BE),
  (0xFBAB, 0xFBAB, 0x6BE), (0xFBAC, 0xFBAC, 0x6BE), (0xFBAD, 0xFBAD, 0x6BE),
  (0xFBAE, 0xFBAE, 0x6D2), (0xFBAF, 0xFBAF, 0x6D2), (0xFBD3, 0xFBD3, 0x6AD),
  (0xFBD4, 0xFBD4, 0x6AD), (0xFBD5, 0xFBD5, 0x6AD), (0xFBD6, 0xFBD6, 0x6AD),
  (0xFBD7, 0xFBD7, 0x6C7), (0xFBD8, 0xFBD8, 0x6C7), (0xFBD9, 0xFBD9, 0x6C6),
  (0xFBDA, 0xFBDA, 0x6C6), (0xFBDB, 0xFBDB, 0x6C8), (0xFBDC, 0xFBDC, 0x6C8),
  (0xFBDE, 0xFBDE, 0x6CB), (0xFBDF, 0xFBDF, 0x6CB), (0xFBE0, 0xFBE0, 0x6C5),
  (0xFBE1, 0xFBE1, 0x6C5), (0xFBE2, 0xFBE2, 0x6C9), (0xFBE3, 0xFBE3, 0x6C9),
  (0xFBE4, 0xFBE4, 0x6D0), (0xFBE5, 0xFBE5, 0x6D0), (0xFBE6, 0xFBE6, 0x6D0),
  (0xFBE7, 0xFBE7, 0x6D0), (0xFBE8, 0xFBE8, 0x649), (0xFBE9, 0xFBE9, 0x649),
  (0xFBFC, 0xFBFC, 0x6CC), (0xFBFD, 0xFBFD, 0x6CC), (0xFBFE, 0xFBFE, 0x6CC),
  (0xFBFF, 0xFBFF, 0x6CC), (0xFE10, 0xFE10, 0x2C), (0xFE11, 0xFE12, 0x3001),
  (0xFE13, 0xFE14, 0x3A), (0xFE15, 0xFE15, 0x21), (0xFE16, 0xFE16, 0x3F),
  (0xFE17, 0xFE18, 0x3016), (0xFE31, 0xFE31, 0x2014), (0xFE32, 0xFE32, 0x2013),
  (0xFE33, 0xFE33, 0x5F), (0xFE34, 0xFE34, 0x5F), (0xFE35, 0xFE36, 0x28),
  (0xFE37, 0xFE37, 0x7B), (0xFE38, 0xFE38, 0x7D), (0xFE39, 0xFE3A, 0x3014),
  (0xFE3B, 0xFE3C, 0x3010), (0xFE3D, 0xFE3E, 0x300A), (0xFE3F, 0xFE40, 0x3008),
  (0xFE41, 0xFE44, 0x300C), (0xFE47, 0xFE47, 0x5B), (0xFE48, 0xFE48, 0x5D),
  (0xFE4D, 0xFE4D, 0x5F), (0xFE4E, 0xFE4E, 0x5F), (0xFE4F, 0xFE4F, 0x5F),
  (0xFE50, 0xFE50, 0x2C), (0xFE51, 0xFE51, 0x3001), (0xFE52, 0xFE52, 0x2E),
  (0xFE54, 0xFE54, 0x3B), (0xFE55, 0xFE55, 0x3A), (0xFE56, 0xFE56, 0x3F),
  (0xFE57, 0xFE57, 0x21), (0xFE58, 0xFE58, 0x2014), (0xFE59, 0xFE5A, 0x28),
  (0xFE5B, 0xFE5B, 0x7B), (0xFE5C, 0xFE5C, 0x7D), (0xFE5D, 0xFE5E, 0x3014),
  (0xFE5F, 0xFE5F, 0x23), (0xFE60, 0xFE60, 0x26), (0xFE61, 0xFE62, 0x2A),
  (0xFE63, 0xFE63, 0x2D), (0xFE64, 0xFE64, 0x3C), (0xFE65, 0xFE65, 0x3E),
  (0xFE66, 0xFE66, 0x3D), (0xFE68, 0xFE68, 0x5C), (0xFE69, 0xFE6A, 0x24),
  (0xFE6B, 0xFE6B, 0x40), (0xFE80, 0xFE80, 0x621), (0xFE8D, 0xFE8D, 0x627),
  (0xFE8E, 0xFE8F, 0x627), (0xFE90, 0xFE90, 0x628), (0xFE91, 0xFE91, 0x628),
  (0xFE92, 0xFE93, 0x628), (0xFE94, 0xFE95, 0x629), (0xFE96, 0xFE96, 0x62A),
  (0xFE97, 0xFE97, 0x62A), (0xFE98, 0xFE99, 0x62A), (0xFE9A, 0xFE9A, 0x62B),
  (0xFE9B, 0xFE9B, 0x62B), (0xFE9C, 0xFE9D, 0x62B), (0xFE9E, 0xFE9E, 0x62C),
  (0xFE9F, 0xFE9F, 0x62C), (0xFEA0, 0xFEA1, 0x62C), (0xFEA2, 0xFEA2, 0x62D),
  (0xFEA3, 0xFEA3, 0x62D), (0xFEA4, 0xFEA5, 0x62D), (0xFEA6, 0xFEA6, 0x62E),
  (0xFEA7, 0xFEA7, 0x62E), (0xFEA8, 0xFEA9, 0x62E), (0xFEAA, 0xFEAB, 0x62F),
  (0xFEAC, 0xFEAD, 0x630), (0xFEAE, 0xFEAF, 0x631), (0xFEB0, 0xFEB1, 0x632),
  (0xFEB2, 0xFEB2, 0x633), (0xFEB3, 0xFEB3, 0x633), (0xFEB4, 0xFEB5, 0x633),
  (0xFEB6, 0xFEB6, 0x634), (0xFEB7, 0xFEB7, 0x634), (0xFEB8, 0xFEB9, 0x634),
  (0xFEBA, 0xFEBA, 0x635), (0xFEBB, 0xFEBB, 0x635), (0xFEBC, 0xFEBD, 0x635),
  (0xFEBE, 0xFEBE, 0x636), (0xFEBF, 0xFEBF, 0x636), (0xFEC0, 0xFEC1, 0x636),
  (0xFEC2, 0xFEC2, 0x637), (0xFEC3, 0xFEC3, 0x637), (0xFEC4, 0xFEC5, 0x637),
  (0xFEC6, 0xFEC6, 0x638), (0xFEC7, 0xFEC7, 0x638), (0xFEC8, 0xFEC9, 0x638),
  (0xFECA, 0xFECA, 0x639), (0xFECB, 0xFECB, 0x639), (0xFECC, 0xFECD, 0x639),
  (0xFECE, 0xFECE, 0x63A), (0xFECF, 0xFECF, 0x63A), (0xFED0, 0xFED0, 0x63A),
  (0xFED1, 0xFED1, 0x641), (0xFED2, 0xFED2, 0x641), (0xFED3, 0xFED3, 0x641),
  (0xFED4, 0xFED5, 0x641), (0xFED6, 0xFED6, 0x642), (0xFED7, 0xFED7, 0x642),
  (0xFED8, 0xFED9, 0x642), (0xFEDA, 0xFEDA, 0x643), (0xFEDB, 0xFEDB, 0x643),
  (0xFEDC, 0xFEDD, 0x643), (0xFEDE, 0xFEDE, 0x644), (0xFEDF, 0xFEDF, 0x644),
  (0xFEE0, 0xFEE1, 0x644), (0xFEE2, 0xFEE2, 0x645), (0xFEE3, 0xFEE3, 0x645),
  (0xFEE4, 0xFEE5, 0x645), (0xFEE6, 0xFEE6, 0x646), (0xFEE7, 0xFEE7, 0x646),
  (0xFEE8, 0xFEE9, 0x646), (0xFEEA, 0xFEEA, 0x647), (0xFEEB, 0xFEEB, 0x647),
  (0xFEEC, 0xFEED, 0x647), (0xFEEE, 0xFEEF, 0x648), (0xFEF0, 0xFEF1, 0x649),
  (0xFEF2, 0xFEF2, 0x64A), (0xFEF3, 0xFEF3, 0x64A), (0xFEF4, 0xFEF4, 0x64A),
  (0xFF01, 0xFF5E, 0x21), (0xFF5F, 0xFF60, 0x2985), (0xFF61, 0xFF61, 0x3002),
  (0xFF62, 0xFF63, 0x300C), (0xFF64, 0xFF64, 0x3001), (0xFF65, 0xFF65, 0x30FB),
  (0xFF66, 0xFF66, 0x30F2), (0xFF67, 0xFF67, 0x30A1), (0xFF68, 0xFF68, 0x30A3),
  (0xFF69, 0xFF69, 0x30A5), (0xFF6A, 0xFF6A, 0x30A7), (0xFF6B, 0xFF6B, 0x30A9),
  (0xFF6C, 0xFF6C, 0x30E3), (0xFF6D, 0xFF6D, 0x30E5), (0xFF6E, 0xFF6E, 0x30E7),
  (0xFF6F, 0xFF6F, 0x30C3), (0xFF70, 0xFF70, 0x30FC), (0xFF71, 0xFF71, 0x30A2),
  (0xFF72, 0xFF72, 0x30A4), (0xFF73, 0xFF73, 0x30A6), (0xFF74, 0xFF74, 0x30A8),
  (0xFF75, 0xFF76, 0x30AA), (0xFF77, 0xFF77, 0x30AD), (0xFF78, 0xFF78, 0x30AF),
  (0xFF79, 0xFF79, 0x30B1), (0xFF7A, 0xFF7A, 0x30B3), (0xFF7B, 0xFF7B, 0x30B5),
  (0xFF7C, 0xFF7C, 0x30B7), (0xFF7D, 0xFF7D, 0x30B9), (0xFF7E, 0xFF7E, 0x30BB),
  (0xFF7F, 0xFF7F, 0x30BD), (0xFF80, 0xFF80, 0x30BF), (0xFF81, 0xFF81, 0x30C1),
  (0xFF82, 0xFF82, 0x30C4), (0xFF83, 0xFF83, 0x30C6), (0xFF84, 0xFF84, 0x30C8),
  (0xFF85, 0xFF8A, 0x30CA), (0xFF8B, 0xFF8B, 0x30D2), (0xFF8C, 0xFF8C, 0x30D5),
  (0xFF8D, 0xFF8D, 0x30D8), (0xFF8E, 0xFF8E, 0x30DB), (0xFF8F, 0xFF93, 0x30DE),
  (0xFF94, 0xFF94, 0x30E4), (0xFF95, 0xFF95, 0x30E6), (0xFF96, 0xFF9B, 0x30E8),
  (0xFF9C, 0xFF9C, 0x30EF), (0xFF9D, 0xFF9D, 0x30F3), (0xFF9E, 0xFF9F, 0x3099),
  (0xFFA0, 0xFFA0, 0x1160), (0xFFA1, 0xFFA2, 0x1100), (0xFFA3, 0xFFA3, 0x11AA),
  (0xFFA4, 0xFFA4, 0x1102), (0xFFA5, 0xFFA6, 0x11AC), (0xFFA7, 0xFFA9, 0x1103),
  (0xFFAA, 0xFFAF, 0x11B0), (0xFFB0, 0xFFB0, 0x111A), (0xFFB1, 0xFFB3, 0x1106),
  (0xFFB4, 0xFFB4, 0x1121), (0xFFB5, 0xFFBE, 0x1109), (0xFFC2, 0xFFC7, 0x1161),
  (0xFFCA, 0xFFCF, 0x1167), (0xFFD2, 0xFFD7, 0x116D), (0xFFDA, 0xFFDC, 0x1173)]

/-- The fourth part of the mappings: first and last character, and the image of the first. -/
def singleMappingsFourth : List (Nat × Nat × Nat) := [
  (0xFFE0, 0xFFE1, 0xA2), (0xFFE2, 0xFFE2, 0xAC), (0xFFE4, 0xFFE4, 0xA6),
  (0xFFE5, 0xFFE5, 0xA5), (0xFFE6, 0xFFE6, 0x20A9), (0xFFE8, 0xFFE8, 0x2502),
  (0xFFE9, 0xFFEC, 0x2190), (0xFFED, 0xFFED, 0x25A0), (0xFFEE, 0xFFEE, 0x25CB),
  (0x10781, 0x10782, 0x2D0), (0x10783, 0x10783, 0xE6), (0x10784, 0x10784, 0x299),
  (0x10785, 0x10785, 0x253), (0x10787, 0x10787, 0x2A3), (0x10788, 0x10788, 0xAB66),
  (0x10789, 0x10789, 0x2A5), (0x1078A, 0x1078A, 0x2A4), (0x1078B, 0x1078C, 0x256),
  (0x1078D, 0x1078D, 0x1D91), (0x1078E, 0x1078E, 0x258), (0x1078F, 0x1078F, 0x25E),
  (0x10790, 0x10790, 0x2A9), (0x10791, 0x10791, 0x264), (0x10792, 0x10792, 0x262),
  (0x10793, 0x10793, 0x260), (0x10794, 0x10794, 0x29B), (0x10795, 0x10795, 0x127),
  (0x10796, 0x10796, 0x29C), (0x10797, 0x10797, 0x267), (0x10798, 0x10798, 0x284),
  (0x10799, 0x1079A, 0x2AA), (0x1079B, 0x1079B, 0x26C), (0x1079C, 0x1079C, 0x1DF04),
  (0x1079D, 0x1079D, 0xA78E), (0x1079E, 0x1079E, 0x26E), (0x1079F, 0x1079F, 0x1DF05),
  (0x107A0, 0x107A0, 0x28E), (0x107A1, 0x107A1, 0x1DF06), (0x107A2, 0x107A2, 0xF8),
  (0x107A3, 0x107A4, 0x276), (0x107A5, 0x107A5, 0x71), (0x107A6, 0x107A6, 0x27A),
  (0x107A7, 0x107A7, 0x1DF08), (0x107A8, 0x107A9, 0x27D), (0x107AA, 0x107AA, 0x280),
  (0x107AB, 0x107AB, 0x2A8), (0x107AC, 0x107AC, 0x2A6), (0x107AD, 0x107AD, 0xAB67),
  (0x107AE, 0x107AE, 0x2A7), (0x107AF, 0x107AF, 0x288), (0x107B0, 0x107B0, 0x2C71),
  (0x107B2, 0x107B2, 0x28F), (0x107B3, 0x107B4, 0x2A1), (0x107B5, 0x107B5, 0x298),
  (0x107B6, 0x107B8, 0x1C0), (0x107B9, 0x107B9, 0x1DF0A), (0x107BA, 0x107BA, 0x1DF1E),
  (0x107BB, 0x107BB, 0x287), (0x107BC, 0x107BD, 0x296), (0x107BE, 0x107BE, 0x29E),
  (0x107BF, 0x107BF, 0x1DF0B), (0x1CCD6, 0x1CCEF, 0x41), (0x1CCF0, 0x1CCF9, 0x30),
  (0x1D400, 0x1D419, 0x41), (0x1D41A, 0x1D433, 0x61), (0x1D434, 0x1D44D, 0x41),
  (0x1D44E, 0x1D454, 0x61), (0x1D456, 0x1D467, 0x69), (0x1D468, 0x1D481, 0x41),
  (0x1D482, 0x1D49B, 0x61), (0x1D49C, 0x1D49C, 0x41), (0x1D49E, 0x1D49F, 0x43),
  (0x1D4A2, 0x1D4A2, 0x47), (0x1D4A5, 0x1D4A6, 0x4A), (0x1D4A9, 0x1D4AC, 0x4E),
  (0x1D4AE, 0x1D4B5, 0x53), (0x1D4B6, 0x1D4B9, 0x61), (0x1D4BB, 0x1D4BB, 0x66),
  (0x1D4BD, 0x1D4C3, 0x68), (0x1D4C5, 0x1D4CF, 0x70), (0x1D4D0, 0x1D4E9, 0x41),
  (0x1D4EA, 0x1D503, 0x61), (0x1D504, 0x1D505, 0x41), (0x1D507, 0x1D50A, 0x44),
  (0x1D50D, 0x1D514, 0x4A), (0x1D516, 0x1D51C, 0x53), (0x1D51E, 0x1D537, 0x61),
  (0x1D538, 0x1D539, 0x41), (0x1D53B, 0x1D53E, 0x44), (0x1D540, 0x1D544, 0x49),
  (0x1D546, 0x1D546, 0x4F), (0x1D54A, 0x1D550, 0x53), (0x1D552, 0x1D56B, 0x61),
  (0x1D56C, 0x1D585, 0x41), (0x1D586, 0x1D59F, 0x61), (0x1D5A0, 0x1D5B9, 0x41),
  (0x1D5BA, 0x1D5D3, 0x61), (0x1D5D4, 0x1D5ED, 0x41), (0x1D5EE, 0x1D607, 0x61),
  (0x1D608, 0x1D621, 0x41), (0x1D622, 0x1D63B, 0x61), (0x1D63C, 0x1D655, 0x41),
  (0x1D656, 0x1D66F, 0x61), (0x1D670, 0x1D689, 0x41), (0x1D68A, 0x1D6A3, 0x61),
  (0x1D6A4, 0x1D6A4, 0x131), (0x1D6A5, 0x1D6A5, 0x237), (0x1D6A6, 0x1D6A6, 0xDF),
  (0x1D6A8, 0x1D6B8, 0x391), (0x1D6B9, 0x1D6B9, 0x398), (0x1D6BA, 0x1D6C0, 0x3A3),
  (0x1D6C1, 0x1D6C1, 0x2207), (0x1D6C2, 0x1D6DA, 0x3B1), (0x1D6DB, 0x1D6DB, 0x2202),
  (0x1D6DC, 0x1D6DC, 0x3B5), (0x1D6DD, 0x1D6DD, 0x3B8), (0x1D6DE, 0x1D6DE, 0x3BA),
  (0x1D6DF, 0x1D6DF, 0x3C6), (0x1D6E0, 0x1D6E0, 0x3C1), (0x1D6E1, 0x1D6E1, 0x3C0),
  (0x1D6E2, 0x1D6F2, 0x391), (0x1D6F3, 0x1D6F3, 0x398), (0x1D6F4, 0x1D6FA, 0x3A3),
  (0x1D6FB, 0x1D6FB, 0x2207), (0x1D6FC, 0x1D714, 0x3B1), (0x1D715, 0x1D715, 0x2202),
  (0x1D716, 0x1D716, 0x3B5), (0x1D717, 0x1D717, 0x3B8), (0x1D718, 0x1D718, 0x3BA),
  (0x1D719, 0x1D719, 0x3C6), (0x1D71A, 0x1D71A, 0x3C1), (0x1D71B, 0x1D71B, 0x3C0),
  (0x1D71C, 0x1D72C, 0x391), (0x1D72D, 0x1D72D, 0x398), (0x1D72E, 0x1D734, 0x3A3),
  (0x1D735, 0x1D735, 0x2207), (0x1D736, 0x1D74E, 0x3B1), (0x1D74F, 0x1D74F, 0x2202),
  (0x1D750, 0x1D750, 0x3B5), (0x1D751, 0x1D751, 0x3B8), (0x1D752, 0x1D752, 0x3BA),
  (0x1D753, 0x1D753, 0x3C6), (0x1D754, 0x1D754, 0x3C1), (0x1D755, 0x1D755, 0x3C0),
  (0x1D756, 0x1D766, 0x391), (0x1D767, 0x1D767, 0x398), (0x1D768, 0x1D76E, 0x3A3),
  (0x1D76F, 0x1D76F, 0x2207), (0x1D770, 0x1D788, 0x3B1), (0x1D789, 0x1D789, 0x2202),
  (0x1D78A, 0x1D78A, 0x3B5), (0x1D78B, 0x1D78B, 0x3B8), (0x1D78C, 0x1D78C, 0x3BA),
  (0x1D78D, 0x1D78D, 0x3C6), (0x1D78E, 0x1D78E, 0x3C1), (0x1D78F, 0x1D78F, 0x3C0),
  (0x1D790, 0x1D7A0, 0x391), (0x1D7A1, 0x1D7A1, 0x398), (0x1D7A2, 0x1D7A8, 0x3A3),
  (0x1D7A9, 0x1D7A9, 0x2207), (0x1D7AA, 0x1D7C2, 0x3B1), (0x1D7C3, 0x1D7C3, 0x2202),
  (0x1D7C4, 0x1D7C4, 0x3B5), (0x1D7C5, 0x1D7C5, 0x3B8), (0x1D7C6, 0x1D7C6, 0x3BA),
  (0x1D7C7, 0x1D7C7, 0x3C6), (0x1D7C8, 0x1D7C8, 0x3C1), (0x1D7C9, 0x1D7C9, 0x3C0),
  (0x1D7CA, 0x1D7CB, 0x3DC), (0x1D7CE, 0x1D7D7, 0x30), (0x1D7D8, 0x1D7E1, 0x30),
  (0x1D7E2, 0x1D7EB, 0x30), (0x1D7EC, 0x1D7F5, 0x30), (0x1D7F6, 0x1D7FF, 0x30),
  (0x1DF95, 0x1DF95, 0xDF), (0x1DFD0, 0x1DFD0, 0x263), (0x1DFD1, 0x1DFD1, 0x1D18),
  (0x1DFD2, 0x1DFD2, 0x180), (0x1DFD3, 0x1DFD3, 0x111), (0x1DFD4, 0x1DFD4, 0x1E5),
  (0x1DFD5, 0x1DFD5, 0x142), (0x1DFD6, 0x1DFD6, 0x19A), (0x1DFD7, 0x1DFD7, 0x1DF50),
  (0x1DFD8, 0x1DFD8, 0x1DF3E), (0x1DFD9, 0x1DFD9, 0x249), (0x1DFDA, 0x1DFDA, 0x1D7F),
  (0x1DFDB, 0x1DFDB, 0x1DF3F), (0x1DFDC, 0x1DFDC, 0x19E), (0x1DFDD, 0x1DFDD, 0x27C),
  (0x1DFDE, 0x1DFDF, 0x238), (0x1DFE0, 0x1DFE0, 0x1DF2B), (0x1DFE1, 0x1DFE1, 0x1DF19),
  (0x1DFE2, 0x1DFE2, 0x286), (0x1DFE3, 0x1DFE3, 0x1D98), (0x1DFE4, 0x1DFE4, 0x1DF2C),
  (0x1DFE5, 0x1DFE5, 0x1DF1C), (0x1DFE6, 0x1DFE6, 0x293), (0x1DFE7, 0x1DFE7, 0x1D9A),
  (0x1DFE8, 0x1DFE8, 0x1D05), (0x1DFE9, 0x1DFE9, 0x1D00), (0x1DFEA, 0x1DFEA, 0x1D07),
  (0x1DFEB, 0x1DFEB, 0x27F), (0x1DFEC, 0x1DFEC, 0x285), (0x1DFED, 0x1DFEE, 0x2AE),
  (0x1DFEF, 0x1DFEF, 0x221), (0x1DFF0, 0x1DFF2, 0x234), (0x1DFF3, 0x1DFF4, 0x3C8),
  (0x1DFF5, 0x1DFF5, 0x1D81), (0x1DFF6, 0x1DFF6, 0xA795), (0x1DFF7, 0x1DFF7, 0x1D87),
  (0x1DFF8, 0x1DFF8, 0x1D8A), (0x1DFF9, 0x1DFF9, 0x1D8E), (0x1DFFA, 0x1DFFA, 0x188),
  (0x1DFFB, 0x1DFFB, 0x199), (0x1DFFC, 0x1DFFC, 0x1A5), (0x1DFFD, 0x1DFFD, 0x2A0),
  (0x1DFFE, 0x1DFFE, 0x1AD), (0x1DFFF, 0x1DFFF, 0x1DF09), (0x1E030, 0x1E038, 0x430),
  (0x1E039, 0x1E03B, 0x43A), (0x1E03C, 0x1E046, 0x43E), (0x1E047, 0x1E047, 0x44B),
  (0x1E048, 0x1E049, 0x44D), (0x1E04A, 0x1E04A, 0xA689), (0x1E04B, 0x1E04B, 0x4D9),
  (0x1E04C, 0x1E04C, 0x456), (0x1E04D, 0x1E04D, 0x458), (0x1E04E, 0x1E04E, 0x4E9),
  (0x1E04F, 0x1E04F, 0x4AF), (0x1E050, 0x1E050, 0x4CF), (0x1E051, 0x1E059, 0x430),
  (0x1E05A, 0x1E05B, 0x43A), (0x1E05C, 0x1E05D, 0x43E), (0x1E05E, 0x1E05E, 0x441),
  (0x1E05F, 0x1E064, 0x443), (0x1E065, 0x1E066, 0x44A), (0x1E067, 0x1E067, 0x491),
  (0x1E068, 0x1E068, 0x456), (0x1E069, 0x1E069, 0x455), (0x1E06A, 0x1E06A, 0x45F),
  (0x1E06B, 0x1E06B, 0x4AB), (0x1E06C, 0x1E06C, 0xA651), (0x1E06D, 0x1E06D, 0x4B1),
  (0x1EE00, 0x1EE01, 0x627), (0x1EE02, 0x1EE02, 0x62C), (0x1EE03, 0x1EE03, 0x62F),
  (0x1EE05, 0x1EE05, 0x648), (0x1EE06, 0x1EE06, 0x632), (0x1EE07, 0x1EE07, 0x62D),
  (0x1EE08, 0x1EE08, 0x637), (0x1EE09, 0x1EE09, 0x64A), (0x1EE0A, 0x1EE0D, 0x643),
  (0x1EE0E, 0x1EE0E, 0x633), (0x1EE0F, 0x1EE0F, 0x639), (0x1EE10, 0x1EE10, 0x641),
  (0x1EE11, 0x1EE11, 0x635), (0x1EE12, 0x1EE12, 0x642), (0x1EE13, 0x1EE13, 0x631),
  (0x1EE14, 0x1EE14, 0x634), (0x1EE15, 0x1EE16, 0x62A), (0x1EE17, 0x1EE17, 0x62E),
  (0x1EE18, 0x1EE18, 0x630), (0x1EE19, 0x1EE19, 0x636), (0x1EE1A, 0x1EE1A, 0x638),
  (0x1EE1B, 0x1EE1B, 0x63A), (0x1EE1C, 0x1EE1C, 0x66E), (0x1EE1D, 0x1EE1D, 0x6BA),
  (0x1EE1E, 0x1EE1E, 0x6A1), (0x1EE1F, 0x1EE1F, 0x66F), (0x1EE21, 0x1EE21, 0x628),
  (0x1EE22, 0x1EE22, 0x62C), (0x1EE24, 0x1EE24, 0x647), (0x1EE27, 0x1EE27, 0x62D),
  (0x1EE29, 0x1EE29, 0x64A), (0x1EE2A, 0x1EE2D, 0x643), (0x1EE2E, 0x1EE2E, 0x633),
  (0x1EE2F, 0x1EE2F, 0x639), (0x1EE30, 0x1EE30, 0x641), (0x1EE31, 0x1EE31, 0x635),
  (0x1EE32, 0x1EE32, 0x642), (0x1EE34, 0x1EE34, 0x634), (0x1EE35, 0x1EE36, 0x62A),
  (0x1EE37, 0x1EE37, 0x62E), (0x1EE39, 0x1EE39, 0x636), (0x1EE3B, 0x1EE3B, 0x63A),
  (0x1EE42, 0x1EE42, 0x62C), (0x1EE47, 0x1EE47, 0x62D), (0x1EE49, 0x1EE49, 0x64A),
  (0x1EE4B, 0x1EE4B, 0x644), (0x1EE4D, 0x1EE4D, 0x646), (0x1EE4E, 0x1EE4E, 0x633),
  (0x1EE4F, 0x1EE4F, 0x639), (0x1EE51, 0x1EE51, 0x635), (0x1EE52, 0x1EE52, 0x642),
  (0x1EE54, 0x1EE54, 0x634), (0x1EE57, 0x1EE57, 0x62E), (0x1EE59, 0x1EE59, 0x636),
  (0x1EE5B, 0x1EE5B, 0x63A), (0x1EE5D, 0x1EE5D, 0x6BA), (0x1EE5F, 0x1EE5F, 0x66F),
  (0x1EE61, 0x1EE61, 0x628), (0x1EE62, 0x1EE62, 0x62C), (0x1EE64, 0x1EE64, 0x647),
  (0x1EE67, 0x1EE67, 0x62D), (0x1EE68, 0x1EE68, 0x637), (0x1EE69, 0x1EE69, 0x64A),
  (0x1EE6A, 0x1EE6A, 0x643), (0x1EE6C, 0x1EE6D, 0x645), (0x1EE6E, 0x1EE6E, 0x633),
  (0x1EE6F, 0x1EE6F, 0x639), (0x1EE70, 0x1EE70, 0x641), (0x1EE71, 0x1EE71, 0x635),
  (0x1EE72, 0x1EE72, 0x642), (0x1EE74, 0x1EE74, 0x634), (0x1EE75, 0x1EE76, 0x62A),
  (0x1EE77, 0x1EE77, 0x62E), (0x1EE79, 0x1EE79, 0x636), (0x1EE7A, 0x1EE7A, 0x638),
  (0x1EE7B, 0x1EE7B, 0x63A), (0x1EE7C, 0x1EE7C, 0x66E), (0x1EE7E, 0x1EE7E, 0x6A1),
  (0x1EE80, 0x1EE81, 0x627), (0x1EE82, 0x1EE82, 0x62C), (0x1EE83, 0x1EE83, 0x62F),
  (0x1EE84, 0x1EE85, 0x647), (0x1EE86, 0x1EE86, 0x632), (0x1EE87, 0x1EE87, 0x62D),
  (0x1EE88, 0x1EE88, 0x637), (0x1EE89, 0x1EE89, 0x64A), (0x1EE8B, 0x1EE8D, 0x644),
  (0x1EE8E, 0x1EE8E, 0x633), (0x1EE8F, 0x1EE8F, 0x639), (0x1EE90, 0x1EE90, 0x641),
  (0x1EE91, 0x1EE91, 0x635), (0x1EE92, 0x1EE92, 0x642), (0x1EE93, 0x1EE93, 0x631),
  (0x1EE94, 0x1EE94, 0x634), (0x1EE95, 0x1EE96, 0x62A), (0x1EE97, 0x1EE97, 0x62E),
  (0x1EE98, 0x1EE98, 0x630), (0x1EE99, 0x1EE99, 0x636), (0x1EE9A, 0x1EE9A, 0x638),
  (0x1EE9B, 0x1EE9B, 0x63A), (0x1EEA1, 0x1EEA1, 0x628), (0x1EEA2, 0x1EEA2, 0x62C),
  (0x1EEA3, 0x1EEA3, 0x62F), (0x1EEA5, 0x1EEA5, 0x648), (0x1EEA6, 0x1EEA6, 0x632),
  (0x1EEA7, 0x1EEA7, 0x62D), (0x1EEA8, 0x1EEA8, 0x637), (0x1EEA9, 0x1EEA9, 0x64A),
  (0x1EEAB, 0x1EEAD, 0x644), (0x1EEAE, 0x1EEAE, 0x633), (0x1EEAF, 0x1EEAF, 0x639),
  (0x1EEB0, 0x1EEB0, 0x641), (0x1EEB1, 0x1EEB1, 0x635), (0x1EEB2, 0x1EEB2, 0x642),
  (0x1EEB3, 0x1EEB3, 0x631), (0x1EEB4, 0x1EEB4, 0x634), (0x1EEB5, 0x1EEB6, 0x62A),
  (0x1EEB7, 0x1EEB7, 0x62E), (0x1EEB8, 0x1EEB8, 0x630), (0x1EEB9, 0x1EEB9, 0x636),
  (0x1EEBA, 0x1EEBA, 0x638), (0x1EEBB, 0x1EEBB, 0x63A), (0x1F12B, 0x1F12B, 0x43),
  (0x1F12C, 0x1F12C, 0x52), (0x1F130, 0x1F149, 0x41), (0x1F202, 0x1F202, 0x30B5),
  (0x1F210, 0x1F210, 0x624B), (0x1F211, 0x1F211, 0x5B57), (0x1F212, 0x1F212, 0x53CC),
  (0x1F214, 0x1F214, 0x4E8C), (0x1F215, 0x1F215, 0x591A), (0x1F216, 0x1F216, 0x89E3),
  (0x1F217, 0x1F217, 0x5929), (0x1F218, 0x1F218, 0x4EA4), (0x1F219, 0x1F219, 0x6620),
  (0x1F21A, 0x1F21A, 0x7121), (0x1F21B, 0x1F21B, 0x6599), (0x1F21C, 0x1F21C, 0x524D),
  (0x1F21D, 0x1F21D, 0x5F8C), (0x1F21E, 0x1F21E, 0x518D), (0x1F21F, 0x1F21F, 0x65B0),
  (0x1F220, 0x1F220, 0x521D), (0x1F221, 0x1F221, 0x7D42), (0x1F222, 0x1F222, 0x751F),
  (0x1F223, 0x1F223, 0x8CA9), (0x1F224, 0x1F224, 0x58F0), (0x1F225, 0x1F225, 0x5439),
  (0x1F226, 0x1F226, 0x6F14), (0x1F227, 0x1F227, 0x6295), (0x1F228, 0x1F228, 0x6355),
  (0x1F229, 0x1F229, 0x4E00), (0x1F22A, 0x1F22A, 0x4E09), (0x1F22B, 0x1F22B, 0x904A),
  (0x1F22C, 0x1F22C, 0x5DE6), (0x1F22D, 0x1F22D, 0x4E2D), (0x1F22E, 0x1F22E, 0x53F3),
  (0x1F22F, 0x1F22F, 0x6307), (0x1F230, 0x1F230, 0x8D70), (0x1F231, 0x1F231, 0x6253),
  (0x1F232, 0x1F232, 0x7981), (0x1F233, 0x1F233, 0x7A7A), (0x1F234, 0x1F234, 0x5408),
  (0x1F235, 0x1F235, 0x6E80), (0x1F236, 0x1F236, 0x6709), (0x1F237, 0x1F237, 0x6708),
  (0x1F238, 0x1F238, 0x7533), (0x1F239, 0x1F239, 0x5272), (0x1F23A, 0x1F23A, 0x55B6),
  (0x1F23B, 0x1F23B, 0x914D), (0x1F250, 0x1F250, 0x5F97), (0x1F251, 0x1F251, 0x53EF),
  (0x1FBF0, 0x1FBF9, 0x30), (0x2F800, 0x2F800, 0x4E3D), (0x2F801, 0x2F801, 0x4E38),
  (0x2F802, 0x2F802, 0x4E41), (0x2F803, 0x2F803, 0x20122), (0x2F804, 0x2F804, 0x4F60),
  (0x2F805, 0x2F805, 0x4FAE), (0x2F806, 0x2F806, 0x4FBB), (0x2F807, 0x2F807, 0x5002),
  (0x2F808, 0x2F808, 0x507A), (0x2F809, 0x2F809, 0x5099), (0x2F80A, 0x2F80A, 0x50E7),
  (0x2F80B, 0x2F80B, 0x50CF), (0x2F80C, 0x2F80C, 0x349E), (0x2F80D, 0x2F80D, 0x2063A),
  (0x2F80E, 0x2F80E, 0x514D), (0x2F80F, 0x2F80F, 0x5154), (0x2F810, 0x2F810, 0x5164),
  (0x2F811, 0x2F811, 0x5177), (0x2F812, 0x2F812, 0x2051C), (0x2F813, 0x2F813, 0x34B9),
  (0x2F814, 0x2F814, 0x5167), (0x2F815, 0x2F815, 0x518D), (0x2F816, 0x2F816, 0x2054B),
  (0x2F817, 0x2F817, 0x5197), (0x2F818, 0x2F818, 0x51A4), (0x2F819, 0x2F819, 0x4ECC),
  (0x2F81A, 0x2F81A, 0x51AC), (0x2F81B, 0x2F81B, 0x51B5), (0x2F81C, 0x2F81C, 0x291DF),
  (0x2F81D, 0x2F81D, 0x51F5), (0x2F81E, 0x2F81E, 0x5203), (0x2F81F, 0x2F81F, 0x34DF),
  (0x2F820, 0x2F820, 0x523B), (0x2F821, 0x2F821, 0x5246), (0x2F822, 0x2F822, 0x5272)]

/-- The fifth part of the mappings: first and last character, and the image of the first. -/
def singleMappingsFifth : List (Nat × Nat × Nat) := [
  (0x2F823, 0x2F823, 0x5277), (0x2F824, 0x2F824, 0x3515), (0x2F825, 0x2F825, 0x52C7),
  (0x2F826, 0x2F826, 0x52C9), (0x2F827, 0x2F827, 0x52E4), (0x2F828, 0x2F828, 0x52FA),
  (0x2F829, 0x2F82A, 0x5305), (0x2F82B, 0x2F82B, 0x5317), (0x2F82C, 0x2F82C, 0x5349),
  (0x2F82D, 0x2F82D, 0x5351), (0x2F82E, 0x2F82E, 0x535A), (0x2F82F, 0x2F82F, 0x5373),
  (0x2F830, 0x2F830, 0x537D), (0x2F831, 0x2F831, 0x537F), (0x2F832, 0x2F832, 0x537F),
  (0x2F833, 0x2F833, 0x537F), (0x2F834, 0x2F834, 0x20A2C), (0x2F835, 0x2F835, 0x7070),
  (0x2F836, 0x2F836, 0x53CA), (0x2F837, 0x2F837, 0x53DF), (0x2F838, 0x2F838, 0x20B63),
  (0x2F839, 0x2F839, 0x53EB), (0x2F83A, 0x2F83A, 0x53F1), (0x2F83B, 0x2F83B, 0x5406),
  (0x2F83C, 0x2F83C, 0x549E), (0x2F83D, 0x2F83D, 0x5438), (0x2F83E, 0x2F83E, 0x5448),
  (0x2F83F, 0x2F83F, 0x5468), (0x2F840, 0x2F840, 0x54A2), (0x2F841, 0x2F841, 0x54F6),
  (0x2F842, 0x2F842, 0x5510), (0x2F843, 0x2F843, 0x5553), (0x2F844, 0x2F844, 0x5563),
  (0x2F845, 0x2F845, 0x5584), (0x2F846, 0x2F846, 0x5584), (0x2F847, 0x2F847, 0x5599),
  (0x2F848, 0x2F848, 0x55AB), (0x2F849, 0x2F849, 0x55B3), (0x2F84A, 0x2F84A, 0x55C2),
  (0x2F84B, 0x2F84B, 0x5716), (0x2F84C, 0x2F84C, 0x5606), (0x2F84D, 0x2F84D, 0x5717),
  (0x2F84E, 0x2F84E, 0x5651), (0x2F84F, 0x2F84F, 0x5674), (0x2F850, 0x2F850, 0x5207),
  (0x2F851, 0x2F851, 0x58EE), (0x2F852, 0x2F852, 0x57CE), (0x2F853, 0x2F853, 0x57F4),
  (0x2F854, 0x2F854, 0x580D), (0x2F855, 0x2F855, 0x578B), (0x2F856, 0x2F856, 0x5832),
  (0x2F857, 0x2F857, 0x5831), (0x2F858, 0x2F858, 0x58AC), (0x2F859, 0x2F859, 0x214E4),
  (0x2F85A, 0x2F85A, 0x58F2), (0x2F85B, 0x2F85B, 0x58F7), (0x2F85C, 0x2F85C, 0x5906),
  (0x2F85D, 0x2F85D, 0x591A), (0x2F85E, 0x2F85E, 0x5922), (0x2F85F, 0x2F85F, 0x5962),
  (0x2F860, 0x2F860, 0x216A8), (0x2F861, 0x2F861, 0x216EA), (0x2F862, 0x2F862, 0x59EC),
  (0x2F863, 0x2F863, 0x5A1B), (0x2F864, 0x2F864, 0x5A27), (0x2F865, 0x2F865, 0x59D8),
  (0x2F866, 0x2F866, 0x5A66), (0x2F867, 0x2F867, 0x36EE), (0x2F868, 0x2F868, 0x36FC),
  (0x2F869, 0x2F869, 0x5B08), (0x2F86A, 0x2F86A, 0x5B3E), (0x2F86B, 0x2F86B, 0x5B3E),
  (0x2F86C, 0x2F86C, 0x219C8), (0x2F86D, 0x2F86D, 0x5BC3), (0x2F86E, 0x2F86E, 0x5BD8),
  (0x2F86F, 0x2F86F, 0x5BE7), (0x2F870, 0x2F870, 0x5BF3), (0x2F871, 0x2F871, 0x21B18),
  (0x2F872, 0x2F872, 0x5BFF), (0x2F873, 0x2F873, 0x5C06), (0x2F874, 0x2F874, 0x5F53),
  (0x2F875, 0x2F875, 0x5C22), (0x2F876, 0x2F876, 0x3781), (0x2F877, 0x2F877, 0x5C60),
  (0x2F878, 0x2F878, 0x5C6E), (0x2F879, 0x2F879, 0x5CC0), (0x2F87A, 0x2F87A, 0x5C8D),
  (0x2F87B, 0x2F87B, 0x21DE4), (0x2F87C, 0x2F87C, 0x5D43), (0x2F87D, 0x2F87D, 0x21DE6),
  (0x2F87E, 0x2F87E, 0x5D6E), (0x2F87F, 0x2F87F, 0x5D6B), (0x2F880, 0x2F880, 0x5D7C),
  (0x2F881, 0x2F882, 0x5DE1), (0x2F883, 0x2F883, 0x382F), (0x2F884, 0x2F884, 0x5DFD),
  (0x2F885, 0x2F885, 0x5E28), (0x2F886, 0x2F886, 0x5E3D), (0x2F887, 0x2F887, 0x5E69),
  (0x2F888, 0x2F888, 0x3862), (0x2F889, 0x2F889, 0x22183), (0x2F88A, 0x2F88A, 0x387C),
  (0x2F88B, 0x2F88B, 0x5EB0), (0x2F88C, 0x2F88C, 0x5EB3), (0x2F88D, 0x2F88D, 0x5EB6),
  (0x2F88E, 0x2F88E, 0x5ECA), (0x2F88F, 0x2F88F, 0x2A392), (0x2F890, 0x2F890, 0x5EFE),
  (0x2F891, 0x2F891, 0x22331), (0x2F892, 0x2F892, 0x22331), (0x2F893, 0x2F893, 0x8201),
  (0x2F894, 0x2F894, 0x5F22), (0x2F895, 0x2F895, 0x5F22), (0x2F896, 0x2F896, 0x38C7),
  (0x2F897, 0x2F897, 0x232B8), (0x2F898, 0x2F898, 0x261DA), (0x2F899, 0x2F899, 0x5F62),
  (0x2F89A, 0x2F89A, 0x5F6B), (0x2F89B, 0x2F89B, 0x38E3), (0x2F89C, 0x2F89C, 0x5F9A),
  (0x2F89D, 0x2F89D, 0x5FCD), (0x2F89E, 0x2F89E, 0x5FD7), (0x2F89F, 0x2F89F, 0x5FF9),
  (0x2F8A0, 0x2F8A0, 0x6081), (0x2F8A1, 0x2F8A1, 0x393A), (0x2F8A2, 0x2F8A2, 0x391C),
  (0x2F8A3, 0x2F8A3, 0x6094), (0x2F8A4, 0x2F8A4, 0x226D4), (0x2F8A5, 0x2F8A5, 0x60C7),
  (0x2F8A6, 0x2F8A6, 0x6148), (0x2F8A7, 0x2F8A7, 0x614C), (0x2F8A8, 0x2F8A8, 0x614E),
  (0x2F8A9, 0x2F8A9, 0x614C), (0x2F8AA, 0x2F8AA, 0x617A), (0x2F8AB, 0x2F8AB, 0x618E),
  (0x2F8AC, 0x2F8AC, 0x61B2), (0x2F8AD, 0x2F8AD, 0x61A4), (0x2F8AE, 0x2F8AE, 0x61AF),
  (0x2F8AF, 0x2F8AF, 0x61DE), (0x2F8B0, 0x2F8B0, 0x61F2), (0x2F8B1, 0x2F8B1, 0x61F6),
  (0x2F8B2, 0x2F8B2, 0x6210), (0x2F8B3, 0x2F8B3, 0x621B), (0x2F8B4, 0x2F8B4, 0x625D),
  (0x2F8B5, 0x2F8B5, 0x62B1), (0x2F8B6, 0x2F8B6, 0x62D4), (0x2F8B7, 0x2F8B7, 0x6350),
  (0x2F8B8, 0x2F8B8, 0x22B0C), (0x2F8B9, 0x2F8B9, 0x633D), (0x2F8BA, 0x2F8BA, 0x62FC),
  (0x2F8BB, 0x2F8BB, 0x6368), (0x2F8BC, 0x2F8BC, 0x6383), (0x2F8BD, 0x2F8BD, 0x63E4),
  (0x2F8BE, 0x2F8BE, 0x22BF1), (0x2F8BF, 0x2F8BF, 0x6422), (0x2F8C0, 0x2F8C0, 0x63C5),
  (0x2F8C1, 0x2F8C1, 0x63A9), (0x2F8C2, 0x2F8C2, 0x3A2E), (0x2F8C3, 0x2F8C3, 0x6469),
  (0x2F8C4, 0x2F8C4, 0x647E), (0x2F8C5, 0x2F8C5, 0x649D), (0x2F8C6, 0x2F8C6, 0x6477),
  (0x2F8C7, 0x2F8C7, 0x3A6C), (0x2F8C8, 0x2F8C8, 0x654F), (0x2F8C9, 0x2F8C9, 0x656C),
  (0x2F8CA, 0x2F8CA, 0x2300A), (0x2F8CB, 0x2F8CB, 0x65E3), (0x2F8CC, 0x2F8CC, 0x66F8),
  (0x2F8CD, 0x2F8CD, 0x6649), (0x2F8CE, 0x2F8CE, 0x3B19), (0x2F8CF, 0x2F8CF, 0x6691),
  (0x2F8D0, 0x2F8D0, 0x3B08), (0x2F8D1, 0x2F8D1, 0x3AE4), (0x2F8D2, 0x2F8D2, 0x5192),
  (0x2F8D3, 0x2F8D3, 0x5195), (0x2F8D4, 0x2F8D4, 0x6700), (0x2F8D5, 0x2F8D5, 0x669C),
  (0x2F8D6, 0x2F8D6, 0x80AD), (0x2F8D7, 0x2F8D7, 0x43D9), (0x2F8D8, 0x2F8D8, 0x6717),
  (0x2F8D9, 0x2F8D9, 0x671B), (0x2F8DA, 0x2F8DA, 0x6721), (0x2F8DB, 0x2F8DB, 0x675E),
  (0x2F8DC, 0x2F8DC, 0x6753), (0x2F8DD, 0x2F8DD, 0x233C3), (0x2F8DE, 0x2F8DE, 0x3B49),
  (0x2F8DF, 0x2F8DF, 0x67FA), (0x2F8E0, 0x2F8E0, 0x6785), (0x2F8E1, 0x2F8E1, 0x6852),
  (0x2F8E2, 0x2F8E2, 0x6885), (0x2F8E3, 0x2F8E3, 0x2346D), (0x2F8E4, 0x2F8E4, 0x688E),
  (0x2F8E5, 0x2F8E5, 0x681F), (0x2F8E6, 0x2F8E6, 0x6914), (0x2F8E7, 0x2F8E7, 0x3B9D),
  (0x2F8E8, 0x2F8E8, 0x6942), (0x2F8E9, 0x2F8E9, 0x69A3), (0x2F8EA, 0x2F8EA, 0x69EA),
  (0x2F8EB, 0x2F8EB, 0x6AA8), (0x2F8EC, 0x2F8EC, 0x236A3), (0x2F8ED, 0x2F8ED, 0x6ADB),
  (0x2F8EE, 0x2F8EE, 0x3C18), (0x2F8EF, 0x2F8EF, 0x6B21), (0x2F8F0, 0x2F8F0, 0x238A7),
  (0x2F8F1, 0x2F8F1, 0x6B54), (0x2F8F2, 0x2F8F2, 0x3C4E), (0x2F8F3, 0x2F8F3, 0x6B72),
  (0x2F8F4, 0x2F8F4, 0x6B9F), (0x2F8F5, 0x2F8F6, 0x6BBA), (0x2F8F7, 0x2F8F7, 0x23A8D),
  (0x2F8F8, 0x2F8F8, 0x21D0B), (0x2F8F9, 0x2F8F9, 0x23AFA), (0x2F8FA, 0x2F8FA, 0x6C4E),
  (0x2F8FB, 0x2F8FB, 0x23CBC), (0x2F8FC, 0x2F8FC, 0x6CBF), (0x2F8FD, 0x2F8FD, 0x6CCD),
  (0x2F8FE, 0x2F8FE, 0x6C67), (0x2F8FF, 0x2F8FF, 0x6D16), (0x2F900, 0x2F900, 0x6D3E),
  (0x2F901, 0x2F901, 0x6D77), (0x2F902, 0x2F902, 0x6D41), (0x2F903, 0x2F903, 0x6D69),
  (0x2F904, 0x2F904, 0x6D78), (0x2F905, 0x2F905, 0x6D85), (0x2F906, 0x2F906, 0x23D1E),
  (0x2F907, 0x2F907, 0x6D34), (0x2F908, 0x2F908, 0x6E2F), (0x2F909, 0x2F909, 0x6E6E),
  (0x2F90A, 0x2F90A, 0x3D33), (0x2F90B, 0x2F90B, 0x6ECB), (0x2F90C, 0x2F90C, 0x6EC7),
  (0x2F90D, 0x2F90D, 0x23ED1), (0x2F90E, 0x2F90E, 0x6DF9), (0x2F90F, 0x2F90F, 0x6F6E),
  (0x2F910, 0x2F910, 0x23F5E), (0x2F911, 0x2F911, 0x23F8E), (0x2F912, 0x2F912, 0x6FC6),
  (0x2F913, 0x2F913, 0x7039), (0x2F914, 0x2F914, 0x701E), (0x2F915, 0x2F915, 0x701B),
  (0x2F916, 0x2F916, 0x3D96), (0x2F917, 0x2F917, 0x704A), (0x2F918, 0x2F918, 0x707D),
  (0x2F919, 0x2F919, 0x7077), (0x2F91A, 0x2F91A, 0x70AD), (0x2F91B, 0x2F91B, 0x20525),
  (0x2F91C, 0x2F91C, 0x7145), (0x2F91D, 0x2F91D, 0x24263), (0x2F91E, 0x2F91E, 0x719C),
  (0x2F91F, 0x2F91F, 0x243AB), (0x2F920, 0x2F920, 0x7228), (0x2F921, 0x2F921, 0x7235),
  (0x2F922, 0x2F922, 0x7250), (0x2F923, 0x2F923, 0x24608), (0x2F924, 0x2F924, 0x7280),
  (0x2F925, 0x2F925, 0x7295), (0x2F926, 0x2F926, 0x24735), (0x2F927, 0x2F927, 0x24814),
  (0x2F928, 0x2F928, 0x737A), (0x2F929, 0x2F929, 0x738B), (0x2F92A, 0x2F92A, 0x3EAC),
  (0x2F92B, 0x2F92B, 0x73A5), (0x2F92C, 0x2F92C, 0x3EB8), (0x2F92D, 0x2F92D, 0x3EB8),
  (0x2F92E, 0x2F92E, 0x7447), (0x2F92F, 0x2F92F, 0x745C), (0x2F930, 0x2F930, 0x7471),
  (0x2F931, 0x2F931, 0x7485), (0x2F932, 0x2F932, 0x74CA), (0x2F933, 0x2F933, 0x3F1B),
  (0x2F934, 0x2F934, 0x7524), (0x2F935, 0x2F935, 0x24C36), (0x2F936, 0x2F936, 0x753E),
  (0x2F937, 0x2F937, 0x24C92), (0x2F938, 0x2F938, 0x7570), (0x2F939, 0x2F939, 0x2219F),
  (0x2F93A, 0x2F93A, 0x7610), (0x2F93B, 0x2F93B, 0x24FA1), (0x2F93C, 0x2F93C, 0x24FB8),
  (0x2F93D, 0x2F93D, 0x25044), (0x2F93E, 0x2F93E, 0x3FFC), (0x2F93F, 0x2F93F, 0x4008),
  (0x2F940, 0x2F940, 0x76F4), (0x2F941, 0x2F941, 0x250F3), (0x2F942, 0x2F942, 0x250F2),
  (0x2F943, 0x2F943, 0x25119), (0x2F944, 0x2F944, 0x25133), (0x2F945, 0x2F946, 0x771E),
  (0x2F947, 0x2F947, 0x771F), (0x2F948, 0x2F948, 0x774A), (0x2F949, 0x2F949, 0x4039),
  (0x2F94A, 0x2F94A, 0x778B), (0x2F94B, 0x2F94B, 0x4046), (0x2F94C, 0x2F94C, 0x4096),
  (0x2F94D, 0x2F94D, 0x2541D), (0x2F94E, 0x2F94E, 0x784E), (0x2F94F, 0x2F94F, 0x788C),
  (0x2F950, 0x2F950, 0x78CC), (0x2F951, 0x2F951, 0x40E3), (0x2F952, 0x2F952, 0x25626),
  (0x2F953, 0x2F953, 0x7956), (0x2F954, 0x2F954, 0x2569A), (0x2F955, 0x2F955, 0x256C5),
  (0x2F956, 0x2F956, 0x798F), (0x2F957, 0x2F957, 0x79EB), (0x2F958, 0x2F958, 0x412F),
  (0x2F959, 0x2F959, 0x7A40), (0x2F95A, 0x2F95A, 0x7A4A), (0x2F95B, 0x2F95B, 0x7A4F),
  (0x2F95C, 0x2F95C, 0x2597C), (0x2F95D, 0x2F95D, 0x25AA7), (0x2F95E, 0x2F95E, 0x25AA7),
  (0x2F95F, 0x2F95F, 0x7AEE), (0x2F960, 0x2F960, 0x4202), (0x2F961, 0x2F961, 0x25BAB),
  (0x2F962, 0x2F962, 0x7BC6), (0x2F963, 0x2F963, 0x7BC9), (0x2F964, 0x2F964, 0x4227),
  (0x2F965, 0x2F965, 0x25C80), (0x2F966, 0x2F966, 0x7CD2), (0x2F967, 0x2F967, 0x42A0),
  (0x2F968, 0x2F968, 0x7CE8), (0x2F969, 0x2F969, 0x7CE3), (0x2F96A, 0x2F96A, 0x7D00),
  (0x2F96B, 0x2F96B, 0x25F86), (0x2F96C, 0x2F96C, 0x7D63), (0x2F96D, 0x2F96D, 0x4301),
  (0x2F96E, 0x2F96E, 0x7DC7), (0x2F96F, 0x2F96F, 0x7E02), (0x2F970, 0x2F970, 0x7E45),
  (0x2F971, 0x2F971, 0x4334), (0x2F972, 0x2F972, 0x26228), (0x2F973, 0x2F973, 0x26247),
  (0x2F974, 0x2F974, 0x4359), (0x2F975, 0x2F975, 0x262D9), (0x2F976, 0x2F976, 0x7F7A),
  (0x2F977, 0x2F977, 0x2633E), (0x2F978, 0x2F978, 0x7F95), (0x2F979, 0x2F979, 0x7FFA),
  (0x2F97A, 0x2F97A, 0x8005), (0x2F97B, 0x2F97B, 0x264DA), (0x2F97C, 0x2F97C, 0x26523),
  (0x2F97D, 0x2F97D, 0x8060), (0x2F97E, 0x2F97E, 0x265A8), (0x2F97F, 0x2F97F, 0x8070),
  (0x2F980, 0x2F980, 0x2335F), (0x2F981, 0x2F981, 0x43D5), (0x2F982, 0x2F982, 0x80B2),
  (0x2F983, 0x2F983, 0x8103), (0x2F984, 0x2F984, 0x440B), (0x2F985, 0x2F985, 0x813E),
  (0x2F986, 0x2F986, 0x5AB5), (0x2F987, 0x2F987, 0x267A7), (0x2F988, 0x2F988, 0x267B5),
  (0x2F989, 0x2F989, 0x23393), (0x2F98A, 0x2F98A, 0x2339C), (0x2F98B, 0x2F98B, 0x8201),
  (0x2F98C, 0x2F98C, 0x8204), (0x2F98D, 0x2F98D, 0x8F9E), (0x2F98E, 0x2F98E, 0x446B),
  (0x2F98F, 0x2F98F, 0x8291), (0x2F990, 0x2F990, 0x828B), (0x2F991, 0x2F991, 0x829D),
  (0x2F992, 0x2F992, 0x52B3), (0x2F993, 0x2F993, 0x82B1), (0x2F994, 0x2F994, 0x82B3),
  (0x2F995, 0x2F995, 0x82BD), (0x2F996, 0x2F996, 0x82E6), (0x2F997, 0x2F997, 0x26B3C),
  (0x2F998, 0x2F998, 0x82E5), (0x2F999, 0x2F999, 0x831D), (0x2F99A, 0x2F99A, 0x8363),
  (0x2F99B, 0x2F99B, 0x83AD), (0x2F99C, 0x2F99C, 0x8323), (0x2F99D, 0x2F99D, 0x83BD),
  (0x2F99E, 0x2F99E, 0x83E7), (0x2F99F, 0x2F99F, 0x8457), (0x2F9A0, 0x2F9A0, 0x8353),
  (0x2F9A1, 0x2F9A1, 0x83CA), (0x2F9A2, 0x2F9A2, 0x83CC), (0x2F9A3, 0x2F9A3, 0x83DC),
  (0x2F9A4, 0x2F9A4, 0x26C36), (0x2F9A5, 0x2F9A5, 0x26D6B), (0x2F9A6, 0x2F9A6, 0x26CD5),
  (0x2F9A7, 0x2F9A7, 0x452B), (0x2F9A8, 0x2F9A8, 0x84F1), (0x2F9A9, 0x2F9A9, 0x84F3),
  (0x2F9AA, 0x2F9AA, 0x8516), (0x2F9AB, 0x2F9AB, 0x273CA), (0x2F9AC, 0x2F9AC, 0x8564),
  (0x2F9AD, 0x2F9AD, 0x26F2C), (0x2F9AE, 0x2F9AE, 0x455D), (0x2F9AF, 0x2F9AF, 0x4561),
  (0x2F9B0, 0x2F9B0, 0x26FB1), (0x2F9B1, 0x2F9B1, 0x270D2), (0x2F9B2, 0x2F9B2, 0x456B),
  (0x2F9B3, 0x2F9B3, 0x8650), (0x2F9B4, 0x2F9B4, 0x865C), (0x2F9B5, 0x2F9B5, 0x8667),
  (0x2F9B6, 0x2F9B6, 0x8669), (0x2F9B7, 0x2F9B7, 0x86A9), (0x2F9B8, 0x2F9B8, 0x8688),
  (0x2F9B9, 0x2F9B9, 0x870E), (0x2F9BA, 0x2F9BA, 0x86E2), (0x2F9BB, 0x2F9BB, 0x8779),
  (0x2F9BC, 0x2F9BC, 0x8728), (0x2F9BD, 0x2F9BD, 0x876B), (0x2F9BE, 0x2F9BE, 0x8786),
  (0x2F9BF, 0x2F9BF, 0x45D7), (0x2F9C0, 0x2F9C0, 0x87E1), (0x2F9C1, 0x2F9C1, 0x8801),
  (0x2F9C2, 0x2F9C2, 0x45F9), (0x2F9C3, 0x2F9C3, 0x8860), (0x2F9C4, 0x2F9C4, 0x8863),
  (0x2F9C5, 0x2F9C5, 0x27667), (0x2F9C6, 0x2F9C6, 0x88D7), (0x2F9C7, 0x2F9C7, 0x88DE),
  (0x2F9C8, 0x2F9C8, 0x4635), (0x2F9C9, 0x2F9C9, 0x88FA), (0x2F9CA, 0x2F9CA, 0x34BB),
  (0x2F9CB, 0x2F9CB, 0x278AE), (0x2F9CC, 0x2F9CC, 0x27966), (0x2F9CD, 0x2F9CD, 0x46BE),
  (0x2F9CE, 0x2F9CE, 0x46C7), (0x2F9CF, 0x2F9CF, 0x8AA0), (0x2F9D0, 0x2F9D0, 0x8AED),
  (0x2F9D1, 0x2F9D1, 0x8B8A), (0x2F9D2, 0x2F9D2, 0x8C55), (0x2F9D3, 0x2F9D3, 0x27CA8),
  (0x2F9D4, 0x2F9D4, 0x8CAB), (0x2F9D5, 0x2F9D5, 0x8CC1), (0x2F9D6, 0x2F9D6, 0x8D1B),
  (0x2F9D7, 0x2F9D7, 0x8D77), (0x2F9D8, 0x2F9D8, 0x27F2F), (0x2F9D9, 0x2F9D9, 0x20804),
  (0x2F9DA, 0x2F9DA, 0x8DCB), (0x2F9DB, 0x2F9DB, 0x8DBC), (0x2F9DC, 0x2F9DC, 0x8DF0),
  (0x2F9DD, 0x2F9DD, 0x208DE), (0x2F9DE, 0x2F9DE, 0x8ED4), (0x2F9DF, 0x2F9DF, 0x8F38),
  (0x2F9E0, 0x2F9E0, 0x285D2), (0x2F9E1, 0x2F9E1, 0x285ED), (0x2F9E2, 0x2F9E2, 0x9094),
  (0x2F9E3, 0x2F9E3, 0x90F1), (0x2F9E4, 0x2F9E4, 0x9111), (0x2F9E5, 0x2F9E5, 0x2872E),
  (0x2F9E6, 0x2F9E6, 0x911B), (0x2F9E7, 0x2F9E7, 0x9238), (0x2F9E8, 0x2F9E9, 0x92D7)]

/-- The sixth part of the mappings: first and last character, and the image of the first. -/
def singleMappingsSixth : List (Nat × Nat × Nat) := [
  (0x2F9EA, 0x2F9EA, 0x927C), (0x2F9EB, 0x2F9EB, 0x93F9), (0x2F9EC, 0x2F9EC, 0x9415),
  (0x2F9ED, 0x2F9ED, 0x28BFA), (0x2F9EE, 0x2F9EE, 0x958B), (0x2F9EF, 0x2F9EF, 0x4995),
  (0x2F9F0, 0x2F9F0, 0x95B7), (0x2F9F1, 0x2F9F1, 0x28D77), (0x2F9F2, 0x2F9F2, 0x49E6),
  (0x2F9F3, 0x2F9F3, 0x96C3), (0x2F9F4, 0x2F9F4, 0x5DB2), (0x2F9F5, 0x2F9F5, 0x9723),
  (0x2F9F6, 0x2F9F6, 0x29145), (0x2F9F7, 0x2F9F7, 0x2921A), (0x2F9F8, 0x2F9F8, 0x4A6E),
  (0x2F9F9, 0x2F9F9, 0x4A76), (0x2F9FA, 0x2F9FA, 0x97E0), (0x2F9FB, 0x2F9FB, 0x2940A),
  (0x2F9FC, 0x2F9FC, 0x4AB2), (0x2F9FD, 0x2F9FD, 0x29496), (0x2F9FE, 0x2F9FE, 0x980B),
  (0x2F9FF, 0x2F9FF, 0x980B), (0x2FA00, 0x2FA00, 0x9829), (0x2FA01, 0x2FA01, 0x295B6),
  (0x2FA02, 0x2FA02, 0x98E2), (0x2FA03, 0x2FA03, 0x4B33), (0x2FA04, 0x2FA04, 0x9929),
  (0x2FA05, 0x2FA05, 0x99A7), (0x2FA06, 0x2FA06, 0x99C2), (0x2FA07, 0x2FA07, 0x99FE),
  (0x2FA08, 0x2FA08, 0x4BCE), (0x2FA09, 0x2FA09, 0x29B30), (0x2FA0A, 0x2FA0A, 0x9B12),
  (0x2FA0B, 0x2FA0B, 0x9C40), (0x2FA0C, 0x2FA0C, 0x9CFD), (0x2FA0D, 0x2FA0D, 0x4CCE),
  (0x2FA0E, 0x2FA0E, 0x4CED), (0x2FA0F, 0x2FA0F, 0x9D67), (0x2FA10, 0x2FA10, 0x2A0CE),
  (0x2FA11, 0x2FA11, 0x4CF8), (0x2FA12, 0x2FA12, 0x2A105), (0x2FA13, 0x2FA13, 0x2A20E),
  (0x2FA14, 0x2FA14, 0x2A291), (0x2FA15, 0x2FA15, 0x9EBB), (0x2FA16, 0x2FA16, 0x4D56),
  (0x2FA17, 0x2FA17, 0x9EF9), (0x2FA18, 0x2FA18, 0x9EFE), (0x2FA19, 0x2FA19, 0x9F05),
  (0x2FA1A, 0x2FA1A, 0x9F0F), (0x2FA1B, 0x2FA1B, 0x9F16), (0x2FA1C, 0x2FA1C, 0x9F3B),
  (0x2FA1D, 0x2FA1D, 0x2A600)]

/-- The parts of the table, each with the largest code point that it covers. -/
def singleMappingParts : List (Nat × List (Nat × Nat × Nat)) := [
  (0x3176, singleMappingsFirst),
  (0xFA4A, singleMappingsSecond),
  (0xFFDC, singleMappingsThird),
  (0x2F822, singleMappingsFourth),
  (0x2F9E9, singleMappingsFifth),
  (0x2FA1D, singleMappingsSixth)]

/-- The image of a code point under increasing ranges. -/
def singleImage (n : Nat) : List (Nat × Nat × Nat) → Option Nat
  | [] => none
  | (lo, hi, target) :: rest =>
    if n < lo then none else if n ≤ hi then some (target + (n - lo)) else singleImage n rest

/-- The character that a code point is mapped to, if it is mapped to one character. -/
def singleMapping? (n : Nat) : Option Nat :=
  match singleMappingParts.find? fun part => n ≤ part.1 with
  | some part => singleImage n part.2
  | none => none

end Sentinels.Unicode
