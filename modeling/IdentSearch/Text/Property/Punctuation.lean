import IdentSearch.Text.CodeRange

/-!
The characters outside ASCII in one of the punctuation categories (general category P) of Unicode
14.0.
-/

namespace IdentSearch.Text

def punctuationRanges : List CodeRange := [
  ⟨0x00A1, 0x00A1, 1⟩, ⟨0x00A7, 0x00A7, 1⟩, ⟨0x00AB, 0x00AB, 1⟩, ⟨0x00B6, 0x00B7, 1⟩,
  ⟨0x00BB, 0x00BB, 1⟩, ⟨0x00BF, 0x00BF, 1⟩, ⟨0x037E, 0x037E, 1⟩, ⟨0x0387, 0x0387, 1⟩,
  ⟨0x055A, 0x055F, 1⟩, ⟨0x0589, 0x058A, 1⟩, ⟨0x05BE, 0x05C0, 2⟩, ⟨0x05C3, 0x05C3, 1⟩,
  ⟨0x05C6, 0x05C6, 1⟩, ⟨0x05F3, 0x05F4, 1⟩, ⟨0x0609, 0x060A, 1⟩, ⟨0x060C, 0x060D, 1⟩,
  ⟨0x061B, 0x061B, 1⟩, ⟨0x061D, 0x061F, 1⟩, ⟨0x066A, 0x066D, 1⟩, ⟨0x06D4, 0x06D4, 1⟩,
  ⟨0x0700, 0x070D, 1⟩, ⟨0x07F7, 0x07F9, 1⟩, ⟨0x0830, 0x083E, 1⟩, ⟨0x085E, 0x085E, 1⟩,
  ⟨0x0964, 0x0965, 1⟩, ⟨0x0970, 0x0970, 1⟩, ⟨0x09FD, 0x09FD, 1⟩, ⟨0x0A76, 0x0A76, 1⟩,
  ⟨0x0AF0, 0x0AF0, 1⟩, ⟨0x0C77, 0x0C77, 1⟩, ⟨0x0C84, 0x0C84, 1⟩, ⟨0x0DF4, 0x0DF4, 1⟩,
  ⟨0x0E4F, 0x0E4F, 1⟩, ⟨0x0E5A, 0x0E5B, 1⟩, ⟨0x0F04, 0x0F12, 1⟩, ⟨0x0F14, 0x0F14, 1⟩,
  ⟨0x0F3A, 0x0F3D, 1⟩, ⟨0x0F85, 0x0F85, 1⟩, ⟨0x0FD0, 0x0FD4, 1⟩, ⟨0x0FD9, 0x0FDA, 1⟩,
  ⟨0x104A, 0x104F, 1⟩, ⟨0x10FB, 0x10FB, 1⟩, ⟨0x1360, 0x1368, 1⟩, ⟨0x1400, 0x1400, 1⟩,
  ⟨0x166E, 0x166E, 1⟩, ⟨0x169B, 0x169C, 1⟩, ⟨0x16EB, 0x16ED, 1⟩, ⟨0x1735, 0x1736, 1⟩,
  ⟨0x17D4, 0x17D6, 1⟩, ⟨0x17D8, 0x17DA, 1⟩, ⟨0x1800, 0x180A, 1⟩, ⟨0x1944, 0x1945, 1⟩,
  ⟨0x1A1E, 0x1A1F, 1⟩, ⟨0x1AA0, 0x1AA6, 1⟩, ⟨0x1AA8, 0x1AAD, 1⟩, ⟨0x1B5A, 0x1B60, 1⟩,
  ⟨0x1B7D, 0x1B7E, 1⟩, ⟨0x1BFC, 0x1BFF, 1⟩, ⟨0x1C3B, 0x1C3F, 1⟩, ⟨0x1C7E, 0x1C7F, 1⟩,
  ⟨0x1CC0, 0x1CC7, 1⟩, ⟨0x1CD3, 0x1CD3, 1⟩, ⟨0x2010, 0x2027, 1⟩, ⟨0x2030, 0x2043, 1⟩,
  ⟨0x2045, 0x2051, 1⟩, ⟨0x2053, 0x205E, 1⟩, ⟨0x207D, 0x207E, 1⟩, ⟨0x208D, 0x208E, 1⟩,
  ⟨0x2308, 0x230B, 1⟩, ⟨0x2329, 0x232A, 1⟩, ⟨0x2768, 0x2775, 1⟩, ⟨0x27C5, 0x27C6, 1⟩,
  ⟨0x27E6, 0x27EF, 1⟩, ⟨0x2983, 0x2998, 1⟩, ⟨0x29D8, 0x29DB, 1⟩, ⟨0x29FC, 0x29FD, 1⟩,
  ⟨0x2CF9, 0x2CFC, 1⟩, ⟨0x2CFE, 0x2CFF, 1⟩, ⟨0x2D70, 0x2D70, 1⟩, ⟨0x2E00, 0x2E2E, 1⟩,
  ⟨0x2E30, 0x2E4F, 1⟩, ⟨0x2E52, 0x2E5D, 1⟩, ⟨0x3001, 0x3003, 1⟩, ⟨0x3008, 0x3011, 1⟩,
  ⟨0x3014, 0x301F, 1⟩, ⟨0x3030, 0x3030, 1⟩, ⟨0x303D, 0x303D, 1⟩, ⟨0x30A0, 0x30A0, 1⟩,
  ⟨0x30FB, 0x30FB, 1⟩, ⟨0xA4FE, 0xA4FF, 1⟩, ⟨0xA60D, 0xA60F, 1⟩, ⟨0xA673, 0xA673, 1⟩,
  ⟨0xA67E, 0xA67E, 1⟩, ⟨0xA6F2, 0xA6F7, 1⟩, ⟨0xA874, 0xA877, 1⟩, ⟨0xA8CE, 0xA8CF, 1⟩,
  ⟨0xA8F8, 0xA8FA, 1⟩, ⟨0xA8FC, 0xA8FC, 1⟩, ⟨0xA92E, 0xA92F, 1⟩, ⟨0xA95F, 0xA95F, 1⟩,
  ⟨0xA9C1, 0xA9CD, 1⟩, ⟨0xA9DE, 0xA9DF, 1⟩, ⟨0xAA5C, 0xAA5F, 1⟩, ⟨0xAADE, 0xAADF, 1⟩,
  ⟨0xAAF0, 0xAAF1, 1⟩, ⟨0xABEB, 0xABEB, 1⟩, ⟨0xFD3E, 0xFD3F, 1⟩, ⟨0xFE10, 0xFE19, 1⟩,
  ⟨0xFE30, 0xFE52, 1⟩, ⟨0xFE54, 0xFE61, 1⟩, ⟨0xFE63, 0xFE63, 1⟩, ⟨0xFE68, 0xFE68, 1⟩,
  ⟨0xFE6A, 0xFE6B, 1⟩, ⟨0xFF01, 0xFF03, 1⟩, ⟨0xFF05, 0xFF0A, 1⟩, ⟨0xFF0C, 0xFF0F, 1⟩,
  ⟨0xFF1A, 0xFF1B, 1⟩, ⟨0xFF1F, 0xFF20, 1⟩, ⟨0xFF3B, 0xFF3D, 1⟩, ⟨0xFF3F, 0xFF3F, 1⟩,
  ⟨0xFF5B, 0xFF5D, 2⟩, ⟨0xFF5F, 0xFF65, 1⟩, ⟨0x10100, 0x10102, 1⟩, ⟨0x1039F, 0x1039F, 1⟩,
  ⟨0x103D0, 0x103D0, 1⟩, ⟨0x1056F, 0x1056F, 1⟩, ⟨0x10857, 0x10857, 1⟩, ⟨0x1091F, 0x1091F, 1⟩,
  ⟨0x1093F, 0x1093F, 1⟩, ⟨0x10A50, 0x10A58, 1⟩, ⟨0x10A7F, 0x10A7F, 1⟩, ⟨0x10AF0, 0x10AF6, 1⟩,
  ⟨0x10B39, 0x10B3F, 1⟩, ⟨0x10B99, 0x10B9C, 1⟩, ⟨0x10EAD, 0x10EAD, 1⟩, ⟨0x10F55, 0x10F59, 1⟩,
  ⟨0x10F86, 0x10F89, 1⟩, ⟨0x11047, 0x1104D, 1⟩, ⟨0x110BB, 0x110BC, 1⟩, ⟨0x110BE, 0x110C1, 1⟩,
  ⟨0x11140, 0x11143, 1⟩, ⟨0x11174, 0x11175, 1⟩, ⟨0x111C5, 0x111C8, 1⟩, ⟨0x111CD, 0x111CD, 1⟩,
  ⟨0x111DB, 0x111DB, 1⟩, ⟨0x111DD, 0x111DF, 1⟩, ⟨0x11238, 0x1123D, 1⟩, ⟨0x112A9, 0x112A9, 1⟩,
  ⟨0x1144B, 0x1144F, 1⟩, ⟨0x1145A, 0x1145B, 1⟩, ⟨0x1145D, 0x1145D, 1⟩, ⟨0x114C6, 0x114C6, 1⟩,
  ⟨0x115C1, 0x115D7, 1⟩, ⟨0x11641, 0x11643, 1⟩, ⟨0x11660, 0x1166C, 1⟩, ⟨0x116B9, 0x116B9, 1⟩,
  ⟨0x1173C, 0x1173E, 1⟩, ⟨0x1183B, 0x1183B, 1⟩, ⟨0x11944, 0x11946, 1⟩, ⟨0x119E2, 0x119E2, 1⟩,
  ⟨0x11A3F, 0x11A46, 1⟩, ⟨0x11A9A, 0x11A9C, 1⟩, ⟨0x11A9E, 0x11AA2, 1⟩, ⟨0x11C41, 0x11C45, 1⟩,
  ⟨0x11C70, 0x11C71, 1⟩, ⟨0x11EF7, 0x11EF8, 1⟩, ⟨0x11FFF, 0x11FFF, 1⟩, ⟨0x12470, 0x12474, 1⟩,
  ⟨0x12FF1, 0x12FF2, 1⟩, ⟨0x16A6E, 0x16A6F, 1⟩, ⟨0x16AF5, 0x16AF5, 1⟩, ⟨0x16B37, 0x16B3B, 1⟩,
  ⟨0x16B44, 0x16B44, 1⟩, ⟨0x16E97, 0x16E9A, 1⟩, ⟨0x16FE2, 0x16FE2, 1⟩, ⟨0x1BC9F, 0x1BC9F, 1⟩,
  ⟨0x1DA87, 0x1DA8B, 1⟩, ⟨0x1E95E, 0x1E95F, 1⟩]

end IdentSearch.Text
