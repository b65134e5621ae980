import ServiceAtlas.Text.CodeRanges

/-!
Upper case by the full Unicode mapping, in which one character may become several.
-/

namespace ServiceAtlas.Text

/-- Characters above U+007F with an upper-case form of one character. -/
def upperShifts : List ShiftedRange := [
  ⟨0xB5, 0xB5, 0x1, 0x2E7⟩, ⟨0xE0, 0xF6, 0x1, -0x20⟩, ⟨0xF8, 0xFE, 0x1, -0x20⟩,
  ⟨0xFF, 0xFF, 0x1, 0x79⟩, ⟨0x101, 0x12F, 0x2, -0x1⟩, ⟨0x131, 0x131, 0x1, -0xE8⟩,
  ⟨0x133, 0x137, 0x2, -0x1⟩, ⟨0x13A, 0x148, 0x2, -0x1⟩, ⟨0x14B, 0x177, 0x2, -0x1⟩,
  ⟨0x17A, 0x17E, 0x2, -0x1⟩, ⟨0x17F, 0x17F, 0x1, -0x12C⟩, ⟨0x180, 0x180, 0x1, 0xC3⟩,
  ⟨0x183, 0x185, 0x2, -0x1⟩, ⟨0x188, 0x188, 0x1, -0x1⟩, ⟨0x18C, 0x18C, 0x1, -0x1⟩,
  ⟨0x192, 0x192, 0x1, -0x1⟩, ⟨0x195, 0x195, 0x1, 0x61⟩, ⟨0x199, 0x199, 0x1, -0x1⟩,
  ⟨0x19A, 0x19A, 0x1, 0xA3⟩, ⟨0x19B, 0x19B, 0x1, 0xA641⟩, ⟨0x19E, 0x19E, 0x1, 0x82⟩,
  ⟨0x1A1, 0x1A5, 0x2, -0x1⟩, ⟨0x1A8, 0x1A8, 0x1, -0x1⟩, ⟨0x1AD, 0x1AD, 0x1, -0x1⟩,
  ⟨0x1B0, 0x1B0, 0x1, -0x1⟩, ⟨0x1B4, 0x1B6, 0x2, -0x1⟩, ⟨0x1B9, 0x1B9, 0x1, -0x1⟩,
  ⟨0x1BD, 0x1BD, 0x1, -0x1⟩, ⟨0x1BF, 0x1BF, 0x1, 0x38⟩, ⟨0x1C5, 0x1C5, 0x1, -0x1⟩,
  ⟨0x1C6, 0x1C6, 0x1, -0x2⟩, ⟨0x1C8, 0x1C8, 0x1, -0x1⟩, ⟨0x1C9, 0x1C9, 0x1, -0x2⟩,
  ⟨0x1CB, 0x1CB, 0x1, -0x1⟩, ⟨0x1CC, 0x1CC, 0x1, -0x2⟩, ⟨0x1CE, 0x1DC, 0x2, -0x1⟩,
  ⟨0x1DD, 0x1DD, 0x1, -0x4F⟩, ⟨0x1DF, 0x1EF, 0x2, -0x1⟩, ⟨0x1F2, 0x1F2, 0x1, -0x1⟩,
  ⟨0x1F3, 0x1F3, 0x1, -0x2⟩, ⟨0x1F5, 0x1F5, 0x1, -0x1⟩, ⟨0x1F9, 0x21F, 0x2, -0x1⟩,
  ⟨0x223, 0x233, 0x2, -0x1⟩, ⟨0x23C, 0x23C, 0x1, -0x1⟩, ⟨0x23F, 0x240, 0x1, 0x2A3F⟩,
  ⟨0x242, 0x242, 0x1, -0x1⟩, ⟨0x247, 0x24F, 0x2, -0x1⟩, ⟨0x250, 0x250, 0x1, 0x2A1F⟩,
  ⟨0x251, 0x251, 0x1, 0x2A1C⟩, ⟨0x252, 0x252, 0x1, 0x2A1E⟩, ⟨0x253, 0x253, 0x1, -0xD2⟩,
  ⟨0x254, 0x254, 0x1, -0xCE⟩, ⟨0x256, 0x257, 0x1, -0xCD⟩, ⟨0x259, 0x259, 0x1, -0xCA⟩,
  ⟨0x25B, 0x25B, 0x1, -0xCB⟩, ⟨0x25C, 0x25C, 0x1, 0xA54F⟩, ⟨0x260, 0x260, 0x1, -0xCD⟩,
  ⟨0x261, 0x261, 0x1, 0xA54B⟩, ⟨0x263, 0x263, 0x1, -0xCF⟩, ⟨0x264, 0x264, 0x1, 0xA567⟩,
  ⟨0x265, 0x265, 0x1, 0xA528⟩, ⟨0x266, 0x266, 0x1, 0xA544⟩, ⟨0x268, 0x268, 0x1, -0xD1⟩,
  ⟨0x269, 0x269, 0x1, -0xD3⟩, ⟨0x26A, 0x26A, 0x1, 0xA544⟩, ⟨0x26B, 0x26B, 0x1, 0x29F7⟩,
  ⟨0x26C, 0x26C, 0x1, 0xA541⟩, ⟨0x26F, 0x26F, 0x1, -0xD3⟩, ⟨0x271, 0x271, 0x1, 0x29FD⟩,
  ⟨0x272, 0x272, 0x1, -0xD5⟩, ⟨0x275, 0x275, 0x1, -0xD6⟩, ⟨0x27D, 0x27D, 0x1, 0x29E7⟩,
  ⟨0x280, 0x280, 0x1, -0xDA⟩, ⟨0x282, 0x282, 0x1, 0xA543⟩, ⟨0x283, 0x283, 0x1, -0xDA⟩,
  ⟨0x287, 0x287, 0x1, 0xA52A⟩, ⟨0x288, 0x288, 0x1, -0xDA⟩, ⟨0x289, 0x289, 0x1, -0x45⟩,
  ⟨0x28A, 0x28B, 0x1, -0xD9⟩, ⟨0x28C, 0x28C, 0x1, -0x47⟩, ⟨0x292, 0x292, 0x1, -0xDB⟩,
  ⟨0x29D, 0x29D, 0x1, 0xA515⟩, ⟨0x29E, 0x29E, 0x1, 0xA512⟩, ⟨0x345, 0x345, 0x1, 0x54⟩,
  ⟨0x371, 0x373, 0x2, -0x1⟩, ⟨0x377, 0x377, 0x1, -0x1⟩, ⟨0x37B, 0x37D, 0x1, 0x82⟩,
  ⟨0x3AC, 0x3AC, 0x1, -0x26⟩, ⟨0x3AD, 0x3AF, 0x1, -0x25⟩, ⟨0x3B1, 0x3C1, 0x1, -0x20⟩,
  ⟨0x3C2, 0x3C2, 0x1, -0x1F⟩, ⟨0x3C3, 0x3CB, 0x1, -0x20⟩, ⟨0x3CC, 0x3CC, 0x1, -0x40⟩,
  ⟨0x3CD, 0x3CE, 0x1, -0x3F⟩, ⟨0x3D0, 0x3D0, 0x1, -0x3E⟩, ⟨0x3D1, 0x3D1, 0x1, -0x39⟩,
  ⟨0x3D5, 0x3D5, 0x1, -0x2F⟩, ⟨0x3D6, 0x3D6, 0x1, -0x36⟩, ⟨0x3D7, 0x3D7, 0x1, -0x8⟩,
  ⟨0x3D9, 0x3EF, 0x2, -0x1⟩, ⟨0x3F0, 0x3F0, 0x1, -0x56⟩, ⟨0x3F1, 0x3F1, 0x1, -0x50⟩,
  ⟨0x3F2, 0x3F2, 0x1, 0x7⟩, ⟨0x3F3, 0x3F3, 0x1, -0x74⟩, ⟨0x3F5, 0x3F5, 0x1, -0x60⟩,
  ⟨0x3F8, 0x3F8, 0x1, -0x1⟩, ⟨0x3FB, 0x3FB, 0x1, -0x1⟩, ⟨0x430, 0x44F, 0x1, -0x20⟩,
  ⟨0x450, 0x45F, 0x1, -0x50⟩, ⟨0x461, 0x481, 0x2, -0x1⟩, ⟨0x48B, 0x4BF, 0x2, -0x1⟩,
  ⟨0x4C2, 0x4CE, 0x2, -0x1⟩, ⟨0x4CF, 0x4CF, 0x1, -0xF⟩, ⟨0x4D1, 0x52F, 0x2, -0x1⟩,
  ⟨0x561, 0x586, 0x1, -0x30⟩, ⟨0x10D0, 0x10FA, 0x1, 0xBC0⟩, ⟨0x10FD, 0x10FF, 0x1, 0xBC0⟩,
  ⟨0x13F8, 0x13FD, 0x1, -0x8⟩, ⟨0x1C80, 0x1C80, 0x1, -0x186E⟩, ⟨0x1C81, 0x1C81, 0x1, -0x186D⟩,
  ⟨0x1C82, 0x1C82, 0x1, -0x1864⟩, ⟨0x1C83, 0x1C84, 0x1, -0x1862⟩, ⟨0x1C85, 0x1C85, 0x1, -0x1863⟩,
  ⟨0x1C86, 0x1C86, 0x1, -0x185C⟩, ⟨0x1C87, 0x1C87, 0x1, -0x1825⟩, ⟨0x1C88, 0x1C88, 0x1, 0x89C2⟩,
  ⟨0x1C8A, 0x1C8A, 0x1, -0x1⟩, ⟨0x1D79, 0x1D79, 0x1, 0x8A04⟩, ⟨0x1D7D, 0x1D7D, 0x1, 0xEE6⟩,
  ⟨0x1D8E, 0x1D8E, 0x1, 0x8A38⟩, ⟨0x1E01, 0x1E95, 0x2, -0x1⟩, ⟨0x1E9B, 0x1E9B, 0x1, -0x3B⟩,
  ⟨0x1EA1, 0x1EFF, 0x2, -0x1⟩, ⟨0x1F00, 0x1F07, 0x1, 0x8⟩, ⟨0x1F10, 0x1F15, 0x1, 0x8⟩,
  ⟨0x1F20, 0x1F27, 0x1, 0x8⟩, ⟨0x1F30, 0x1F37, 0x1, 0x8⟩, ⟨0x1F40, 0x1F45, 0x1, 0x8⟩,
  ⟨0x1F51, 0x1F57, 0x2, 0x8⟩, ⟨0x1F60, 0x1F67, 0x1, 0x8⟩, ⟨0x1F70, 0x1F71, 0x1, 0x4A⟩,
  ⟨0x1F72, 0x1F75, 0x1, 0x56⟩, ⟨0x1F76, 0x1F77, 0x1, 0x64⟩, ⟨0x1F78, 0x1F79, 0x1, 0x80⟩,
  ⟨0x1F7A, 0x1F7B, 0x1, 0x70⟩, ⟨0x1F7C, 0x1F7D, 0x1, 0x7E⟩, ⟨0x1FB0, 0x1FB1, 0x1, 0x8⟩,
  ⟨0x1FBE, 0x1FBE, 0x1, -0x1C25⟩, ⟨0x1FD0, 0x1FD1, 0x1, 0x8⟩, ⟨0x1FE0, 0x1FE1, 0x1, 0x8⟩,
  ⟨0x1FE5, 0x1FE5, 0x1, 0x7⟩, ⟨0x214E, 0x214E, 0x1, -0x1C⟩, ⟨0x2170, 0x217F, 0x1, -0x10⟩,
  ⟨0x2184, 0x2184, 0x1, -0x1⟩, ⟨0x24D0, 0x24E9, 0x1, -0x1A⟩, ⟨0x2C30, 0x2C5F, 0x1, -0x30⟩,
  ⟨0x2C61, 0x2C61, 0x1, -0x1⟩, ⟨0x2C65, 0x2C65, 0x1, -0x2A2B⟩, ⟨0x2C66, 0x2C66, 0x1, -0x2A28⟩,
  ⟨0x2C68, 0x2C6C, 0x2, -0x1⟩, ⟨0x2C73, 0x2C73, 0x1, -0x1⟩, ⟨0x2C76, 0x2C76, 0x1, -0x1⟩,
  ⟨0x2C81, 0x2CE3, 0x2, -0x1⟩, ⟨0x2CEC, 0x2CEE, 0x2, -0x1⟩, ⟨0x2CF3, 0x2CF3, 0x1, -0x1⟩,
  ⟨0x2D00, 0x2D25, 0x1, -0x1C60⟩, ⟨0x2D27, 0x2D27, 0x1, -0x1C60⟩, ⟨0x2D2D, 0x2D2D, 0x1, -0x1C60⟩,
  ⟨0xA641, 0xA66D, 0x2, -0x1⟩, ⟨0xA681, 0xA69B, 0x2, -0x1⟩, ⟨0xA723, 0xA72F, 0x2, -0x1⟩,
  ⟨0xA733, 0xA76F, 0x2, -0x1⟩, ⟨0xA77A, 0xA77C, 0x2, -0x1⟩, ⟨0xA77F, 0xA787, 0x2, -0x1⟩,
  ⟨0xA78C, 0xA78C, 0x1, -0x1⟩, ⟨0xA791, 0xA793, 0x2, -0x1⟩, ⟨0xA794, 0xA794, 0x1, 0x30⟩,
  ⟨0xA797, 0xA7A9, 0x2, -0x1⟩, ⟨0xA7B5, 0xA7C3, 0x2, -0x1⟩, ⟨0xA7C8, 0xA7CA, 0x2, -0x1⟩,
  ⟨0xA7CD, 0xA7DB, 0x2, -0x1⟩, ⟨0xA7F6, 0xA7F6, 0x1, -0x1⟩, ⟨0xAB53, 0xAB53, 0x1, -0x3A0⟩,
  ⟨0xAB70, 0xABBF, 0x1, -0x97D0⟩, ⟨0xFF41, 0xFF5A, 0x1, -0x20⟩, ⟨0x10428, 0x1044F, 0x1, -0x28⟩,
  ⟨0x104D8, 0x104FB, 0x1, -0x28⟩, ⟨0x10597, 0x105BB, 0x2, -0x27⟩, ⟨0x10598, 0x105A0, 0x2, -0x27⟩,
  ⟨0x105A4, 0x105B0, 0x2, -0x27⟩, ⟨0x105B4, 0x105B8, 0x2, -0x27⟩, ⟨0x105BC, 0x105BC, 0x1, -0x27⟩,
  ⟨0x10CC0, 0x10CF2, 0x1, -0x40⟩, ⟨0x10D70, 0x10D85, 0x1, -0x20⟩, ⟨0x118C0, 0x118DF, 0x1, -0x20⟩,
  ⟨0x16E60, 0x16E7F, 0x1, -0x20⟩, ⟨0x16EBB, 0x16ED3, 0x1, -0x1B⟩, ⟨0x1E922, 0x1E943, 0x1, -0x22⟩]

/-- Characters with an upper-case form of several characters. -/
def upperSpellings : List (Nat × List Nat) := [
  (0xDF, [0x53, 0x53]), (0x149, [0x2BC, 0x4E]), (0x1F0, [0x4A, 0x30C]),
  (0x390, [0x399, 0x308, 0x301]), (0x3B0, [0x3A5, 0x308, 0x301]), (0x587, [0x535, 0x552]),
  (0x1E96, [0x48, 0x331]), (0x1E97, [0x54, 0x308]), (0x1E98, [0x57, 0x30A]),
  (0x1E99, [0x59, 0x30A]), (0x1E9A, [0x41, 0x2BE]), (0x1F50, [0x3A5, 0x313]),
  (0x1F52, [0x3A5, 0x313, 0x300]), (0x1F54, [0x3A5, 0x313, 0x301]),
  (0x1F56, [0x3A5, 0x313, 0x342]), (0x1F80, [0x1F08, 0x399]), (0x1F81, [0x1F09, 0x399]),
  (0x1F82, [0x1F0A, 0x399]), (0x1F83, [0x1F0B, 0x399]), (0x1F84, [0x1F0C, 0x399]),
  (0x1F85, [0x1F0D, 0x399]), (0x1F86, [0x1F0E, 0x399]), (0x1F87, [0x1F0F, 0x399]),
  (0x1F88, [0x1F08, 0x399]), (0x1F89, [0x1F09, 0x399]), (0x1F8A, [0x1F0A, 0x399]),
  (0x1F8B, [0x1F0B, 0x399]), (0x1F8C, [0x1F0C, 0x399]), (0x1F8D, [0x1F0D, 0x399]),
  (0x1F8E, [0x1F0E, 0x399]), (0x1F8F, [0x1F0F, 0x399]), (0x1F90, [0x1F28, 0x399]),
  (0x1F91, [0x1F29, 0x399]), (0x1F92, [0x1F2A, 0x399]), (0x1F93, [0x1F2B, 0x399]),
  (0x1F94, [0x1F2C, 0x399]), (0x1F95, [0x1F2D, 0x399]), (0x1F96, [0x1F2E, 0x399]),
  (0x1F97, [0x1F2F, 0x399]), (0x1F98, [0x1F28, 0x399]), (0x1F99, [0x1F29, 0x399]),
  (0x1F9A, [0x1F2A, 0x399]), (0x1F9B, [0x1F2B, 0x399]), (0x1F9C, [0x1F2C, 0x399]),
  (0x1F9D, [0x1F2D, 0x399]), (0x1F9E, [0x1F2E, 0x399]), (0x1F9F, [0x1F2F, 0x399]),
  (0x1FA0, [0x1F68, 0x399]), (0x1FA1, [0x1F69, 0x399]), (0x1FA2, [0x1F6A, 0x399]),
  (0x1FA3, [0x1F6B, 0x399]), (0x1FA4, [0x1F6C, 0x399]), (0x1FA5, [0x1F6D, 0x399]),
  (0x1FA6, [0x1F6E, 0x399]), (0x1FA7, [0x1F6F, 0x399]), (0x1FA8, [0x1F68, 0x399]),
  (0x1FA9, [0x1F69, 0x399]), (0x1FAA, [0x1F6A, 0x399]), (0x1FAB, [0x1F6B, 0x399]),
  (0x1FAC, [0x1F6C, 0x399]), (0x1FAD, [0x1F6D, 0x399]), (0x1FAE, [0x1F6E, 0x399]),
  (0x1FAF, [0x1F6F, 0x399]), (0x1FB2, [0x1FBA, 0x399]), (0x1FB3, [0x391, 0x399]),
  (0x1FB4, [0x386, 0x399]), (0x1FB6, [0x391, 0x342]), (0x1FB7, [0x391, 0x342, 0x399]),
  (0x1FBC, [0x391, 0x399]), (0x1FC2, [0x1FCA, 0x399]), (0x1FC3, [0x397, 0x399]),
  (0x1FC4, [0x389, 0x399]), (0x1FC6, [0x397, 0x342]), (0x1FC7, [0x397, 0x342, 0x399]),
  (0x1FCC, [0x397, 0x399]), (0x1FD2, [0x399, 0x308, 0x300]), (0x1FD3, [0x399, 0x308, 0x301]),
  (0x1FD6, [0x399, 0x342]), (0x1FD7, [0x399, 0x308, 0x342]), (0x1FE2, [0x3A5, 0x308, 0x300]),
  (0x1FE3, [0x3A5, 0x308, 0x301]), (0x1FE4, [0x3A1, 0x313]), (0x1FE6, [0x3A5, 0x342]),
  (0x1FE7, [0x3A5, 0x308, 0x342]), (0x1FF2, [0x1FFA, 0x399]), (0x1FF3, [0x3A9, 0x399]),
  (0x1FF4, [0x38F, 0x399]), (0x1FF6, [0x3A9, 0x342]), (0x1FF7, [0x3A9, 0x342, 0x399]),
  (0x1FFC, [0x3A9, 0x399]), (0xFB00, [0x46, 0x46]), (0xFB01, [0x46, 0x49]),
  (0xFB02, [0x46, 0x4C]), (0xFB03, [0x46, 0x46, 0x49]), (0xFB04, [0x46, 0x46, 0x4C]),
  (0xFB05, [0x53, 0x54]), (0xFB06, [0x53, 0x54]), (0xFB13, [0x544, 0x546]),
  (0xFB14, [0x544, 0x535]), (0xFB15, [0x544, 0x53B]), (0xFB16, [0x54E, 0x546]),
  (0xFB17, [0x544, 0x53D])]

def upperChar (c : Char) : List Char :=
  if c.toNat < 0x80 then [c.toUpper]
  else
    match upperSpellings.lookup c.toNat with
    | some spelling => spelling.map Char.ofNat
    | none => [moveBy upperShifts c]

def upper (s : String) : String := String.ofList (s.toList.flatMap upperChar)

end ServiceAtlas.Text
