/-
Scripts of Europe, those of antiquity included.
-/
import Overlay.Text.Script.Basic

namespace Overlay.Text.Script.Europe

open Category

/-- The Latin script. -/
def latin : Script where
  code := "Latn"
  name := "Latin"
  own := [
    ⟨0x41, 0x5A, 1⟩, ⟨0x61, 0x7A, 1⟩, ⟨0xAA, 0xAA, 1⟩, ⟨0xBA, 0xBA, 1⟩,
    ⟨0xC0, 0xD6, 1⟩, ⟨0xD8, 0xF6, 1⟩, ⟨0xF8, 0x2B8, 1⟩, ⟨0x2E0, 0x2E4, 1⟩,
    ⟨0x1D00, 0x1D25, 1⟩, ⟨0x1D2C, 0x1D5C, 1⟩, ⟨0x1D62, 0x1D65, 1⟩,
    ⟨0x1D6B, 0x1D77, 1⟩, ⟨0x1D79, 0x1DBE, 1⟩, ⟨0x1E00, 0x1EFF, 1⟩,
    ⟨0x2071, 0x2071, 1⟩, ⟨0x207F, 0x207F, 1⟩, ⟨0x2090, 0x209C, 1⟩,
    ⟨0x212A, 0x212B, 1⟩, ⟨0x2132, 0x2132, 1⟩, ⟨0x214E, 0x214E, 1⟩,
    ⟨0x2160, 0x2188, 1⟩, ⟨0x2C60, 0x2C7F, 1⟩, ⟨0xA722, 0xA787, 1⟩,
    ⟨0xA78B, 0xA7CD, 1⟩, ⟨0xA7D0, 0xA7D1, 1⟩, ⟨0xA7D3, 0xA7D3, 1⟩,
    ⟨0xA7D5, 0xA7DC, 1⟩, ⟨0xA7F2, 0xA7FF, 1⟩, ⟨0xAB30, 0xAB5A, 1⟩,
    ⟨0xAB5C, 0xAB64, 1⟩, ⟨0xAB66, 0xAB69, 1⟩, ⟨0xFB00, 0xFB06, 1⟩,
    ⟨0xFF21, 0xFF3A, 1⟩, ⟨0xFF41, 0xFF5A, 1⟩, ⟨0x10780, 0x10785, 1⟩,
    ⟨0x10787, 0x107B0, 1⟩, ⟨0x107B2, 0x107BA, 1⟩, ⟨0x1DF00, 0x1DF1E, 1⟩,
    ⟨0x1DF25, 0x1DF2A, 1⟩]
  shared := [
    ⟨0xB7, 0xB7, 1⟩, ⟨0x2BC, 0x2BC, 1⟩, ⟨0x2C7, 0x2C7, 1⟩, ⟨0x2C9, 0x2CB, 1⟩,
    ⟨0x2CD, 0x2CD, 1⟩, ⟨0x2D7, 0x2D7, 1⟩, ⟨0x2D9, 0x2D9, 1⟩, ⟨0x300, 0x30E, 1⟩,
    ⟨0x310, 0x311, 1⟩, ⟨0x313, 0x313, 1⟩, ⟨0x323, 0x325, 1⟩, ⟨0x32D, 0x32E, 1⟩,
    ⟨0x330, 0x331, 1⟩, ⟨0x358, 0x358, 1⟩, ⟨0x35E, 0x35E, 1⟩, ⟨0x363, 0x36F, 1⟩,
    ⟨0x485, 0x486, 1⟩, ⟨0x951, 0x952, 1⟩, ⟨0x10FB, 0x10FB, 1⟩,
    ⟨0x1DF8, 0x1DF8, 1⟩, ⟨0x202F, 0x202F, 1⟩, ⟨0x20F0, 0x20F0, 1⟩,
    ⟨0x2E17, 0x2E17, 1⟩, ⟨0xA700, 0xA707, 1⟩, ⟨0xA92E, 0xA92E, 1⟩]

/-- The Greek script. -/
def greek : Script where
  code := "Grek"
  name := "Greek"
  own := [
    ⟨0x370, 0x373, 1⟩, ⟨0x375, 0x377, 1⟩, ⟨0x37A, 0x37D, 1⟩, ⟨0x37F, 0x37F, 1⟩,
    ⟨0x384, 0x384, 1⟩, ⟨0x386, 0x386, 1⟩, ⟨0x388, 0x38A, 1⟩, ⟨0x38C, 0x38C, 1⟩,
    ⟨0x38E, 0x3A1, 1⟩, ⟨0x3A3, 0x3E1, 1⟩, ⟨0x3F0, 0x3FF, 1⟩,
    ⟨0x1D26, 0x1D2A, 1⟩, ⟨0x1D5D, 0x1D61, 1⟩, ⟨0x1D66, 0x1D6A, 1⟩,
    ⟨0x1DBF, 0x1DBF, 1⟩, ⟨0x1F00, 0x1F15, 1⟩, ⟨0x1F18, 0x1F1D, 1⟩,
    ⟨0x1F20, 0x1F45, 1⟩, ⟨0x1F48, 0x1F4D, 1⟩, ⟨0x1F50, 0x1F57, 1⟩,
    ⟨0x1F59, 0x1F5D, 2⟩, ⟨0x1F5F, 0x1F7D, 1⟩, ⟨0x1F80, 0x1FB4, 1⟩,
    ⟨0x1FB6, 0x1FC4, 1⟩, ⟨0x1FC6, 0x1FD3, 1⟩, ⟨0x1FD6, 0x1FDB, 1⟩,
    ⟨0x1FDD, 0x1FEF, 1⟩, ⟨0x1FF2, 0x1FF4, 1⟩, ⟨0x1FF6, 0x1FFE, 1⟩,
    ⟨0x2126, 0x2126, 1⟩, ⟨0xAB65, 0xAB65, 1⟩, ⟨0x10140, 0x1018E, 1⟩,
    ⟨0x101A0, 0x101A0, 1⟩, ⟨0x1D200, 0x1D245, 1⟩]
  shared := [
    ⟨0xB7, 0xB7, 1⟩, ⟨0x300, 0x301, 1⟩, ⟨0x304, 0x308, 2⟩, ⟨0x313, 0x313, 1⟩,
    ⟨0x342, 0x342, 1⟩, ⟨0x345, 0x345, 1⟩, ⟨0x374, 0x374, 1⟩,
    ⟨0x1DC0, 0x1DC1, 1⟩, ⟨0x205D, 0x205D, 1⟩]

/-- The Coptic script. -/
def coptic : Script where
  code := "Copt"
  name := "Coptic"
  own := [
    ⟨0x3E2, 0x3EF, 1⟩, ⟨0x2C80, 0x2CF3, 1⟩, ⟨0x2CF9, 0x2CFF, 1⟩]
  former := ["Qaac"]
  shared := [
    ⟨0xB7, 0xB7, 1⟩, ⟨0x300, 0x300, 1⟩, ⟨0x304, 0x305, 1⟩, ⟨0x307, 0x307, 1⟩,
    ⟨0x374, 0x375, 1⟩, ⟨0x2E17, 0x2E17, 1⟩, ⟨0x102E0, 0x102FB, 1⟩]

/-- The Cyrillic script. -/
def cyrillic : Script where
  code := "Cyrl"
  name := "Cyrillic"
  own := [
    ⟨0x400, 0x484, 1⟩, ⟨0x487, 0x52F, 1⟩, ⟨0x1C80, 0x1C8A, 1⟩,
    ⟨0x1D2B, 0x1D2B, 1⟩, ⟨0x1D78, 0x1D78, 1⟩, ⟨0x2DE0, 0x2DFF, 1⟩,
    ⟨0xA640, 0xA69F, 1⟩, ⟨0xFE2E, 0xFE2F, 1⟩, ⟨0x1E030, 0x1E06D, 1⟩,
    ⟨0x1E08F, 0x1E08F, 1⟩]
  shared := [
    ⟨0x2BC, 0x2BC, 1⟩, ⟨0x300, 0x302, 1⟩, ⟨0x304, 0x308, 2⟩, ⟨0x30B, 0x30B, 1⟩,
    ⟨0x311, 0x311, 1⟩, ⟨0x485, 0x486, 1⟩, ⟨0x1DF8, 0x1DF8, 1⟩,
    ⟨0x2E43, 0x2E43, 1⟩]

/-- The Glagolitic script. -/
def glagolitic : Script where
  code := "Glag"
  name := "Glagolitic"
  own := [
    ⟨0x2C00, 0x2C5F, 1⟩, ⟨0x1E000, 0x1E006, 1⟩, ⟨0x1E008, 0x1E018, 1⟩,
    ⟨0x1E01B, 0x1E021, 1⟩, ⟨0x1E023, 0x1E024, 1⟩, ⟨0x1E026, 0x1E02A, 1⟩]
  shared := [
    ⟨0xB7, 0xB7, 1⟩, ⟨0x303, 0x303, 1⟩, ⟨0x305, 0x305, 1⟩, ⟨0x484, 0x484, 1⟩,
    ⟨0x487, 0x487, 1⟩, ⟨0x589, 0x589, 1⟩, ⟨0x10FB, 0x10FB, 1⟩,
    ⟨0x205A, 0x205A, 1⟩, ⟨0x2E43, 0x2E43, 1⟩, ⟨0xA66F, 0xA66F, 1⟩]

/-- The Armenian script. -/
def armenian : Script where
  code := "Armn"
  name := "Armenian"
  own := [
    ⟨0x531, 0x556, 1⟩, ⟨0x559, 0x58A, 1⟩, ⟨0x58D, 0x58F, 1⟩,
    ⟨0xFB13, 0xFB17, 1⟩]
  shared := [
    ⟨0x308, 0x308, 1⟩]

/-- The Georgian script. -/
def georgian : Script where
  code := "Geor"
  name := "Georgian"
  own := [
    ⟨0x10A0, 0x10C5, 1⟩, ⟨0x10C7, 0x10C7, 1⟩, ⟨0x10CD, 0x10CD, 1⟩,
    ⟨0x10D0, 0x10FA, 1⟩, ⟨0x10FC, 0x10FF, 1⟩, ⟨0x1C90, 0x1CBA, 1⟩,
    ⟨0x1CBD, 0x1CBF, 1⟩, ⟨0x2D00, 0x2D25, 1⟩, ⟨0x2D27, 0x2D27, 1⟩,
    ⟨0x2D2D, 0x2D2D, 1⟩]
  shared := [
    ⟨0xB7, 0xB7, 1⟩, ⟨0x589, 0x589, 1⟩, ⟨0x10FB, 0x10FB, 1⟩,
    ⟨0x205A, 0x205A, 1⟩, ⟨0x2E31, 0x2E31, 1⟩]

/-- The Linear A script. -/
def linearA : Script where
  code := "Lina"
  name := "Linear_A"
  own := [
    ⟨0x10600, 0x10736, 1⟩, ⟨0x10740, 0x10755, 1⟩, ⟨0x10760, 0x10767, 1⟩]
  shared := [
    ⟨0x10107, 0x10133, 1⟩]

/-- The Linear B script. -/
def linearB : Script where
  code := "Linb"
  name := "Linear_B"
  own := [
    ⟨0x10000, 0x1000B, 1⟩, ⟨0x1000D, 0x10026, 1⟩, ⟨0x10028, 0x1003A, 1⟩,
    ⟨0x1003C, 0x1003D, 1⟩, ⟨0x1003F, 0x1004D, 1⟩, ⟨0x10050, 0x1005D, 1⟩,
    ⟨0x10080, 0x100FA, 1⟩]
  shared := [
    ⟨0x10100, 0x10102, 1⟩, ⟨0x10107, 0x10133, 1⟩, ⟨0x10137, 0x1013F, 1⟩]

/-- The Cypriot script. -/
def cypriot : Script where
  code := "Cprt"
  name := "Cypriot"
  own := [
    ⟨0x10800, 0x10805, 1⟩, ⟨0x10808, 0x10808, 1⟩, ⟨0x1080A, 0x10835, 1⟩,
    ⟨0x10837, 0x10838, 1⟩, ⟨0x1083C, 0x1083C, 1⟩, ⟨0x1083F, 0x1083F, 1⟩]
  shared := [
    ⟨0x10100, 0x10102, 1⟩, ⟨0x10107, 0x10133, 1⟩, ⟨0x10137, 0x1013F, 1⟩]

/-- The Cypro Minoan script. -/
def cyproMinoan : Script where
  code := "Cpmn"
  name := "Cypro_Minoan"
  own := [
    ⟨0x12F90, 0x12FF2, 1⟩]
  shared := [
    ⟨0x10100, 0x10101, 1⟩]

/-- The Carian script. -/
def carian : Script where
  code := "Cari"
  name := "Carian"
  own := [
    ⟨0x102A0, 0x102D0, 1⟩]
  shared := [
    ⟨0xB7, 0xB7, 1⟩, ⟨0x205A, 0x205A, 1⟩, ⟨0x205D, 0x205D, 1⟩,
    ⟨0x2E31, 0x2E31, 1⟩]

/-- The Lycian script. -/
def lycian : Script where
  code := "Lyci"
  name := "Lycian"
  own := [
    ⟨0x10280, 0x1029C, 1⟩]
  shared := [
    ⟨0x205A, 0x205A, 1⟩]

/-- The Lydian script. -/
def lydian : Script where
  code := "Lydi"
  name := "Lydian"
  own := [
    ⟨0x10920, 0x10939, 1⟩, ⟨0x1093F, 0x1093F, 1⟩]
  shared := [
    ⟨0xB7, 0xB7, 1⟩, ⟨0x2E31, 0x2E31, 1⟩]

/-- The Old Italic script. -/
def oldItalic : Script where
  code := "Ital"
  name := "Old_Italic"
  own := [
    ⟨0x10300, 0x10323, 1⟩, ⟨0x1032D, 0x1032F, 1⟩]

/-- The Runic script. -/
def runic : Script where
  code := "Runr"
  name := "Runic"
  own := [
    ⟨0x16A0, 0x16EA, 1⟩, ⟨0x16EE, 0x16F8, 1⟩]
  shared := [
    ⟨0x16EB, 0x16ED, 1⟩]

/-- The Old Hungarian script. -/
def oldHungarian : Script where
  code := "Hung"
  name := "Old_Hungarian"
  own := [
    ⟨0x10C80, 0x10CB2, 1⟩, ⟨0x10CC0, 0x10CF2, 1⟩, ⟨0x10CFA, 0x10CFF, 1⟩]
  shared := [
    ⟨0x205A, 0x205A, 1⟩, ⟨0x205D, 0x205D, 1⟩, ⟨0x2E31, 0x2E31, 1⟩,
    ⟨0x2E41, 0x2E41, 1⟩]

/-- The Gothic script. -/
def gothic : Script where
  code := "Goth"
  name := "Gothic"
  own := [
    ⟨0x10330, 0x1034A, 1⟩]
  shared := [
    ⟨0xB7, 0xB7, 1⟩, ⟨0x304, 0x305, 1⟩, ⟨0x308, 0x308, 1⟩, ⟨0x331, 0x331, 1⟩]

/-- The Elbasan script. -/
def elbasan : Script where
  code := "Elba"
  name := "Elbasan"
  own := [
    ⟨0x10500, 0x10527, 1⟩]
  shared := [
    ⟨0xB7, 0xB7, 1⟩, ⟨0x305, 0x305, 1⟩]

/-- The Caucasian Albanian script. -/
def caucasianAlbanian : Script where
  code := "Aghb"
  name := "Caucasian_Albanian"
  own := [
    ⟨0x10530, 0x10563, 1⟩, ⟨0x1056F, 0x1056F, 1⟩]
  shared := [
    ⟨0x304, 0x304, 1⟩, ⟨0x331, 0x331, 1⟩, ⟨0x35E, 0x35E, 1⟩]

/-- The Vithkuqi script. -/
def vithkuqi : Script where
  code := "Vith"
  name := "Vithkuqi"
  own := [
    ⟨0x10570, 0x1057A, 1⟩, ⟨0x1057C, 0x1058A, 1⟩, ⟨0x1058C, 0x10592, 1⟩,
    ⟨0x10594, 0x10595, 1⟩, ⟨0x10597, 0x105A1, 1⟩, ⟨0x105A3, 0x105B1, 1⟩,
    ⟨0x105B3, 0x105B9, 1⟩, ⟨0x105BB, 0x105BC, 1⟩]

/-- The Todhri script. -/
def todhri : Script where
  code := "Todr"
  name := "Todhri"
  own := [
    ⟨0x105C0, 0x105F3, 1⟩]
  shared := [
    ⟨0x301, 0x301, 1⟩, ⟨0x304, 0x304, 1⟩, ⟨0x307, 0x307, 1⟩, ⟨0x311, 0x311, 1⟩,
    ⟨0x313, 0x313, 1⟩, ⟨0x35E, 0x35E, 1⟩]

/-- The Ogham script. -/
def ogham : Script where
  code := "Ogam"
  name := "Ogham"
  own := [
    ⟨0x1680, 0x169C, 1⟩]

/-- The Old Permic script. -/
def oldPermic : Script where
  code := "Perm"
  name := "Old_Permic"
  own := [
    ⟨0x10350, 0x1037A, 1⟩]
  shared := [
    ⟨0xB7, 0xB7, 1⟩, ⟨0x300, 0x300, 1⟩, ⟨0x306, 0x308, 1⟩, ⟨0x313, 0x313, 1⟩,
    ⟨0x483, 0x483, 1⟩]

/-- The Shavian script. -/
def shavian : Script where
  code := "Shaw"
  name := "Shavian"
  own := [
    ⟨0x10450, 0x1047F, 1⟩]
  shared := [
    ⟨0xB7, 0xB7, 1⟩]

/-- The scripts of this module. -/
def all : List Script := [
  latin, greek, coptic, cyrillic, glagolitic, armenian, georgian, linearA,
  linearB, cypriot, cyproMinoan, carian, lycian, lydian, oldItalic, runic,
  oldHungarian, gothic, elbasan, caucasianAlbanian, vithkuqi, todhri, ogham,
  oldPermic, shavian]

end Overlay.Text.Script.Europe
