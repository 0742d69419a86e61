/-
Scripts of the Near East and of Inner Asia, those of antiquity included.
-/
import Overlay.Text.Script.Basic

namespace Overlay.Text.Script.NearEast

open Category

/-- The Hebrew script. -/
def hebrew : Script where
  code := "Hebr"
  name := "Hebrew"
  own := [
    ⟨0x591, 0x5C7, 1⟩, ⟨0x5D0, 0x5EA, 1⟩, ⟨0x5EF, 0x5F4, 1⟩,
    ⟨0xFB1D, 0xFB36, 1⟩, ⟨0xFB38, 0xFB3C, 1⟩, ⟨0xFB3E, 0xFB3E, 1⟩,
    ⟨0xFB40, 0xFB41, 1⟩, ⟨0xFB43, 0xFB44, 1⟩, ⟨0xFB46, 0xFB4F, 1⟩]
  shared := [
    ⟨0x307, 0x308, 1⟩]

/-- The Arabic script. -/
def arabic : Script where
  code := "Arab"
  name := "Arabic"
  own := [
    ⟨0x600, 0x604, 1⟩, ⟨0x606, 0x60B, 1⟩, ⟨0x60D, 0x61A, 1⟩, ⟨0x61C, 0x61E, 1⟩,
    ⟨0x620, 0x63F, 1⟩, ⟨0x641, 0x64A, 1⟩, ⟨0x656, 0x66F, 1⟩, ⟨0x671, 0x6DC, 1⟩,
    ⟨0x6DE, 0x6FF, 1⟩, ⟨0x750, 0x77F, 1⟩, ⟨0x870, 0x88E, 1⟩, ⟨0x890, 0x891, 1⟩,
    ⟨0x897, 0x8E1, 1⟩, ⟨0x8E3, 0x8FF, 1⟩, ⟨0xFB50, 0xFBC2, 1⟩,
    ⟨0xFBD3, 0xFD3D, 1⟩, ⟨0xFD40, 0xFD8F, 1⟩, ⟨0xFD92, 0xFDC7, 1⟩,
    ⟨0xFDCF, 0xFDCF, 1⟩, ⟨0xFDF0, 0xFDFF, 1⟩, ⟨0xFE70, 0xFE74, 1⟩,
    ⟨0xFE76, 0xFEFC, 1⟩, ⟨0x10E60, 0x10E7E, 1⟩, ⟨0x10EC2, 0x10EC4, 1⟩,
    ⟨0x10EFC, 0x10EFF, 1⟩, ⟨0x1EE00, 0x1EE03, 1⟩, ⟨0x1EE05, 0x1EE1F, 1⟩,
    ⟨0x1EE21, 0x1EE22, 1⟩, ⟨0x1EE24, 0x1EE24, 1⟩, ⟨0x1EE27, 0x1EE27, 1⟩,
    ⟨0x1EE29, 0x1EE32, 1⟩, ⟨0x1EE34, 0x1EE37, 1⟩, ⟨0x1EE39, 0x1EE39, 1⟩,
    ⟨0x1EE3B, 0x1EE3B, 1⟩, ⟨0x1EE42, 0x1EE42, 1⟩, ⟨0x1EE47, 0x1EE4B, 2⟩,
    ⟨0x1EE4D, 0x1EE4F, 1⟩, ⟨0x1EE51, 0x1EE52, 1⟩, ⟨0x1EE54, 0x1EE54, 1⟩,
    ⟨0x1EE57, 0x1EE5F, 2⟩, ⟨0x1EE61, 0x1EE62, 1⟩, ⟨0x1EE64, 0x1EE64, 1⟩,
    ⟨0x1EE67, 0x1EE6A, 1⟩, ⟨0x1EE6C, 0x1EE72, 1⟩, ⟨0x1EE74, 0x1EE77, 1⟩,
    ⟨0x1EE79, 0x1EE7C, 1⟩, ⟨0x1EE7E, 0x1EE7E, 1⟩, ⟨0x1EE80, 0x1EE89, 1⟩,
    ⟨0x1EE8B, 0x1EE9B, 1⟩, ⟨0x1EEA1, 0x1EEA3, 1⟩, ⟨0x1EEA5, 0x1EEA9, 1⟩,
    ⟨0x1EEAB, 0x1EEBB, 1⟩, ⟨0x1EEF0, 0x1EEF1, 1⟩]
  shared := [
    ⟨0x60C, 0x60C, 1⟩, ⟨0x61B, 0x61B, 1⟩, ⟨0x61F, 0x61F, 1⟩, ⟨0x640, 0x640, 1⟩,
    ⟨0x64B, 0x655, 1⟩, ⟨0x670, 0x670, 1⟩, ⟨0x204F, 0x204F, 1⟩,
    ⟨0x2E41, 0x2E41, 1⟩, ⟨0xFD3E, 0xFD3F, 1⟩, ⟨0x102E0, 0x102FB, 1⟩]

/-- The Syriac script. -/
def syriac : Script where
  code := "Syrc"
  name := "Syriac"
  own := [
    ⟨0x700, 0x70D, 1⟩, ⟨0x70F, 0x74A, 1⟩, ⟨0x74D, 0x74F, 1⟩, ⟨0x860, 0x86A, 1⟩]
  shared := [
    ⟨0x303, 0x304, 1⟩, ⟨0x307, 0x308, 1⟩, ⟨0x30A, 0x30A, 1⟩, ⟨0x323, 0x325, 1⟩,
    ⟨0x32D, 0x32E, 1⟩, ⟨0x330, 0x331, 1⟩, ⟨0x60C, 0x60C, 1⟩, ⟨0x61B, 0x61C, 1⟩,
    ⟨0x61F, 0x61F, 1⟩, ⟨0x640, 0x640, 1⟩, ⟨0x64B, 0x655, 1⟩, ⟨0x670, 0x670, 1⟩,
    ⟨0x1DF8, 0x1DF8, 1⟩, ⟨0x1DFA, 0x1DFA, 1⟩]

/-- The Samaritan script. -/
def samaritan : Script where
  code := "Samr"
  name := "Samaritan"
  own := [
    ⟨0x800, 0x82D, 1⟩, ⟨0x830, 0x83E, 1⟩]
  shared := [
    ⟨0x2E31, 0x2E31, 1⟩]

/-- The Mandaic script. -/
def mandaic : Script where
  code := "Mand"
  name := "Mandaic"
  own := [
    ⟨0x840, 0x85B, 1⟩, ⟨0x85E, 0x85E, 1⟩]
  shared := [
    ⟨0x640, 0x640, 1⟩]

/-- The Yezidi script. -/
def yezidi : Script where
  code := "Yezi"
  name := "Yezidi"
  own := [
    ⟨0x10E80, 0x10EA9, 1⟩, ⟨0x10EAB, 0x10EAD, 1⟩, ⟨0x10EB0, 0x10EB1, 1⟩]
  shared := [
    ⟨0x60C, 0x60C, 1⟩, ⟨0x61B, 0x61B, 1⟩, ⟨0x61F, 0x61F, 1⟩, ⟨0x660, 0x669, 1⟩]

/-- The Old North Arabian script. -/
def oldNorthArabian : Script where
  code := "Narb"
  name := "Old_North_Arabian"
  own := [
    ⟨0x10A80, 0x10A9F, 1⟩]

/-- The Old South Arabian script. -/
def oldSouthArabian : Script where
  code := "Sarb"
  name := "Old_South_Arabian"
  own := [
    ⟨0x10A60, 0x10A7F, 1⟩]

/-- The Phoenician script. -/
def phoenician : Script where
  code := "Phnx"
  name := "Phoenician"
  own := [
    ⟨0x10900, 0x1091B, 1⟩, ⟨0x1091F, 0x1091F, 1⟩]

/-- The Imperial Aramaic script. -/
def imperialAramaic : Script where
  code := "Armi"
  name := "Imperial_Aramaic"
  own := [
    ⟨0x10840, 0x10855, 1⟩, ⟨0x10857, 0x1085F, 1⟩]

/-- The Manichaean script. -/
def manichaean : Script where
  code := "Mani"
  name := "Manichaean"
  own := [
    ⟨0x10AC0, 0x10AE6, 1⟩, ⟨0x10AEB, 0x10AF6, 1⟩]
  shared := [
    ⟨0x640, 0x640, 1⟩]

/-- The Inscriptional Parthian script. -/
def inscriptionalParthian : Script where
  code := "Prti"
  name := "Inscriptional_Parthian"
  own := [
    ⟨0x10B40, 0x10B55, 1⟩, ⟨0x10B58, 0x10B5F, 1⟩]

/-- The Inscriptional Pahlavi script. -/
def inscriptionalPahlavi : Script where
  code := "Phli"
  name := "Inscriptional_Pahlavi"
  own := [
    ⟨0x10B60, 0x10B72, 1⟩, ⟨0x10B78, 0x10B7F, 1⟩]

/-- The Psalter Pahlavi script. -/
def psalterPahlavi : Script where
  code := "Phlp"
  name := "Psalter_Pahlavi"
  own := [
    ⟨0x10B80, 0x10B91, 1⟩, ⟨0x10B99, 0x10B9C, 1⟩, ⟨0x10BA9, 0x10BAF, 1⟩]
  shared := [
    ⟨0x640, 0x640, 1⟩]

/-- The Avestan script. -/
def avestan : Script where
  code := "Avst"
  name := "Avestan"
  own := [
    ⟨0x10B00, 0x10B35, 1⟩, ⟨0x10B39, 0x10B3F, 1⟩]
  shared := [
    ⟨0xB7, 0xB7, 1⟩, ⟨0x2E30, 0x2E31, 1⟩]

/-- The Chorasmian script. -/
def chorasmian : Script where
  code := "Chrs"
  name := "Chorasmian"
  own := [
    ⟨0x10FB0, 0x10FCB, 1⟩]

/-- The Elymaic script. -/
def elymaic : Script where
  code := "Elym"
  name := "Elymaic"
  own := [
    ⟨0x10FE0, 0x10FF6, 1⟩]

/-- The Nabataean script. -/
def nabataean : Script where
  code := "Nbat"
  name := "Nabataean"
  own := [
    ⟨0x10880, 0x1089E, 1⟩, ⟨0x108A7, 0x108AF, 1⟩]

/-- The Palmyrene script. -/
def palmyrene : Script where
  code := "Palm"
  name := "Palmyrene"
  own := [
    ⟨0x10860, 0x1087F, 1⟩]

/-- The Hatran script. -/
def hatran : Script where
  code := "Hatr"
  name := "Hatran"
  own := [
    ⟨0x108E0, 0x108F2, 1⟩, ⟨0x108F4, 0x108F5, 1⟩, ⟨0x108FB, 0x108FF, 1⟩]

/-- The Cuneiform script. -/
def cuneiform : Script where
  code := "Xsux"
  name := "Cuneiform"
  own := [
    ⟨0x12000, 0x12399, 1⟩, ⟨0x12400, 0x1246E, 1⟩, ⟨0x12470, 0x12474, 1⟩,
    ⟨0x12480, 0x12543, 1⟩]

/-- The Ugaritic script. -/
def ugaritic : Script where
  code := "Ugar"
  name := "Ugaritic"
  own := [
    ⟨0x10380, 0x1039D, 1⟩, ⟨0x1039F, 0x1039F, 1⟩]

/-- The Old Persian script. -/
def oldPersian : Script where
  code := "Xpeo"
  name := "Old_Persian"
  own := [
    ⟨0x103A0, 0x103C3, 1⟩, ⟨0x103C8, 0x103D5, 1⟩]

/-- The Egyptian Hieroglyphs script. -/
def egyptianHieroglyphs : Script where
  code := "Egyp"
  name := "Egyptian_Hieroglyphs"
  own := [
    ⟨0x13000, 0x13455, 1⟩, ⟨0x13460, 0x143FA, 1⟩]

/-- The Meroitic Hieroglyphs script. -/
def meroiticHieroglyphs : Script where
  code := "Mero"
  name := "Meroitic_Hieroglyphs"
  own := [
    ⟨0x10980, 0x1099F, 1⟩]
  shared := [
    ⟨0x205D, 0x205D, 1⟩]

/-- The Meroitic Cursive script. -/
def meroiticCursive : Script where
  code := "Merc"
  name := "Meroitic_Cursive"
  own := [
    ⟨0x109A0, 0x109B7, 1⟩, ⟨0x109BC, 0x109CF, 1⟩, ⟨0x109D2, 0x109FF, 1⟩]

/-- The Anatolian Hieroglyphs script. -/
def anatolianHieroglyphs : Script where
  code := "Hluw"
  name := "Anatolian_Hieroglyphs"
  own := [
    ⟨0x14400, 0x14646, 1⟩]

/-- The Sogdian script. -/
def sogdian : Script where
  code := "Sogd"
  name := "Sogdian"
  own := [
    ⟨0x10F30, 0x10F59, 1⟩]
  shared := [
    ⟨0x640, 0x640, 1⟩]

/-- The Old Sogdian script. -/
def oldSogdian : Script where
  code := "Sogo"
  name := "Old_Sogdian"
  own := [
    ⟨0x10F00, 0x10F27, 1⟩]

/-- The Old Uyghur script. -/
def oldUyghur : Script where
  code := "Ougr"
  name := "Old_Uyghur"
  own := [
    ⟨0x10F70, 0x10F89, 1⟩]
  shared := [
    ⟨0x640, 0x640, 1⟩, ⟨0x10AF2, 0x10AF2, 1⟩]

/-- The Old Turkic script. -/
def oldTurkic : Script where
  code := "Orkh"
  name := "Old_Turkic"
  own := [
    ⟨0x10C00, 0x10C48, 1⟩]
  shared := [
    ⟨0x205A, 0x205A, 1⟩, ⟨0x2E30, 0x2E30, 1⟩]

/-- The scripts of this module. -/
def all : List Script := [
  hebrew, arabic, syriac, samaritan, mandaic, yezidi, oldNorthArabian,
  oldSouthArabian, phoenician, imperialAramaic, manichaean,
  inscriptionalParthian, inscriptionalPahlavi, psalterPahlavi, avestan,
  chorasmian, elymaic, nabataean, palmyrene, hatran, cuneiform, ugaritic,
  oldPersian, egyptianHieroglyphs, meroiticHieroglyphs, meroiticCursive,
  anatolianHieroglyphs, sogdian, oldSogdian, oldUyghur, oldTurkic]

end Overlay.Text.Script.NearEast
