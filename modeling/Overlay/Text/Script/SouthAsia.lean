/-
Scripts of South Asia, with Tibetan and Mongolian.
-/
import Overlay.Text.Script.Basic

namespace Overlay.Text.Script.SouthAsia

open Category

/-- The Devanagari script. -/
def devanagari : Script where
  code := "Deva"
  name := "Devanagari"
  own := [
    ⟨0x900, 0x950, 1⟩, ⟨0x955, 0x963, 1⟩, ⟨0x966, 0x97F, 1⟩,
    ⟨0xA8E0, 0xA8FF, 1⟩, ⟨0x11B00, 0x11B09, 1⟩]
  shared := [
    ⟨0x2BC, 0x2BC, 1⟩, ⟨0x951, 0x952, 1⟩, ⟨0x964, 0x965, 1⟩,
    ⟨0x1CD0, 0x1CF6, 1⟩, ⟨0x1CF8, 0x1CF9, 1⟩, ⟨0x20F0, 0x20F0, 1⟩,
    ⟨0xA830, 0xA839, 1⟩]

/-- The Bengali script. -/
def bengali : Script where
  code := "Beng"
  name := "Bengali"
  own := [
    ⟨0x980, 0x983, 1⟩, ⟨0x985, 0x98C, 1⟩, ⟨0x98F, 0x990, 1⟩, ⟨0x993, 0x9A8, 1⟩,
    ⟨0x9AA, 0x9B0, 1⟩, ⟨0x9B2, 0x9B2, 1⟩, ⟨0x9B6, 0x9B9, 1⟩, ⟨0x9BC, 0x9C4, 1⟩,
    ⟨0x9C7, 0x9C8, 1⟩, ⟨0x9CB, 0x9CE, 1⟩, ⟨0x9D7, 0x9D7, 1⟩, ⟨0x9DC, 0x9DD, 1⟩,
    ⟨0x9DF, 0x9E3, 1⟩, ⟨0x9E6, 0x9FE, 1⟩]
  shared := [
    ⟨0x2BC, 0x2BC, 1⟩, ⟨0x951, 0x952, 1⟩, ⟨0x964, 0x965, 1⟩,
    ⟨0x1CD0, 0x1CD0, 1⟩, ⟨0x1CD2, 0x1CD2, 1⟩, ⟨0x1CD5, 0x1CD6, 1⟩,
    ⟨0x1CD8, 0x1CD8, 1⟩, ⟨0x1CE1, 0x1CE1, 1⟩, ⟨0x1CEA, 0x1CEA, 1⟩,
    ⟨0x1CED, 0x1CED, 1⟩, ⟨0x1CF2, 0x1CF2, 1⟩, ⟨0x1CF5, 0x1CF7, 1⟩,
    ⟨0xA8F1, 0xA8F1, 1⟩]

/-- The Gurmukhi script. -/
def gurmukhi : Script where
  code := "Guru"
  name := "Gurmukhi"
  own := [
    ⟨0xA01, 0xA03, 1⟩, ⟨0xA05, 0xA0A, 1⟩, ⟨0xA0F, 0xA10, 1⟩, ⟨0xA13, 0xA28, 1⟩,
    ⟨0xA2A, 0xA30, 1⟩, ⟨0xA32, 0xA33, 1⟩, ⟨0xA35, 0xA36, 1⟩, ⟨0xA38, 0xA39, 1⟩,
    ⟨0xA3C, 0xA3C, 1⟩, ⟨0xA3E, 0xA42, 1⟩, ⟨0xA47, 0xA48, 1⟩, ⟨0xA4B, 0xA4D, 1⟩,
    ⟨0xA51, 0xA51, 1⟩, ⟨0xA59, 0xA5C, 1⟩, ⟨0xA5E, 0xA5E, 1⟩, ⟨0xA66, 0xA76, 1⟩]
  shared := [
    ⟨0x951, 0x952, 1⟩, ⟨0x964, 0x965, 1⟩, ⟨0xA830, 0xA839, 1⟩]

/-- The Gujarati script. -/
def gujarati : Script where
  code := "Gujr"
  name := "Gujarati"
  own := [
    ⟨0xA81, 0xA83, 1⟩, ⟨0xA85, 0xA8D, 1⟩, ⟨0xA8F, 0xA91, 1⟩, ⟨0xA93, 0xAA8, 1⟩,
    ⟨0xAAA, 0xAB0, 1⟩, ⟨0xAB2, 0xAB3, 1⟩, ⟨0xAB5, 0xAB9, 1⟩, ⟨0xABC, 0xAC5, 1⟩,
    ⟨0xAC7, 0xAC9, 1⟩, ⟨0xACB, 0xACD, 1⟩, ⟨0xAD0, 0xAD0, 1⟩, ⟨0xAE0, 0xAE3, 1⟩,
    ⟨0xAE6, 0xAF1, 1⟩, ⟨0xAF9, 0xAFF, 1⟩]
  shared := [
    ⟨0x951, 0x952, 1⟩, ⟨0x964, 0x965, 1⟩, ⟨0xA830, 0xA839, 1⟩]

/-- The Oriya script. -/
def oriya : Script where
  code := "Orya"
  name := "Oriya"
  own := [
    ⟨0xB01, 0xB03, 1⟩, ⟨0xB05, 0xB0C, 1⟩, ⟨0xB0F, 0xB10, 1⟩, ⟨0xB13, 0xB28, 1⟩,
    ⟨0xB2A, 0xB30, 1⟩, ⟨0xB32, 0xB33, 1⟩, ⟨0xB35, 0xB39, 1⟩, ⟨0xB3C, 0xB44, 1⟩,
    ⟨0xB47, 0xB48, 1⟩, ⟨0xB4B, 0xB4D, 1⟩, ⟨0xB55, 0xB57, 1⟩, ⟨0xB5C, 0xB5D, 1⟩,
    ⟨0xB5F, 0xB63, 1⟩, ⟨0xB66, 0xB77, 1⟩]
  shared := [
    ⟨0x951, 0x952, 1⟩, ⟨0x964, 0x965, 1⟩, ⟨0x1CDA, 0x1CDA, 1⟩,
    ⟨0x1CF2, 0x1CF2, 1⟩]

/-- The Tamil script. -/
def tamil : Script where
  code := "Taml"
  name := "Tamil"
  own := [
    ⟨0xB82, 0xB83, 1⟩, ⟨0xB85, 0xB8A, 1⟩, ⟨0xB8E, 0xB90, 1⟩, ⟨0xB92, 0xB95, 1⟩,
    ⟨0xB99, 0xB9A, 1⟩, ⟨0xB9C, 0xB9C, 1⟩, ⟨0xB9E, 0xB9F, 1⟩, ⟨0xBA3, 0xBA4, 1⟩,
    ⟨0xBA8, 0xBAA, 1⟩, ⟨0xBAE, 0xBB9, 1⟩, ⟨0xBBE, 0xBC2, 1⟩, ⟨0xBC6, 0xBC8, 1⟩,
    ⟨0xBCA, 0xBCD, 1⟩, ⟨0xBD0, 0xBD0, 1⟩, ⟨0xBD7, 0xBD7, 1⟩, ⟨0xBE6, 0xBFA, 1⟩,
    ⟨0x11FC0, 0x11FF1, 1⟩, ⟨0x11FFF, 0x11FFF, 1⟩]
  shared := [
    ⟨0x951, 0x952, 1⟩, ⟨0x964, 0x965, 1⟩, ⟨0x1CDA, 0x1CDA, 1⟩,
    ⟨0xA8F3, 0xA8F3, 1⟩, ⟨0x11301, 0x11301, 1⟩, ⟨0x11303, 0x11303, 1⟩,
    ⟨0x1133B, 0x1133C, 1⟩]

/-- The Telugu script. -/
def telugu : Script where
  code := "Telu"
  name := "Telugu"
  own := [
    ⟨0xC00, 0xC0C, 1⟩, ⟨0xC0E, 0xC10, 1⟩, ⟨0xC12, 0xC28, 1⟩, ⟨0xC2A, 0xC39, 1⟩,
    ⟨0xC3C, 0xC44, 1⟩, ⟨0xC46, 0xC48, 1⟩, ⟨0xC4A, 0xC4D, 1⟩, ⟨0xC55, 0xC56, 1⟩,
    ⟨0xC58, 0xC5A, 1⟩, ⟨0xC5D, 0xC5D, 1⟩, ⟨0xC60, 0xC63, 1⟩, ⟨0xC66, 0xC6F, 1⟩,
    ⟨0xC77, 0xC7F, 1⟩]
  shared := [
    ⟨0x951, 0x952, 1⟩, ⟨0x964, 0x965, 1⟩, ⟨0x1CD5, 0x1CD6, 1⟩,
    ⟨0x1CD8, 0x1CD8, 1⟩, ⟨0x1CDA, 0x1CDA, 1⟩, ⟨0x1CF2, 0x1CF2, 1⟩]

/-- The Kannada script. -/
def kannada : Script where
  code := "Knda"
  name := "Kannada"
  own := [
    ⟨0xC80, 0xC8C, 1⟩, ⟨0xC8E, 0xC90, 1⟩, ⟨0xC92, 0xCA8, 1⟩, ⟨0xCAA, 0xCB3, 1⟩,
    ⟨0xCB5, 0xCB9, 1⟩, ⟨0xCBC, 0xCC4, 1⟩, ⟨0xCC6, 0xCC8, 1⟩, ⟨0xCCA, 0xCCD, 1⟩,
    ⟨0xCD5, 0xCD6, 1⟩, ⟨0xCDD, 0xCDE, 1⟩, ⟨0xCE0, 0xCE3, 1⟩, ⟨0xCE6, 0xCEF, 1⟩,
    ⟨0xCF1, 0xCF3, 1⟩]
  shared := [
    ⟨0x951, 0x952, 1⟩, ⟨0x964, 0x965, 1⟩, ⟨0x1CD0, 0x1CD0, 1⟩,
    ⟨0x1CD2, 0x1CD3, 1⟩, ⟨0x1CDA, 0x1CDA, 1⟩, ⟨0x1CF2, 0x1CF2, 1⟩,
    ⟨0x1CF4, 0x1CF4, 1⟩, ⟨0xA830, 0xA835, 1⟩]

/-- The Malayalam script. -/
def malayalam : Script where
  code := "Mlym"
  name := "Malayalam"
  own := [
    ⟨0xD00, 0xD0C, 1⟩, ⟨0xD0E, 0xD10, 1⟩, ⟨0xD12, 0xD44, 1⟩, ⟨0xD46, 0xD48, 1⟩,
    ⟨0xD4A, 0xD4F, 1⟩, ⟨0xD54, 0xD63, 1⟩, ⟨0xD66, 0xD7F, 1⟩]
  shared := [
    ⟨0x951, 0x952, 1⟩, ⟨0x964, 0x965, 1⟩, ⟨0x1CDA, 0x1CDA, 1⟩,
    ⟨0x1CF2, 0x1CF2, 1⟩, ⟨0xA830, 0xA832, 1⟩]

/-- The Thaana script. -/
def thaana : Script where
  code := "Thaa"
  name := "Thaana"
  own := [
    ⟨0x780, 0x7B1, 1⟩]
  shared := [
    ⟨0x60C, 0x60C, 1⟩, ⟨0x61B, 0x61C, 1⟩, ⟨0x61F, 0x61F, 1⟩, ⟨0x660, 0x669, 1⟩,
    ⟨0xFDF2, 0xFDF2, 1⟩, ⟨0xFDFD, 0xFDFD, 1⟩]

/-- The Sinhala script. -/
def sinhala : Script where
  code := "Sinh"
  name := "Sinhala"
  own := [
    ⟨0xD81, 0xD83, 1⟩, ⟨0xD85, 0xD96, 1⟩, ⟨0xD9A, 0xDB1, 1⟩, ⟨0xDB3, 0xDBB, 1⟩,
    ⟨0xDBD, 0xDBD, 1⟩, ⟨0xDC0, 0xDC6, 1⟩, ⟨0xDCA, 0xDCA, 1⟩, ⟨0xDCF, 0xDD4, 1⟩,
    ⟨0xDD6, 0xDD6, 1⟩, ⟨0xDD8, 0xDDF, 1⟩, ⟨0xDE6, 0xDEF, 1⟩, ⟨0xDF2, 0xDF4, 1⟩,
    ⟨0x111E1, 0x111F4, 1⟩]
  shared := [
    ⟨0x964, 0x965, 1⟩, ⟨0x1CF2, 0x1CF2, 1⟩]

/-- The Newa script. -/
def newa : Script where
  code := "Newa"
  name := "Newa"
  own := [
    ⟨0x11400, 0x1145B, 1⟩, ⟨0x1145D, 0x11461, 1⟩]
  shared := [
    ⟨0x951, 0x952, 1⟩, ⟨0x1CD5, 0x1CD5, 1⟩, ⟨0x1CD7, 0x1CD8, 1⟩,
    ⟨0x1CE2, 0x1CE2, 1⟩, ⟨0x1CE9, 0x1CED, 2⟩]

/-- The Tibetan script. -/
def tibetan : Script where
  code := "Tibt"
  name := "Tibetan"
  own := [
    ⟨0xF00, 0xF47, 1⟩, ⟨0xF49, 0xF6C, 1⟩, ⟨0xF71, 0xF97, 1⟩, ⟨0xF99, 0xFBC, 1⟩,
    ⟨0xFBE, 0xFCC, 1⟩, ⟨0xFCE, 0xFD4, 1⟩, ⟨0xFD9, 0xFDA, 1⟩]
  shared := [
    ⟨0x3008, 0x300B, 1⟩]

/-- The Mongolian script. -/
def mongolian : Script where
  code := "Mong"
  name := "Mongolian"
  own := [
    ⟨0x1800, 0x1801, 1⟩, ⟨0x1804, 0x1804, 1⟩, ⟨0x1806, 0x1819, 1⟩,
    ⟨0x1820, 0x1878, 1⟩, ⟨0x1880, 0x18AA, 1⟩, ⟨0x11660, 0x1166C, 1⟩]
  shared := [
    ⟨0x1802, 0x1803, 1⟩, ⟨0x1805, 0x1805, 1⟩, ⟨0x202F, 0x202F, 1⟩,
    ⟨0x3001, 0x3002, 1⟩, ⟨0x3008, 0x300B, 1⟩]

/-- The Limbu script. -/
def limbu : Script where
  code := "Limb"
  name := "Limbu"
  own := [
    ⟨0x1900, 0x191E, 1⟩, ⟨0x1920, 0x192B, 1⟩, ⟨0x1930, 0x193B, 1⟩,
    ⟨0x1940, 0x1940, 1⟩, ⟨0x1944, 0x194F, 1⟩]
  shared := [
    ⟨0x965, 0x965, 1⟩]

/-- The Meetei Mayek script. -/
def meeteiMayek : Script where
  code := "Mtei"
  name := "Meetei_Mayek"
  own := [
    ⟨0xAAE0, 0xAAF6, 1⟩, ⟨0xABC0, 0xABED, 1⟩, ⟨0xABF0, 0xABF9, 1⟩]

/-- The Mro script. -/
def mro : Script where
  code := "Mroo"
  name := "Mro"
  own := [
    ⟨0x16A40, 0x16A5E, 1⟩, ⟨0x16A60, 0x16A69, 1⟩, ⟨0x16A6E, 0x16A6F, 1⟩]

/-- The Warang Citi script. -/
def warangCiti : Script where
  code := "Wara"
  name := "Warang_Citi"
  own := [
    ⟨0x118A0, 0x118F2, 1⟩, ⟨0x118FF, 0x118FF, 1⟩]

/-- The Ol Chiki script. -/
def olChiki : Script where
  code := "Olck"
  name := "Ol_Chiki"
  own := [
    ⟨0x1C50, 0x1C7F, 1⟩]

/-- The Chakma script. -/
def chakma : Script where
  code := "Cakm"
  name := "Chakma"
  own := [
    ⟨0x11100, 0x11134, 1⟩, ⟨0x11136, 0x11147, 1⟩]
  shared := [
    ⟨0x9E6, 0x9EF, 1⟩, ⟨0x1040, 0x1049, 1⟩]

/-- The Lepcha script. -/
def lepcha : Script where
  code := "Lepc"
  name := "Lepcha"
  own := [
    ⟨0x1C00, 0x1C37, 1⟩, ⟨0x1C3B, 0x1C49, 1⟩, ⟨0x1C4D, 0x1C4F, 1⟩]

/-- The Saurashtra script. -/
def saurashtra : Script where
  code := "Saur"
  name := "Saurashtra"
  own := [
    ⟨0xA880, 0xA8C5, 1⟩, ⟨0xA8CE, 0xA8D9, 1⟩]

/-- The Masaram Gondi script. -/
def masaramGondi : Script where
  code := "Gonm"
  name := "Masaram_Gondi"
  own := [
    ⟨0x11D00, 0x11D06, 1⟩, ⟨0x11D08, 0x11D09, 1⟩, ⟨0x11D0B, 0x11D36, 1⟩,
    ⟨0x11D3A, 0x11D3A, 1⟩, ⟨0x11D3C, 0x11D3D, 1⟩, ⟨0x11D3F, 0x11D47, 1⟩,
    ⟨0x11D50, 0x11D59, 1⟩]
  shared := [
    ⟨0x964, 0x965, 1⟩]

/-- The Gunjala Gondi script. -/
def gunjalaGondi : Script where
  code := "Gong"
  name := "Gunjala_Gondi"
  own := [
    ⟨0x11D60, 0x11D65, 1⟩, ⟨0x11D67, 0x11D68, 1⟩, ⟨0x11D6A, 0x11D8E, 1⟩,
    ⟨0x11D90, 0x11D91, 1⟩, ⟨0x11D93, 0x11D98, 1⟩, ⟨0x11DA0, 0x11DA9, 1⟩]
  shared := [
    ⟨0xB7, 0xB7, 1⟩, ⟨0x964, 0x965, 1⟩]

/-- The Ol Onal script. -/
def olOnal : Script where
  code := "Onao"
  name := "Ol_Onal"
  own := [
    ⟨0x1E5D0, 0x1E5FA, 1⟩, ⟨0x1E5FF, 0x1E5FF, 1⟩]
  shared := [
    ⟨0x964, 0x965, 1⟩]

/-- The Wancho script. -/
def wancho : Script where
  code := "Wcho"
  name := "Wancho"
  own := [
    ⟨0x1E2C0, 0x1E2F9, 1⟩, ⟨0x1E2FF, 0x1E2FF, 1⟩]

/-- The Toto script. -/
def toto : Script where
  code := "Toto"
  name := "Toto"
  own := [
    ⟨0x1E290, 0x1E2AE, 1⟩]
  shared := [
    ⟨0x2BC, 0x2BC, 1⟩]

/-- The Nag Mundari script. -/
def nagMundari : Script where
  code := "Nagm"
  name := "Nag_Mundari"
  own := [
    ⟨0x1E4D0, 0x1E4F9, 1⟩]

/-- The Tangsa script. -/
def tangsa : Script where
  code := "Tnsa"
  name := "Tangsa"
  own := [
    ⟨0x16A70, 0x16ABE, 1⟩, ⟨0x16AC0, 0x16AC9, 1⟩]

/-- The Brahmi script. -/
def brahmi : Script where
  code := "Brah"
  name := "Brahmi"
  own := [
    ⟨0x11000, 0x1104D, 1⟩, ⟨0x11052, 0x11075, 1⟩, ⟨0x1107F, 0x1107F, 1⟩]

/-- The Kharoshthi script. -/
def kharoshthi : Script where
  code := "Khar"
  name := "Kharoshthi"
  own := [
    ⟨0x10A00, 0x10A03, 1⟩, ⟨0x10A05, 0x10A06, 1⟩, ⟨0x10A0C, 0x10A13, 1⟩,
    ⟨0x10A15, 0x10A17, 1⟩, ⟨0x10A19, 0x10A35, 1⟩, ⟨0x10A38, 0x10A3A, 1⟩,
    ⟨0x10A3F, 0x10A48, 1⟩, ⟨0x10A50, 0x10A58, 1⟩]

/-- The Bhaiksuki script. -/
def bhaiksuki : Script where
  code := "Bhks"
  name := "Bhaiksuki"
  own := [
    ⟨0x11C00, 0x11C08, 1⟩, ⟨0x11C0A, 0x11C36, 1⟩, ⟨0x11C38, 0x11C45, 1⟩,
    ⟨0x11C50, 0x11C6C, 1⟩]

/-- The Phags Pa script. -/
def phagsPa : Script where
  code := "Phag"
  name := "Phags_Pa"
  own := [
    ⟨0xA840, 0xA877, 1⟩]
  shared := [
    ⟨0x1802, 0x1803, 1⟩, ⟨0x1805, 0x1805, 1⟩, ⟨0x202F, 0x202F, 1⟩,
    ⟨0x3002, 0x3002, 1⟩]

/-- The Marchen script. -/
def marchen : Script where
  code := "Marc"
  name := "Marchen"
  own := [
    ⟨0x11C70, 0x11C8F, 1⟩, ⟨0x11C92, 0x11CA7, 1⟩, ⟨0x11CA9, 0x11CB6, 1⟩]

/-- The Zanabazar Square script. -/
def zanabazarSquare : Script where
  code := "Zanb"
  name := "Zanabazar_Square"
  own := [
    ⟨0x11A00, 0x11A47, 1⟩]

/-- The Soyombo script. -/
def soyombo : Script where
  code := "Soyo"
  name := "Soyombo"
  own := [
    ⟨0x11A50, 0x11AA2, 1⟩]

/-- The Syloti Nagri script. -/
def sylotiNagri : Script where
  code := "Sylo"
  name := "Syloti_Nagri"
  own := [
    ⟨0xA800, 0xA82C, 1⟩]
  shared := [
    ⟨0x964, 0x965, 1⟩, ⟨0x9E6, 0x9EF, 1⟩]

/-- The Kaithi script. -/
def kaithi : Script where
  code := "Kthi"
  name := "Kaithi"
  own := [
    ⟨0x11080, 0x110C2, 1⟩, ⟨0x110CD, 0x110CD, 1⟩]
  shared := [
    ⟨0x966, 0x96F, 1⟩, ⟨0x2E31, 0x2E31, 1⟩, ⟨0xA830, 0xA839, 1⟩]

/-- The Sharada script. -/
def sharada : Script where
  code := "Shrd"
  name := "Sharada"
  own := [
    ⟨0x11180, 0x111DF, 1⟩]
  shared := [
    ⟨0x951, 0x951, 1⟩, ⟨0x1CD7, 0x1CD7, 1⟩, ⟨0x1CD9, 0x1CD9, 1⟩,
    ⟨0x1CDC, 0x1CDD, 1⟩, ⟨0x1CE0, 0x1CE0, 1⟩, ⟨0x1CEA, 0x1CEA, 1⟩,
    ⟨0x1CED, 0x1CED, 1⟩, ⟨0xA830, 0xA835, 1⟩, ⟨0xA838, 0xA838, 1⟩]

/-- The Takri script. -/
def takri : Script where
  code := "Takr"
  name := "Takri"
  own := [
    ⟨0x11680, 0x116B9, 1⟩, ⟨0x116C0, 0x116C9, 1⟩]
  shared := [
    ⟨0x964, 0x965, 1⟩, ⟨0xA830, 0xA839, 1⟩]

/-- The Siddham script. -/
def siddham : Script where
  code := "Sidd"
  name := "Siddham"
  own := [
    ⟨0x11580, 0x115B5, 1⟩, ⟨0x115B8, 0x115DD, 1⟩]

/-- The Mahajani script. -/
def mahajani : Script where
  code := "Mahj"
  name := "Mahajani"
  own := [
    ⟨0x11150, 0x11176, 1⟩]
  shared := [
    ⟨0xB7, 0xB7, 1⟩, ⟨0x964, 0x96F, 1⟩, ⟨0xA830, 0xA839, 1⟩]

/-- The Khojki script. -/
def khojki : Script where
  code := "Khoj"
  name := "Khojki"
  own := [
    ⟨0x11200, 0x11211, 1⟩, ⟨0x11213, 0x11241, 1⟩]
  shared := [
    ⟨0xAE6, 0xAEF, 1⟩, ⟨0xA830, 0xA839, 1⟩]

/-- The Khudawadi script. -/
def khudawadi : Script where
  code := "Sind"
  name := "Khudawadi"
  own := [
    ⟨0x112B0, 0x112EA, 1⟩, ⟨0x112F0, 0x112F9, 1⟩]
  shared := [
    ⟨0x964, 0x965, 1⟩, ⟨0xA830, 0xA839, 1⟩]

/-- The Multani script. -/
def multani : Script where
  code := "Mult"
  name := "Multani"
  own := [
    ⟨0x11280, 0x11286, 1⟩, ⟨0x11288, 0x11288, 1⟩, ⟨0x1128A, 0x1128D, 1⟩,
    ⟨0x1128F, 0x1129D, 1⟩, ⟨0x1129F, 0x112A9, 1⟩]
  shared := [
    ⟨0xA66, 0xA6F, 1⟩]

/-- The Tirhuta script. -/
def tirhuta : Script where
  code := "Tirh"
  name := "Tirhuta"
  own := [
    ⟨0x11480, 0x114C7, 1⟩, ⟨0x114D0, 0x114D9, 1⟩]
  shared := [
    ⟨0x951, 0x952, 1⟩, ⟨0x964, 0x965, 1⟩, ⟨0x1CD5, 0x1CD5, 1⟩,
    ⟨0x1CE2, 0x1CE2, 1⟩, ⟨0x1CF2, 0x1CF2, 1⟩, ⟨0xA830, 0xA839, 1⟩]

/-- The Modi script. -/
def modi : Script where
  code := "Modi"
  name := "Modi"
  own := [
    ⟨0x11600, 0x11644, 1⟩, ⟨0x11650, 0x11659, 1⟩]
  shared := [
    ⟨0xA830, 0xA839, 1⟩]

/-- The Nandinagari script. -/
def nandinagari : Script where
  code := "Nand"
  name := "Nandinagari"
  own := [
    ⟨0x119A0, 0x119A7, 1⟩, ⟨0x119AA, 0x119D7, 1⟩, ⟨0x119DA, 0x119E4, 1⟩]
  shared := [
    ⟨0x951, 0x951, 1⟩, ⟨0x964, 0x965, 1⟩, ⟨0xCE6, 0xCEF, 1⟩,
    ⟨0x1CE9, 0x1CE9, 1⟩, ⟨0x1CF2, 0x1CF2, 1⟩, ⟨0x1CFA, 0x1CFA, 1⟩,
    ⟨0xA830, 0xA835, 1⟩]

/-- The Grantha script. -/
def grantha : Script where
  code := "Gran"
  name := "Grantha"
  own := [
    ⟨0x11300, 0x11303, 1⟩, ⟨0x11305, 0x1130C, 1⟩, ⟨0x1130F, 0x11310, 1⟩,
    ⟨0x11313, 0x11328, 1⟩, ⟨0x1132A, 0x11330, 1⟩, ⟨0x11332, 0x11333, 1⟩,
    ⟨0x11335, 0x11339, 1⟩, ⟨0x1133C, 0x11344, 1⟩, ⟨0x11347, 0x11348, 1⟩,
    ⟨0x1134B, 0x1134D, 1⟩, ⟨0x11350, 0x11350, 1⟩, ⟨0x11357, 0x11357, 1⟩,
    ⟨0x1135D, 0x11363, 1⟩, ⟨0x11366, 0x1136C, 1⟩, ⟨0x11370, 0x11374, 1⟩]
  shared := [
    ⟨0x951, 0x952, 1⟩, ⟨0x964, 0x965, 1⟩, ⟨0xBE6, 0xBF3, 1⟩,
    ⟨0x1CD0, 0x1CD0, 1⟩, ⟨0x1CD2, 0x1CD3, 1⟩, ⟨0x1CF2, 0x1CF4, 1⟩,
    ⟨0x1CF8, 0x1CF9, 1⟩, ⟨0x20F0, 0x20F0, 1⟩, ⟨0x1133B, 0x1133B, 1⟩,
    ⟨0x11FD0, 0x11FD1, 1⟩, ⟨0x11FD3, 0x11FD3, 1⟩]

/-- The Dives Akuru script. -/
def divesAkuru : Script where
  code := "Diak"
  name := "Dives_Akuru"
  own := [
    ⟨0x11900, 0x11906, 1⟩, ⟨0x11909, 0x11909, 1⟩, ⟨0x1190C, 0x11913, 1⟩,
    ⟨0x11915, 0x11916, 1⟩, ⟨0x11918, 0x11935, 1⟩, ⟨0x11937, 0x11938, 1⟩,
    ⟨0x1193B, 0x11946, 1⟩, ⟨0x11950, 0x11959, 1⟩]

/-- The Ahom script. -/
def ahom : Script where
  code := "Ahom"
  name := "Ahom"
  own := [
    ⟨0x11700, 0x1171A, 1⟩, ⟨0x1171D, 0x1172B, 1⟩, ⟨0x11730, 0x11746, 1⟩]

/-- The Sora Sompeng script. -/
def soraSompeng : Script where
  code := "Sora"
  name := "Sora_Sompeng"
  own := [
    ⟨0x110D0, 0x110E8, 1⟩, ⟨0x110F0, 0x110F9, 1⟩]

/-- The Dogra script. -/
def dogra : Script where
  code := "Dogr"
  name := "Dogra"
  own := [
    ⟨0x11800, 0x1183B, 1⟩]
  shared := [
    ⟨0x964, 0x96F, 1⟩, ⟨0xA830, 0xA839, 1⟩]

/-- The Tulu Tigalari script. -/
def tuluTigalari : Script where
  code := "Tutg"
  name := "Tulu_Tigalari"
  own := [
    ⟨0x11380, 0x11389, 1⟩, ⟨0x1138B, 0x1138B, 1⟩, ⟨0x1138E, 0x1138E, 1⟩,
    ⟨0x11390, 0x113B5, 1⟩, ⟨0x113B7, 0x113C0, 1⟩, ⟨0x113C2, 0x113C2, 1⟩,
    ⟨0x113C5, 0x113C5, 1⟩, ⟨0x113C7, 0x113CA, 1⟩, ⟨0x113CC, 0x113D5, 1⟩,
    ⟨0x113D7, 0x113D8, 1⟩, ⟨0x113E1, 0x113E2, 1⟩]
  shared := [
    ⟨0xCE6, 0xCEF, 1⟩, ⟨0x1CF2, 0x1CF2, 1⟩, ⟨0x1CF4, 0x1CF4, 1⟩,
    ⟨0xA830, 0xA835, 1⟩, ⟨0xA8F1, 0xA8F1, 1⟩]

/-- The Gurung Khema script. -/
def gurungKhema : Script where
  code := "Gukh"
  name := "Gurung_Khema"
  own := [
    ⟨0x16100, 0x16139, 1⟩]
  shared := [
    ⟨0x965, 0x965, 1⟩]

/-- The Kirat Rai script. -/
def kiratRai : Script where
  code := "Krai"
  name := "Kirat_Rai"
  own := [
    ⟨0x16D40, 0x16D79, 1⟩]

/-- The Sunuwar script. -/
def sunuwar : Script where
  code := "Sunu"
  name := "Sunuwar"
  own := [
    ⟨0x11BC0, 0x11BE1, 1⟩, ⟨0x11BF0, 0x11BF9, 1⟩]
  shared := [
    ⟨0x300, 0x301, 1⟩, ⟨0x303, 0x303, 1⟩, ⟨0x30D, 0x30D, 1⟩, ⟨0x310, 0x310, 1⟩,
    ⟨0x32D, 0x32D, 1⟩, ⟨0x331, 0x331, 1⟩]

/-- The scripts of this module. -/
def all : List Script := [
  devanagari, bengali, gurmukhi, gujarati, oriya, tamil, telugu, kannada,
  malayalam, thaana, sinhala, newa, tibetan, mongolian, limbu, meeteiMayek,
  mro, warangCiti, olChiki, chakma, lepcha, saurashtra, masaramGondi,
  gunjalaGondi, olOnal, wancho, toto, nagMundari, tangsa, brahmi, kharoshthi,
  bhaiksuki, phagsPa, marchen, zanabazarSquare, soyombo, sylotiNagri, kaithi,
  sharada, takri, siddham, mahajani, khojki, khudawadi, multani, tirhuta,
  modi, nandinagari, grantha, divesAkuru, ahom, soraSompeng, dogra,
  tuluTigalari, gurungKhema, kiratRai, sunuwar]

end Overlay.Text.Script.SouthAsia
