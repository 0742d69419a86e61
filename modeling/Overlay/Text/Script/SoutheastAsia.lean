/-
Scripts of Southeast Asia.
-/
import Overlay.Text.Script.Basic

namespace Overlay.Text.Script.SoutheastAsia

open Category

/-- The Thai script. -/
def thai : Script where
  code := "Thai"
  name := "Thai"
  own := [
    ⟨0xE01, 0xE3A, 1⟩, ⟨0xE40, 0xE5B, 1⟩]
  shared := [
    ⟨0x2BC, 0x2BC, 1⟩, ⟨0x2D7, 0x2D7, 1⟩, ⟨0x303, 0x303, 1⟩, ⟨0x331, 0x331, 1⟩]

/-- The Lao script. -/
def lao : Script where
  code := "Laoo"
  name := "Lao"
  own := [
    ⟨0xE81, 0xE82, 1⟩, ⟨0xE84, 0xE84, 1⟩, ⟨0xE86, 0xE8A, 1⟩, ⟨0xE8C, 0xEA3, 1⟩,
    ⟨0xEA5, 0xEA5, 1⟩, ⟨0xEA7, 0xEBD, 1⟩, ⟨0xEC0, 0xEC4, 1⟩, ⟨0xEC6, 0xEC6, 1⟩,
    ⟨0xEC8, 0xECE, 1⟩, ⟨0xED0, 0xED9, 1⟩, ⟨0xEDC, 0xEDF, 1⟩]

/-- The Myanmar script. -/
def myanmar : Script where
  code := "Mymr"
  name := "Myanmar"
  own := [
    ⟨0x1000, 0x109F, 1⟩, ⟨0xA9E0, 0xA9FE, 1⟩, ⟨0xAA60, 0xAA7F, 1⟩,
    ⟨0x116D0, 0x116E3, 1⟩]
  shared := [
    ⟨0xA92E, 0xA92E, 1⟩]

/-- The Khmer script. -/
def khmer : Script where
  code := "Khmr"
  name := "Khmer"
  own := [
    ⟨0x1780, 0x17DD, 1⟩, ⟨0x17E0, 0x17E9, 1⟩, ⟨0x17F0, 0x17F9, 1⟩,
    ⟨0x19E0, 0x19FF, 1⟩]

/-- The Tai Le script. -/
def taiLe : Script where
  code := "Tale"
  name := "Tai_Le"
  own := [
    ⟨0x1950, 0x196D, 1⟩, ⟨0x1970, 0x1974, 1⟩]
  shared := [
    ⟨0x300, 0x301, 1⟩, ⟨0x307, 0x308, 1⟩, ⟨0x30C, 0x30C, 1⟩,
    ⟨0x1040, 0x1049, 1⟩]

/-- The New Tai Lue script. -/
def newTaiLue : Script where
  code := "Talu"
  name := "New_Tai_Lue"
  own := [
    ⟨0x1980, 0x19AB, 1⟩, ⟨0x19B0, 0x19C9, 1⟩, ⟨0x19D0, 0x19DA, 1⟩,
    ⟨0x19DE, 0x19DF, 1⟩]

/-- The Tai Tham script. -/
def taiTham : Script where
  code := "Lana"
  name := "Tai_Tham"
  own := [
    ⟨0x1A20, 0x1A5E, 1⟩, ⟨0x1A60, 0x1A7C, 1⟩, ⟨0x1A7F, 0x1A89, 1⟩,
    ⟨0x1A90, 0x1A99, 1⟩, ⟨0x1AA0, 0x1AAD, 1⟩]

/-- The Tai Viet script. -/
def taiViet : Script where
  code := "Tavt"
  name := "Tai_Viet"
  own := [
    ⟨0xAA80, 0xAAC2, 1⟩, ⟨0xAADB, 0xAADF, 1⟩]

/-- The Kayah Li script. -/
def kayahLi : Script where
  code := "Kali"
  name := "Kayah_Li"
  own := [
    ⟨0xA900, 0xA92D, 1⟩, ⟨0xA92F, 0xA92F, 1⟩]
  shared := [
    ⟨0xA92E, 0xA92E, 1⟩]

/-- The Cham script. -/
def cham : Script where
  code := "Cham"
  name := "Cham"
  own := [
    ⟨0xAA00, 0xAA36, 1⟩, ⟨0xAA40, 0xAA4D, 1⟩, ⟨0xAA50, 0xAA59, 1⟩,
    ⟨0xAA5C, 0xAA5F, 1⟩]

/-- The Pahawh Hmong script. -/
def pahawhHmong : Script where
  code := "Hmng"
  name := "Pahawh_Hmong"
  own := [
    ⟨0x16B00, 0x16B45, 1⟩, ⟨0x16B50, 0x16B59, 1⟩, ⟨0x16B5B, 0x16B61, 1⟩,
    ⟨0x16B63, 0x16B77, 1⟩, ⟨0x16B7D, 0x16B8F, 1⟩]

/-- The Nyiakeng Puachue Hmong script. -/
def nyiakengPuachueHmong : Script where
  code := "Hmnp"
  name := "Nyiakeng_Puachue_Hmong"
  own := [
    ⟨0x1E100, 0x1E12C, 1⟩, ⟨0x1E130, 0x1E13D, 1⟩, ⟨0x1E140, 0x1E149, 1⟩,
    ⟨0x1E14E, 0x1E14F, 1⟩]

/-- The Pau Cin Hau script. -/
def pauCinHau : Script where
  code := "Pauc"
  name := "Pau_Cin_Hau"
  own := [
    ⟨0x11AC0, 0x11AF8, 1⟩]

/-- The Hanifi Rohingya script. -/
def hanifiRohingya : Script where
  code := "Rohg"
  name := "Hanifi_Rohingya"
  own := [
    ⟨0x10D00, 0x10D27, 1⟩, ⟨0x10D30, 0x10D39, 1⟩]
  shared := [
    ⟨0x60C, 0x60C, 1⟩, ⟨0x61B, 0x61B, 1⟩, ⟨0x61F, 0x61F, 1⟩, ⟨0x640, 0x640, 1⟩,
    ⟨0x6D4, 0x6D4, 1⟩]

/-- The Tagalog script. -/
def tagalog : Script where
  code := "Tglg"
  name := "Tagalog"
  own := [
    ⟨0x1700, 0x1715, 1⟩, ⟨0x171F, 0x171F, 1⟩]
  shared := [
    ⟨0x1735, 0x1736, 1⟩]

/-- The Hanunoo script. -/
def hanunoo : Script where
  code := "Hano"
  name := "Hanunoo"
  own := [
    ⟨0x1720, 0x1734, 1⟩]
  shared := [
    ⟨0x1735, 0x1736, 1⟩]

/-- The Buhid script. -/
def buhid : Script where
  code := "Buhd"
  name := "Buhid"
  own := [
    ⟨0x1740, 0x1753, 1⟩]
  shared := [
    ⟨0x1735, 0x1736, 1⟩]

/-- The Tagbanwa script. -/
def tagbanwa : Script where
  code := "Tagb"
  name := "Tagbanwa"
  own := [
    ⟨0x1760, 0x176C, 1⟩, ⟨0x176E, 0x1770, 1⟩, ⟨0x1772, 0x1773, 1⟩]
  shared := [
    ⟨0x1735, 0x1736, 1⟩]

/-- The Buginese script. -/
def buginese : Script where
  code := "Bugi"
  name := "Buginese"
  own := [
    ⟨0x1A00, 0x1A1B, 1⟩, ⟨0x1A1E, 0x1A1F, 1⟩]
  shared := [
    ⟨0xA9CF, 0xA9CF, 1⟩]

/-- The Balinese script. -/
def balinese : Script where
  code := "Bali"
  name := "Balinese"
  own := [
    ⟨0x1B00, 0x1B4C, 1⟩, ⟨0x1B4E, 0x1B7F, 1⟩]

/-- The Javanese script. -/
def javanese : Script where
  code := "Java"
  name := "Javanese"
  own := [
    ⟨0xA980, 0xA9CD, 1⟩, ⟨0xA9D0, 0xA9D9, 1⟩, ⟨0xA9DE, 0xA9DF, 1⟩]
  shared := [
    ⟨0xA9CF, 0xA9CF, 1⟩]

/-- The Rejang script. -/
def rejang : Script where
  code := "Rjng"
  name := "Rejang"
  own := [
    ⟨0xA930, 0xA953, 1⟩, ⟨0xA95F, 0xA95F, 1⟩]

/-- The Batak script. -/
def batak : Script where
  code := "Batk"
  name := "Batak"
  own := [
    ⟨0x1BC0, 0x1BF3, 1⟩, ⟨0x1BFC, 0x1BFF, 1⟩]

/-- The Sundanese script. -/
def sundanese : Script where
  code := "Sund"
  name := "Sundanese"
  own := [
    ⟨0x1B80, 0x1BBF, 1⟩, ⟨0x1CC0, 0x1CC7, 1⟩]

/-- The Makasar script. -/
def makasar : Script where
  code := "Maka"
  name := "Makasar"
  own := [
    ⟨0x11EE0, 0x11EF8, 1⟩]

/-- The Kawi script. -/
def kawi : Script where
  code := "Kawi"
  name := "Kawi"
  own := [
    ⟨0x11F00, 0x11F10, 1⟩, ⟨0x11F12, 0x11F3A, 1⟩, ⟨0x11F3E, 0x11F5A, 1⟩]

/-- The scripts of this module. -/
def all : List Script := [
  thai, lao, myanmar, khmer, taiLe, newTaiLue, taiTham, taiViet, kayahLi,
  cham, pahawhHmong, nyiakengPuachueHmong, pauCinHau, hanifiRohingya, tagalog,
  hanunoo, buhid, tagbanwa, buginese, balinese, javanese, rejang, batak,
  sundanese, makasar, kawi]

end Overlay.Text.Script.SoutheastAsia
