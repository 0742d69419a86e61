/-
Scripts of Africa.
-/
import Overlay.Text.Script.Basic

namespace Overlay.Text.Script.Africa

open Category

/-- The Ethiopic script. -/
def ethiopic : Script where
  code := "Ethi"
  name := "Ethiopic"
  own := [
    ⟨0x1200, 0x1248, 1⟩, ⟨0x124A, 0x124D, 1⟩, ⟨0x1250, 0x1256, 1⟩,
    ⟨0x1258, 0x1258, 1⟩, ⟨0x125A, 0x125D, 1⟩, ⟨0x1260, 0x1288, 1⟩,
    ⟨0x128A, 0x128D, 1⟩, ⟨0x1290, 0x12B0, 1⟩, ⟨0x12B2, 0x12B5, 1⟩,
    ⟨0x12B8, 0x12BE, 1⟩, ⟨0x12C0, 0x12C0, 1⟩, ⟨0x12C2, 0x12C5, 1⟩,
    ⟨0x12C8, 0x12D6, 1⟩, ⟨0x12D8, 0x1310, 1⟩, ⟨0x1312, 0x1315, 1⟩,
    ⟨0x1318, 0x135A, 1⟩, ⟨0x135D, 0x137C, 1⟩, ⟨0x1380, 0x1399, 1⟩,
    ⟨0x2D80, 0x2D96, 1⟩, ⟨0x2DA0, 0x2DA6, 1⟩, ⟨0x2DA8, 0x2DAE, 1⟩,
    ⟨0x2DB0, 0x2DB6, 1⟩, ⟨0x2DB8, 0x2DBE, 1⟩, ⟨0x2DC0, 0x2DC6, 1⟩,
    ⟨0x2DC8, 0x2DCE, 1⟩, ⟨0x2DD0, 0x2DD6, 1⟩, ⟨0x2DD8, 0x2DDE, 1⟩,
    ⟨0xAB01, 0xAB06, 1⟩, ⟨0xAB09, 0xAB0E, 1⟩, ⟨0xAB11, 0xAB16, 1⟩,
    ⟨0xAB20, 0xAB26, 1⟩, ⟨0xAB28, 0xAB2E, 1⟩, ⟨0x1E7E0, 0x1E7E6, 1⟩,
    ⟨0x1E7E8, 0x1E7EB, 1⟩, ⟨0x1E7ED, 0x1E7EE, 1⟩, ⟨0x1E7F0, 0x1E7FE, 1⟩]
  shared := [
    ⟨0x30E, 0x30E, 1⟩]

/-- The Osmanya script. -/
def osmanya : Script where
  code := "Osma"
  name := "Osmanya"
  own := [
    ⟨0x10480, 0x1049D, 1⟩, ⟨0x104A0, 0x104A9, 1⟩]

/-- The Tifinagh script. -/
def tifinagh : Script where
  code := "Tfng"
  name := "Tifinagh"
  own := [
    ⟨0x2D30, 0x2D67, 1⟩, ⟨0x2D6F, 0x2D70, 1⟩, ⟨0x2D7F, 0x2D7F, 1⟩]
  shared := [
    ⟨0x302, 0x302, 1⟩, ⟨0x304, 0x304, 1⟩, ⟨0x306, 0x309, 1⟩, ⟨0x323, 0x323, 1⟩]

/-- The Nko script. -/
def nko : Script where
  code := "Nkoo"
  name := "Nko"
  own := [
    ⟨0x7C0, 0x7FA, 1⟩, ⟨0x7FD, 0x7FF, 1⟩]
  shared := [
    ⟨0x60C, 0x60C, 1⟩, ⟨0x61B, 0x61B, 1⟩, ⟨0x61F, 0x61F, 1⟩,
    ⟨0xFD3E, 0xFD3F, 1⟩]

/-- The Vai script. -/
def vai : Script where
  code := "Vaii"
  name := "Vai"
  own := [
    ⟨0xA500, 0xA62B, 1⟩]

/-- The Bamum script. -/
def bamum : Script where
  code := "Bamu"
  name := "Bamum"
  own := [
    ⟨0xA6A0, 0xA6F7, 1⟩, ⟨0x16800, 0x16A38, 1⟩]

/-- The Bassa Vah script. -/
def bassaVah : Script where
  code := "Bass"
  name := "Bassa_Vah"
  own := [
    ⟨0x16AD0, 0x16AED, 1⟩, ⟨0x16AF0, 0x16AF5, 1⟩]

/-- The Mende Kikakui script. -/
def mendeKikakui : Script where
  code := "Mend"
  name := "Mende_Kikakui"
  own := [
    ⟨0x1E800, 0x1E8C4, 1⟩, ⟨0x1E8C7, 0x1E8D6, 1⟩]

/-- The Adlam script. -/
def adlam : Script where
  code := "Adlm"
  name := "Adlam"
  own := [
    ⟨0x1E900, 0x1E94B, 1⟩, ⟨0x1E950, 0x1E959, 1⟩, ⟨0x1E95E, 0x1E95F, 1⟩]
  shared := [
    ⟨0x61F, 0x61F, 1⟩, ⟨0x640, 0x640, 1⟩, ⟨0x204F, 0x204F, 1⟩,
    ⟨0x2E41, 0x2E41, 1⟩]

/-- The Medefaidrin script. -/
def medefaidrin : Script where
  code := "Medf"
  name := "Medefaidrin"
  own := [
    ⟨0x16E40, 0x16E9A, 1⟩]

/-- The Garay script. -/
def garay : Script where
  code := "Gara"
  name := "Garay"
  own := [
    ⟨0x10D40, 0x10D65, 1⟩, ⟨0x10D69, 0x10D85, 1⟩, ⟨0x10D8E, 0x10D8F, 1⟩]
  shared := [
    ⟨0x60C, 0x60C, 1⟩, ⟨0x61B, 0x61B, 1⟩, ⟨0x61F, 0x61F, 1⟩]

/-- The scripts of this module. -/
def all : List Script := [
  ethiopic, osmanya, tifinagh, nko, vai, bamum, bassaVah, mendeKikakui, adlam,
  medefaidrin, garay]

end Overlay.Text.Script.Africa
