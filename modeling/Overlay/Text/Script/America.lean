/-
Scripts of America.
-/
import Overlay.Text.Script.Basic

namespace Overlay.Text.Script.America

open Category

/-- The Cherokee script. -/
def cherokee : Script where
  code := "Cher"
  name := "Cherokee"
  own := [
    ⟨0x13A0, 0x13F5, 1⟩, ⟨0x13F8, 0x13FD, 1⟩, ⟨0xAB70, 0xABBF, 1⟩]
  shared := [
    ⟨0x300, 0x302, 1⟩, ⟨0x304, 0x304, 1⟩, ⟨0x30B, 0x30C, 1⟩, ⟨0x323, 0x324, 1⟩,
    ⟨0x330, 0x331, 1⟩]

/-- The Canadian Aboriginal script. -/
def canadianAboriginal : Script where
  code := "Cans"
  name := "Canadian_Aboriginal"
  own := [
    ⟨0x1400, 0x167F, 1⟩, ⟨0x18B0, 0x18F5, 1⟩, ⟨0x11AB0, 0x11ABF, 1⟩]

/-- The Osage script. -/
def osage : Script where
  code := "Osge"
  name := "Osage"
  own := [
    ⟨0x104B0, 0x104D3, 1⟩, ⟨0x104D8, 0x104FB, 1⟩]
  shared := [
    ⟨0x301, 0x301, 1⟩, ⟨0x304, 0x304, 1⟩, ⟨0x30B, 0x30B, 1⟩, ⟨0x358, 0x358, 1⟩]

/-- The Deseret script. -/
def deseret : Script where
  code := "Dsrt"
  name := "Deseret"
  own := [
    ⟨0x10400, 0x1044F, 1⟩]

/-- The scripts of this module. -/
def all : List Script := [
  cherokee, canadianAboriginal, osage, deseret]

end Overlay.Text.Script.America
