/-
Tables on identifiers and on the syntax of patterns.
-/
import Overlay.Text.Category.Run

namespace Overlay.Text.Property.Identifier

open Category

/-- Characters that begin an identifier without being letters. -/
def otherStart : List Run := [
  ⟨0x1885, 0x1886, 1⟩, ⟨0x2118, 0x2118, 1⟩, ⟨0x212E, 0x212E, 1⟩,
  ⟨0x309B, 0x309C, 1⟩]

/-- Characters that go on an identifier without being letters, marks, digits or
connectors. -/
def otherContinue : List Run := [
  ⟨0xB7, 0xB7, 1⟩, ⟨0x387, 0x387, 1⟩, ⟨0x1369, 0x1371, 1⟩, ⟨0x19DA, 0x19DA, 1⟩,
  ⟨0x200C, 0x200D, 1⟩, ⟨0x30FB, 0x30FB, 1⟩, ⟨0xFF65, 0xFF65, 1⟩]

/-- Characters that begin an identifier, but whose compatibility form does not.
-/
def unstableStart : List Run := [
  ⟨0x37A, 0x37A, 1⟩, ⟨0xE33, 0xE33, 1⟩, ⟨0xEB3, 0xEB3, 1⟩, ⟨0x309B, 0x309C, 1⟩,
  ⟨0xFC5E, 0xFC63, 1⟩, ⟨0xFDFA, 0xFDFB, 1⟩, ⟨0xFE70, 0xFE7E, 2⟩,
  ⟨0xFF9E, 0xFF9F, 1⟩]

/-- Characters that go on an identifier, but whose compatibility form does not.
-/
def unstableContinue : List Run := [
  ⟨0x37A, 0x37A, 1⟩, ⟨0x309B, 0x309C, 1⟩, ⟨0xFC5E, 0xFC63, 1⟩,
  ⟨0xFDFA, 0xFDFB, 1⟩, ⟨0xFE70, 0xFE7E, 2⟩]

/-- Mathematical characters that may begin an identifier. -/
def mathStart : List Run := [
  ⟨0x2202, 0x2202, 1⟩, ⟨0x2207, 0x2207, 1⟩, ⟨0x221E, 0x221E, 1⟩,
  ⟨0x1D6C1, 0x1D6C1, 1⟩, ⟨0x1D6DB, 0x1D6DB, 1⟩, ⟨0x1D6FB, 0x1D6FB, 1⟩,
  ⟨0x1D715, 0x1D715, 1⟩, ⟨0x1D735, 0x1D735, 1⟩, ⟨0x1D74F, 0x1D74F, 1⟩,
  ⟨0x1D76F, 0x1D76F, 1⟩, ⟨0x1D789, 0x1D789, 1⟩, ⟨0x1D7A9, 0x1D7A9, 1⟩,
  ⟨0x1D7C3, 0x1D7C3, 1⟩]

/-- Mathematical characters that may go on an identifier, beside those that may
begin one. -/
def mathContinue : List Run := [
  ⟨0xB2, 0xB3, 1⟩, ⟨0xB9, 0xB9, 1⟩, ⟨0x2070, 0x2070, 1⟩, ⟨0x2074, 0x207E, 1⟩,
  ⟨0x2080, 0x208E, 1⟩]

/-- Characters that are reserved for the syntax of patterns. -/
def patternSyntax : List Run := [
  ⟨0x21, 0x2F, 1⟩, ⟨0x3A, 0x40, 1⟩, ⟨0x5B, 0x5E, 1⟩, ⟨0x60, 0x60, 1⟩,
  ⟨0x7B, 0x7E, 1⟩, ⟨0xA1, 0xA7, 1⟩, ⟨0xA9, 0xA9, 1⟩, ⟨0xAB, 0xAC, 1⟩,
  ⟨0xAE, 0xAE, 1⟩, ⟨0xB0, 0xB1, 1⟩, ⟨0xB6, 0xB6, 1⟩, ⟨0xBB, 0xBB, 1⟩,
  ⟨0xBF, 0xBF, 1⟩, ⟨0xD7, 0xD7, 1⟩, ⟨0xF7, 0xF7, 1⟩, ⟨0x2010, 0x2027, 1⟩,
  ⟨0x2030, 0x203E, 1⟩, ⟨0x2041, 0x2053, 1⟩, ⟨0x2055, 0x205E, 1⟩,
  ⟨0x2190, 0x245F, 1⟩, ⟨0x2500, 0x2775, 1⟩, ⟨0x2794, 0x2BFF, 1⟩,
  ⟨0x2E00, 0x2E7F, 1⟩, ⟨0x3001, 0x3003, 1⟩, ⟨0x3008, 0x3020, 1⟩,
  ⟨0x3030, 0x3030, 1⟩, ⟨0xFD3E, 0xFD3F, 1⟩, ⟨0xFE45, 0xFE46, 1⟩]

/-- White space in patterns. -/
def patternWhiteSpace : List Run := [
  ⟨0x9, 0xD, 1⟩, ⟨0x20, 0x20, 1⟩, ⟨0x85, 0x85, 1⟩, ⟨0x200E, 0x200F, 1⟩,
  ⟨0x2028, 0x2029, 1⟩]

end Overlay.Text.Property.Identifier
