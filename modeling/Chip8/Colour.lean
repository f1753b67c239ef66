/-!
Colours of pixels: three components of one byte each. A palette has one colour for a cell that
is off and one for a cell that is on.
-/

namespace Chip8

structure Colour where
  red : UInt8
  green : UInt8
  blue : UInt8
  deriving DecidableEq, Repr

namespace Colour

def black : Colour := ⟨0x00, 0x00, 0x00⟩

def white : Colour := ⟨0xFF, 0xFF, 0xFF⟩

def components (colour : Colour) : List UInt8 := [colour.red, colour.green, colour.blue]

/-- The components as integers. -/
def toComponents (colour : Colour) : List Int :=
  colour.components.map fun byte => (byte.toNat : Int)

end Colour

structure Palette where
  off : Colour
  on : Colour
  deriving DecidableEq, Repr

/-- White on black. -/
def Palette.standard : Palette := ⟨.black, .white⟩

/-- The colour of a pixel, 0 or 1. -/
def Palette.colour? (palette : Palette) (pixel : UInt8) : Option Colour :=
  if pixel = 0 then some palette.off else if pixel = 1 then some palette.on else none

end Chip8
