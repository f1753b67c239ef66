import Chip8.Colour
import Chip8.Display
import Chip8.Entry
import Chip8.Number

/-!
A display without a window. It keeps what it was told, so that the last frame and title can be
looked at; the scale and the colours are of no use to it, but the colours are checked.
-/

namespace Chip8

/-- A colour as it is entered, by its components. -/
abbrev ColourEntry := Entry (List (Entry Number))

structure Canvas where
  scale : Number
  width : Int := 0
  height : Int := 0
  title : String := ""
  frame : Option (List UInt8) := none
  deriving DecidableEq, Repr

namespace Canvas

/-- A component is a number that a byte can hold, or one in between. -/
def checkComponent : Entry Number → Except Display.Fault Unit
  | .unusable => .error .colourUnusable
  | .value number => if number.isWithin 0 0xFF then .ok () else .error .colourComponents

/-- A colour has three components. They are counted before any of them is looked at, and the first
that is refused counts. -/
def checkColour : ColourEntry → Except Display.Fault Unit
  | .unusable => .error .colourUnusable
  | .value [red, green, blue] => do
      checkComponent red
      checkComponent green
      checkComponent blue
  | .value _ => .error .colourComponents

/-- There are two colours. Their number is checked before their components. -/
def checkColours : List ColourEntry → Except Display.Fault Unit
  | [off, on] => do
      checkColour off
      checkColour on
  | _ => .error .colourCount

/-- A canvas of scale 1. -/
def standard : Canvas := { scale := .whole 1 }

/-- The standard canvas, as far as nothing else is given. -/
def create (scale : Option Number) (colours : Option (List ColourEntry)) :
    Except Display.Fault Canvas := do
  if let some colours := colours then
    checkColours colours
  return { scale := scale.getD standard.scale }

def setResolution (canvas : Canvas) (width height : Int) : Canvas :=
  { canvas with width, height }

/-- Keeps a frame of one byte a pixel. -/
def drawFrame (canvas : Canvas) (pixels : List UInt8) : Canvas × Option Display.Fault :=
  if (pixels.length : Int) = canvas.width * canvas.height then
    ({ canvas with frame := some pixels }, none)
  else
    (canvas, some .frameSize)

def setTitle (canvas : Canvas) (title : String) : Canvas := { canvas with title }

/-- Drops the last frame. -/
def forgetFrame (canvas : Canvas) : Canvas := { canvas with frame := none }

instance : Display Canvas where
  setResolution canvas width height := (canvas.setResolution width height, none)
  drawFrame := drawFrame
  setTitle canvas title := (canvas.setTitle title, none)

end Canvas

end Chip8
