import Chip8.Capacity
import Chip8.Display.WindowSystem

/-!
What the host asks of a display: to take a resolution, to draw a frame of one byte a pixel, and
to show a title. Each of them can fail, and leaves a display in every case.
-/

namespace Chip8

namespace Display

inductive Fault where
  /-- A palette takes one colour for each state of a pixel. -/
  | colourCount
  /-- A colour has three components of one byte each. -/
  | colourComponents
  /-- What was entered for a colour is no list of numbers, or has fractions where bytes are
  wanted. -/
  | colourUnusable
  /-- What was entered for the scale is no number. -/
  | scaleUnusable
  /-- The number of pixels is not that of the resolution. -/
  | frameSize
  /-- No window could be made, for a reason in words. -/
  | noWindow (reason : String)
  /-- The window system has refused something else. -/
  | system (trouble : WindowSystem.Trouble)
  /-- The bytes of the picture cannot be counted. -/
  | beyondWords
  /-- A pixel has no colour. -/
  | pixelValue
  deriving DecidableEq, Repr

def Fault.message : Fault → String
  | .colourCount => "Exactly two colours are required (pixel off, pixel on)."
  | .colourComponents => "Colours must be RGB triplets with components from 0 to 255."
  | .colourUnusable => "A colour is no list of whole numbers"
  | .scaleUnusable => "The scale is no number"
  | .frameSize => "Frame size does not match the display resolution."
  | .noWindow reason => "Unable to create the display window: " ++ reason
  | .system trouble => trouble.message
  | .beyondWords => Capacity.refusal
  | .pixelValue => "A pixel is neither 0 nor 1"

end Display

/-- A display of a host. What is refused may leave a trace on the display, so the answer is the
display in every case. -/
class Display (δ : Type) where
  setResolution : δ → Int → Int → δ × Option Display.Fault
  drawFrame : δ → List UInt8 → δ × Option Display.Fault
  setTitle : δ → String → δ × Option Display.Fault

end Chip8
