import Chip8.Banner
import Chip8.Display.Canvas

/-!
A display in a window. Beside what a canvas keeps there is a buffer with the three colour bytes of
every pixel, which each frame paints anew and hands over to the window system, to be enlarged to the
size of the window.

The window keeps what it has asked of the window system. What is seen in the end is a matter of
these calls alone. The scale may be a fraction, but components of colours may not.
-/

namespace Chip8

structure Window where
  canvas : Canvas
  palette : Palette
  /-- The colour bytes of the frame, none before a resolution has pixels. -/
  buffer : Option (List UInt8)
  system : WindowSystem
  /-- What has been asked of the window system, oldest first. -/
  calls : List WindowSystem.Call

namespace Window

/-! ### Opening -/

/-- The scale, which is the width of the window, if no other is given. -/
def defaultScale : Number := .whole 512

/-- Width and height of the window at a scale. The height is half the width, rounded down. -/
def scaledSize : Number → Number × Number
  | .whole scale => (.whole scale, .whole (scale.fdiv 2))
  | .real scale =>
      (.real scale, .real (if -2.0 ≤ scale && scale < 0.0 then -1.0 else (scale / 2.0).floor))

/-- Why there is no display, and whether a window was opened by then. -/
structure Refusal where
  fault : Display.Fault
  opened : Bool
  deriving DecidableEq, Repr

/-- The scale that was entered. -/
def scaleOf : Option (Entry Number) → Except Display.Fault Number
  | none => .ok defaultScale
  | some (.value scale) => .ok scale
  | some .unusable => .error .scaleUnusable

/-- The byte that was entered for a component. -/
def byteOf : Entry Number → Except Display.Fault UInt8
  | .value (.whole number) => .ok (UInt8.ofNat number.toNat)
  | .value (.real _) | .unusable => .error .colourUnusable

/-- The colour that was entered. -/
def colourOf : ColourEntry → Except Display.Fault Colour
  | .value [red, green, blue] => return ⟨← byteOf red, ← byteOf green, ← byteOf blue⟩
  | .value _ => .error .colourComponents
  | .unusable => .error .colourUnusable

/-- The palette of colours that have been checked, white on black if there are none. -/
def paletteOf : Option (List ColourEntry) → Except Display.Fault Palette
  | none => .ok .standard
  | some [off, on] => return ⟨← colourOf off, ← colourOf on⟩
  | some _ => .error .colourCount

/-- What is made of trouble with a new window. The reason of a refusal is passed on in words. -/
def faultOfOpening : WindowSystem.Trouble → Display.Fault
  | .refused reason => .noWindow reason
  | trouble => .system trouble

/-- Opens a window. It is there before the colours are checked. -/
def create (system : WindowSystem) (scale : Option (Entry Number))
    (colours : Option (List ColourEntry)) : Except Refusal Window := do
  let calls ← (system.request [] .start).mapError fun trouble =>
    { fault := .system trouble, opened := false }
  let scale ← (scaleOf scale).mapError fun fault => { fault, opened := false }
  let (width, height) := scaledSize scale
  let calls ← (system.request calls (.window width height)).mapError fun trouble =>
    { fault := faultOfOpening trouble, opened := false }
  let canvas ← (Canvas.create (some scale) colours).mapError fun fault => { fault, opened := true }
  let palette ← (paletteOf colours).mapError fun fault => { fault, opened := true }
  let calls ← (system.request calls (.caption Banner.name)).mapError fun trouble =>
    { fault := .system trouble, opened := true }
  return { canvas := canvas.setTitle Banner.name, palette, buffer := none, system, calls }

/-- The size of the window, to which pictures are enlarged. -/
def size (window : Window) : Number × Number := scaledSize window.canvas.scale

/-! ### Asking the window system -/

/-- Makes a call, which is kept whether it fails or not. -/
def ask (window : Window) (call : WindowSystem.Call) : Window × Option Display.Fault :=
  ({ window with calls := window.calls ++ [call] },
    (window.system.trouble? window.calls call).map .system)

/-- Makes calls one after the other, up to the first that fails. -/
def askAll (window : Window) : List WindowSystem.Call → Window × Option Display.Fault
  | [] => (window, none)
  | call :: rest =>
      match window.ask call with
      | (window, none) => window.askAll rest
      | (window, some fault) => (window, some fault)

/-- Closes the window, which always succeeds. -/
def close (window : Window) : Window := { window with calls := window.calls ++ [.stop] }

/-- The window has not been closed. -/
def isOpen (window : Window) : Bool := !window.calls.contains .stop

/-! ### Drawing -/

/-- The buffer for a number of pixels, all of one colour. A negative number makes it empty. -/
def bufferOf (colour : Colour) (pixels : Int) : Except Display.Fault (Option (List UInt8)) :=
  if pixels = 0 then
    .ok none
  else if Capacity.IsWord pixels ∧ Capacity.IsWord (3 * pixels.toNat) then
    .ok (some (List.replicate pixels.toNat colour.components).flatten)
  else
    .error .beyondWords

/-- Takes a resolution. The buffer is filled with the colour of pixels that are off; it stays as it
is if the bytes of a new one cannot be counted. -/
def setResolution (window : Window) (width height : Int) : Window × Option Display.Fault :=
  let window := { window with canvas := window.canvas.setResolution width height }
  match bufferOf window.palette.off (width * height) with
  | .ok buffer => ({ window with buffer }, none)
  | .error fault => (window, some fault)

/-- Writes the colours of pixels over the front of a buffer, up to the first pixel that has no
colour. -/
def paint (palette : Palette) : (pixels buffer : List UInt8) → List UInt8 × Option Display.Fault
  | [], buffer => (buffer, none)
  | pixel :: rest, buffer =>
      match palette.colour? pixel with
      | none => (buffer, some .pixelValue)
      | some colour =>
          let (painted, fault) := paint palette rest (buffer.drop 3)
          (colour.components ++ painted, fault)

/-- The calls that bring a picture into the window. -/
def showing (window : Window) (picture : List UInt8) : List WindowSystem.Call :=
  [.picture picture window.canvas.width window.canvas.height,
    .enlarge window.size.1 window.size.2, .place, .flip]

/-- Draws a frame: it is recorded, painted into the buffer and shown. -/
def drawFrame (window : Window) (pixels : List UInt8) : Window × Option Display.Fault :=
  match window.canvas.drawFrame pixels with
  | (canvas, some fault) => ({ window with canvas }, some fault)
  | (canvas, none) =>
      let window := { window with canvas }
      match window.buffer with
      | none | some [] => (window, none)
      | some buffer =>
          match paint window.palette pixels buffer with
          | (painted, some fault) => ({ window with buffer := some painted }, some fault)
          | (painted, none) =>
              { window with buffer := some painted }.askAll (window.showing painted)

/-- Takes a title, and makes it the caption of the window. -/
def setTitle (window : Window) (title : String) : Window × Option Display.Fault :=
  { window with canvas := window.canvas.setTitle title }.ask (.caption title)

instance : Display Window where
  setResolution := setResolution
  drawFrame := drawFrame
  setTitle := setTitle

end Window

end Chip8
