import Chip8.Display.Window

/-!
The buffer of a window, painted by frames.

* `shades`, `Painted`, `Overpainted` — the colour bytes of pixels, a buffer that starts with them,
  and what they make of a buffer that was there before.
* `paint_append` — pixels with a colour are painted, and a pixel without one ends the painting.
* `Counted`, `Sized` — whether a buffer can be made, and how long it is.
* `Request`, `after` — resolutions and frames, one after the other.
* `Fitted` — a window with three bytes for each pixel of its resolution. Every request keeps one.
* `buffer_of_requests` — what any requests leave of the buffer, and what one more does to it.
* `buffer_of_resolution_beyond_words` — a resolution for which there is no buffer.

The window system may refuse what it likes: it is asked when the buffer is painted already.
-/

namespace Chip8

/-! ### Colours -/

namespace Palette

variable {palette : Palette} {pixel : UInt8} {pixels : List UInt8}

theorem exists_colour? (known : pixel < 2) : ∃ colour, palette.colour? pixel = some colour := by
  have low : pixel.toNat < 2 := UInt8.lt_iff_toNat_lt.mp known
  obtain zero | one : pixel.toNat = 0 ∨ pixel.toNat = 1 := by omega
  · obtain rfl : pixel = 0 := UInt8.toNat_inj.mp zero
    exact ⟨palette.off, rfl⟩
  · obtain rfl : pixel = 1 := UInt8.toNat_inj.mp one
    exact ⟨palette.on, rfl⟩

theorem colour?_of_le (unknown : 2 ≤ pixel) : palette.colour? pixel = none := by
  have high : 2 ≤ pixel.toNat := UInt8.le_iff_toNat_le.mp unknown
  unfold colour?
  rw [if_neg, if_neg]
  all_goals
    rintro rfl
    contradiction

/-- The colour bytes of pixels, one after the other. -/
def shades (palette : Palette) (pixels : List UInt8) : List UInt8 :=
  pixels.flatMap fun pixel => (palette.colour? pixel).elim [] Colour.components

theorem shades_cons {colour : Colour} (coloured : palette.colour? pixel = some colour)
    (rest : List UInt8) :
    palette.shades (pixel :: rest) = colour.components ++ palette.shades rest := by
  rw [shades, List.flatMap_cons, coloured]
  rfl

theorem length_shades (known : ∀ pixel ∈ pixels, pixel < 2) :
    (palette.shades pixels).length = 3 * pixels.length := by
  induction pixels with
  | nil => rfl
  | cons pixel rest ih =>
      obtain ⟨first, known⟩ := List.forall_mem_cons.mp known
      obtain ⟨colour, coloured⟩ := palette.exists_colour? first
      rw [shades_cons coloured, List.length_append, ih known, List.length_cons, Nat.mul_succ]
      exact Nat.add_comm 3 _

/-- The buffer starts with the colours of the pixels, each of them in three bytes. -/
def Painted (palette : Palette) (pixels buffer : List UInt8) : Prop :=
  ∀ index pixel, pixels[index]? = some pixel →
    ∃ colour, palette.colour? pixel = some colour ∧
      ∀ component < 3, buffer[3 * index + component]? = colour.components[component]?

theorem painted_shades (known : ∀ pixel ∈ pixels, pixel < 2) (tail : List UInt8) :
    palette.Painted pixels (palette.shades pixels ++ tail) := by
  induction pixels with
  | nil => exact nofun
  | cons first rest ih =>
      obtain ⟨low, known⟩ := List.forall_mem_cons.mp known
      obtain ⟨colour, coloured⟩ := palette.exists_colour? low
      rw [shades_cons coloured, List.append_assoc]
      intro index pixel found
      cases index with
      | zero =>
          obtain rfl : first = pixel := Option.some.inj found
          refine ⟨colour, coloured, fun component below => ?_⟩
          rw [Nat.mul_zero, Nat.zero_add]
          exact List.getElem?_append_left below
      | succ index =>
          obtain ⟨other, shaded, bytes⟩ := ih known index pixel found
          refine ⟨other, shaded, fun component below => ?_⟩
          rw [← bytes component below, Nat.mul_succ, Nat.add_right_comm]
          exact List.getElem?_append_right (Nat.le_add_left _ _)

/-- What pixels make of a buffer: it starts with their colours, and nothing behind them has
changed. -/
structure Overpainted (palette : Palette) (pixels old new : List UInt8) : Prop where
  painted : palette.Painted pixels new
  kept : ∀ index, 3 * pixels.length ≤ index → new[index]? = old[index]?
  length_eq : new.length = max old.length (3 * pixels.length)

theorem overpainted_shades (known : ∀ pixel ∈ pixels, pixel < 2) (old : List UInt8) :
    palette.Overpainted pixels old (palette.shades pixels ++ old.drop (3 * pixels.length)) := by
  have shaded : (palette.shades pixels).length = 3 * pixels.length := length_shades known
  constructor
  case painted => exact painted_shades known _
  case kept =>
    intro index behind
    rw [List.getElem?_append_right (shaded ▸ behind), shaded, List.getElem?_drop,
      Nat.add_sub_of_le behind]
  case length_eq =>
    rw [List.length_append, shaded, List.length_drop]
    omega

end Palette

theorem Canvas.eq_of_create {scale : Option Number} {colours : Option (List ColourEntry)}
    {canvas : Canvas} (created : create scale colours = .ok canvas) :
    canvas = { scale := scale.getD standard.scale } := by
  cases colours with
  | none => exact (Except.ok.inj created).symm
  | some colours =>
      unfold create at created
      dsimp only at created
      cases checked : checkColours colours with
      | error fault =>
          rw [checked] at created
          cases created
      | ok =>
          rw [checked] at created
          exact (Except.ok.inj created).symm

namespace Window

open Display (Fault)

variable {palette : Palette} {pixels : List UInt8}

/-! ### Painting -/

theorem paint_cons {pixel : UInt8} {colour : Colour}
    (coloured : palette.colour? pixel = some colour) (rest buffer : List UInt8) :
    paint palette (pixel :: rest) buffer =
      (colour.components ++ (paint palette rest (buffer.drop 3)).1,
        (paint palette rest (buffer.drop 3)).2) := by
  rw [paint, coloured]

/-- A pixel that has no colour ends the painting. -/
theorem paint_cons_of_le {pixel : UInt8} (unknown : 2 ≤ pixel) (rest buffer : List UInt8) :
    paint palette (pixel :: rest) buffer = (buffer, some .pixelValue) := by
  rw [paint, Palette.colour?_of_le unknown]

theorem paint_append {before : List UInt8} (known : ∀ pixel ∈ before, pixel < 2)
    (rest buffer : List UInt8) :
    paint palette (before ++ rest) buffer =
      (palette.shades before ++ (paint palette rest (buffer.drop (3 * before.length))).1,
        (paint palette rest (buffer.drop (3 * before.length))).2) := by
  induction before generalizing buffer with
  | nil => rfl
  | cons pixel before ih =>
      obtain ⟨first, known⟩ := List.forall_mem_cons.mp known
      obtain ⟨colour, coloured⟩ := palette.exists_colour? first
      rw [List.cons_append, paint_cons coloured, ih known, Palette.shades_cons coloured,
        List.drop_drop, List.append_assoc, List.length_cons, Nat.mul_succ, Nat.add_comm 3]

theorem paint_of_known (known : ∀ pixel ∈ pixels, pixel < 2) (buffer : List UInt8) :
    paint palette pixels buffer =
      (palette.shades pixels ++ buffer.drop (3 * pixels.length), none) := by
  have painted := @paint_append palette _ known [] buffer
  rwa [List.append_nil, paint] at painted

/-- Painting does not shorten a buffer, and not lengthen one that has room for the pixels. -/
theorem length_paint (palette : Palette) (pixels buffer : List UInt8) :
    buffer.length ≤ (paint palette pixels buffer).1.length ∧
      (paint palette pixels buffer).1.length ≤ max buffer.length (3 * pixels.length) := by
  induction pixels generalizing buffer with
  | nil => exact ⟨Nat.le_refl _, Nat.le_max_left _ _⟩
  | cons pixel rest ih =>
      cases coloured : palette.colour? pixel with
      | none =>
          rw [paint, coloured]
          exact ⟨Nat.le_refl _, Nat.le_max_left _ _⟩
      | some colour =>
          obtain ⟨longer, shorter⟩ := ih (buffer.drop 3)
          have three : colour.components.length = 3 := rfl
          rw [List.length_drop] at longer shorter
          rw [paint_cons coloured, List.length_append, List.length_cons, three]
          constructor <;> omega

/-! ### Buffers -/

/-- The bytes of so many pixels can be counted. -/
def Counted (pixels : Nat) : Prop := Capacity.IsWord (3 * pixels)

instance (pixels : Nat) : Decidable (Counted pixels) :=
  inferInstanceAs (Decidable (Capacity.IsWord _))

/-- Three bytes for each pixel, or no buffer if there are no pixels. -/
def Sized (pixels : Nat) (buffer : Option (List UInt8)) : Prop :=
  (buffer = none ↔ pixels = 0) ∧ ∀ bytes, buffer = some bytes → bytes.length = 3 * pixels

theorem Sized.of_length_eq {count : Nat} {bytes others : List UInt8}
    (sized : Sized count (some bytes)) (same : others.length = bytes.length) :
    Sized count (some others) := by
  refine ⟨iff_of_false nofun (mt sized.1.mpr nofun), ?_⟩
  rintro _ ⟨⟩
  exact same.trans (sized.2 bytes rfl)

/-- The buffer of pixels that are off. -/
def blank (palette : Palette) (pixels : Nat) : Option (List UInt8) :=
  if pixels = 0 then none else some (palette.shades (List.replicate pixels 0))

theorem known_replicate (pixels : Nat) :
    ∀ pixel ∈ List.replicate pixels (0 : UInt8), pixel < 2 := by
  intro pixel among
  rw [List.eq_of_mem_replicate among]
  decide

theorem length_shades_replicate (palette : Palette) (pixels : Nat) :
    (palette.shades (List.replicate pixels 0)).length = 3 * pixels := by
  rw [Palette.length_shades (known_replicate pixels), List.length_replicate]

theorem sized_blank (palette : Palette) (pixels : Nat) : Sized pixels (blank palette pixels) := by
  unfold blank
  split
  next empty => exact ⟨iff_of_true rfl empty, nofun⟩
  next filled =>
    refine ⟨iff_of_false nofun filled, ?_⟩
    rintro bytes ⟨⟩
    exact length_shades_replicate palette pixels

theorem blank_ne (palette : Palette) (pixels : Nat) : blank palette pixels ≠ some [] := by
  intro empty
  have short : 0 = 3 * pixels := (sized_blank palette pixels).2 [] empty
  obtain rfl : pixels = 0 := by omega
  cases empty

theorem painted_blank {pixels : Nat} {bytes : List UInt8}
    (buffer : blank palette pixels = some bytes) :
    palette.Painted (List.replicate pixels 0) bytes := by
  unfold blank at buffer
  split at buffer
  next => cases buffer
  next =>
    obtain rfl := Option.some.inj buffer
    rw [← List.append_nil (palette.shades _)]
    exact Palette.painted_shades (known_replicate pixels) []

theorem bufferOf_of_counted (palette : Palette) {pixels : Nat} (counted : Counted pixels) :
    bufferOf palette.off pixels = .ok (blank palette pixels) := by
  unfold bufferOf blank
  by_cases empty : pixels = 0
  · subst empty
    rfl
  · have word : Capacity.IsWord pixels :=
      Capacity.isWord_of_le (Int.natCast_nonneg _) (by omega) counted
    rw [if_neg (Int.natCast_ne_zero.mpr empty), if_pos ⟨word, counted⟩, if_neg empty,
      Int.toNat_natCast, Palette.shades, List.flatMap_replicate]
    rfl

theorem bufferOf_of_not_counted (colour : Colour) {pixels : Nat} (many : ¬ Counted pixels) :
    bufferOf colour pixels = .error .beyondWords := by
  have filled : (pixels : Int) ≠ 0 := by
    rintro empty
    obtain rfl : pixels = 0 := Int.natCast_eq_zero.mp empty
    exact many (by decide)
  unfold bufferOf
  rw [if_neg filled, if_neg]
  rintro ⟨-, counted⟩
  exact many counted

/-! ### Resolutions -/

theorem setResolution_of_counted (window : Window) {width height : Nat}
    (counted : Counted (width * height)) :
    window.setResolution width height =
      ({ window with
          canvas := window.canvas.setResolution width height
          buffer := blank window.palette (width * height) }, none) := by
  unfold setResolution
  dsimp only
  rw [← Int.natCast_mul, bufferOf_of_counted window.palette counted]

/-- If the bytes of a new buffer cannot be counted, the one that is there stays. -/
theorem setResolution_of_not_counted (window : Window) {width height : Nat}
    (many : ¬ Counted (width * height)) :
    window.setResolution width height =
      ({ window with canvas := window.canvas.setResolution width height }, some .beyondWords) := by
  unfold setResolution
  dsimp only
  rw [← Int.natCast_mul, bufferOf_of_not_counted window.palette.off many]

/-! ### Frames -/

/-- The window that has recorded a frame, and not yet painted it. -/
def recorded (window : Window) (pixels : List UInt8) : Window :=
  { window with canvas := { window.canvas with frame := some pixels } }

/-- What is asked of the window system changes nothing of the window but the calls. -/
theorem exists_askAll (window : Window) (requested : List WindowSystem.Call) :
    ∃ calls fault, window.askAll requested = ({ window with calls }, fault) := by
  induction requested generalizing window with
  | nil => exact ⟨window.calls, none, rfl⟩
  | cons call rest ih =>
      unfold askAll ask
      cases window.system.trouble? window.calls call with
      | some trouble => exact ⟨_, _, rfl⟩
      | none => exact ih { window with calls := window.calls ++ [call] }

/-- A window with a palette and a resolution. If the bytes of its pixels can be counted, it has
three of them for each pixel. -/
structure Fitted (window : Window) (palette : Palette) (width height : Nat) : Prop where
  coloured : window.palette = palette
  wide : window.canvas.width = width
  high : window.canvas.height = height
  sized : Counted (width * height) → Sized (width * height) window.buffer
  filled : window.buffer ≠ some []

namespace Fitted

variable {window : Window} {width height : Nat} {old : List UInt8}

theorem drawFrame_of_length_ne (fitted : window.Fitted palette width height)
    (wrong : pixels.length ≠ width * height) :
    window.drawFrame pixels = (window, some .frameSize) := by
  unfold drawFrame Canvas.drawFrame
  rw [fitted.wide, fitted.high, if_neg (by exact_mod_cast wrong)]

theorem canvas_drawFrame (fitted : window.Fitted palette width height)
    (right : pixels.length = width * height) :
    window.canvas.drawFrame pixels = ((window.recorded pixels).canvas, none) := by
  refine if_pos ?_
  rw [fitted.wide, fitted.high]
  exact_mod_cast right

/-- A frame of the right length is recorded, painted over the buffer if there is one, and shown if
it has been painted to its end. -/
theorem drawFrame_eq (fitted : window.Fitted palette width height)
    (right : pixels.length = width * height) :
    window.drawFrame pixels =
      match window.buffer with
      | none | some [] => (window.recorded pixels, none)
      | some old =>
          match paint palette pixels old with
          | (new, some fault) => ({ window.recorded pixels with buffer := some new }, some fault)
          | (new, none) =>
              { window.recorded pixels with buffer := some new }.askAll (window.showing new) := by
  unfold drawFrame
  rw [fitted.canvas_drawFrame right, ← fitted.coloured]
  rfl

theorem drawFrame_of_absent (fitted : window.Fitted palette width height)
    (right : pixels.length = width * height) (absent : window.buffer = none) :
    window.drawFrame pixels = (window.recorded pixels, none) := by
  rw [fitted.drawFrame_eq right, absent]

theorem drawFrame_of_present (fitted : window.Fitted palette width height)
    (right : pixels.length = width * height) (held : window.buffer = some old) :
    window.drawFrame pixels =
      match paint palette pixels old with
      | (new, some fault) => ({ window.recorded pixels with buffer := some new }, some fault)
      | (new, none) =>
          { window.recorded pixels with buffer := some new }.askAll (window.showing new) := by
  have filled : old ≠ [] := by
    rintro rfl
    exact fitted.filled held
  obtain ⟨byte, rest, rfl⟩ := List.exists_cons_of_ne_nil filled
  rw [fitted.drawFrame_eq right, held]

/-- A frame of known pixels is painted, and then shown. -/
theorem drawFrame_of_known (fitted : window.Fitted palette width height)
    (right : pixels.length = width * height) (held : window.buffer = some old)
    (known : ∀ pixel ∈ pixels, pixel < 2) :
    ∃ new, palette.Overpainted pixels old new ∧
      window.drawFrame pixels =
        { window.recorded pixels with buffer := some new }.askAll (window.showing new) := by
  refine ⟨_, Palette.overpainted_shades known old, ?_⟩
  rw [fitted.drawFrame_of_present right held, paint_of_known known]

/-- The pixels in front of one that has no colour are painted, and nothing behind them. -/
theorem drawFrame_of_unknown (fitted : window.Fitted palette width height)
    {before rest : List UInt8} {pixel : UInt8}
    (right : (before ++ pixel :: rest).length = width * height)
    (held : window.buffer = some old) (known : ∀ pixel ∈ before, pixel < 2)
    (unknown : 2 ≤ pixel) :
    ∃ new, palette.Overpainted before old new ∧
      window.drawFrame (before ++ pixel :: rest) =
        ({ window.recorded (before ++ pixel :: rest) with buffer := some new },
          some .pixelValue) := by
  refine ⟨_, Palette.overpainted_shades known old, ?_⟩
  rw [fitted.drawFrame_of_present right held, paint_append known, paint_cons_of_le unknown]

theorem askAll (fitted : window.Fitted palette width height)
    (requested : List WindowSystem.Call) :
    (window.askAll requested).1.Fitted palette width height := by
  obtain ⟨calls, fault, asked⟩ := window.exists_askAll requested
  rw [asked]
  exact ⟨fitted.coloured, fitted.wide, fitted.high, fitted.sized, fitted.filled⟩

/-- A frame leaves the buffer as long as it was, if it is that of the resolution. -/
theorem drawFrame (fitted : window.Fitted palette width height) (pixels : List UInt8) :
    (window.drawFrame pixels).1.Fitted palette width height := by
  by_cases right : pixels.length = width * height
  case neg =>
    rw [fitted.drawFrame_of_length_ne right]
    exact fitted
  case pos =>
    cases held : window.buffer with
    | none =>
        rw [fitted.drawFrame_of_absent right held]
        exact ⟨fitted.coloured, fitted.wide, fitted.high, fitted.sized, fitted.filled⟩
    | some old =>
        obtain ⟨longer, shorter⟩ := length_paint palette pixels old
        -- Painted to the end or not, the buffer keeps its length.
        have repainted : Fitted
            { window.recorded pixels with buffer := some (paint palette pixels old).1 }
            palette width height := by
          refine ⟨fitted.coloured, fitted.wide, fitted.high, ?_, ?_⟩
          · intro counted
            have sized : Sized (width * height) (some old) := held ▸ fitted.sized counted
            have long : old.length = 3 * (width * height) := sized.2 old rfl
            apply sized.of_length_eq
            omega
          · intro empty
            have short : (paint palette pixels old).1 = [] := Option.some.inj empty
            rw [short, List.length_nil, Nat.le_zero, List.length_eq_zero_iff] at longer
            exact fitted.filled (longer ▸ held)
        rw [fitted.drawFrame_of_present right held]
        split
        next new fault painting =>
          rw [painting] at repainted
          exact repainted
        next new painting =>
          rw [painting] at repainted
          exact repainted.askAll _

theorem setResolution (fitted : window.Fitted palette width height) (wider higher : Nat) :
    (window.setResolution wider higher).1.Fitted palette wider higher := by
  by_cases counted : Counted (wider * higher)
  · rw [setResolution_of_counted window counted]
    exact ⟨fitted.coloured, rfl, rfl, fun _ => sized_blank _ _, blank_ne _ _⟩
  · rw [setResolution_of_not_counted window counted]
    exact ⟨fitted.coloured, rfl, rfl, fun few => absurd few counted, fitted.filled⟩

end Fitted

/-! ### Requests -/

/-- What a display is asked for, apart from titles. -/
inductive Request where
  | setResolution (width height : Nat)
  | drawFrame (pixels : List UInt8)
  deriving DecidableEq, Repr

/-- The window that a request leaves, and the fault of one that is refused. -/
def perform (window : Window) : Request → Window × Option Fault
  | .setResolution width height => window.setResolution width height
  | .drawFrame pixels => window.drawFrame pixels

/-- The window after requests. A request that is refused does not keep the next from its turn. -/
def after (window : Window) (requests : List Request) : Window :=
  requests.foldl (fun window request => (window.perform request).1) window

theorem mapError_bind_eq_ok {α β ε η : Type} {first : Except ε α} {blame : ε → η}
    {next : α → Except η β} {result : β} (succeeded : first.mapError blame >>= next = .ok result) :
    ∃ value, first = .ok value ∧ next value = .ok result := by
  cases first with
  | error fault => cases succeeded
  | ok value => exact ⟨value, rfl, succeeded⟩

theorem fitted_create {system : WindowSystem} {scale : Option (Entry Number)}
    {colours : Option (List ColourEntry)} {window : Window}
    (created : create system scale colours = .ok window) :
    paletteOf colours = .ok window.palette ∧ window.Fitted window.palette 0 0 := by
  obtain ⟨started, -, created⟩ := mapError_bind_eq_ok created
  obtain ⟨scale, -, created⟩ := mapError_bind_eq_ok created
  obtain ⟨opened, -, created⟩ := mapError_bind_eq_ok created
  obtain ⟨canvas, plain, created⟩ := mapError_bind_eq_ok created
  obtain ⟨palette, chosen, created⟩ := mapError_bind_eq_ok created
  obtain ⟨captioned, -, created⟩ := mapError_bind_eq_ok created
  obtain rfl := Canvas.eq_of_create plain
  obtain rfl := Except.ok.inj created
  exact ⟨chosen, rfl, rfl, rfl, fun _ => ⟨iff_of_true rfl rfl, nofun⟩, nofun⟩

theorem Fitted.perform {window : Window} {width height : Nat}
    (fitted : window.Fitted palette width height) (request : Request) :
    ∃ width height, (window.perform request).1.Fitted palette width height := by
  cases request with
  | setResolution wider higher => exact ⟨wider, higher, fitted.setResolution wider higher⟩
  | drawFrame pixels => exact ⟨width, height, fitted.drawFrame pixels⟩

theorem Fitted.after {window : Window} {width height : Nat}
    (fitted : window.Fitted palette width height) (requests : List Request) :
    ∃ width height, (window.after requests).Fitted palette width height := by
  induction requests generalizing window width height with
  | nil => exact ⟨width, height, fitted⟩
  | cons request rest ih =>
      obtain ⟨_, _, next⟩ := fitted.perform request
      exact ih next

/-- What becomes of the buffer of a window, whatever it has been asked for and whatever the window
system refuses.

The window has the colours it was given. If the bytes of its resolution can be counted, it has three
of them for each pixel, and no buffer if there are no pixels. A resolution that can be counted fills
the buffer with the colour of pixels that are off; another one fails, and all that it changes is the
resolution.

A frame of a wrong length is refused and changes nothing. One of the right length is recorded. If
there is a buffer, a frame of zeros and ones leaves its colours there, whatever the window system
makes of the picture. A pixel that is neither ends the painting of a frame: the pixels in front are
in the buffer, its bytes from there on are the old ones, and nothing is asked of the window system.
-/
theorem buffer_of_requests {system : WindowSystem} {scale : Option (Entry Number)}
    {colours : Option (List ColourEntry)} {window : Window}
    (created : create system scale colours = .ok window) (requests : List Request) :
    let reached := window.after requests
    let palette := reached.palette
    paletteOf colours = .ok palette ∧
      ∃ width height : Nat, reached.canvas.width = width ∧ reached.canvas.height = height ∧
        (Counted (width * height) → Sized (width * height) reached.buffer) ∧
        (∀ wider higher : Nat, Counted (wider * higher) →
          ∃ buffer, reached.setResolution wider higher =
              ({ reached with canvas := reached.canvas.setResolution wider higher, buffer },
                none) ∧
            Sized (wider * higher) buffer ∧
            ∀ bytes, buffer = some bytes →
              palette.Painted (List.replicate (wider * higher) 0) bytes) ∧
        (∀ wider higher : Nat, ¬ Counted (wider * higher) →
          reached.setResolution wider higher =
            ({ reached with canvas := reached.canvas.setResolution wider higher },
              some .beyondWords)) ∧
        (∀ pixels, pixels.length ≠ width * height →
          reached.drawFrame pixels = (reached, some .frameSize)) ∧
        (∀ pixels, pixels.length = width * height → reached.buffer = none →
          reached.drawFrame pixels = (reached.recorded pixels, none)) ∧
        (∀ pixels old, pixels.length = width * height → reached.buffer = some old →
          (∀ pixel ∈ pixels, pixel < 2) →
            ∃ new calls fault, palette.Overpainted pixels old new ∧
              reached.drawFrame pixels =
                ({ reached.recorded pixels with buffer := some new, calls }, fault) ∧
              { reached.recorded pixels with buffer := some new }.askAll (reached.showing new) =
                ({ reached.recorded pixels with buffer := some new, calls }, fault)) ∧
        (∀ before pixel rest old, (before ++ pixel :: rest).length = width * height →
          reached.buffer = some old → (∀ pixel ∈ before, pixel < 2) → 2 ≤ pixel →
            ∃ new, palette.Overpainted before old new ∧
              reached.drawFrame (before ++ pixel :: rest) =
                ({ reached.recorded (before ++ pixel :: rest) with buffer := some new },
                  some .pixelValue)) := by
  intro reached palette
  obtain ⟨chosen, fresh⟩ := fitted_create created
  obtain ⟨width, height, fitted⟩ := fresh.after requests
  have coloured : palette = window.palette := fitted.coloured
  rw [← coloured] at chosen fitted
  -- Nothing of what came before counts from here on, apart from what fits.
  refine ⟨chosen, width, height, fitted.wide, fitted.high, fitted.sized, ?counted, ?beyond, ?wrong,
    ?absent, ?known, ?unknown⟩
  case counted =>
    intro wider higher counted
    exact ⟨_, setResolution_of_counted reached counted, sized_blank palette _,
      fun bytes => painted_blank⟩
  case beyond =>
    intro wider higher many
    exact setResolution_of_not_counted reached many
  case wrong =>
    intro pixels wrong
    exact fitted.drawFrame_of_length_ne wrong
  case absent =>
    intro pixels right absent
    exact fitted.drawFrame_of_absent right absent
  case known =>
    intro pixels old right held known
    obtain ⟨new, overpainted, drawn⟩ := fitted.drawFrame_of_known right held known
    obtain ⟨calls, fault, asked⟩ :=
      exists_askAll { reached.recorded pixels with buffer := some new } (reached.showing new)
    exact ⟨new, calls, fault, overpainted, drawn.trans asked, asked⟩
  case unknown =>
    intro before pixel rest old right held known unknown
    exact fitted.drawFrame_of_unknown right held known unknown

/-- In a window of white on black a pixel of 2 ends the painting of a frame behind its first pixel.
The second one is still that of the frame before, from which a frame of one pixel has taken
nothing. -/
theorem buffer_of_requests_of_two_pixels :
    ∃ window, create .obliging none none = .ok window ∧
      let reached := window.after [.setResolution 2 1, .drawFrame [0, 1], .drawFrame [1]]
      reached.buffer = some [0x00, 0x00, 0x00, 0xFF, 0xFF, 0xFF] ∧
        ∃ new, reached.drawFrame [1, 2] =
            ({ reached.recorded [1, 2] with buffer := some new }, some .pixelValue) ∧
          reached.palette.Painted [1] new ∧ new[5]? = some 0xFF := by
  have created : create .obliging none none = .ok _ := rfl
  refine ⟨_, created, ?_⟩
  intro reached
  have buffer : reached.buffer = some [0x00, 0x00, 0x00, 0xFF, 0xFF, 0xFF] := by decide +kernel
  obtain ⟨-, width, height, wide, high, -, -, -, -, -, -, broken⟩ :=
    buffer_of_requests created [.setResolution 2 1, .drawFrame [0, 1], .drawFrame [1]]
  obtain rfl : 2 = width := Int.ofNat.inj wide
  obtain rfl : 1 = height := Int.ofNat.inj high
  have known : ∀ pixel ∈ [(1 : UInt8)], pixel < 2 := List.forall_mem_singleton.mpr (by decide)
  obtain ⟨new, overpainted, drawn⟩ := broken [1] 2 [] _ rfl buffer known (by decide)
  exact ⟨buffer, new, drawn, overpainted.painted, overpainted.kept 5 (by decide)⟩

/-- The pixels of a resolution are too many to be counted, and there is no buffer for them. -/
theorem buffer_of_resolution_beyond_words :
    ∃ window, create .obliging none none = .ok window ∧
      let (next, fault) := window.setResolution 0x8000000000000000 1
      fault = some .beyondWords ∧
        next.canvas.width * next.canvas.height ≠ 0 ∧ next.buffer = none := by
  refine ⟨_, rfl, ?_⟩
  decide +kernel

end Window

end Chip8
