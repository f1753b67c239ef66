import Chip8.Display.Kind
import Chip8.Display.Window
import Chip8.Folder
import Chip8.Host.Run
import Chip8.Keyboard
import Chip8.Machine.Operation

/-!
A session from its settings to its end. The settings are checked and the program is read and loaded
before a display is made; then come the display, the keys and the host, which runs by a clock. Once
the keys are there, keys and display are closed whatever becomes of the host, in this order.
-/

namespace Chip8

/-- What a session is asked for. Where nothing is entered the standard value is used; no
components at all are no colour, and an empty text is no keymap. -/
structure Settings where
  filename : Entry String
  /-- The name of a display. -/
  renderer : Option String := none
  clockSpeed : Option (Entry ClockSpeed) := none
  offColour : Option ColourEntry := none
  onColour : Option ColourEntry := none
  tracing : Bool := false
  scale : Option (Entry Number) := none
  keymap : Option (Entry String) := none
  deriving Repr

namespace Settings

/-- A colour as it can be entered. -/
def entryOf (colour : Colour) : ColourEntry :=
  .value (colour.toComponents.map fun component => .value (.whole component))

def colours (settings : Settings) : List ColourEntry :=
  let orElse (colour : Option ColourEntry) (standard : Colour) : ColourEntry :=
    match colour with
    | none | some (.value []) => entryOf standard
    | some entry => entry
  [orElse settings.offColour Palette.standard.off, orElse settings.onColour Palette.standard.on]

def keymapText (settings : Settings) : Entry String :=
  match settings.keymap with
  | none | some (.value "") => .value Keymap.standard
  | some entry => entry

end Settings

namespace Session

/-! ### Faults -/

inductive Fault where
  /-- Windows are not to be had. -/
  | noWindows
  | unknownRenderer (name : String)
  | clockSpeedNotPositive
  /-- What was entered for the clock speed is no number. -/
  | clockSpeedUnusable
  /-- What was entered for the program is no path. -/
  | filenameUnusable
  /-- What was entered for the keymap is no text. -/
  | keymapUnusable
  | file (fault : Folder.Fault)
  | machine (fault : Machine.Fault)
  | display (fault : Display.Fault)
  | keymap (fault : Keymap.Fault)
  | build (fault : Host.BuildFault)
  | host (fault : Host.Fault)
  deriving DecidableEq, Repr

def Fault.message : Fault → String
  | .noWindows => "PyGame does not appear to be installed.  Use the 'null' renderer to " ++
      "run without a display."
  | .unknownRenderer name => "Unknown renderer: " ++ name
  | .clockSpeedNotPositive => "Clock speed must be a positive number of operations per second."
  | .clockSpeedUnusable => "The clock speed is no number"
  | .filenameUnusable => "The name of the program is no path"
  | .keymapUnusable => "The keymap is no text"
  | .file fault => fault.message
  | .machine fault => fault.message
  | .display fault => fault.message
  | .keymap fault => fault.message
  | .build fault => fault.message
  | .host fault => fault.message

/-! ### Preparing -/

/-- What a display is made with. -/
inductive Means where
  | headless
  | window (system : WindowSystem)

/-- What the display of a name is made with. A window is made if nothing is asked for. -/
def meansOf (name : Option String) (windows : Option WindowSystem) : Except Fault Means :=
  let name := name.getD Display.Kind.window.name
  match Display.Kind.named? name, windows with
  | some .window, some system => .ok (.window system)
  | some .window, none => .error .noWindows
  | some .headless, _ => .ok .headless
  | none, _ => .error (.unknownRenderer name)

def clockSpeed (wanted : Option (Entry ClockSpeed)) : Except Fault ClockSpeed :=
  match wanted with
  | none => .ok (.whole Host.defaultClockSpeed)
  | some .unusable => .error .clockSpeedUnusable
  | some (.value speed) => if speed.isPositive then .ok speed else .error .clockSpeedNotPositive

/-- The content of the file that was entered. -/
def readFile (folder : Folder) (filename : Entry String) : Except Fault (List UInt8) :=
  match filename with
  | .unusable => .error .filenameUnusable
  | .value path => (folder.read path).mapError .file

def readKeymap (text : Entry String) : Except Fault Keymap :=
  match text with
  | .unusable => .error .keymapUnusable
  | .value text => (Keymap.read text).mapError .keymap

/-- A machine with a program. -/
def machineWith (program : List UInt8) (random : RandomSource) (tracing : Bool) :
    Except Fault Machine :=
  match (Machine.fresh random tracing).loadProgram program with
  | (machine, none) => .ok machine
  | (_, some fault) => .error (.machine fault)

/-- What a session finds around it. -/
structure Surroundings where
  folder : Folder
  random : RandomSource
  clock : Clock
  /-- Events of the keyboard, each with the reading of the clock before which it comes. -/
  events : List (Int × Keyboard.Event) := []
  /-- Where windows come from, if they are to be had. -/
  windows : Option WindowSystem := none

/-- Everything that needs no display. -/
structure Prepared where
  means : Means
  clockSpeed : ClockSpeed
  machine : Machine

/-- Prepares a session for the content of its file. -/
def prepareWith (settings : Settings) (windows : Option WindowSystem) (random : RandomSource)
    (content : Except Fault (List UInt8)) : Except Fault Prepared := do
  let means ← meansOf settings.renderer windows
  let clockSpeed ← clockSpeed settings.clockSpeed
  let program ← content
  let machine ← machineWith program random settings.tracing
  return { means, clockSpeed, machine }

def prepare (settings : Settings) (around : Surroundings) : Except Fault Prepared :=
  prepareWith settings around.windows around.random (readFile around.folder settings.filename)

/-! ### Playing -/

/-- What happens to display and keys in the course of a session. -/
inductive Milestone where
  | windowOpened
  | displayMade
  | keysMade
  | keysClosed
  | displayClosed
  deriving DecidableEq, Repr

/-- The host of a session, as it was left, with one display or the other. -/
inductive Left where
  | nothing
  | headless (host : Host Canvas HandKeys)
  | window (host : Host Window Keyboard)

inductive Ending where
  | returned
  | clockStopped
  | failed (fault : Fault)
  deriving DecidableEq, Repr

structure Outcome where
  ending : Ending
  /-- The lines that were written. -/
  lines : List String
  /-- Readings of the clock that returned. -/
  readings : Nat := 0
  milestones : List Milestone := []
  left : Left := .nothing

/-- A window was opened and never closed. -/
def Outcome.leavesWindow (outcome : Outcome) : Bool :=
  outcome.milestones.contains .windowOpened && !outcome.milestones.contains .displayClosed

/-- An end before there was a host. -/
def Outcome.early (milestones : List Milestone) (fault : Fault) : Outcome :=
  { ending := .failed fault, lines := [Banner.line], milestones }

def endingOf : Host.RunEnd → Ending
  | .quit => .returned
  | .clockStopped => .clockStopped
  | .failed fault => .failed (.host fault)

/-- Builds a host around a display and keys that have been made, and runs it by a clock. -/
def play {δ σ : Type} [Display δ] [KeySource σ] (prepared : Prepared) (clock : Clock)
    (arrive : Nat → σ → σ) (left : Host δ σ → Left) (milestones : List Milestone) (display : δ)
    (keys : σ) : Outcome :=
  match Host.build prepared.machine keys display prepared.clockSpeed with
  | .error fault => .early milestones (.build fault)
  | .ok host =>
      let run := host.run clock arrive
      { ending := endingOf run.ending
        lines := Banner.line :: run.lines.toList
        readings := run.readings
        milestones
        left := left run.host }

/-- Closes the window of a host that was left with one. -/
def Left.close : Left → Left
  | .window host => .window { host with display := host.display.close }
  | .headless host => .headless host
  | .nothing => .nothing

/-- Closes the keys and then the display, in whatever way the session has ended. -/
def Outcome.close (outcome : Outcome) : Outcome :=
  { outcome with
    milestones := outcome.milestones ++ [.keysClosed, .displayClosed]
    left := outcome.left.close }

/-- Display and keys of a session without a window, or its outcome if it ends before they are
made. -/
def equipHeadless (settings : Settings) : Except Outcome (Canvas × HandKeys) :=
  match Canvas.create (settings.scale.bind Entry.value?) (some settings.colours) with
  | .error fault => .error (.early [] (.display fault))
  | .ok canvas =>
      match readKeymap settings.keymapText with
      | .error fault => .error (.early [.displayMade] fault)
      | .ok _ => .ok (canvas, {})

def playHeadless (settings : Settings) (prepared : Prepared) (clock : Clock) : Outcome :=
  match equipHeadless settings with
  | .error outcome => outcome
  | .ok (canvas, keys) =>
      (play prepared clock (fun _ keys => keys) .headless [.displayMade, .keysMade] canvas
        keys).close

/-- The keyboard with the events of a reading of the clock behind those that wait. -/
def deliver (events : List (Int × Keyboard.Event)) (reading : Nat) (keyboard : Keyboard) :
    Keyboard :=
  (events.filter fun (due, _) => due = reading).foldl
    (fun keyboard (_, event) => keyboard.post event) keyboard

def playWindow (settings : Settings) (prepared : Prepared) (system : WindowSystem) (clock : Clock)
    (events : List (Int × Keyboard.Event)) : Outcome :=
  match Window.create system settings.scale (some settings.colours) with
  | .error refusal =>
      .early (if refusal.opened then [.windowOpened] else []) (.display refusal.fault)
  | .ok window =>
      match readKeymap settings.keymapText with
      | .error fault => .early [.windowOpened, .displayMade] fault
      | .ok keymap =>
          (play prepared clock (deliver events) .window [.windowOpened, .displayMade, .keysMade]
            window ({ keymap } : Keyboard)).close

/-- A whole session. The first line that is written names the program. -/
def run (settings : Settings) (around : Surroundings) : Outcome :=
  match prepare settings around with
  | .error fault => .early [] fault
  | .ok prepared =>
      match prepared.means with
      | .headless => playHeadless settings prepared around.clock
      | .window system => playWindow settings prepared system around.clock around.events

end Session

end Chip8
