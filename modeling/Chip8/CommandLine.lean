import Chip8.ClockSpeed.Reading
import Chip8.Colour.Reading
import Chip8.Display.Kind
import Chip8.Entry
import Chip8.Keymap

/-!
The command line: which options there are, how they are spelled and what they mean. One argument
that is no option names the program.
-/

namespace Chip8.CommandLine

/-! ### Options -/

inductive Switch where
  | help | clockSpeed | colour1 | colour2 | renderer | scale | keymap | debug
  deriving DecidableEq, Repr

/-- Every option, in the order in which they are listed. -/
def Switch.all : List Switch :=
  [.help, .clockSpeed, .colour1, .colour2, .renderer, .scale, .keymap, .debug]

/-- The spellings, short before long. -/
def Switch.spellings : Switch → List String
  | .help => ["-h", "--help"]
  | .clockSpeed => ["-c", "--clock_speed"]
  | .colour1 => ["--colour1"]
  | .colour2 => ["--colour2"]
  | .renderer => ["-r", "--renderer"]
  | .scale => ["-s", "--scale"]
  | .keymap => ["-k", "--keymap"]
  | .debug => ["-d", "--debug"]

/-- The option has a value. The others are flags. -/
def Switch.takesValue : Switch → Bool
  | .help | .debug => false
  | _ => true

/-- All spellings as one word. -/
def Switch.label (switch : Switch) : String := "/".intercalate switch.spellings

/-- Every spelling with its option. -/
def spelled : List (List Char × Switch) :=
  Switch.all.flatMap fun switch => switch.spellings.map fun name => (name.toList, switch)

/-! ### Settings -/

/-- What the options that were given come to. An option can be given without a usable value. -/
structure Options where
  filename : Option String := none
  clockSpeed : Entry Int := .value 500
  colour1 : Option (Entry Colour) := none
  colour2 : Option (Entry Colour) := none
  renderer : Option (Entry Display.Kind) := none
  scale : Option (Entry Int) := none
  keymap : Entry String := .value Keymap.standard
  debug : Bool := false
  deriving DecidableEq, Repr

/-! ### Refusals -/

inductive Fault where
  | ambiguous (argument : String) (candidates : List String)
  | valueMissing (switch : Switch)
  | valueIgnored (switch : Switch) (value : String)
  | clockSpeed (fault : ClockSpeed.Fault)
  | colour (switch : Switch) (value : String)
  | renderer (value : String)
  | scale (value : String)
  | filenameMissing
  | unrecognized (arguments : List String)
  deriving DecidableEq, Repr

/-- A complaint about an option. -/
private def about (switch : Switch) (complaint : String) : String :=
  "argument " ++ switch.label ++ ": " ++ complaint

def Fault.message : Fault → String
  | .ambiguous argument candidates =>
      "ambiguous option: " ++ argument ++ " could match " ++ ", ".intercalate candidates
  | .valueMissing switch => about switch "expected one argument"
  | .valueIgnored switch value => about switch ("ignored explicit argument " ++ Text.quoted value)
  | .clockSpeed fault => about .clockSpeed fault.message
  | .colour switch value => about switch (Colour.refusal value)
  | .renderer value => about .renderer
      ("invalid choice: " ++ Text.quoted value ++ " (choose from " ++
        ", ".intercalate (Display.Kind.all.map fun kind => Text.quoted kind.name) ++ ")")
  | .scale value => about .scale ("invalid int value: " ++ Text.quoted value)
  | .filenameMissing => "the following arguments are required: filename"
  | .unrecognized arguments => "unrecognized arguments: " ++ " ".intercalate arguments

/-- Why a reading of arguments ends before their end. -/
inductive Stop where
  | help
  | misuse (fault : Fault)
  deriving DecidableEq, Repr

/-! ### What an option does -/

/-- What a reading of a value comes to. A double dash is never read: attached to an option it is
dropped, and leaves it without a value. -/
def enter {α : Type} (value : String) (reading : Except Fault α) : Except Stop (Entry α) :=
  if value = "--" then .ok .unusable
  else (reading.map .value).mapError .misuse

def readColour (switch : Switch) (value : String) : Except Fault Colour :=
  match Colour.read? value with
  | some colour => .ok colour
  | none => .error (.colour switch value)

def readRenderer (value : String) : Except Fault Display.Kind :=
  match Display.Kind.named? value with
  | some kind => .ok kind
  | none => .error (.renderer value)

def readScale (value : String) : Except Fault Int :=
  match Text.readInt? value with
  | some scale => .ok scale
  | none => .error (.scale value)

/-- Puts an option with its value, which flags do not have, over the options so far. -/
def Options.give (options : Options) (switch : Switch) (value : String) : Except Stop Options := do
  match switch with
  | .help => throw .help
  | .debug => return { options with debug := true }
  | .clockSpeed =>
      let speed := (ClockSpeed.read value).mapError Fault.clockSpeed
      return { options with clockSpeed := ← enter value speed }
  | .colour1 =>
      return { options with colour1 := some (← enter value (readColour switch value)) }
  | .colour2 =>
      return { options with colour2 := some (← enter value (readColour switch value)) }
  | .renderer => return { options with renderer := some (← enter value (readRenderer value)) }
  | .scale => return { options with scale := some (← enter value (readScale value)) }
  | .keymap => return { options with keymap := ← enter value (.ok value) }

end Chip8.CommandLine
