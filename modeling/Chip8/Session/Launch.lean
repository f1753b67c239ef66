import Chip8.CommandLine.Help
import Chip8.CommandLine.Reading
import Chip8.Session

/-!
A session started from a command line. A fault of the running program ends it with the report of
the crash, and every other expected fault with a line of explanation.
-/

namespace Chip8.Session

/-- The name of a display that an option asks for. Without a usable value it is a pair of brackets
with nothing in between. -/
def rendererName : Entry Display.Kind → String
  | .value kind => kind.name
  | .unusable => "[]"

/-- The settings that options stand for. A colour or a keymap without a usable value is none. -/
def settingsOf (options : CommandLine.Options) : Settings where
  filename := .value (options.filename.getD "")
  renderer := options.renderer.map rendererName
  clockSpeed := some (options.clockSpeed.map Number.whole)
  offColour := (options.colour1.bind Entry.value?).map Settings.entryOf
  onColour := (options.colour2.bind Entry.value?).map Settings.entryOf
  tracing := options.debug
  scale := options.scale.map (Entry.map Number.whole)
  keymap := options.keymap.value?.map .value

/-- Making a display fails for a reason that a user can mend, or a frame has the wrong size. -/
private def isDisplayTrouble : Display.Fault → Bool
  | .colourCount | .colourComponents | .frameSize | .noWindow _ => true
  | .colourUnusable | .scaleUnusable | .system _ | .beyondWords | .pixelValue => false

private def isHostTrouble : Host.Fault → Bool
  | .machine failure => failure.fault.isCrash
  | .display fault => isDisplayTrouble fault
  | .beyondDoubles => false

/-- The fault is one of those that are explained to the user. -/
def Fault.isExpected : Fault → Bool
  | .noWindows | .unknownRenderer _ | .clockSpeedNotPositive | .keymap _ => true
  | .file .nullCharacter | .clockSpeedUnusable | .filenameUnusable | .keymapUnusable => false
  | .file _ => true
  | .machine fault => fault.isCrash
  | .display fault => isDisplayTrouble fault
  | .build (.host fault) | .host fault => isHostTrouble fault
  | .build .clockSpeedNotPositive => false

/-- The report of the crash, if the fault is one of a running program. -/
def Fault.report? : Fault → Option String
  | .build (.host (.machine failure)) | .host (.machine failure) => failure.report
  | _ => none

/-- The text with which a fault ends the program. A fault that is not expected has none. -/
def Fault.exitText (fault : Fault) : Option String :=
  if fault.isExpected then
    match fault.report? with
    | some report => some (report ++ "\n\n" ++ fault.message)
    | none => some ("Error: " ++ fault.message)
  else
    none

inductive Launch where
  /-- The help was asked for. -/
  | help
  /-- The command line was refused. -/
  | misuse (fault : CommandLine.Fault)
  | played (outcome : Outcome)

/-- Reads a command line and plays the session it asks for. -/
def launch (arguments : List String) (around : Surroundings) : Launch :=
  match CommandLine.read arguments with
  | .error .help => .help
  | .error (.misuse fault) => .misuse fault
  | .ok options => .played (run (settingsOf options) around)

end Chip8.Session
