import Chip8.Session.Launch

/-!
The command line program. It plays without a window, by the clock of the system, until a fault
ends it.
-/

namespace Chip8

/-- A source whose answers are fixed by a seed. -/
def seededSource (seed : Nat) : RandomSource where
  answer position := (randNat (mkStdGen (seed + position)) 0 0xFF).1
  requests := []

/-- The content of a file of the system. -/
def readProgram (path : String) : IO (Except Folder.Fault (List UInt8)) := do
  try
    return .ok (← IO.FS.readBinFile path).toList
  catch error =>
    match error with
    | .noFileOrDirectory .. => return .error (.notFound path)
    | .inappropriateType .. => return .error (.isDirectory path)
    | _ => return .error (.notDirectory path)

/-- Takes turns of a host by the clock of the system, until one of them ends the run. -/
partial def drive (host : Host Canvas HandKeys) : IO Host.RunEnd := do
  let time := Float.ofNat (← IO.monoNanosNow) / 1000000000.0
  let (host, line, ending) := host.turn time
  if let some line := line then
    IO.println line
  match ending with
  | some ending => return ending
  | none => drive host

/-- Plays a program without a window. -/
def playFile (settings : Settings) (path : String) : IO Session.Ending := do
  let random := seededSource (← IO.rand 0 0xFFFFFFFF)
  let content ← readProgram path
  match Session.prepareWith settings none random (content.mapError .file) with
  | .error fault => return .failed fault
  | .ok prepared =>
      match Session.equipHeadless settings with
      | .error outcome => return outcome.ending
      | .ok (canvas, keys) =>
          match Host.build prepared.machine keys canvas prepared.clockSpeed with
          | .error fault => return .failed (.build fault)
          | .ok host => return Session.endingOf (← drive host)

/-- The exit code of a session, whose fault is written first. -/
def exitCode : Session.Ending → IO UInt32
  | .returned | .clockStopped => return 0
  | .failed fault => do
      IO.eprintln (fault.exitText.getD fault.message)
      return 1

end Chip8

def main (arguments : List String) : IO UInt32 := do
  match Chip8.CommandLine.read arguments with
  | .error .help =>
      IO.print Chip8.CommandLine.helpText
      return 0
  | .error (.misuse fault) =>
      IO.eprintln ("chipotto: error: " ++ fault.message)
      return 2
  | .ok options =>
      IO.println Chip8.Banner.line
      let settings := Chip8.Session.settingsOf options
      let ending ← Chip8.playFile settings (options.filename.getD "")
      Chip8.exitCode ending
