import Chip8.CommandLine.Word

/-!
Reading a command line word by word. Options act in the order in which they stand, so the first
refusal or call for help wins, and the last of a repeated option counts. The first plain word names
the program; further plain words and unknown options are kept, and are refused at the end.
-/

namespace Chip8.CommandLine

/-- An option and the flags that are bundled in front of it. -/
structure Bundle where
  flags : List Switch
  last : Switch
  /-- The value attached to the last option. -/
  attached : Option String
  deriving DecidableEq, Repr

/-- Takes apart what is attached to a short flag: each character is one more short option, up to
one that takes the rest as its value. Nothing can be attached to a flag by an equals sign or to a
long one. -/
def bundle (switch : Switch) (short : Bool) (attached : List Char) : Except Fault Bundle :=
  if switch.takesValue then
    .ok { flags := [], last := switch, attached := some (String.ofList attached) }
  else
    match attached with
    | [] => .error (.valueIgnored switch "")
    | c :: rest =>
        match short, named? ['-', c], rest with
        | true, some next, [] => .ok { flags := [switch], last := next, attached := none }
        | true, some next, _ :: _ => do
            let inner ← bundle next true rest
            return { inner with flags := switch :: inner.flags }
        | _, _, _ => .error (.valueIgnored switch (String.ofList attached))

def bundleOf (switch : Switch) (short : Bool) : Option (List Char) → Except Fault Bundle
  | none => .ok { flags := [], last := switch, attached := none }
  | some attached => bundle switch short attached

/-- What the words before leave to the next one. -/
inductive Stance where
  | ready
  /-- The word before named the program. -/
  | named
  /-- The last option of a bundle takes its value from the next word. -/
  | awaits (bundle : Bundle)
  deriving DecidableEq, Repr

/-- What has been read so far: the options, and the words that nothing took. -/
structure Progress where
  options : Options := {}
  extras : List String := []
  stance : Stance := .ready
  deriving DecidableEq, Repr

/-- Lets a bundle act, with the value of its last option. -/
def Progress.give (progress : Progress) (bundle : Bundle) (value : String) :
    Except Stop Progress := do
  let options ← bundle.flags.foldlM (fun options flag => options.give flag "") progress.options
  return { progress with options := ← options.give bundle.last value, stance := .ready }

/-- Keeps a word that nothing takes. -/
def Progress.leave (progress : Progress) (text : String) : Progress :=
  { progress with extras := progress.extras ++ [text], stance := .ready }

/-- Takes a plain word as the name of the program, if it has none yet. -/
def Progress.name (progress : Progress) (text : String) : Progress :=
  if progress.options.filename.isNone then
    { progress with
      options := { progress.options with filename := some text }
      stance := .named }
  else
    progress.leave text

/-- Reads one word. A double dash before the name of the program or right behind it belongs to
the name. -/
def readWord (progress : Progress) (word : Word) : Except Stop Progress :=
  match progress.stance, word with
  | .awaits bundle, .plain value => progress.give bundle value
  | .awaits bundle, _ => .error (.misuse (.valueMissing bundle.last))
  | _, .plain text => .ok (progress.name text)
  | _, .unknown text => .ok (progress.leave text)
  | .named, .doubleDash => .ok { progress with stance := .ready }
  | .ready, .doubleDash =>
      if progress.options.filename.isNone then .ok progress else .ok (progress.leave "--")
  | _, .option switch short attached =>
      match bundleOf switch short attached with
      | .error fault => .error (.misuse fault)
      | .ok bundle =>
          match bundle.last.takesValue, bundle.attached with
          | false, _ => progress.give bundle ""
          | true, some value => progress.give bundle value
          | true, none => .ok { progress with stance := .awaits bundle }

/-- What the words come to at their end. -/
def Progress.finish (progress : Progress) : Except Fault Options :=
  match progress.stance with
  | .awaits bundle => .error (.valueMissing bundle.last)
  | .ready | .named =>
      if progress.options.filename.isNone then .error .filenameMissing
      else if progress.extras ≠ [] then .error (.unrecognized progress.extras)
      else .ok progress.options

/-- Reads the arguments of a command line. All of them are sorted into words before any option
acts. -/
def read (arguments : List String) : Except Stop Options := do
  let words ← (wordsOf arguments).mapError .misuse
  let progress ← words.foldlM readWord {}
  progress.finish.mapError .misuse

end Chip8.CommandLine
