import Chip8.CommandLine

/-!
Arguments sorted into words: plain text, options, and the double dash behind which all is plain.
An argument is an option if it starts with a dash and is longer than that, unless it looks like a
negative number or has a space in it; but what spells a known option always is one. Long options
may be cut short as long as only one is meant.
-/

namespace Chip8.CommandLine

inductive Word where
  | plain (text : String)
  | doubleDash
  /-- A known option, by a short spelling or not, with the value attached to it. -/
  | option (switch : Switch) (short : Bool) (attached : Option (List Char))
  /-- An option that is not known. -/
  | unknown (text : String)
  deriving DecidableEq, Repr

/-- The option of a whole spelling. -/
def named? (name : List Char) : Option Switch := spelled.lookup name

/-- A short spelling has a letter behind the dash. -/
def isShort (name : List Char) : Bool := name[1]? != some '-'

/-- The text before the first equals sign, and the text behind it if there is one. -/
def splitAtEquals (text : List Char) : List Char × Option (List Char) :=
  match text.dropWhile (· != '=') with
  | [] => (text, none)
  | _ :: value => (text.takeWhile (· != '='), some value)

/-- The text is a dash and a decimal number, with or without a fraction. A line break at the end
does not matter. -/
def looksNegative (text : List Char) : Bool :=
  match text with
  | '-' :: rest =>
      let number := if rest.getLast? = some '\n' then rest.dropLast else rest
      let isDigit (c : Char) : Bool := (Text.digitValue? c).isSome
      let behind := number.dropWhile isDigit
      match behind with
      | [] => !number.isEmpty
      | '.' :: fraction => !fraction.isEmpty && fraction.all isDigit
      | _ => false
  | _ => false

/-- The known options that an argument of at least two characters may mean, each with its
spelling and the value attached to it. -/
def candidates (text : List Char) : List (List Char × Switch × Option (List Char)) :=
  if isShort text then
    (spelled.filter fun (name, _) => name == text.take 2).map fun (name, switch) =>
      (name, switch, some (text.drop 2))
  else
    let (start, value) := splitAtEquals text
    (spelled.filter fun (name, _) => start.isPrefixOf name).map fun (name, switch) =>
      (name, switch, value)

/-- The word of an argument before any double dash. -/
def wordOf (argument : String) : Except Fault Word :=
  let text := argument.toList
  let (name, value) := splitAtEquals text
  if text.head? ≠ some '-' then .ok (.plain argument)
  else match named? text with
  | some switch => .ok (.option switch (isShort text) none)
  | none =>
      if text.length = 1 then .ok (.plain argument)
      else match value, named? name with
      | some value, some switch => .ok (.option switch (isShort name) (some value))
      | _, _ => match candidates text with
        | [(name, switch, value)] => .ok (.option switch (isShort name) value)
        | [] =>
            if looksNegative text || text.contains ' ' then .ok (.plain argument)
            else .ok (.unknown argument)
        | several =>
            .error (.ambiguous argument (several.map fun (name, _) => String.ofList name))

/-- The words of arguments. The first double dash makes all behind it plain. -/
def wordsOf : List String → Except Fault (List Word)
  | [] => .ok []
  | argument :: rest =>
      if argument = "--" then .ok (.doubleDash :: rest.map .plain)
      else return (← wordOf argument) :: (← wordsOf rest)

end Chip8.CommandLine
