import Chip8.Display

/-!
The kinds of display that a user can name.
-/

namespace Chip8.Display

inductive Kind where
  | window
  | headless
  deriving DecidableEq, Repr

namespace Kind

/-- Every kind once, in the order in which they are offered. -/
def all : List Kind := [.window, .headless]

def name : Kind → String
  | .window => "pygame"
  | .headless => "null"

/-- The kind of a name. -/
def named? (name : String) : Option Kind := all.find? fun kind => kind.name = name

end Kind

end Chip8.Display
