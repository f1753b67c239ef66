import Chip8.Number

/-!
A window system, from outside. What it does when it is asked for something is its own affair: all
that a window knows is what it has asked for, and what went wrong. So a window system is any
function that tells the trouble with a call from the calls before it.
-/

namespace Chip8

namespace WindowSystem

/-- What is asked of a window system. -/
inductive Call where
  | start
  /-- A window of a size. -/
  | window (width height : Number)
  /-- A picture from its bytes, three a pixel, row by row. -/
  | picture (bytes : List UInt8) (width height : Int)
  /-- The picture enlarged to a size. -/
  | enlarge (width height : Number)
  /-- The enlarged picture in the top left corner of the window. -/
  | place
  /-- The window as it is now, for the user to see. -/
  | flip
  | caption (text : String)
  | stop
  deriving DecidableEq, Repr

/-- What goes wrong with a call, for a reason in the words of the window system. -/
inductive Trouble where
  | refused (reason : String)
  /-- A value is of a kind that the system does not take. -/
  | wrongType (reason : String)
  /-- A value is of the right kind, and not one that the system takes. -/
  | wrongValue (reason : String)
  deriving DecidableEq, Repr

def Trouble.message : Trouble → String
  | .refused reason | .wrongType reason | .wrongValue reason => reason

end WindowSystem

structure WindowSystem where
  /-- The trouble with a call, if there is any, after the calls before it, oldest first. -/
  trouble? : (earlier : List WindowSystem.Call) → (call : WindowSystem.Call) →
    Option WindowSystem.Trouble

namespace WindowSystem

/-- A window system that does what it is asked for. -/
def obliging : WindowSystem := { trouble? := fun _ _ => none }

/-- Makes a call. The answer is the calls that have been made then. -/
def request (system : WindowSystem) (earlier : List Call) (call : Call) :
    Except Trouble (List Call) :=
  match system.trouble? earlier call with
  | some trouble => .error trouble
  | none => .ok (earlier ++ [call])

end WindowSystem

end Chip8
